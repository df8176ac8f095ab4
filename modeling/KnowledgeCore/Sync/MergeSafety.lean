import Mathlib.Data.List.Lattice
import KnowledgeCore.SyncMerge

/-!
# What the merge policies take for safe

The four policies judge the same two change sets by what they have in common and by the flags
of a context, and the later ones look at more flags. None of them depends on how the change sets
are listed, or on which of them is the local one.
-/

namespace KnowledgeCore

namespace SyncMerge

/-! ### Lists in normal form -/

/-- A change set lists the members of another one in order and without repetition. -/
structure Lists (norm set : SyncMergeChangeSetV1) : Prop where
  objects : ∀ h, h ∈ norm.objectHashes ↔ h ∈ set.objectHashes
  overlays : ∀ o, o ∈ norm.lineageOverlayIds ↔ o ∈ set.lineageOverlayIds
  objectsInOrder : norm.objectHashes.Pairwise (· < ·)
  overlaysInOrder : norm.lineageOverlayIds.Pairwise (· < ·)

/-- Two change sets with the same members. -/
def SameMembers (a b : SyncMergeChangeSetV1) : Prop :=
  (∀ h, h ∈ a.objectHashes ↔ h ∈ b.objectHashes)
    ∧ ∀ o, o ∈ a.lineageOverlayIds ↔ o ∈ b.lineageOverlayIds

/-- The change set with both lists in normal form. -/
def normal (set : SyncMergeChangeSetV1) : SyncMergeChangeSetV1 where
  objectHashes := sortedSet set.objectHashes
  lineageOverlayIds := sortedSet set.lineageOverlayIds

/-- The members that two change sets share. -/
def inter (a b : SyncMergeChangeSetV1) : SyncMergeChangeSetV1 where
  objectHashes := a.objectHashes ∩ b.objectHashes
  lineageOverlayIds := a.lineageOverlayIds ∩ b.lineageOverlayIds

theorem pairwise_sortedSet (l : List String) : (sortedSet l).Pairwise (· < ·) := by
  have hsorted : (sortedSet l).Pairwise (· ≤ ·) := List.pairwise_insertionSort _ _
  have hnodup : (sortedSet l).Nodup :=
    (List.perm_insertionSort _ _).nodup_iff.mpr (List.nodup_dedup l)
  apply (hsorted.and hnodup).imp
  rintro a b ⟨hle, hne⟩
  exact Std.lt_of_le_of_ne hle hne

theorem lists_normal (set : SyncMergeChangeSetV1) : Lists (normal set) set := by
  constructor
  · simp [normal]
  · simp [normal]
  · apply pairwise_sortedSet
  · apply pairwise_sortedSet

/-- Lists in normal form are told apart by their members. -/
theorem Lists.eq {norm norm' set set' : SyncMergeChangeSetV1} (h : Lists norm set)
    (h' : Lists norm' set') (hsame : SameMembers set set') :
  norm = norm'
  := by
  have hobjects : norm.objectHashes = norm'.objectHashes := by
    apply h.objectsInOrder.eq_of_mem_iff h'.objectsInOrder
    intro hash
    rw [h.objects, h'.objects, hsame.1]
  have hoverlays : norm.lineageOverlayIds = norm'.lineageOverlayIds := by
    apply h.overlaysInOrder.eq_of_mem_iff h'.overlaysInOrder
    intro overlayId
    rw [h.overlays, h'.overlays, hsame.2]
  cases norm
  cases norm'
  cases hobjects
  cases hoverlays
  rfl

theorem SameMembers.normal_eq {a b : SyncMergeChangeSetV1} (h : SameMembers a b) :
  normal a = normal b
  := (lists_normal a).eq (lists_normal b) h

theorem lists_overlap (a b : SyncMergeChangeSetV1) :
  Lists (overlap (normal a) (normal b)) (inter a b)
  := by
  constructor
  · simp [overlap, normal, inter]
  · simp [overlap, normal, inter]
  · apply (pairwise_sortedSet _).filter
  · apply (pairwise_sortedSet _).filter

theorem overlap_comm (a b : SyncMergeChangeSetV1) :
  overlap (normal a) (normal b) = overlap (normal b) (normal a)
  := by
  apply (lists_overlap a b).eq (lists_overlap b a)
  constructor
  · simp [inter, and_comm]
  · simp [inter, and_comm]

theorem WellFormed.normalizeChangeSet_eq {set : SyncMergeChangeSetV1} (h : WellFormed set)
    (side : String) :
  normalizeChangeSet set side = .ok (normal set)
  := by
  rw [normalizeChangeSet, checkObjectHashes_eq_ok.mpr h.1, checkOverlayIds_eq_ok.mpr h.2]
  rfl

theorem WellFormed.of_sameMembers {a b : SyncMergeChangeSetV1} (hb : WellFormed b)
    (h : SameMembers a b) :
  WellFormed a
  := by
  constructor
  · intro hash hmem
    exact hb.1 hash ((h.1 hash).mp hmem)
  · intro overlayId hmem
    exact hb.2 overlayId ((h.2 overlayId).mp hmem)

/-- The preview of well-formed change sets is made from their normal forms. -/
theorem Policy.preview_eq (policy : Policy) {a b : SyncMergeChangeSetV1} (ha : WellFormed a)
    (hb : WellFormed b) (ctx : SyncMergeContextV2) (nowMs : Int64) :
  ∃ report, policy.preview a b ctx nowMs = .ok report
    ∧ report.localSet = normal a ∧ report.remoteSet = normal b
    ∧ report.overlap = overlap (normal a) (normal b)
    ∧ report.reasons = policy.reasons (overlap (normal a) (normal b)) ctx
    ∧ report.safe = policy.safe (policy.reasons (overlap (normal a) (normal b)) ctx)
  := by
  rw [Policy.preview, ha.normalizeChangeSet_eq, hb.normalizeChangeSet_eq]
  exact ⟨_, rfl, rfl, rfl, rfl, rfl, rfl⟩

/-! ### What a policy judges by -/

/-- The policy takes a merge for safe exactly when nothing overlaps and none of its flags is
set. -/
def Policy.JudgesBy (policy : Policy) (flagged : SyncMergeContextV2 → Bool) : Prop :=
  ∀ common ctx, policy.safe (policy.reasons common ctx) = true
    ↔ (common.objectHashes = [] ∧ common.lineageOverlayIds = []) ∧ flagged ctx = false

theorem conservative_judgesBy : conservative.JudgesBy fun _ => false := by
  intro common ctx
  simp [conservative, sortReasons_eq_nil]

theorem conservativePlusV2_judgesBy :
  conservativePlusV2.JudgesBy fun ctx => ctx.trustChainMismatch || ctx.lockConflict
  := by
  intro common ctx
  simp [conservativePlusV2, sortReasons_eq_nil, and_assoc]

/-- The reason for a safe merge is the only one exactly when there is no other one. -/
theorem reasonsOrSafe_iff {objects overlays trust lock rbac safe : String}
    {common : SyncMergeChangeSetV1} {ctx : SyncMergeContextV2}
    (hne : safe ∉ [objects, overlays, trust, lock, rbac]) :
  reasonsOrSafe objects overlays trust lock rbac safe common ctx = [safe]
    ↔ (common.objectHashes = [] ∧ common.lineageOverlayIds = [])
      ∧ (ctx.trustChainMismatch || ctx.lockConflict || ctx.rbacConflict) = false
  := by
  rw [reasonsOrSafe]
  split
  · next hnil =>
    simpa [and_assoc] using hnil
  · next hsome =>
    constructor
    · intro h
      exfalso
      apply hne
      have hmem := List.mem_singleton_self safe
      rw [← h] at hmem
      simp only [List.mem_append, reasonIf] at hmem
      grind
    · rintro ⟨⟨hobjects, hoverlays⟩, hflags⟩
      exfalso
      apply hsome
      simp only [Bool.or_eq_false_iff] at hflags
      simp [hobjects, hoverlays, hflags]

theorem conservativePlusV3_judgesBy :
  conservativePlusV3.JudgesBy
    fun ctx => ctx.trustChainMismatch || ctx.lockConflict || ctx.rbacConflict
  := by
  intro common ctx
  dsimp only [conservativePlusV3]
  rw [decide_eq_true_eq]
  apply reasonsOrSafe_iff (by decide)

theorem conservativePlusV4_judgesBy :
  conservativePlusV4.JudgesBy
    fun ctx => ctx.trustChainMismatch || ctx.lockConflict || ctx.rbacConflict
  := by
  intro common ctx
  dsimp only [conservativePlusV4]
  rw [decide_eq_true_eq]
  apply reasonsOrSafe_iff (by decide)

theorem overlap_eq_nil_iff {a b : SyncMergeChangeSetV1} :
  (overlap (normal a) (normal b)).objectHashes = []
      ∧ (overlap (normal a) (normal b)).lineageOverlayIds = []
    ↔ Disjoint a b
  := by
  simp [overlap, normal, Disjoint]

/-! ### The four policies -/

inductive MergePolicy
  | conservativeV1
  | conservativePlusV2
  | conservativePlusV3
  | conservativePlusV4

namespace MergePolicy

/-- The preview of a policy. The first one takes no context. -/
def preview (p : MergePolicy) (localSet remoteSet : SyncMergeChangeSetV1)
    (ctx : SyncMergeContextV2) (nowMs : Int64) : AppResult SyncMergePreviewReport
  :=
  match p with
  | conservativeV1 => mergePreviewConservative localSet remoteSet nowMs
  | conservativePlusV2 => mergePreviewConservativePlusV2 localSet remoteSet ctx nowMs
  | conservativePlusV3 => mergePreviewConservativePlusV3 localSet remoteSet ctx nowMs
  | conservativePlusV4 => mergePreviewConservativePlusV4 localSet remoteSet ctx nowMs

/-- How a policy refuses an unsafe merge. -/
def ensureSafe (p : MergePolicy) (report : SyncMergePreviewReport) : AppResult Unit :=
  match p with
  | conservativeV1 => ensureConservativeMergeSafe report
  | conservativePlusV2 => ensureConservativePlusV2MergeSafe report
  | conservativePlusV3 => ensureConservativePlusV3MergeSafe report
  | conservativePlusV4 => ensureConservativePlusV4MergeSafe report

/-- Whether a flag is set that a policy looks at. -/
def flagged (p : MergePolicy) (ctx : SyncMergeContextV2) : Bool :=
  match p with
  | conservativeV1 => false
  | conservativePlusV2 => ctx.trustChainMismatch || ctx.lockConflict
  | conservativePlusV3 => ctx.trustChainMismatch || ctx.lockConflict || ctx.rbacConflict
  | conservativePlusV4 => ctx.trustChainMismatch || ctx.lockConflict || ctx.rbacConflict

/-- Every policy makes its preview in the same way and judges it by its flags. -/
theorem exists_policy (p : MergePolicy) (ctx : SyncMergeContextV2) :
  ∃ (policy : Policy) (ctx' : SyncMergeContextV2), (∀ a b nowMs, p.preview a b ctx nowMs = policy.preview a b ctx' nowMs)
    ∧ ∀ common, policy.safe (policy.reasons common ctx') = true
      ↔ (common.objectHashes = [] ∧ common.lineageOverlayIds = []) ∧ p.flagged ctx = false
  := by
  cases p with
  | conservativeV1 =>
    use conservative, {}, fun _ _ _ => rfl
    intro common
    apply conservative_judgesBy
  | conservativePlusV2 =>
    use SyncMerge.conservativePlusV2, ctx, fun _ _ _ => rfl
    intro common
    apply conservativePlusV2_judgesBy
  | conservativePlusV3 =>
    use SyncMerge.conservativePlusV3, ctx, fun _ _ _ => rfl
    intro common
    apply conservativePlusV3_judgesBy
  | conservativePlusV4 =>
    use SyncMerge.conservativePlusV4, ctx, fun _ _ _ => rfl
    intro common
    apply conservativePlusV4_judgesBy

/-- A merge is refused exactly when it is not safe. -/
theorem ensureSafe_eq_ok_iff (p : MergePolicy) (report : SyncMergePreviewReport) :
  p.ensureSafe report = .ok () ↔ report.safe = true
  := by
  cases p
  all_goals
    simp only [ensureSafe, ensureConservativeMergeSafe, ensureConservativePlusV2MergeSafe,
      ensureConservativePlusV3MergeSafe, ensureConservativePlusV4MergeSafe]
    split <;> simp_all

end MergePolicy

/-- What is asked of the report of a policy on two change sets in a context. -/
structure Exact (p : MergePolicy) (localSet remoteSet : SyncMergeChangeSetV1)
    (ctx : SyncMergeContextV2) (report : SyncMergePreviewReport) : Prop where
  localLists : Lists report.localSet localSet
  remoteLists : Lists report.remoteSet remoteSet
  overlapLists : Lists report.overlap (inter localSet remoteSet)
  safe_iff : report.safe = true ↔ Disjoint localSet remoteSet ∧ p.flagged ctx = false
  ensure_iff : p.ensureSafe report = .ok () ↔ report.safe = true

/-- A report with the local and the remote side swapped. -/
structure Swapped (report report' : SyncMergePreviewReport) : Prop where
  localSet : report'.localSet = report.remoteSet
  remoteSet : report'.remoteSet = report.localSet
  overlap : report'.overlap = report.overlap
  safe : report'.safe = report.safe
  reasons : report'.reasons = report.reasons

/-- What is asked of the reports of the four policies on two change sets in a context. -/
structure Ordered (report : MergePolicy → SyncMergePreviewReport) : Prop where
  v4_eq_v3 : (report .conservativePlusV4).safe = (report .conservativePlusV3).safe
  v2_of_v3 : (report .conservativePlusV3).safe = true → (report .conservativePlusV2).safe = true
  v1_of_v2 : (report .conservativePlusV2).safe = true → (report .conservativeV1).safe = true

/-- The previews of well-formed change sets are exact, do not depend on how the change sets are
listed or on which of them is the local one, and the later policies are the stricter ones. -/
theorem merge_policies_exact (localSet remoteSet : SyncMergeChangeSetV1)
    (hlocal : WellFormed localSet) (hremote : WellFormed remoteSet) (ctx : SyncMergeContextV2)
    (nowMs : Int64) :
  ∃ report : MergePolicy → SyncMergePreviewReport,
    (∀ p : MergePolicy, p.preview localSet remoteSet ctx nowMs = .ok (report p)
      ∧ Exact p localSet remoteSet ctx (report p)
      ∧ (∃ swapped, p.preview remoteSet localSet ctx nowMs = .ok swapped
        ∧ Swapped (report p) swapped)
      ∧ ∀ localSet' remoteSet', SameMembers localSet' localSet → SameMembers remoteSet' remoteSet →
        p.preview localSet' remoteSet' ctx nowMs = .ok (report p))
    ∧ Ordered report
  := by
  choose policy ctx' hpreview hjudges using fun p : MergePolicy => p.exists_policy ctx
  choose report hreport hl hr hcommon hreasons hsafe using
    fun p => (policy p).preview_eq hlocal hremote (ctx' p) nowMs
  have hsafe_iff (p : MergePolicy) :
      (report p).safe = true ↔ Disjoint localSet remoteSet ∧ p.flagged ctx = false := by
    rw [hsafe, hjudges, overlap_eq_nil_iff]
  use report
  constructor
  · intro p
    use by rw [hpreview, hreport]
    refine ⟨?_, ?_, ?_⟩
    · constructor
      · rw [hl]
        apply lists_normal
      · rw [hr]
        apply lists_normal
      · rw [hcommon]
        apply lists_overlap
      · apply hsafe_iff
      · apply p.ensureSafe_eq_ok_iff
    · obtain ⟨swapped, hswapped, hl', hr', hcommon', hreasons', hsafe'⟩ :=
        (policy p).preview_eq hremote hlocal (ctx' p) nowMs
      use swapped, by rw [hpreview, hswapped]
      rw [overlap_comm] at hcommon' hreasons' hsafe'
      constructor
      · rw [hl', hr]
      · rw [hr', hl]
      · rw [hcommon', hcommon]
      · rw [hsafe', hsafe]
      · rw [hreasons', hreasons]
    · intro localSet' remoteSet' hlocal' hremote'
      rw [hpreview, ← hreport, Policy.preview, Policy.preview,
        hlocal.normalizeChangeSet_eq, hremote.normalizeChangeSet_eq,
        (hlocal.of_sameMembers hlocal').normalizeChangeSet_eq,
        (hremote.of_sameMembers hremote').normalizeChangeSet_eq, hlocal'.normal_eq,
        hremote'.normal_eq]
  · constructor
    · rw [Bool.eq_iff_iff, hsafe_iff, hsafe_iff]
      rfl
    · rw [hsafe_iff, hsafe_iff]
      simp only [MergePolicy.flagged, Bool.or_eq_false_iff]
      rintro ⟨hdisjoint, hflags, -⟩
      exact ⟨hdisjoint, hflags⟩
    · rw [hsafe_iff, hsafe_iff]
      rintro ⟨hdisjoint, -⟩
      exact ⟨hdisjoint, rfl⟩

/-- The hash of one repeated digit. -/
def Sample.hashOf (digit : Char) : String :=
  "blake3:" ++ String.ofList (List.replicate 64 digit)

/-- A change set that is out of order and repeats itself. -/
def Sample.repeated : SyncMergeChangeSetV1 where
  objectHashes := [Sample.hashOf 'b', Sample.hashOf 'a', Sample.hashOf 'b']
  lineageOverlayIds := ["overlay-2", "overlay-1"]

def Sample.other : SyncMergeChangeSetV1 where
  objectHashes := [Sample.hashOf 'a']
  lineageOverlayIds := []

theorem merge_policies_exact_repeated :
  ∃ report : MergePolicy → SyncMergePreviewReport,
    (∀ p : MergePolicy, p.preview Sample.repeated Sample.other {} 1 = .ok (report p)
      ∧ Exact p Sample.repeated Sample.other {} (report p))
    ∧ Ordered report
  := by
  have hhash {digit : Char} (hdigit : Hex.isLowerHex digit = true) :
      validateBlake3Prefixed (Sample.hashOf digit) = .ok () := by
    apply validateBlake3Prefixed_append
    · rw [String.length_ofList, List.length_replicate]
    · simp [hdigit]
  have hrepeated : WellFormed Sample.repeated := by
    constructor
    · simp [Sample.repeated, hhash (by decide : Hex.isLowerHex 'a' = true),
        hhash (by decide : Hex.isLowerHex 'b' = true)]
    · decide
  have hother : WellFormed Sample.other := by
    constructor
    · simp [Sample.other, hhash (by decide : Hex.isLowerHex 'a' = true)]
    · decide
  obtain ⟨report, hreport, hordered⟩ :=
    merge_policies_exact Sample.repeated Sample.other hrepeated hother {} 1
  use report
  constructor
  · intro p
    obtain ⟨hpreview, hexact, -⟩ := hreport p
    exact ⟨hpreview, hexact⟩
  · exact hordered

end SyncMerge

end KnowledgeCore
