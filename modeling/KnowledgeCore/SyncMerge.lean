import Mathlib.Data.List.Dedup
import KnowledgeCore.Hashing

/-!
# Merge previews

A preview compares what the local vault and the remote snapshot have changed since they last
agreed, and judges whether the two can be merged. There are four policies. The later ones take
a context into account and give a trace of the decision.
-/

namespace KnowledgeCore

namespace SyncMerge

def POLICY_CONSERVATIVE_V1 : String := "conservative_v1"
def POLICY_CONSERVATIVE_PLUS_V2 : String := "conservative_plus_v2"
def POLICY_CONSERVATIVE_PLUS_V3 : String := "conservative_plus_v3"
def POLICY_CONSERVATIVE_PLUS_V4 : String := "conservative_plus_v4"

/-- The objects and the lineage overlays of a side. -/
structure SyncMergeChangeSetV1 where
  objectHashes : List String := []
  lineageOverlayIds : List String := []
deriving DecidableEq

structure SyncMergeContextV2 where
  trustChainMismatch : Bool := false
  lockConflict : Bool := false
  rbacConflict : Bool := false

/-- A preview. The policies that give no trace of their decision leave it out. -/
structure SyncMergePreviewReport where
  schemaVersion : Int64
  mergePolicy : String
  safe : Bool
  generatedAtMs : Int64
  localSet : SyncMergeChangeSetV1
  remoteSet : SyncMergeChangeSetV1
  overlap : SyncMergeChangeSetV1
  reasons : List String
  decisionTrace : Option (List String)

/-! ### Normal form of a change set -/

/-- The strings of a list, in order and without repetition. -/
def sortedSet (l : List String) : List String :=
  l.dedup.insertionSort (· ≤ ·)

@[simp] theorem mem_sortedSet {l : List String} {s : String} :
  s ∈ sortedSet l ↔ s ∈ l
  := by
  simp [sortedSet]

/-- Check the object hashes of a side. -/
def checkObjectHashes (side : String) : List String → AppResult Unit
  | [] => .ok ()
  | hash :: rest => do
    mapErr
      (fun e => {
        code := "KC_SYNC_MERGE_PRECONDITION_FAILED"
        category := "sync"
        message := "sync merge preview input has invalid object hash"
        details := .obj [("side", .str side), ("hash", .str hash),
          ("source_code", .str e.code)] })
      (validateBlake3Prefixed hash)
    checkObjectHashes side rest

/-- Check the lineage overlay ids of a side. -/
def checkOverlayIds (side : String) : List String → AppResult Unit
  | [] => .ok ()
  | overlayId :: rest =>
    if overlayId.isEmpty then
      .error {
        code := "KC_SYNC_MERGE_PRECONDITION_FAILED"
        category := "sync"
        message := "sync merge preview input has empty lineage overlay id"
        details := .obj [("side", .str side)] }
    else
      checkOverlayIds side rest

/-- The change set of a side with both lists in order and without repetition, if every hash
has the form of a hash and no overlay id is empty. -/
def normalizeChangeSet (input : SyncMergeChangeSetV1) (side : String) :
  AppResult SyncMergeChangeSetV1
  := do
  checkObjectHashes side input.objectHashes
  checkOverlayIds side input.lineageOverlayIds
  .ok {
    objectHashes := sortedSet input.objectHashes
    lineageOverlayIds := sortedSet input.lineageOverlayIds }

theorem normalizeChangeSet_eq_ok {input norm : SyncMergeChangeSetV1} {side : String}
    (h : normalizeChangeSet input side = .ok norm) :
  norm.objectHashes = sortedSet input.objectHashes
    ∧ norm.lineageOverlayIds = sortedSet input.lineageOverlayIds
  := by
  simp only [normalizeChangeSet, AppResult.bind_eq_ok] at h
  obtain ⟨_, -, _, -, h⟩ := h
  cases h
  simp

/-- Every hash of a change set has the form of a hash, and no overlay id is empty. -/
def WellFormed (set : SyncMergeChangeSetV1) : Prop :=
  (∀ hash ∈ set.objectHashes, validateBlake3Prefixed hash = .ok ())
    ∧ ∀ overlayId ∈ set.lineageOverlayIds, overlayId.isEmpty = false

theorem checkObjectHashes_eq_ok {side : String} {hashes : List String} :
  checkObjectHashes side hashes = .ok ()
    ↔ ∀ hash ∈ hashes, validateBlake3Prefixed hash = .ok ()
  := by
  induction hashes with
  | nil => simp [checkObjectHashes]
  | cons hash rest ih =>
    simp only [checkObjectHashes, AppResult.bind_eq_ok, mapErr_eq_ok, ih, List.forall_mem_cons]
    constructor
    · rintro ⟨_, h, hrest⟩
      exact ⟨h, hrest⟩
    · rintro ⟨h, hrest⟩
      exact ⟨(), h, hrest⟩

theorem checkOverlayIds_eq_ok {side : String} {ids : List String} :
  checkOverlayIds side ids = .ok () ↔ ∀ overlayId ∈ ids, overlayId.isEmpty = false
  := by
  induction ids with
  | nil => simp [checkOverlayIds]
  | cons overlayId rest ih =>
    rw [checkOverlayIds, List.forall_mem_cons]
    split
    · next h =>
      constructor
      · intro hno
        cases hno
      · rintro ⟨hne, -⟩
        rw [h] at hne
        cases hne
    · next h =>
      rw [ih, and_iff_right (Bool.not_eq_true _ ▸ h)]

/-- A change set has a normal form exactly when it is well formed. -/
theorem exists_normalizeChangeSet {set : SyncMergeChangeSetV1} {side : String} :
  (∃ norm, normalizeChangeSet set side = .ok norm) ↔ WellFormed set
  := by
  simp only [normalizeChangeSet, AppResult.bind_eq_ok, WellFormed]
  constructor
  · rintro ⟨norm, _, ho, _, hl, -⟩
    exact ⟨checkObjectHashes_eq_ok.mp ho, checkOverlayIds_eq_ok.mp hl⟩
  · rintro ⟨ho, hl⟩
    exact ⟨_, (), checkObjectHashes_eq_ok.mpr ho, (), checkOverlayIds_eq_ok.mpr hl, rfl⟩

/-- What two change sets in normal form have in common. -/
def overlap (a b : SyncMergeChangeSetV1) : SyncMergeChangeSetV1 where
  objectHashes := a.objectHashes.filter (fun h => h ∈ b.objectHashes)
  lineageOverlayIds := a.lineageOverlayIds.filter (fun o => o ∈ b.lineageOverlayIds)

/-! ### The policies -/

/-- A reason that applies under a condition. -/
def reasonIf (condition : Bool) (reason : String) : List String :=
  if condition then [reason] else []

/-- The lines every trace has. -/
def traceOf (policy : String) (localNorm remoteNorm overlap : SyncMergeChangeSetV1)
    (ctx : SyncMergeContextV2) : List String :=
  [ "policy=" ++ policy,
    "local.object_hashes=" ++ toString localNorm.objectHashes.length,
    "local.lineage_overlay_ids=" ++ toString localNorm.lineageOverlayIds.length,
    "remote.object_hashes=" ++ toString remoteNorm.objectHashes.length,
    "remote.lineage_overlay_ids=" ++ toString remoteNorm.lineageOverlayIds.length,
    "overlap.object_hashes=" ++ toString overlap.objectHashes.length,
    "overlap.lineage_overlay_ids=" ++ toString overlap.lineageOverlayIds.length,
    "trust_chain_mismatch=" ++ toString ctx.trustChainMismatch,
    "lock_conflict=" ++ toString ctx.lockConflict,
    "rbac_conflict=" ++ toString ctx.rbacConflict ]

/-- A policy: the schema version of its reports, its name, the reasons it gives for an overlap
and a context, when it takes them for safe, and the trace it adds. -/
structure Policy where
  schemaVersion : Int64
  mergePolicy : String
  reasons : (overlap : SyncMergeChangeSetV1) → SyncMergeContextV2 → List String
  safe : List String → Bool
  trace : List String → List String → Option (List String)

/-- The preview of a policy. -/
def Policy.preview (policy : Policy) (localSet remoteSet : SyncMergeChangeSetV1)
    (ctx : SyncMergeContextV2) (nowMs : Int64) :
  AppResult SyncMergePreviewReport
  := do
  let localNorm ← normalizeChangeSet localSet "local"
  let remoteNorm ← normalizeChangeSet remoteSet "remote"
  let common := overlap localNorm remoteNorm
  let reasons := policy.reasons common ctx
  .ok {
    schemaVersion := policy.schemaVersion
    mergePolicy := policy.mergePolicy
    safe := policy.safe reasons
    generatedAtMs := nowMs
    localSet := localNorm
    remoteSet := remoteNorm
    overlap := common
    reasons
    decisionTrace :=
      policy.trace (traceOf policy.mergePolicy localNorm remoteNorm common ctx) reasons }

/-- The strings in order. -/
def sortReasons (reasons : List String) : List String :=
  reasons.insertionSort (· ≤ ·)

def conservative : Policy where
  schemaVersion := 1
  mergePolicy := POLICY_CONSERVATIVE_V1
  reasons common _ := sortReasons
    (reasonIf (!common.objectHashes.isEmpty) "object_hash_overlap"
      ++ reasonIf (!common.lineageOverlayIds.isEmpty) "lineage_overlay_overlap")
  safe reasons := reasons.isEmpty
  trace _ _ := none

def conservativePlusV2 : Policy where
  schemaVersion := 2
  mergePolicy := POLICY_CONSERVATIVE_PLUS_V2
  reasons common ctx := sortReasons
    (reasonIf (!common.objectHashes.isEmpty) "object_hash_overlap"
      ++ reasonIf (!common.lineageOverlayIds.isEmpty) "lineage_overlay_overlap"
      ++ reasonIf ctx.trustChainMismatch "trust_chain_mismatch"
      ++ reasonIf ctx.lockConflict "lineage_lock_conflict")
  safe reasons := reasons.isEmpty
  trace lines _ := some lines

/-- The reasons of the later policies, which give one for a safe merge too. -/
def reasonsOrSafe (objects overlays trust lock rbac safe : String)
    (common : SyncMergeChangeSetV1) (ctx : SyncMergeContextV2) : List String :=
  let unsafeReasons :=
    reasonIf (!common.objectHashes.isEmpty) objects
      ++ reasonIf (!common.lineageOverlayIds.isEmpty) overlays
      ++ reasonIf ctx.trustChainMismatch trust
      ++ reasonIf ctx.lockConflict lock
      ++ reasonIf ctx.rbacConflict rbac
  if unsafeReasons.isEmpty then [safe] else unsafeReasons

def conservativePlusV3 : Policy where
  schemaVersion := 3
  mergePolicy := POLICY_CONSERVATIVE_PLUS_V3
  reasons := reasonsOrSafe "unsafe_overlap_object" "unsafe_overlay_overlap" "unsafe_trust"
    "unsafe_lock" "unsafe_rbac" "safe_disjoint"
  safe reasons := reasons = ["safe_disjoint"]
  trace lines _ := some lines

def conservativePlusV4 : Policy where
  schemaVersion := 4
  mergePolicy := POLICY_CONSERVATIVE_PLUS_V4
  reasons := reasonsOrSafe "unsafe_object_overlap_v4" "unsafe_overlay_overlap_v4"
    "unsafe_trust_chain_v4" "unsafe_lock_scope_v4" "unsafe_rbac_v4" "safe_disjoint_v4"
  safe reasons := reasons = ["safe_disjoint_v4"]
  trace lines reasons :=
    some (lines ++ ["unsafe_reason_count=" ++ toString (reasons.length - 1)])

def mergePreviewConservative (localSet remoteSet : SyncMergeChangeSetV1) (nowMs : Int64) :
  AppResult SyncMergePreviewReport
  := conservative.preview localSet remoteSet {} nowMs

def mergePreviewConservativePlusV2 (localSet remoteSet : SyncMergeChangeSetV1)
    (ctx : SyncMergeContextV2) (nowMs : Int64) :
  AppResult SyncMergePreviewReport
  := conservativePlusV2.preview localSet remoteSet ctx nowMs

def mergePreviewConservativePlusV3 (localSet remoteSet : SyncMergeChangeSetV1)
    (ctx : SyncMergeContextV2) (nowMs : Int64) :
  AppResult SyncMergePreviewReport
  := conservativePlusV3.preview localSet remoteSet ctx nowMs

def mergePreviewConservativePlusV4 (localSet remoteSet : SyncMergeChangeSetV1)
    (ctx : SyncMergeContextV2) (nowMs : Int64) :
  AppResult SyncMergePreviewReport
  := conservativePlusV4.preview localSet remoteSet ctx nowMs

/-- The preview of the policy with the given name. -/
def mergePreviewWithPolicyV2 (localSet remoteSet : SyncMergeChangeSetV1)
    (ctx : SyncMergeContextV2) (policy : String) (nowMs : Int64) :
  AppResult SyncMergePreviewReport
  :=
  if policy = POLICY_CONSERVATIVE_PLUS_V2 then
    mergePreviewConservativePlusV2 localSet remoteSet ctx nowMs
  else if policy = POLICY_CONSERVATIVE_PLUS_V3 then
    mergePreviewConservativePlusV3 localSet remoteSet ctx nowMs
  else if policy = POLICY_CONSERVATIVE_PLUS_V4 then
    mergePreviewConservativePlusV4 localSet remoteSet ctx nowMs
  else
    .error {
      code := "KC_SYNC_MERGE_POLICY_UNSUPPORTED"
      category := "sync"
      message := "unsupported sync merge policy"
      details := .obj [("policy", .str policy),
        ("supported", .arr [.str POLICY_CONSERVATIVE_PLUS_V2, .str POLICY_CONSERVATIVE_PLUS_V3,
          .str POLICY_CONSERVATIVE_PLUS_V4])] }

/-! ### Refusing an unsafe merge -/

def SyncMergeChangeSetV1.toJson (set : SyncMergeChangeSetV1) : Json :=
  .obj [("object_hashes", .arr (set.objectHashes.map .str)),
    ("lineage_overlay_ids", .arr (set.lineageOverlayIds.map .str))]

/-- The error of an unsafe merge. -/
def mergeRejected (code message : String) (report : SyncMergePreviewReport) : AppError where
  code := code
  category := "sync"
  message := message
  details := .obj ([("schema_version", .int report.schemaVersion.toInt),
      ("merge_policy", .str report.mergePolicy),
      ("reasons", .arr (report.reasons.map .str)),
      ("overlap", report.overlap.toJson)]
    ++ match report.decisionTrace with
      | some lines => [("decision_trace", .arr (lines.map .str))]
      | none => [])

/-- The first of the codes whose reason is given, or else the code of an overlap. -/
def rejectionCode (report : SyncMergePreviewReport) : List (String × String) → String
  | [] => "KC_SYNC_MERGE_NOT_SAFE"
  | (reason, code) :: rest =>
    if reason ∈ report.reasons then code else rejectionCode report rest

def ensureConservativeMergeSafe (report : SyncMergePreviewReport) : AppResult Unit :=
  if report.safe then
    .ok ()
  else
    .error (mergeRejected "KC_SYNC_MERGE_NOT_SAFE"
      "conservative auto-merge rejected due to overlapping change sets" report)

def ensureConservativePlusV2MergeSafe (report : SyncMergePreviewReport) : AppResult Unit :=
  if report.safe then
    .ok ()
  else
    .error (mergeRejected
      (rejectionCode report [("trust_chain_mismatch", "KC_SYNC_MERGE_TRUST_CONFLICT"),
        ("lineage_lock_conflict", "KC_SYNC_MERGE_LOCK_CONFLICT")])
      "conservative_plus_v2 auto-merge rejected by safety policy" report)

def ensureConservativePlusV3MergeSafe (report : SyncMergePreviewReport) : AppResult Unit :=
  if report.safe then
    .ok ()
  else
    .error (mergeRejected
      (rejectionCode report [("unsafe_trust", "KC_SYNC_MERGE_TRUST_CONFLICT"),
        ("unsafe_lock", "KC_SYNC_MERGE_LOCK_CONFLICT"),
        ("unsafe_rbac", "KC_SYNC_MERGE_POLICY_V3_UNSAFE")])
      "conservative_plus_v3 auto-merge rejected by safety policy" report)

def ensureConservativePlusV4MergeSafe (report : SyncMergePreviewReport) : AppResult Unit :=
  if report.safe then
    .ok ()
  else
    .error (mergeRejected
      (rejectionCode report [("unsafe_trust_chain_v4", "KC_SYNC_MERGE_TRUST_CONFLICT"),
        ("unsafe_lock_scope_v4", "KC_SYNC_MERGE_LOCK_CONFLICT"),
        ("unsafe_rbac_v4", "KC_SYNC_MERGE_POLICY_V4_UNSAFE")])
      "conservative_plus_v4 auto-merge rejected by safety policy" report)

/-! ### A safe merge is one without overlap -/

/-- Two change sets with nothing in common. -/
def Disjoint (a b : SyncMergeChangeSetV1) : Prop :=
  (∀ h ∈ a.objectHashes, h ∉ b.objectHashes)
    ∧ ∀ o ∈ a.lineageOverlayIds, o ∉ b.lineageOverlayIds

/-- A policy that takes no merge for safe in which the two sides overlap. -/
def Policy.Conservative (policy : Policy) : Prop :=
  ∀ common ctx, policy.safe (policy.reasons common ctx) = true →
    common.objectHashes = [] ∧ common.lineageOverlayIds = []

theorem sortReasons_eq_nil {reasons : List String} :
  sortReasons reasons = [] ↔ reasons = []
  := by
  rw [← List.length_eq_zero_iff, sortReasons, List.length_insertionSort,
    List.length_eq_zero_iff]

@[simp] theorem reasonIf_eq_nil {condition : Bool} {reason : String} :
  reasonIf condition reason = [] ↔ condition = false
  := by
  cases condition <;> simp [reasonIf]

theorem conservative_conservative : conservative.Conservative := by
  intro common ctx h
  simpa [conservative, sortReasons_eq_nil] using h

theorem conservativePlusV2_conservative : conservativePlusV2.Conservative := by
  intro common ctx h
  simp only [conservativePlusV2, List.isEmpty_iff, sortReasons_eq_nil, List.append_eq_nil_iff,
    reasonIf_eq_nil, Bool.not_eq_false'] at h
  obtain ⟨⟨⟨ho, hl⟩, -⟩, -⟩ := h
  simpa using And.intro ho hl

/-- The reason for a safe merge is given for safe merges only. -/
theorem reasonsOrSafe_eq {objects overlays trust lock rbac safe : String}
    {common : SyncMergeChangeSetV1} {ctx : SyncMergeContextV2}
    (hne : safe ∉ [objects, overlays, trust, lock, rbac])
    (h : reasonsOrSafe objects overlays trust lock rbac safe common ctx = [safe]) :
  common.objectHashes = [] ∧ common.lineageOverlayIds = []
  := by
  rw [reasonsOrSafe] at h
  split at h
  · next hnil =>
    simp only [List.isEmpty_iff, List.append_eq_nil_iff, reasonIf_eq_nil,
      Bool.not_eq_false'] at hnil
    obtain ⟨⟨⟨⟨ho, hl⟩, -⟩, -⟩, -⟩ := hnil
    exact ⟨ho, hl⟩
  · exfalso
    apply hne
    have hmem := List.mem_singleton_self safe
    rw [← h] at hmem
    simp only [List.mem_append, reasonIf] at hmem
    grind

theorem conservativePlusV3_conservative : conservativePlusV3.Conservative := by
  intro common ctx h
  have h : reasonsOrSafe "unsafe_overlap_object" "unsafe_overlay_overlap" "unsafe_trust"
      "unsafe_lock" "unsafe_rbac" "safe_disjoint" common ctx = ["safe_disjoint"] := by
    simpa [conservativePlusV3] using h
  apply reasonsOrSafe_eq (by decide) h

theorem conservativePlusV4_conservative : conservativePlusV4.Conservative := by
  intro common ctx h
  have h : reasonsOrSafe "unsafe_object_overlap_v4" "unsafe_overlay_overlap_v4"
      "unsafe_trust_chain_v4" "unsafe_lock_scope_v4" "unsafe_rbac_v4" "safe_disjoint_v4" common
      ctx = ["safe_disjoint_v4"] := by
    simpa [conservativePlusV4] using h
  apply reasonsOrSafe_eq (by decide) h

/-- A policy takes nothing for safe that overlaps. -/
theorem Policy.Conservative.disjoint {policy : Policy} (hp : policy.Conservative)
    {localSet remoteSet : SyncMergeChangeSetV1} {ctx : SyncMergeContextV2} {nowMs : Int64}
    {report : SyncMergePreviewReport}
    (h : policy.preview localSet remoteSet ctx nowMs = .ok report) (hs : report.safe = true) :
  Disjoint localSet remoteSet
  := by
  simp only [Policy.preview, AppResult.bind_eq_ok] at h
  obtain ⟨l, hl, r, hr, h⟩ := h
  cases h
  obtain ⟨hlo, hll⟩ := normalizeChangeSet_eq_ok hl
  obtain ⟨hro, hrl⟩ := normalizeChangeSet_eq_ok hr
  obtain ⟨ho, ho'⟩ := hp _ _ hs
  simp only [overlap, hlo, hro, hll, hrl, List.filter_eq_nil_iff, mem_sortedSet,
    decide_eq_true_eq] at ho ho'
  exact ⟨ho, ho'⟩

/-- The change sets a preview reports have the members of those it was given. -/
theorem Policy.preview_sets {policy : Policy} {localSet remoteSet : SyncMergeChangeSetV1}
    {ctx : SyncMergeContextV2} {nowMs : Int64} {report : SyncMergePreviewReport}
    (h : policy.preview localSet remoteSet ctx nowMs = .ok report) :
  (∀ x, x ∈ report.localSet.objectHashes ↔ x ∈ localSet.objectHashes)
    ∧ (∀ x, x ∈ report.localSet.lineageOverlayIds ↔ x ∈ localSet.lineageOverlayIds)
    ∧ (∀ x, x ∈ report.remoteSet.objectHashes ↔ x ∈ remoteSet.objectHashes)
    ∧ ∀ x, x ∈ report.remoteSet.lineageOverlayIds ↔ x ∈ remoteSet.lineageOverlayIds
  := by
  simp only [Policy.preview, AppResult.bind_eq_ok] at h
  obtain ⟨l, hl, r, hr, h⟩ := h
  cases h
  obtain ⟨hlo, hll⟩ := normalizeChangeSet_eq_ok hl
  obtain ⟨hro, hrl⟩ := normalizeChangeSet_eq_ok hr
  simp [hlo, hro, hll, hrl]

end SyncMerge

end KnowledgeCore
