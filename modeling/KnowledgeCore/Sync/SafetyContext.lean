import KnowledgeCore.StrictAuth
import KnowledgeCore.Sync.AutoMerge

/-!
# The safety context of a merge

The later merge policies know of locks on documents and of mismatched trust chains. A pull asks
them with an empty context, so what it takes for safe depends on the two change sets alone, in
every mode alike.
-/

namespace KnowledgeCore

open SyncMerge

namespace SyncMerge

variable {localSet remoteSet : SyncMergeChangeSetV1} {nowMs : Int64}

/-! ### What is taken for safe -/

/-- A policy that, without a context, takes everything for safe that does not overlap. -/
def Policy.Permissive (policy : Policy) : Prop :=
  policy.safe (policy.reasons {} {}) = true

theorem overlap_eq_empty {a b : SyncMergeChangeSetV1} (h : Disjoint a b) :
  overlap a b = {}
  := by
  have ho : a.objectHashes.filter (fun x => x ∈ b.objectHashes) = [] := by
    rw [List.filter_eq_nil_iff]
    intro x hx
    simpa using h.1 x hx
  have hl : a.lineageOverlayIds.filter (fun x => x ∈ b.lineageOverlayIds) = [] := by
    rw [List.filter_eq_nil_iff]
    intro x hx
    simpa using h.2 x hx
  rw [overlap, ho, hl]

/-- Without a context such a policy takes a merge of well-formed change sets for safe exactly
when they have nothing in common. -/
theorem Policy.preview_safe_iff {policy : Policy} (hc : policy.Conservative)
    (hp : policy.Permissive) :
  (∃ report, policy.preview localSet remoteSet {} nowMs = .ok report ∧ report.safe = true)
    ↔ WellFormed localSet ∧ WellFormed remoteSet ∧ Disjoint localSet remoteSet
  := by
  constructor
  · rintro ⟨report, h, hs⟩
    have hdisjoint := hc.disjoint h hs
    simp only [Policy.preview, AppResult.bind_eq_ok] at h
    obtain ⟨l, hl, r, hr, -⟩ := h
    exact ⟨exists_normalizeChangeSet.mp ⟨l, hl⟩, exists_normalizeChangeSet.mp ⟨r, hr⟩, hdisjoint⟩
  · rintro ⟨hl, hr, hdisjoint⟩
    obtain ⟨l, hl⟩ := exists_normalizeChangeSet.mpr hl
    obtain ⟨r, hr⟩ := exists_normalizeChangeSet.mpr hr
    obtain ⟨hlo, hll⟩ := normalizeChangeSet_eq_ok hl
    obtain ⟨hro, hrl⟩ := normalizeChangeSet_eq_ok hr
    have hempty : overlap l r = {} := by
      apply overlap_eq_empty
      constructor
      · intro x hx
        rw [hlo, mem_sortedSet] at hx
        rw [hro, mem_sortedSet]
        apply hdisjoint.1 x hx
      · intro x hx
        rw [hll, mem_sortedSet] at hx
        rw [hrl, mem_sortedSet]
        apply hdisjoint.2 x hx
    rw [Policy.preview, hl, AppResult.ok_bind, hr, AppResult.ok_bind]
    refine ⟨_, rfl, ?_⟩
    rw [hempty]
    exact hp

theorem conservative_permissive : conservative.Permissive := rfl

theorem conservativePlusV2_permissive : conservativePlusV2.Permissive := rfl

theorem conservativePlusV3_permissive : conservativePlusV3.Permissive := rfl

theorem conservativePlusV4_permissive : conservativePlusV4.Permissive := rfl

/-- The change sets a preview reports are well formed, and disjoint when the given ones are. -/
theorem Policy.preview_wellFormed {policy : Policy} {ctx : SyncMergeContextV2}
    {report : SyncMergePreviewReport}
    (h : policy.preview localSet remoteSet ctx nowMs = .ok report)
    (hd : Disjoint localSet remoteSet) :
  WellFormed report.localSet ∧ WellFormed report.remoteSet
    ∧ Disjoint report.localSet report.remoteSet
  := by
  obtain ⟨hlo, hll, hro, hrl⟩ := Policy.preview_sets h
  simp only [Policy.preview, AppResult.bind_eq_ok] at h
  obtain ⟨l, hl, r, hr, -⟩ := h
  obtain ⟨hlw, hlw'⟩ := exists_normalizeChangeSet.mp ⟨l, hl⟩
  obtain ⟨hrw, hrw'⟩ := exists_normalizeChangeSet.mp ⟨r, hr⟩
  simp only [WellFormed, Disjoint, hlo, hll, hro, hrl]
  exact ⟨⟨hlw, hlw'⟩, ⟨hrw, hrw'⟩, hd⟩

end SyncMerge

namespace Sync

variable {ext : Externals} {host : Host} {s : Site} {target : String} {nowMs : Int64}

/-- A second policy that is asked without a context takes what the first has taken for safe for
safe too. -/
theorem second_preview_safe {policy : Policy} (hc : policy.Conservative)
    (hp : policy.Permissive) {localDelta remoteDelta : SyncMergeChangeSetV1}
    {report : SyncMergePreviewReport}
    (h : mergePreviewConservative localDelta remoteDelta nowMs = .ok report)
    (hd : Disjoint localDelta remoteDelta) :
  ∃ report', policy.preview report.localSet report.remoteSet {} nowMs = .ok report'
    ∧ report'.safe = true
  := by
  apply (Policy.preview_safe_iff hc hp).mpr
  apply Policy.preview_wellFormed h hd

/-- Every mode takes the merges for safe whose change sets are well formed and have nothing in
common, and no others. -/
theorem safeMerge_iff {mode : SyncAutoMergeMode} {localDelta remoteDelta : SyncMergeChangeSetV1} :
  SafeMerge mode localDelta remoteDelta nowMs
    ↔ WellFormed localDelta ∧ WellFormed remoteDelta ∧ Disjoint localDelta remoteDelta
  := by
  constructor
  · intro h
    have hd := h.disjoint
    obtain ⟨report, hreport, -⟩ := h
    simp only [mergePreviewConservative, Policy.preview, AppResult.bind_eq_ok] at hreport
    obtain ⟨l, hl, r, hr, -⟩ := hreport
    exact ⟨exists_normalizeChangeSet.mp ⟨l, hl⟩, exists_normalizeChangeSet.mp ⟨r, hr⟩, hd⟩
  · intro h
    obtain ⟨report, hreport, hsafe⟩ :=
      (Policy.preview_safe_iff conservative_conservative conservative_permissive).mpr h
    use report, hreport
    cases mode with
    | conservative => rw [ensureMergeSafe, ensureConservativeMergeSafe, if_pos hsafe]
    | conservativePlusV2 =>
      obtain ⟨report', h', hsafe'⟩ := second_preview_safe conservativePlusV2_conservative
        conservativePlusV2_permissive hreport h.2.2
      apply AppResult.bind_eq_ok.mpr
      exact ⟨report', h', if_pos hsafe'⟩
    | conservativePlusV3 =>
      obtain ⟨report', h', hsafe'⟩ := second_preview_safe conservativePlusV3_conservative
        conservativePlusV3_permissive hreport h.2.2
      apply AppResult.bind_eq_ok.mpr
      exact ⟨report', h', if_pos hsafe'⟩
    | conservativePlusV4 =>
      obtain ⟨report', h', hsafe'⟩ := second_preview_safe conservativePlusV4_conservative
        conservativePlusV4_permissive hreport h.2.2
      apply AppResult.bind_eq_ok.mpr
      exact ⟨report', h', if_pos hsafe'⟩

/-! ### The context of a pull -/

/-- A delta changes an overlay of a document, by the rows of a database. -/
def ChangesOverlayOf (db : Option Db) (delta : SyncMergeChangeSetV1) (docId : String) : Prop :=
  ∃ overlayId ∈ delta.lineageOverlayIds, ∃ row,
    (db.bind fun db => db.lineageOverlays[overlayId]?) = some row ∧ row.docId = docId

/-- The database has an unexpired lock on a document whose overlays one of the deltas
changes. -/
def LockConflict (db : Db) (remoteDb : Option Db) (localDelta remoteDelta : SyncMergeChangeSetV1)
    (nowMs : Int64) : Prop :=
  ∃ docId lock, db.lineageEditLocks[docId]? = some lock ∧ nowMs < lock.expiresAtMs
    ∧ (ChangesOverlayOf (some db) localDelta docId ∨ ChangesOverlayOf remoteDb remoteDelta docId)

/-- A head that has to be signed has no author whose chain the registry accepts. -/
def TrustMismatch (ext : Externals) (db : Db) (head : SyncHeadV1) : Prop :=
  ¬ head.schemaVersion < 3 ∧ ¬ SyncAuth.AuthorAccepted ext db head

/-- A merge the later policies are there to refuse. -/
def UnsafeContext (ext : Externals) (db : Db) (remote : Dir Content) (head : SyncHeadV1)
    (localDelta remoteDelta : SyncMergeChangeSetV1) (nowMs : Int64) : Prop :=
  LockConflict db (Vault.db remote) localDelta remoteDelta nowMs ∨ TrustMismatch ext db head

/-- What is asked of a pull in an auto-merge mode: it does not go through when it has diverged
and the context of the merge is unsafe. -/
def HonoursContext (ext : Externals) (host : Host) (target : String) (nowMs : Int64)
    (mode : SyncAutoMergeMode) (strictAuth : Bool) (s : Site) : Prop :=
  HasDiverged ext host s → ∀ file head localSet remoteSet base,
    MergeSides ext host s file head localSet remoteSet base →
    UnsafeContext ext file.db (s.snapshot head.snapshotId) head (deltaChangeSet localSet base)
      (deltaChangeSet remoteSet base) nowMs →
    ∀ r, ((syncPullWithMode ext target nowMs (some mode) strictAuth).eval
      (perform ext host) s).1 ≠ .ok r

/-- An unsafe context that nothing else stops the pull from going past: it passes its checks,
the deltas are well formed and have nothing in common, and the trees of the snapshot can be put
in place. -/
def MissesContext (ext : Externals) (host : Host) (target : String) (nowMs : Int64)
    (strictAuth : Bool) (s : Site) : Prop :=
  ∃ file vault head bundle hash localSet remoteSet base,
    PullReads ext host target strictAuth s file vault head bundle hash
      ∧ Diverged (some head) file.db hash
      ∧ MergeSides ext host s file head localSet remoteSet base
      ∧ WellFormed (deltaChangeSet localSet base)
      ∧ WellFormed (deltaChangeSet remoteSet base)
      ∧ Disjoint (deltaChangeSet localSet base) (deltaChangeSet remoteSet base)
      ∧ PutsInPlace ext host (s.snapshot head.snapshotId) s.vault
      ∧ UnsafeContext ext file.db (s.snapshot head.snapshotId) head
        (deltaChangeSet localSet base) (deltaChangeSet remoteSet base) nowMs

/-- A pull refuses the merges it should, in whatever mode, exactly when something other than
the context stops them. -/
theorem honours_context_iff (ext : Externals) (host : Host) (target : String) (nowMs : Int64)
    (mode : SyncAutoMergeMode) (strictAuth : Bool) (s : Site) :
  HonoursContext ext host target nowMs mode strictAuth s
    ↔ ¬ MissesContext ext host target nowMs strictAuth s
  := by
  constructor
  · rintro hhonours ⟨file, vault, head, bundle, hash, localSet, remoteSet, base, hr, hd, hsides,
      hl, hrw, hdisjoint, hplace, hunsafe⟩
    have hstored : s.target.snapshots.contains head.snapshotId = true := by
      rw [Std.ExtTreeMap.contains_eq_isSome_getElem?, contains_of_extract hsides.remoteSide]
      rfl
    have hmerges : MergesSafely ext host target nowMs (some mode) s :=
      (mergesSafely_iff hr.opened hr.found).mpr
        ⟨mode, localSet, remoteSet, base, rfl, hsides, safeMerge_iff.mpr ⟨hl, hrw, hdisjoint⟩⟩
    obtain ⟨s', hrun⟩ := hplace.eval_finishPull ("snapshots/" ++ head.snapshotId) nowMs
    have hfull := (eval_syncPullWithMode_accepts ⟨hr, fun _ => hmerges, hstored⟩).trans hrun
    apply hhonours ⟨file, head, bundle, hash, hr.opened, hr.found, hr.exported, hd⟩ file head
      localSet remoteSet base hsides hunsafe (pullResult head)
    rw [hfull]
  · rintro hno ⟨file, head, bundle, hash, hf, hh, hb, hd⟩ file' head' localSet remoteSet base
      hsides hunsafe r hok
    obtain rfl : file = file' := by simpa [hf] using hsides.opened
    obtain rfl : head = head' := by simpa [hh] using hsides.found
    obtain ⟨head', ⟨file', vault, bundle', hash', hr, hagrees, -⟩, hfinish⟩ :=
      eval_syncPullWithMode_eq_ok.mp (Prod.ext hok rfl)
    obtain rfl : file = file' := by simpa [hf] using hr.opened
    obtain rfl : head = head' := by simpa [hh] using hr.found
    obtain ⟨rfl, rfl⟩ : bundle = bundle' ∧ hash = hash' := by simpa [hb] using hr.exported
    obtain ⟨_, _, _, _, -, hsides', hsafe⟩ :=
      (mergesSafely_iff hr.opened hr.found).mp (hagrees hd)
    obtain ⟨-, -, rfl, rfl, rfl⟩ := hsides'.unique hsides
    obtain ⟨hl, hrw, hdisjoint⟩ := safeMerge_iff.mp hsafe
    obtain ⟨hplace, -⟩ := eval_finishPull_snapshot_eq_ok hfinish
    exact hno ⟨file, vault, head, bundle, hash, _, _, _, hr, hd, hsides, hl, hrw, hdisjoint,
      hplace, hunsafe⟩

/-- An overlay of a document. -/
def Sample.overlay : LineageOverlayRow where
  docId := "document"
  fromNodeId := "doc:document"
  toNodeId := "note:overlay"
  relation := "supports"
  evidence := "note"
  createdAtMs := 1
  createdBy := "editor"

/-- The lock under which the document is edited. -/
def Sample.editLock : LineageEditLockRow where
  owner := "editor"
  token := "token"
  acquiredAtMs := 0
  expiresAtMs := 5000

/-- The database of a vault that has added an overlay to a document since it has last
synchronised, and in which the document is locked. -/
def Sample.lockedDb : Db where
  __ := (Sample.documentDb.writeState "sync_remote_head_seen" "base" 1).writeState
    "sync_last_applied_manifest_hash" "blake3:00" 1
  lineageOverlays := (∅ : Table LineageOverlayRow).insert "overlay" Sample.overlay
  lineageEditLocks := (∅ : Table LineageEditLockRow).insert "document" Sample.editLock

/-- Its vault, at a target where another vault has pushed since. -/
def Sample.locked : Site where
  vault := Sample.vault Sample.lockedDb
    [(["store", "objects", "3f", Sample.objectHash], .text "note")]
  target := Sample.diverged.target
  bucket := ∅

/-- The change set of the vault. -/
def Sample.lockedSet : SyncMergeChangeSetV1 where
  objectHashes := [Sample.objectHash]
  lineageOverlayIds := ["overlay"]

/-- The pull goes through while the lock is held. -/
theorem locked_merge_goes_through :
  ¬ HonoursContext Sample.ext Sample.host "target" 1000 .conservativePlusV4 false Sample.locked
  := by
  obtain ⟨hlocal, hrun⟩ :
      (localSnapshot Sample.ext Sample.host Sample.locked.vault false).toOption.any
        (fun snapshot => snapshot.2 != "blake3:00"
          && (extractChangeSetFromBundleDir snapshot.1).toOption == some Sample.lockedSet)
        = true
      ∧ ((syncPullWithMode Sample.ext "target" 1000 (some .conservativePlusV4) false).eval
        (perform Sample.ext Sample.host) Sample.locked).1.isOk = true := by
    decide +kernel
  have hremote : (extractChangeSetFromBundleDir (Sample.locked.snapshot "remote")).toOption
      = some {} := by decide +kernel
  have hbase : (extractChangeSetFromBundleDir (Sample.locked.snapshot "base")).toOption
      = some {} := by decide +kernel
  have hhead : readHeadFile Sample.locked.target
      = .ok (some (fileHead "remote" "blake3:00" 2)) := Sample.readHeadFile_target _ _
  have hfile : Vault.dbFile Sample.locked.vault = some ⟨Sample.lockedDb, none, 0⟩ := by
    simp [Vault.dbFile_eq_some, Sample.locked, Sample.vault]
    rfl
  have hseen : Sample.lockedDb.readState "sync_remote_head_seen" = some "base" := by decide
  have hlast : Sample.lockedDb.readState "sync_last_applied_manifest_hash"
      = some "blake3:00" := by decide
  obtain ⟨r, hr⟩ := exists_of_isOk hrun
  obtain ⟨⟨bundle, hash⟩, hexport, hlocal⟩ := exists_of_any hlocal
  simp only [Bool.and_eq_true, bne_iff_ne, ne_eq, beq_iff_eq] at hlocal
  have hdiverged : HasDiverged Sample.ext Sample.host Sample.locked :=
    ⟨_, _, bundle, hash, hfile, hhead, hexport, shouldConflict_iff.mpr
      ⟨⟨_, "base", rfl, hseen, by decide⟩, "blake3:00", hlast, Ne.symm hlocal.1⟩⟩
  have hsides : MergeSides Sample.ext Sample.host Sample.locked ⟨Sample.lockedDb, none, 0⟩
      (fileHead "remote" "blake3:00" 2) Sample.lockedSet {} {} := {
    opened := hfile
    found := hhead
    localSide := ⟨bundle, hash, hexport, ok_of_toOption hlocal.2⟩
    remoteSide := ok_of_toOption hremote
    lastSeen := by
      rw [hseen]
      exact ok_of_toOption hbase }
  intro hhonours
  apply hhonours hdiverged _ _ _ _ _ hsides _ r hr
  left
  use "document", Sample.editLock
  refine ⟨by simp [Sample.lockedDb], by decide,
    .inl ⟨"overlay", by decide, Sample.overlay, ?_, rfl⟩⟩
  simp [Sample.lockedDb]

end Sync

end KnowledgeCore
