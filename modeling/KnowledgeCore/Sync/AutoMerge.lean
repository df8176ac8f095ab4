import KnowledgeCore.Bundle
import KnowledgeCore.Sync.QuietPull

/-!
# Pulling past a conflict

In an auto-merge mode, a pull that has diverged goes on when the two sides have changed
different things. What it does then is what every pull does: it replaces the trees of the
vault. The vault is left with what the snapshot brings, and not with the union of both sides.
-/

namespace KnowledgeCore

namespace Sync

open SyncMerge

variable {ext : Externals} {host : Host} {s : Site} {target : String} {nowMs : Int64}

/-- Whether a change set has an entry. Documents are in none. -/
def Changes (set : SyncMergeChangeSetV1) : Item → Prop
  | .object hash => hash ∈ set.objectHashes
  | .document _ => False
  | .overlay id => id ∈ set.lineageOverlayIds

/-- The change set of the snapshot last seen, or the empty one. -/
def lastSeenChangeSet (s : Site) (seen : Option String) : AppResult SyncMergeChangeSetV1 :=
  match seen with
  | some id => extractChangeSetFromBundleDir (s.snapshot id)
  | none => .ok {}

/-- The change sets a merge goes by: that of the local vault, that of the snapshot the head
points at, and that of the snapshot last seen. -/
structure MergeSides (ext : Externals) (host : Host) (s : Site) (file : SqliteFile)
    (head : SyncHeadV1) (localSet remoteSet base : SyncMergeChangeSetV1) : Prop where
  opened : Vault.dbFile s.vault = some file
  found : readHeadFile s.target = .ok (some head)
  localSide : ∃ bundle hash, localSnapshot ext host s.vault false = .ok (bundle, hash)
    ∧ extractChangeSetFromBundleDir bundle = .ok localSet
  remoteSide : extractChangeSetFromBundleDir (s.snapshot head.snapshotId) = .ok remoteSet
  lastSeen : lastSeenChangeSet s (file.db.readState "sync_remote_head_seen") = .ok base

/-- Whether a mode takes the merge of two deltas for safe. -/
def SafeMerge (mode : SyncAutoMergeMode) (localDelta remoteDelta : SyncMergeChangeSetV1)
    (nowMs : Int64) : Prop :=
  ∃ report, mergePreviewConservative localDelta remoteDelta nowMs = .ok report
    ∧ ensureMergeSafe mode report nowMs = .ok ()

theorem MergeSides.unique {file file' : SqliteFile} {head head' : SyncHeadV1}
    {localSet localSet' remoteSet remoteSet' base base' : SyncMergeChangeSetV1}
    (h : MergeSides ext host s file head localSet remoteSet base)
    (h' : MergeSides ext host s file' head' localSet' remoteSet' base') :
  file = file' ∧ head = head' ∧ localSet = localSet' ∧ remoteSet = remoteSet' ∧ base = base'
  := by
  obtain rfl : file = file' := by simpa [h.opened] using h'.opened
  obtain rfl : head = head' := by simpa [h.found] using h'.found
  obtain ⟨bundle, hash, hb, hl⟩ := h.localSide
  obtain ⟨bundle', hash', hb', hl'⟩ := h'.localSide
  obtain ⟨rfl, rfl⟩ : bundle = bundle' ∧ hash = hash' := by simpa [hb] using hb'
  refine ⟨rfl, rfl, ?_, ?_, ?_⟩
  · simpa [hl] using hl'
  · simpa [h.remoteSide] using h'.remoteSide
  · simpa [h.lastSeen] using h'.lastSeen

/-! ### When a merge is taken for safe -/

/-- A policy that is asked a second time is asked about the same two sides. -/
theorem disjoint_of_second_preview {policy : Policy} (hp : policy.Conservative)
    {localDelta remoteDelta : SyncMergeChangeSetV1} {report report' : SyncMergePreviewReport}
    (h : mergePreviewConservative localDelta remoteDelta nowMs = .ok report)
    (h' : policy.preview report.localSet report.remoteSet {} nowMs = .ok report')
    (hs : report'.safe = true) :
  Disjoint localDelta remoteDelta
  := by
  obtain ⟨hlo, hll, hro, hrl⟩ := Policy.preview_sets h
  obtain ⟨ho, hl⟩ := hp.disjoint h' hs
  constructor
  · intro hash hash_local hash_remote
    exact ho hash ((hlo hash).mpr hash_local) ((hro hash).mpr hash_remote)
  · intro id id_local id_remote
    exact hl id ((hll id).mpr id_local) ((hrl id).mpr id_remote)

/-- No mode takes a merge for safe in which the two sides have something in common. -/
theorem SafeMerge.disjoint {mode : SyncAutoMergeMode}
    {localDelta remoteDelta : SyncMergeChangeSetV1}
    (h : SafeMerge mode localDelta remoteDelta nowMs) :
  Disjoint localDelta remoteDelta
  := by
  obtain ⟨report, hreport, hsafe⟩ := h
  cases mode with
  | conservative =>
    apply conservative_conservative.disjoint hreport
    simpa [ensureMergeSafe, ensureConservativeMergeSafe] using hsafe
  | conservativePlusV2 =>
    simp only [ensureMergeSafe, AppResult.bind_eq_ok] at hsafe
    obtain ⟨report', hreport', hsafe⟩ := hsafe
    apply disjoint_of_second_preview conservativePlusV2_conservative hreport hreport'
    simpa [ensureConservativePlusV2MergeSafe] using hsafe
  | conservativePlusV3 =>
    simp only [ensureMergeSafe, AppResult.bind_eq_ok] at hsafe
    obtain ⟨report', hreport', hsafe⟩ := hsafe
    apply disjoint_of_second_preview conservativePlusV3_conservative hreport hreport'
    simpa [ensureConservativePlusV3MergeSafe] using hsafe
  | conservativePlusV4 =>
    simp only [ensureMergeSafe, AppResult.bind_eq_ok] at hsafe
    obtain ⟨report', hreport', hsafe⟩ := hsafe
    apply disjoint_of_second_preview conservativePlusV4_conservative hreport hreport'
    simpa [ensureConservativePlusV4MergeSafe] using hsafe

/-! ### What a preview comes to -/

/-- There is nothing to extract from a snapshot that is not there. -/
theorem contains_of_extract {id : String} {set : SyncMergeChangeSetV1}
    (h : extractChangeSetFromBundleDir (s.snapshot id) = .ok set) :
  s.target.snapshots[id]? = some (s.snapshot id)
  := by
  cases hid : s.target.snapshots[id]? with
  | some dir => simp [Site.snapshot, Std.ExtTreeMap.getD_eq_getD_getElem?, hid]
  | none =>
    have hempty : s.snapshot id = Dir.empty := by
      simp [Site.snapshot, Std.ExtTreeMap.getD_eq_getD_getElem?, hid]
    rw [hempty] at h
    cases h

theorem eval_snapshotChangeSet_eq_ok {what id : String} {set : SyncMergeChangeSetV1}
    {s' : Site} :
  (snapshotChangeSet target what id).eval (perform ext host) s = (.ok set, s')
    ↔ s' = s ∧ extractChangeSetFromBundleDir (s.snapshot id) = .ok set
  := by
  rw [snapshotChangeSet, Prog.eval_bind_ok (eval_snapshotExists id)]
  have hread : (readSnapshot id).eval (perform ext host) s
      = (okOrElse (syncError "KC_SYNC_MERGE_PRECONDITION_FAILED"
          "failed reading snapshot manifest for merge preview" (.obj [("path", .str id)]))
        s.target.snapshots[id]?, s) := Prog.eval_ofExcept _ _
  constructor
  · intro h
    split at h
    · next hc =>
      simp only [Prog.eval_bind_eq_ok, hread, Prog.eval_ofExcept, Prod.mk.injEq,
        okOrElse_eq_ok] at h
      obtain ⟨dir, t, ⟨hdir, rfl⟩, hset, rfl⟩ := h
      have : s.snapshot id = dir := by
        simp [Site.snapshot, Std.ExtTreeMap.getD_eq_getD_getElem?, hdir]
      rw [this]
      exact ⟨rfl, hset⟩
    · cases h
  · rintro ⟨rfl, h⟩
    have hid := contains_of_extract h
    have hc : s'.target.snapshots.contains id = true := by
      rw [Std.ExtTreeMap.contains_eq_isSome_getElem?, hid]
      rfl
    have hfound : (readSnapshot id).eval (perform ext host) s' = (.ok (s'.snapshot id), s') := by
      rw [hread, hid]
      rfl
    rw [if_pos hc, Prog.eval_bind_ok hfound, h]
    rfl

theorem eval_baseChangeSet_eq_ok {seen : Option String} {base : SyncMergeChangeSetV1}
    {s' : Site} :
  (baseChangeSet (snapshotChangeSet target "base") seen).eval (perform ext host) s
      = (.ok base, s')
    ↔ s' = s ∧ lastSeenChangeSet s seen = .ok base
  := by
  cases seen with
  | none => simp [baseChangeSet, lastSeenChangeSet, eq_comm, and_comm]
  | some id => exact eval_snapshotChangeSet_eq_ok

/-- A pull that has diverged goes on exactly when its mode takes the merge for safe. -/
theorem mergesSafely_iff {mode : Option SyncAutoMergeMode} {file : SqliteFile}
    {head : SyncHeadV1} (hopened : Vault.dbFile s.vault = some file)
    (hfound : readHeadFile s.target = .ok (some head)) :
  MergesSafely ext host target nowMs mode s
    ↔ ∃ m localSet remoteSet base, mode = some m
      ∧ MergeSides ext host s file head localSet remoteSet base
      ∧ SafeMerge m (deltaChangeSet localSet base) (deltaChangeSet remoteSet base) nowMs
  := by
  constructor
  · rintro ⟨m, preview, rfl, hpreview, hsafe⟩
    have hreads : (syncMergePreviewFileTarget ext target none nowMs).AllOps Op.Reads :=
      syncMergePreviewFileTarget_reads none
    have hrun : (syncMergePreviewFileTarget ext target none nowMs).eval (perform ext host) s
        = (.ok preview, s) := Prod.ext hpreview (eval_reads ext host hreads s)
    simp only [syncMergePreviewFileTarget, Prog.eval_bind_eq_ok, eval_ensureSyncTables_eq_ok,
      eval_readHead, eval_readState_eq_ok, eval_buildLocalSnapshot, Prog.eval_ofExcept,
      okOrElse_eq_ok, eval_snapshotChangeSet_eq_ok, eval_baseChangeSet_eq_ok,
      Prod.mk.injEq] at hrun
    obtain ⟨_, _, ⟨rfl, -⟩, found, _, ⟨hh, rfl⟩, head', _, ⟨rfl, rfl⟩, seen, _,
      ⟨rfl, file', hf, hseen⟩, ⟨bundle, hash⟩, _, ⟨hb, rfl⟩, localSet, _, ⟨hl, rfl⟩, remoteSet, _,
      ⟨rfl, hr⟩, base, _, ⟨rfl, hbase⟩, hmerge, -⟩ := hrun
    obtain rfl : file = file' := by simpa [hopened] using hf
    obtain rfl : head = head' := by simpa [hfound] using hh
    simp only [previewMerge, mergePreviewReportForPolicy, AppResult.bind_eq_ok] at hmerge
    obtain ⟨report, hreport, hmerge⟩ := hmerge
    cases hmerge
    subst hseen
    exact ⟨m, localSet, remoteSet, base, rfl,
      ⟨hopened, hfound, ⟨bundle, hash, hb, hl⟩, hr, hbase⟩, report, hreport, hsafe⟩
  · rintro ⟨m, localSet, remoteSet, base, rfl, ⟨-, -, ⟨bundle, hash, hb, hl⟩, hr, hbase⟩, report,
      hreport, hsafe⟩
    let preview : SyncMergePreviewResultV1 := {
      targetPath := target
      seenRemoteSnapshotId := file.db.readState "sync_remote_head_seen"
      remoteSnapshotId := head.snapshotId
      report }
    refine ⟨m, preview, rfl, ?_, hsafe⟩
    have hrun : (syncMergePreviewFileTarget ext target none nowMs).eval (perform ext host) s
        = (.ok preview, s) := by
      simp only [syncMergePreviewFileTarget, Prog.eval_bind_eq_ok, eval_ensureSyncTables_eq_ok,
        eval_readHead, eval_readState_eq_ok, eval_buildLocalSnapshot, Prog.eval_ofExcept,
        okOrElse_eq_ok, eval_snapshotChangeSet_eq_ok, eval_baseChangeSet_eq_ok,
        Prod.mk.injEq]
      refine ⟨(), s, ⟨rfl, file, hopened⟩, some head, s, ⟨hfound, rfl⟩, head, s, ⟨rfl, rfl⟩, _, s,
        ⟨rfl, file, hopened, rfl⟩, (bundle, hash), s, ⟨hb, rfl⟩, localSet, s, ⟨hl, rfl⟩,
        remoteSet, s, ⟨rfl, hr⟩, base, s, ⟨rfl, hbase⟩, ?_, rfl⟩
      simp [previewMerge, mergePreviewReportForPolicy, hreport, bind, Except.bind, preview]
    rw [hrun]

/-! ### What a pull leaves -/

/-- Whether an entry is in the vault once the trees of a snapshot are in place: its row is in
the database of the snapshot, if the snapshot brings one, and its file is in the store of the
snapshot, if it brings one. -/
def Carried (src vault : Dir Content) (item : Item) : Prop :=
  Lists (if src.contains TopDir.db.path then src else vault) item
    ∧ HasFile (if src.contains TopDir.store.path then src else vault) item

/-- The trees of a snapshot are put in place, and the database is opened. -/
def PutsInPlace (ext : Externals) (host : Host) (src vault : Dir Content) : Prop :=
  validateSnapshotDirLimits ext src syncSnapshotLimits = .ok ()
    ∧ TreesAreDirectories src
    ∧ ∃ vault', Vault.openDb ext host (applied src vault) = .ok vault'

theorem get_dbPath_applied {src vault : Dir Content} (htop : TreesAreDirectories src) :
  (applied src vault).get Vault.dbPath
    = (if src.contains TopDir.db.path then src else vault).get Vault.dbPath
  := by
  cases hdb : src.contains TopDir.db.path with
  | true => exact get_applied_of_under htop hdb (by decide)
  | false =>
    apply get_applied_of_not
    intro top htop
    cases top with
    | db => simp [hdb] at htop
    | store | index => rfl

theorem get_objectPath_applied {src vault : Dir Content} {hash : String} {path : RelPath}
    (htop : TreesAreDirectories src) (hpath : objectPath hash = some path) :
  (applied src vault).get path
    = (if src.contains TopDir.store.path then src else vault).get path
  := by
  have hu : Dir.under TopDir.store.path path = true :=
    TopDir.under_path.mpr (head_objectPath hpath)
  cases hstore : src.contains TopDir.store.path with
  | true => exact get_applied_of_under htop hstore hu
  | false =>
    apply get_applied_of_not
    intro top hc
    by_contra hu'
    obtain rfl := under_unique (by simpa using hu') hu
    simp [hstore] at hc

theorem dbPath_ne_objectPath {hash : String} {path : RelPath}
    (hpath : objectPath hash = some path) :
  Vault.dbPath ≠ path
  := by
  rintro rfl
  exact absurd (head_objectPath hpath) (by decide)

/-- After a pull, the vault holds the entries that are carried. -/
theorem holds_pulled_iff {src vault : Dir Content} {head : SyncHeadV1} {bundleRelpath : String}
    {key : Option String} {file : SqliteFile} {item : Item} (htop : TreesAreDirectories src)
    (hopen : Vault.openDbFile ext key ((applied src vault).get Vault.dbPath) = .ok file) :
  Holds (pulled ext head bundleRelpath nowMs src vault file) item ↔ Carried src vault item
  := by
  have hlists : Lists (pulled ext head bundleRelpath nowMs src vault file) item
      ↔ Lists (if src.contains TopDir.db.path then src else vault) item := by
    rw [← lists_congr (get_dbPath_applied htop)]
    exact lists_recorded_iff hopen
  have hfile : HasFile (pulled ext head bundleRelpath nowMs src vault file) item
      ↔ HasFile (if src.contains TopDir.store.path then src else vault) item := by
    cases item with
    | document _ | overlay _ => rfl
    | object hash =>
      simp only [HasFile, pulled, Dir.get_write]
      constructor
      · rintro ⟨path, content, hpath, hget⟩
        rw [if_neg (dbPath_ne_objectPath hpath), get_objectPath_applied htop hpath] at hget
        exact ⟨path, content, hpath, hget⟩
      · rintro ⟨path, content, hpath, hget⟩
        refine ⟨path, content, hpath, ?_⟩
        rw [if_neg (dbPath_ne_objectPath hpath), get_objectPath_applied htop hpath, hget]
  rw [Holds, hlists, hfile, Carried]

/-! ### Losing nothing -/

/-- The rows of the vault show that both sides have changed. -/
def HasDiverged (ext : Externals) (host : Host) (s : Site) : Prop :=
  ∃ file head bundle hash, Vault.dbFile s.vault = some file
    ∧ readHeadFile s.target = .ok (some head)
    ∧ localSnapshot ext host s.vault false = .ok (bundle, hash)
    ∧ Diverged (some head) file.db hash

/-- What is asked of a pull that goes on past a conflict: when it succeeds, the vault holds
what the local side had changed and what the remote side has. -/
def MergeLosesNothing (ext : Externals) (host : Host) (target : String) (nowMs : Int64)
    (mode : Option SyncAutoMergeMode) (strictAuth : Bool) (s : Site) : Prop :=
  let run := (syncPullWithMode ext target nowMs mode strictAuth).eval (perform ext host) s
  HasDiverged ext host s → ∀ r, run.1 = .ok r →
    ∀ file head localSet remoteSet base,
      MergeSides ext host s file head localSet remoteSet base →
      ∀ item, Changes (deltaChangeSet localSet base) item ∨ Changes remoteSet item →
        Holds run.2.vault item

/-- A pull that goes on past a conflict drops an entry: it passes its checks, its mode takes
the merge for safe, the trees of the snapshot are put in place, and an entry of the local delta
or of the remote snapshot is not carried. -/
def MergeDrops (ext : Externals) (host : Host) (target : String) (nowMs : Int64)
    (mode : Option SyncAutoMergeMode) (strictAuth : Bool) (s : Site) : Prop :=
  ∃ file vault head bundle hash m localSet remoteSet base,
    PullReads ext host target strictAuth s file vault head bundle hash
      ∧ Diverged (some head) file.db hash
      ∧ mode = some m
      ∧ MergeSides ext host s file head localSet remoteSet base
      ∧ SafeMerge m (deltaChangeSet localSet base) (deltaChangeSet remoteSet base) nowMs
      ∧ PutsInPlace ext host (s.snapshot head.snapshotId) s.vault
      ∧ ∃ item, (Changes (deltaChangeSet localSet base) item ∨ Changes remoteSet item)
        ∧ ¬ Carried (s.snapshot head.snapshotId) s.vault item

theorem eval_finishPull_snapshot_eq_ok {head : SyncHeadV1} {bundleRelpath : String}
    {r : SyncPullResultV1} {s' : Site}
    (h : (finishPull (.snapshot head.snapshotId) head bundleRelpath nowMs).eval
      (perform ext host) s = (.ok r, s')) :
  PutsInPlace ext host (s.snapshot head.snapshotId) s.vault
    ∧ ∀ item, Holds s'.vault item ↔ Carried (s.snapshot head.snapshotId) s.vault item
  := by
  obtain ⟨hv, htop, -, key, file, hk, hf, rfl⟩ := eval_finishPull_eq_ok.mp h
  constructor
  · exact ⟨hv, htop, _, openDb_eq_ok.mpr ⟨key, file, hk, hf, rfl⟩⟩
  · intro item
    exact holds_pulled_iff htop hf

theorem PutsInPlace.eval_finishPull {head : SyncHeadV1}
    (h : PutsInPlace ext host (s.snapshot head.snapshotId) s.vault) (bundleRelpath : String)
    (nowMs : Int64) :
  ∃ s', (finishPull (.snapshot head.snapshotId) head bundleRelpath nowMs).eval
    (perform ext host) s = (.ok (pullResult head), s')
  := by
  obtain ⟨hv, htop, vault, ho⟩ := h
  obtain ⟨key, file, hk, hf, -⟩ := openDb_eq_ok.mp ho
  exact ⟨_, eval_finishPull_eq_ok.mpr ⟨hv, htop, rfl, key, file, hk, hf, rfl⟩⟩

/-- A pull past a conflict loses nothing exactly when every entry of the local delta and of the
remote snapshot is carried. -/
theorem merge_loses_nothing_iff (ext : Externals) (host : Host) (target : String)
    (nowMs : Int64) (mode : Option SyncAutoMergeMode) (strictAuth : Bool) (s : Site) :
  MergeLosesNothing ext host target nowMs mode strictAuth s
    ↔ ¬ MergeDrops ext host target nowMs mode strictAuth s
  := by
  constructor
  · rintro hkeeps ⟨file, vault, head, bundle, hash, m, localSet, remoteSet, base, hr, hd, rfl,
      hsides, hsafe, hplace, item, hitem, hno⟩
    have hstored : s.target.snapshots.contains head.snapshotId = true := by
      rw [Std.ExtTreeMap.contains_eq_isSome_getElem?, contains_of_extract hsides.remoteSide]
      rfl
    have hmerges : MergesSafely ext host target nowMs (some m) s :=
      (mergesSafely_iff hr.opened hr.found).mpr
        ⟨m, localSet, remoteSet, base, rfl, hsides, hsafe⟩
    obtain ⟨s', hrun⟩ := hplace.eval_finishPull ("snapshots/" ++ head.snapshotId) nowMs
    obtain ⟨-, hholds⟩ := eval_finishPull_snapshot_eq_ok hrun
    have hfull := (eval_syncPullWithMode_accepts ⟨hr, fun _ => hmerges, hstored⟩).trans hrun
    rw [MergeLosesNothing, hfull] at hkeeps
    apply hno
    apply (hholds item).mp
    exact hkeeps ⟨file, head, bundle, hash, hr.opened, hr.found, hr.exported, hd⟩ _ rfl file head
      localSet remoteSet base hsides item hitem
  · rintro hno ⟨file, head, bundle, hash, hf, hh, hb, hd⟩ r hok file' head' localSet remoteSet
      base hsides item hitem
    rcases hrun : (syncPullWithMode ext target nowMs mode strictAuth).eval (perform ext host) s
      with ⟨_, s'⟩
    rw [hrun] at hok
    cases hok
    obtain ⟨head', ⟨file', vault, bundle', hash', hr, hagrees, -⟩, hfinish⟩ :=
      eval_syncPullWithMode_eq_ok.mp hrun
    obtain rfl : file = file' := by simpa [hf] using hr.opened
    obtain rfl : head = head' := by simpa [hh] using hr.found
    obtain ⟨rfl, rfl⟩ : bundle = bundle' ∧ hash = hash' := by simpa [hb] using hr.exported
    obtain ⟨m, _, _, _, rfl, hsides', hsafe⟩ :=
      (mergesSafely_iff hr.opened hr.found).mp (hagrees hd)
    obtain ⟨rfl, rfl, rfl, rfl, rfl⟩ := hsides'.unique hsides
    obtain ⟨hplace, hholds⟩ := eval_finishPull_snapshot_eq_ok hfinish
    apply (hholds item).mpr
    by_contra hcarried
    exact hno ⟨file, vault, head, bundle, hash, m, _, _, _, hr, hd, rfl, hsides, hsafe,
      hplace, item, hitem, hcarried⟩

/-- A vault that has added a document since it has last synchronised, at a target where another
vault has pushed since. -/
def Sample.diverged : Site where
  vault := Sample.vault
    ((Sample.documentDb.writeState "sync_remote_head_seen" "base" 1).writeState
      "sync_last_applied_manifest_hash" "blake3:00" 1)
    [(["store", "objects", "3f", Sample.objectHash], .text "note")]
  target := Sample.target (fileHead "remote" "blake3:00" 2)
    [("base", Sample.snapshotOf (Sample.vault Sample.db [])),
      ("remote", Sample.snapshotOf (Sample.vault Sample.db []))]
  bucket := ∅

/-- The merge is taken for safe, and the object of the document is gone. -/
theorem safe_merge_drops_object :
  ¬ MergeLosesNothing Sample.ext Sample.host "target" 1000 (some .conservative) false
    Sample.diverged
  := by
  obtain ⟨hlocal, hrun⟩ :
      (localSnapshot Sample.ext Sample.host Sample.diverged.vault false).toOption.any
        (fun snapshot => snapshot.2 != "blake3:00"
          && (extractChangeSetFromBundleDir snapshot.1).toOption
            == some { objectHashes := [Sample.objectHash] }) = true
      ∧ (match (syncPullWithMode Sample.ext "target" 1000 (some .conservative) false).eval
          (perform Sample.ext Sample.host) Sample.diverged with
        | (.ok _, after) => (Vault.dbFile after.vault).all fun file =>
            !decide (file.db.Lists (.object Sample.objectHash))
        | (.error _, _) => false) = true := by
    decide +kernel
  have hremote : (extractChangeSetFromBundleDir (Sample.diverged.snapshot "remote")).toOption
      = some {} := by decide +kernel
  have hbase : (extractChangeSetFromBundleDir (Sample.diverged.snapshot "base")).toOption
      = some {} := by decide +kernel
  have hhead : readHeadFile Sample.diverged.target
      = .ok (some (fileHead "remote" "blake3:00" 2)) := Sample.readHeadFile_target _ _
  obtain ⟨file, hfile⟩ : ∃ file, Vault.dbFile Sample.diverged.vault = some file := ⟨_, rfl⟩
  have hseen : file.db.readState "sync_remote_head_seen" = some "base" := by
    cases hfile
    decide
  have hlast : file.db.readState "sync_last_applied_manifest_hash" = some "blake3:00" := by
    cases hfile
    decide
  obtain ⟨⟨bundle, hash⟩, hexport, hlocal⟩ := exists_of_any hlocal
  simp only [Bool.and_eq_true, bne_iff_ne, ne_eq, beq_iff_eq] at hlocal
  have hdiverged : HasDiverged Sample.ext Sample.host Sample.diverged :=
    ⟨file, _, bundle, hash, hfile, hhead, hexport, shouldConflict_iff.mpr
      ⟨⟨_, "base", rfl, hseen, by decide⟩, "blake3:00", hlast, Ne.symm hlocal.1⟩⟩
  have hsides : MergeSides Sample.ext Sample.host Sample.diverged file
      (fileHead "remote" "blake3:00" 2) { objectHashes := [Sample.objectHash] } {} {} := {
    opened := hfile
    found := hhead
    localSide := ⟨bundle, hash, hexport, ok_of_toOption hlocal.2⟩
    remoteSide := ok_of_toOption hremote
    lastSeen := by
      rw [hseen]
      exact ok_of_toOption hbase }
  have hitem : Changes (deltaChangeSet { objectHashes := [Sample.objectHash] } {})
      (.object Sample.objectHash) := by
    simp [Changes, deltaChangeSet]
  rw [MergeLosesNothing]
  intro hkeeps
  split at hrun
  · next r after heq =>
    rw [heq] at hkeeps
    obtain ⟨⟨file', hfile', hrow⟩, -⟩ :=
      hkeeps hdiverged r rfl file _ _ _ _ hsides (.object Sample.objectHash) (.inl hitem)
    rw [hfile'] at hrun
    simp [hrow] at hrun
  · cases hrun

/-! ### Snapshots that are exports -/

theorem objectHashes_entries {vaultDir : Dir Content} {rows : List (String × ObjectRow)}
    {objects : List Export.ExportedObject}
    (h : List.Forall₂ (Export.IsObject vaultDir) rows objects) :
  objectHashes (objects.map Export.ExportedObject.entry) = .ok (rows.map Prod.fst)
  := by
  induction h with
  | nil => rfl
  | cons hrow _ ih => simp [objectHashes, hrow.hash, ih, Json.asStr]

theorem get_objects_manifestOf (opts : Export.ExportOptions) (source : Export.ExportSource) :
  (Export.manifestOf ext opts source).get "objects"
    = some (.arr (source.objects.map Export.ExportedObject.entry))
  := by
  simp [Export.manifestOf, Export.buildManifest, Json.get, List.lookup_cons]

theorem get_db_manifestOf (opts : Export.ExportOptions) (source : Export.ExportSource) :
  ((Export.manifestOf ext opts source).get "db").bind (fun db => db.get "relative_path")
    = some (.str source.vault.db.relativePath)
  := by
  simp [Export.manifestOf, Export.buildManifest, Json.get, List.lookup_cons]

/-- The change set of an export has the objects and the overlays of its database. -/
theorem changes_export_iff {dir : Dir Content} {opts : Export.ExportOptions}
    {source : Export.ExportSource} {set : SyncMergeChangeSetV1} {item : Item}
    (h : Export.IsExport ext dir opts source)
    (hset : extractChangeSetFromBundleDir dir = .ok set) :
  Changes set item ↔ Lists dir item ∧ ∀ id, item ≠ .document id
  := by
  obtain ⟨file, vaultDir, hsrc, ho, -⟩ := h.exists_dbFile
  have hlists : Lists dir item ↔ file.db.Lists item := by
    simp [Lists, h.dbFile_eq hsrc]
  simp only [extractChangeSetFromBundleDir, h.get_manifestPath, okOrElse_some,
    AppResult.ok_bind, Content.parseJson, mapErr_ok, get_objects_manifestOf, Option.bind_some,
    Json.asArray, objectHashes_entries (Export.exportObjects_eq_ok ho), get_db_manifestOf,
    Json.asStr, Option.getD_some, h.usualPlace,
    Export.relPath_usualPlace, h.get_dbPath, hsrc,
    readOverlayIdsFromSnapshotDb] at hset
  split at hset
  · cases hset
    rw [hlists]
    cases item with
    | object hash => simp [Changes, Db.Lists]
    | document id => simp [Changes]
    | overlay id => simp [Changes, Db.Lists]
  · cases hset

/-- A merge with an export that is taken for safe loses nothing only if there is nothing to
lose: no entry of the local delta is carried. -/
theorem carried_iff_of_export {mode : SyncAutoMergeMode} {file : SqliteFile} {head : SyncHeadV1}
    {localSet remoteSet base : SyncMergeChangeSetV1} {opts : Export.ExportOptions}
    {source : Export.ExportSource}
    (hsides : MergeSides ext host s file head localSet remoteSet base)
    (hsafe : SafeMerge mode (deltaChangeSet localSet base) (deltaChangeSet remoteSet base) nowMs)
    (hexport : Export.IsExport ext (s.snapshot head.snapshotId) opts source) :
  (∀ item, Changes (deltaChangeSet localSet base) item ∨ Changes remoteSet item →
      Carried (s.snapshot head.snapshotId) s.vault item)
    ↔ ∀ item, ¬ Changes (deltaChangeSet localSet base) item
  := by
  have hdb : (s.snapshot head.snapshotId).contains TopDir.db.path = true :=
    Dir.contains_of_get (by decide) hexport.get_dbPath
  constructor
  · intro hcarried item hitem
    have hlists := (hcarried item (.inl hitem)).1
    rw [if_pos hdb] at hlists
    obtain ⟨hobjects, hoverlays⟩ := hsafe.disjoint
    cases item with
    | document id => exact hitem
    | object hash =>
      have hremote := (changes_export_iff hexport hsides.remoteSide).mpr ⟨hlists, by simp⟩
      obtain ⟨-, hbase⟩ := List.mem_filter.mp hitem
      exact hobjects hash hitem (List.mem_filter.mpr ⟨hremote, hbase⟩)
    | overlay id =>
      have hremote := (changes_export_iff hexport hsides.remoteSide).mpr ⟨hlists, by simp⟩
      obtain ⟨-, hbase⟩ := List.mem_filter.mp hitem
      exact hoverlays id hitem (List.mem_filter.mpr ⟨hremote, hbase⟩)
  · rintro hnone item (hitem | hitem)
    · exact absurd hitem (hnone item)
    · have hlists := ((changes_export_iff hexport hsides.remoteSide).mp hitem).1
      have hfile := hexport.hasFile_of_lists hlists
      rw [Carried, if_pos hdb]
      use hlists
      split
      · exact hfile
      · next hstore =>
        cases item with
        | document _ | overlay _ => trivial
        | object hash =>
          obtain ⟨path, content, hpath, hget⟩ := hfile
          have hu : Dir.under TopDir.store.path path = true :=
            TopDir.under_path.mpr (head_objectPath hpath)
          exact absurd (Dir.contains_of_get hu hget) hstore

end Sync

end KnowledgeCore
