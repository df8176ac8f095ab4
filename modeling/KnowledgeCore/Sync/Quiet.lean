import KnowledgeCore.Sync.Pull

/-!
# Quiet runs

In a quiet run one process works alone and no operation fails by itself: a site answers every
operation. What the operations and the programs shared by push and pull return then, and what
they leave behind, is a function of the site.
-/

namespace KnowledgeCore

namespace Sync

section Runs

variable {ext : Externals} {host : Host} {s : Site} {file : SqliteFile}

/-! ### The operations -/

@[simp] theorem eval_vaultOpen :
  vaultOpen.eval (perform ext host) s = (Vault.vaultOpen host s.vault, s)
  := Prog.eval_ofExcept _ _

@[simp] theorem eval_exportBundle (opts : Export.ExportOptions) :
  (exportBundle opts).eval (perform ext host) s = (Export.exportBundle ext host s.vault opts, s)
  := Prog.eval_ofExcept _ _

@[simp] theorem eval_readZip (bundle : Dir Content) :
  (readZip bundle).eval (perform ext host) s = (.ok (Export.createDeterministicZip bundle), s)
  := rfl

@[simp] theorem eval_unpackZip (archive : Content)
    (limits : Option SyncSnapshotResourceLimits) :
  (unpackZip archive limits).eval (perform ext host) s
    = (unpackZipSnapshotWithLimits ext archive limits, s)
  := Prog.eval_ofExcept _ _

@[simp] theorem eval_ensureTargetLayout :
  ensureTargetLayout.eval (perform ext host) s = (.ok (), s)
  := rfl

@[simp] theorem eval_readHead :
  readHead.eval (perform ext host) s = (readHeadFile s.target, s)
  := Prog.eval_ofExcept _ _

@[simp] theorem eval_snapshotExists (id : String) :
  (snapshotExists id).eval (perform ext host) s = (.ok (s.target.snapshots.contains id), s)
  := rfl

@[simp] theorem eval_removeSnapshot (id : String) :
  (removeSnapshot id).eval (perform ext host) s = (.ok (), s.eraseSnapshot id)
  := rfl

@[simp] theorem eval_createSnapshot (id : String) :
  (createSnapshot id).eval (perform ext host) s = (.ok (), s.setSnapshot id (s.snapshot id))
  := rfl

@[simp] theorem eval_copyToSnapshot (id : String) (bundle : Dir Content) :
  (copyToSnapshot id bundle).eval (perform ext host) s
    = (.ok (), s.setSnapshot id (Dir.copyTree bundle [] (s.snapshot id)))
  := rfl

@[simp] theorem eval_writeConflict (name : String) (artifact : Content) :
  (writeConflict name artifact).eval (perform ext host) s = (.ok (), s.setConflict name artifact)
  := rfl

@[simp] theorem eval_validateLimits (source : Source) (limits : SyncSnapshotResourceLimits) :
  (validateLimits source limits).eval (perform ext host) s
    = (validateSnapshotDirLimits ext (source.dir s.target) limits, s)
  := Prog.eval_ofExcept _ _

@[simp] theorem eval_sourceHas (source : Source) (top : TopDir) :
  (sourceHas source top).eval (perform ext host) s
    = (.ok ((source.dir s.target).contains top.path), s)
  := rfl

@[simp] theorem eval_topKind (top : TopDir) :
  (topKind top).eval (perform ext host) s = (.ok (kindOf s.vault top), s)
  := rfl

@[simp] theorem eval_removeTop (top : TopDir) :
  (removeTop top).eval (perform ext host) s
    = (.ok (), { s with vault := s.vault.removeAll top.path })
  := rfl

@[simp] theorem eval_createTop (top : TopDir) :
  (createTop top).eval (perform ext host) s
    = (.ok (), { s with vault := s.vault.createDirAll top.path })
  := rfl

@[simp] theorem eval_s3Read (key : String) :
  (s3Read key).eval (perform ext host) s = (.ok s.bucket[key]?, s)
  := rfl

@[simp] theorem eval_s3Write (key : String) (object : Content) :
  (s3Write key object).eval (perform ext host) s
    = (.ok (), { s with bucket := s.bucket.insert key object })
  := rfl

@[simp] theorem eval_s3Delete (key : String) :
  (s3Delete key).eval (perform ext host) s = (.ok (), { s with bucket := s.bucket.erase key })
  := rfl

theorem eval_s3WriteIfAbsent (key : String) (object : Content) :
  (s3WriteIfAbsent key object).eval (perform ext host) s =
    if s.bucket.contains key then (.ok false, s)
    else (.ok true, { s with bucket := s.bucket.insert key object })
  := by
  apply (Prog.eval_ofExcept _ _).trans
  rw [perform]

theorem eval_writeHead (head : SyncHeadV1) :
  (writeHead head).eval (perform ext host) s = (.ok (), s.setHead (.json head.toJson 0))
  := by
  apply (Prog.eval_ofExcept _ _).trans
  rw [perform, SyncHeadV1.ofCanonical_toJson]

/-! ### The operations on the open database -/

theorem withDb_eq {α : Type} {f : SqliteFile → AppResult α × Site}
    (h : Vault.dbFile s.vault = some file) :
  withDb s f = f file
  := by
  simp [withDb, h]

theorem withDb_eq_ok {α : Type} {f : SqliteFile → AppResult α × Site} {a : α} {s' : Site} :
  withDb s f = (.ok a, s') ↔ ∃ file, Vault.dbFile s.vault = some file ∧ f file = (.ok a, s')
  := by
  cases h : Vault.dbFile s.vault <;> simp [withDb, h]

theorem eval_ensureSyncTables_eq_ok {u : Unit} {s' : Site} :
  ensureSyncTables.eval (perform ext host) s = (.ok u, s')
    ↔ s' = s ∧ ∃ file, Vault.dbFile s.vault = some file
  := by
  have : ensureSyncTables.eval (perform ext host) s = withDb s fun _ => (.ok (), s) :=
    Prog.eval_ofExcept _ _
  rw [this, withDb_eq_ok]
  simp [eq_comm, and_comm]

theorem eval_mainDbPath_eq_ok {u : Unit} {s' : Site} :
  mainDbPath.eval (perform ext host) s = (.ok u, s') ↔ s' = s ∧ ∃ file, Vault.dbFile s.vault = some file
  := by
  have : mainDbPath.eval (perform ext host) s = withDb s fun _ => (.ok (), s) :=
    Prog.eval_ofExcept _ _
  rw [this, withDb_eq_ok]
  simp [eq_comm, and_comm]

theorem eval_readState_eq_ok {key : String} {value : Option String} {s' : Site} :
  (readState key).eval (perform ext host) s = (.ok value, s')
    ↔ s' = s ∧ ∃ file, Vault.dbFile s.vault = some file ∧ file.db.readState key = value
  := by
  have : (readState key).eval (perform ext host) s = withDb s fun file => (.ok (file.db.readState key), s)
    := Prog.eval_ofExcept _ _
  rw [this, withDb_eq_ok]
  constructor
  · rintro ⟨file, hf, h⟩
    cases h
    use rfl, file
  · rintro ⟨rfl, file, hf, rfl⟩
    use file

theorem eval_readDb_eq_ok {db : Db} {s' : Site} :
  readDb.eval (perform ext host) s = (.ok db, s')
    ↔ s' = s ∧ ∃ file, Vault.dbFile s.vault = some file ∧ file.db = db
  := by
  have : readDb.eval (perform ext host) s = withDb s fun file => (.ok file.db, s) :=
    Prog.eval_ofExcept _ _
  rw [this, withDb_eq_ok]
  constructor
  · rintro ⟨file, hf, h⟩
    cases h
    use rfl, file
  · rintro ⟨rfl, file, hf, rfl⟩
    use file

theorem eval_writeState (key value : String) (nowMs : Int64)
    (h : Vault.dbFile s.vault = some file) :
  (writeState key value nowMs).eval (perform ext host) s
    = (.ok (), commitDb ext s file (file.db.writeState key value nowMs))
  := by
  apply (Prog.eval_ofExcept _ _).trans
  rw [perform, withDb_eq h]

theorem eval_writeSnapshotLog (id : String) (row : SyncSnapshotRow)
    (h : Vault.dbFile s.vault = some file) :
  (writeSnapshotLog id row).eval (perform ext host) s
    = (.ok (), commitDb ext s file (file.db.writeSnapshotLog id row))
  := by
  apply (Prog.eval_ofExcept _ _).trans
  rw [perform, withDb_eq h]

@[simp] theorem dbFile_commitDb (db : Db) :
  Vault.dbFile (commitDb ext s file db).vault = some (ext.commit file db)
  := by
  simp [Vault.dbFile_eq_some, commitDb]

@[simp] theorem target_commitDb (db : Db) :
  (commitDb ext s file db).target = s.target
  := rfl

@[simp] theorem bucket_commitDb (db : Db) :
  (commitDb ext s file db).bucket = s.bucket
  := rfl

theorem get_commitDb (db : Db) {p : RelPath} (hp : p ≠ Vault.dbPath) :
  (commitDb ext s file db).vault.get p = s.vault.get p
  := by
  rw [commitDb, Dir.get_write, if_neg hp.symm]

/-! ### Rows of the last synchronisation -/

/-- The snapshot a vault has last seen as the head of its target. -/
def seenRemote (vault : Dir Content) : Option String :=
  (Vault.db vault).bind fun db => db.readState "sync_remote_head_seen"

theorem seenRemote_eq {vault : Dir Content} {file : SqliteFile}
    (h : Vault.dbFile vault = some file) :
  seenRemote vault = file.db.readState "sync_remote_head_seen"
  := by
  simp [seenRemote, Vault.db, h]

/-- The row a synchronisation leaves in the log. -/
def logRow (direction bundleRelpath manifestHash : String) (nowMs : Int64) : SyncSnapshotRow where
  direction := direction
  createdAtMs := nowMs
  bundleRelpath := bundleRelpath
  manifestHash := manifestHash

/-- The database file after the rows of a synchronisation have been written to it, one
transaction for each. -/
def recordedFile (ext : Externals) (direction snapshotId bundleRelpath manifestHash : String)
    (nowMs : Int64) (file : SqliteFile) : SqliteFile :=
  let seen := ext.commit file
    (file.db.writeState "sync_remote_head_seen" snapshotId nowMs)
  let applied := ext.commit seen
    (seen.db.writeState "sync_last_applied_manifest_hash" manifestHash nowMs)
  let appliedId := ext.commit applied
    (applied.db.writeState "sync_last_applied_snapshot_id" snapshotId nowMs)
  ext.commit appliedId (appliedId.db.writeSnapshotLog snapshotId
    (logRow direction bundleRelpath manifestHash nowMs))

section RecordedFile

variable {direction snapshotId bundleRelpath manifestHash : String} {nowMs : Int64}

@[simp] theorem readState_recordedFile_seen :
  (recordedFile ext direction snapshotId bundleRelpath manifestHash nowMs file).db.readState
    "sync_remote_head_seen" = some snapshotId
  := by
  simp [recordedFile]

@[simp] theorem readState_recordedFile_applied :
  (recordedFile ext direction snapshotId bundleRelpath manifestHash nowMs file).db.readState
    "sync_last_applied_manifest_hash" = some manifestHash
  := by
  simp [recordedFile]

@[simp] theorem objects_recordedFile :
  (recordedFile ext direction snapshotId bundleRelpath manifestHash nowMs file).db.objects
    = file.db.objects
  := by
  simp [recordedFile]

@[simp] theorem docs_recordedFile :
  (recordedFile ext direction snapshotId bundleRelpath manifestHash nowMs file).db.docs
    = file.db.docs
  := by
  simp [recordedFile]

@[simp] theorem lineageOverlays_recordedFile :
  (recordedFile ext direction snapshotId bundleRelpath manifestHash nowMs
    file).db.lineageOverlays = file.db.lineageOverlays
  := by
  simp [recordedFile]

@[simp] theorem key_recordedFile :
  (recordedFile ext direction snapshotId bundleRelpath manifestHash nowMs file).key = file.key
  := by
  simp [recordedFile]

@[simp] theorem userVersion_recordedFile :
  (recordedFile ext direction snapshotId bundleRelpath manifestHash nowMs file).db.userVersion
    = file.db.userVersion
  := by
  simp [recordedFile]

@[simp] theorem recoveryEscrowConfigs_recordedFile :
  (recordedFile ext direction snapshotId bundleRelpath manifestHash nowMs
    file).db.recoveryEscrowConfigs = file.db.recoveryEscrowConfigs
  := by
  simp [recordedFile]

end RecordedFile

/-- The site after the rows of a synchronisation have been written. -/
def recorded (ext : Externals) (direction snapshotId bundleRelpath manifestHash : String)
    (nowMs : Int64) (file : SqliteFile) (s : Site) : Site :=
  let after := recordedFile ext direction snapshotId bundleRelpath manifestHash nowMs file
  { s with vault := s.vault.write Vault.dbPath (.sqlite after) }

theorem write_write (d : Dir Content) (p : RelPath) (c c' : Content) :
  (d.write p c).write p c' = d.write p c'
  := by
  apply Dir.ext_get
  · intro q
    simp only [Dir.get_write]
    split <;> rfl
  · rfl

theorem commitDb_commitDb (file' : SqliteFile) (db db' : Db) :
  commitDb ext (commitDb ext s file db) file' db' = commitDb ext s file' db'
  := by
  simp only [commitDb, write_write]

theorem eval_recordSync (direction snapshotId bundleRelpath manifestHash : String)
    (nowMs : Int64) (h : Vault.dbFile s.vault = some file) :
  (recordSync direction snapshotId bundleRelpath manifestHash nowMs).eval (perform ext host) s
    = (.ok (), recorded ext direction snapshotId bundleRelpath manifestHash nowMs file s)
  := by
  rw [recordSync, Prog.eval_bind_ok (eval_writeState _ _ _ h),
    Prog.eval_bind_ok (eval_writeState _ _ _ (dbFile_commitDb _)),
    Prog.eval_bind_ok (eval_writeState _ _ _ (dbFile_commitDb _)),
    eval_writeSnapshotLog _ _ (dbFile_commitDb _)]
  simp only [commitDb_commitDb]
  rfl

/-! ### Local snapshots -/

/-- An exported bundle has a manifest. -/
theorem computeManifestHash_exportBundle {vaultDir bundle : Dir Content}
    {opts : Export.ExportOptions}
    (h : Export.exportBundle ext host vaultDir opts = .ok bundle) :
  ∃ source, Export.readExportSource ext host vaultDir opts = .ok source
    ∧ computeManifestHash ext bundle
      = .ok (blake3HexPrefixed ext (.json (Export.manifestOf ext opts source) 0))
  := by
  obtain ⟨source, hs, rfl⟩ := Export.exportBundle_eq_ok h
  use source, hs
  simp [computeManifestHash]

/-- What the export of a vault for a snapshot comes to. -/
def localSnapshot (ext : Externals) (host : Host) (vault : Dir Content) (asZip : Bool) :
  AppResult (Dir Content × String)
  := do
  let bundle ← Export.exportBundle ext host vault { includeVectors := true, asZip }
  let manifestHash ← computeManifestHash ext bundle
  .ok (bundle, manifestHash)

theorem eval_exportAndHash (opts : Export.ExportOptions) :
  (do
      let bundle ← exportBundle opts
      let manifestHash ← Prog.ofExcept (computeManifestHash ext bundle)
      pure (bundle, manifestHash)).eval (perform ext host) s
    = (do
        let bundle ← Export.exportBundle ext host s.vault opts
        let manifestHash ← computeManifestHash ext bundle
        .ok (bundle, manifestHash), s)
  := by
  cases h : Export.exportBundle ext host s.vault opts with
  | error e =>
    have hrun : (exportBundle opts).eval (perform ext host) s = (.error e, s) := by
      rw [eval_exportBundle, h]
    rw [Prog.eval_bind_error hrun]
    rfl
  | ok bundle =>
    have hrun : (exportBundle opts).eval (perform ext host) s = (.ok bundle, s) := by
      rw [eval_exportBundle, h]
    rw [Prog.eval_bind_ok hrun]
    cases hm : computeManifestHash ext bundle <;> simp [hm]

@[simp] theorem eval_buildLocalSnapshot :
  (buildLocalSnapshot ext).eval (perform ext host) s = (localSnapshot ext host s.vault false, s)
  := eval_exportAndHash _

@[simp] theorem eval_buildLocalSnapshotZip :
  (buildLocalSnapshotZip ext).eval (perform ext host) s = (localSnapshot ext host s.vault true, s)
  := eval_exportAndHash _

end Runs

/-! ### Targets to run programs at -/

namespace Sample

open KnowledgeCore.Sample

/-- The snapshot a vault is pushed as. -/
def snapshotOf (vault : Dir Content) : Dir Content :=
  ((localSnapshot ext host vault false).toOption.map Prod.fst).getD Dir.empty

/-- A file target without anything. -/
def noTarget : FileTarget where
  head := none
  snapshots := ∅
  conflicts := ∅

/-- A file target with a head and the snapshots given. -/
def target (head : SyncHeadV1) (snapshots : List (String × Dir Content)) : FileTarget where
  head := some (.json head.toJson 0)
  snapshots := snapshots.foldl (fun t e => t.insert e.1 e.2) ∅
  conflicts := ∅

theorem readHeadFile_target (head : SyncHeadV1) (snapshots : List (String × Dir Content)) :
  readHeadFile (target head snapshots) = .ok (some head)
  := by
  simp [readHeadFile, target, parseHead, Content.parseJson, bind, Except.bind]

/-- The first push of an empty vault goes through. -/
example :
  ((syncPush ext "target" 1000).eval (perform ext host) ⟨vault db [], noTarget, ∅⟩).1.isOk = true
  := by decide +kernel

end Sample

end Sync

end KnowledgeCore
