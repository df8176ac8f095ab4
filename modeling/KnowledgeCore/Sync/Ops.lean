import KnowledgeCore.Lib.PathBuf
import KnowledgeCore.Lib.Prog
import KnowledgeCore.SyncAuth
import KnowledgeCore.SyncMerge
import KnowledgeCore.Export

/-!
# The operations of synchronisation

What a synchronising process does to the world one step at a time: it reads and writes the
database of its vault, the trees of the vault, the directory of a file target, and the objects
of a remote target. The operations are answered by a site. An operation may also fail, and
then may leave what it was working on half done.
-/

namespace KnowledgeCore

/-! ### The world -/

/-- The directory of a file target: `head.json`, `snapshots/` and `conflicts/`. -/
structure FileTarget where
  head : Option Content
  snapshots : Table (Dir Content)
  conflicts : Table Content

/-- What one process can reach: the directory of its vault, the directory of a file target,
and the objects of a remote target under their keys. -/
structure Site where
  vault : Dir Content
  target : FileTarget
  bucket : Table Content

namespace Site

def setHead (s : Site) (file : Content) : Site :=
  { s with target := { s.target with head := some file } }

def setSnapshot (s : Site) (id : String) (dir : Dir Content) : Site :=
  { s with target := { s.target with snapshots := s.target.snapshots.insert id dir } }

def eraseSnapshot (s : Site) (id : String) : Site :=
  { s with target := { s.target with snapshots := s.target.snapshots.erase id } }

def setConflict (s : Site) (name : String) (artifact : Content) : Site :=
  { s with target := { s.target with conflicts := s.target.conflicts.insert name artifact } }

/-- The directory of a snapshot, empty if there is none. -/
def snapshot (s : Site) (id : String) : Dir Content :=
  s.target.snapshots.getD id Dir.empty

end Site

/-- A tree of the vault that a snapshot replaces. -/
inductive TopDir
  | db
  | store
  | index
deriving DecidableEq

namespace TopDir

/-- The trees in the order they are replaced. -/
def all : List TopDir := [.db, .store, .index]

def name : TopDir → String
  | .db => "db"
  | .store => "store"
  | .index => "index"

/-- The path of a tree below the vault. -/
def path (top : TopDir) : RelPath := [top.name]

theorem under_path {top : TopDir} {p : RelPath} :
  Dir.under top.path p = true ↔ p.head? = some top.name
  := by
  cases p with
  | nil => simp [Dir.under, path]
  | cons c p => simpa [Dir.under, path, List.isPrefixOf] using eq_comm

end TopDir

/-- Where a snapshot is applied from: the target, or the directory an archive was unpacked
into. -/
inductive Source
  | snapshot (id : String)
  | unpacked (dir : Dir Content)

/-- The directory of a source. -/
def Source.dir (source : Source) (target : FileTarget) : Dir Content :=
  match source with
  | .snapshot id => target.snapshots.getD id Dir.empty
  | .unpacked dir => dir

structure SyncSnapshotResourceLimits where
  maxArchiveBytes : Nat
  maxEntries : Nat
  maxEntryBytes : Nat

/-! ### The operations -/

inductive Op
  /-- Read and check `vault.json` -/
  | vaultOpen
  /-- Export the vault into a staging directory -/
  | exportBundle (opts : Export.ExportOptions)
  /-- Read the archive of a staged bundle -/
  | readZip (bundle : Dir Content)
  /-- Unpack an archive into a fresh directory -/
  | unpackZip (archive : Content) (limits : Option SyncSnapshotResourceLimits)
  | ensureSyncTables
  | mainDbPath
  | readState (key : String)
  | writeState (key value : String) (nowMs : Int64)
  | writeSnapshotLog (snapshotId : String) (row : SyncSnapshotRow)
  /-- Read the tables the trust checks look at -/
  | readDb
  /-- Open the database of the vault anew -/
  | openDb
  | ensureTargetLayout
  | readHead
  | writeHead (head : SyncHeadV1)
  | snapshotExists (id : String)
  | removeSnapshot (id : String)
  | createSnapshot (id : String)
  | copyToSnapshot (id : String) (bundle : Dir Content)
  | readSnapshot (id : String)
  | writeConflict (name : String) (artifact : Content)
  | validateLimits (source : Source) (limits : SyncSnapshotResourceLimits)
  | sourceHas (source : Source) (top : TopDir)
  /-- Whether the vault has a directory, a file or nothing for a tree -/
  | topKind (top : TopDir)
  | removeTop (top : TopDir)
  | createTop (top : TopDir)
  | copyTop (source : Source) (top : TopDir)
  | s3Read (key : String)
  | s3Write (key : String) (object : Content)
  | s3WriteIfAbsent (key : String) (object : Content)
  | s3Delete (key : String)

/-- What is at the place of a tree. -/
inductive Kind
  | absent
  | file
  | directory
deriving DecidableEq

namespace Op

/-- The answers to an operation. -/
@[reducible] def Ans : Op → Type
  | vaultOpen => AppResult VaultJsonV3
  | exportBundle _ => AppResult (Dir Content)
  | readZip _ => AppResult Content
  | unpackZip _ _ => AppResult (Dir Content)
  | ensureSyncTables => AppResult Unit
  | mainDbPath => AppResult Unit
  | readState _ => AppResult (Option String)
  | writeState _ _ _ => AppResult Unit
  | writeSnapshotLog _ _ => AppResult Unit
  | readDb => AppResult Db
  | openDb => AppResult Unit
  | ensureTargetLayout => AppResult Unit
  | readHead => AppResult (Option SyncHeadV1)
  | writeHead _ => AppResult Unit
  | snapshotExists _ => Bool
  | removeSnapshot _ => AppResult Unit
  | createSnapshot _ => AppResult Unit
  | copyToSnapshot _ _ => AppResult Unit
  | readSnapshot _ => AppResult (Dir Content)
  | writeConflict _ _ => AppResult Unit
  | validateLimits _ _ => AppResult Unit
  | sourceHas _ _ => Bool
  | topKind _ => Kind
  | removeTop _ => AppResult Unit
  | createTop _ => AppResult Unit
  | copyTop _ _ => AppResult Unit
  | s3Read _ => AppResult (Option Content)
  | s3Write _ _ => AppResult Unit
  | s3WriteIfAbsent _ _ => AppResult Bool
  | s3Delete _ => AppResult Unit

end Op

/-- A synchronising program. -/
abbrev SyncM (α : Type) := Prog Op Op.Ans AppError α

namespace Sync

/-! ### Archives and limits -/

def resourceLimitExceeded (message : String) (details : List (String × Json)) : AppError :=
  syncError "KC_RESOURCE_LIMIT_EXCEEDED" message (.obj details)

/-- Whether a component of an entry path is a plain name. -/
def plainComponent (part : String) : Bool :=
  part ≠ ".."

/-- The path an entry of an archive is unpacked to. A dot counts as a component only where the
path starts with it. -/
def safeZipRelativePath (name : String) : AppResult RelPath :=
  let path := Export.relPath name
  if name.toList.head? = some '/' ∨ (PathBuf.pieces [] name.toList).head? = some ['.']
      ∨ path.all plainComponent = false then
    .error (syncError "KC_SYNC_TARGET_INVALID"
      "sync snapshot zip contains invalid entry path" (.obj [("entry", .str name)]))
  else if path.isEmpty then
    .error (syncError "KC_SYNC_TARGET_INVALID"
      "sync snapshot zip contains empty entry path" (.obj [("entry", .str name)]))
  else
    .ok path

/-- Check the entries of an archive against the limits, given how many came before. -/
def checkEntries (ext : Externals) (limits : SyncSnapshotResourceLimits) :
    Nat → List (String × Content) → AppResult Unit
  | _, [] => .ok ()
  | count, (name, content) :: rest =>
    if count + 1 > limits.maxEntries then
      .error (resourceLimitExceeded "sync snapshot zip exceeds configured entry limit"
        [("entries", .int (count + 1)), ("max_entries", .int limits.maxEntries)])
    else if ext.byteLen content > limits.maxEntryBytes then
      .error (resourceLimitExceeded "sync snapshot zip entry exceeds configured byte limit"
        [("entry", .str name), ("bytes", .int (ext.byteLen content)),
          ("max_entry_bytes", .int limits.maxEntryBytes)])
    else
      checkEntries ext limits (count + 1) rest

/-- Write the entries of an archive into a directory. -/
def writeEntries (d : Dir Content) : List (String × Content) → AppResult (Dir Content)
  | [] => .ok d
  | (name, content) :: rest => do
    let path ← safeZipRelativePath name
    writeEntries (d.write path content) rest

/-- Unpack an archive into a fresh directory. An archive that exceeds the limits, if there are
any, is refused before an entry is written. -/
def unpackZipSnapshotWithLimits (ext : Externals) (archive : Content)
    (limits : Option SyncSnapshotResourceLimits) :
  AppResult (Dir Content)
  := do
  match limits with
  | some limits =>
    if ext.byteLen archive > limits.maxArchiveBytes then
      .error (resourceLimitExceeded "sync snapshot archive exceeds configured byte limit"
        [("bytes", .int (ext.byteLen archive)),
          ("max_archive_bytes", .int limits.maxArchiveBytes)])
    else
      .ok ()
  | none => .ok ()
  match archive with
  | .zip entries => do
    let files := entries.filter (fun entry => entry.1.toList.getLast? ≠ some '/')
    match limits with
    | some limits => checkEntries ext limits 0 files
    | none => .ok ()
    writeEntries Dir.empty (files.insertionSort (fun a b => a.1 ≤ b.1))
  | _ =>
    .error (syncError "KC_SYNC_TARGET_INVALID" "failed opening sync snapshot zip"
      (.obj [("error", .str "invalid Zip archive")]))

/-- The files of the trees of a snapshot, in the order of their paths. -/
def snapshotFiles (dir : Dir Content) : List (RelPath × Content) :=
  (dir.listFiles []).filter (fun file => TopDir.all.any (fun top => Dir.under top.path file.1))

/-- Check the sizes of the files of a snapshot. -/
def checkFileSizes (ext : Externals) (limits : SyncSnapshotResourceLimits) :
    List (RelPath × Content) → AppResult Unit
  | [] => .ok ()
  | (path, content) :: rest =>
    if ext.byteLen content > limits.maxEntryBytes then
      .error (resourceLimitExceeded
        "sync snapshot directory entry exceeds configured byte limit"
        [("path", .str (Export.renderPath path)), ("bytes", .int (ext.byteLen content)),
          ("max_entry_bytes", .int limits.maxEntryBytes)])
    else
      checkFileSizes ext limits rest

/-- Check the trees of a snapshot against the limits. -/
def validateSnapshotDirLimits (ext : Externals) (dir : Dir Content)
    (limits : SyncSnapshotResourceLimits) :
  AppResult Unit
  :=
  let files := snapshotFiles dir
  if files.length > limits.maxEntries then
    .error (resourceLimitExceeded "sync snapshot directory exceeds configured entry limit"
      [("entries", .int files.length), ("max_entries", .int limits.maxEntries)])
  else
    checkFileSizes ext limits files

/-! ### Reading heads -/

def targetInvalid (message : String) (details : List (String × Json)) : AppError :=
  syncError "KC_SYNC_TARGET_INVALID" message (.obj details)

/-- The head a file holds, if there is a file. -/
def parseHead (message : String) (file : Option Content) : AppResult (Option SyncHeadV1) :=
  match file with
  | none => .ok none
  | some bytes => do
    let head ← mapErr (fun error => targetInvalid message [("error", .str error)])
      (bytes.parseJson >>= SyncHeadV1.ofJson)
    .ok (some head)

/-- The head of a file target. -/
def readHeadFile (target : FileTarget) : AppResult (Option SyncHeadV1) :=
  parseHead "failed parsing sync head file" target.head

/-! ### How a site answers -/

def stateFailed (message : String) : AppError :=
  syncError "KC_SYNC_STATE_FAILED" message

/-- Answer from the open database. -/
def withDb {α : Type} (s : Site) (f : SqliteFile → AppResult α × Site) : AppResult α × Site :=
  match Vault.dbFile s.vault with
  | some file => f file
  | none => (.error (stateFailed "disk I/O error"), s)

/-- Leave the open database with the given tables. -/
def commitDb (ext : Externals) (s : Site) (file : SqliteFile) (db : Db) : Site :=
  { s with vault := s.vault.write Vault.dbPath (.sqlite (ext.commit file db)) }

/-- What is at the place of a tree of the vault. -/
def kindOf (vault : Dir Content) (top : TopDir) : Kind :=
  if !vault.contains top.path then .absent
  else if vault.isFile top.path then .file
  else .directory

/-- The answer of a site to an operation that does not fail by itself, and the site after it. -/
def perform (ext : Externals) (host : Host) : (o : Op) → Site → o.Ans × Site
  | .vaultOpen, s => (Vault.vaultOpen host s.vault, s)
  | .exportBundle opts, s => (Export.exportBundle ext host s.vault opts, s)
  | .readZip bundle, s => (.ok (Export.createDeterministicZip bundle), s)
  | .unpackZip archive limits, s => (unpackZipSnapshotWithLimits ext archive limits, s)
  | .ensureSyncTables, s => withDb s fun _ => (.ok (), s)
  | .mainDbPath, s => withDb s fun _ => (.ok (), s)
  | .readState key, s => withDb s fun file => (.ok (file.db.readState key), s)
  | .writeState key value nowMs, s => withDb s fun file =>
    (.ok (), commitDb ext s file (file.db.writeState key value nowMs))
  | .writeSnapshotLog snapshotId row, s => withDb s fun file =>
    (.ok (), commitDb ext s file (file.db.writeSnapshotLog snapshotId row))
  | .readDb, s => withDb s fun file => (.ok file.db, s)
  | .openDb, s =>
    match Vault.openDb ext host s.vault with
    | .ok vault => (.ok (), { s with vault })
    | .error e => (.error e, s)
  | .ensureTargetLayout, s => (.ok (), s)
  | .readHead, s => (readHeadFile s.target, s)
  | .writeHead head, s =>
    match Content.ofCanonical head.toJson with
    | .ok file => (.ok (), s.setHead file)
    | .error e => (.error e, s)
  | .snapshotExists id, s => (s.target.snapshots.contains id, s)
  | .removeSnapshot id, s => (.ok (), s.eraseSnapshot id)
  | .createSnapshot id, s => (.ok (), s.setSnapshot id (s.snapshot id))
  | .copyToSnapshot id bundle, s =>
    (.ok (), s.setSnapshot id (Dir.copyTree bundle [] (s.snapshot id)))
  | .readSnapshot id, s =>
    (okOrElse (syncError "KC_SYNC_MERGE_PRECONDITION_FAILED"
        "failed reading snapshot manifest for merge preview" (.obj [("path", .str id)]))
      s.target.snapshots[id]?, s)
  | .writeConflict name artifact, s => (.ok (), s.setConflict name artifact)
  | .validateLimits source limits, s =>
    (validateSnapshotDirLimits ext (source.dir s.target) limits, s)
  | .sourceHas source top, s => ((source.dir s.target).contains top.path, s)
  | .topKind top, s => (kindOf s.vault top, s)
  | .removeTop top, s => (.ok (), { s with vault := s.vault.removeAll top.path })
  | .createTop top, s => (.ok (), { s with vault := s.vault.createDirAll top.path })
  | .copyTop source top, s =>
    if (source.dir s.target).isFile top.path then
      (.error (targetInvalid "failed copying sync file" [("from", .str top.name)]), s)
    else
      (.ok (), { s with vault := Dir.copyTree (source.dir s.target) top.path s.vault })
  | .s3Read key, s => (.ok s.bucket[key]?, s)
  | .s3Write key object, s => (.ok (), { s with bucket := s.bucket.insert key object })
  | .s3WriteIfAbsent key object, s =>
    if s.bucket.contains key then (.ok false, s)
    else (.ok true, { s with bucket := s.bucket.insert key object })
  | .s3Delete key, s => (.ok (), { s with bucket := s.bucket.erase key })

/-! ### Operations as programs -/

def vaultOpen : SyncM VaultJsonV3 := Prog.op .vaultOpen Prog.ofExcept
def exportBundle (opts : Export.ExportOptions) : SyncM (Dir Content) :=
  Prog.op (.exportBundle opts) Prog.ofExcept
def readZip (bundle : Dir Content) : SyncM Content := Prog.op (.readZip bundle) Prog.ofExcept
def unpackZip (archive : Content) (limits : Option SyncSnapshotResourceLimits) :
  SyncM (Dir Content)
  := Prog.op (.unpackZip archive limits) Prog.ofExcept
def ensureSyncTables : SyncM Unit := Prog.op .ensureSyncTables Prog.ofExcept
def mainDbPath : SyncM Unit := Prog.op .mainDbPath Prog.ofExcept
def readState (key : String) : SyncM (Option String) := Prog.op (.readState key) Prog.ofExcept
def writeState (key value : String) (nowMs : Int64) : SyncM Unit :=
  Prog.op (.writeState key value nowMs) Prog.ofExcept
def writeSnapshotLog (snapshotId : String) (row : SyncSnapshotRow) : SyncM Unit :=
  Prog.op (.writeSnapshotLog snapshotId row) Prog.ofExcept
def readDb : SyncM Db := Prog.op .readDb Prog.ofExcept
def openDb : SyncM Unit := Prog.op .openDb Prog.ofExcept
def ensureTargetLayout : SyncM Unit := Prog.op .ensureTargetLayout Prog.ofExcept
def readHead : SyncM (Option SyncHeadV1) := Prog.op .readHead Prog.ofExcept
def writeHead (head : SyncHeadV1) : SyncM Unit := Prog.op (.writeHead head) Prog.ofExcept
def snapshotExists (id : String) : SyncM Bool := Prog.op (.snapshotExists id) Prog.ret
def removeSnapshot (id : String) : SyncM Unit := Prog.op (.removeSnapshot id) Prog.ofExcept
def createSnapshot (id : String) : SyncM Unit := Prog.op (.createSnapshot id) Prog.ofExcept
def copyToSnapshot (id : String) (bundle : Dir Content) : SyncM Unit :=
  Prog.op (.copyToSnapshot id bundle) Prog.ofExcept
def readSnapshot (id : String) : SyncM (Dir Content) :=
  Prog.op (.readSnapshot id) Prog.ofExcept
def writeConflict (name : String) (artifact : Content) : SyncM Unit :=
  Prog.op (.writeConflict name artifact) Prog.ofExcept
def validateLimits (source : Source) (limits : SyncSnapshotResourceLimits) : SyncM Unit :=
  Prog.op (.validateLimits source limits) Prog.ofExcept
def sourceHas (source : Source) (top : TopDir) : SyncM Bool :=
  Prog.op (.sourceHas source top) Prog.ret
def topKind (top : TopDir) : SyncM Kind := Prog.op (.topKind top) Prog.ret
def removeTop (top : TopDir) : SyncM Unit := Prog.op (.removeTop top) Prog.ofExcept
def createTop (top : TopDir) : SyncM Unit := Prog.op (.createTop top) Prog.ofExcept
def copyTop (source : Source) (top : TopDir) : SyncM Unit :=
  Prog.op (.copyTop source top) Prog.ofExcept
def s3Read (key : String) : SyncM (Option Content) := Prog.op (.s3Read key) Prog.ofExcept
def s3Write (key : String) (object : Content) : SyncM Unit :=
  Prog.op (.s3Write key object) Prog.ofExcept
def s3WriteIfAbsent (key : String) (object : Content) : SyncM Bool :=
  Prog.op (.s3WriteIfAbsent key object) Prog.ofExcept
def s3Delete (key : String) : SyncM Unit := Prog.op (.s3Delete key) Prog.ofExcept

end Sync

end KnowledgeCore
