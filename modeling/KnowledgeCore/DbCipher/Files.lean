import KnowledgeCore.Vault
import KnowledgeCore.Lib.PathBuf
import KnowledgeCore.Lib.CrashLogic

/-!
# The files of a database that is being encrypted

The database file and the two files that a migration keeps beside it, what SQLite reads in a
file with a key or without, and what the file system and SQLite may do when they are asked to
open, read, remove, rename, export or upgrade one of the files.
-/

namespace KnowledgeCore.DbCipher

open Vault (keyOf)

/-! ### Databases in files -/

/-- Whether two databases have the same rows, whatever version their schemas are of. -/
def SameTables (db db' : Db) : Prop :=
  { db with userVersion := db'.userVersion } = db'

theorem SameTables.refl (db : Db) : SameTables db db
  := rfl

theorem SameTables.symm {db db' : Db} (h : SameTables db db') : SameTables db' db
  := by
  rw [SameTables, ← h]

theorem SameTables.trans {db db' db'' : Db} (h : SameTables db db') (h' : SameTables db' db'') :
  SameTables db db''
  := by
  rw [SameTables, ← h', ← h]

/-- A file of no bytes, as opening a connection creates it. -/
def emptyFile : Content := .raw []

/-- What SQLite reads in a file that it opens with a key, or without one. A file of no bytes is
read as a database without tables, whatever the key is. -/
def readWith (key : Option String) : Content → Option Db
  | .raw [] => some Db.empty
  | .sqlite file => if file.key = key then some file.db else none
  | _ => none

@[simp] theorem readWith_emptyFile (key : Option String) :
  readWith key emptyFile = some Db.empty
  := rfl

theorem readWith_sqlite {key : Option String} {file : SqliteFile} (h : file.key = key) :
  readWith key (.sqlite file) = some file.db
  := if_pos h

/-- What is read does not depend on the key. -/
theorem readWith_unique {key key' : Option String} {c : Content} {db db' : Db}
    (h : readWith key c = some db) (h' : readWith key' c = some db') :
  db = db'
  := by
  cases c with
  | raw bytes =>
    cases bytes with
    | nil =>
      cases h
      cases h'
      rfl
    | cons b bytes => cases h
  | sqlite file =>
    obtain ⟨-, h⟩ := Option.ite_none_right_eq_some.mp h
    obtain ⟨-, h'⟩ := Option.ite_none_right_eq_some.mp h'
    cases h
    cases h'
    rfl
  | _ => cases h

/-- What is read in a file that has bytes is a database under the key. -/
theorem eq_sqlite_of_readWith {key : Option String} {c : Content} {db : Db}
    (h : readWith key c = some db) (hne : c ≠ emptyFile) :
  ∃ file, c = .sqlite file ∧ file.key = key
  := by
  cases c with
  | raw bytes =>
    cases bytes with
    | nil => exact absurd rfl hne
    | cons b bytes => cases h
  | sqlite file =>
    obtain ⟨hkey, -⟩ := Option.ite_none_right_eq_some.mp h
    use file
  | _ => cases h

/-- The file as it is before a transaction brings it to the latest schema. A file of no bytes is
like none. -/
def beforeUpgrade : Content → Option Content
  | .raw [] => none
  | c => some c

/-- An upgrade keeps the rows. -/
theorem sameTables_of_upgrade {ext : Externals} {key : Option String} {c : Content}
    {file : SqliteFile} (h : Vault.openDbFile ext key (beforeUpgrade c) = .ok file) :
  ∃ db, readWith key c = some db ∧ SameTables db file.db ∧ file.key = key
  := by
  have hkey := (Vault.openDbFile_eq_ok h).1
  cases c with
  | raw bytes =>
    cases bytes with
    | nil =>
      use Db.empty, rfl
      simp only [beforeUpgrade, Vault.openDbFile, AppResult.bind_eq_ok] at h
      obtain ⟨db, hdb, h⟩ := h
      cases h
      rw [Db.applyMigrations_eq_ok hdb]
      exact ⟨rfl, rfl⟩
    | cons b bytes => cases h
  | sqlite file' =>
    obtain ⟨htables, hkey'⟩ := Vault.openDbFile_tables h
    use file'.db, readWith_sqlite (hkey'.symm.trans hkey)
    constructor
    · rw [htables]
      rfl
    · apply hkey
  | _ => cases h

/-! ### The three files -/

/-- The database file, its encrypted copy, and its backup. -/
inductive Slot
  | db
  | tmp
  | bak
deriving DecidableEq

structure DbFiles where
  db : Option Content
  tmp : Option Content := none
  bak : Option Content := none

namespace DbFiles

def get (files : DbFiles) : Slot → Option Content
  | .db => files.db
  | .tmp => files.tmp
  | .bak => files.bak

def set (files : DbFiles) (slot : Slot) (content : Option Content) : DbFiles :=
  match slot with
  | .db => { files with db := content }
  | .tmp => { files with tmp := content }
  | .bak => { files with bak := content }

variable (files : DbFiles) (slot : Slot) (content : Option Content)

@[simp] theorem get_set_self : (files.set slot content).get slot = content
  := by
  cases slot <;> rfl

@[simp] theorem db_set_db : (files.set .db content).db = content := rfl
@[simp] theorem tmp_set_db : (files.set .db content).tmp = files.tmp := rfl
@[simp] theorem bak_set_db : (files.set .db content).bak = files.bak := rfl
@[simp] theorem db_set_tmp : (files.set .tmp content).db = files.db := rfl
@[simp] theorem tmp_set_tmp : (files.set .tmp content).tmp = content := rfl
@[simp] theorem bak_set_tmp : (files.set .tmp content).bak = files.bak := rfl
@[simp] theorem db_set_bak : (files.set .bak content).db = files.db := rfl
@[simp] theorem tmp_set_bak : (files.set .bak content).tmp = files.tmp := rfl
@[simp] theorem bak_set_bak : (files.set .bak content).bak = content := rfl

/-- Nothing changes when a file is set to what it is. -/
theorem set_get {files : DbFiles} {slot : Slot} {content : Option Content}
    (h : files.get slot = content) :
  files.set slot content = files
  := by
  subst h
  cases slot <;> rfl

end DbFiles

/-! ### Where they are -/

/-- The path of the database: a file name in a directory. A root and the empty path have no
directory. -/
structure DbPath where
  parent : Option String
  name : String

/-- The name of one of the three files. -/
def DbPath.nameOf (path : DbPath) : Slot → String
  | .db => path.name
  | .tmp => PathBuf.withExtension path.name "sqlcipher.tmp"
  | .bak => PathBuf.withExtension path.name "pre-sqlcipher.bak"

/-- The path of one of the three files. -/
def DbPath.of (path : DbPath) (slot : Slot) : String :=
  match path.parent with
  | none => path.nameOf slot
  | some dir => PathBuf.join dir (path.nameOf slot)

/-- The three files are different ones. -/
theorem DbPath.nameOf_injective (path : DbPath) : Function.Injective path.nameOf
  := by
  have htmp := PathBuf.withExtension_ne path.name "sqlcipher" "tmp" (by decide)
  have hbak := PathBuf.withExtension_ne path.name "pre-sqlcipher" "bak" (by decide)
  rw [show "sqlcipher" ++ "." ++ "tmp" = "sqlcipher.tmp" by decide] at htmp
  rw [show "pre-sqlcipher" ++ "." ++ "bak" = "pre-sqlcipher.bak" by decide] at hbak
  have hne : PathBuf.withExtension path.name "sqlcipher.tmp"
      ≠ PathBuf.withExtension path.name "pre-sqlcipher.bak" := by
    intro h
    have hlast := congrArg (fun name => name.toList.getLast?) h
    simp [PathBuf.withExtension, String.toList_append] at hlast
  intro slot slot' h
  cases slot <;> cases slot' <;> simp only [DbPath.nameOf] at h
  case db.tmp => exact absurd h.symm htmp
  case db.bak => exact absurd h.symm hbak
  case tmp.db => exact absurd h htmp
  case tmp.bak => exact absurd h hne
  case bak.db => exact absurd h hbak
  case bak.tmp => exact absurd h.symm hne
  all_goals rfl

/-! ### Operations -/

/-- What the operating system says when a file cannot be removed or read. -/
structure IoError where
  notFound : Bool
  text : String

/-- What is asked of the file system and of SQLite. -/
inductive FileOp
  | createDirAll (dir : String)
  /-- `Connection::open` -/
  | openFile (slot : Slot)
  /-- `PRAGMA key`, `PRAGMA cipher_compatibility` -/
  | keyPragmas (slot : Slot) (passphrase : String)
  /-- `SELECT count(*) FROM sqlite_master`, on a connection with a key or without -/
  | query (slot : Slot) (key : Option String)
  | readFile (slot : Slot)
  | fileExists (slot : Slot)
  | remove (slot : Slot)
  | rename (src dst : Slot)
  /-- `sqlcipher_export` of the database, read without a key, into the encrypted copy -/
  | sqlcipherExport (passphrase : String)
  /-- `PRAGMA foreign_keys` -/
  | foreignKeys
  /-- `apply_migrations`, on a connection with a key or without -/
  | applyMigrations (key : Option String)

abbrev FileAns : FileOp → Type
  | .createDirAll _ | .openFile _ | .keyPragmas _ _ | .query _ _ | .rename _ _
  | .sqlcipherExport _ | .foreignKeys => Except String Unit
  | .readFile _ => Except IoError Content
  | .fileExists _ => Bool
  | .remove _ => Except IoError Unit
  | .applyMigrations _ => AppResult Unit

/-- What the operations may do to the three files. Every one of them may fail, and an export or
an upgrade that fails may have done a part of its work. A transaction is done as a whole or not
at all, and a file of no bytes can always be read. -/
inductive Effect (ext : Externals) :
  (o : FileOp) → DbFiles → FileAns o → DbFiles → Prop
  | createDirAll (dir s a) : Effect ext (.createDirAll dir) s a s
  | opened {slot s c} (h : s.get slot = some c) : Effect ext (.openFile slot) s (.ok ()) s
  | created {slot s} (h : s.get slot = none) :
    Effect ext (.openFile slot) s (.ok ()) (s.set slot (some emptyFile))
  | notOpened (slot s e) : Effect ext (.openFile slot) s (.error e) s
  | keyPragmas (slot passphrase s a) : Effect ext (.keyPragmas slot passphrase) s a s
  | answered {slot key s c db} (h : s.get slot = some c) (hread : readWith key c = some db) :
    Effect ext (.query slot key) s (.ok ()) s
  | unanswered {slot key s e} (h : s.get slot ≠ some emptyFile) :
    Effect ext (.query slot key) s (.error e) s
  | read {slot s c} (h : s.get slot = some c) : Effect ext (.readFile slot) s (.ok c) s
  | nothingToRead {slot s e} (h : s.get slot = none) (he : e.notFound = true) :
    Effect ext (.readFile slot) s (.error e) s
  | notRead {slot s e} (he : e.notFound = false) : Effect ext (.readFile slot) s (.error e) s
  | fileExists (slot s) : Effect ext (.fileExists slot) s (s.get slot).isSome s
  | removed {slot s c} (h : s.get slot = some c) :
    Effect ext (.remove slot) s (.ok ()) (s.set slot none)
  | nothingToRemove {slot s e} (h : s.get slot = none) (he : e.notFound = true) :
    Effect ext (.remove slot) s (.error e) s
  | notRemoved {slot s e} (he : e.notFound = false) : Effect ext (.remove slot) s (.error e) s
  | renamed {src dst s c} (h : s.get src = some c) :
    Effect ext (.rename src dst) s (.ok ()) ((s.set dst (some c)).set src none)
  | notRenamed (src dst s e) : Effect ext (.rename src dst) s (.error e) s
  | exported {passphrase s c db file} (h : s.db = some c) (hread : readWith none c = some db)
    (htables : SameTables db file.db) (hkey : file.key = keyOf passphrase) :
    Effect ext (.sqlcipherExport passphrase) s (.ok ()) (s.set .tmp (some (.sqlite file)))
  | notExported (passphrase s e part) :
    Effect ext (.sqlcipherExport passphrase) s (.error e) (s.set .tmp part)
  | foreignKeys (s a) : Effect ext .foreignKeys s a s
  | upgraded {key s c file} (h : s.db = some c)
    (hup : Vault.openDbFile ext key (beforeUpgrade c) = .ok file) :
    Effect ext (.applyMigrations key) s (.ok ()) (s.set .db (some (.sqlite file)))
  | notUpgraded (key s e) : Effect ext (.applyMigrations key) s (.error e) s
  | partlyUpgraded {key s c db file e} (h : s.db = some c) (hread : readWith key c = some db)
    (htables : SameTables db file.db) (hkey : file.key = key) :
    Effect ext (.applyMigrations key) s (.error e) (s.set .db (some (.sqlite file)))

/-- What the operations do when nothing fails that need not. An export gives the copy the first
layout. -/
def perform (ext : Externals) : (o : FileOp) → DbFiles → FileAns o × DbFiles
  | .createDirAll _, s => (.ok (), s)
  | .openFile slot, s =>
    match s.get slot with
    | some _ => (.ok (), s)
    | none => (.ok (), s.set slot (some emptyFile))
  | .keyPragmas _ _, s => (.ok (), s)
  | .query slot key, s =>
    match (s.get slot).bind (readWith key) with
    | some _ => (.ok (), s)
    | none => (.error "file is not a database", s)
  | .readFile slot, s =>
    match s.get slot with
    | some c => (.ok c, s)
    | none => (.error ⟨true, "No such file or directory (os error 2)"⟩, s)
  | .fileExists slot, s => ((s.get slot).isSome, s)
  | .remove slot, s =>
    match s.get slot with
    | some _ => (.ok (), s.set slot none)
    | none => (.error ⟨true, "No such file or directory (os error 2)"⟩, s)
  | .rename src dst, s =>
    match s.get src with
    | some c => (.ok (), (s.set dst (some c)).set src none)
    | none => (.error "No such file or directory (os error 2)", s)
  | .sqlcipherExport passphrase, s =>
    match s.db.bind (readWith none) with
    | some db =>
      (.ok (), s.set .tmp (some (.sqlite { db, key := keyOf passphrase, layout := 0 })))
    | none => (.error "file is not a database", s.set .tmp none)
  | .foreignKeys, s => (.ok (), s)
  | .applyMigrations key, s =>
    match s.db with
    | some c =>
      match Vault.openDbFile ext key (beforeUpgrade c) with
      | .ok file => (.ok (), s.set .db (some (.sqlite file)))
      | .error e => (.error e, s)
    | none => (.error (Vault.notADatabase key), s)

/-- What is done when nothing fails is among what may be done. -/
theorem effect_perform (ext : Externals) (o : FileOp) (s : DbFiles) :
  Effect ext o s (perform ext o s).1 (perform ext o s).2
  := by
  cases o with
  | createDirAll dir => apply Effect.createDirAll
  | openFile slot =>
    rw [perform]
    split
    · next h => apply Effect.opened h
    · next h => apply Effect.created h
  | keyPragmas slot passphrase => apply Effect.keyPragmas
  | query slot key =>
    rw [perform]
    split
    · next h =>
      obtain ⟨c, hc, hread⟩ := Option.bind_eq_some_iff.mp h
      apply Effect.answered hc hread
    · next h =>
      apply Effect.unanswered
      intro hempty
      rw [hempty] at h
      cases h
  | readFile slot =>
    rw [perform]
    split
    · next h => apply Effect.read h
    · next h => apply Effect.nothingToRead h rfl
  | fileExists slot => apply Effect.fileExists
  | remove slot =>
    rw [perform]
    split
    · next h => apply Effect.removed h
    · next h => apply Effect.nothingToRemove h rfl
  | rename src dst =>
    rw [perform]
    split
    · next h => apply Effect.renamed h
    · apply Effect.notRenamed
  | sqlcipherExport passphrase =>
    rw [perform]
    split
    · next h =>
      obtain ⟨c, hc, hread⟩ := Option.bind_eq_some_iff.mp h
      apply Effect.exported hc hread (SameTables.refl _) rfl
    · apply Effect.notExported
  | foreignKeys => apply Effect.foreignKeys
  | applyMigrations key =>
    rw [perform]
    split
    · next h =>
      split
      · next hup => apply Effect.upgraded h hup
      · apply Effect.notUpgraded
    · apply Effect.notUpgraded

end KnowledgeCore.DbCipher
