import KnowledgeCore.DbCipher.Migrate

/-!
# What a migration may lose, and what it may leave behind

Calls that migrate, unlock or open the database follow one another, and each of them may fail or
be cut off at any point.

* As long as each call finds a file at the path of the database, the rows are never lost. A
  call that finds none creates an empty database there, and a migration then clears away the
  files that hold the rows.
* A migration that succeeds leaves an encrypted database and nothing beside it, unless it finds
  a database that is encrypted already: then it leaves beside it whatever is there.
-/

namespace KnowledgeCore.DbCipher

open Vault (keyOf keyOf_of_ne)

/-! ### Calls -/

/-- A call that works on the database file. Opening takes what it reads of the surroundings and
of the vault. -/
inductive Call
  | migrate (passphrase : String)
  | unlock (passphrase : String)
  | openDb (host : Host) (vault : Dir Content)

def Call.Result : Call → Type
  | .migrate _ => DbMigrationOutcome
  | .unlock _ | .openDb _ _ => Unit

def Call.run (path : DbPath) : (call : Call) → Program call.Result
  | .migrate passphrase => migrateDbToSqlcipher path passphrase
  | .unlock passphrase => dbUnlock path passphrase
  | .openDb host vault => DbCipher.openDb path host vault

/-- Whether a migration is made with a passphrase that is known. -/
def Call.Known (known : String → Prop) : Call → Prop
  | .migrate passphrase => known passphrase
  | .unlock _ | .openDb _ _ => True

/-! ### The rows survive -/

section Survival

variable {ext : Externals} {path : DbPath} {known : String → Prop} {original : Db}
  {s t : DbFiles}

/-- A database that holds the rows of the original one, in plain or under a known passphrase.
A file of no bytes does not. -/
def Holds (known : String → Prop) (original : Db) (c : Content) : Prop :=
  ∃ file, c = .sqlite file ∧ SameTables original file.db ∧ ∀ p, file.key = some p → known p

/-- One of the files holds the rows of the original database, and the database file is not
without them. -/
def Survives (known : String → Prop) (original : Db) (s : DbFiles) : Prop :=
  (∃ slot c, s.get slot = some c ∧ Holds known original c) ∧
    ∀ c, s.db = some c → Holds known original c

/-- The database file holds the rows, or it has been moved away and the backup holds them. -/
def Kept (known : String → Prop) (original : Db) (s : DbFiles) : Prop :=
  (∃ c, s.db = some c ∧ Holds known original c) ∨
    (s.db = none ∧ ∃ c, s.bak = some c ∧ Holds known original c)

theorem Kept.survives (h : Kept known original s) : Survives known original s
  := by
  obtain ⟨c, hdb, hc⟩ | ⟨hdb, c, hbak, hc⟩ := h
  · constructor
    · use .db, c, hdb
    · intro c' hdb'
      rw [hdb] at hdb'
      cases hdb'
      apply hc
  · constructor
    · use .bak, c, hbak
    · intro c' hdb'
      rw [hdb] at hdb'
      cases hdb'

theorem Kept.holds (h : Kept known original s) {c : Content} (hdb : s.db = some c) :
  Holds known original c
  := h.survives.2 c hdb

theorem holds_plain (layout : Nat) :
  Holds known original (.sqlite { db := original, key := none, layout })
  := by
  use { db := original, key := none, layout }, rfl, SameTables.refl _
  intro p hp
  cases hp

/-- A copy under a known passphrase holds what the file holds. -/
theorem Holds.copy {passphrase : String} {c : Content} {file : SqliteFile}
    (h : Holds known original c) (hcopy : IsCopy passphrase c file) (hknown : known passphrase) :
  Holds known original (.sqlite file)
  := by
  obtain ⟨file', rfl, hdb, -⟩ := h
  obtain ⟨⟨db, hread, htables⟩, hkey⟩ := hcopy
  obtain rfl := readWith_unique hread (readWith_sqlite rfl)
  use file, rfl, hdb.trans htables
  intro p hp
  rw [hkey, keyOf] at hp
  obtain ⟨-, hp⟩ := Option.ite_none_left_eq_some.mp hp
  cases hp
  apply hknown

/-- So does the file after an upgrade. -/
theorem Holds.upgrade {key : Option String} {c : Content} {db : Db} {file : SqliteFile}
    (h : Holds known original c) (hread : readWith key c = some db)
    (htables : SameTables db file.db) (hkey : file.key = key) :
  Holds known original (.sqlite file)
  := by
  obtain ⟨file', rfl, hdb, hknown⟩ := h
  obtain rfl := readWith_unique hread (readWith_sqlite rfl)
  use file, rfl, hdb.trans htables
  obtain ⟨hkey', -⟩ := Option.ite_none_right_eq_some.mp hread
  rw [hkey, ← hkey']
  apply hknown

/-- Wherever a migration stands, the rows are kept. -/
theorem kept_of_stage {passphrase : String} {c : Content} {old : Option Content}
    (hc : Holds known original c) (hknown : known passphrase) (h : Stage passphrase c old t) :
  Kept known original t
  := by
  cases h with
  | inPlace tmp => exact Or.inl ⟨c, rfl, hc⟩
  | away tmp => exact Or.inr ⟨rfl, c, rfl, hc⟩
  | promoted hcopy => exact Or.inl ⟨_, rfl, hc.copy hcopy hknown⟩
  | migrated hcopy => exact Or.inl ⟨_, rfl, hc.copy hcopy hknown⟩

/-- At every point of a call that finds the database in its place, the rows are kept. -/
theorem kept_safe (call : Call) (hknown : call.Known known) (h : Kept known original s)
    (hdb : s.db.isSome) :
  (call.run path).Safe (Effect ext) (Kept known original) (fun _ _ => True) s
  := by
  obtain ⟨c, hdb⟩ := Option.isSome_iff_exists.mp hdb
  have hc := h.holds hdb
  cases call with
  | migrate passphrase =>
    apply Prog.Safe.mono _ _ (safe_migrateDbToSqlcipher hdb)
    · intro u hu
      apply kept_of_stage hc hknown hu
    · intro r u _
      trivial
  | unlock passphrase =>
    have hslot : s.get .db = some c := hdb
    apply safe_verifyDbPassphrase hslot h
    · intro e
      trivial
    · intro db _
      trivial
  | openDb host vault =>
    apply safe_openDb hdb h
    intro key db file hread htables hkey
    exact Or.inl ⟨_, rfl, hc.upgrade hread htables hkey⟩

/-- A call that finds no database may create an empty one. -/
theorem created_of_none (path : DbPath) (hdb : s.db = none) :
  ∃ q, Prog.Runs (Effect ext) ((Call.unlock "").run path) s q (s.set .db (some emptyFile))
  := by
  have hslot : s.get .db = none := hdb
  constructor
  apply Prog.Runs.step (Effect.created hslot)
  apply Prog.Runs.refl

theorem not_survives_emptyFile : ¬ Survives known original (s.set .db (some emptyFile))
  := by
  intro h
  obtain ⟨file, hfile, -⟩ := h.2 emptyFile rfl
  cases hfile

/-- The files of a vault whose database is plain, whatever is beside it. -/
def plainStart (original : Db) (layout : Nat) (tmp bak : Option Content) : DbFiles where
  db := some (.sqlite { db := original, key := none, layout })
  tmp
  bak

/-- As long as every call finds a file at the path of the database, the rows survive, wherever
the calls fail or are cut off. The next call keeps them at each of its points if and only if it
finds a file there too. -/
theorem survives_while_present {layout : Nat} {tmp bak : Option Content}
    (h : Prog.Reached (Effect ext) (Call.run path)
      (fun call s => call.Known known ∧ s.db.isSome)
      (plainStart original layout tmp bak) s) :
  Survives known original s ∧
    ((∀ (call : Call) q t, call.Known known → Prog.Runs (Effect ext) (call.run path) s q t →
      Survives known original t) ↔ s.db.isSome)
  := by
  have hkept : Kept known original s := by
    apply h.invariant
    · exact Or.inl ⟨_, rfl, holds_plain layout⟩
    · intro call u hu hready
      apply kept_safe call hready.1 hu hready.2
  use hkept.survives
  constructor
  · intro hall
    by_contra hdb
    rw [Option.not_isSome_iff_eq_none] at hdb
    obtain ⟨q, hrun⟩ := created_of_none path hdb
    apply not_survives_emptyFile
    apply hall (.unlock "") q _ trivial hrun
  · intro hdb call q u hknown hrun
    apply ((kept_safe call hknown hkept hdb).always hrun).survives

/-- Where the database file has been moved away, the state is said to be recoverable. -/
theorem derive_of_away {host : Host} {enabled : Bool} (h : Kept known original s)
    (hdb : s.db = none) :
  (deriveDbEncryptionState path host enabled).Safe (Effect ext) (fun t => t = s)
    (fun r _ => r = .ok .migrationFailedRecoverable) s
  := by
  have hbak : (s.get .bak).isSome := by
    obtain ⟨c, hdb', -⟩ | ⟨-, c, hbak, -⟩ := h
    · rw [hdb] at hdb'
      cases hdb'
    · rw [DbFiles.get, hbak]
      rfl
  rw [deriveDbEncryptionState, issue, Prog.safe_perform_bind]
  use rfl
  intro tmpExists t htmp
  cases htmp
  rw [issue, Prog.safe_perform_bind]
  use rfl
  intro bakExists t hexists
  cases hexists
  rw [hbak, Bool.or_true, if_pos rfl]
  exact ⟨rfl, rfl⟩

end Survival

/-! ### A migration that is cut off -/

/-- The database of a vault with one document. -/
def Sample.dbPath : DbPath where
  parent := some "/vault/db"
  name := "knowledge.sqlite"

/-- The files of a vault with one document, before any migration. -/
def Sample.start : DbFiles :=
  plainStart KnowledgeCore.Sample.documentDb 0 none none

/-- The state after a migration that is cut off when it has issued so many operations. -/
def Sample.migrateCut (n : Nat) (s : DbFiles) : DbFiles :=
  (Prog.cut (perform KnowledgeCore.Sample.ext) n (migrateDbToSqlcipher Sample.dbPath "secret") s).2

theorem Sample.runs_migrateCut (n : Nat) (s : DbFiles) :
  ∃ q, Prog.Runs (Effect KnowledgeCore.Sample.ext) ((Call.migrate "secret").run Sample.dbPath) s q
    (Sample.migrateCut n s)
  := ⟨_, Prog.runs_cut (effect_perform _) n _ s⟩

/-- A migration that is cut off after it has moved the database away and before it has put the
copy in its place, followed by another that is cut off after it has cleared away what it found:
no file holds the rows, and an empty database is in the place of the old one. -/
theorem rows_lost :
  ∃ s, Prog.Reached (Effect KnowledgeCore.Sample.ext) (Call.run Sample.dbPath)
      (fun call _ => call.Known (· = "secret")) Sample.start s ∧
    ¬ Survives (· = "secret") KnowledgeCore.Sample.documentDb s ∧
    s.db = some emptyFile ∧
    ∀ slot c, s.get slot = some c → ¬ Holds (· = "secret") KnowledgeCore.Sample.documentDb c
  := by
  have hlost : Sample.migrateCut 5 (Sample.migrateCut 10 Sample.start)
      = { db := some emptyFile } := rfl
  obtain ⟨q, hrun⟩ := Sample.runs_migrateCut 10 Sample.start
  obtain ⟨q', hrun'⟩ := Sample.runs_migrateCut 5 (Sample.migrateCut 10 Sample.start)
  rw [hlost] at hrun'
  have haway : Prog.Reached (Effect KnowledgeCore.Sample.ext) (Call.run Sample.dbPath)
      (fun call _ => call.Known (· = "secret")) Sample.start
      (Sample.migrateCut 10 Sample.start) :=
    Prog.Reached.call (Call.migrate "secret") Prog.Reached.start rfl hrun
  use { db := some emptyFile }, haway.call (Call.migrate "secret") rfl hrun'
  constructor
  · apply not_survives_emptyFile (s := ⟨none, none, none⟩)
  · use rfl
    intro slot c hslot
    rintro ⟨file, rfl, -⟩
    cases slot <;> cases hslot

/-- A migration that is cut off before it has removed the backup leaves the database where it
belongs. -/
theorem survives_while_present_cut :
  Survives (· = "secret") KnowledgeCore.Sample.documentDb (Sample.migrateCut 14 Sample.start) ∧
    ((∀ (call : Call) q t, call.Known (· = "secret") →
      Prog.Runs (Effect KnowledgeCore.Sample.ext) (call.run Sample.dbPath)
        (Sample.migrateCut 14 Sample.start) q t →
      Survives (· = "secret") KnowledgeCore.Sample.documentDb t) ↔
      (Sample.migrateCut 14 Sample.start).db.isSome)
  := by
  obtain ⟨q, hrun⟩ := Sample.runs_migrateCut 14 Sample.start
  have hcut : Prog.Reached (Effect KnowledgeCore.Sample.ext) (Call.run Sample.dbPath)
      (fun call s => call.Known (· = "secret") ∧ s.db.isSome) Sample.start
      (Sample.migrateCut 14 Sample.start) :=
    Prog.Reached.call (Call.migrate "secret") Prog.Reached.start ⟨rfl, rfl⟩ hrun
  apply survives_while_present hcut

/-! ### What is left beside the database -/

section Leftovers

variable {ext : Externals} {path : DbPath} {passphrase : String} {s t : DbFiles}

/-- The database is encrypted, and there is nothing beside it. -/
def Clean (s : DbFiles) : Prop :=
  s.tmp = none ∧ s.bak = none ∧ ∃ file, s.db = some (.sqlite file) ∧ file.key.isSome

/-- The database is encrypted under the passphrase. -/
def EncryptedUnder (passphrase : String) (s : DbFiles) : Prop :=
  ∃ file, s.db = some (.sqlite file) ∧ file.key = some passphrase

theorem keyOf_isSome : (keyOf passphrase).isSome ↔ passphrase ≠ ""
  := by
  rw [keyOf]
  split <;> simpa

/-- Where the copy has replaced a database that was read without a key, all is clean unless the
passphrase is empty. -/
theorem clean_of_copy {c : Content} {file : SqliteFile} (hcopy : IsCopy passphrase c file) :
  Clean { db := some (.sqlite file) } ↔ passphrase ≠ ""
  := by
  rw [← keyOf_isSome, ← hcopy.2]
  constructor
  · rintro ⟨-, -, file', hfile, hkey⟩
    cases hfile
    apply hkey
  · intro hkey
    exact ⟨rfl, rfl, file, rfl, hkey⟩

/-- A database that is read without a key is not encrypted. -/
theorem not_encryptedUnder {c : Content} {db : Db} (hdb : s.db = some c)
    (hread : readWith none c = some db) :
  ¬ EncryptedUnder passphrase s
  := by
  rintro ⟨file, hfile, hkey⟩
  rw [hdb] at hfile
  cases hfile
  obtain ⟨hnone, -⟩ := Option.ite_none_right_eq_some.mp hread
  rw [hkey] at hnone
  cases hnone

/-- Whatever the files are before it, a migration that succeeds leaves an encrypted database and
nothing beside it if and only if the passphrase is not empty and, where the database is encrypted
under it already, there is nothing beside it before. -/
theorem clean_iff {outcome : DbMigrationOutcome}
    (h : Prog.Ends (Effect ext) (migrateDbToSqlcipher path passphrase) s (.ok outcome) t) :
  Clean t ↔
    passphrase ≠ "" ∧ (EncryptedUnder passphrase s → s.tmp = none ∧ s.bak = none)
  := by
  cases hdb : s.db with
  | none =>
    have hnot : ¬ EncryptedUnder passphrase s := by
      rintro ⟨file, hfile, -⟩
      rw [hdb] at hfile
      cases hfile
    have hreturned := (safe_migrateDbToSqlcipher_of_none hdb).ends h
    cases outcome with
    | migrated =>
      obtain ⟨file, hcopy, rfl⟩ := hreturned
      simp [clean_of_copy hcopy, hnot]
    | alreadyEncrypted => exact absurd rfl hreturned.2.1
  | some c =>
    have hreturned := (safe_migrateDbToSqlcipher hdb).ends h
    cases outcome with
    | migrated =>
      obtain ⟨file, hcopy, rfl⟩ := hreturned
      obtain ⟨db, hread, -⟩ := hcopy.1
      simp [clean_of_copy hcopy, not_encryptedUnder hdb hread]
    | alreadyEncrypted =>
      obtain ⟨rfl, hne, db, hread⟩ := hreturned
      obtain ⟨file, rfl, hkey⟩ := eq_sqlite_of_readWith hread hne
      rw [← keyOf_isSome, ← hkey]
      constructor
      · rintro ⟨htmp, hbak, file', hfile, hsome⟩
        rw [hdb] at hfile
        cases hfile
        exact ⟨hsome, fun _ => ⟨htmp, hbak⟩⟩
      · rintro ⟨hsome, hbeside⟩
        have hunder : EncryptedUnder passphrase t := by
          rw [hkey] at hsome
          use file, hdb
          rw [hkey, keyOf_of_ne (keyOf_isSome.mp hsome)]
        obtain ⟨htmp, hbak⟩ := hbeside hunder
        exact ⟨htmp, hbak, file, hdb, hsome⟩

/-- The first migration of a vault leaves nothing beside the database. -/
theorem clean_iff_start :
  Clean (Sample.migrateCut 15 Sample.start) ↔
    "secret" ≠ "" ∧ (EncryptedUnder "secret" Sample.start →
      Sample.start.tmp = none ∧ Sample.start.bak = none)
  := by
  have hend := Prog.ends_eval (effect_perform KnowledgeCore.Sample.ext)
    (migrateDbToSqlcipher Sample.dbPath "secret") Sample.start
  apply clean_iff hend

/-- A migration that is cut off before it has removed the backup, followed by another that
returns at once because the database is encrypted already: the plaintext stays. -/
theorem plaintext_left :
  ∃ s t, Prog.Reached (Effect KnowledgeCore.Sample.ext) (Call.run Sample.dbPath)
      (fun _ _ => True) Sample.start s ∧
    Prog.Ends (Effect KnowledgeCore.Sample.ext) (migrateDbToSqlcipher Sample.dbPath "secret") s
      (.ok .alreadyEncrypted) t ∧
    t.bak = some (.sqlite ⟨KnowledgeCore.Sample.documentDb, none, 0⟩) ∧ ¬ Clean t
  := by
  obtain ⟨q, hrun⟩ := Sample.runs_migrateCut 14 Sample.start
  have hend := Prog.ends_eval (effect_perform KnowledgeCore.Sample.ext)
    (migrateDbToSqlcipher Sample.dbPath "secret") (Sample.migrateCut 14 Sample.start)
  use Sample.migrateCut 14 Sample.start, Sample.migrateCut 14 Sample.start
  constructor
  · apply Prog.Reached.call (Call.migrate "secret") Prog.Reached.start trivial hrun
  · use hend, rfl
    rintro ⟨-, hbak, -⟩
    cases hbak

end Leftovers

end KnowledgeCore.DbCipher
