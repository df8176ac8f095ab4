import KnowledgeCore.DbCipher.Files

/-!
# Encrypting the database

The calls that work on the database file and the files beside it: the migration that replaces
the database by an encrypted copy, unlocking, opening, and deriving the state of the encryption.
For each part of a call there is a rule that says what keeps it safe.
-/

namespace KnowledgeCore.DbCipher

open Vault (dbError dbEncryptionPassphrase keyOf)

abbrev Program := Prog FileOp FileAns AppError

/-- Issue an operation. -/
def issue (o : FileOp) : Program (FileAns o) := Prog.perform o

/-! ### Keys -/

def validateKeyOnConnection (slot : Slot) (passphrase : String) : Program Unit := do
  let keyed ← issue (.keyPragmas slot passphrase)
  Prog.ofExcept (mapErr
    (fun error => dbError "KC_DB_KEY_INVALID" "failed applying sqlcipher key pragmas"
      (.obj [("error", .str error)]))
    keyed)
  let counted ← issue (.query slot (keyOf passphrase))
  Prog.ofExcept (mapErr
    (fun error => dbError "KC_DB_KEY_INVALID" "provided db passphrase is invalid"
      (.obj [("error", .str error)]))
    counted)

def verifyDbPassphrase (path : DbPath) (slot : Slot) (passphrase : String) : Program Unit := do
  let opened ← issue (.openFile slot)
  Prog.ofExcept (mapErr
    (fun error => dbError "KC_DB_OPEN_FAILED"
      "failed opening database for passphrase validation"
      (.obj [("error", .str error), ("path", .str (path.of slot))]))
    opened)
  validateKeyOnConnection slot passphrase

/-! ### Files -/

def migrationFailed (message : String) (details : Json) : AppError :=
  dbError "KC_DB_ENCRYPTION_MIGRATION_FAILED" message details

/-- The error of a file that is in the way and cannot be removed. -/
def artifactNotCleared (path : DbPath) (slot : Slot) (phase error : String) : AppError :=
  migrationFailed "failed clearing migration artifact"
    (.obj [("phase", .str phase), ("path", .str (path.of slot)), ("error", .str error)])

def removeFileIfExists (path : DbPath) (slot : Slot) (phase : String) : Program Unit := do
  match ← issue (.remove slot) with
  | .ok () => .ret ()
  | .error e =>
    if e.notFound then .ret () else .fail (artifactNotCleared path slot phase e.text)

/-- What an entry of the report on a rollback says of the error of one of its steps. -/
def causeOf (e : AppError) : Json :=
  (e.details.get "error").getD (.str e.message)

/-- Remove a file as a step of a rollback, and report the failure if there is one. -/
def rollbackRemove (path : DbPath) (slot : Slot) (phase operation : String) :
  Program (List Json)
  := do
  match ← (removeFileIfExists path slot phase).attempt with
  | .ok () => .ret []
  | .error e =>
    .ret [.obj [("operation", .str operation), ("path", .str (path.of slot)),
      ("error", causeOf e)]]

/-- Put the backup back in its place as a step of a rollback, and report the failure if there
is one. -/
def restoreBackup (path : DbPath) : Program (List Json) := do
  match ← issue (.rename .bak .db) with
  | .ok () => .ret []
  | .error error =>
    .ret [.obj [("operation", .str "restore_backup"), ("from", .str (path.of .bak)),
      ("to", .str (path.of .db)), ("error", .str error)]]

/-- Go back to the file that was there. The failures are collected, not acted on. -/
def rollbackMigrationFiles (path : DbPath) : Program (Except (List Json) Unit) := do
  let promoted ← rollbackRemove path .db "rollback_remove_promoted_db" "remove_promoted_db"
  let backup ← restoreBackup path
  let copy ← rollbackRemove path .tmp "rollback_remove_tmp" "remove_tmp"
  match promoted ++ backup ++ copy with
  | [] => .ret (.ok ())
  | rollbackErrors => .ret (.error rollbackErrors)

/-! ### The migration -/

inductive DbMigrationOutcome
  | migrated
  | alreadyEncrypted
deriving DecidableEq

/-- An error as JSON. -/
def errorToJson (e : AppError) : Json :=
  .obj [("schema_version", .int e.schemaVersion), ("code", .str e.code),
    ("category", .str e.category), ("message", .str e.message), ("retryable", .bool e.retryable),
    ("details", e.details)]

/-- Make the directory of the database. A path without one cannot be migrated. -/
def createMigrationDir (path : DbPath) : Program Unit := do
  match path.parent with
  | none =>
    .fail (migrationFailed "database path has no parent directory"
      (.obj [("path", .str (path.of .db))]))
  | some dir => do
    let created ← issue (.createDirAll dir)
    Prog.ofExcept (mapErr
      (fun error => migrationFailed "failed creating migration directory"
        (.obj [("error", .str error), ("path", .str dir)]))
      created)

/-- Put the encrypted copy in the place of the database, and see that it can be opened there. -/
def finalize (path : DbPath) (passphrase : String) : Program Unit := do
  let promoted ← issue (.rename .tmp .db)
  Prog.ofExcept (mapErr
    (fun error => migrationFailed "failed promoting encrypted database"
      (.obj [("error", .str error), ("from", .str (path.of .tmp)), ("to", .str (path.of .db))]))
    promoted)
  verifyDbPassphrase path .db passphrase

/-- What is done when the copy could not be put in place. -/
def abandon (path : DbPath) (err : AppError) : Program DbMigrationOutcome := do
  match ← rollbackMigrationFiles path with
  | .ok () => .fail err
  | .error rollbackErrors =>
    .fail (migrationFailed "failed finalizing db migration and rollback"
      (.obj [("finalize_error", errorToJson err), ("rollback_errors", .arr rollbackErrors),
        ("db_path", .str (path.of .db)), ("tmp_path", .str (path.of .tmp)),
        ("backup_path", .str (path.of .bak))]))

/-- Make an encrypted copy of the database, which stays in its place. -/
def exportCopy (path : DbPath) (passphrase : String) : Program Unit := do
  createMigrationDir path
  removeFileIfExists path .tmp "preflight_remove_tmp"
  removeFileIfExists path .bak "preflight_remove_backup"
  let exported ← issue (.sqlcipherExport passphrase)
  Prog.ofExcept (mapErr
    (fun error => migrationFailed "failed running sqlcipher export migration"
      (.obj [("error", .str error)]))
    exported)
  verifyDbPassphrase path .tmp passphrase

/-- Put the encrypted copy in the place of the database, which is kept beside it until the copy
has been opened there. -/
def swapIn (path : DbPath) (passphrase : String) : Program DbMigrationOutcome := do
  let rotated ← issue (.rename .db .bak)
  Prog.ofExcept (mapErr
    (fun error => migrationFailed "failed rotating source database before finalizing migration"
      (.obj [("error", .str error), ("from", .str (path.of .db)), ("to", .str (path.of .bak))]))
    rotated)
  match ← (finalize path passphrase).attempt with
  | .ok () => do
    removeFileIfExists path .bak "finalize_remove_plaintext_backup"
    .ret .migrated
  | .error err => abandon path err

/-- Encrypt the database on which a connection has been opened without a key. -/
def encryptOpened (path : DbPath) (passphrase : String) : Program DbMigrationOutcome := do
  match ← issue (.query .db none) with
  | .error _ => do
    -- The source does not open as plaintext: it counts as encrypted only when the key validates.
    verifyDbPassphrase path .db passphrase
    .ret .alreadyEncrypted
  | .ok () => do
    exportCopy path passphrase
    swapIn path passphrase

def migrateDbToSqlcipher (path : DbPath) (passphrase : String) : Program DbMigrationOutcome := do
  let opened ← issue (.openFile .db)
  Prog.ofExcept (mapErr
    (fun error => migrationFailed "failed opening source database for migration"
      (.obj [("error", .str error), ("path", .str (path.of .db))]))
    opened)
  encryptOpened path passphrase

/-! ### Unlocking and opening -/

/-- Check the passphrase a session is to be unlocked with. -/
def dbUnlock (path : DbPath) (passphrase : String) : Program Unit :=
  verifyDbPassphrase path .db passphrase

/-- The key of the connection, if `vault.json` says that the database is encrypted. -/
def applyDbEncryptionKeyIfNeeded (host : Host) (vault : Dir Content) :
  Program (Option String)
  := do
  match ← Prog.ofExcept (dbEncryptionPassphrase host vault) with
  | none => .ret none
  | some passphrase => do
    validateKeyOnConnection .db passphrase
    .ret (keyOf passphrase)

/-- Make the directory of a database that is to be opened, if its path has one. -/
def createParentDir (path : DbPath) : Program Unit := do
  match path.parent with
  | none => .ret ()
  | some dir => do
    let created ← issue (.createDirAll dir)
    Prog.ofExcept (mapErr
      (fun error => dbError "KC_DB_OPEN_FAILED" "failed to create database parent directory"
        (.obj [("error", .str error)]))
      created)

/-- Open the database of a vault, of which only `vault.json` is read, and bring it to the latest
schema. -/
def openDb (path : DbPath) (host : Host) (vault : Dir Content) : Program Unit := do
  createParentDir path
  let opened ← issue (.openFile .db)
  Prog.ofExcept (mapErr
    (fun error => dbError "KC_DB_OPEN_FAILED" "failed to open sqlite database"
      (.obj [("error", .str error), ("path", .str (path.of .db))]))
    opened)
  let key ← applyDbEncryptionKeyIfNeeded host vault
  let enforced ← issue .foreignKeys
  Prog.ofExcept (mapErr
    (fun error => dbError "KC_DB_OPEN_FAILED" "failed to enable foreign_keys pragma"
      (.obj [("error", .str error)]))
    enforced)
  let upgraded ← issue (.applyMigrations key)
  Prog.ofExcept upgraded

/-! ### The state of the encryption -/

inductive DbEncryptionDerivedState
  | disabledPlaintext
  | pendingMigration
  | migratedLocked
  | migratedUnlocked
  | migrationFailedRecoverable
deriving DecidableEq

def SQLITE_HEADER : String := "SQLite format 3\x00"

/-- Whether a file begins like a database that is not encrypted. -/
def startsWithHeader : Content → Bool
  | .raw bytes => SQLITE_HEADER.toUTF8.data.toList.isPrefixOf bytes
  | .text s => SQLITE_HEADER.toList.isPrefixOf s.toList
  | .sqlite file => file.key.isNone
  | _ => false

/-- A database that is not there counts as one that is not encrypted. -/
def hasPlaintextSqliteHeader (path : DbPath) : Program Bool := do
  match ← issue (.readFile .db) with
  | .ok content => .ret (startsWithHeader content)
  | .error e =>
    if e.notFound then
      .ret true
    else
      .fail (dbError "KC_DB_OPEN_FAILED" "failed reading database header"
        (.obj [("error", .str e.text), ("path", .str (path.of .db))]))

/-- What is to be said of the encryption of the database, with the passphrase of the session or
of the environment. -/
def deriveDbEncryptionState (path : DbPath) (host : Host) (enabled : Bool) :
  Program DbEncryptionDerivedState
  := do
  let tmpExists ← issue (.fileExists .tmp)
  let bakExists ← issue (.fileExists .bak)
  if tmpExists || bakExists then
    .ret .migrationFailedRecoverable
  else if !enabled then
    .ret .disabledPlaintext
  else if ← hasPlaintextSqliteHeader path then
    .ret .pendingMigration
  else
    match Vault.dbPassphraseForVault host with
    | none => .ret .migratedLocked
    | some passphrase => do
      match ← (verifyDbPassphrase path .db passphrase).attempt with
      | .ok () => .ret .migratedUnlocked
      | .error err =>
        if err.code = "KC_DB_KEY_INVALID" then .ret .migratedLocked else .fail err

/-! ### What keeps the parts of a call safe -/

section Rules

variable {ext : Externals} {C : DbFiles → Prop} {path : DbPath} {slot : Slot}
  {passphrase : String} {s : DbFiles} {c : Content}

/-- The check of a passphrase leaves the files as they are, and passes only when the file is
read with the passphrase. -/
theorem safe_validateKeyOnConnection {Q : Except AppError Unit → DbFiles → Prop}
    (hslot : s.get slot = some c) (hC : C s) (herr : ∀ e, Q (.error e) s)
    (hok : ∀ db, readWith (keyOf passphrase) c = some db → Q (.ok ()) s) :
  (validateKeyOnConnection slot passphrase).Safe (Effect ext) C Q s
  := by
  rw [validateKeyOnConnection, issue, Prog.safe_perform_bind]
  use hC
  intro keyed t hkeyed
  cases hkeyed
  rw [Prog.safe_ofExcept_bind]
  use hC
  cases keyed with
  | error e => apply herr
  | ok u =>
    rw [mapErr_ok, Prog.then_ok, issue, Prog.safe_perform_bind]
    use hC
    intro counted t hcounted
    rw [Prog.safe_ofExcept]
    cases hcounted with
    | answered h hread =>
      rw [hslot] at h
      cases h
      exact ⟨hC, hok _ hread⟩
    | unanswered h => exact ⟨hC, herr _⟩

/-- Opening a file that is there, before the rest of a program. -/
theorem safe_openFile {α : Type} {f : String → AppError} {k : Unit → Program α}
    {Q : Except AppError α → DbFiles → Prop} (hslot : s.get slot = some c) (hC : C s)
    (herr : ∀ e, Q (.error e) s) (hk : (k ()).Safe (Effect ext) C Q s) :
  (issue (.openFile slot) >>= fun opened => Prog.ofExcept (mapErr f opened) >>= k).Safe
    (Effect ext) C Q s
  := by
  rw [issue, Prog.safe_perform_bind]
  use hC
  intro opened t hopened
  rw [Prog.safe_ofExcept_bind]
  cases hopened with
  | opened => exact ⟨hC, hk⟩
  | created habsent =>
    rw [hslot] at habsent
    cases habsent
  | notOpened => exact ⟨hC, herr _⟩

theorem safe_verifyDbPassphrase {Q : Except AppError Unit → DbFiles → Prop}
    (hslot : s.get slot = some c) (hC : C s) (herr : ∀ e, Q (.error e) s)
    (hok : ∀ db, readWith (keyOf passphrase) c = some db → Q (.ok ()) s) :
  (verifyDbPassphrase path slot passphrase).Safe (Effect ext) C Q s
  := by
  apply safe_openFile hslot hC herr
  apply safe_validateKeyOnConnection hslot hC herr hok

/-- Removing a file leaves the others as they are. -/
theorem safe_removeFileIfExists {phase : String} {Q : Except AppError Unit → DbFiles → Prop}
    (hC : C s) (hC' : C (s.set slot none)) (herr : ∀ e, Q (.error e) s)
    (hok : Q (.ok ()) (s.set slot none)) :
  (removeFileIfExists path slot phase).Safe (Effect ext) C Q s
  := by
  rw [removeFileIfExists, issue, Prog.safe_perform_bind]
  use hC
  intro removed t hremoved
  cases hremoved with
  | removed h => exact ⟨hC', hok⟩
  | nothingToRemove h he =>
    simp only [he, reduceIte]
    rw [DbFiles.set_get h] at hok
    exact ⟨hC, hok⟩
  | notRemoved he =>
    simp only [he, Bool.false_eq_true, reduceIte]
    exact ⟨hC, herr _⟩

/-- A step of a rollback that removes a file never fails, but may leave the file. -/
theorem safe_rollbackRemove {phase operation : String}
    {Q : Except AppError (List Json) → DbFiles → Prop} (hC : C s) (hC' : C (s.set slot none))
    (hleft : ∀ errors, Q (.ok errors) s) (hremoved : Q (.ok []) (s.set slot none)) :
  (rollbackRemove path slot phase operation).Safe (Effect ext) C Q s
  := by
  rw [rollbackRemove, Prog.safe_bind, Prog.safe_attempt]
  apply safe_removeFileIfExists hC hC'
  · intro e
    exact ⟨hC, hleft _⟩
  · exact ⟨hC', hremoved⟩

/-- Making a directory leaves the files as they are. -/
theorem safe_createDirAll {dir : String} {f : String → AppError}
    {Q : Except AppError Unit → DbFiles → Prop} (hC : C s) (hQ : ∀ r, Q r s) :
  (issue (.createDirAll dir) >>= fun created => Prog.ofExcept (mapErr f created)
    : Program Unit).Safe (Effect ext) C Q s
  := by
  rw [issue, Prog.safe_perform_bind]
  use hC
  intro created t hcreated
  cases hcreated
  rw [Prog.safe_ofExcept]
  use hC
  apply hQ

theorem safe_createMigrationDir {Q : Except AppError Unit → DbFiles → Prop} (hC : C s)
    (hQ : ∀ r, Q r s) :
  (createMigrationDir path).Safe (Effect ext) C Q s
  := by
  rw [createMigrationDir]
  cases path.parent with
  | none => exact ⟨hC, hQ _⟩
  | some dir => apply safe_createDirAll hC hQ

theorem safe_createParentDir {Q : Except AppError Unit → DbFiles → Prop} (hC : C s)
    (hQ : ∀ r, Q r s) :
  (createParentDir path).Safe (Effect ext) C Q s
  := by
  rw [createParentDir]
  cases path.parent with
  | none => exact ⟨hC, hQ _⟩
  | some dir => apply safe_createDirAll hC hQ

/-- The key is applied without touching a file. -/
theorem safe_applyDbEncryptionKeyIfNeeded {host : Host} {vault : Dir Content}
    {Q : Except AppError (Option String) → DbFiles → Prop} (h : s.db = some c) (hC : C s)
    (hQ : ∀ r, Q r s) :
  (applyDbEncryptionKeyIfNeeded host vault).Safe (Effect ext) C Q s
  := by
  rw [applyDbEncryptionKeyIfNeeded, Prog.safe_ofExcept_bind]
  use hC
  cases dbEncryptionPassphrase host vault with
  | error e => apply hQ
  | ok key =>
    rw [Prog.then_ok]
    cases key with
    | none => exact ⟨hC, hQ _⟩
    | some passphrase =>
      have hslot : s.get .db = some c := h
      rw [Prog.safe_bind]
      apply safe_validateKeyOnConnection hslot hC
      · intro e
        apply hQ
      · intro db _
        exact ⟨hC, hQ _⟩

/-- Opening a database that is there leaves the files as they are, or brings the database to
another version of the schema. -/
theorem safe_openDb {host : Host} {vault : Dir Content} (h : s.db = some c) (hC : C s)
    (hup : ∀ key db file, readWith key c = some db → SameTables db file.db → file.key = key →
      C (s.set .db (some (.sqlite file)))) :
  (openDb path host vault).Safe (Effect ext) C (fun _ _ => True) s
  := by
  have hupgrade (key : Option String) :
      (issue (.applyMigrations key) >>= Prog.ofExcept : Program Unit).Safe (Effect ext) C
        (fun _ _ => True) s := by
    rw [issue, Prog.safe_perform_bind]
    use hC
    intro upgraded t hupgraded
    rw [Prog.safe_ofExcept]
    cases hupgraded with
    | upgraded hdb hopen =>
      rw [h] at hdb
      cases hdb
      obtain ⟨db, hread, htables, hkey⟩ := sameTables_of_upgrade hopen
      exact ⟨hup _ _ _ hread htables hkey, trivial⟩
    | notUpgraded => exact ⟨hC, trivial⟩
    | partlyUpgraded hdb hread htables hkey =>
      rw [h] at hdb
      cases hdb
      exact ⟨hup _ _ _ hread htables hkey, trivial⟩
  rw [openDb, Prog.safe_bind]
  apply safe_createParentDir hC
  intro made
  cases made with
  | error e => trivial
  | ok u =>
    have hslot : s.get .db = some c := h
    rw [Prog.then_ok]
    apply safe_openFile hslot hC (fun e => trivial)
    rw [Prog.safe_bind]
    apply safe_applyDbEncryptionKeyIfNeeded h hC
    intro key
    cases key with
    | error e => trivial
    | ok key =>
      rw [Prog.then_ok, issue, Prog.safe_perform_bind]
      use hC
      intro enforced t henforced
      cases henforced
      rw [Prog.safe_ofExcept_bind]
      use hC
      cases enforced with
      | error e => trivial
      | ok u => apply hupgrade key

end Rules

/-! ### Where a migration may stand -/

section Stages

variable {ext : Externals} {path : DbPath} {passphrase : String} {s : DbFiles} {c : Content}

/-- An encrypted copy of a file: a database under the key, with the rows of the file as it is
read without a key. -/
def IsCopy (passphrase : String) (c : Content) (file : SqliteFile) : Prop :=
  (∃ db, readWith none c = some db ∧ SameTables db file.db) ∧ file.key = keyOf passphrase

/-- Where a migration of a database file `c` may stand, with a backup that is there from before:
the file is in its place, and the old backup may be gone; or it has been moved away, and stays
beside its place until the copy has been opened in it. -/
inductive Stage (passphrase : String) (c : Content) (old : Option Content) : DbFiles → Prop
  | inPlace (tmp) {bak} (hbak : bak = old ∨ bak = none) :
    Stage passphrase c old { db := some c, tmp, bak }
  | away (tmp) : Stage passphrase c old { db := none, tmp, bak := some c }
  | promoted {file} (hcopy : IsCopy passphrase c file) :
    Stage passphrase c old { db := some (.sqlite file), bak := some c }
  | migrated {file} (hcopy : IsCopy passphrase c file) :
    Stage passphrase c old { db := some (.sqlite file) }

/-- What a migration that has opened the file `c` in the state `s` may return. -/
def Returned (passphrase : String) (c : Content) (s : DbFiles) :
  Except AppError DbMigrationOutcome → DbFiles → Prop
  | .ok .migrated, t => ∃ file, IsCopy passphrase c file ∧ t = { db := some (.sqlite file) }
  | .ok .alreadyEncrypted, t =>
    t = s ∧ c ≠ emptyFile ∧ ∃ db, readWith (keyOf passphrase) c = some db
  | .error _, _ => True

theorem Stage.setTmpNone {old : Option Content} {t : DbFiles}
    (h : Stage passphrase c old t) :
  Stage passphrase c old (t.set .tmp none)
  := by
  cases h with
  | inPlace tmp hbak => apply Stage.inPlace none hbak
  | away tmp => apply Stage.away none
  | promoted hcopy => apply Stage.promoted hcopy
  | migrated hcopy => apply Stage.migrated hcopy

/-- While the copy is made, the file is in its place. -/
theorem safe_exportCopy {tmp bak : Option Content}
    {Q : Except AppError Unit → DbFiles → Prop} (herr : ∀ e t, Q (.error e) t)
    (hok : ∀ file, IsCopy passphrase c file →
      Q (.ok ()) { db := some c, tmp := some (.sqlite file) }) :
  (exportCopy path passphrase).Safe (Effect ext) (Stage passphrase c bak) Q ⟨some c, tmp, bak⟩
  := by
  have hbefore (tmp : Option Content) : Stage passphrase c bak ⟨some c, tmp, bak⟩ :=
    Stage.inPlace tmp (Or.inl rfl)
  have hafter (tmp : Option Content) : Stage passphrase c bak ⟨some c, tmp, none⟩ :=
    Stage.inPlace tmp (Or.inr rfl)
  have herr' {β : Type} {f : β → Program Unit} (e : AppError) (t : DbFiles) :
      Prog.Then (Effect ext) (Stage passphrase c bak) Q f (.error e) t :=
    herr e t
  rw [exportCopy, Prog.safe_bind]
  apply safe_createMigrationDir (hbefore tmp)
  intro made
  cases made with
  | error e => apply herr'
  | ok u =>
  rw [Prog.then_ok, Prog.safe_bind]
  apply safe_removeFileIfExists
  · apply hbefore
  · apply hbefore
  · intro e
    apply herr'
  rw [Prog.then_ok, Prog.safe_bind]
  apply safe_removeFileIfExists
  · apply hbefore
  · apply hafter
  · intro e
    apply herr'
  rw [Prog.then_ok, issue, Prog.safe_perform_bind]
  use hafter _
  intro exported t hexported
  rw [Prog.safe_ofExcept_bind]
  cases hexported with
  | notExported part => exact ⟨hafter _, herr _ _⟩
  | exported h hread htables hkey =>
    cases h
    use hafter _
    rw [mapErr_ok, Prog.then_ok]
    apply safe_verifyDbPassphrase rfl (hafter _) (fun e => herr e _)
    intro _ _
    apply hok
    exact ⟨⟨_, hread, htables⟩, hkey⟩

/-- The copy is put in its place, or is left where it is. -/
theorem safe_finalize {old : Option Content} {file : SqliteFile}
    {Q : Except AppError Unit → DbFiles → Prop} (hcopy : IsCopy passphrase c file)
    (haway : ∀ e, Q (.error e) ⟨none, some (.sqlite file), some c⟩)
    (hpromoted : ∀ r, Q r ⟨some (.sqlite file), none, some c⟩) :
  (finalize path passphrase).Safe (Effect ext) (Stage passphrase c old) Q
    ⟨none, some (.sqlite file), some c⟩
  := by
  rw [finalize, issue, Prog.safe_perform_bind]
  use Stage.away _
  intro promoted t hpromote
  rw [Prog.safe_ofExcept_bind]
  cases hpromote with
  | renamed h =>
    cases h
    use Stage.promoted hcopy
    apply safe_verifyDbPassphrase rfl (Stage.promoted hcopy)
    · intro e
      apply hpromoted
    · intro _ _
      apply hpromoted
  | notRenamed => exact ⟨Stage.away _, haway _⟩

/-- Where a migration stands when it could not put the copy in its place. -/
inductive Stranded (passphrase : String) (c : Content) : DbFiles → Prop
  | away (tmp) : Stranded passphrase c { db := none, tmp, bak := some c }
  | promoted {file} (hcopy : IsCopy passphrase c file) :
    Stranded passphrase c { db := some (.sqlite file), bak := some c }

theorem Stranded.stage {old : Option Content} (h : Stranded passphrase c s) :
  Stage passphrase c old s
  := by
  cases h with
  | away tmp => apply Stage.away
  | promoted hcopy => apply Stage.promoted hcopy

theorem Stranded.setDbNone (h : Stranded passphrase c s) :
  Stranded passphrase c (s.set .db none)
  := by
  cases h with
  | away tmp => apply Stranded.away
  | promoted hcopy => apply Stranded.away

/-- The file comes back, or stays where it is. -/
theorem safe_restoreBackup {old : Option Content} {Q : Except AppError (List Json) → DbFiles → Prop}
    (h : Stranded passphrase c s)
    (hQ : ∀ errors t, Stage passphrase c old t → Q (.ok errors) t) :
  (restoreBackup path).Safe (Effect ext) (Stage passphrase c old) Q s
  := by
  rw [restoreBackup, issue, Prog.safe_perform_bind]
  use h.stage
  intro restored t hrestore
  cases hrestore with
  | @renamed _ _ _ c' hbak =>
    have hback : Stage passphrase c old ((s.set .db (some c')).set .bak none) := by
      cases h with
      | away tmp =>
        cases hbak
        apply Stage.inPlace tmp (Or.inr rfl)
      | promoted hcopy =>
        cases hbak
        apply Stage.inPlace none (Or.inr rfl)
    exact ⟨hback, hQ _ _ hback⟩
  | notRenamed => exact ⟨h.stage, hQ _ _ h.stage⟩

theorem safe_rollbackMigrationFiles {old : Option Content} (h : Stranded passphrase c s) :
  (rollbackMigrationFiles path).Safe (Effect ext) (Stage passphrase c old)
    (fun r t => Stage passphrase c old t ∧ ∃ outcome, r = .ok outcome) s
  := by
  have hrest {t : DbFiles} (ht : Stranded passphrase c t) (promoted : List Json) :
      (do
        let backup ← restoreBackup path
        let copy ← rollbackRemove path .tmp "rollback_remove_tmp" "remove_tmp"
        match promoted ++ backup ++ copy with
        | [] => .ret (.ok ())
        | rollbackErrors => .ret (.error rollbackErrors) : Program (Except (List Json) Unit)).Safe
        (Effect ext) (Stage passphrase c old)
        (fun r t => Stage passphrase c old t ∧ ∃ outcome, r = .ok outcome) t := by
    rw [Prog.safe_bind]
    apply safe_restoreBackup ht
    intro backup u hu
    rw [Prog.then_ok, Prog.safe_bind]
    apply safe_rollbackRemove hu hu.setTmpNone
    · intro copy
      rw [Prog.then_ok]
      split
      · exact ⟨hu, hu, _, rfl⟩
      · exact ⟨hu, hu, _, rfl⟩
    · rw [Prog.then_ok]
      split
      · exact ⟨hu.setTmpNone, hu.setTmpNone, _, rfl⟩
      · exact ⟨hu.setTmpNone, hu.setTmpNone, _, rfl⟩
  rw [rollbackMigrationFiles, Prog.safe_bind]
  apply safe_rollbackRemove h.stage h.setDbNone.stage
  · intro promoted
    apply hrest h
  · apply hrest h.setDbNone

/-- A migration that could not put the copy in its place fails. -/
theorem safe_abandon {old : Option Content} {err : AppError}
    {Q : Except AppError DbMigrationOutcome → DbFiles → Prop} (hQ : ∀ e t, Q (.error e) t)
    (h : Stranded passphrase c s) :
  (abandon path err).Safe (Effect ext) (Stage passphrase c old) Q s
  := by
  rw [abandon, Prog.safe_bind]
  apply (safe_rollbackMigrationFiles h).mono (fun _ => id)
  rintro r t ⟨ht, outcome, rfl⟩
  rw [Prog.then_ok]
  cases outcome with
  | ok u => exact ⟨ht, hQ _ _⟩
  | error rollbackErrors => exact ⟨ht, hQ _ _⟩

/-- The database is replaced by its copy, or it is not. -/
theorem safe_swapIn {old : Option Content} {file : SqliteFile} (hcopy : IsCopy passphrase c file) :
  (swapIn path passphrase).Safe (Effect ext) (Stage passphrase c old) (Returned passphrase c s)
    { db := some c, tmp := some (.sqlite file) }
  := by
  have hstart : Stage passphrase c old { db := some c, tmp := some (.sqlite file) } :=
    Stage.inPlace _ (Or.inr rfl)
  rw [swapIn, issue, Prog.safe_perform_bind]
  use hstart
  intro rotated t hrotated
  rw [Prog.safe_ofExcept_bind]
  cases hrotated with
  | notRenamed => exact ⟨hstart, trivial⟩
  | renamed h =>
    cases h
    use Stage.away _
    rw [mapErr_ok, Prog.then_ok, Prog.safe_bind, Prog.safe_attempt]
    apply safe_finalize hcopy
    · intro err
      apply safe_abandon (fun e t => trivial) (Stranded.away _)
    · intro r
      cases r with
      | error err => apply safe_abandon (fun e t => trivial) (Stranded.promoted hcopy)
      | ok u =>
        rw [Prog.then_ok, Prog.safe_bind]
        apply safe_removeFileIfExists (Stage.promoted hcopy) (Stage.migrated hcopy)
        · intro e
          trivial
        · exact ⟨Stage.migrated hcopy, file, hcopy, rfl⟩

/-- A migration goes from stage to stage. -/
theorem safe_encryptOpened (h : s.db = some c) :
  (encryptOpened path passphrase).Safe (Effect ext) (Stage passphrase c s.bak)
    (Returned passphrase c s) s
  := by
  obtain ⟨db, tmp, bak⟩ := s
  cases h
  have hstart : Stage passphrase c bak ⟨some c, tmp, bak⟩ := Stage.inPlace tmp (Or.inl rfl)
  rw [encryptOpened, issue, Prog.safe_perform_bind]
  use hstart
  intro counted t hcounted
  cases hcounted with
  | answered =>
    rw [Prog.safe_bind]
    apply safe_exportCopy
    · intro e t
      trivial
    · intro file hcopy
      rw [Prog.then_ok]
      apply safe_swapIn hcopy
  | unanswered hne =>
    rw [Prog.safe_bind]
    apply safe_verifyDbPassphrase rfl hstart
    · intro e
      trivial
    · intro db hread
      rw [Prog.then_ok]
      use hstart, rfl
      constructor
      · rintro rfl
        exact hne rfl
      · use db

/-- A migration that finds a database file. -/
theorem safe_migrateDbToSqlcipher (h : s.db = some c) :
  (migrateDbToSqlcipher path passphrase).Safe (Effect ext) (Stage passphrase c s.bak)
    (Returned passphrase c s) s
  := by
  have hstart : Stage passphrase c s.bak s := by
    rw [show s = ⟨some c, s.tmp, s.bak⟩ by rw [← h]]
    apply Stage.inPlace _ (Or.inl rfl)
  have hslot : s.get .db = some c := h
  apply safe_openFile hslot hstart
  · intro e
    trivial
  · apply safe_encryptOpened h

/-- A migration that finds no database file creates one. -/
theorem safe_migrateDbToSqlcipher_of_none (h : s.db = none) :
  (migrateDbToSqlcipher path passphrase).Safe (Effect ext)
    (fun t => t = s ∨ Stage passphrase emptyFile s.bak t)
    (Returned passphrase emptyFile (s.set .db (some emptyFile))) s
  := by
  rw [migrateDbToSqlcipher, issue, Prog.safe_perform_bind]
  use Or.inl rfl
  intro opened t hopened
  rw [Prog.safe_ofExcept_bind]
  cases hopened with
  | opened hpresent =>
    rw [DbFiles.get, h] at hpresent
    cases hpresent
  | created =>
    use Or.inr (Stage.inPlace _ (Or.inl rfl))
    rw [mapErr_ok, Prog.then_ok]
    apply Prog.Safe.mono _ _ (safe_encryptOpened rfl)
    · intro t ht
      apply Or.inr ht
    · intro r t hr
      apply hr
  | notOpened => exact ⟨Or.inl rfl, trivial⟩

end Stages

end KnowledgeCore.DbCipher
