import KnowledgeCore.Operations.Database

/-!
# Enabling database encryption

The service saves `vault.json` first and then checks the passphrase against the database file.
When the file is not read with the passphrase, the configuration stays as it was saved.
-/

namespace KnowledgeCore

namespace Operations

open DbCipher (DbFiles DbPath Program DbEncryptionDerivedState perform readWith emptyFile dbUnlock
  deriveDbEncryptionState verifyDbPassphrase validateKeyOnConnection hasPlaintextSqliteHeader issue)
open Vault (keyOf vaultJsonPath)

/-- A vault as a process sees it: the surroundings of the process, the directory with `vault.json`,
and the database file with the two that a migration keeps beside it. -/
structure OpenableVault where
  host : Host
  dir : Dir Content
  files : DbFiles

structure VaultDbEncryptStatus where
  enabled : Bool
  mode : String
  keyReference : Option String
  unlocked : Bool
  state : DbEncryptionDerivedState

/-! ### The service -/

/-- Where a configuration has the database. -/
def dbPathFor (host : Host) (vault : VaultJsonV3) : DbPath where
  parent := some (PathBuf.join host.vaultPath
    (Export.renderPath (Export.relPath vault.db.relativePath).dropLast))
  name := (Export.relPath vault.db.relativePath).getLast?.getD ""

example : (dbPathFor Sample.host (newVault "vault-a" "a" 0)).of .tmp
    = "/vault/db/knowledge.sqlcipher.tmp" := by decide +kernel

def dbEncryptStatusForVault (host : Host) (vault : VaultJsonV3) :
  Program VaultDbEncryptStatus
  := do
  let state ← deriveDbEncryptionState (dbPathFor host vault) host vault.dbEncryption.enabled
  .ret {
    enabled := vault.dbEncryption.enabled
    mode := vault.dbEncryption.mode
    keyReference := vault.dbEncryption.keyReference
    unlocked := !vault.dbEncryption.enabled || (Vault.dbPassphraseForVault host).isSome
    state }

def vaultDbEncryptEnableService (ext : Externals) (passphrase : String) (v : OpenableVault) :
  AppResult VaultDbEncryptStatus × OpenableVault
  :=
  match saveDbEncryption v.host passphrase v.dir with
  | .error e => (.error e, v)
  | .ok (vault, saved) =>
    match (dbUnlock (dbPathFor v.host vault) passphrase).eval (perform ext) v.files with
    | (.error e, files) => (.error e, ⟨v.host, saved, files⟩)
    | (.ok (), files) =>
      let host := unlocked v.host passphrase
      let (status, files) := (dbEncryptStatusForVault host vault).eval (perform ext) files
      (status, ⟨host, saved, files⟩)

/-! ### What is asked of it -/

/-- What a process finds when it opens the database. -/
def opening (ext : Externals) (path : DbPath) (v : OpenableVault) : AppResult Unit × DbFiles :=
  (DbCipher.openDb path v.host v.dir).eval (perform ext) v.files

/-- The database opens as before, for the process and for any other. -/
def OpensAlike (ext : Externals) (before after : OpenableVault) : Prop :=
  ∀ path, opening ext path after = opening ext path before
    ∧ ∀ other, opening ext path { after with host := other }
      = opening ext path { before with host := other }

/-- When enabling fails, `vault.json` is as it was and the database opens as it did. -/
def EnablesAtomically (ext : Externals) (passphrase : String) (v : OpenableVault) : Prop :=
  ∀ e after, vaultDbEncryptEnableService ext passphrase v = (.error e, after) →
    after.dir.get vaultJsonPath = v.dir.get vaultJsonPath ∧ OpensAlike ext v after

/-- Nothing is saved, or the database file is read with the passphrase if there is one. -/
def NothingToUndo (passphrase : String) (v : OpenableVault) : Prop :=
  passphrase = ""
    ∨ (∀ vault, Vault.vaultOpen v.host v.dir = .ok vault → vault.dbEncryption.enabled = true)
    ∨ ∀ c, v.files.db = some c → (readWith (keyOf passphrase) c).isSome

/-! ### The database file -/

variable {ext : Externals} {passphrase : String} {v after : OpenableVault} {files : DbFiles}

/-- A database file that is read with a passphrase unlocks, and so does one that is not there. -/
theorem eval_dbUnlock_ok (ext : Externals) (path : DbPath)
    (h : ∀ c, files.db = some c → (readWith (keyOf passphrase) c).isSome) :
  ∃ files' c, (dbUnlock path passphrase).eval (perform ext) files = (.ok (), files')
    ∧ files'.db = some c
  := by
  cases hdb : files.db with
  | none =>
    use files.set .db (some emptyFile), emptyFile
    simp [dbUnlock, verifyDbPassphrase, validateKeyOnConnection, issue, perform,
      DbFiles.get, DbFiles.set, hdb, mapErr]
  | some c =>
    obtain ⟨db, hread⟩ := Option.isSome_iff_exists.mp (h c hdb)
    use files, c
    simp [dbUnlock, verifyDbPassphrase, validateKeyOnConnection, issue, perform,
      DbFiles.get, hdb, hread, mapErr]

/-- A database file that is not read with a passphrase does not unlock. -/
theorem eval_dbUnlock_error (ext : Externals) {c : Content} (path : DbPath) (hdb : files.db = some c)
    (hread : readWith (keyOf passphrase) c = none) :
  ∃ e, (dbUnlock path passphrase).eval (perform ext) files = (.error e, files)
    ∧ e.code = "KC_DB_KEY_INVALID"
  := by
  simp [dbUnlock, verifyDbPassphrase, validateKeyOnConnection, issue, perform,
    DbFiles.get, hdb, hread, mapErr, Vault.dbError]

/-- The state of the encryption can be told of a database file that is there. -/
theorem exists_eval_deriveDbEncryptionState (ext : Externals) {c : Content} (path : DbPath)
    (host : Host) (enabled : Bool) (hdb : files.db = some c) :
  ∃ state, (deriveDbEncryptionState path host enabled).eval (perform ext) files
    = (.ok state, files)
  := by
  have hheader : (hasPlaintextSqliteHeader path).eval (perform ext) files
      = (.ok (DbCipher.startsWithHeader c), files) := by
    simp [hasPlaintextSqliteHeader, issue, perform, DbFiles.get, hdb]
  have hverify (stored : String) :
      (verifyDbPassphrase path .db stored).eval (perform ext) files = (.ok (), files)
        ∨ ∃ e, (verifyDbPassphrase path .db stored).eval (perform ext) files = (.error e, files)
          ∧ e.code = "KC_DB_KEY_INVALID" := by
    cases hread : readWith (keyOf stored) c with
    | none => exact .inr (eval_dbUnlock_error ext path hdb hread)
    | some db =>
      left
      simp [verifyDbPassphrase, validateKeyOnConnection, issue, perform, DbFiles.get, hdb, hread,
        mapErr]
  have hexists {α : Type} (slot : DbCipher.Slot) (k : Bool → Program α) :
      (issue (.fileExists slot) >>= k).eval (perform ext) files
        = (k (files.get slot).isSome).eval (perform ext) files := rfl
  rw [deriveDbEncryptionState, hexists, hexists]
  by_cases hbeside : (files.get .tmp).isSome || (files.get .bak).isSome
  · simp [hbeside]
  rw [if_neg hbeside]
  cases enabled with
  | false => simp
  | true =>
    rw [if_neg (by simp), Prog.eval_bind_ok hheader]
    cases DbCipher.startsWithHeader c with
    | true => simp
    | false =>
      rw [if_neg (by simp)]
      cases Vault.dbPassphraseForVault host with
      | none => simp
      | some stored =>
        rw [Prog.eval_bind, Prog.eval_attempt]
        rcases hverify stored with hok | ⟨e, he, hcode⟩
        · simp [hok]
        · simp [he, hcode]

/-! ### What is saved -/

theorem bind_eq_ok {ε α β : Type} {x : Except ε α} {f : α → Except ε β} {b : β} :
  (x >>= f) = .ok b ↔ ∃ a, x = .ok a ∧ f a = .ok b
  := by
  cases x <;> simp [bind, Except.bind]

/-- A configuration of any version is read as one of version 3, and its block on the database is
what the reader of the block returns. -/
theorem readWith_eq_ok {readEnc : Json → Except String VaultEncryptionConfigV2}
    {readDbEnc : Json → Except String VaultDbEncryptionConfigV3} {j : Json} {vault : VaultJsonV3}
    (h : VaultJsonV3.readWith readEnc readDbEnc j = .ok vault) :
  vault.schemaVersion = 3 ∧ readDbEnc j = .ok vault.dbEncryption
  := by
  simp only [VaultJsonV3.readWith, bind_eq_ok] at h
  obtain ⟨-, -, _, -, _, -, _, -, _, -, _, -, _, -, _, -, dbEncryption, hblock, h⟩ := h
  cases h
  exact ⟨rfl, hblock⟩

theorem schemaVersion_of_vaultOpen {host : Host} {dir : Dir Content} {vault : VaultJsonV3}
    (h : Vault.vaultOpen host dir = .ok vault) :
  vault.schemaVersion = 3
  := by
  simp only [Vault.vaultOpen, AppResult.bind_eq_ok] at h
  obtain ⟨_, -, value, -, normalized, hnormalized, -, -, -, -, h⟩ := h
  cases h
  simp only [Vault.normalize, AppResult.bind_eq_ok] at hnormalized
  obtain ⟨version, -, hread⟩ := hnormalized
  split at hread
  · exact (readWith_eq_ok (mapErr_eq_ok.mp hread)).1
  · exact (readWith_eq_ok (mapErr_eq_ok.mp hread)).1
  · exact (readWith_eq_ok (mapErr_eq_ok.mp hread)).1
  · cases hread

/-- A configuration that says that the database is encrypted is not the one that was opened
without. -/
theorem saved_ne {host : Host} {dir : Dir Content} {vault : VaultJsonV3}
    (hopen : Vault.vaultOpen host dir = .ok vault) (hplain : vault.dbEncryption.enabled = false) :
  (vaultSave (enableDbEncryption vault) dir).get vaultJsonPath ≠ dir.get vaultJsonPath
  := by
  have hthree := schemaVersion_of_vaultOpen hopen
  rw [vaultSave, Dir.get_write, if_pos rfl]
  intro hsame
  simp only [Vault.vaultOpen, AppResult.bind_eq_ok, okOrElse_eq_ok] at hopen
  obtain ⟨bytes, hbytes, value, hvalue, normalized, hnormalized, -, -, -, -, h⟩ := hopen
  rw [← hsame] at hbytes
  cases hbytes
  cases hvalue
  cases h
  have hversion : Vault.declaredSchemaVersion (enableDbEncryption vault).toJson = some 3 := by
    have hget : (enableDbEncryption vault).toJson.get "schema_version" = some (.int 3) := by
      simp [VaultJsonV3.toJson, Json.get, enableDbEncryption, hplain, hthree]
    rw [Vault.declaredSchemaVersion, hget]
    decide
  have henabled : (enableDbEncryption vault).dbEncryption.enabled = true := by
    rw [enableDbEncryption, hplain, if_neg (by simp)]
  simp only [Vault.normalize, hversion, okOrElse_some, AppResult.ok_bind, mapErr_eq_ok]
    at hnormalized
  have hblock := (readWith_eq_ok hnormalized).2
  have hreference := VaultJsonV3.readOption_ofOption
    (enableDbEncryption vault).dbEncryption.keyReference
  simp [VaultJsonV3.toJson, Json.fieldOr, Json.field, Json.get, List.lookup_cons,
    VaultJsonV3.readDbEncryption, VaultJsonV3.readDbKdf, Json.readBool, Json.expectObject,
    hreference, henabled, bind, Except.bind] at hblock
  rw [← hblock] at hplain
  cases hplain

/-! ### When enabling is atomic -/

/-- Enabling that fails has been refused before anything was saved, or the database file is not
read with the passphrase. -/
theorem enable_eq_error {e : AppError}
    (h : vaultDbEncryptEnableService ext passphrase v = (.error e, after)) :
  after = v
    ∨ ∃ vault saved c, saveDbEncryption v.host passphrase v.dir = .ok (vault, saved)
      ∧ v.files.db = some c ∧ readWith (keyOf passphrase) c = none
      ∧ after = { v with dir := saved }
  := by
  rw [vaultDbEncryptEnableService] at h
  cases hsave : saveDbEncryption v.host passphrase v.dir with
  | error e' =>
    rw [hsave] at h
    cases h
    left
    rfl
  | ok result =>
    obtain ⟨vault, saved⟩ := result
    right
    rw [hsave] at h
    by_cases hread : ∀ c, v.files.db = some c → (readWith (keyOf passphrase) c).isSome
    · exfalso
      obtain ⟨files, c, hunlock, hdb⟩ := eval_dbUnlock_ok ext (dbPathFor v.host vault) hread
      obtain ⟨state, hstate⟩ := exists_eval_deriveDbEncryptionState ext
        (dbPathFor (unlocked v.host passphrase) vault) (unlocked v.host passphrase)
        vault.dbEncryption.enabled hdb
      simp [hunlock, dbEncryptStatusForVault, Prog.eval_bind_ok hstate] at h
    · simp only [not_forall, Option.not_isSome_iff_eq_none] at hread
      obtain ⟨c, hdb, hread⟩ := hread
      obtain ⟨e', he', -⟩ := eval_dbUnlock_error ext (dbPathFor v.host vault) hdb hread
      simp only [he', Prod.mk.injEq] at h
      use vault, saved, c, rfl, hdb, hread, h.2.symm

/-- Enabling fails, with the configuration saved, when the database file is not read with the
passphrase. -/
theorem exists_enable_eq_error (ext : Externals) {vault : VaultJsonV3} {c : Content}
    (hpassphrase : passphrase ≠ "")
    (hopen : Vault.vaultOpen v.host v.dir = .ok vault)
    (hplain : vault.dbEncryption.enabled = false) (hdb : v.files.db = some c)
    (hread : readWith (keyOf passphrase) c = none) :
  ∃ e, vaultDbEncryptEnableService ext passphrase v
    = (.error e, { v with dir := vaultSave (enableDbEncryption vault) v.dir })
  := by
  have hsave : saveDbEncryption v.host passphrase v.dir
      = .ok (enableDbEncryption vault, vaultSave (enableDbEncryption vault) v.dir) := by
    rw [saveDbEncryption, ensurePassphraseNotEmpty, if_neg hpassphrase, AppResult.ok_bind, hopen,
      AppResult.ok_bind, hplain, if_neg (by simp)]
  obtain ⟨e, he, -⟩ := eval_dbUnlock_error ext
    (dbPathFor v.host (enableDbEncryption vault)) hdb hread
  use e
  simp only [vaultDbEncryptEnableService, hsave, he]

theorem OpensAlike.refl (v : OpenableVault) :
  OpensAlike ext v v
  := by
  intro path
  use rfl
  intro other
  rfl

/-- A vault with a database that is not encrypted, and nothing beside it. -/
def Sample.plainVault : OpenableVault where
  host := Sample.host
  dir := Sample.vault Sample.db []
  files := { db := some (.sqlite { db := Sample.db, key := none, layout := 0 }) }

end Operations

end KnowledgeCore
