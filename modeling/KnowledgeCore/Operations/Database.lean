import KnowledgeCore.DbCipher.Survival
import KnowledgeCore.Operations.Init

/-!
# Encrypting the database of a vault

Enabling database encryption writes `vault.json` and checks the passphrase, and the migration
replaces the database file. Both work on the three files of a migration, which are in the
directory of the vault.
-/

namespace KnowledgeCore

namespace Operations

open DbCipher (DbFiles DbPath Program Effect DbMigrationOutcome DbEncryptionDerivedState beforeUpgrade
  dbUnlock deriveDbEncryptionState migrateDbToSqlcipher)
open Vault (dbError dbPath vaultJsonPath)

/-! ### The files of a migration in a vault -/

/-- The path of the encrypted copy below the vault directory. -/
def dbTmpPath : RelPath := ["db", "knowledge.sqlcipher.tmp"]

/-- The path of the backup below the vault directory. -/
def dbBakPath : RelPath := ["db", "knowledge.pre-sqlcipher.bak"]

/-- Where the database of a vault is. -/
def dbPathOf (vaultPath : String) : DbPath where
  parent := some (PathBuf.join vaultPath "db")
  name := "knowledge.sqlite"

example : (dbPathOf "/vault").of .tmp = "/vault/db/knowledge.sqlcipher.tmp" := by decide +kernel

example : (dbPathOf "/vault").of .bak = "/vault/db/knowledge.pre-sqlcipher.bak" := by
  decide +kernel

/-- The files of a migration, as they are in a vault. -/
def dbFilesOf (dir : Dir Content) : DbFiles where
  db := dir.get dbPath
  tmp := dir.get dbTmpPath
  bak := dir.get dbBakPath

/-- Write a file, or remove what is there. -/
def put (dir : Dir Content) (p : RelPath) : Option Content → Dir Content
  | some bytes => dir.write p bytes
  | none => dir.removeAll p

/-- Put the files of a migration into a vault. A database file of no bytes, which SQLite has
created and not written to, stands for none. -/
def putDbFiles (files : DbFiles) (dir : Dir Content) : Dir Content :=
  put (put (put dir dbPath (files.db.bind beforeUpgrade)) dbTmpPath files.tmp) dbBakPath files.bak

/-! ### The calls -/

def ensurePassphraseNotEmpty (passphrase : String) : AppResult Unit :=
  if passphrase = "" then
    .error (dbError "KC_DB_KEY_INVALID" "db passphrase must not be empty")
  else
    .ok ()

/-- A configuration with database encryption. One that has it already stays as it is. -/
def enableDbEncryption (vault : VaultJsonV3) : VaultJsonV3 :=
  if vault.dbEncryption.enabled then
    vault
  else
    { vault with dbEncryption := { vault.dbEncryption with
        enabled := true
        keyReference := vault.dbEncryption.keyReference.or
          (some ("vaultdb:" ++ vault.vaultId)) } }

theorem genuine_enableDbEncryption {vault : VaultJsonV3} (h : vault.Genuine) :
  (enableDbEncryption vault).Genuine
  := by
  rw [enableDbEncryption]
  split
  · exact h
  · exact ⟨h.version, h.vaultId, h.dbPath, h.kdf⟩

/-- What enabling database encryption writes to `vault.json`, and the configuration after it. -/
def saveDbEncryption (host : Host) (passphrase : String) (dir : Dir Content) :
  AppResult (VaultJsonV3 × Dir Content)
  := do
  ensurePassphraseNotEmpty passphrase
  let vault ← Vault.vaultOpen host dir
  if vault.dbEncryption.enabled then
    .ok (vault, dir)
  else
    .ok (enableDbEncryption vault, vaultSave (enableDbEncryption vault) dir)

/-- A process that has unlocked the database in this session. -/
def unlocked (host : Host) (passphrase : String) : Host :=
  { host with dbUnlockSession := some passphrase }

/-- What enabling database encryption does to the database file: it is opened with the
passphrase, and the state of the encryption is derived. -/
def checkNewKey (host : Host) (passphrase : String) : Program DbEncryptionDerivedState := do
  dbUnlock (dbPathOf host.vaultPath) passphrase
  deriveDbEncryptionState (dbPathOf host.vaultPath) (unlocked host passphrase) true

/-- What the migration of the database needs of the vault. -/
def openForDbMigration (host : Host) (passphrase : String) (dir : Dir Content) :
  AppResult VaultJsonV3
  := do
  ensurePassphraseNotEmpty passphrase
  let vault ← Vault.vaultOpen host dir
  if vault.dbEncryption.enabled = false then
    .error (dbError "KC_DB_LOCKED" "db encryption must be enabled before migrate"
      (.obj [("vault_path", .str host.vaultPath)]))
  else
    .ok vault

/-- What the migration does to the database file. -/
def migrateDb (host : Host) (passphrase : String) (dir : Dir Content) :
  Program DbMigrationOutcome
  := do
  let outcome ← migrateDbToSqlcipher (dbPathOf host.vaultPath) passphrase
  dbUnlock (dbPathOf host.vaultPath) passphrase
  DbCipher.openDb (dbPathOf host.vaultPath) (unlocked host passphrase) dir
  .ret outcome

/-- What the database calls do to the directory of a vault. They may be cut off while they work
on the database file. -/
inductive DbCall (ext : Externals) (host : Host) (passphrase : String) :
  Dir Content → Dir Content → Prop
  /-- `vault_db_encrypt_enable_service` -/
  | enable {dir saved vault q files} (hsave : saveDbEncryption host passphrase dir = .ok (vault, saved))
    (hrun : Prog.Runs (Effect ext) (checkNewKey host passphrase) (dbFilesOf saved) q files) :
    DbCall ext host passphrase dir (putDbFiles files saved)
  /-- `vault_db_encrypt_migrate_service`, before the event is appended -/
  | migrate {dir vault q files} (hopen : openForDbMigration host passphrase dir = .ok vault)
    (hrun : Prog.Runs (Effect ext) (migrateDb host passphrase dir) (dbFilesOf dir) q files) :
    DbCall ext host passphrase dir (putDbFiles files dir)
  /-- `vault_db_encrypt_migrate_service`, with the event in the log of the database -/
  | migrated {dir vault outcome files file}
    (hopen : openForDbMigration host passphrase dir = .ok vault)
    (hend : Prog.Ends (Effect ext) (migrateDb host passphrase dir) (dbFilesOf dir) (.ok outcome)
      files)
    (hdb : files.db = some (.sqlite file)) :
    DbCall ext host passphrase dir
      (putDbFiles { files with db := some (.sqlite (ext.commit file file.db)) } dir)

end Operations

end KnowledgeCore
