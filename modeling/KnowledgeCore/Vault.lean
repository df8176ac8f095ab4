import KnowledgeCore.Hashing
import KnowledgeCore.Lib.Dir

/-!
# The vault directory

The configuration a vault keeps in `vault.json`, how it is opened, and how the database of
the vault is opened with it.
-/

namespace KnowledgeCore

/-- What a process finds in its surroundings: the path of the vault it was given, the
environment variables, and the passphrase the database was unlocked with in this session. -/
structure Host where
  vaultPath : String
  env : String → Option String
  dbUnlockSession : Option String

/-! ### `vault.json` -/

structure VaultDbConfig where
  relativePath : String

structure VaultDefaults where
  chunkingConfigId : String
  embeddingModelId : String
  recencyEnabled : Bool

structure VaultToolchain where
  pdfium : String
  tesseract : String

structure VaultKdfConfigV2 where
  algorithm : String := "argon2id"
  memoryKib : Nat := 65536
  iterations : Nat := 3
  parallelism : Nat := 1
  saltId : String := "vault-kdf-salt-v1"

structure VaultEncryptionConfigV2 where
  enabled : Bool := false
  mode : String := "object_store_xchacha20poly1305"
  kdf : VaultKdfConfigV2 := {}
  keyReference : Option String := none

structure VaultDbEncryptionConfigV3 where
  enabled : Bool := false
  mode : String := "sqlcipher_v4"
  kdfAlgorithm : String := "pbkdf2_hmac_sha512"
  keyReference : Option String := none

structure VaultJsonV3 where
  schemaVersion : Nat
  vaultId : String
  vaultSlug : String
  createdAtMs : Int64
  db : VaultDbConfig
  defaults : VaultDefaults
  toolchain : VaultToolchain
  encryption : VaultEncryptionConfigV2
  dbEncryption : VaultDbEncryptionConfigV3

namespace VaultJsonV3

open Json

def readDbConfig : Reader VaultDbConfig := fun j => do
  expectObject j
  let relativePath ← field j "relative_path" readString
  .ok { relativePath }

def readRecency : Reader Bool := fun j => do
  expectObject j
  field j "enabled" readBool

def readDefaults : Reader VaultDefaults := fun j => do
  expectObject j
  let chunkingConfigId ← field j "chunking_config_id" readString
  let embeddingModelId ← field j "embedding_model_id" readString
  let recencyEnabled ← field j "recency" readRecency
  .ok { chunkingConfigId, embeddingModelId, recencyEnabled }

def readToolIdentity : Reader String := fun j => do
  expectObject j
  field j "identity" readString

def readToolchain : Reader VaultToolchain := fun j => do
  expectObject j
  let pdfium ← field j "pdfium" readToolIdentity
  let tesseract ← field j "tesseract" readToolIdentity
  .ok { pdfium, tesseract }

def readKdf : Reader VaultKdfConfigV2 := fun j => do
  expectObject j
  let algorithm ← field j "algorithm" readString
  let memoryKib ← field j "memory_kib" readU32
  let iterations ← field j "iterations" readU32
  let parallelism ← field j "parallelism" readU32
  let saltId ← field j "salt_id" readString
  .ok { algorithm, memoryKib, iterations, parallelism, saltId }

def readEncryption : Reader VaultEncryptionConfigV2 := fun j => do
  expectObject j
  let enabled ← field j "enabled" readBool
  let mode ← field j "mode" readString
  let kdf ← field j "kdf" readKdf
  let keyReference ← fieldOr j "key_reference" (readOption readString) none
  .ok { enabled, mode, kdf, keyReference }

def readDbKdf : Reader String := fun j => do
  expectObject j
  field j "algorithm" readString

def readDbEncryption : Reader VaultDbEncryptionConfigV3 := fun j => do
  expectObject j
  let enabled ← field j "enabled" readBool
  let mode ← field j "mode" readString
  let kdfAlgorithm ← field j "kdf" readDbKdf
  let keyReference ← fieldOr j "key_reference" (readOption readString) none
  .ok { enabled, mode, kdfAlgorithm, keyReference }

/-- Read a configuration, with the readers of the two blocks that not every schema version
has. -/
def readWith (readEnc : Json → Except String VaultEncryptionConfigV2)
    (readDbEnc : Json → Except String VaultDbEncryptionConfigV3) :
  Reader VaultJsonV3
  := fun j => do
  expectObject j
  let vaultId ← field j "vault_id" readString
  let vaultSlug ← field j "vault_slug" readString
  let createdAtMs ← field j "created_at_ms" readI64
  let db ← field j "db" readDbConfig
  let defaults ← field j "defaults" readDefaults
  let toolchain ← field j "toolchain" readToolchain
  let encryption ← readEnc j
  let dbEncryption ← readDbEnc j
  .ok { schemaVersion := 3, vaultId, vaultSlug, createdAtMs, db, defaults, toolchain,
        encryption, dbEncryption }

/-- A configuration of schema version 1, which knows no encryption. -/
def readLegacyV1 : Reader VaultJsonV3 :=
  readWith (fun _ => .ok {}) (fun _ => .ok {})

/-- A configuration of schema version 2, which knows object encryption. -/
def readLegacyV2 : Reader VaultJsonV3 :=
  readWith (fun j => fieldOr j "encryption" readEncryption {}) (fun _ => .ok {})

/-- A configuration of schema version 3. -/
def readV3 : Reader VaultJsonV3 :=
  readWith (fun j => fieldOr j "encryption" readEncryption {})
    (fun j => fieldOr j "db_encryption" readDbEncryption {})

end VaultJsonV3

namespace Vault

open Json

/-- The path of the database below the vault directory. -/
def dbPath : RelPath := ["db", "knowledge.sqlite"]

/-- The path of the configuration below the vault directory. -/
def vaultJsonPath : RelPath := ["vault.json"]

def vaultError (code message : String) (details : Json := .obj []) : AppError where
  code := code
  category := "vault"
  message := message
  details := details

/-- The error of a `vault.json` that cannot be read. -/
def vaultJsonInvalid (host : Host) (message error : String) : AppError :=
  vaultError "KC_VAULT_JSON_INVALID" message
    (.obj [("error", .str error), ("path", .str (host.vaultPath ++ "/vault.json"))])

def validateObjectEncryption (vault : VaultJsonV3) : AppResult Unit :=
  if vault.encryption.enabled && vault.encryption.mode != "object_store_xchacha20poly1305" then
    .error {
      code := "KC_ENCRYPTION_UNSUPPORTED"
      category := "encryption"
      message := "vault encryption mode is not supported"
      details := .obj [("mode", .str vault.encryption.mode),
        ("supported", .arr [.str "object_store_xchacha20poly1305"])] }
  else
    .ok ()

def validateDbEncryption (vault : VaultJsonV3) : AppResult Unit :=
  if !vault.dbEncryption.enabled then
    .ok ()
  else if vault.dbEncryption.mode != "sqlcipher_v4" then
    .error {
      code := "KC_DB_ENCRYPTION_UNSUPPORTED"
      category := "db"
      message := "vault db encryption mode is not supported"
      details := .obj [("mode", .str vault.dbEncryption.mode),
        ("supported", .arr [.str "sqlcipher_v4"])] }
  else if vault.dbEncryption.kdfAlgorithm != "pbkdf2_hmac_sha512" then
    .error {
      code := "KC_DB_ENCRYPTION_UNSUPPORTED"
      category := "db"
      message := "vault db encryption kdf algorithm is not supported"
      details := .obj [("algorithm", .str vault.dbEncryption.kdfAlgorithm),
        ("supported", .arr [.str "pbkdf2_hmac_sha512"])] }
  else
    .ok ()

/-- The schema version a `vault.json` declares, cut to 32 bits. -/
def declaredSchemaVersion (value : Json) : Option Nat :=
  match value.get "schema_version" with
  | some (.int n) => if 0 ≤ n ∧ n < 2 ^ 64 then some (n.toNat % 2 ^ 32) else none
  | _ => none

/-- The configuration a `vault.json` holds, whatever version it is of. -/
def normalize (host : Host) (value : Json) : AppResult VaultJsonV3 := do
  let schemaVersion ← okOrElse
    (vaultError "KC_VAULT_JSON_INVALID" "vault schema_version missing or invalid"
      (.obj [("path", .str (host.vaultPath ++ "/vault.json"))]))
    (declaredSchemaVersion value)
  match schemaVersion with
  | 1 =>
    mapErr (vaultJsonInvalid host "failed to parse legacy vault schema v1")
      (VaultJsonV3.readLegacyV1 value)
  | 2 =>
    mapErr (vaultJsonInvalid host "failed to parse vault schema v2")
      (VaultJsonV3.readLegacyV2 value)
  | 3 =>
    mapErr (vaultJsonInvalid host "failed to parse vault schema v3")
      (VaultJsonV3.readV3 value)
  | _ =>
    .error (vaultError "KC_VAULT_JSON_UNSUPPORTED_VERSION"
      "unsupported vault schema_version"
      (.obj [("expected", .arr [.int 1, .int 2, .int 3]), ("actual", .int schemaVersion)]))

/-- Open the vault: read its configuration and check that it is supported. -/
def vaultOpen (host : Host) (vault : Dir Content) : AppResult VaultJsonV3 := do
  let bytes ← okOrElse
    (vaultError "KC_VAULT_JSON_MISSING" "vault.json is missing"
      (.obj [("path", .str (host.vaultPath ++ "/vault.json"))]))
    (vault.get vaultJsonPath)
  let value ← mapErr (vaultJsonInvalid host "failed to parse vault.json") bytes.parseJson
  let normalized ← normalize host value
  validateObjectEncryption normalized
  validateDbEncryption normalized
  .ok normalized

/-! ### Opening the database -/

def dbError (code message : String) (details : Json := .obj []) : AppError where
  code := code
  category := "db"
  message := message
  details := details

/-- What opening the database needs to know of `vault.json`. -/
structure VaultMetaForDb where
  schemaVersion : Nat
  dbEncryptionEnabled : Bool
  dbEncryptionMode : String

def readDbEncryptionMeta : Reader (Bool × String) := fun j => do
  expectObject j
  let enabled ← fieldOr j "enabled" readBool false
  let mode ← fieldOr j "mode" readString ""
  .ok (enabled, mode)

def readMeta : Reader VaultMetaForDb := fun j => do
  expectObject j
  let schemaVersion ← field j "schema_version" readU32
  let (enabled, mode) ← fieldOr j "db_encryption" readDbEncryptionMeta (false, "")
  .ok { schemaVersion, dbEncryptionEnabled := enabled, dbEncryptionMode := mode }

def readVaultMetaForDb (vault : Dir Content) : AppResult (Option VaultMetaForDb) :=
  match vault.get vaultJsonPath with
  | none => .ok none
  | some bytes => do
    let metadata ← mapErr
      (fun error => dbError "KC_DB_OPEN_FAILED"
        "failed parsing vault.json while opening database" (.obj [("error", .str error)]))
      (bytes.parseJson >>= readMeta)
    .ok (some metadata)

def passphraseFromEnv (host : Host) : Option String :=
  (host.env "KC_VAULT_DB_PASSPHRASE").or (host.env "KC_VAULT_PASSPHRASE")

/-- The passphrase for the database and the signing key of the vault. -/
def dbPassphraseForVault (host : Host) : Option String :=
  host.dbUnlockSession.or (passphraseFromEnv host)

/-- The key a passphrase stands for. The empty passphrase stands for none. -/
def keyOf (passphrase : String) : Option String :=
  if passphrase = "" then none else some passphrase

theorem keyOf_of_ne {passphrase : String} (h : passphrase ≠ "") :
  keyOf passphrase = some passphrase
  := if_neg h

/-- The passphrase the database has to be opened with, if `vault.json` says it is encrypted. -/
def dbEncryptionPassphrase (host : Host) (vault : Dir Content) :
  AppResult (Option String)
  := do
  match ← readVaultMetaForDb vault with
  | none => .ok none
  | some metadata =>
    if metadata.schemaVersion < 3 || !metadata.dbEncryptionEnabled then
      .ok none
    else if metadata.dbEncryptionMode != "sqlcipher_v4" then
      .error (dbError "KC_DB_ENCRYPTION_UNSUPPORTED" "unsupported db encryption mode"
        (.obj [("mode", .str metadata.dbEncryptionMode),
          ("supported", .arr [.str "sqlcipher_v4"])]))
    else do
      let passphrase ← okOrElse
        (dbError "KC_DB_LOCKED"
          "database is encrypted; passphrase environment variable is required"
          (.obj [("accepted_env",
            .arr [.str "KC_VAULT_DB_PASSPHRASE", .str "KC_VAULT_PASSPHRASE"])]))
        (dbPassphraseForVault host)
      .ok (some passphrase)

/-- The key the database is opened with, if it is opened with one. -/
def dbEncryptionKey (host : Host) (vault : Dir Content) : AppResult (Option String) := do
  let passphrase ← dbEncryptionPassphrase host vault
  .ok (passphrase.bind keyOf)

/-- The error of a file that SQLite cannot read with the key given. -/
def notADatabase (key : Option String) : AppError :=
  match key with
  | some _ => dbError "KC_DB_KEY_INVALID" "provided db passphrase is invalid"
      (.obj [("error", .str "file is not a database")])
  | none => dbError "KC_DB_SCHEMA_INCOMPATIBLE" "failed to read schema version"
      (.obj [("error", .str "file is not a database")])

/-- The database file that opening a file leads to: a missing file is created, and a file
that is readable with the key is brought to the latest schema. -/
def openDbFile (ext : Externals) (key : Option String) : Option Content → AppResult SqliteFile
  | none => do
    let db ← Db.empty.applyMigrations
    .ok (ext.commit { db := Db.empty, key, layout := 0 } db)
  | some (.sqlite file) =>
    if file.key = key then do
      let db ← file.db.applyMigrations
      if file.db.userVersion = Db.LATEST_SCHEMA_VERSION then
        .ok file
      else
        .ok (ext.commit file db)
    else
      .error (notADatabase key)
  | some _ => .error (notADatabase key)

/-- Open the database of the vault. -/
def openDb (ext : Externals) (host : Host) (vault : Dir Content) : AppResult (Dir Content) := do
  let key ← dbEncryptionKey host vault
  let file ← openDbFile ext key (vault.get dbPath)
  .ok (vault.write dbPath (.sqlite file))

/-- The database file of a vault whose database has been opened. -/
def dbFile (vault : Dir Content) : Option SqliteFile :=
  match vault.get dbPath with
  | some (.sqlite file) => some file
  | _ => none

/-- The tables of a vault whose database has been opened. -/
def db (vault : Dir Content) : Option Db :=
  (dbFile vault).map SqliteFile.db

theorem dbFile_eq_some {vault : Dir Content} {file : SqliteFile} :
  dbFile vault = some file ↔ vault.get dbPath = some (.sqlite file)
  := by
  unfold dbFile
  constructor
  · intro h
    split at h
    · cases h
      assumption
    · cases h
  · intro h
    rw [h]

/-- A file at the latest schema is opened as it is. -/
theorem openDbFile_latest {ext : Externals} {key : Option String} {file : SqliteFile}
    (hk : file.key = key) (hv : file.db.userVersion = Db.LATEST_SCHEMA_VERSION) :
  openDbFile ext key (some (.sqlite file)) = .ok file
  := by
  simp [openDbFile, hk, hv, Db.applyMigrations_latest hv, bind, Except.bind]

/-- A file that has been opened is at the latest schema, under the key it was opened with. -/
theorem openDbFile_eq_ok {ext : Externals} {key : Option String} {content : Option Content}
    {file : SqliteFile} (h : openDbFile ext key content = .ok file) :
  file.key = key ∧ file.db.userVersion = Db.LATEST_SCHEMA_VERSION
  := by
  match content with
  | none =>
    simp only [openDbFile, AppResult.bind_eq_ok] at h
    obtain ⟨db, hm, h⟩ := h
    cases h
    simp [Db.applyMigrations_eq_ok hm]
  | some (.sqlite file') =>
    rw [openDbFile] at h
    split at h
    · next hk =>
      simp only [AppResult.bind_eq_ok] at h
      obtain ⟨db, hm, h⟩ := h
      split at h <;> cases h
      · next hv => exact ⟨hk, hv⟩
      · simp [hk, Db.applyMigrations_eq_ok hm]
    · cases h
  | some (.raw _) | some (.text _) | some (.json _ _) | some (.zip _) => cases h

/-- A file that differs only in rows can be opened too. -/
theorem openDbFile_isOk_congr {ext : Externals} {key : Option String}
    {file file' opened : SqliteFile} (hk : file'.key = file.key)
    (hv : file'.db.userVersion = file.db.userVersion)
    (h : openDbFile ext key (some (.sqlite file)) = .ok opened) :
  ∃ opened', openDbFile ext key (some (.sqlite file')) = .ok opened'
  := by
  have hm : ∃ db, file'.db.applyMigrations = .ok db := by
    rw [openDbFile] at h
    split at h
    · simp only [AppResult.bind_eq_ok] at h
      obtain ⟨db, hm, -⟩ := h
      rw [Db.applyMigrations] at hm ⊢
      rw [hv]
      split at hm
      · cases hm
      · next hle => exact ⟨_, if_neg hle⟩
    · cases h
  have hkey : file'.key = key := by
    rw [openDbFile] at h
    split at h
    · next hk' => rw [hk, hk']
    · cases h
  obtain ⟨db, hm⟩ := hm
  rw [openDbFile, if_pos hkey, hm]
  simp only [AppResult.ok_bind]
  split
  · exact ⟨_, rfl⟩
  · exact ⟨_, rfl⟩

theorem vaultOpen_congr {host : Host} {vault vault' : Dir Content}
    (h : vault'.get vaultJsonPath = vault.get vaultJsonPath) :
  vaultOpen host vault' = vaultOpen host vault
  := by
  simp only [vaultOpen, h]

theorem dbEncryptionKey_congr {host : Host} {vault vault' : Dir Content}
    (h : vault'.get vaultJsonPath = vault.get vaultJsonPath) :
  dbEncryptionKey host vault' = dbEncryptionKey host vault
  := by
  simp only [dbEncryptionKey, dbEncryptionPassphrase, readVaultMetaForDb, h]

/-- Opening a file changes no row. -/
theorem openDbFile_tables {ext : Externals} {key : Option String} {file file' : SqliteFile}
    (h : openDbFile ext key (some (.sqlite file)) = .ok file') :
  file'.db = { file.db with userVersion := Db.LATEST_SCHEMA_VERSION } ∧ file'.key = file.key
  := by
  rw [openDbFile] at h
  split at h
  · cases hm : file.db.applyMigrations with
    | error e => simp [hm, bind, Except.bind] at h
    | ok db =>
      have hdb := Db.applyMigrations_eq_ok hm
      simp only [hm, bind, Except.bind] at h
      split at h <;> cases h
      · next hv =>
        constructor
        · rw [← hv]
        · rfl
      · exact ⟨hdb, rfl⟩
  · cases h

end Vault

/-! ### A small world to run programs in -/

namespace Sample

/-- A checksum of the bytes of a text. -/
def textSum (s : String) : Nat :=
  s.toByteArray.data.toList.foldl (fun acc b => (acc * 31 + b.toNat) % 65521) 7

mutual

/-- A checksum of a JSON value. -/
def jsonSum : Json → Nat
  | .null => 3
  | .bool b => if b then 5 else 11
  | .int n => n.natAbs + 13
  | .float text => textSum text
  | .str s => textSum s
  | .arr items => itemsSum items
  | .obj members => membersSum members

def itemsSum : List Json → Nat
  | [] => 17
  | j :: rest => (jsonSum j + 31 * itemsSum rest) % 65521

def membersSum : List (String × Json) → Nat
  | [] => 19
  | (key, j) :: rest => (textSum key + 37 * jsonSum j + 31 * membersSum rest) % 65521

end

/-- A checksum of a byte string. -/
def contentSum : Content → Nat
  | .raw bytes => 23 + bytes.length
  | .text s => textSum s
  | .json value layout => jsonSum value + layout
  | .sqlite file => 29 + file.layout
  | .zip entries => 41 + entries.length

/-- The two low bytes of a number, over and over. -/
def spread (n : Nat) {size : Nat} : Vector UInt8 size :=
  Vector.ofFn fun i => UInt8.ofNat (n / 256 ^ (i.val % 2))

/-- Algorithms that are easy to run: checksums in place of hashes, and signatures that consist
of the key and a checksum of the message. A transaction gives the database file a new layout. -/
def ext : Externals where
  blake3 c := spread (contentSum c)
  sha256 bytes := spread bytes.length
  argon2 passphrase saltId _ _ _ := .ok (spread (textSum passphrase + textSum saltId))
  verifyingKey seed := seed
  sign seed message := seed ++ (spread (textSum message) : Vector UInt8 32)
  isVerifyingKey _ := true
  verify pubkey message signature :=
    signature = pubkey ++ (spread (textSum message) : Vector UInt8 32)
  encrypt _ _ plaintext := some plaintext
  decrypt _ _ ciphertext := some ciphertext
  byteLen _ := 1
  relayout file _ := file.layout + 1

/-- A process with a passphrase in its environment. -/
def host : Host where
  vaultPath := "/vault"
  env name := if name = "KC_VAULT_PASSPHRASE" then some "secret" else none
  dbUnlockSession := none

/-- The configuration of a vault without encryption. -/
def vaultJson : Json :=
  .obj [("schema_version", .int 3), ("vault_id", .str "vault-a"), ("vault_slug", .str "a"),
    ("created_at_ms", .int 0), ("db", .obj [("relative_path", .str "db/knowledge.sqlite")]),
    ("defaults", .obj [("chunking_config_id", .str "chunking-v1"),
      ("embedding_model_id", .str "model"), ("recency", .obj [("enabled", .bool false)])]),
    ("toolchain", .obj [("pdfium", .obj [("identity", .str "pdfium")]),
      ("tesseract", .obj [("identity", .str "tesseract")])])]

/-- The configuration of a vault with object encryption. -/
def encryptedVaultJson : Json :=
  match vaultJson with
  | .obj members => .obj (members ++ [("encryption", .obj [("enabled", .bool true),
      ("mode", .str "object_store_xchacha20poly1305"),
      ("kdf", .obj [("algorithm", .str "argon2id"), ("memory_kib", .int 65536),
        ("iterations", .int 3), ("parallelism", .int 1),
        ("salt_id", .str "vault-kdf-salt-v1")]),
      ("key_reference", .str "vault:vault-a")])])
  | other => other

/-- A database at the latest schema without any rows. -/
def db : Db := { Db.empty with userVersion := Db.LATEST_SCHEMA_VERSION }

/-- A vault with the given tables and the given further files. -/
def vault (db : Db) (files : List (RelPath × Content)) : Dir Content :=
  Dir.ofFiles ([(Vault.vaultJsonPath, .json vaultJson 0),
    (Vault.dbPath, .sqlite { db, key := none, layout := 0 })] ++ files)

/-- The hash of an object. -/
def objectHash : String :=
  "blake3:3fba1c00d2a45e9876543210fedcba9876543210fedcba9876543210fedcba98"

/-- A database with one document and its object. -/
def documentDb : Db where
  __ := db
  objects := (∅ : Table ObjectRow).insert objectHash { bytes := 4 }
  docs := (∅ : Table DocRow).insert "document" {
    originalObjectHash := objectHash
    bytes := 4
    mime := "text/plain"
    sourceKind := "notes"
    effectiveTsMs := 1 }

/-- A vault with one document. -/
def documentVault : Dir Content :=
  vault documentDb [(["store", "objects", "3f", objectHash], .text "note")]

end Sample

end KnowledgeCore
