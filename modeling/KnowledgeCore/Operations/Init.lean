import KnowledgeCore.Objects.Migration
import KnowledgeCore.Verifier.Schema

/-!
# New vaults

How a vault is made, what its `vault.json` holds from then on, and how object encryption is
enabled in it. Enabling encryption seals no object: that is what the migration is for.
-/

namespace KnowledgeCore

/-! ### What is written to `vault.json` -/

namespace VaultJsonV3

open Json (ofOption)

def toJson (vault : VaultJsonV3) : Json :=
  .obj [("schema_version", .int vault.schemaVersion),
    ("vault_id", .str vault.vaultId),
    ("vault_slug", .str vault.vaultSlug),
    ("created_at_ms", .int vault.createdAtMs.toInt),
    ("db", .obj [("relative_path", .str vault.db.relativePath)]),
    ("defaults", .obj [("chunking_config_id", .str vault.defaults.chunkingConfigId),
      ("embedding_model_id", .str vault.defaults.embeddingModelId),
      ("recency", .obj [("enabled", .bool vault.defaults.recencyEnabled)])]),
    ("toolchain", .obj [("pdfium", .obj [("identity", .str vault.toolchain.pdfium)]),
      ("tesseract", .obj [("identity", .str vault.toolchain.tesseract)])]),
    ("encryption", .obj [("enabled", .bool vault.encryption.enabled),
      ("mode", .str vault.encryption.mode),
      ("kdf", .obj [("algorithm", .str vault.encryption.kdf.algorithm),
        ("memory_kib", .int vault.encryption.kdf.memoryKib),
        ("iterations", .int vault.encryption.kdf.iterations),
        ("parallelism", .int vault.encryption.kdf.parallelism),
        ("salt_id", .str vault.encryption.kdf.saltId)]),
      ("key_reference", ofOption vault.encryption.keyReference)]),
    ("db_encryption", .obj [("enabled", .bool vault.dbEncryption.enabled),
      ("mode", .str vault.dbEncryption.mode),
      ("kdf", .obj [("algorithm", .str vault.dbEncryption.kdfAlgorithm)]),
      ("key_reference", ofOption vault.dbEncryption.keyReference)])]

/-- `Uuid::new_v4` as a text: lower-case digits, with the version and the variant in it. -/
def uuidV4Pattern : Verifier.Pattern :=
  List.replicate 8 Hex.isLowerHex ++ .literal "-" ++ List.replicate 4 Hex.isLowerHex
    ++ .literal "-" ++ [fun c => c == '4'] ++ List.replicate 3 Hex.isLowerHex ++ .literal "-"
    ++ [fun c => "89ab".toList.contains c] ++ List.replicate 3 Hex.isLowerHex ++ .literal "-"
    ++ List.replicate 12 Hex.isLowerHex

/-- A configuration as a vault is made with it, whatever has been enabled since. -/
structure Genuine (vault : VaultJsonV3) : Prop where
  version : vault.schemaVersion = 3
  vaultId : uuidV4Pattern.fits vault.vaultId.toList = true
  dbPath : vault.db.relativePath = "db/knowledge.sqlite"
  kdf : vault.encryption.kdf = {}

@[simp] theorem readOption_ofOption (s : Option String) :
  Json.readOption Json.readString (ofOption s) = .ok s
  := by
  cases s <;> rfl

/-- A configuration is read back from its text. -/
theorem readV3_toJson {vault : VaultJsonV3} (h : vault.Genuine) :
  readV3 vault.toJson = .ok vault
  := by
  obtain ⟨version, vaultId, slug, created, db, defaults, toolchain, encryption, dbEncryption⟩ :=
    vault
  obtain ⟨enabled, mode, kdf, keyReference⟩ := encryption
  obtain rfl := h.version
  obtain rfl := h.kdf
  have hcreated : Json.readI64 (.int created.toInt) = .ok created := Json.readI64_toInt created
  have hreference := readOption_ofOption keyReference
  have hdbReference := readOption_ofOption dbEncryption.keyReference
  simp [readV3, readWith, toJson, Json.expectObject, Json.field, Json.fieldOr, Json.get,
    List.lookup_cons, readDbConfig, readDefaults, readRecency, readToolchain, readToolIdentity,
    readEncryption, readKdf, readDbEncryption, readDbKdf, Json.readBool, Json.readU32,
    hreference, hdbReference, hcreated, bind, Except.bind]

end VaultJsonV3

namespace Operations

open Ingest (openDbOf opened)
open Migration (Trouble VaultEncryptionStatus encryptionStatusForVault)

/-- Write `vault.json`, in lines. -/
def vaultSave (vault : VaultJsonV3) (dir : Dir Content) : Dir Content :=
  dir.write Vault.vaultJsonPath (.json vault.toJson 1)

/-! ### Making a vault -/

/-- The configuration of a new vault, with an identifier that has been drawn for it. -/
def newVault (vaultId vaultSlug : String) (nowMs : Int64) : VaultJsonV3 where
  schemaVersion := 3
  vaultId := vaultId
  vaultSlug := vaultSlug
  createdAtMs := nowMs
  db := { relativePath := "db/knowledge.sqlite" }
  defaults := {
    chunkingConfigId := "chunking/default-v1"
    embeddingModelId := "embedding/default-v1"
    recencyEnabled := false }
  toolchain := {
    pdfium := "pdfium:unconfigured"
    tesseract := "tesseract:unconfigured" }
  encryption := {}
  dbEncryption := {}

/-- Make a vault. A `vault.json` that is there is replaced, and nothing else is. -/
def vaultInit (vaultId vaultSlug : String) (nowMs : Int64) (dir : Dir Content) : Dir Content :=
  vaultSave (newVault vaultId vaultSlug nowMs)
    ((((dir.createDirAll ["db"]).createDirAll Export.objectsDir).createDirAll
      ["Inbox", "processed"]).createDirAll Export.vectorsDir)

theorem genuine_newVault {vaultId : String} (vaultSlug : String) (nowMs : Int64)
    (hid : VaultJsonV3.uuidV4Pattern.fits vaultId.toList = true) :
  (newVault vaultId vaultSlug nowMs).Genuine
  where
  version := rfl
  vaultId := hid
  dbPath := rfl
  kdf := rfl

/-! ### Enabling object encryption -/

/-- A configuration with object encryption. One that has it already stays as it is. -/
def enableEncryption (vault : VaultJsonV3) : VaultJsonV3 :=
  if vault.encryption.enabled then
    vault
  else
    { vault with encryption := { vault.encryption with
        enabled := true
        keyReference := vault.encryption.keyReference.or (some ("vault:" ++ vault.vaultId)) } }

theorem genuine_enableEncryption {vault : VaultJsonV3} (h : vault.Genuine) :
  (enableEncryption vault).Genuine
  := by
  rw [enableEncryption]
  split
  · exact h
  · exact ⟨h.version, h.vaultId, h.dbPath, h.kdf⟩

/-- Enable object encryption. The passphrase only has to give a key, and the database is opened
to count the objects. -/
def vaultEncryptionEnableService (ext : Externals) (host : Host) (passphrase : String)
    (trouble : Trouble) (m : Machine) : AppResult VaultEncryptionStatus × Machine
  :=
  match Vault.vaultOpen host m.vault with
  | .error e => (.error e, m)
  | .ok vault =>
    let vault := enableEncryption vault
    match vault.objectStoreEncryptionContext ext (some passphrase) with
    | .error e => (.error e, m)
    | .ok _ =>
      let saved := { m with vault := vaultSave vault m.vault }
      match openDbOf ext host saved.vault vault with
      | .error e => (.error e, saved)
      | .ok file =>
        let after := opened saved vault file
        (encryptionStatusForVault ext host trouble vault after, after)

/-! ### What opening finds -/

/-- The configuration that a vault is opened with is the one that was saved. -/
theorem eq_of_vaultOpen {host : Host} {dir : Dir Content} {vault vault' : VaultJsonV3}
    (hgenuine : vault.Genuine)
    (hsaved : dir.get Vault.vaultJsonPath = some (.json vault.toJson 1))
    (h : Vault.vaultOpen host dir = .ok vault') :
  vault' = vault
  := by
  have hversion : Vault.declaredSchemaVersion vault.toJson = some 3 := by
    have hget : vault.toJson.get "schema_version" = some (.int 3) := by
      simp [VaultJsonV3.toJson, Json.get, hgenuine.version]
    rw [Vault.declaredSchemaVersion, hget]
    decide
  simp only [Vault.vaultOpen, AppResult.bind_eq_ok, okOrElse_eq_ok] at h
  obtain ⟨bytes, hbytes, value, hvalue, normalized, hnormalized, -, -, -, -, h⟩ := h
  rw [hsaved] at hbytes
  cases hbytes
  cases hvalue
  simp only [Vault.normalize, hversion, okOrElse_some, AppResult.ok_bind,
    VaultJsonV3.readV3_toJson hgenuine, mapErr_ok] at hnormalized
  cases hnormalized
  cases h
  rfl

end Operations

end KnowledgeCore
