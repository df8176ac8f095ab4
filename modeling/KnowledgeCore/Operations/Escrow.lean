import KnowledgeCore.Objects.Ingest
import KnowledgeCore.Verifier.Schema

/-!
# Recovery escrow

Recovery bundles and the adapters that their keys are left with: which adapter a provider names,
what an adapter says of its state, what it writes and reads, and the calls that configure the
providers and rotate the keys. A call leaves its mark in the table of the configurations, from
which an export takes the descriptors.
-/

namespace KnowledgeCore

namespace Operations

open Export (RecoveryEscrowDescriptorV2 ESCROW_PROVIDER_PRIORITY)
open Ingest (openVault opened closed toAsciiLowercase)

def recoveryError (code message : String) (details : List (String × Json)) : AppError where
  code := code
  category := "recovery"
  message := message
  details := .obj details

/-- What is drawn at random for a recovery bundle, and what is derived from it. -/
structure RecoveryDraw where
  recoveryPhrase : String
  phraseChecksum : String
  keyBlob : List UInt8

/-- What the surroundings decide while keys are rotated: what is drawn for a bundle of a time,
and which files cannot be written. -/
structure EscrowMoment where
  draw : Int64 → AppResult RecoveryDraw
  fails : String → Bool

/-- Write a file, unless it cannot be written. -/
def writeFile (moment : EscrowMoment) (error : String → AppError) (path : String)
    (bytes : List UInt8) (files : Files) : AppResult Unit × Files
  :=
  if moment.fails path then (.error (error path), files) else (.ok (), files.insert path bytes)

/-! ### Descriptors -/

def validateEscrowDescriptor (descriptor : RecoveryEscrowDescriptorV2) : AppResult Unit :=
  if isBlank descriptor.provider ∨ isBlank descriptor.providerRef ∨ isBlank descriptor.keyId then
    .error (recoveryError "KC_RECOVERY_ESCROW_WRITE_FAILED"
      "escrow descriptor contains empty required fields"
      [("provider", .str descriptor.provider), ("provider_ref", .str descriptor.providerRef),
        ("key_id", .str descriptor.keyId)])
  else
    .ok ()

def validatePayloadHash (ext : Externals) (bytes : List UInt8) (expectedPayloadHash : String) :
  AppResult Unit
  :=
  let actual := blake3HexPrefixed ext (.raw bytes)
  if actual ≠ expectedPayloadHash then
    .error (recoveryError "KC_RECOVERY_ESCROW_RESTORE_FAILED" "escrow payload hash mismatch"
      [("expected", .str expectedPayloadHash), ("actual", .str actual)])
  else
    .ok ()

/-! ### Recovery bundles -/

structure RecoveryManifestV2 where
  schemaVersion : Int64
  vaultId : String
  createdAtMs : Int64
  phraseChecksum : String
  payloadHash : String
  escrow : Option RecoveryEscrowDescriptorV2

def RecoveryManifestV2.toJson (manifest : RecoveryManifestV2) : Json :=
  .obj ([("schema_version", .int manifest.schemaVersion.toInt),
      ("vault_id", .str manifest.vaultId),
      ("created_at_ms", .int manifest.createdAtMs.toInt),
      ("phrase_checksum", .str manifest.phraseChecksum),
      ("payload_hash", .str manifest.payloadHash)]
    ++ (manifest.escrow.map fun descriptor => ("escrow", descriptor.toJson)).toList)

structure RecoveryBundleGenerateResult where
  bundlePath : String
  manifest : RecoveryManifestV2
  recoveryPhrase : String
  keyBlob : List UInt8

def writeRecoveryManifest (moment : EscrowMoment) (bundlePath : String)
    (manifest : RecoveryManifestV2) (files : Files) : AppResult Unit × Files
  :=
  match CanonJson.toCanonicalBytes manifest.toJson with
  | .error e => (.error e, files)
  | .ok text =>
    writeFile moment
      (fun path => recoveryError "KC_RECOVERY_BUNDLE_INVALID" "failed writing recovery manifest"
        [("error", .str "No space left on device"), ("path", .str path)])
      (PathBuf.join bundlePath "recovery_manifest.json") text.toUTF8.data.toList files

/-- Make a recovery bundle: the key of the vault under a phrase that is drawn for it, and a
manifest. -/
def generateRecoveryBundle (ext : Externals) (moment : EscrowMoment)
    (vaultId outputDir passphrase : String) (createdAtMs : Int64) (files : Files) :
  AppResult RecoveryBundleGenerateResult × Files
  :=
  if passphrase = "" then
    (.error (recoveryError "KC_ENCRYPTION_REQUIRED"
      "passphrase is required for recovery bundle generation" []), files)
  else
    match moment.draw createdAtMs with
    | .error e => (.error e, files)
    | .ok drawn =>
      let bundlePath := PathBuf.join outputDir
        ("recovery_" ++ vaultId ++ "_" ++ toString createdAtMs.toInt)
      let writeFailed path := recoveryError "KC_RECOVERY_BUNDLE_INVALID"
        "failed writing recovery key blob"
        [("error", .str "No space left on device"), ("path", .str path)]
      match writeFile moment writeFailed (PathBuf.join bundlePath "key_blob.enc") drawn.keyBlob
          files with
      | (.error e, files) => (.error e, files)
      | (.ok (), files) =>
        let manifest : RecoveryManifestV2 := {
          schemaVersion := 2
          vaultId
          createdAtMs
          phraseChecksum := drawn.phraseChecksum
          payloadHash := blake3HexPrefixed ext (.raw drawn.keyBlob)
          escrow := none }
        match writeRecoveryManifest moment bundlePath manifest files with
        | (.error e, files) => (.error e, files)
        | (.ok (), files) => (.ok {
            bundlePath
            manifest
            recoveryPhrase := drawn.recoveryPhrase
            keyBlob := drawn.keyBlob }, files)

/-! ### Adapters -/

/-- An adapter: its settings, where it writes payloads if it is available, and how it names the
key of a payload. -/
structure RecoveryEscrowProvider where
  providerId : String
  kind : String
  configured : Bool
  root : Option String
  details : Json
  keyId : String → String
  unavailable : AppError

/-- A setting from the environment, or the default when it is missing or blank. -/
def setting (host : Host) (name default : String) : String :=
  ((host.env name).filter fun v => !isBlank v).getD default

/-- An adapter for a service, which only emulates it in a directory of the machine. -/
def emulatedProvider (host : Host) (providerId emulateDir : String)
    (settings : List (String × String)) (keyId : String) (detailsOfError : List (String × Json)) :
  RecoveryEscrowProvider
  :=
  let root := (host.env emulateDir).filter fun v => !isBlank v
  {
    providerId
    kind := providerId ++ " emulation"
    configured := settings.all fun s => !isBlank s.2
    root
    details := .obj (settings.map (fun s => (s.1, .str s.2))
      ++ [("emulation_enabled", .bool root.isSome)])
    keyId := fun _ => keyId
    unavailable := recoveryError "KC_RECOVERY_ESCROW_UNAVAILABLE"
      (providerId ++ " recovery escrow provider is unavailable in this runtime")
      ([("provider", .str providerId)] ++ detailsOfError
        ++ [("hint", .str ("configure " ++ emulateDir
          ++ " for deterministic local adapter tests"))]) }

def awsRecoveryEscrowProvider (host : Host) (vaultId : String) : RecoveryEscrowProvider :=
  let region := setting host "KC_RECOVERY_ESCROW_AWS_REGION" "us-east-1"
  let kmsKeyId := setting host "KC_RECOVERY_ESCROW_AWS_KMS_KEY_ID" ""
  let secretPrefix := setting host "KC_RECOVERY_ESCROW_AWS_SECRET_PREFIX"
    ("kc/recovery/" ++ vaultId)
  emulatedProvider host "aws" "KC_RECOVERY_ESCROW_AWS_EMULATE_DIR"
    [("region", region), ("kms_key_id", kmsKeyId), ("secret_prefix", secretPrefix)]
    ("kms:" ++ kmsKeyId)
    [("region", .str region), ("kms_key_id", .str kmsKeyId),
      ("secret_prefix", .str secretPrefix),
      ("sdk_clients", .obj [("kms", .str "aws_sdk_kms::client::Client"),
        ("secrets_manager", .str "aws_sdk_secretsmanager::client::Client")])]

def gcpRecoveryEscrowProvider (host : Host) (vaultId : String) : RecoveryEscrowProvider :=
  let projectId := setting host "KC_RECOVERY_ESCROW_GCP_PROJECT_ID" "kc-local"
  let location := setting host "KC_RECOVERY_ESCROW_GCP_LOCATION" "global"
  let keyRing := setting host "KC_RECOVERY_ESCROW_GCP_KEY_RING" "knowledgecore"
  let keyName := setting host "KC_RECOVERY_ESCROW_GCP_KEY_NAME" "recovery"
  emulatedProvider host "gcp" "KC_RECOVERY_ESCROW_GCP_EMULATE_DIR"
    [("project_id", projectId), ("location", location), ("key_ring", keyRing),
      ("key_name", keyName),
      ("secret_prefix", setting host "KC_RECOVERY_ESCROW_GCP_SECRET_PREFIX"
        ("kc/recovery/" ++ vaultId))]
    ("gcpkms:" ++ projectId ++ "/" ++ location ++ "/" ++ keyRing ++ "/" ++ keyName) []

def azureRecoveryEscrowProvider (host : Host) (vaultId : String) : RecoveryEscrowProvider :=
  let keyVaultUrl := setting host "KC_RECOVERY_ESCROW_AZURE_KEY_VAULT_URL"
    "https://knowledgecore-local.vault.azure.net"
  let keyName := setting host "KC_RECOVERY_ESCROW_AZURE_KEY_NAME" "recovery"
  emulatedProvider host "azure" "KC_RECOVERY_ESCROW_AZURE_EMULATE_DIR"
    [("key_vault_url", keyVaultUrl), ("key_name", keyName),
      ("secret_prefix", setting host "KC_RECOVERY_ESCROW_AZURE_SECRET_PREFIX"
        ("kc/recovery/" ++ vaultId))]
    ("azurekv:" ++ keyVaultUrl ++ "/" ++ keyName) []

def hsmRecoveryEscrowProvider (host : Host) (vaultId : String) : RecoveryEscrowProvider :=
  let cluster := setting host "KC_RECOVERY_ESCROW_HSM_CLUSTER" "kc-local-hsm"
  let keySlot := setting host "KC_RECOVERY_ESCROW_HSM_KEY_SLOT" "slot-0"
  emulatedProvider host "hsm" "KC_RECOVERY_ESCROW_HSM_EMULATE_DIR"
    [("cluster", cluster), ("key_slot", keySlot),
      ("secret_prefix", setting host "KC_RECOVERY_ESCROW_HSM_SECRET_PREFIX"
        ("kc/recovery/" ++ vaultId))]
    ("hsm:" ++ cluster ++ "/" ++ keySlot) []

def privateKmsRecoveryEscrowProvider (host : Host) (vaultId : String) : RecoveryEscrowProvider :=
  let endpoint := setting host "KC_RECOVERY_ESCROW_PRIVATE_KMS_ENDPOINT"
    "https://private-kms.local"
  let keyAlias := setting host "KC_RECOVERY_ESCROW_PRIVATE_KMS_KEY_ALIAS" "recovery"
  let tenant := setting host "KC_RECOVERY_ESCROW_PRIVATE_KMS_TENANT" "default"
  emulatedProvider host "private_kms" "KC_RECOVERY_ESCROW_PRIVATE_KMS_EMULATE_DIR"
    [("endpoint", endpoint), ("key_alias", keyAlias), ("tenant", tenant),
      ("secret_prefix", setting host "KC_RECOVERY_ESCROW_PRIVATE_KMS_SECRET_PREFIX"
        ("kc/recovery/" ++ vaultId))]
    ("privatekms:" ++ tenant ++ "/" ++ endpoint ++ "/" ++ keyAlias) []

/-- The adapter that writes to a directory of the vault. It names a key by its payload. -/
def localRecoveryEscrowProvider (host : Host) : RecoveryEscrowProvider :=
  let root := PathBuf.join host.vaultPath "recovery-escrow-local"
  {
    providerId := "local"
    kind := "local"
    configured := root ≠ ""
    root := if root = "" then none else some root
    details := .obj [("root", .str root), ("kind", .str "filesystem"),
      ("deterministic_path_template", .str "<vault_id>/<payload_hash>.enc")]
    keyId := id
    unavailable := recoveryError "KC_RECOVERY_ESCROW_UNAVAILABLE"
      "local recovery escrow root is empty" [] }

def resolveRecoveryEscrowProvider (host : Host) (vaultId providerId : String) :
  AppResult RecoveryEscrowProvider
  :=
  match toAsciiLowercase (trim providerId) with
  | "aws" => .ok (awsRecoveryEscrowProvider host vaultId)
  | "gcp" => .ok (gcpRecoveryEscrowProvider host vaultId)
  | "azure" => .ok (azureRecoveryEscrowProvider host vaultId)
  | "hsm" => .ok (hsmRecoveryEscrowProvider host vaultId)
  | "private_kms" => .ok (privateKmsRecoveryEscrowProvider host vaultId)
  | "local" => .ok (localRecoveryEscrowProvider host)
  | normalizedProviderId =>
    .error (recoveryError "KC_RECOVERY_ESCROW_PROVIDER_UNSUPPORTED"
      "unsupported recovery escrow provider"
      [("provider", .str normalizedProviderId),
        ("supported", .arr (ESCROW_PROVIDER_PRIORITY.map .str))])

namespace RecoveryEscrowProvider

/-- Whether payloads can be left with an adapter. -/
def available (provider : RecoveryEscrowProvider) : Bool :=
  provider.configured && provider.root.isSome

/-- The name of the file of a payload. -/
def blobName (payloadHash : String) : String :=
  payloadHash.map (fun c => if c = ':' then '_' else c) ++ ".enc"

/-- Leave a payload with an adapter. -/
def write (moment : EscrowMoment) (provider : RecoveryEscrowProvider)
    (vaultId payloadHash : String) (keyBlob : List UInt8) (nowMs : Int64) (files : Files) :
  AppResult RecoveryEscrowDescriptorV2 × Files
  :=
  match provider.root with
  | none => (.error provider.unavailable, files)
  | some root =>
    let writeFailed path := recoveryError "KC_RECOVERY_ESCROW_WRITE_FAILED"
      ("failed writing " ++ provider.kind ++ " escrow payload")
      [("error", .str "No space left on device"), ("path", .str path)]
    match writeFile moment writeFailed
        (PathBuf.join (PathBuf.join root vaultId) (blobName payloadHash)) keyBlob files with
    | (.error e, files) => (.error e, files)
    | (.ok (), files) =>
      let descriptor : RecoveryEscrowDescriptorV2 := {
        provider := provider.providerId
        providerRef := vaultId ++ "/" ++ blobName payloadHash
        keyId := provider.keyId payloadHash
        wrappedAtMs := nowMs }
      ((validateEscrowDescriptor descriptor).map fun _ => descriptor, files)

/-- Get a payload back from an adapter. -/
def read (ext : Externals) (provider : RecoveryEscrowProvider)
    (descriptor : RecoveryEscrowDescriptorV2) (expectedPayloadHash : String) (files : Files) :
  AppResult (List UInt8)
  := do
  validateEscrowDescriptor descriptor
  if descriptor.provider ≠ provider.providerId then
    .error (recoveryError "KC_RECOVERY_ESCROW_RESTORE_FAILED"
      ("escrow descriptor provider does not match " ++ provider.providerId ++ " adapter")
      [("expected_provider", .str provider.providerId),
        ("actual_provider", .str descriptor.provider)])
  else do
    let root ← okOrElse
      { provider.unavailable with code := "KC_RECOVERY_ESCROW_RESTORE_FAILED" } provider.root
    let path := PathBuf.join root descriptor.providerRef
    let bytes ← okOrElse
      (recoveryError "KC_RECOVERY_ESCROW_RESTORE_FAILED"
        ("failed reading " ++ provider.kind ++ " escrow payload")
        [("error", .str "No such file or directory"), ("path", .str path)])
      files[path]?
    validatePayloadHash ext bytes expectedPayloadHash
    .ok bytes

end RecoveryEscrowProvider

/-! ### Configurations -/

/-- `upsert_recovery_escrow_config`, with an enabled row. -/
def upsertRecoveryEscrowConfig (db : Db) (providerId : String) (descriptor : Json)
    (updatedAtMs : Int64) : Db
  :=
  { db with recoveryEscrowConfigs := db.recoveryEscrowConfigs.insert providerId {
      enabled := true
      descriptorJson := some descriptor
      updatedAtMs } }

/-- The later of two configurations: of those of one time, the one of the later provider. -/
def laterConfig (config : Option (String × RecoveryEscrowConfigRow))
    (row : String × RecoveryEscrowConfigRow) : Option (String × RecoveryEscrowConfigRow)
  :=
  match config with
  | none => some row
  | some last => if last.2.updatedAtMs ≤ row.2.updatedAtMs then some row else some last

/-- The configuration that was last updated. -/
def readRecoveryEscrowConfig (db : Db) : Option (String × RecoveryEscrowConfigRow) :=
  db.recoveryEscrowConfigs.toList.foldl laterConfig none

structure VaultRecoveryEscrowStatus where
  enabled : Bool
  provider : String
  providerAvailable : Bool
  updatedAtMs : Option Int64
  details : Option Json

def recoveryEscrowStatusFromConfig (host : Host) (vaultId : String) :
    Option (String × RecoveryEscrowConfigRow) → AppResult VaultRecoveryEscrowStatus
  | none => .ok {
      enabled := false
      provider := "none"
      providerAvailable := false
      updatedAtMs := none
      details := some (.obj []) }
  | some (providerId, row) => do
    let provider ← resolveRecoveryEscrowProvider host vaultId providerId
    .ok {
      enabled := row.enabled
      provider := providerId
      providerAvailable := provider.available
      updatedAtMs := some row.updatedAtMs
      details := row.descriptorJson }

/-- What a configuration says of its provider before there is a descriptor. -/
def providerStatus (provider : RecoveryEscrowProvider) (more : List (String × Json)) : Json :=
  .obj ([("provider_status", .obj [("configured", .bool provider.configured),
    ("available", .bool provider.available), ("details_json", .str provider.details.display)])]
    ++ more)

def notConfigured (providerId : String) (provider : RecoveryEscrowProvider) : AppError :=
  recoveryError "KC_RECOVERY_ESCROW_AUTH_FAILED" "recovery escrow provider is not configured"
    [("provider", .str providerId), ("details", .str provider.details.display)]

/-- The adapter of a provider that is to be enabled, which has to be configured. -/
def resolveConfigured (host : Host) (vaultId providerId : String) :
  AppResult RecoveryEscrowProvider
  := do
  let provider ← resolveRecoveryEscrowProvider host vaultId providerId
  if provider.configured = false then
    .error (notConfigured providerId provider)
  else
    .ok provider

def vaultRecoveryEscrowEnableService (ext : Externals) (host : Host) (providerId : String)
    (nowMs : Int64) (m : Machine) : AppResult VaultRecoveryEscrowStatus × Machine
  :=
  match openVault ext host m.vault with
  | .error e => (.error e, m)
  | .ok (config, file) =>
    match resolveConfigured host config.vaultId providerId with
    | .error e => (.error e, opened m config file)
    | .ok provider =>
      let db := upsertRecoveryEscrowConfig file.db providerId (providerStatus provider []) nowMs
      (recoveryEscrowStatusFromConfig host config.vaultId (readRecoveryEscrowConfig db),
        closed ext m config file ⟨m.files, db⟩)

/-- Add a provider with a reference to its configuration. The references themselves are in a
table that no export reads. -/
def vaultRecoveryEscrowProviderAddService (ext : Externals) (host : Host)
    (providerId configRef : String) (nowMs : Int64) (m : Machine) :
  AppResult RecoveryEscrowProvider × Machine
  :=
  if isBlank configRef then
    (.error (recoveryError "KC_RECOVERY_ESCROW_WRITE_FAILED" "config_ref is required"
      [("provider", .str providerId)]), m)
  else
    match openVault ext host m.vault with
    | .error e => (.error e, m)
    | .ok (config, file) =>
      match resolveConfigured host config.vaultId providerId with
      | .error e => (.error e, opened m config file)
      | .ok provider =>
        let db := upsertRecoveryEscrowConfig file.db providerId
          (.obj [("config_ref", .str configRef)]) nowMs
        (.ok provider, closed ext m config file ⟨m.files, db⟩)

/-! ### Rotation -/

structure Rotated where
  provider : String
  generated : RecoveryBundleGenerateResult
  descriptor : RecoveryEscrowDescriptorV2

def bundlesDir (host : Host) : String :=
  PathBuf.join host.vaultPath "recovery-escrow-bundles"

/-- Note where the last bundle is. -/
def writeRecoveryStateFile (host : Host) (moment : EscrowMoment) (bundlePath : String)
    (files : Files) : AppResult Unit × Files
  :=
  writeFile moment
    (fun _ => recoveryError "KC_RECOVERY_BUNDLE_INVALID" "failed writing recovery state marker"
      [("error", .str "No space left on device"), ("vault_path", .str host.vaultPath)])
    (PathBuf.join host.vaultPath ".kc_recovery_last_path") bundlePath.toUTF8.data.toList files

/-- Make a recovery bundle, leave its key with the adapter of a provider, and put the descriptor
into the manifest of the bundle. -/
def leaveKey (ext : Externals) (moment : EscrowMoment) (provider : RecoveryEscrowProvider)
    (vaultId outputDir passphrase : String) (nowMs : Int64) (files : Files) :
  AppResult Rotated × Files
  :=
  match generateRecoveryBundle ext moment vaultId outputDir passphrase nowMs files with
  | (.error e, files) => (.error e, files)
  | (.ok generated, files) =>
    match provider.write moment vaultId generated.manifest.payloadHash generated.keyBlob nowMs
        files with
    | (.error e, files) => (.error e, files)
    | (.ok descriptor, files) =>
      let manifest := { generated.manifest with escrow := some descriptor }
      match writeRecoveryManifest moment generated.bundlePath manifest files with
      | (.error e, files) => (.error e, files)
      | (.ok (), files) => (.ok {
          provider := provider.providerId
          generated := { generated with manifest }
          descriptor }, files)

/-- Rotate the key of one of all the providers. -/
def rotateProvider (ext : Externals) (host : Host) (moment : EscrowMoment)
    (vaultId passphrase providerId : String) (nowMs : Int64) (disk : Disk) :
  AppResult Rotated × Disk
  :=
  match resolveRecoveryEscrowProvider host vaultId providerId with
  | .error e => (.error e, disk)
  | .ok provider =>
    if provider.available = false then
      (.error (recoveryError "KC_RECOVERY_ESCROW_ROTATION_CONFLICT"
        "escrow provider unavailable during rotate-all"
        [("provider", .str providerId), ("details", .str provider.details.display)]), disk)
    else
      match leaveKey ext moment provider vaultId (PathBuf.join (bundlesDir host) providerId)
          passphrase nowMs disk.files with
      | (.error e, files) => (.error e, { disk with files })
      | (.ok rotated, files) =>
        let db := upsertRecoveryEscrowConfig disk.db providerId rotated.descriptor.toJson nowMs
        match writeRecoveryStateFile host moment rotated.generated.bundlePath files with
        | (.error e, files) => (.error e, ⟨files, db⟩)
        | (.ok (), files) => (.ok rotated, ⟨files, db⟩)

/-- Rotate the keys of providers one after the other, each a moment after the one before. -/
def rotateEach (ext : Externals) (host : Host) (moment : EscrowMoment)
    (vaultId passphrase : String) : List String → Int64 → Disk → AppResult (List Rotated) × Disk
  | [], _, disk => (.ok [], disk)
  | providerId :: rest, nowMs, disk =>
    match rotateProvider ext host moment vaultId passphrase providerId nowMs disk with
    | (.error e, disk) => (.error e, disk)
    | (.ok rotated, disk) =>
      match rotateEach ext host moment vaultId passphrase rest (nowMs + 1) disk with
      | (.error e, disk) => (.error e, disk)
      | (.ok others, disk) => (.ok (rotated :: others), disk)

/-- Rotate the keys of all providers. The enabled ones are given, as the table of their
references has them. -/
def vaultRecoveryEscrowRotateAllService (ext : Externals) (host : Host) (moment : EscrowMoment)
    (passphrase : String) (providers : List String) (nowMs : Int64) (m : Machine) :
  AppResult (List Rotated) × Machine
  :=
  if isBlank passphrase then
    (.error (recoveryError "KC_ENCRYPTION_REQUIRED"
      "passphrase is required for escrow rotate-all" []), m)
  else
    match openVault ext host m.vault with
    | .error e => (.error e, m)
    | .ok (config, file) =>
      if providers.isEmpty then
        (.error (recoveryError "KC_RECOVERY_ESCROW_ROTATION_CONFLICT"
          "no enabled escrow providers configured for rotate-all" []), opened m config file)
      else
        let (result, disk) := rotateEach ext host moment config.vaultId passphrase providers nowMs
          ⟨m.files, file.db⟩
        (result, closed ext m config file disk)

/-- The configuration that was last updated, which has to be enabled. -/
def enabledConfig (db : Db) : AppResult (String × RecoveryEscrowConfigRow) := do
  let config ← okOrElse
    (recoveryError "KC_RECOVERY_ESCROW_UNAVAILABLE" "recovery escrow provider is not enabled" [])
    (readRecoveryEscrowConfig db)
  if config.2.enabled = false then
    .error (recoveryError "KC_RECOVERY_ESCROW_UNAVAILABLE"
      "recovery escrow provider is disabled" [("provider", .str config.1)])
  else
    .ok config

/-- The adapter of the configuration that was last updated, which has to be available. -/
def resolveAvailable (host : Host) (vaultId : String) (db : Db) :
  AppResult (String × RecoveryEscrowProvider)
  := do
  let config ← enabledConfig db
  let provider ← resolveRecoveryEscrowProvider host vaultId config.1
  if provider.available = false then
    .error (recoveryError "KC_RECOVERY_ESCROW_UNAVAILABLE"
      "recovery escrow provider is unavailable"
      [("provider", .str config.1), ("details", .str provider.details.display)])
  else
    .ok (config.1, provider)

/-- Rotate the key of the provider that was last configured. The configuration does not get the
descriptor. -/
def vaultRecoveryEscrowRotateService (ext : Externals) (host : Host) (moment : EscrowMoment)
    (passphrase : String) (nowMs : Int64) (m : Machine) :
  AppResult (VaultRecoveryEscrowStatus × Rotated) × Machine
  :=
  if passphrase = "" then
    (.error (recoveryError "KC_ENCRYPTION_REQUIRED"
      "passphrase is required for escrow rotation" []), m)
  else
    match openVault ext host m.vault with
    | .error e => (.error e, m)
    | .ok (config, file) =>
      match resolveAvailable host config.vaultId file.db with
      | .error e => (.error e, opened m config file)
      | .ok (providerId, provider) =>
        match leaveKey ext moment provider config.vaultId (bundlesDir host) passphrase nowMs
            m.files with
        | (.error e, files) => (.error e, { opened m config file with files })
        | (.ok rotated, files) =>
          match writeRecoveryStateFile host moment rotated.generated.bundlePath files with
          | (.error e, files) => (.error e, { opened m config file with files })
          | (.ok (), files) =>
            let db := upsertRecoveryEscrowConfig file.db providerId
              (providerStatus provider [("last_rotate_manifest_payload_hash",
                .str rotated.generated.manifest.payloadHash)]) nowMs
            ((recoveryEscrowStatusFromConfig host config.vaultId
                (readRecoveryEscrowConfig db)).map fun status => (status, rotated),
              closed ext m config file ⟨files, db⟩)

/-- Put the key of a bundle back into it, from the adapter its manifest names. -/
def vaultRecoveryEscrowRestoreService (ext : Externals) (host : Host) (moment : EscrowMoment)
    (bundlePath : String) (manifest : AppResult RecoveryManifestV2) (m : Machine) :
  AppResult (VaultRecoveryEscrowStatus × List UInt8) × Machine
  :=
  match openVault ext host m.vault with
  | .error e => (.error e, m)
  | .ok (config, file) =>
    let payload : AppResult (List UInt8) := do
      let _ ← enabledConfig file.db
      let manifest ← manifest
      let descriptor ← okOrElse
        (recoveryError "KC_RECOVERY_ESCROW_RESTORE_FAILED"
          "recovery manifest has no escrow descriptor" [("bundle_path", .str bundlePath)])
        manifest.escrow
      let provider ← resolveRecoveryEscrowProvider host config.vaultId descriptor.provider
      provider.read ext descriptor manifest.payloadHash m.files
    match payload with
    | .error e => (.error e, opened m config file)
    | .ok bytes =>
      let writeFailed path := recoveryError "KC_RECOVERY_ESCROW_RESTORE_FAILED"
        "failed writing restored escrow payload to bundle"
        [("error", .str "No space left on device"), ("path", .str path)]
      match writeFile moment writeFailed (PathBuf.join bundlePath "key_blob.enc") bytes
          m.files with
      | (.error e, files) => (.error e, { opened m config file with files })
      | (.ok (), files) =>
        ((recoveryEscrowStatusFromConfig host config.vaultId
            (readRecoveryEscrowConfig file.db)).map fun status => (status, bytes),
          closed ext m config file ⟨files, file.db⟩)

/-! ### What the table of the configurations holds -/

/-- A descriptor of a supported provider, with everything in it. -/
structure Complete (descriptor : RecoveryEscrowDescriptorV2) : Prop where
  supported : descriptor.provider ∈ ESCROW_PROVIDER_PRIORITY
  providerRef : descriptor.providerRef ≠ ""
  keyId : descriptor.keyId ≠ ""

/-- The descriptors that an export finds in a database are complete. -/
def EscrowKept (db : Db) : Prop :=
  ∀ id row descriptor, db.recoveryEscrowConfigs[id]? = some row →
    Export.escrowDescriptor id row = .ok (some descriptor) → Complete descriptor

section EscrowKept

variable {ext : Externals} {host : Host} {moment : EscrowMoment}
  {vaultId providerId passphrase : String} {provider : RecoveryEscrowProvider}
  {descriptor : RecoveryEscrowDescriptorV2} {db : Db} {nowMs : Int64}

theorem mem_of_resolve (h : resolveRecoveryEscrowProvider host vaultId providerId = .ok provider) :
  provider.providerId ∈ ESCROW_PROVIDER_PRIORITY
  := by
  unfold resolveRecoveryEscrowProvider at h
  split at h <;> cases h
  all_goals
    simp [ESCROW_PROVIDER_PRIORITY, awsRecoveryEscrowProvider, gcpRecoveryEscrowProvider,
      azureRecoveryEscrowProvider, hsmRecoveryEscrowProvider, privateKmsRecoveryEscrowProvider,
      localRecoveryEscrowProvider, emulatedProvider]

theorem ne_empty_of_not_isBlank {s : String} (h : ¬ isBlank s = true) :
  s ≠ ""
  := by
  rintro rfl
  exact h (by decide)

/-- What an adapter returns is a descriptor of its own. -/
theorem complete_of_write {payloadHash : String} {keyBlob : List UInt8} {files files' : Files}
    (hprovider : provider.providerId ∈ ESCROW_PROVIDER_PRIORITY)
    (h : provider.write moment vaultId payloadHash keyBlob nowMs files = (.ok descriptor, files')) :
  Complete descriptor
  := by
  unfold RecoveryEscrowProvider.write at h
  split at h
  · cases h
  · dsimp only at h
    split at h
    · cases h
    · rw [validateEscrowDescriptor] at h
      split at h
      · cases h
      · next hblank =>
        cases h
        simp only [not_or] at hblank
        exact ⟨hprovider, ne_empty_of_not_isBlank hblank.2.1, ne_empty_of_not_isBlank hblank.2.2⟩

theorem complete_of_leaveKey {outputDir : String} {files files' : Files} {rotated : Rotated}
    (hprovider : provider.providerId ∈ ESCROW_PROVIDER_PRIORITY)
    (h : leaveKey ext moment provider vaultId outputDir passphrase nowMs files
      = (.ok rotated, files')) :
  Complete rotated.descriptor
  := by
  unfold leaveKey at h
  split at h
  · cases h
  · split at h
    · cases h
    · next hwrite =>
      dsimp only at h
      split at h
      · cases h
      · cases h
        exact complete_of_write hprovider hwrite

/-- A row without a descriptor counts for nothing in an export. -/
theorem escrowDescriptor_of_missing {value : Json} (hmissing : value.get "provider" = none) :
  Export.escrowDescriptor providerId
      { enabled := true, descriptorJson := some value, updatedAtMs := nowMs }
    = .ok none
  := by
  simp [Export.escrowDescriptor, hmissing, bind, Except.bind]

theorem ofJson_toJson (descriptor : RecoveryEscrowDescriptorV2) :
  RecoveryEscrowDescriptorV2.ofJson descriptor.toJson = .ok descriptor
  := by
  have htime := Json.readI64_toInt descriptor.wrappedAtMs
  simp [RecoveryEscrowDescriptorV2.ofJson, RecoveryEscrowDescriptorV2.toJson, Json.expectObject,
    Json.field, Json.get, List.lookup_cons, htime, bind, Except.bind]

/-- A row with a descriptor counts for that descriptor. -/
theorem eq_of_escrowDescriptor {descriptor' : RecoveryEscrowDescriptorV2}
    (h : Export.escrowDescriptor providerId
        { enabled := true, descriptorJson := some descriptor.toJson, updatedAtMs := nowMs }
      = .ok (some descriptor')) :
  descriptor' = descriptor
  := by
  have hshape : (["provider", "provider_ref", "key_id", "wrapped_at_ms"].all
      fun key => (descriptor.toJson.get key).isSome) = true := by
    simp [RecoveryEscrowDescriptorV2.toJson, Json.get, List.lookup_cons]
  simp only [Export.escrowDescriptor, Bool.not_true, Bool.false_eq_true, if_false,
    okOrElse_some, AppResult.ok_bind, hshape, ofJson_toJson, mapErr_ok] at h
  split at h
  · cases h
  · cases h
    rfl

/-- A configuration whose descriptor, if it has one, is complete can be added. -/
theorem EscrowKept.upsert (h : EscrowKept db) {value : Json}
    (hvalue : ∀ descriptor, Export.escrowDescriptor providerId
        { enabled := true, descriptorJson := some value, updatedAtMs := nowMs }
      = .ok (some descriptor) → Complete descriptor) :
  EscrowKept (upsertRecoveryEscrowConfig db providerId value nowMs)
  := by
  intro id row descriptor hrow hdescriptor
  rw [upsertRecoveryEscrowConfig, Std.ExtTreeMap.getElem?_insert] at hrow
  split at hrow
  · next hid =>
    cases Std.LawfulEqCmp.eq_of_compare hid
    cases hrow
    exact hvalue descriptor hdescriptor
  · exact h id row descriptor hrow hdescriptor

theorem EscrowKept.upsert_missing (h : EscrowKept db) {value : Json}
    (hmissing : value.get "provider" = none) :
  EscrowKept (upsertRecoveryEscrowConfig db providerId value nowMs)
  := by
  apply h.upsert
  intro descriptor hdescriptor
  rw [escrowDescriptor_of_missing hmissing] at hdescriptor
  cases hdescriptor

theorem EscrowKept.upsert_complete (h : EscrowKept db) (hcomplete : Complete descriptor) :
  EscrowKept (upsertRecoveryEscrowConfig db providerId descriptor.toJson nowMs)
  := by
  apply h.upsert
  intro descriptor' hdescriptor
  rw [eq_of_escrowDescriptor hdescriptor]
  exact hcomplete

/-- A rotation keeps the objects, and leaves complete descriptors. -/
theorem kept_rotateProvider (ext : Externals) (host : Host) (moment : EscrowMoment)
    (vaultId passphrase providerId : String) (nowMs : Int64) {disk : Disk}
    (h : EscrowKept disk.db) :
  (rotateProvider ext host moment vaultId passphrase providerId nowMs disk).2.db.objects
      = disk.db.objects
    ∧ EscrowKept (rotateProvider ext host moment vaultId passphrase providerId nowMs disk).2.db
  := by
  rw [rotateProvider]
  split
  · exact ⟨rfl, h⟩
  · next provider hresolve =>
    split
    · exact ⟨rfl, h⟩
    · split
      · exact ⟨rfl, h⟩
      · next hleave =>
        have hcomplete := complete_of_leaveKey (mem_of_resolve hresolve) hleave
        dsimp only
        split
        · exact ⟨rfl, h.upsert_complete hcomplete⟩
        · exact ⟨rfl, h.upsert_complete hcomplete⟩

theorem kept_rotateEach (ext : Externals) (host : Host) (moment : EscrowMoment)
    (vaultId passphrase : String) (providers : List String) (nowMs : Int64) {disk : Disk}
    (h : EscrowKept disk.db) :
  (rotateEach ext host moment vaultId passphrase providers nowMs disk).2.db.objects
      = disk.db.objects
    ∧ EscrowKept (rotateEach ext host moment vaultId passphrase providers nowMs disk).2.db
  := by
  induction providers generalizing nowMs disk with
  | nil => exact ⟨rfl, h⟩
  | cons providerId rest ih =>
    obtain ⟨hobjects, hkept⟩ :=
      kept_rotateProvider ext host moment vaultId passphrase providerId nowMs h
    rw [rotateEach]
    rcases hone : rotateProvider ext host moment vaultId passphrase providerId nowMs disk
      with ⟨e | rotated, after⟩
    · rw [hone] at hobjects hkept
      exact ⟨hobjects, hkept⟩
    · rw [hone] at hobjects hkept
      obtain ⟨hobjects', hkept'⟩ := ih (nowMs + 1) hkept
      dsimp only at hobjects hobjects' ⊢
      split
      · next hrest =>
        rw [hrest] at hobjects' hkept'
        exact ⟨hobjects'.trans hobjects, hkept'⟩
      · next hrest =>
        rw [hrest] at hobjects' hkept'
        exact ⟨hobjects'.trans hobjects, hkept'⟩

end EscrowKept

end Operations

end KnowledgeCore
