import KnowledgeCore.Lib.Fallible
import KnowledgeCore.Operations.Recovery

/-!
# Escrow providers

The calls of recovery escrow with all the tables they write: the configurations, the references
of the providers, and the events. Every statement is carried out on its own, and each of them, as
each file, may fail to be written.
-/

namespace KnowledgeCore

namespace EscrowProviders

open Export (RecoveryEscrowDescriptorV2 ESCROW_PROVIDER_PRIORITY providerPriority)
open Ingest (openVault toAsciiLowercase)
open Operations hiding vaultRecoveryEscrowEnableService vaultRecoveryEscrowProviderAddService
  vaultRecoveryEscrowRotateAllService vaultRecoveryEscrowRotateService
  vaultRecoveryEscrowRestoreService rotateEach

/-! ### Tables -/

/-- A row of `recovery_escrow_provider_configs`, under its `provider_id`. -/
structure RecoveryEscrowProviderConfigRowV3 where
  providerPriority : Nat
  configRef : String
  enabled : Bool
  updatedAtMs : Int64

structure RecoveryEscrowEvent where
  providerId : String
  action : String
  tsMs : Int64
  details : Json

/-- The references a new database has: three providers that are not enabled. -/
def seededProviders : Table RecoveryEscrowProviderConfigRowV3 :=
  ["aws", "gcp", "azure"].foldl (fun providers providerId => providers.insert providerId {
    providerPriority := providerPriority providerId
    configRef := "\x7b\x7d"
    enabled := false
    updatedAtMs := 0 }) ∅

/-- What a call finds when the vault is open. -/
structure EscrowState where
  files : Files
  file : SqliteFile
  providers : Table RecoveryEscrowProviderConfigRowV3
  events : List RecoveryEscrowEvent

abbrev EscrowM (α : Type) : Type := Fallible EscrowState AppError α

/-! ### Statements -/

/-- The statements that write the tables of escrow. -/
inductive Statement
  | config (providerId : String) (descriptor : Json) (updatedAtMs : Int64)
  | provider (providerId configRef : String) (updatedAtMs : Int64)
  | event (providerId action : String) (tsMs : Int64) (details : Json)

/-- What the surroundings decide: the bytes that are drawn at random, for a bundle of a time, which
files cannot be written, and with which errors statements are refused. -/
structure EscrowTrouble where
  entropy : Int64 → Except String (Vector UInt8 16)
  fails : String → Bool
  refuses : Statement → Option String

/-- The surroundings of a call that seals a passphrase. -/
def EscrowTrouble.moment (ext : Externals) (trouble : EscrowTrouble)
    (vaultId passphrase : String) : EscrowMoment
  where
  draw createdAtMs :=
    Recovery.drawRecovery ext (trouble.entropy createdAtMs) vaultId passphrase createdAtMs
  fails := trouble.fails

def Statement.failure (error : String) : Statement → AppError
  | .config providerId _ _ =>
    recoveryError "KC_RECOVERY_ESCROW_WRITE_FAILED" "failed upserting recovery escrow config"
      [("error", .str error), ("provider", .str providerId)]
  | .provider providerId _ _ =>
    recoveryError "KC_RECOVERY_ESCROW_WRITE_FAILED"
      "failed upserting v3 recovery escrow provider config"
      [("error", .str error), ("provider", .str (toAsciiLowercase (trim providerId)))]
  | .event providerId action _ _ =>
    recoveryError "KC_RECOVERY_ESCROW_WRITE_FAILED" "failed appending recovery escrow event"
      [("error", .str error), ("provider", .str providerId), ("action", .str action)]

/-- What a statement does, in a transaction of its own. -/
def Statement.apply (ext : Externals) (s : EscrowState) : Statement → EscrowState
  | .config providerId descriptor updatedAtMs =>
    let db := upsertRecoveryEscrowConfig s.file.db providerId descriptor updatedAtMs
    { s with file := ext.commit s.file db }
  | .provider providerId configRef updatedAtMs =>
    { s with
      file := ext.commit s.file s.file.db
      providers := s.providers.insert (toAsciiLowercase (trim providerId)) {
        providerPriority := providerPriority (toAsciiLowercase (trim providerId))
        configRef
        enabled := true
        updatedAtMs } }
  | .event providerId action tsMs details =>
    { s with
      file := ext.commit s.file s.file.db
      events := s.events ++ [{ providerId, action, tsMs, details }] }

section Calls

variable (ext : Externals) (host : Host) (trouble : EscrowTrouble)

def execute (statement : Statement) : EscrowM Unit := fun s =>
  match trouble.refuses statement with
  | some error => (.error (statement.failure error), s)
  | none => (.ok (), statement.apply ext s)

/-- Do something to the files. -/
def onFiles {α : Type} (f : Files → AppResult α × Files) : EscrowM α := fun s =>
  ((f s.files).1, { s with files := (f s.files).2 })

/-- The references in the order of their providers. -/
def listRecoveryEscrowProviderConfigsV3 (providers : Table RecoveryEscrowProviderConfigRowV3) :
  List (String × RecoveryEscrowProviderConfigRowV3)
  :=
  providers.toList.insertionSort fun a b =>
    a.2.providerPriority < b.2.providerPriority
      ∨ (a.2.providerPriority = b.2.providerPriority ∧ a.1 ≤ b.1)

/-! ### Calls on a vault that is open -/

def escrowStatus (vaultId : String) : EscrowM VaultRecoveryEscrowStatus :=
  .reading fun s =>
    recoveryEscrowStatusFromConfig host vaultId (readRecoveryEscrowConfig s.file.db)

def enableProvider (vaultId providerId : String) (nowMs : Int64) :
  EscrowM VaultRecoveryEscrowStatus
  := do
  let provider ← .ofExcept (resolveConfigured host vaultId providerId)
  execute ext trouble (.config providerId (providerStatus provider []) nowMs)
  execute ext trouble (.event providerId "enable" nowMs
    (.obj [("available", .bool provider.available), ("configured", .bool provider.configured)]))
  escrowStatus host vaultId

structure VaultRecoveryEscrowProviderItem where
  provider : String
  priority : Nat
  configRef : String
  enabled : Bool
  providerAvailable : Bool
  updatedAtMs : Int64

def recoveryEscrowProviderItemFromRow (vaultId : String)
    (row : String × RecoveryEscrowProviderConfigRowV3) :
  AppResult VaultRecoveryEscrowProviderItem
  := do
  let provider ← resolveRecoveryEscrowProvider host vaultId row.1
  .ok {
    provider := row.1
    priority := row.2.providerPriority
    configRef := row.2.configRef
    enabled := row.2.enabled
    providerAvailable := provider.available
    updatedAtMs := row.2.updatedAtMs }

/-- Add a provider, which is then looked for under the name it was added by. -/
def addProvider (vaultId providerId configRef : String) (nowMs : Int64) :
  EscrowM VaultRecoveryEscrowProviderItem
  := do
  let provider ← .ofExcept (resolveConfigured host vaultId providerId)
  execute ext trouble (.provider providerId configRef nowMs)
  execute ext trouble (.config providerId (.obj [("config_ref", .str configRef)]) nowMs)
  execute ext trouble (.event providerId "provider_add" nowMs
    (.obj [("config_ref", .str configRef), ("available", .bool provider.available)]))
  let items ← .reading fun s =>
    (listRecoveryEscrowProviderConfigsV3 s.providers).mapM
      (recoveryEscrowProviderItemFromRow host vaultId)
  .ofExcept (okOrElse
    (recoveryError "KC_RECOVERY_ESCROW_WRITE_FAILED" "provider config missing after add"
      [("provider", .str providerId)])
    (items.find? fun item => item.provider = providerId))

/-- What an event says of a bundle. -/
def bundleDetails (bundlePath payloadHash : String) : Json :=
  .obj [("bundle_path", .str bundlePath), ("payload_hash", .str payloadHash)]

/-- Rotate the key of the provider that was last configured. -/
def rotateLast (vaultId passphrase : String) (nowMs : Int64) :
  EscrowM (VaultRecoveryEscrowStatus × Rotated)
  := do
  let (providerId, provider) ← .reading fun s => resolveAvailable host vaultId s.file.db
  let moment := trouble.moment ext vaultId passphrase
  let rotated ← onFiles (leaveKey ext moment provider vaultId (bundlesDir host) passphrase nowMs)
  onFiles (writeRecoveryStateFile host moment rotated.generated.bundlePath)
  execute ext trouble (.config providerId
    (providerStatus provider [("last_rotate_manifest_payload_hash",
      .str rotated.generated.manifest.payloadHash)]) nowMs)
  execute ext trouble (.event providerId "rotate" nowMs
    (bundleDetails rotated.generated.bundlePath rotated.generated.manifest.payloadHash))
  let status ← escrowStatus host vaultId
  pure (status, rotated)

/-- The adapter of one of all the providers, which has to be available. -/
def resolveForAll (vaultId providerId : String) : AppResult RecoveryEscrowProvider := do
  let provider ← resolveRecoveryEscrowProvider host vaultId providerId
  if provider.available = false then
    .error (recoveryError "KC_RECOVERY_ESCROW_ROTATION_CONFLICT"
      "escrow provider unavailable during rotate-all"
      [("provider", .str providerId), ("details", .str provider.details.display)])
  else
    .ok provider

/-- Rotate the key of one of all the providers. -/
def rotateOne (vaultId passphrase : String)
    (row : String × RecoveryEscrowProviderConfigRowV3) (nowMs : Int64) : EscrowM Rotated
  := do
  let provider ← .ofExcept (resolveForAll host vaultId row.1)
  let moment := trouble.moment ext vaultId passphrase
  let rotated ← onFiles (leaveKey ext moment provider vaultId
    (PathBuf.join (bundlesDir host) row.1) passphrase nowMs)
  execute ext trouble (.config row.1 rotated.descriptor.toJson nowMs)
  execute ext trouble (.provider row.1 row.2.configRef nowMs)
  execute ext trouble (.event row.1 "rotate_all" nowMs
    (bundleDetails rotated.generated.bundlePath rotated.generated.manifest.payloadHash))
  onFiles (writeRecoveryStateFile host moment rotated.generated.bundlePath)
  pure rotated

/-- Rotate the keys of providers one after the other, each a moment after the one before. -/
def rotateEach (vaultId passphrase : String) :
    List (String × RecoveryEscrowProviderConfigRowV3) → Int64 → EscrowM (List Rotated)
  | [], _ => pure []
  | row :: rest, nowMs => do
    let rotated ← rotateOne ext host trouble vaultId passphrase row nowMs
    let others ← rotateEach vaultId passphrase rest (nowMs + 1)
    pure (rotated :: others)

/-- The references that are enabled, of which there has to be one. -/
def enabledProviders (s : EscrowState) :
  AppResult (List (String × RecoveryEscrowProviderConfigRowV3))
  :=
  let providers := (listRecoveryEscrowProviderConfigsV3 s.providers).filter fun row => row.2.enabled
  if providers.isEmpty then
    .error (recoveryError "KC_RECOVERY_ESCROW_ROTATION_CONFLICT"
      "no enabled escrow providers configured for rotate-all" [])
  else
    .ok providers

def rotateAll (vaultId passphrase : String) (nowMs : Int64) : EscrowM (List Rotated) := do
  let providers ← .reading enabledProviders
  rotateEach ext host trouble vaultId passphrase providers nowMs

/-- Put the key of a bundle back into it, from the adapter its manifest names. Nothing is sealed. -/
def restoreBundle (vaultId bundlePath : String) (nowMs : Int64) :
  EscrowM (VaultRecoveryEscrowStatus × List UInt8 × RecoveryManifestV2)
  := do
  let config ← .reading fun s => enabledConfig s.file.db
  let manifest ← .reading fun s => Recovery.readRecoveryManifest bundlePath s.files
  let descriptor ← .ofExcept (okOrElse
    (recoveryError "KC_RECOVERY_ESCROW_RESTORE_FAILED"
      "recovery manifest has no escrow descriptor" [("bundle_path", .str bundlePath)])
    manifest.escrow)
  let provider ← .ofExcept (resolveRecoveryEscrowProvider host vaultId descriptor.provider)
  let bytes ← .reading fun s => provider.read ext descriptor manifest.payloadHash s.files
  onFiles (writeFile (trouble.moment ext vaultId "")
    (fun path => recoveryError "KC_RECOVERY_ESCROW_RESTORE_FAILED"
      "failed writing restored escrow payload to bundle"
      [("error", .str "No space left on device"), ("path", .str path)])
    (Recovery.keyBlobPath bundlePath) bytes)
  execute ext trouble (.event config.1 "restore" nowMs
    (bundleDetails bundlePath manifest.payloadHash))
  let status ← escrowStatus host vaultId
  pure (status, bytes, manifest)

/-! ### Services -/

/-- A vault with the tables of its database that only escrow has to do with. -/
structure EscrowVault where
  machine : Machine
  providers : Table RecoveryEscrowProviderConfigRowV3
  events : List RecoveryEscrowEvent

/-- The state of a vault whose database has been opened. -/
def EscrowVault.state (v : EscrowVault) (file : SqliteFile) : EscrowState where
  files := v.machine.files
  file := file
  providers := v.providers
  events := v.events

/-- The vault after a call has led to a state. -/
def EscrowVault.leave (v : EscrowVault) (config : VaultJsonV3) (s : EscrowState) : EscrowVault where
  machine := { Ingest.opened v.machine config s.file with files := s.files }
  providers := s.providers
  events := s.events

/-- Open the vault, and run a call in it. -/
def inVault {α : Type} (call : String → EscrowM α) (v : EscrowVault) : AppResult α × EscrowVault :=
  match openVault ext host v.machine.vault with
  | .error e => (.error e, v)
  | .ok (config, file) =>
    ((call config.vaultId (v.state file)).1,
      v.leave config (call config.vaultId (v.state file)).2)

def vaultRecoveryEscrowEnableService (providerId : String) (nowMs : Int64) (v : EscrowVault) :
  AppResult VaultRecoveryEscrowStatus × EscrowVault
  :=
  inVault ext host (fun vaultId => enableProvider ext host trouble vaultId providerId nowMs) v

def vaultRecoveryEscrowProviderAddService (providerId configRef : String) (nowMs : Int64)
    (v : EscrowVault) : AppResult VaultRecoveryEscrowProviderItem × EscrowVault
  :=
  if isBlank configRef then
    (.error (recoveryError "KC_RECOVERY_ESCROW_WRITE_FAILED" "config_ref is required"
      [("provider", .str providerId)]), v)
  else
    inVault ext host
      (fun vaultId => addProvider ext host trouble vaultId providerId configRef nowMs) v

def vaultRecoveryEscrowRotateAllService (passphrase : String) (nowMs : Int64) (v : EscrowVault) :
  AppResult (List Rotated) × EscrowVault
  :=
  if isBlank passphrase then
    (.error (recoveryError "KC_ENCRYPTION_REQUIRED"
      "passphrase is required for escrow rotate-all" []), v)
  else
    inVault ext host (fun vaultId => rotateAll ext host trouble vaultId passphrase nowMs) v

def vaultRecoveryEscrowRotateService (passphrase : String) (nowMs : Int64) (v : EscrowVault) :
  AppResult (VaultRecoveryEscrowStatus × Rotated) × EscrowVault
  :=
  if passphrase = "" then
    (.error (recoveryError "KC_ENCRYPTION_REQUIRED"
      "passphrase is required for escrow rotation" []), v)
  else
    inVault ext host (fun vaultId => rotateLast ext host trouble vaultId passphrase nowMs) v

def vaultRecoveryEscrowRestoreService (bundlePath : String) (nowMs : Int64) (v : EscrowVault) :
  AppResult (VaultRecoveryEscrowStatus × List UInt8 × RecoveryManifestV2) × EscrowVault
  :=
  inVault ext host (fun vaultId => restoreBundle ext host trouble vaultId bundlePath nowMs) v

end Calls

end EscrowProviders

end KnowledgeCore
