import KnowledgeCore.Trust

/-!
# Enrolling devices

How a device enters the registry of a vault, is verified and gets a certificate, how the key it
signs with is put into custody, and how a device is replaced by a new one. What the operating
system makes up (identifiers, seeds, nonces) is given.
-/

namespace KnowledgeCore

/-! ### Devices -/

namespace Trust

/-- The error of a row that is there already. -/
def uniqueFailed (column : String) : String :=
  "UNIQUE constraint failed: " ++ column

/-- Put a new device into the registry, with the key of a seed. -/
def trustDeviceInitWithSeed (ext : Externals) (db : Db) (deviceId deviceLabel : String)
    (seed : Vector UInt8 32) :
  AppResult (TrustedDeviceRow × Db)
  :=
  let pubkey := (ext.verifyingKey seed).toList
  let fingerprint := formatDeviceFingerprint ext pubkey
  let refused (column : String) : AppError :=
    trustError "KC_TRUST_WRITE_FAILED" "failed creating trusted device"
      (.obj [("error", .str (uniqueFailed column)), ("label", .str deviceLabel)])
  if db.trustedDevices.contains deviceId then
    .error (refused "trusted_devices.device_id")
  else if db.trustedDevices.toList.any (fun entry => entry.2.fingerprint = fingerprint) then
    .error (refused "trusted_devices.fingerprint")
  else
    let device : TrustedDeviceRow := {
      pubkey := Hex.bytesToHex pubkey
      fingerprint
      verifiedAtMs := none }
    .ok (device, { db with trustedDevices := db.trustedDevices.insert deviceId device })

/-- Mark a device as verified, if its fingerprint is the one given. -/
def trustDeviceVerify (db : Db) (deviceId fingerprint : String) (nowMs : Int64) :
  AppResult (TrustedDeviceRow × Db)
  :=
  match loadDevice db deviceId with
  | none =>
    .error (trustError "KC_TRUST_DEVICE_UNVERIFIED" "device is not present in trust registry"
      (.obj [("device_id", .str deviceId)]))
  | some existing =>
    if existing.fingerprint ≠ fingerprint then
      .error (trustError "KC_TRUST_FINGERPRINT_MISMATCH"
        "provided fingerprint did not match trusted device key"
        (.obj [("device_id", .str deviceId), ("expected", .str existing.fingerprint),
          ("actual", .str fingerprint)]))
    else
      let device := { existing with verifiedAtMs := some nowMs }
      .ok (device, { db with trustedDevices := db.trustedDevices.insert deviceId device })

/-! ### Certificates -/

/-- The entry with the greatest time, the last of them if there are several. -/
def latest {α : Type} : List (Int64 × α) → Option (Int64 × α)
  | [] => none
  | e :: rest =>
    match latest rest with
    | none => some e
    | some e' => if e'.1 < e.1 then some e else some e'

/-- The subject of the latest session with a provider that is neither expired nor revoked. -/
def latestSessionSubject (db : Db) (providerId : String) (nowMs : Int64) : AppResult String :=
  let sessions := db.identitySessions.toList.filterMap fun (sessionId, session) =>
    if session.providerId = providerId ∧ nowMs ≤ session.expiresAtMs
        ∧ (db.trustProviders[providerId]?.any TrustProviderRow.enabled) = true
        ∧ db.trustSessionRevocations.contains sessionId = false then
      some (session.createdAtMs, session.subject)
    else
      none
  okOrElse
    (identityError "KC_TRUST_IDENTITY_INVALID"
      "no non-expired identity session available for provider"
      (.obj [("provider_id", .str providerId)]))
    ((latest sessions).map Prod.snd)

/-- The fingerprint of a verified device. -/
def deviceFingerprint (db : Db) (deviceId : String) : AppResult String :=
  okOrElse
    (identityError "KC_TRUST_DEVICE_NOT_ENROLLED"
      "device must be trusted and verified before enrollment"
      (.obj [("device_id", .str deviceId)]))
    ((db.trustedDevices[deviceId]?.filter (fun device => device.verifiedAtMs.isSome)).map
      TrustedDeviceRow.fingerprint)

/-- Give a verified device a certificate. The certificate itself is not verified yet. -/
def trustDeviceEnroll (ext : Externals) (db : Db) (certId providerId deviceId : String)
    (nowMs : Int64) :
  AppResult (DeviceCertificateRow × Db)
  := do
  let fingerprint ← deviceFingerprint db deviceId
  let _ ← latestSessionSubject db providerId nowMs
  if db.deviceCertificates.contains certId then
    .error (identityError "KC_TRUST_DEVICE_NOT_ENROLLED"
      "failed creating device certificate record"
      (.obj [("error", .str (uniqueFailed "device_certificates.cert_id")),
        ("device_id", .str deviceId)]))
  else
    let cert : DeviceCertificateRow := {
      deviceId
      certChainHash := expectedCertChainHash ext certId deviceId fingerprint
      verifiedAtMs := none
      createdAtMs := nowMs }
    .ok (cert, { db with deviceCertificates := db.deviceCertificates.insert certId cert })

/-- The latest certificate of a device, with its id. -/
def latestDeviceCertificate (db : Db) (deviceId : String) :
  Option (String × DeviceCertificateRow)
  :=
  (latest (db.deviceCertificates.toList.filterMap fun entry =>
    if entry.2.deviceId = deviceId then some (entry.2.createdAtMs, entry) else none)).map Prod.snd

/-- Mark the latest certificate of a device as verified, if its chain hash is right. -/
def trustDeviceVerifyChain (ext : Externals) (db : Db) (deviceId : String) (nowMs : Int64) :
  AppResult (DeviceCertificateRow × Db)
  := do
  let (certId, certificate) ← okOrElse
    (identityError "KC_TRUST_CERT_CHAIN_INVALID" "device has no certificate enrollment"
      (.obj [("device_id", .str deviceId)]))
    (latestDeviceCertificate db deviceId)
  let fingerprint ← deviceFingerprint db certificate.deviceId
  let expectedChain := expectedCertChainHash ext certId certificate.deviceId fingerprint
  if expectedChain ≠ certificate.certChainHash then
    .error (identityError "KC_TRUST_CERT_CHAIN_INVALID" "certificate chain hash mismatch"
      (.obj [("cert_id", .str certId), ("expected", .str expectedChain),
        ("actual", .str certificate.certChainHash)]))
  else
    let cert := { certificate with verifiedAtMs := some nowMs }
    .ok (cert, { db with deviceCertificates := db.deviceCertificates.insert certId cert })

end Trust

/-! ### Signing keys -/

namespace SyncKeyCustody

def kdfSaltId (deviceId : String) : String :=
  "kc.sync.signing-key.v1:" ++ deviceId

/-- Put the seed of a trusted device into custody, encrypted under the passphrase. -/
def storeSyncSigningSeed (ext : Externals) (db : Db) (deviceId : String)
    (seed : Vector UInt8 32) (passphrase : String) (nonce : Vector UInt8 24) :
  AppResult (SyncSigningKeyRow × Db)
  := do
  let publicKey := Hex.bytesToHex (ext.verifyingKey seed).toList
  let trustedPublicKey ← Trust.trustedDevicePublicKey db deviceId
  if trustedPublicKey ≠ publicKey then
    .error (custodyError "KC_SYNC_SIGNING_KEY_MISMATCH"
      "sync signing seed does not match trusted device public key"
      (.obj [("device_id", .str deviceId)]))
  else if (activeRow db deviceId).isSome then
    .error (custodyError "KC_SYNC_SIGNING_KEY_EXISTS"
      "sync signing key custody already exists for device"
      (.obj [("device_id", .str deviceId)]))
  else do
    let saltId := kdfSaltId deviceId
    let key ← deriveKey ext passphrase saltId
    let ciphertext ← okOrElse
      (custodyError "KC_SYNC_SIGNING_KEY_WRITE_FAILED" "failed encrypting sync signing seed"
        (.obj [("error", .str "aead::Error"), ("device_id", .str deviceId)]))
      (ext.encrypt key nonce seed.toList)
    -- A retired row of the device is still in the way of a new one.
    if db.syncSigningKeys.contains deviceId then
      .error (custodyError "KC_SYNC_SIGNING_KEY_WRITE_FAILED"
        "failed writing sync signing key custody row"
        (.obj [("error", .str (Trust.uniqueFailed "sync_signing_keys.device_id")),
          ("device_id", .str deviceId)]))
    else
      let row : SyncSigningKeyRow := {
        publicKey
        signatureAlg := SYNC_AUTHOR_SIGNATURE_ALG_ED25519_V1
        seedCiphertext := Hex.bytesToHex ciphertext
        seedNonce := Hex.bytesToHex nonce.toList
        kdfAlg := SIGNING_KEY_KDF_ALG
        kdfSaltId := saltId
        deletedAtMs := none }
      .ok (row, { db with syncSigningKeys := db.syncSigningKeys.insert deviceId row })

/-- Mark the active row of a device as deleted, if there is one. -/
def retireSyncSigningKey (db : Db) (deviceId : String) (nowMs : Int64) :
  Option (SyncSigningKeyRow × Db)
  :=
  (activeRow db deviceId).map fun row =>
    let retired := { row with deletedAtMs := some nowMs }
    (retired, { db with syncSigningKeys := db.syncSigningKeys.insert deviceId retired })

/-- Delete the key of a device. The answer is the row as it was. -/
def deleteSyncSigningKey (db : Db) (deviceId : String) (nowMs : Int64) :
  Option (SyncSigningKeyRow × Db)
  := do
  let existing ← activeRow db deviceId
  let (_, after) ← retireSyncSigningKey db deviceId nowMs
  some (existing, after)

/-- Replace the key of a device by none. The answer is the row as it is then. -/
def rotateSyncSigningKey (db : Db) (deviceId : String) (nowMs : Int64) :
  Option (SyncSigningKeyRow × Db)
  := retireSyncSigningKey db deviceId nowMs

end SyncKeyCustody

/-! ### Rotation -/

namespace Trust

/-- What is made up for a new device. -/
structure NewDevice where
  deviceId : String
  certId : String
  seed : Vector UInt8 32
  nonce : Vector UInt8 24

structure TrustDeviceSigningKeyRotateResult where
  oldSigningKey : SyncSigningKeyRow
  device : TrustedDeviceRow
  certificate : DeviceCertificateRow
  signingKey : SyncSigningKeyRow

def ensurePassphraseNotEmpty (passphrase : String) : AppResult Unit :=
  if passphrase.isEmpty then
    .error {
      code := "KC_DB_KEY_INVALID"
      category := "db"
      message := "db passphrase must not be empty"
      details := .obj [] }
  else
    .ok ()

def signingKeyNotFound (message oldDeviceId : String) : AppError where
  code := "KC_SYNC_SIGNING_KEY_NOT_FOUND"
  category := "sync_key_custody"
  message := message
  details := .obj [("device_id", .str oldDeviceId)]

/-- Replace a device by a new one, in one transaction: the new device is verified, gets a
certificate and a key in custody, and the key of the old device is retired. -/
def trustDeviceSigningKeyRotate (ext : Externals) (db : Db) (new : NewDevice)
    (oldDeviceId newDeviceLabel passphrase : String) (nowMs : Int64) :
  AppResult (TrustDeviceSigningKeyRotateResult × Db)
  := do
  ensurePassphraseNotEmpty passphrase
  if (SyncKeyCustody.activeRow db oldDeviceId).isNone then
    .error (signingKeyNotFound "active sync signing key custody row is required for rotation"
      oldDeviceId)
  else do
    let (created, db₁) ← trustDeviceInitWithSeed ext db new.deviceId newDeviceLabel new.seed
    let (verified, db₂) ← trustDeviceVerify db₁ new.deviceId created.fingerprint (nowMs + 1)
    let (certificate, db₃) ←
      trustDeviceEnroll ext db₂ new.certId "default" new.deviceId (nowMs + 2)
    let (signingKey, db₄) ←
      SyncKeyCustody.storeSyncSigningSeed ext db₃ new.deviceId new.seed passphrase new.nonce
    let (oldSigningKey, db₅) ← okOrElse
      (signingKeyNotFound "sync signing key custody row disappeared during rotation" oldDeviceId)
      (SyncKeyCustody.rotateSyncSigningKey db₄ oldDeviceId (nowMs + 4))
    .ok ({ oldSigningKey, device := verified, certificate, signingKey }, db₅)

end Trust

end KnowledgeCore
