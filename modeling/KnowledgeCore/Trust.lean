import KnowledgeCore.Hashing

/-!
# Devices, certificates and signing keys

The registry of trusted devices, the certificates that bind a device to an identity, and the
encrypted custody of the key a device signs sync heads with.
-/

namespace KnowledgeCore

/-- The algorithm a head declares when it was signed with a key from custody. -/
def SYNC_AUTHOR_SIGNATURE_ALG_ED25519_V1 : String := "ed25519_sync_head_v1"

namespace Trust

/-! ### Trusted devices -/

def trustError (code message : String) (details : Json) : AppError where
  code := code
  category := "trust"
  message := message
  details := details

def loadDevice (db : Db) (deviceId : String) : Option TrustedDeviceRow :=
  db.trustedDevices[deviceId]?

/-- The hash of a public key, in groups of eight digits. -/
def formatDeviceFingerprint (ext : Externals) (pubkey : List UInt8) : String :=
  let hex := (Hex.bytesToHex (ext.sha256 pubkey).toList).toList
  let groups := (List.range ((hex.length + 7) / 8)).map
    (fun i => String.ofList ((hex.drop (i * 8)).take 8))
  ":".intercalate groups

/-- The public key of a device, if the device is verified. -/
def trustedDevicePublicKey (db : Db) (deviceId : String) : AppResult String :=
  match loadDevice db deviceId with
  | none =>
    .error (trustError "KC_TRUST_DEVICE_UNVERIFIED" "device is not present in trust registry"
      (.obj [("device_id", .str deviceId)]))
  | some device =>
    if device.verifiedAtMs.isNone then
      .error (trustError "KC_TRUST_DEVICE_UNVERIFIED" "device is not verified"
        (.obj [("device_id", .str deviceId)]))
    else
      .ok device.pubkey

/-! ### Certificates -/

/-- The device, its fingerprint and the certificate a vault signs heads as. -/
structure AuthorIdentity where
  deviceId : String
  fingerprint : String
  certId : String
  certChainHash : String

def identityError (code message : String) (details : Json) : AppError where
  code := code
  category := "trust_identity"
  message := message
  details := details

def expectedCertChainHash (ext : Externals) (certId deviceId fingerprint : String) : String :=
  blake3HexPrefixed ext
    (.text ("kc.trust.cert.chain.v1\n" ++ certId ++ "\n" ++ deviceId ++ "\n" ++ fingerprint))

/-- The verified certificates of verified devices, in the order of their ids, each with the
time it was created at. -/
def verifiedIdentities (db : Db) : List (Int64 × AuthorIdentity) :=
  db.deviceCertificates.toList.filterMap fun (certId, cert) => do
    let device ← db.trustedDevices[cert.deviceId]?
    let _ ← device.verifiedAtMs
    let _ ← cert.verifiedAtMs
    some (cert.createdAtMs, {
      deviceId := cert.deviceId
      fingerprint := device.fingerprint
      certId := certId
      certChainHash := cert.certChainHash })

/-- The entry with the least time, the first of them if there are several. -/
def earliest {α : Type} : List (Int64 × α) → Option (Int64 × α)
  | [] => none
  | e :: rest =>
    match earliest rest with
    | none => some e
    | some e' => if e'.1 < e.1 then some e' else some e

/-- The identity a vault signs heads as: that of its oldest verified certificate. -/
def verifiedAuthorIdentity (db : Db) : AppResult AuthorIdentity :=
  match earliest (verifiedIdentities db) with
  | some (_, author) => .ok author
  | none =>
    .error (identityError "KC_TRUST_DEVICE_NOT_ENROLLED"
      "no verified enrolled author identity is available" (.obj []))

/-- Check that a certificate is known, bound to the device, verified, and has the given chain
hash. -/
def verifyAuthorChain (db : Db) (deviceId certId chainHashValue : String) : AppResult Unit :=
  match db.deviceCertificates[certId]? with
  | none =>
    .error (identityError "KC_TRUST_CERT_CHAIN_INVALID" "certificate record not found"
      (.obj [("cert_id", .str certId)]))
  | some cert =>
    if cert.deviceId ≠ deviceId then
      .error (identityError "KC_TRUST_CERT_CHAIN_INVALID"
        "certificate is not bound to requested device"
        (.obj [("cert_id", .str certId), ("device_id", .str deviceId)]))
    else if cert.verifiedAtMs.isNone then
      .error (identityError "KC_TRUST_DEVICE_NOT_ENROLLED" "certificate chain is not verified"
        (.obj [("cert_id", .str certId), ("device_id", .str deviceId)]))
    else if cert.certChainHash ≠ chainHashValue then
      .error (identityError "KC_TRUST_CERT_CHAIN_INVALID" "certificate chain hash does not match"
        (.obj [("cert_id", .str certId), ("expected", .str cert.certChainHash),
          ("actual", .str chainHashValue)]))
    else
      .ok ()

end Trust

/-! ### Key custody -/

namespace SyncKeyCustody

def SIGNING_KEY_KDF_ALG : String := "argon2id_sync_signing_key_v1"
def KDF_MEMORY_KIB : Nat := 65536
def KDF_ITERATIONS : Nat := 3
def KDF_PARALLELISM : Nat := 1

def custodyError (code message : String) (details : Json := .obj []) : AppError where
  code := code
  category := "sync_key_custody"
  message := message
  details := details

def deriveKey (ext : Externals) (passphrase saltId : String) : AppResult (Vector UInt8 32) :=
  if passphrase.isEmpty then
    .error (custodyError "KC_SYNC_SIGNING_KEY_LOCKED"
      "sync signing key passphrase is required")
  else
    deriveObjectStoreKey ext passphrase saltId KDF_MEMORY_KIB KDF_ITERATIONS KDF_PARALLELISM

/-- The custody row of a device, unless it has been deleted. -/
def activeRow (db : Db) (deviceId : String) : Option SyncSigningKeyRow :=
  db.syncSigningKeys[deviceId]?.filter (fun row => row.deletedAtMs.isNone)

/-- The signing key of a device from custody: absent when there is no active row, and an error
when there is one that cannot be opened or does not match the trusted device. -/
def loadSyncSigningKey (ext : Externals) (db : Db) (deviceId : String)
    (passphrase : Option String) :
  AppResult (Option (Vector UInt8 32))
  :=
  match activeRow db deviceId with
  | none => .ok none
  | some row =>
    if row.signatureAlg ≠ SYNC_AUTHOR_SIGNATURE_ALG_ED25519_V1
        ∨ row.kdfAlg ≠ SIGNING_KEY_KDF_ALG then
      .error (custodyError "KC_SYNC_SIGNING_KEY_UNSUPPORTED"
        "sync signing key custody row uses unsupported metadata"
        (.obj [("device_id", .str deviceId), ("signature_alg", .str row.signatureAlg),
          ("kdf_alg", .str row.kdfAlg)]))
    else do
      let passphrase ← okOrElse
        (custodyError "KC_SYNC_SIGNING_KEY_LOCKED"
          "sync signing key custody exists but vault passphrase is unavailable"
          (.obj [("device_id", .str deviceId)]))
        passphrase
      let key ← deriveKey ext passphrase row.kdfSaltId
      let nonce ← Hex.parseLowerHexFixed "sync_key_custody" 24 row.seedNonce "seed_nonce"
        "KC_SYNC_SIGNING_KEY_INVALID"
      let ciphertext ← Hex.parseLowerHexVec "sync_key_custody" row.seedCiphertext
        "seed_ciphertext" "KC_SYNC_SIGNING_KEY_INVALID"
      let seedBytes ← okOrElse
        (custodyError "KC_SYNC_SIGNING_KEY_LOCKED" "failed decrypting sync signing seed"
          (.obj [("error", .str "aead::Error"), ("device_id", .str deviceId)]))
        (ext.decrypt key nonce ciphertext)
      if h : seedBytes.length = 32 then
        let seed : Vector UInt8 32 := ⟨seedBytes.toArray, by simpa using h⟩
        let publicKey := Hex.bytesToHex (ext.verifyingKey seed).toList
        let trustedPublicKey ← Trust.trustedDevicePublicKey db deviceId
        if publicKey ≠ row.publicKey ∨ publicKey ≠ trustedPublicKey then
          .error (custodyError "KC_SYNC_SIGNING_KEY_MISMATCH"
            "sync signing seed does not match trusted device public key"
            (.obj [("device_id", .str deviceId),
              ("fingerprint",
                .str (Trust.formatDeviceFingerprint ext (ext.verifyingKey seed).toList))]))
        else
          .ok (some seed)
      else
        .error (custodyError "KC_SYNC_SIGNING_KEY_INVALID"
          "decrypted sync signing seed has invalid length"
          (.obj [("device_id", .str deviceId)]))

/-- A key that custody hands out is the key of the trusted device. -/
theorem loadSyncSigningKey_eq_some {ext : Externals} {db : Db} {deviceId : String}
    {passphrase : Option String} {seed : Vector UInt8 32}
    (h : loadSyncSigningKey ext db deviceId passphrase = .ok (some seed)) :
  Trust.trustedDevicePublicKey db deviceId
    = .ok (Hex.bytesToHex (ext.verifyingKey seed).toList)
  := by
  rw [loadSyncSigningKey] at h
  split at h
  · cases h
  split at h
  · cases h
  simp only [bind, Except.bind] at h
  repeat' split at h
  all_goals cases h
  next hk _ _ htrusted hne =>
    rw [htrusted]
    push Not at hne
    rw [hne.2]

end SyncKeyCustody

end KnowledgeCore
