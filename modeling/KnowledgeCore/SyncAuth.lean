import KnowledgeCore.Trust
import KnowledgeCore.Vault

/-!
# Sync heads and their authors

The head a target points at its latest snapshot with, how it is written and read, how a vault
signs the head it pushes, and how a vault checks the head it finds.
-/

namespace KnowledgeCore

def TRUST_MODEL_PASSPHRASE_V1 : String := "passphrase_v1"

def syncError (code message : String) (details : Json := .obj []) : AppError where
  code := code
  category := "sync"
  message := message
  details := details

structure SyncTrustV1 where
  model : String
  fingerprint : String
  updatedAtMs : Int64
deriving DecidableEq

structure SyncHeadV1 where
  schemaVersion : Int64
  snapshotId : String
  manifestHash : String
  createdAtMs : Int64
  trust : Option SyncTrustV1 := none
  authorDeviceId : Option String := none
  authorFingerprint : Option String := none
  authorSignature : Option String := none
  authorSignatureAlg : Option String := none
  authorCertId : Option String := none
  authorChainHash : Option String := none
deriving DecidableEq

/-! ### Heads as JSON -/

namespace SyncTrustV1

def toJson (trust : SyncTrustV1) : Json :=
  .obj [("model", .str trust.model), ("fingerprint", .str trust.fingerprint),
    ("updated_at_ms", .int trust.updatedAtMs.toInt)]

open Json in
def ofJson : Reader SyncTrustV1 := fun j => do
  expectObject j
  let model ← field j "model" readString
  let fingerprint ← field j "fingerprint" readString
  let updatedAtMs ← field j "updated_at_ms" readI64
  .ok { model, fingerprint, updatedAtMs }

@[simp] theorem ofJson_toJson (trust : SyncTrustV1) :
  ofJson trust.toJson = .ok trust
  := by
  simp [ofJson, toJson, Json.expectObject, Json.field, Json.get, List.lookup_cons, bind,
    Except.bind]

end SyncTrustV1

namespace SyncHeadV1

/-- A member that is left out when it is absent. -/
def optionalMember (key : String) : Option String → List (String × Json)
  | some s => [(key, .str s)]
  | none => []

def toJson (head : SyncHeadV1) : Json :=
  .obj ([("schema_version", .int head.schemaVersion.toInt),
      ("snapshot_id", .str head.snapshotId),
      ("manifest_hash", .str head.manifestHash),
      ("created_at_ms", .int head.createdAtMs.toInt),
      ("trust", (head.trust.map SyncTrustV1.toJson).getD .null)]
    ++ optionalMember "author_device_id" head.authorDeviceId
    ++ optionalMember "author_fingerprint" head.authorFingerprint
    ++ optionalMember "author_signature" head.authorSignature
    ++ optionalMember "author_signature_alg" head.authorSignatureAlg
    ++ optionalMember "author_cert_id" head.authorCertId
    ++ optionalMember "author_chain_hash" head.authorChainHash)

open Json in
def ofJson : Reader SyncHeadV1 := fun j => do
  expectObject j
  let schemaVersion ← field j "schema_version" readI64
  let snapshotId ← field j "snapshot_id" readString
  let manifestHash ← field j "manifest_hash" readString
  let createdAtMs ← field j "created_at_ms" readI64
  let trust ← fieldOr j "trust" (readOption SyncTrustV1.ofJson) none
  let authorDeviceId ← fieldOr j "author_device_id" (readOption readString) none
  let authorFingerprint ← fieldOr j "author_fingerprint" (readOption readString) none
  let authorSignature ← fieldOr j "author_signature" (readOption readString) none
  let authorSignatureAlg ← fieldOr j "author_signature_alg" (readOption readString) none
  let authorCertId ← fieldOr j "author_cert_id" (readOption readString) none
  let authorChainHash ← fieldOr j "author_chain_hash" (readOption readString) none
  .ok { schemaVersion, snapshotId, manifestHash, createdAtMs, trust, authorDeviceId,
        authorFingerprint, authorSignature, authorSignatureAlg, authorCertId,
        authorChainHash }

@[simp] theorem lookup_optionalMember (key key' : String) (x : Option String) :
  (optionalMember key x).lookup key' = if key' = key then x.map Json.str else none
  := by
  cases x with
  | none => simp [optionalMember]
  | some s =>
    by_cases h : key' = key
    · simp [optionalMember, h]
    · have : (key' == key) = false := by simpa using h
      simp [optionalMember, List.lookup_cons, h, this]

theorem readOption_trust (trust : Option SyncTrustV1) :
  Json.readOption SyncTrustV1.ofJson ((trust.map SyncTrustV1.toJson).getD .null) = .ok trust
  := by
  cases trust with
  | none => rfl
  | some t =>
    have h := SyncTrustV1.ofJson_toJson t
    simp only [Option.map_some, Option.getD_some, Json.readOption]
    rw [SyncTrustV1.toJson] at h ⊢
    simp only [h]
    rfl

/-- Reading an optional text field of a written head gives the field. -/
theorem fieldOr_optional (j : Json) (key : String) (x : Option String)
    (h : j.get key = x.map Json.str) :
  Json.fieldOr j key (Json.readOption Json.readString) none = .ok x
  := by
  cases x <;> simp [Json.fieldOr, h, Json.readOption, Except.map]

/-- A head reads back as it was written. -/
@[simp] theorem ofJson_toJson (head : SyncHeadV1) :
  ofJson head.toJson = .ok head
  := by
  have hget (key : String) (x : Option String) (h : head.toJson.get key = x.map Json.str) :=
    fieldOr_optional head.toJson key x h
  have hdevice := hget "author_device_id" head.authorDeviceId
    (by simp [toJson, Json.get, List.lookup_cons, List.lookup_append])
  have hfingerprint := hget "author_fingerprint" head.authorFingerprint
    (by simp [toJson, Json.get, List.lookup_cons, List.lookup_append])
  have hsignature := hget "author_signature" head.authorSignature
    (by simp [toJson, Json.get, List.lookup_cons, List.lookup_append])
  have halg := hget "author_signature_alg" head.authorSignatureAlg
    (by simp [toJson, Json.get, List.lookup_cons, List.lookup_append])
  have hcert := hget "author_cert_id" head.authorCertId
    (by simp [toJson, Json.get, List.lookup_cons, List.lookup_append])
  have hchain := hget "author_chain_hash" head.authorChainHash
    (by simp [toJson, Json.get, List.lookup_cons, List.lookup_append])
  have htrust : Json.fieldOr head.toJson "trust" (Json.readOption SyncTrustV1.ofJson) none
      = .ok head.trust := by
    simp only [Json.fieldOr, toJson, Json.get, List.cons_append, List.lookup_cons, String.reduceBEq]
    apply readOption_trust
  have hobj : Json.expectObject head.toJson = .ok () := rfl
  have hschema : Json.field head.toJson "schema_version" Json.readI64
      = .ok head.schemaVersion := by
    simp [Json.field, toJson, Json.get]
  have hid : Json.field head.toJson "snapshot_id" Json.readString = .ok head.snapshotId := by
    simp [Json.field, toJson, Json.get, List.lookup_cons]
  have hhash : Json.field head.toJson "manifest_hash" Json.readString
      = .ok head.manifestHash := by
    simp [Json.field, toJson, Json.get, List.lookup_cons]
  have hcreated : Json.field head.toJson "created_at_ms" Json.readI64
      = .ok head.createdAtMs := by
    simp [Json.field, toJson, Json.get, List.lookup_cons]
  simp [ofJson, hobj, hschema, hid, hhash, hcreated, htrust, hdevice, hfingerprint, hsignature,
    halg, hcert, hchain, bind, Except.bind]

theorem membersHaveFloat_optionalMember (key : String) (x : Option String) :
  CanonJson.membersHaveFloat (optionalMember key x) = false
  := by
  cases x <;> rfl

/-- There is no floating-point number in a head, so it has a canonical file. -/
theorem ofCanonical_toJson (head : SyncHeadV1) :
  Content.ofCanonical head.toJson = .ok (.json head.toJson 0)
  := by
  apply Content.ofCanonical_of_not_hasFloat
  have htrust : CanonJson.hasFloat ((head.trust.map SyncTrustV1.toJson).getD .null) = false := by
    cases head.trust <;> rfl
  simp [toJson, CanonJson.hasFloat, CanonJson.membersHaveFloat_append,
    CanonJson.membersHaveFloat, membersHaveFloat_optionalMember, htrust]

end SyncHeadV1

/-! ### What is signed -/

namespace SyncAuth

/-- The fields of a head that an author vouches for. -/
structure SyncAuthorPayloadV1 where
  snapshotId : String
  manifestHash : String
  createdAtMs : Int64
  authorDeviceId : String
  authorFingerprint : String
  authorCertId : String
  authorChainHash : String

/-- The text the verifier checks a declared signature against. -/
def canonicalSyncAuthorPayloadV1 (payload : SyncAuthorPayloadV1) : AppResult String :=
  CanonJson.toCanonicalBytes (.obj [
    ("signature_alg", .str SYNC_AUTHOR_SIGNATURE_ALG_ED25519_V1),
    ("snapshot_id", .str payload.snapshotId),
    ("manifest_hash", .str payload.manifestHash),
    ("created_at_ms", .int payload.createdAtMs.toInt),
    ("author_device_id", .str payload.authorDeviceId),
    ("author_fingerprint", .str payload.authorFingerprint),
    ("author_cert_id", .str payload.authorCertId),
    ("author_chain_hash", .str payload.authorChainHash)])

/-- The text a pushing vault signs. -/
def syncSignaturePayload (payload : SyncAuthorPayloadV1) : AppResult String :=
  CanonJson.toCanonicalBytes (.obj [
    ("snapshot_id", .str payload.snapshotId),
    ("manifest_hash", .str payload.manifestHash),
    ("created_at_ms", .int payload.createdAtMs.toInt),
    ("author_device_id", .str payload.authorDeviceId),
    ("author_fingerprint", .str payload.authorFingerprint),
    ("author_cert_id", .str payload.authorCertId),
    ("author_chain_hash", .str payload.authorChainHash)])

/-- The signature of a vault without a signing key, which anyone can compute. -/
def legacySyncSignature (ext : Externals) (payload : String) : String :=
  Hex.bytesToHex (ext.blake3 (.text payload)).toList
    ++ Hex.bytesToHex (ext.blake3 (.text ("kc.sync.sig.v1\n" ++ payload))).toList

/-! ### Signing -/

structure SyncPayloadSignature where
  signature : String
  signatureAlg : Option String

/-- Sign a payload: with the key from custody, which is declared; without one, with the key
from the environment, or else with the legacy signature. -/
def signSyncPayload (ext : Externals) (host : Host) (db : Db) (authorDeviceId payload : String) :
  AppResult SyncPayloadSignature
  := do
  match ← SyncKeyCustody.loadSyncSigningKey ext db authorDeviceId
      (Vault.dbPassphraseForVault host) with
  | some signingKey =>
    .ok {
      signature := Hex.bytesToHex (ext.sign signingKey payload).toList
      signatureAlg := some SYNC_AUTHOR_SIGNATURE_ALG_ED25519_V1 }
  | none =>
    match host.env "KC_SYNC_AUTHOR_SIGNING_KEY_HEX" with
    | none => .ok { signature := legacySyncSignature ext payload, signatureAlg := none }
    | some seedHex =>
      let seed ← Hex.parseLowerHexFixed "sync" 32 (trim seedHex)
        "KC_SYNC_AUTHOR_SIGNING_KEY_HEX" "KC_SYNC_AUTH_FAILED"
      let expectedPubkey ← mapErr
        (fun e => syncError "KC_SYNC_AUTH_FAILED"
          "failed resolving trusted device key for sync signing"
          (.obj [("source_code", .str e.code), ("source_message", .str e.message),
            ("author_device_id", .str authorDeviceId)]))
        (Trust.trustedDevicePublicKey db authorDeviceId)
      let actualPubkey := Hex.bytesToHex (ext.verifyingKey seed).toList
      if actualPubkey ≠ expectedPubkey then
        .error (syncError "KC_SYNC_AUTH_FAILED"
          "sync signing key does not match trusted author device"
          (.obj [("author_device_id", .str authorDeviceId)]))
      else
        .ok {
          signature := Hex.bytesToHex (ext.sign seed payload).toList
          signatureAlg := none }

/-- A declared signature was made with the key of the trusted author device. -/
theorem signSyncPayload_declared {ext : Externals} {host : Host} {db : Db}
    {deviceId payload : String} {sig : SyncPayloadSignature}
    (h : signSyncPayload ext host db deviceId payload = .ok sig)
    (halg : sig.signatureAlg ≠ none) :
  ∃ seed, Trust.trustedDevicePublicKey db deviceId
      = .ok (Hex.bytesToHex (ext.verifyingKey seed).toList)
    ∧ sig.signature = Hex.bytesToHex (ext.sign seed payload).toList
    ∧ sig.signatureAlg = some SYNC_AUTHOR_SIGNATURE_ALG_ED25519_V1
  := by
  simp only [signSyncPayload, bind, Except.bind] at h
  repeat' split at h
  all_goals cases h
  · next seed hload =>
    use seed, SyncKeyCustody.loadSyncSigningKey_eq_some hload
  all_goals simp at halg

/-- The identity the vault signs heads as. -/
def localSyncAuthor (db : Db) : AppResult Trust.AuthorIdentity :=
  mapErr
    (fun e =>
      if e.code = "KC_TRUST_DEVICE_NOT_ENROLLED" then
        syncError "KC_TRUST_DEVICE_NOT_ENROLLED"
          "sync head v3 requires a verified enrolled device certificate"
      else
        syncError "KC_TRUST_CERT_CHAIN_INVALID"
          "failed resolving local sync author identity"
          (.obj [("source_code", .str e.code), ("source_message", .str e.message)]))
    (Trust.verifiedAuthorIdentity db)

/-- The trust metadata of a head, from the passphrase of the vault. -/
def deriveLocalSyncTrust (ext : Externals) (host : Host) (vault : VaultJsonV3) (nowMs : Int64) :
  AppResult SyncTrustV1
  := do
  let passphrase ← okOrElse
    (syncError "KC_SYNC_AUTH_FAILED" "remote sync requires KC_VAULT_PASSPHRASE"
      (.obj [("env", .str "KC_VAULT_PASSPHRASE")]))
    (host.env "KC_VAULT_PASSPHRASE")
  let kdf := vault.encryption.kdf
  let key ← mapErr
    (fun e => syncError "KC_SYNC_AUTH_FAILED"
      "failed deriving sync trust fingerprint from passphrase"
      (.obj [("error", .str e.message), ("source_code", .str e.code)]))
    (deriveObjectStoreKey ext passphrase kdf.saltId kdf.memoryKib kdf.iterations
      kdf.parallelism)
  .ok {
    model := TRUST_MODEL_PASSPHRASE_V1
    fingerprint := blake3HexPrefixed ext
      (.text ("kc.sync.passphrase.v1\n" ++ kdf.saltId ++ "\n" ++ Hex.bytesToHex key.toList))
    updatedAtMs := nowMs }

/-! ### Verifying -/

def verifySyncAuthorSignatureV1 (ext : Externals) (payload signatureHex authorPubkeyHex : String) :
  AppResult Unit
  := do
  let signature ← Hex.parseLowerHexFixed "sync" 64 signatureHex "author_signature"
    "KC_TRUST_SIGNATURE_INVALID"
  let pubkey ← Hex.parseLowerHexFixed "sync" 32 authorPubkeyHex "author_pubkey"
    "KC_TRUST_CERT_CHAIN_INVALID"
  if !ext.isVerifyingKey pubkey then
    .error (syncError "KC_TRUST_CERT_CHAIN_INVALID"
      "author public key is not a valid Ed25519 verifying key"
      (.obj [("error", .str "signature error: Cannot decompress Edwards point")]))
  else if !ext.verify pubkey payload signature then
    .error (syncError "KC_TRUST_SIGNATURE_INVALID"
      "sync author Ed25519 signature verification failed"
      (.obj [("error", .str "signature error: Verification equation was not satisfied")]))
  else
    .ok ()

/-- A field of a head that has to be there and not be blank. -/
def requiredAuthorField (value : Option String) (head : SyncHeadV1) (field : String) :
  AppResult String
  :=
  okOrElse
    (syncError "KC_TRUST_SIGNATURE_INVALID"
      "sync head v3 is missing required author signature field"
      (.obj [("snapshot_id", .str head.snapshotId), ("field", .str field)]))
    (value.filter (fun s => !isBlank s))

/-- Check the author signature of a head against the trust registry. Heads of older schema
versions carry none. -/
def verifySyncHeadAuthorSignatureV1 (ext : Externals) (db : Db) (head : SyncHeadV1) :
  AppResult Unit
  :=
  if head.schemaVersion < 3 then
    .ok ()
  else do
    let authorDeviceId ← requiredAuthorField head.authorDeviceId head "author_device_id"
    let authorFingerprint ← requiredAuthorField head.authorFingerprint head "author_fingerprint"
    let authorSignature ← requiredAuthorField head.authorSignature head "author_signature"
    let authorCertId ← requiredAuthorField head.authorCertId head "author_cert_id"
    let authorChainHash ← requiredAuthorField head.authorChainHash head "author_chain_hash"
    mapErr
      (fun e => syncError "KC_TRUST_CERT_CHAIN_INVALID"
        "sync head author certificate chain verification failed"
        (.obj [("source_code", .str e.code), ("source_message", .str e.message),
          ("snapshot_id", .str head.snapshotId), ("author_device_id", .str authorDeviceId),
          ("author_cert_id", .str authorCertId)]))
      (Trust.verifyAuthorChain db authorDeviceId authorCertId authorChainHash)
    let authorPubkey ← mapErr
      (fun e => syncError "KC_TRUST_DEVICE_UNVERIFIED"
        "sync head author device public key is unavailable"
        (.obj [("source_code", .str e.code), ("source_message", .str e.message),
          ("snapshot_id", .str head.snapshotId), ("author_device_id", .str authorDeviceId)]))
      (Trust.trustedDevicePublicKey db authorDeviceId)
    let pubkey ← Hex.parseLowerHexFixed "sync" 32 authorPubkey "author_pubkey"
      "KC_TRUST_CERT_CHAIN_INVALID"
    let expectedFingerprint := Trust.formatDeviceFingerprint ext pubkey.toList
    if expectedFingerprint ≠ authorFingerprint then
      .error (syncError "KC_TRUST_FINGERPRINT_MISMATCH"
        "sync head author fingerprint does not match trusted device key"
        (.obj [("snapshot_id", .str head.snapshotId), ("author_device_id", .str authorDeviceId),
          ("expected", .str expectedFingerprint), ("actual", .str authorFingerprint)]))
    else do
      let payload ← canonicalSyncAuthorPayloadV1 {
        snapshotId := head.snapshotId
        manifestHash := head.manifestHash
        createdAtMs := head.createdAtMs
        authorDeviceId
        authorFingerprint
        authorCertId
        authorChainHash }
      verifySyncAuthorSignatureV1 ext payload authorSignature authorPubkey

/-- The algorithm a head declares, without surrounding whitespace, if it declares one. -/
def declaredSignatureAlg (head : SyncHeadV1) : Option String :=
  (head.authorSignatureAlg.map trim).filter (fun alg => !alg.isEmpty)

/-- The fields a head was signed over, if they are all there. -/
def authorPayload (head : SyncHeadV1) : Option SyncAuthorPayloadV1 := do
  let authorDeviceId ← head.authorDeviceId
  let authorFingerprint ← head.authorFingerprint
  let authorCertId ← head.authorCertId
  let authorChainHash ← head.authorChainHash
  some {
    snapshotId := head.snapshotId
    manifestHash := head.manifestHash
    createdAtMs := head.createdAtMs
    authorDeviceId
    authorFingerprint
    authorCertId
    authorChainHash }

/-! ### Readiness for strict authentication -/

inductive SyncAuthReadinessClassification
  | noRemoteHead
  | legacySchema
  | declaredEd25519
  | undeclaredEd25519Compatible
  | undeclaredLegacyFallback
  | unsupportedDeclaredAlgorithm
  | invalid
deriving DecidableEq

def SyncAuthReadinessClassification.asStr : SyncAuthReadinessClassification → String
  | .noRemoteHead => "no_remote_head"
  | .legacySchema => "legacy_schema"
  | .declaredEd25519 => "declared_ed25519"
  | .undeclaredEd25519Compatible => "undeclared_ed25519_compatible"
  | .undeclaredLegacyFallback => "undeclared_legacy_fallback"
  | .unsupportedDeclaredAlgorithm => "unsupported_declared_algorithm"
  | .invalid => "invalid"

structure SyncAuthReadinessReportV1 where
  reportVersion : Int64 := 1
  targetPath : String
  classification : SyncAuthReadinessClassification
  strictReady : Bool
  dependsOnLegacyFallback : Bool
  remediation : Option String
  remoteHead : Option SyncHeadV1
  errorCode : Option String := none
  errorMessage : Option String := none

/-- Whether a head carries the legacy signature of its fields. -/
def legacyMatchForHead (ext : Externals) (head : SyncHeadV1) : AppResult Bool :=
  match authorPayload head, head.authorSignature with
  | some payload, some authorSignature => do
    let text ← syncSignaturePayload payload
    .ok (legacySyncSignature ext text = authorSignature)
  | _, _ => .ok false

/-- Classify the head of a target. -/
def classifySyncAuthReadiness (ext : Externals) (db : Db) (targetPath : String)
    (remoteHead : Option SyncHeadV1) :
  AppResult SyncAuthReadinessReportV1
  :=
  match remoteHead with
  | none =>
    .ok {
      targetPath
      classification := .noRemoteHead
      strictReady := true
      dependsOnLegacyFallback := false
      remediation := none
      remoteHead := none }
  | some head =>
    if head.schemaVersion < 3 then
      .ok {
        targetPath
        classification := .legacySchema
        strictReady := false
        dependsOnLegacyFallback := true
        remediation := some
          "push a new custody-signed schema v3 head before enabling strict sync auth"
        remoteHead := some head }
    else
      match declaredSignatureAlg head with
      | some alg =>
        if alg = SYNC_AUTHOR_SIGNATURE_ALG_ED25519_V1 then
          match verifySyncHeadAuthorSignatureV1 ext db head with
          | .ok () =>
            .ok {
              targetPath
              classification := .declaredEd25519
              strictReady := true
              dependsOnLegacyFallback := false
              remediation := none
              remoteHead := some head }
          | .error error =>
            .ok {
              targetPath
              classification := .invalid
              strictReady := false
              dependsOnLegacyFallback := false
              remediation := some
                "repair or replace the declared Ed25519 sync head before strict sync auth"
              remoteHead := some head
              errorCode := some error.code
              errorMessage := some error.message }
        else
          .ok {
            targetPath
            classification := .unsupportedDeclaredAlgorithm
            strictReady := false
            dependsOnLegacyFallback := false
            remediation := some "replace sync head with a supported declared Ed25519 head"
            remoteHead := some head
            errorCode := some "KC_TRUST_SIGNATURE_INVALID"
            errorMessage := some ("unsupported author_signature_alg: " ++ alg) }
      | none => do
        let legacyMatch ← legacyMatchForHead ext head
        let ed25519Compatible := (verifySyncHeadAuthorSignatureV1 ext db head).isOk
        if ed25519Compatible then
          .ok {
            targetPath
            classification := .undeclaredEd25519Compatible
            strictReady := false
            dependsOnLegacyFallback := false
            remediation := some
              "republish the head with author_signature_alg before strict sync auth"
            remoteHead := some head }
        else if legacyMatch then
          .ok {
            targetPath
            classification := .undeclaredLegacyFallback
            strictReady := false
            dependsOnLegacyFallback := true
            remediation := some
              "republish with encrypted custody so the head declares Ed25519 authorship"
            remoteHead := some head }
        else
          .ok {
            targetPath
            classification := .invalid
            strictReady := false
            dependsOnLegacyFallback := false
            remediation := some
              "repair or replace the invalid sync head before strict sync auth"
            remoteHead := some head }

/-- Let a pull past a head only if its author is known for certain. -/
def ensureStrictSyncAuthReady (ext : Externals) (db : Db) (targetPath : String)
    (remoteHead : SyncHeadV1) :
  AppResult Unit
  := do
  let report ← classifySyncAuthReadiness ext db targetPath (some remoteHead)
  if report.strictReady then
    .ok ()
  else
    .error (syncError "KC_SYNC_AUTH_STRICT_BLOCKED" "strict sync auth rejected remote head"
      (.obj [("target_path", .str targetPath), ("snapshot_id", .str remoteHead.snapshotId),
        ("classification", .str report.classification.asStr),
        ("depends_on_legacy_fallback", .bool report.dependsOnLegacyFallback),
        ("remediation", .ofOption report.remediation),
        ("source_code", .ofOption report.errorCode),
        ("source_message", .ofOption report.errorMessage)]))

/-! ### Trust between the vaults of a remote target -/

/-- The errors of a head whose trust metadata does not match. -/
def keyMismatch (message : String) (details : List (String × Json)) : AppError :=
  syncError "KC_SYNC_KEY_MISMATCH" message (.obj details)

/-- An author field of a head of schema version 3. -/
def authorField (value : Option String) (head : SyncHeadV1) (code message : String) :
  AppResult String
  :=
  okOrElse (syncError code message (.obj [("snapshot_id", .str head.snapshotId)])) value

/-- Check that the head of a remote target was written by a vault of the same passphrase, and
from schema version 3 on by an author whose signature holds. An undeclared signature may also
be the legacy one. -/
def ensureRemoteTrustMatches (ext : Externals) (db : Db) (remoteHead : Option SyncHeadV1)
    (localTrust : SyncTrustV1) :
  AppResult Unit
  :=
  match remoteHead with
  | none => .ok ()
  | some head => do
    let snapshotId := ("snapshot_id", Json.str head.snapshotId)
    let remote ← okOrElse
      (keyMismatch "remote sync head is missing trust metadata" [snapshotId]) head.trust
    if remote.model ≠ TRUST_MODEL_PASSPHRASE_V1 then
      .error (keyMismatch "remote sync head uses unsupported trust model"
        [("expected", .str TRUST_MODEL_PASSPHRASE_V1), ("actual", .str remote.model),
          snapshotId])
    else if remote.fingerprint ≠ localTrust.fingerprint then
      .error (keyMismatch "remote sync trust fingerprint does not match local passphrase"
        [("expected", .str localTrust.fingerprint), ("actual", .str remote.fingerprint),
          snapshotId])
    else if head.schemaVersion < 3 then
      .ok ()
    else do
      let authorDeviceId ← authorField head.authorDeviceId head
        "KC_TRUST_DEVICE_NOT_ENROLLED" "sync head v3 is missing author_device_id"
      let authorFingerprint ← authorField head.authorFingerprint head
        "KC_TRUST_DEVICE_NOT_ENROLLED" "sync head v3 is missing author_fingerprint"
      let authorSignature ← authorField head.authorSignature head
        "KC_TRUST_SIGNATURE_INVALID" "sync head v3 is missing author_signature"
      let authorCertId ← authorField head.authorCertId head
        "KC_TRUST_CERT_CHAIN_INVALID" "sync head v3 is missing author_cert_id"
      let authorChainHash ← authorField head.authorChainHash head
        "KC_TRUST_CERT_CHAIN_INVALID" "sync head v3 is missing author_chain_hash"
      let expectedChainHash :=
        Trust.expectedCertChainHash ext authorCertId authorDeviceId authorFingerprint
      if expectedChainHash ≠ authorChainHash then
        .error (syncError "KC_TRUST_CERT_CHAIN_INVALID"
          "sync head v3 certificate chain hash mismatch"
          (.obj [snapshotId, ("expected", .str expectedChainHash),
            ("actual", .str authorChainHash)]))
      else
        match declaredSignatureAlg head with
        | some alg =>
          if alg = SYNC_AUTHOR_SIGNATURE_ALG_ED25519_V1 then
            verifySyncHeadAuthorSignatureV1 ext db head
          else
            .error (syncError "KC_TRUST_SIGNATURE_INVALID"
              "sync head v3 declares unsupported author signature algorithm"
              (.obj [snapshotId, ("actual", .str alg)]))
        | none => do
          let payload ← syncSignaturePayload {
            snapshotId := head.snapshotId
            manifestHash := head.manifestHash
            createdAtMs := head.createdAtMs
            authorDeviceId
            authorFingerprint
            authorCertId
            authorChainHash }
          let legacySignature := legacySyncSignature ext payload
          if (verifySyncHeadAuthorSignatureV1 ext db head).isOk = false
              ∧ legacySignature ≠ authorSignature then
            .error (syncError "KC_TRUST_SIGNATURE_INVALID" "sync head v3 signature mismatch"
              (.obj [snapshotId, ("actual", .str authorSignature)]))
          else
            .ok ()

end SyncAuth

end KnowledgeCore
