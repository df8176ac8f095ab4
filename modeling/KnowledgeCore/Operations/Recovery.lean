import Mathlib.Algebra.GroupWithZero.Nat
import KnowledgeCore.JsonParser
import KnowledgeCore.Objects.RoundTrip
import KnowledgeCore.Operations.Escrow

/-!
# Recovery bundles

A recovery bundle holds the passphrase of a vault, sealed under a phrase that is drawn for it, and
a manifest that says how to tell whether the phrase and the sealed passphrase are the ones it was
made with. A bundle that was made is accepted with its phrase, and a bundle in which one thing has
been changed is not.
-/

namespace KnowledgeCore

namespace Recovery

open Export (RecoveryEscrowDescriptorV2)
open Ingest (toAsciiLowercase)
open Operations

def RECOVERY_MAGIC : List UInt8 := [75, 67, 82, 49]
def RECOVERY_NONCE_LEN : Nat := 24

def invalidBundle (message : String) (details : List (String × Json)) : AppError :=
  recoveryError "KC_RECOVERY_BUNDLE_INVALID" message details

/-! ### Phrases -/

def normalizePhrase (phrase : String) : String :=
  toAsciiLowercase (trim phrase)

/-- What the key of a phrase is derived from. -/
def phraseKeyMaterial (vaultId phrase : String) : String :=
  "kc.recovery.phrase.v1\n" ++ vaultId ++ "\n" ++ normalizePhrase phrase

def recoveryPhraseKey (ext : Externals) (vaultId phrase : String) : Vector UInt8 32 :=
  ext.sha256 (phraseKeyMaterial vaultId phrase).toUTF8.data.toList

/-- What a nonce is derived from. -/
def nonceMaterial (vaultId : String) (createdAtMs : Int64) : String :=
  "kc.recovery.nonce.v1\n" ++ vaultId ++ "\n" ++ toString createdAtMs.toInt

theorem lt_digest_of_nonce (i : Fin 24) : i.val < 32 := by omega

def recoveryNonce (ext : Externals) (vaultId : String) (createdAtMs : Int64) :
  Vector UInt8 24
  :=
  let digest := ext.blake3 (.text (nonceMaterial vaultId createdAtMs))
  Vector.ofFn fun i => digest.get ⟨i.val, lt_digest_of_nonce i⟩

/-- What the checksum of a phrase is taken of. -/
def checksumMaterial (vaultId phrase : String) : String :=
  "kc.recovery.checksum.v1\n" ++ vaultId ++ "\n" ++ normalizePhrase phrase

def phraseChecksum (ext : Externals) (vaultId phrase : String) : String :=
  blake3HexPrefixed ext (.text (checksumMaterial vaultId phrase))

/-- A phrase from bytes that are drawn at random, in four groups of eight digits. -/
def randomPhrase (entropy : Except String (Vector UInt8 16)) : AppResult String := do
  let bytes ← mapErr
    (fun error => invalidBundle "failed generating recovery phrase entropy"
      [("error", .str error)])
    entropy
  let hex := (Hex.bytesToHex bytes.toList).toList
  .ok ("-".intercalate [String.ofList (hex.take 8), String.ofList ((hex.drop 8).take 8),
    String.ofList ((hex.drop 16).take 8), String.ofList ((hex.drop 24).take 8)])

/-! ### Key blobs -/

/-- Seal a passphrase under a phrase. -/
def buildBlob (ext : Externals) (vaultId : String) (createdAtMs : Int64)
    (passphrase phrase : String) : AppResult (List UInt8)
  := do
  let nonce := recoveryNonce ext vaultId createdAtMs
  let ciphertext ← okOrElse
    (invalidBundle "failed encrypting recovery key blob" [("error", .str "aead::Error")])
    (ext.encrypt (recoveryPhraseKey ext vaultId phrase) nonce passphrase.toUTF8.data.toList)
  .ok (RECOVERY_MAGIC ++ nonce.toList ++ ciphertext)

/-- Open a sealed passphrase with a phrase. -/
def decryptRecoveryBlob (ext : Externals) (vaultId : String) (createdAtMs : Int64)
    (phrase : String) (blob : List UInt8) (blobPath : String) : AppResult (List UInt8)
  :=
  if RECOVERY_MAGIC.isPrefixOf blob = false
      ∨ blob.length ≤ RECOVERY_MAGIC.length + RECOVERY_NONCE_LEN then
    .error (invalidBundle "recovery key blob has invalid format"
      [("path", .str blobPath), ("len", .int blob.length)])
  else
    let nonce := recoveryNonce ext vaultId createdAtMs
    if (blob.drop RECOVERY_MAGIC.length).take RECOVERY_NONCE_LEN ≠ nonce.toList then
      .error (invalidBundle "recovery key blob nonce does not match manifest"
        [("path", .str blobPath)])
    else do
      let plaintext ← okOrElse
        (invalidBundle "failed decrypting recovery key blob"
          [("error", .str "aead::Error"), ("path", .str blobPath)])
        (ext.decrypt (recoveryPhraseKey ext vaultId phrase) nonce
          (blob.drop (RECOVERY_MAGIC.length + RECOVERY_NONCE_LEN)))
      if plaintext.isEmpty then
        .error (invalidBundle "recovery key blob decrypted to empty passphrase"
          [("path", .str blobPath)])
      else
        .ok plaintext

/-! ### Making a bundle -/

/-- What is drawn for a bundle, and what is derived from it. -/
def drawRecovery (ext : Externals) (entropy : Except String (Vector UInt8 16))
    (vaultId passphrase : String) (createdAtMs : Int64) : AppResult RecoveryDraw
  := do
  let phrase ← randomPhrase entropy
  let blob ← buildBlob ext vaultId createdAtMs passphrase phrase
  .ok {
    recoveryPhrase := phrase
    phraseChecksum := phraseChecksum ext vaultId phrase
    keyBlob := blob }

def validateEscrow : Option RecoveryEscrowDescriptorV2 → AppResult Unit
  | none => .ok ()
  | some desc => validateEscrowDescriptor desc

def keyBlobPath (bundlePath : String) : String :=
  PathBuf.join bundlePath "key_blob.enc"

def manifestPath (bundlePath : String) : String :=
  PathBuf.join bundlePath "recovery_manifest.json"

def generateRecoveryBundleWithEscrow (ext : Externals) (moment : EscrowMoment)
    (entropy : Except String (Vector UInt8 16)) (vaultId outputDir passphrase : String)
    (createdAtMs : Int64) (escrow : Option RecoveryEscrowDescriptorV2) (files : Files) :
  AppResult RecoveryBundleGenerateResult × Files
  :=
  if passphrase = "" then
    (.error (recoveryError "KC_ENCRYPTION_REQUIRED"
      "passphrase is required for recovery bundle generation" []), files)
  else
    match validateEscrow escrow with
    | .error e => (.error e, files)
    | .ok () =>
      match drawRecovery ext entropy vaultId passphrase createdAtMs with
      | .error e => (.error e, files)
      | .ok drawn =>
        let bundlePath := PathBuf.join outputDir
          ("recovery_" ++ vaultId ++ "_" ++ toString createdAtMs.toInt)
        let writeFailed path := invalidBundle "failed writing recovery key blob"
          [("error", .str "No space left on device"), ("path", .str path)]
        match writeFile moment writeFailed (keyBlobPath bundlePath) drawn.keyBlob files with
        | (.error e, files) => (.error e, files)
        | (.ok (), files) =>
          let manifest : RecoveryManifestV2 := {
            schemaVersion := 2
            vaultId
            createdAtMs
            phraseChecksum := drawn.phraseChecksum
            payloadHash := blake3HexPrefixed ext (.raw drawn.keyBlob)
            escrow }
          match writeRecoveryManifest moment bundlePath manifest files with
          | (.error e, files) => (.error e, files)
          | (.ok (), files) => (.ok {
              bundlePath
              manifest
              recoveryPhrase := drawn.recoveryPhrase
              keyBlob := drawn.keyBlob }, files)

/-- A bundle without an escrow is made in the way rotations make theirs. -/
theorem generateRecoveryBundle_eq {ext : Externals} {moment : EscrowMoment}
    {entropy : Int64 → Except String (Vector UInt8 16)} {vaultId passphrase : String}
    (hdraw : ∀ createdAtMs, moment.draw createdAtMs
      = drawRecovery ext (entropy createdAtMs) vaultId passphrase createdAtMs)
    (outputDir : String) (createdAtMs : Int64) (files : Files) :
  generateRecoveryBundle ext moment vaultId outputDir passphrase createdAtMs files
    = generateRecoveryBundleWithEscrow ext moment (entropy createdAtMs) vaultId outputDir
        passphrase createdAtMs none files
  := by
  rw [generateRecoveryBundle, hdraw]
  rfl

/-! ### Reading a manifest -/

/-- A manifest of schema version 2. -/
def readManifestV2 : Json.Reader RecoveryManifestV2 := fun j => do
  j.expectObject
  let schemaVersion ← j.field "schema_version" Json.readI64
  let vaultId ← j.field "vault_id" Json.readString
  let createdAtMs ← j.field "created_at_ms" Json.readI64
  let phraseChecksum ← j.field "phrase_checksum" Json.readString
  let payloadHash ← j.field "payload_hash" Json.readString
  let escrow ← j.fieldOr "escrow" (Json.readOption RecoveryEscrowDescriptorV2.ofJson) none
  .ok { schemaVersion, vaultId, createdAtMs, phraseChecksum, payloadHash, escrow }

/-- A manifest of schema version 1, which knows no escrow. -/
def readManifestLegacyV1 : Json.Reader RecoveryManifestV2 := fun j => do
  j.expectObject
  let schemaVersion ← j.field "schema_version" Json.readI64
  let vaultId ← j.field "vault_id" Json.readString
  let createdAtMs ← j.field "created_at_ms" Json.readI64
  let phraseChecksum ← j.field "phrase_checksum" Json.readString
  let payloadHash ← j.field "payload_hash" Json.readString
  .ok { schemaVersion, vaultId, createdAtMs, phraseChecksum, payloadHash, escrow := none }

/-- `serde_json::from_slice` -/
def parseBytes (bytes : List UInt8) : Except String Json :=
  match String.fromUTF8? ⟨bytes.toArray⟩ with
  | none => .error "invalid unicode code point"
  | some text => JsonText.parse text

def parseRecoveryManifest (manifestBytes : List UInt8) (path : String) :
  AppResult RecoveryManifestV2
  := do
  let rawValue ← mapErr
    (fun error => invalidBundle "failed parsing recovery manifest json"
      [("error", .str error), ("path", .str path)])
    (parseBytes manifestBytes)
  let schemaVersion ← okOrElse
    (invalidBundle "recovery manifest is missing schema_version" [("path", .str path)])
    ((rawValue.get "schema_version").bind Json.asI64)
  if schemaVersion = 2 then do
    let parsed ← mapErr
      (fun error => invalidBundle "failed parsing v2 recovery manifest"
        [("error", .str error), ("path", .str path)])
      (readManifestV2 rawValue)
    validateEscrow parsed.escrow
    .ok parsed
  else if schemaVersion = 1 then
    mapErr
      (fun error => invalidBundle "failed parsing v1 recovery manifest"
        [("error", .str error), ("path", .str path)])
      (readManifestLegacyV1 rawValue)
  else
    .error (invalidBundle "unsupported recovery manifest schema version"
      [("expected", .arr [.int 1, .int 2]), ("actual", .int schemaVersion.toInt),
        ("path", .str path)])

def readRecoveryManifest (bundlePath : String) (files : Files) : AppResult RecoveryManifestV2 := do
  let manifestBytes ← okOrElse
    (invalidBundle "failed reading recovery manifest"
      [("error", .str "No such file or directory"), ("path", .str (manifestPath bundlePath))])
    files[manifestPath bundlePath]?
  parseRecoveryManifest manifestBytes (manifestPath bundlePath)

/-! ### Checking a bundle -/

/-- What is checked of the manifest and the key blob of a bundle. -/
def checkBundle (ext : Externals) (expectedVaultId phrase : String)
    (manifest : RecoveryManifestV2) (blob : AppResult (List UInt8)) (blobPath : String) :
  AppResult RecoveryManifestV2
  :=
  if manifest.vaultId ≠ expectedVaultId then
    .error (invalidBundle "recovery bundle vault_id mismatch"
      [("expected", .str expectedVaultId), ("actual", .str manifest.vaultId)])
  else do
    let blob ← blob
    let actualHash := blake3HexPrefixed ext (.raw blob)
    if actualHash ≠ manifest.payloadHash then
      .error (invalidBundle "recovery key blob hash mismatch"
        [("expected", .str manifest.payloadHash), ("actual", .str actualHash)])
    else
      let expectedChecksum := phraseChecksum ext expectedVaultId phrase
      if expectedChecksum ≠ manifest.phraseChecksum then
        .error (recoveryError "KC_RECOVERY_PHRASE_INVALID" "recovery phrase checksum mismatch"
          [("expected", .str manifest.phraseChecksum), ("actual", .str expectedChecksum)])
      else do
        let _ ← decryptRecoveryBlob ext expectedVaultId manifest.createdAtMs phrase blob blobPath
        .ok manifest

def verifyRecoveryBundle (ext : Externals) (expectedVaultId bundlePath phrase : String)
    (files : Files) : AppResult RecoveryManifestV2
  := do
  let manifest ← readRecoveryManifest bundlePath files
  checkBundle ext expectedVaultId phrase manifest
    (okOrElse
      (invalidBundle "failed reading recovery key blob"
        [("error", .str "No such file or directory"), ("path", .str (keyBlobPath bundlePath))])
      files[keyBlobPath bundlePath]?)
    (keyBlobPath bundlePath)

/-! ### Bytes of texts -/

theorem eq_empty_of_bytes_eq_nil {s : String} (h : s.toUTF8.data.toList = []) :
  s = ""
  := by
  apply String.toByteArray_inj.mp
  apply ByteArray.ext
  apply Array.toList_inj.mp h

theorem parseBytes_toUTF8 (text : String) :
  parseBytes text.toUTF8.data.toList = JsonText.parse text
  := by
  have hbytes : (⟨text.toUTF8.data.toList.toArray⟩ : ByteArray) = text.toByteArray := rfl
  rw [parseBytes, hbytes, String.fromUTF8?, dif_pos text.isValidUTF8]
  rfl

/-! ### Manifests are read back -/

theorem readI64_of_asI64 (n : Int64) :
  (Json.int n.toInt).asI64 = some n
  := by
  rw [Json.asI64, if_pos ⟨n.minValue_le_toInt, n.toInt_le⟩, Int64.ofInt_toInt]

theorem hasFloat_manifest (manifest : RecoveryManifestV2) :
  CanonJson.hasFloat manifest.toJson = false
  := by
  cases hescrow : manifest.escrow with
  | none =>
    rw [RecoveryManifestV2.toJson, hescrow]
    rfl
  | some desc =>
    rw [RecoveryManifestV2.toJson, hescrow]
    rfl

theorem get_schemaVersion_normalise (manifest : RecoveryManifestV2) :
  manifest.toJson.normalise.get "schema_version" = some (.int manifest.schemaVersion.toInt)
  := by
  cases hescrow : manifest.escrow with
  | none =>
    simp [RecoveryManifestV2.toJson, hescrow, Json.normalise, Json.normaliseMembers, Json.get,
      List.lookup_cons]
  | some desc =>
    simp [RecoveryManifestV2.toJson, hescrow, Json.normalise, Json.normaliseMembers, Json.get,
      List.lookup_cons]

theorem readManifestV2_normalise (manifest : RecoveryManifestV2) :
  readManifestV2 manifest.toJson.normalise = .ok manifest
  := by
  obtain ⟨version, vaultId, createdAtMs, checksum, payloadHash, escrow⟩ := manifest
  have hversion := Json.readI64_toInt version
  have hcreated := Json.readI64_toInt createdAtMs
  cases escrow with
  | none =>
    simp [readManifestV2, RecoveryManifestV2.toJson, Json.normalise, Json.normaliseMembers,
      Json.field, Json.fieldOr, Json.get, List.lookup_cons, Json.expectObject, hversion, hcreated,
      bind, Except.bind]
  | some desc =>
    have hwrapped := Json.readI64_toInt desc.wrappedAtMs
    simp [readManifestV2, RecoveryManifestV2.toJson, Json.normalise, Json.normaliseMembers,
      Json.field, Json.fieldOr, Json.get, List.lookup_cons, Json.expectObject, Json.readOption,
      RecoveryEscrowDescriptorV2.toJson, RecoveryEscrowDescriptorV2.ofJson, hversion, hcreated,
      hwrapped, bind, Except.bind]
    rfl

/-- A manifest of the current version is read back from the text that is written of it. -/
theorem parseRecoveryManifest_text {manifest : RecoveryManifestV2} {text : String} (path : String)
    (hversion : manifest.schemaVersion = 2) (hescrow : validateEscrow manifest.escrow = .ok ())
    (htext : CanonJson.toCanonicalBytes manifest.toJson = .ok text) :
  parseRecoveryManifest text.toUTF8.data.toList path = .ok manifest
  := by
  have hparse : parseBytes text.toUTF8.data.toList = .ok manifest.toJson.normalise := by
    rw [parseBytes_toUTF8]
    apply JsonText.readsBack_parse _ _ htext
  rw [parseRecoveryManifest, hparse, mapErr_ok, AppResult.ok_bind, get_schemaVersion_normalise,
    Option.bind_some, readI64_of_asI64, okOrElse_some, AppResult.ok_bind, if_pos hversion,
    readManifestV2_normalise, mapErr_ok, AppResult.ok_bind, hescrow, AppResult.ok_bind]

/-! ### What is accepted -/

variable {ext : Externals} {vaultId phrase passphrase : String} {createdAtMs : Int64}
  {blob plaintext : List UInt8} {manifest : RecoveryManifestV2}

/-- A blob opens exactly when it is the magic number, the nonce, and something that opens to a
text. -/
theorem decryptRecoveryBlob_eq_ok (blobPath : String) :
  decryptRecoveryBlob ext vaultId createdAtMs phrase blob blobPath = .ok plaintext
    ↔ ∃ ciphertext, blob
        = RECOVERY_MAGIC ++ (recoveryNonce ext vaultId createdAtMs).toList ++ ciphertext
      ∧ ciphertext ≠ [] ∧ plaintext ≠ []
      ∧ ext.decrypt (recoveryPhraseKey ext vaultId phrase)
          (recoveryNonce ext vaultId createdAtMs) ciphertext = some plaintext
  := by
  rw [decryptRecoveryBlob]
  constructor
  · intro h
    split at h
    case isTrue => cases h
    next hformat =>
    dsimp only at h
    split at h
    case isTrue => cases h
    next hnonce =>
    obtain ⟨opened, hopened, h⟩ := AppResult.bind_eq_ok.mp h
    rw [okOrElse_eq_ok] at hopened
    split at h
    case isTrue => cases h
    next hne =>
      cases h
      simp only [not_or, Bool.not_eq_false, not_le] at hformat
      obtain ⟨rest, rfl⟩ := List.isPrefixOf_iff_prefix.mp hformat.1
      have htake : rest.take 24 = (recoveryNonce ext vaultId createdAtMs).toList :=
        not_not.mp hnonce
      use rest.drop 24
      refine ⟨?_, ?_, ?_, hopened⟩
      · rw [List.append_assoc, ← htake, List.take_append_drop]
      · intro hempty
        have hlength := hformat.2
        rw [List.length_append, ← List.take_append_drop 24 rest, hempty, htake] at hlength
        simp [RECOVERY_NONCE_LEN] at hlength
      · rintro rfl
        exact hne rfl
  · rintro ⟨ciphertext, rfl, hciphertext, hplaintext, hopen⟩
    have hpositive := List.length_pos_of_ne_nil hciphertext
    have hstarts : RECOVERY_MAGIC.isPrefixOf
        (RECOVERY_MAGIC ++ (recoveryNonce ext vaultId createdAtMs).toList ++ ciphertext)
          = true := by
      rw [List.isPrefixOf_iff_prefix, List.append_assoc]
      apply List.prefix_append
    have hdrop : (RECOVERY_MAGIC ++ (recoveryNonce ext vaultId createdAtMs).toList
        ++ ciphertext).drop RECOVERY_MAGIC.length
          = (recoveryNonce ext vaultId createdAtMs).toList ++ ciphertext := by
      rw [List.append_assoc, List.drop_left]
    have hrest : (RECOVERY_MAGIC ++ (recoveryNonce ext vaultId createdAtMs).toList
        ++ ciphertext).drop (RECOVERY_MAGIC.length + RECOVERY_NONCE_LEN) = ciphertext := by
      rw [← List.drop_drop, hdrop]
      apply ObjectStore.drop_nonce
    rw [if_neg, if_neg, hrest, hopen, okOrElse_some, AppResult.ok_bind, if_neg]
    · simpa using hplaintext
    · rw [hdrop]
      apply not_not_intro
      apply ObjectStore.take_nonce
    · rw [hstarts]
      simp [RECOVERY_NONCE_LEN]
      omega

/-- A bundle passes exactly when its manifest is for the vault, its blob has the hash and the
phrase has the checksum of the manifest, and the phrase opens the blob. -/
theorem checkBundle_eq_ok {manifest' : RecoveryManifestV2} (blobPath : String) :
  checkBundle ext vaultId phrase manifest (.ok blob) blobPath = .ok manifest'
    ↔ manifest' = manifest ∧ manifest.vaultId = vaultId
      ∧ blake3HexPrefixed ext (.raw blob) = manifest.payloadHash
      ∧ phraseChecksum ext vaultId phrase = manifest.phraseChecksum
      ∧ ∃ plaintext, decryptRecoveryBlob ext vaultId manifest.createdAtMs phrase blob blobPath
          = .ok plaintext
  := by
  rw [checkBundle]
  by_cases hvault : manifest.vaultId = vaultId
  · by_cases hhash : blake3HexPrefixed ext (.raw blob) = manifest.payloadHash
    · by_cases hchecksum : phraseChecksum ext vaultId phrase = manifest.phraseChecksum
      · simp only [hvault, hhash, hchecksum, ne_eq, not_true_eq_false, if_false,
          AppResult.ok_bind, AppResult.bind_eq_ok, Except.ok.injEq, true_and]
        rw [exists_and_right, and_comm, eq_comm]
      · simp [hvault, hhash, hchecksum]
    · simp [hvault, hhash]
  · simp [hvault]

/-- The cipher opens what it has sealed, to which it has added an authentication tag. -/
structure AeadCorrect (ext : Externals) : Prop where
  opens : ∀ key nonce plaintext ciphertext,
    ext.encrypt key nonce plaintext = some ciphertext →
    ext.decrypt key nonce ciphertext = some plaintext
  length_le : ∀ key nonce plaintext ciphertext,
    ext.encrypt key nonce plaintext = some ciphertext → plaintext.length ≤ ciphertext.length

/-- What a blob is made of. -/
theorem buildBlob_eq_ok (h : buildBlob ext vaultId createdAtMs passphrase phrase = .ok blob) :
  ∃ ciphertext, ext.encrypt (recoveryPhraseKey ext vaultId phrase)
      (recoveryNonce ext vaultId createdAtMs) passphrase.toUTF8.data.toList = some ciphertext
    ∧ blob = RECOVERY_MAGIC ++ (recoveryNonce ext vaultId createdAtMs).toList ++ ciphertext
  := by
  simp only [buildBlob, AppResult.bind_eq_ok, okOrElse_eq_ok] at h
  obtain ⟨ciphertext, hencrypt, h⟩ := h
  cases h
  use ciphertext, hencrypt

/-- The key of a phrase depends on its normal form only. -/
theorem recoveryPhraseKey_congr {phrase' : String}
    (h : normalizePhrase phrase' = normalizePhrase phrase) :
  recoveryPhraseKey ext vaultId phrase' = recoveryPhraseKey ext vaultId phrase
  := by
  have hmaterial : phraseKeyMaterial vaultId phrase' = phraseKeyMaterial vaultId phrase := by
    unfold phraseKeyMaterial
    rw [h]
  rw [recoveryPhraseKey, hmaterial, recoveryPhraseKey]

theorem phraseChecksum_congr {phrase' : String}
    (h : normalizePhrase phrase' = normalizePhrase phrase) :
  phraseChecksum ext vaultId phrase' = phraseChecksum ext vaultId phrase
  := by
  have hmaterial : checksumMaterial vaultId phrase' = checksumMaterial vaultId phrase := by
    unfold checksumMaterial
    rw [h]
  rw [phraseChecksum, hmaterial, phraseChecksum]

/-- A blob opens to the passphrase it was built from, with any phrase of the same normal form. -/
theorem decryptRecoveryBlob_buildBlob (haead : AeadCorrect ext) (hne : passphrase ≠ "")
    (h : buildBlob ext vaultId createdAtMs passphrase phrase = .ok blob) {phrase' : String}
    (hphrase : normalizePhrase phrase' = normalizePhrase phrase) (blobPath : String) :
  decryptRecoveryBlob ext vaultId createdAtMs phrase' blob blobPath
    = .ok passphrase.toUTF8.data.toList
  := by
  obtain ⟨ciphertext, hencrypt, rfl⟩ := buildBlob_eq_ok h
  have hbytes : passphrase.toUTF8.data.toList ≠ [] := fun hempty =>
    hne (eq_empty_of_bytes_eq_nil hempty)
  apply (decryptRecoveryBlob_eq_ok blobPath).mpr
  use ciphertext, rfl
  refine ⟨?_, hbytes, ?_⟩
  · apply List.ne_nil_of_length_pos
    apply lt_of_lt_of_le (List.length_pos_of_ne_nil hbytes)
    apply haead.length_le _ _ _ _ hencrypt
  · rw [recoveryPhraseKey_congr hphrase]
    apply haead.opens _ _ _ _ hencrypt

/-! ### What is written -/

section Written

variable {moment : EscrowMoment} {bundlePath : String} {files after : Files}

theorem manifestPath_ne_keyBlobPath (bundlePath : String) :
  manifestPath bundlePath ≠ keyBlobPath bundlePath
  := by
  rw [manifestPath, keyBlobPath, PathBuf.join_of_relative (by decide),
    PathBuf.join_of_relative (by decide)]
  intro h
  have htoList := congrArg String.toList h
  rw [String.toList_append, String.toList_append, List.append_cancel_left_eq] at htoList
  revert htoList
  decide

/-- A file that has been written holds what was written, and the others are as they were. -/
theorem writeFile_eq_ok {error : String → AppError} {path : String} {bytes : List UInt8}
    (h : writeFile moment error path bytes files = (.ok (), after)) :
  after = files.insert path bytes
  := by
  rw [writeFile] at h
  split at h <;> cases h
  rfl

/-- A manifest of the current version that has been written is read back. -/
theorem writeRecoveryManifest_eq_ok (hversion : manifest.schemaVersion = 2)
    (hescrow : validateEscrow manifest.escrow = .ok ())
    (h : writeRecoveryManifest moment bundlePath manifest files = (.ok (), after)) :
  readRecoveryManifest bundlePath after = .ok manifest
    ∧ ∀ path, path ≠ manifestPath bundlePath → after[path]? = files[path]?
  := by
  obtain ⟨text, htext⟩ := CanonJson.toCanonicalBytes_ok_of_not_hasFloat (hasFloat_manifest manifest)
  rw [writeRecoveryManifest, htext] at h
  cases writeFile_eq_ok h
  constructor
  · have hwritten : (files.insert (manifestPath bundlePath) text.toUTF8.data.toList)[manifestPath
        bundlePath]? = some text.toUTF8.data.toList := Std.ExtTreeMap.getElem?_insert_self
    rw [readRecoveryManifest]
    change (okOrElse _ (files.insert (manifestPath bundlePath)
      text.toUTF8.data.toList)[manifestPath bundlePath]? >>= _) = _
    rw [hwritten, okOrElse_some, AppResult.ok_bind]
    apply parseRecoveryManifest_text _ hversion hescrow htext
  · intro path hpath
    rw [Std.ExtTreeMap.getElem?_insert, if_neg]
    rw [Std.LawfulEqCmp.compare_eq_iff_eq]
    exact Ne.symm hpath

/-- What a bundle that has been made consists of. -/
structure Made (ext : Externals) (vaultId passphrase : String) (createdAtMs : Int64)
    (escrow : Option RecoveryEscrowDescriptorV2) (generated : RecoveryBundleGenerateResult)
    (files : Files) : Prop where
  nonempty : passphrase ≠ ""
  blob : buildBlob ext vaultId createdAtMs passphrase generated.recoveryPhrase
    = .ok generated.keyBlob
  manifest : generated.manifest = {
    schemaVersion := 2
    vaultId
    createdAtMs
    phraseChecksum := phraseChecksum ext vaultId generated.recoveryPhrase
    payloadHash := blake3HexPrefixed ext (.raw generated.keyBlob)
    escrow }
  manifestFile : readRecoveryManifest generated.bundlePath files = .ok generated.manifest
  blobFile : files[keyBlobPath generated.bundlePath]? = some generated.keyBlob

theorem made_of_generate {entropy : Except String (Vector UInt8 16)} {outputDir : String}
    {escrow : Option RecoveryEscrowDescriptorV2} {generated : RecoveryBundleGenerateResult}
    (h : generateRecoveryBundleWithEscrow ext moment entropy vaultId outputDir passphrase
      createdAtMs escrow files = (.ok generated, after)) :
  Made ext vaultId passphrase createdAtMs escrow generated after
  := by
  rw [generateRecoveryBundleWithEscrow] at h
  split at h
  case isTrue => cases h
  next hpassphrase =>
  split at h
  next => cases h
  next hescrow =>
  split at h
  next => cases h
  next drawn hdrawn =>
  simp only [drawRecovery, AppResult.bind_eq_ok] at hdrawn
  obtain ⟨phrase, -, blob, hblob, hdrawn⟩ := hdrawn
  cases hdrawn
  dsimp only at h
  split at h
  next => cases h
  next hwriteBlob =>
  split at h
  next => cases h
  next hwriteManifest =>
  cases h
  cases writeFile_eq_ok hwriteBlob
  obtain ⟨hread, hrest⟩ := writeRecoveryManifest_eq_ok rfl hescrow hwriteManifest
  constructor
  · exact hpassphrase
  · exact hblob
  · rfl
  · exact hread
  · rw [hrest _ (manifestPath_ne_keyBlobPath _).symm]
    apply Std.ExtTreeMap.getElem?_insert_self

end Written

/-! ### What is refused -/

/-- An attempt to use a bundle: the vault and the phrase it is tried with, and the manifest and the
key blob that are found in it. -/
structure Attempt where
  vaultId : String
  phrase : String
  manifest : RecoveryManifestV2
  blob : List UInt8

/-- The attempt that the bundle was made for. -/
def Attempt.honest (vaultId : String) (generated : RecoveryBundleGenerateResult) : Attempt where
  vaultId := vaultId
  phrase := generated.recoveryPhrase
  manifest := generated.manifest
  blob := generated.keyBlob

/-- One field of a manifest has been changed. -/
inductive Altered (manifest : RecoveryManifestV2) : RecoveryManifestV2 → Prop
  | vaultId {other : String} (h : other ≠ manifest.vaultId) :
    Altered manifest { manifest with vaultId := other }
  | createdAtMs {other : Int64} (h : other ≠ manifest.createdAtMs) :
    Altered manifest { manifest with createdAtMs := other }
  | phraseChecksum {other : String} (h : other ≠ manifest.phraseChecksum) :
    Altered manifest { manifest with phraseChecksum := other }
  | payloadHash {other : String} (h : other ≠ manifest.payloadHash) :
    Altered manifest { manifest with payloadHash := other }

/-- The bundle is tried for another vault or with another phrase, or one thing in it has been
changed. A changed bundle may be tried for any vault and with any phrase. -/
inductive Differs (honest : Attempt) : Attempt → Prop
  | vaultId {other : String} (phrase : String) (h : other ≠ honest.vaultId) :
    Differs honest { honest with vaultId := other, phrase }
  | phrase {other : String} (h : normalizePhrase other ≠ normalizePhrase honest.phrase) :
    Differs honest { honest with phrase := other }
  | blob {other : List UInt8} (vaultId phrase : String) (h : other ≠ honest.blob) :
    Differs honest { honest with vaultId, phrase, blob := other }
  | manifest {other : RecoveryManifestV2} (vaultId phrase : String)
      (h : Altered honest.manifest other) :
    Differs honest { honest with vaultId, phrase, manifest := other }

/-- The hashes of what an attempt is checked with and of what the bundle was made with are equal
only if what is hashed is equal, and another key does not open the sealed passphrase. -/
structure TellsApart (ext : Externals) (honest attempt : Attempt) : Prop where
  blob : ext.blake3 (.raw attempt.blob) = ext.blake3 (.raw honest.blob) →
    attempt.blob = honest.blob
  checksum : ext.blake3 (.text (checksumMaterial attempt.vaultId attempt.phrase))
      = ext.blake3 (.text (checksumMaterial honest.vaultId honest.phrase)) →
    checksumMaterial attempt.vaultId attempt.phrase
      = checksumMaterial honest.vaultId honest.phrase
  nonce : recoveryNonce ext attempt.vaultId attempt.manifest.createdAtMs
      = recoveryNonce ext honest.vaultId honest.manifest.createdAtMs →
    nonceMaterial attempt.vaultId attempt.manifest.createdAtMs
      = nonceMaterial honest.vaultId honest.manifest.createdAtMs
  key : recoveryPhraseKey ext attempt.vaultId attempt.phrase
      = recoveryPhraseKey ext honest.vaultId honest.phrase →
    phraseKeyMaterial attempt.vaultId attempt.phrase
      = phraseKeyMaterial honest.vaultId honest.phrase
  authentic : recoveryPhraseKey ext attempt.vaultId attempt.phrase
      ≠ recoveryPhraseKey ext honest.vaultId honest.phrase →
    ext.decrypt (recoveryPhraseKey ext attempt.vaultId attempt.phrase)
      (recoveryNonce ext honest.vaultId honest.manifest.createdAtMs)
      (honest.blob.drop (RECOVERY_MAGIC.length + RECOVERY_NONCE_LEN)) = none

theorem append_left_cancel {a b c : String} (h : a ++ b = a ++ c) :
  b = c
  := by
  apply String.toList_inj.mp
  have hlists := congrArg String.toList h
  rwa [String.toList_append, String.toList_append, List.append_cancel_left_eq] at hlists

theorem append_right_cancel {a b c : String} (h : a ++ c = b ++ c) :
  a = b
  := by
  apply String.toList_inj.mp
  have hlists := congrArg String.toList h
  rwa [String.toList_append, String.toList_append, List.append_cancel_right_eq] at hlists

theorem vaultId_eq_of_nonceMaterial {other : String}
    (h : nonceMaterial other createdAtMs = nonceMaterial vaultId createdAtMs) :
  other = vaultId
  := by
  unfold nonceMaterial at h
  exact append_left_cancel (append_right_cancel (append_right_cancel h))

theorem createdAtMs_eq_of_nonceMaterial {other : Int64}
    (h : nonceMaterial vaultId other = nonceMaterial vaultId createdAtMs) :
  other = createdAtMs
  := by
  unfold nonceMaterial at h
  apply Int64.toInt_inj.mp
  exact Int.repr_injective (append_left_cancel h)

theorem normalizePhrase_eq_of_checksumMaterial {other : String}
    (h : checksumMaterial vaultId other = checksumMaterial vaultId phrase) :
  normalizePhrase other = normalizePhrase phrase
  := by
  unfold checksumMaterial at h
  exact append_left_cancel h

theorem normalizePhrase_eq_of_phraseKeyMaterial {other : String}
    (h : phraseKeyMaterial vaultId other = phraseKeyMaterial vaultId phrase) :
  normalizePhrase other = normalizePhrase phrase
  := by
  unfold phraseKeyMaterial at h
  exact append_left_cancel h

/-- What is found out of an attempt that is accepted. -/
structure Passes (ext : Externals) (attempt : Attempt) : Prop where
  vaultId : attempt.manifest.vaultId = attempt.vaultId
  hash : blake3HexPrefixed ext (.raw attempt.blob) = attempt.manifest.payloadHash
  checksum : phraseChecksum ext attempt.vaultId attempt.phrase = attempt.manifest.phraseChecksum
  opens : ∃ ciphertext plaintext, attempt.blob
      = RECOVERY_MAGIC ++ (recoveryNonce ext attempt.vaultId attempt.manifest.createdAtMs).toList
        ++ ciphertext
    ∧ ext.decrypt (recoveryPhraseKey ext attempt.vaultId attempt.phrase)
        (recoveryNonce ext attempt.vaultId attempt.manifest.createdAtMs) ciphertext
      = some plaintext

/-- A bundle as it is found on disk passes when it is accepted. -/
theorem passes_of_verifyRecoveryBundle {attempt : Attempt} {bundlePath : String} {files : Files}
    {accepted : RecoveryManifestV2}
    (hmanifest : readRecoveryManifest bundlePath files = .ok attempt.manifest)
    (hblob : files[keyBlobPath bundlePath]? = some attempt.blob)
    (h : verifyRecoveryBundle ext attempt.vaultId bundlePath attempt.phrase files
      = .ok accepted) :
  Passes ext attempt
  := by
  rw [verifyRecoveryBundle, hmanifest, AppResult.ok_bind, hblob, okOrElse_some] at h
  obtain ⟨-, hvault, hhash, hchecksum, plaintext, hopen⟩ := (checkBundle_eq_ok _).mp h
  obtain ⟨ciphertext, heq, -, -, hdecrypt⟩ := (decryptRecoveryBlob_eq_ok _).mp hopen
  constructor
  · exact hvault
  · exact hhash
  · exact hchecksum
  · use ciphertext, plaintext

theorem nonce_eq_of_append {a b : Vector UInt8 24} {c d : List UInt8}
    (h : RECOVERY_MAGIC ++ a.toList ++ c = RECOVERY_MAGIC ++ b.toList ++ d) :
  a = b ∧ c = d
  := by
  rw [List.append_assoc, List.append_assoc, List.append_cancel_left_eq] at h
  obtain ⟨hnonce, hrest⟩ := List.append_inj h (by simp)
  exact ⟨Vector.toList_inj.mp hnonce, hrest⟩

section Refused

variable {escrow : Option RecoveryEscrowDescriptorV2} {generated : RecoveryBundleGenerateResult}
  {files : Files} {attempt : Attempt}

/-- The blob of a bundle that was made passes only with the nonce it was made with. -/
theorem nonceMaterial_eq_of_passes
    (hmade : Made ext vaultId passphrase createdAtMs escrow generated files)
    (happart : TellsApart ext (Attempt.honest vaultId generated) attempt)
    (hblob : attempt.blob = generated.keyBlob) (hpasses : Passes ext attempt) :
  nonceMaterial attempt.vaultId attempt.manifest.createdAtMs = nonceMaterial vaultId createdAtMs
  := by
  have hcreated : generated.manifest.createdAtMs = createdAtMs := by
    rw [hmade.manifest]
  obtain ⟨ciphertext, -, hbuilt⟩ := buildBlob_eq_ok hmade.blob
  obtain ⟨found, -, hfound, -⟩ := hpasses.opens
  have hnonce := (nonce_eq_of_append ((hfound.symm.trans hblob).trans hbuilt)).1
  rw [← hcreated]
  apply happart.nonce
  rw [hnonce, ← hcreated]
  rfl

/-- A phrase of another form does not open the blob of a bundle. -/
theorem normalizePhrase_eq_of_passes
    (hmade : Made ext vaultId passphrase createdAtMs escrow generated files)
    (happart : TellsApart ext (Attempt.honest vaultId generated) attempt)
    (hvault : attempt.vaultId = vaultId) (hcreated : attempt.manifest.createdAtMs = createdAtMs)
    (hblob : attempt.blob = generated.keyBlob) (hpasses : Passes ext attempt) :
  normalizePhrase attempt.phrase = normalizePhrase generated.recoveryPhrase
  := by
  have hmanifest : generated.manifest.createdAtMs = createdAtMs := by
    rw [hmade.manifest]
  obtain ⟨ciphertext, plaintext, hfound, hdecrypt⟩ := hpasses.opens
  rw [hcreated, hvault] at hfound hdecrypt
  have hdrop : generated.keyBlob.drop (RECOVERY_MAGIC.length + RECOVERY_NONCE_LEN)
      = ciphertext := by
    rw [← hblob, hfound, List.append_assoc, ← List.drop_drop, List.drop_left]
    apply ObjectStore.drop_nonce
  have hkey : recoveryPhraseKey ext attempt.vaultId attempt.phrase
      = recoveryPhraseKey ext vaultId generated.recoveryPhrase := by
    by_contra hother
    have hnone : ext.decrypt (recoveryPhraseKey ext attempt.vaultId attempt.phrase)
        (recoveryNonce ext vaultId generated.manifest.createdAtMs)
        (generated.keyBlob.drop (RECOVERY_MAGIC.length + RECOVERY_NONCE_LEN)) = none :=
      happart.authentic hother
    rw [hdrop, hmanifest, hvault, hdecrypt] at hnone
    cases hnone
  have hmaterial : phraseKeyMaterial attempt.vaultId attempt.phrase
      = phraseKeyMaterial vaultId generated.recoveryPhrase := happart.key hkey
  rw [hvault] at hmaterial
  exact normalizePhrase_eq_of_phraseKeyMaterial hmaterial

/-- A bundle in which one field of the manifest has been changed does not pass. -/
theorem not_passes_of_altered
    (hmade : Made ext vaultId passphrase createdAtMs escrow generated files)
    (happart : TellsApart ext (Attempt.honest vaultId generated) attempt)
    (hblob : attempt.blob = generated.keyBlob)
    (haltered : Altered generated.manifest attempt.manifest) :
  ¬ Passes ext attempt
  := by
  intro hpasses
  have hmanifest := hmade.manifest
  have hnonce := nonceMaterial_eq_of_passes hmade happart hblob hpasses
  have hvault := hpasses.vaultId
  have hhash := hpasses.hash
  have hchecksum := hpasses.checksum
  generalize hother : attempt.manifest = manifest at *
  cases haltered with
  | vaultId h =>
    rw [hmanifest] at h hnonce
    exact h (hvault.trans (vaultId_eq_of_nonceMaterial hnonce))
  | createdAtMs h =>
    rw [hmanifest] at h hvault
    rw [← hvault] at hnonce
    exact h (createdAtMs_eq_of_nonceMaterial hnonce)
  | phraseChecksum h =>
    rw [hmanifest] at h hvault hother
    have hphrase := normalizePhrase_eq_of_passes hmade happart hvault.symm
      (by rw [hother]) hblob hpasses
    rw [← hvault] at hchecksum
    exact h (hchecksum.symm.trans (phraseChecksum_congr hphrase))
  | payloadHash h =>
    rw [hmanifest] at h
    rw [hblob] at hhash
    exact h hhash.symm

/-- What differs from what a bundle was made for does not pass. -/
theorem not_passes_of_differs
    (hmade : Made ext vaultId passphrase createdAtMs escrow generated files)
    (happart : TellsApart ext (Attempt.honest vaultId generated) attempt)
    (hdiffers : Differs (Attempt.honest vaultId generated) attempt) :
  ¬ Passes ext attempt
  := by
  have hmanifest := hmade.manifest
  cases hdiffers with
  | vaultId phrase h =>
    intro hpasses
    have hvault : generated.manifest.vaultId = _ := hpasses.vaultId
    rw [hmanifest] at hvault
    exact h hvault.symm
  | phrase h =>
    intro hpasses
    apply h
    have hchecksum : phraseChecksum ext vaultId _ = generated.manifest.phraseChecksum :=
      hpasses.checksum
    rw [hmanifest] at hchecksum
    exact normalizePhrase_eq_of_checksumMaterial
      (happart.checksum (blake3HexPrefixed_inj.mp hchecksum))
  | blob vaultId' phrase h =>
    intro hpasses
    apply h
    have hhash : blake3HexPrefixed ext (.raw _) = generated.manifest.payloadHash := hpasses.hash
    rw [hmanifest] at hhash
    exact happart.blob (blake3HexPrefixed_inj.mp hhash)
  | manifest vaultId' phrase h =>
    exact not_passes_of_altered hmade happart rfl h

end Refused

/-- A bundle that was made opens with every phrase of the form of its own, and what differs from it
is refused. -/
theorem verifyRecoveryBundle_generated (haead : AeadCorrect ext) {moment : EscrowMoment}
    {entropy : Except String (Vector UInt8 16)} {outputDir : String}
    {escrow : Option RecoveryEscrowDescriptorV2} {files after : Files}
    {generated : RecoveryBundleGenerateResult}
    (h : generateRecoveryBundleWithEscrow ext moment entropy vaultId outputDir passphrase
      createdAtMs escrow files = (.ok generated, after)) :
  (∀ phrase, normalizePhrase phrase = normalizePhrase generated.recoveryPhrase →
      verifyRecoveryBundle ext vaultId generated.bundlePath phrase after = .ok generated.manifest
      ∧ ∃ blob, after[keyBlobPath generated.bundlePath]? = some blob
        ∧ decryptRecoveryBlob ext vaultId createdAtMs phrase blob
            (keyBlobPath generated.bundlePath) = .ok passphrase.toUTF8.data.toList)
    ∧ ∀ attempt found, Differs (Attempt.honest vaultId generated) attempt →
        TellsApart ext (Attempt.honest vaultId generated) attempt →
        readRecoveryManifest generated.bundlePath found = .ok attempt.manifest →
        found[keyBlobPath generated.bundlePath]? = some attempt.blob →
        ∀ accepted, verifyRecoveryBundle ext attempt.vaultId generated.bundlePath attempt.phrase
          found ≠ .ok accepted
  := by
  have hmade := made_of_generate h
  constructor
  · intro phrase hphrase
    have hopen := decryptRecoveryBlob_buildBlob haead hmade.nonempty hmade.blob hphrase
      (keyBlobPath generated.bundlePath)
    constructor
    · rw [verifyRecoveryBundle, hmade.manifestFile, AppResult.ok_bind, hmade.blobFile,
        okOrElse_some]
      apply (checkBundle_eq_ok _).mpr
      rw [hmade.manifest]
      refine ⟨rfl, rfl, rfl, phraseChecksum_congr hphrase, ?_⟩
      use passphrase.toUTF8.data.toList
    · use generated.keyBlob, hmade.blobFile
  · intro attempt found hdiffers happart hmanifest hblob accepted haccepted
    apply not_passes_of_differs hmade happart hdiffers
    exact passes_of_verifyRecoveryBundle hmanifest hblob haccepted

namespace Sample

/-- A cipher that puts the key before what it seals, and opens with that key only. -/
def sealing : Externals :=
  { Sample.ext with
    sha256 := fun bytes => Sample.spread (bytes.map UInt8.toNat).sum
    encrypt := fun key _ plaintext => some (key.toList ++ plaintext)
    decrypt := fun key _ ciphertext =>
      if ciphertext.take 32 = key.toList then some (ciphertext.drop 32) else none }

theorem sealing_correct : AeadCorrect sealing := by
  constructor
  · intro key nonce plaintext ciphertext h
    cases h
    change (if _ then _ else _) = _
    rw [List.take_left' key.length_toList, if_pos rfl, List.drop_left' key.length_toList]
  · intro key nonce plaintext ciphertext h
    cases h
    simp

def moment : EscrowMoment where
  draw _ := .error (invalidBundle "" [])
  fails _ := false

/-- A bundle for a vault, from bytes that are all zero. -/
def made : AppResult RecoveryBundleGenerateResult × Files :=
  generateRecoveryBundleWithEscrow sealing moment (.ok (Vector.replicate 16 0)) "vault-a" "/out"
    "secret" 1 none ∅

/-- The phrase that is drawn. -/
def drawnPhrase : String := "00000000-00000000-00000000-00000000"

/-- The passphrase, sealed under the phrase. -/
def sealed : List UInt8 :=
  RECOVERY_MAGIC ++ (recoveryNonce sealing "vault-a" 1).toList
    ++ (recoveryPhraseKey sealing "vault-a" drawnPhrase).toList ++ "secret".toUTF8.data.toList

theorem phraseChecksum_ne :
  phraseChecksum sealing "vault-a" "other" ≠ phraseChecksum sealing "vault-a" drawnPhrase
  := by
  decide +kernel

theorem recoveryPhraseKey_ne :
  recoveryPhraseKey sealing "vault-a" "other" ≠ recoveryPhraseKey sealing "vault-a" drawnPhrase
  := by
  decide +kernel

theorem decrypt_sealed :
  sealing.decrypt (recoveryPhraseKey sealing "vault-a" "other")
      (recoveryNonce sealing "vault-a" 1)
      (sealed.drop (RECOVERY_MAGIC.length + RECOVERY_NONCE_LEN))
    = none
  := by
  decide +kernel

end Sample

/-- The bundle is accepted with its phrase written in another way, and it is refused when the
checksum in it has been replaced by that of another phrase. -/
theorem verifyRecoveryBundle_made :
  ∃ generated after, Sample.made = (.ok generated, after)
    ∧ verifyRecoveryBundle Sample.sealing "vault-a" generated.bundlePath
        (" " ++ Sample.drawnPhrase ++ "\n") after = .ok generated.manifest
    ∧ ∀ found,
        readRecoveryManifest generated.bundlePath found = .ok { generated.manifest with
            phraseChecksum := phraseChecksum Sample.sealing "vault-a" "other" } →
        found[keyBlobPath generated.bundlePath]? = some generated.keyBlob →
        ∀ accepted, verifyRecoveryBundle Sample.sealing "vault-a" generated.bundlePath "other"
          found ≠ .ok accepted
  := by
  have hok : (Sample.made.1.toOption.map fun generated => (generated.recoveryPhrase,
      generated.manifest.createdAtMs, generated.manifest.phraseChecksum, generated.keyBlob))
        = some (Sample.drawnPhrase, 1, phraseChecksum Sample.sealing "vault-a" Sample.drawnPhrase,
          Sample.sealed) := by
    decide +kernel
  have hform : normalizePhrase (" " ++ Sample.drawnPhrase ++ "\n")
      = normalizePhrase Sample.drawnPhrase := by
    decide +kernel
  rcases hmade : Sample.made with ⟨result, after⟩
  rw [hmade] at hok
  cases result with
  | error e => cases hok
  | ok generated =>
    obtain ⟨bundlePath, ⟨schemaVersion, vaultId, createdAtMs, checksum, payloadHash, escrow⟩,
      phrase, blob⟩ := generated
    simp only [Except.toOption, Option.map_some, Option.some.injEq, Prod.mk.injEq] at hok
    obtain ⟨rfl, rfl, rfl, rfl⟩ := hok
    obtain ⟨haccepts, hrefuses⟩ := verifyRecoveryBundle_generated Sample.sealing_correct hmade
    refine ⟨_, after, rfl, (haccepts _ hform).1, ?_⟩
    intro found
    apply hrefuses _ found (Differs.manifest "vault-a" "other"
      (Altered.phraseChecksum Sample.phraseChecksum_ne))
    constructor
    · intro _
      rfl
    · intro hchecksum
      exact absurd (blake3HexPrefixed_inj.mpr hchecksum) Sample.phraseChecksum_ne
    · intro _
      rfl
    · intro hkey
      exact absurd hkey Sample.recoveryPhraseKey_ne
    · intro _
      exact Sample.decrypt_sealed

end Recovery

end KnowledgeCore
