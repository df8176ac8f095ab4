import KnowledgeCore.Registry
import KnowledgeCore.SyncAuth

/-!
# The checks of an author

What a head satisfies that passes the strict check of its author, and what one satisfies that
passes the check of remote targets. A registry that has come about by enrolment makes every
head of the first kind one of the second.
-/

namespace KnowledgeCore

namespace SyncAuth

variable {ext : Externals} {db : Db} {head : SyncHeadV1}

/-! ### The signature -/

theorem requiredAuthorField_ok {value : Option String} {field s : String}
    (h : requiredAuthorField value head field = .ok s) :
  value = some s
  := by
  rw [requiredAuthorField, okOrElse_eq_ok] at h
  exact (Option.filter_eq_some_iff.mp h).1

theorem trustedDevicePublicKey_eq_ok {deviceId pubkey : String}
    (h : Trust.trustedDevicePublicKey db deviceId = .ok pubkey) :
  ∃ device, db.trustedDevices[deviceId]? = some device ∧ device.verifiedAtMs.isSome = true
    ∧ device.pubkey = pubkey
  := by
  rw [Trust.trustedDevicePublicKey, Trust.loadDevice] at h
  split at h
  · cases h
  · next device hrow =>
    split at h
    · cases h
    · next hverified =>
      cases h
      use device, hrow
      simpa [Option.isSome_iff_ne_none] using hverified

theorem verifyAuthorChain_eq_ok {deviceId certId chainHash : String}
    (h : Trust.verifyAuthorChain db deviceId certId chainHash = .ok ()) :
  ∃ cert, db.deviceCertificates[certId]? = some cert ∧ cert.deviceId = deviceId
    ∧ cert.certChainHash = chainHash
  := by
  rw [Trust.verifyAuthorChain] at h
  split at h
  · cases h
  · next cert hrow =>
    use cert, hrow
    split at h
    · cases h
    · next hdevice =>
      split at h
      · cases h
      · split at h
        · cases h
        · next hhash =>
          push Not at hdevice hhash
          exact ⟨hdevice, hhash⟩

/-- What the signature of a head has to be: one over the canonical payload of its own fields,
under the key of a verified device of the registry. -/
structure SignedBy (ext : Externals) (db : Db) (head : SyncHeadV1)
    (payload : SyncAuthorPayloadV1) (device : TrustedDeviceRow) : Prop where
  named : authorPayload head = some payload
  trusted : db.trustedDevices[payload.authorDeviceId]? = some device
  verified : device.verifiedAtMs.isSome = true
  signed : ∃ text signature pubkey bytes, canonicalSyncAuthorPayloadV1 payload = .ok text
    ∧ head.authorSignature = some signature
    ∧ Hex.parseLowerHexFixed "sync" 32 device.pubkey "author_pubkey"
      "KC_TRUST_CERT_CHAIN_INVALID" = .ok pubkey
    ∧ Hex.parseLowerHexFixed "sync" 64 signature "author_signature"
      "KC_TRUST_SIGNATURE_INVALID" = .ok bytes
    ∧ Trust.formatDeviceFingerprint ext pubkey.toList = payload.authorFingerprint
    ∧ ext.verify pubkey text bytes = true

/-- The signature of a head that verifies is one of a trusted device, whose certificate the
head names. -/
theorem verifySyncHeadAuthorSignatureV1_eq_ok (hv : ¬ head.schemaVersion < 3)
    (h : verifySyncHeadAuthorSignatureV1 ext db head = .ok ()) :
  ∃ payload device cert, SignedBy ext db head payload device
    ∧ db.deviceCertificates[payload.authorCertId]? = some cert
    ∧ cert.deviceId = payload.authorDeviceId
    ∧ cert.certChainHash = payload.authorChainHash
  := by
  rw [verifySyncHeadAuthorSignatureV1, if_neg hv] at h
  simp only [AppResult.bind_eq_ok, mapErr_eq_ok] at h
  obtain ⟨deviceId, hd, fingerprint, hf, signature, hs, certId, hc, chainHash, hch, _, hchain,
    authorPubkey, hkey, pubkey, hpub, h⟩ := h
  obtain ⟨device, htrusted, hverified, rfl⟩ := trustedDevicePublicKey_eq_ok hkey
  obtain ⟨cert, hrow, hcd, hcc⟩ := verifyAuthorChain_eq_ok hchain
  split at h
  · cases h
  · next hprint =>
    simp only [AppResult.bind_eq_ok] at h
    obtain ⟨text, htext, h⟩ := h
    simp only [verifySyncAuthorSignatureV1, AppResult.bind_eq_ok] at h
    obtain ⟨bytes, hbytes, pubkey', hpub', h⟩ := h
    obtain rfl : pubkey = pubkey' := by
      rw [hpub] at hpub'
      cases hpub'
      rfl
    push Not at hprint
    use {
      snapshotId := head.snapshotId
      manifestHash := head.manifestHash
      createdAtMs := head.createdAtMs
      authorDeviceId := deviceId
      authorFingerprint := fingerprint
      authorCertId := certId
      authorChainHash := chainHash }, device, cert
    refine ⟨⟨?_, htrusted, hverified, text, signature, pubkey, bytes, htext,
      requiredAuthorField_ok hs, hpub, hbytes, hprint, ?_⟩, hrow, hcd, hcc⟩
    · simp [authorPayload, requiredAuthorField_ok hd, requiredAuthorField_ok hf,
        requiredAuthorField_ok hc, requiredAuthorField_ok hch]
    · split at h
      · cases h
      · split at h
        · cases h
        · next hverify => simpa using hverify

/-- A signature a key makes verifies under the key, if the scheme says so. -/
theorem verifySyncAuthorSignatureV1_sign {seed : Vector UInt8 32} {text : String}
    (hkey : ext.isVerifyingKey (ext.verifyingKey seed) = true)
    (hverify : ext.verify (ext.verifyingKey seed) text (ext.sign seed text) = true) :
  verifySyncAuthorSignatureV1 ext text (Hex.bytesToHex (ext.sign seed text).toList)
    (Hex.bytesToHex (ext.verifyingKey seed).toList) = .ok ()
  := by
  simp [verifySyncAuthorSignatureV1, hkey, hverify, bind, Except.bind]

/-- A head that names a verified certificate of a device, and is signed with the key of the
device over its canonical payload, verifies. -/
theorem verifySyncHeadAuthorSignatureV1_of_signed {payload : SyncAuthorPayloadV1}
    {seed : Vector UInt8 32} {text : String}
    (hp : authorPayload head = some payload)
    (hd : isBlank payload.authorDeviceId = false)
    (hf : isBlank payload.authorFingerprint = false)
    (hc : isBlank payload.authorCertId = false)
    (hch : isBlank payload.authorChainHash = false)
    (hchain : Trust.verifyAuthorChain db payload.authorDeviceId payload.authorCertId
      payload.authorChainHash = .ok ())
    (hpub : Trust.trustedDevicePublicKey db payload.authorDeviceId
      = .ok (Hex.bytesToHex (ext.verifyingKey seed).toList))
    (hprint : Trust.formatDeviceFingerprint ext (ext.verifyingKey seed).toList
      = payload.authorFingerprint)
    (htext : canonicalSyncAuthorPayloadV1 payload = .ok text)
    (hs : head.authorSignature = some (Hex.bytesToHex (ext.sign seed text).toList))
    (hkey : ext.isVerifyingKey (ext.verifyingKey seed) = true)
    (hverify : ext.verify (ext.verifyingKey seed) text (ext.sign seed text) = true) :
  verifySyncHeadAuthorSignatureV1 ext db head = .ok ()
  := by
  rw [verifySyncHeadAuthorSignatureV1]
  split
  · rfl
  · simp only [authorPayload, Option.bind_eq_bind, Option.bind_eq_some_iff] at hp
    obtain ⟨deviceId, hd', fingerprint, hf', certId, hc', chainHash, hch', hp⟩ := hp
    cases hp
    have hblank : isBlank (Hex.bytesToHex (ext.sign seed text).toList) = false := by
      apply isBlank_bytesToHex
      apply List.ne_nil_of_length_pos
      simp
    simp only [requiredAuthorField, hd', hf', hs, hc', hch', Option.filter, hd, hf, hblank, hc,
      hch, Bool.not_false, if_true, okOrElse, bind, Except.bind, hchain, hpub, mapErr,
      Hex.parseLowerHexFixed_bytesToHex, hprint, ne_eq, not_true, if_false, htext]
    apply verifySyncAuthorSignatureV1_sign hkey hverify

/-! ### The strict check -/

/-- A head passes the strict check exactly when it declares the algorithm of custody and its
signature verifies. -/
theorem ensureStrictSyncAuthReady_eq_ok {target : String} :
  ensureStrictSyncAuthReady ext db target head = .ok ()
    ↔ ¬ head.schemaVersion < 3
      ∧ declaredSignatureAlg head = some SYNC_AUTHOR_SIGNATURE_ALG_ED25519_V1
      ∧ verifySyncHeadAuthorSignatureV1 ext db head = .ok ()
  := by
  simp only [ensureStrictSyncAuthReady, AppResult.bind_eq_ok]
  constructor
  · rintro ⟨report, hr, h⟩
    have hready : report.strictReady = true := by
      split at h
      · next hready => exact hready
      · cases h
    rw [classifySyncAuthReadiness] at hr
    split at hr
    · cases hr
      cases hready
    · next hv =>
      split at hr
      · next alg halg =>
        split at hr
        · next hed =>
          split at hr
          · next hok => exact ⟨hv, by rw [halg, hed], hok⟩
          · cases hr
            cases hready
        · cases hr
          cases hready
      · simp only [AppResult.bind_eq_ok] at hr
        obtain ⟨_, -, hr⟩ := hr
        repeat' split at hr
        all_goals
          cases hr
          cases hready
  · rintro ⟨hv, halg, hok⟩
    simp only [classifySyncAuthReadiness, if_neg hv, halg, hok, if_true]
    exact ⟨_, rfl, rfl⟩

/-! ### The check of remote targets -/

/-- The trust metadata of a head is that of the local passphrase. -/
def TrustBlockMatches (head : SyncHeadV1) (localTrust : SyncTrustV1) : Prop :=
  ∃ remote, head.trust = some remote ∧ remote.model = TRUST_MODEL_PASSPHRASE_V1
    ∧ remote.fingerprint = localTrust.fingerprint

/-- The signature of a head is accepted: a declared one if it is of the algorithm of custody
and verifies, an undeclared one also if it is the legacy signature. -/
def SignatureAccepted (ext : Externals) (db : Db) (head : SyncHeadV1)
    (payload : SyncAuthorPayloadV1) (signature : String) : Prop :=
  match declaredSignatureAlg head with
  | some alg => alg = SYNC_AUTHOR_SIGNATURE_ALG_ED25519_V1
      ∧ verifySyncHeadAuthorSignatureV1 ext db head = .ok ()
  | none => verifySyncHeadAuthorSignatureV1 ext db head = .ok ()
      ∨ ∃ text, syncSignaturePayload payload = .ok text
        ∧ legacySyncSignature ext text = signature

/-- The author of a head is accepted: all author fields are there, the chain hash is the one
they call for, and the signature is accepted. -/
def AuthorAccepted (ext : Externals) (db : Db) (head : SyncHeadV1) : Prop :=
  ∃ payload signature, authorPayload head = some payload
    ∧ head.authorSignature = some signature
    ∧ Trust.expectedCertChainHash ext payload.authorCertId payload.authorDeviceId
        payload.authorFingerprint = payload.authorChainHash
    ∧ SignatureAccepted ext db head payload signature

/-- The text a vault signs can always be written. -/
theorem syncSignaturePayload_isOk (payload : SyncAuthorPayloadV1) :
  ∃ text, syncSignaturePayload payload = .ok text
  := CanonJson.toCanonicalBytes_ok_of_not_hasFloat rfl

theorem authorField_eq_ok {value : Option String} {code message s : String} :
  authorField value head code message = .ok s ↔ value = some s
  := okOrElse_eq_ok

/-- A head passes the check of remote targets exactly when its trust metadata matches and,
from schema version 3 on, its author is accepted. -/
theorem ensureRemoteTrustMatches_eq_ok {localTrust : SyncTrustV1} :
  ensureRemoteTrustMatches ext db (some head) localTrust = .ok ()
    ↔ TrustBlockMatches head localTrust
      ∧ (¬ head.schemaVersion < 3 → AuthorAccepted ext db head)
  := by
  simp only [ensureRemoteTrustMatches, AppResult.bind_eq_ok, okOrElse_eq_ok, TrustBlockMatches]
  constructor
  · rintro ⟨remote, hr, h⟩
    split at h
    · cases h
    · next hmodel =>
      split at h
      · cases h
      · next hprint =>
        push Not at hmodel hprint
        refine ⟨⟨remote, hr, hmodel, hprint⟩, ?_⟩
        intro hv
        simp only [if_neg hv, AppResult.bind_eq_ok, authorField_eq_ok] at h
        obtain ⟨deviceId, hd, fingerprint, hf, signature, hs, certId, hc, chainHash, hch, h⟩ := h
        split at h
        · cases h
        · next hchain =>
          push Not at hchain
          use {
            snapshotId := head.snapshotId
            manifestHash := head.manifestHash
            createdAtMs := head.createdAtMs
            authorDeviceId := deviceId
            authorFingerprint := fingerprint
            authorCertId := certId
            authorChainHash := chainHash }, signature
          refine ⟨by simp [authorPayload, hd, hf, hc, hch], hs, hchain, ?_⟩
          split at h
          · next alg halg =>
            simp only [SignatureAccepted, halg]
            split at h
            · next hed => exact ⟨hed, h⟩
            · cases h
          · next halg =>
            simp only [SignatureAccepted, halg]
            simp only [AppResult.bind_eq_ok] at h
            obtain ⟨text, htext, h⟩ := h
            split at h
            · cases h
            · next hsig =>
              rw [not_and_or, not_not] at hsig
              rcases hsig with hverify | hlegacy
              · left
                rcases hok : verifySyncHeadAuthorSignatureV1 ext db head with e | u
                · simp [hok, Except.isOk, Except.toBool] at hverify
                · rfl
              · right
                exact ⟨text, htext, hlegacy⟩
  · rintro ⟨⟨remote, hr, hmodel, hprint⟩, hauthor⟩
    use remote, hr
    rw [if_neg (by simpa using hmodel), if_neg (by simpa using hprint)]
    by_cases hv : head.schemaVersion < 3
    · rw [if_pos hv]
    · rw [if_neg hv]
      obtain ⟨payload, signature, hp, hs, hchain, haccepted⟩ := hauthor hv
      simp only [authorPayload, Option.bind_eq_bind, Option.bind_eq_some_iff] at hp
      obtain ⟨deviceId, hd, fingerprint, hf, certId, hc, chainHash, hch, hp⟩ := hp
      cases hp
      simp only [AppResult.bind_eq_ok, authorField_eq_ok]
      refine ⟨deviceId, hd, fingerprint, hf, signature, hs, certId, hc, chainHash, hch, ?_⟩
      rw [if_neg (by simpa using hchain)]
      rw [SignatureAccepted] at haccepted
      split
      · next alg halg =>
        simp only [halg] at haccepted
        rw [if_pos haccepted.1, haccepted.2]
      · next halg =>
        simp only [halg] at haccepted
        obtain ⟨text, htext⟩ := syncSignaturePayload_isOk {
          snapshotId := head.snapshotId
          manifestHash := head.manifestHash
          createdAtMs := head.createdAtMs
          authorDeviceId := deviceId
          authorFingerprint := fingerprint
          authorCertId := certId
          authorChainHash := chainHash }
        simp only [AppResult.bind_eq_ok]
        use text, htext
        rw [if_neg]
        rintro ⟨hnot, hne⟩
        rcases haccepted with hok | ⟨text', htext', hlegacy⟩
        · simp [hok, Except.isOk, Except.toBool] at hnot
        · rw [htext] at htext'
          cases htext'
          exact hne hlegacy

/-! ### The two checks agree -/

/-- In a registry that has come about by enrolment, the author of a head that passes the strict
check is accepted at remote targets. -/
theorem authorAccepted_of_strict {target : String} (hdb : Trust.WellEnrolled ext db)
    (h : ensureStrictSyncAuthReady ext db target head = .ok ()) :
  AuthorAccepted ext db head
  := by
  obtain ⟨hv, halg, hok⟩ := ensureStrictSyncAuthReady_eq_ok.mp h
  obtain ⟨payload, device, cert, hsigned, hrow, hdevice, hhash⟩ :=
    verifySyncHeadAuthorSignatureV1_eq_ok hv hok
  obtain ⟨text, signature, pubkey, bytes, -, hs, hpub, -, hprint, -⟩ := hsigned.signed
  obtain ⟨owner, howner, hchain⟩ := hdb.certificate hrow
  obtain rfl : device = owner := by
    rw [hdevice, hsigned.trusted] at howner
    cases howner
    rfl
  obtain ⟨seed, hkey, hfinger⟩ := hdb.device hsigned.trusted
  rw [hkey, Hex.parseLowerHexFixed_bytesToHex] at hpub
  cases hpub
  use payload, signature, hsigned.named, hs
  constructor
  · rw [← hhash, hchain, hdevice, hfinger, hprint]
  · rw [SignatureAccepted, halg]
    exact ⟨rfl, hok⟩

end SyncAuth

end KnowledgeCore
