import KnowledgeCore.StrictAuth
import KnowledgeCore.Sync.QuietPush

/-!
# Signing heads

What a push to a remote target signs, and as whom. The text it signs lacks the name of the
algorithm, which is part of the text the verifier checks a declared signature against. So no
declared head passes the check, not even in the registry of the vault that has pushed it.
-/

namespace KnowledgeCore

namespace SyncAuth

variable {payload : SyncAuthorPayloadV1}

/-- The text that is signed is never the text that is checked. -/
theorem syncSignaturePayload_ne {signed checked : String}
    (hs : syncSignaturePayload payload = .ok signed)
    (hc : canonicalSyncAuthorPayloadV1 payload = .ok checked) :
  signed ≠ checked
  := by
  rintro rfl
  simp only [syncSignaturePayload, canonicalSyncAuthorPayloadV1, CanonJson.toCanonicalBytes,
    CanonJson.writeCanonical, CanonJson.writeMembers, bind, Except.bind, CanonJson.sortMembers,
    List.insertionSort, List.orderedInsert, String.reduceLE, List.foldr, if_true, if_false,
    List.map, Except.ok.injEq] at hs hc
  -- The text that is checked has one more member.
  have hlength := congrArg String.length (hs.trans hc.symm)
  simp only [CanonJson.commaSeparated, String.length_append] at hlength
  have hcomma : ",".length = 1 := rfl
  omega

end SyncAuth

namespace Sync

variable {ext : Externals} {host : Host} {s : Site} {target : String} {nowMs : Int64}

/-! ### The head of a push -/

theorem eval_syncPushS3Target_eq_ok {r : SyncPushResultV1} {s' : Site} :
  (syncPushS3Target ext host target nowMs).eval (perform ext host) s = (.ok r, s')
    ↔ ∃ file plan head newHead, S3PushAccepts ext host target nowMs s file plan head newHead
      ∧ r = pushResult newHead ∧ s' = pushedS3 ext nowMs file plan newHead s
  := by
  constructor
  · intro h
    by_cases ha : ∃ file plan head newHead,
        S3PushAccepts ext host target nowMs s file plan head newHead
    · obtain ⟨file, plan, head, newHead, ha⟩ := ha
      rw [eval_syncPushS3Target ha] at h
      cases h
      use file, plan, head, newHead, ha
    · obtain ⟨e, t, hrun, -⟩ := eval_syncPushS3Target_refused ha
      rw [hrun] at h
      cases h
  · rintro ⟨file, plan, head, newHead, ha, rfl, rfl⟩
    apply eval_syncPushS3Target ha

/-- How a head has been signed by a vault with the given database. -/
structure SignedAs (ext : Externals) (host : Host) (db : Db) (head : SyncHeadV1)
    (author : Trust.AuthorIdentity) (payload : SyncAuth.SyncAuthorPayloadV1) (text : String)
    (signature : SyncAuth.SyncPayloadSignature) : Prop where
  enrolled : SyncAuth.localSyncAuthor db = .ok author
  version : head.schemaVersion = 3
  named : SyncAuth.authorPayload head = some payload
  device : payload.authorDeviceId = author.deviceId
  written : SyncAuth.syncSignaturePayload payload = .ok text
  signed : SyncAuth.signSyncPayload ext host db author.deviceId text = .ok signature
  carried : head.authorSignature = some signature.signature
  declared : head.authorSignatureAlg = signature.signatureAlg

theorem signedAs_of_signHead {db : Db} {snapshotId manifestHash : String} {trust : SyncTrustV1}
    {author : Trust.AuthorIdentity} {head : SyncHeadV1}
    (ha : SyncAuth.localSyncAuthor db = .ok author)
    (h : signHead ext host db snapshotId manifestHash nowMs trust author = .ok head) :
  ∃ payload text signature, SignedAs ext host db head author payload text signature
  := by
  simp only [signHead, AppResult.bind_eq_ok] at h
  obtain ⟨text, ht, signature, hs, h⟩ := h
  cases h
  exact ⟨_, text, signature, ha, rfl, rfl, rfl, ht, hs, rfl, rfl⟩

/-- A push to a remote target signs its head as the author its database names. -/
theorem syncPushS3Target_signs {file : SqliteFile} {r : SyncPushResultV1} {s' : Site}
    (hf : Vault.dbFile s.vault = some file)
    (h : (syncPushS3Target ext host target nowMs).eval (perform ext host) s = (.ok r, s')) :
  ∃ author payload text signature,
    SignedAs ext host file.db r.remoteHead author payload text signature
  := by
  obtain ⟨file', plan, head, newHead, ha, rfl, -⟩ := eval_syncPushS3Target_eq_ok.mp h
  obtain rfl : file = file' := by simpa [hf] using ha.opened
  use plan.localAuthor
  apply signedAs_of_signHead ha.enrolled ha.signed

/-! ### Checking it -/

/-- A head that a push has declared is signed with the key of its author, which its database
trusts. -/
theorem SignedAs.exists_seed {db : Db} {head : SyncHeadV1} {author : Trust.AuthorIdentity}
    {payload : SyncAuth.SyncAuthorPayloadV1} {text : String}
    {signature : SyncAuth.SyncPayloadSignature}
    (h : SignedAs ext host db head author payload text signature)
    (hdeclared : head.authorSignatureAlg ≠ none) :
  head.authorSignatureAlg = some SYNC_AUTHOR_SIGNATURE_ALG_ED25519_V1
    ∧ ∃ seed, Trust.trustedDevicePublicKey db payload.authorDeviceId
        = .ok (Hex.bytesToHex (ext.verifyingKey seed).toList)
      ∧ head.authorSignature = some (Hex.bytesToHex (ext.sign seed text).toList)
  := by
  rw [h.declared] at hdeclared
  obtain ⟨seed, hkey, hsig, halg⟩ := SyncAuth.signSyncPayload_declared h.signed hdeclared
  rw [h.declared, h.carried, h.device, hsig]
  exact ⟨halg, seed, hkey, rfl⟩

/-- Such a head passes the check only if the signature over the text without the algorithm is
one over the text with it. -/
theorem SignedAs.forges {db : Db} {head : SyncHeadV1} {author : Trust.AuthorIdentity}
    {payload : SyncAuth.SyncAuthorPayloadV1} {text : String}
    {signature : SyncAuth.SyncPayloadSignature}
    (h : SignedAs ext host db head author payload text signature)
    (hdeclared : head.authorSignatureAlg ≠ none)
    (hok : SyncAuth.verifySyncHeadAuthorSignatureV1 ext db head = .ok ()) :
  ∃ seed checked, SyncAuth.canonicalSyncAuthorPayloadV1 payload = .ok checked
    ∧ ext.verify (ext.verifyingKey seed) checked (ext.sign seed text) = true
  := by
  obtain ⟨-, seed, hkey, hsig⟩ := h.exists_seed hdeclared
  have hv : ¬ head.schemaVersion < 3 := by
    rw [h.version]
    decide
  obtain ⟨payload', device, _, hsigned, -⟩ :=
    SyncAuth.verifySyncHeadAuthorSignatureV1_eq_ok hv hok
  obtain rfl : payload = payload' := by simpa [h.named] using hsigned.named
  obtain ⟨checked, signature', pubkey, bytes, hc, hs, hpub, hbytes, -, hverify⟩ := hsigned.signed
  obtain ⟨device', hd, -, hpubkey⟩ := SyncAuth.trustedDevicePublicKey_eq_ok hkey
  obtain rfl : device = device' := by simpa [hsigned.trusted] using hd
  rw [hpubkey, Hex.parseLowerHexFixed_bytesToHex] at hpub
  rw [hsig] at hs
  cases hpub
  cases hs
  rw [Hex.parseLowerHexFixed_bytesToHex] at hbytes
  cases hbytes
  use seed, checked, hc, hverify

/-- A head that declares the algorithm of custody and does not verify is classified as
invalid. -/
theorem classify_of_not_verifies {db : Db} {head : SyncHeadV1} (hv : head.schemaVersion = 3)
    (halg : head.authorSignatureAlg = some SYNC_AUTHOR_SIGNATURE_ALG_ED25519_V1)
    (hno : SyncAuth.verifySyncHeadAuthorSignatureV1 ext db head ≠ .ok ()) :
  ∃ report, SyncAuth.classifySyncAuthReadiness ext db target (some head) = .ok report
    ∧ report.classification = .invalid ∧ report.strictReady = false
  := by
  have hdeclared : SyncAuth.declaredSignatureAlg head
      = some SYNC_AUTHOR_SIGNATURE_ALG_ED25519_V1 := by
    rw [SyncAuth.declaredSignatureAlg, halg]
    decide +kernel
  rw [SyncAuth.classifySyncAuthReadiness, hv, if_neg (by decide), hdeclared]
  simp only [if_true]
  split
  · next hok => exact absurd hok hno
  · exact ⟨_, rfl, rfl, rfl⟩

/-- What is asked of a push to a remote target: that the database it has signed a declared head
from accepts the head, and finds it ready for strict authentication. -/
def SignsWhatIsChecked (ext : Externals) (host : Host) (target : String) (nowMs : Int64)
    (s : Site) : Prop :=
  ∀ file r s', Vault.dbFile s.vault = some file →
    (syncPushS3Target ext host target nowMs).eval (perform ext host) s = (.ok r, s') →
    r.remoteHead.authorSignatureAlg ≠ none →
    SyncAuth.verifySyncHeadAuthorSignatureV1 ext file.db r.remoteHead = .ok ()
      ∧ ∃ report,
        SyncAuth.classifySyncAuthReadiness ext file.db target (some r.remoteHead) = .ok report
        ∧ report.strictReady = true

/-- No declared head of a push is accepted, if a signature over the text that was signed is
none over the text that is checked. -/
theorem declared_head_rejected (ext : Externals) (host : Host) (target : String)
    (nowMs : Int64) (s s' : Site) (file : SqliteFile) (r : SyncPushResultV1)
    (hf : Vault.dbFile s.vault = some file)
    (hpush : (syncPushS3Target ext host target nowMs).eval (perform ext host) s = (.ok r, s'))
    (hdeclared : r.remoteHead.authorSignatureAlg ≠ none)
    (hsecure : ∀ payload signed checked seed,
      SyncAuth.authorPayload r.remoteHead = some payload →
      SyncAuth.syncSignaturePayload payload = .ok signed →
      SyncAuth.canonicalSyncAuthorPayloadV1 payload = .ok checked → signed ≠ checked →
      ext.verify (ext.verifyingKey seed) checked (ext.sign seed signed) = false) :
  SyncAuth.verifySyncHeadAuthorSignatureV1 ext file.db r.remoteHead ≠ .ok ()
    ∧ ∃ report,
      SyncAuth.classifySyncAuthReadiness ext file.db target (some r.remoteHead) = .ok report
      ∧ report.classification = .invalid ∧ report.strictReady = false
  := by
  obtain ⟨author, payload, text, signature, h⟩ := syncPushS3Target_signs hf hpush
  have hno : SyncAuth.verifySyncHeadAuthorSignatureV1 ext file.db r.remoteHead ≠ .ok () := by
    intro hok
    obtain ⟨seed, checked, hc, hverify⟩ := h.forges hdeclared hok
    have hfalse := hsecure payload text checked seed h.named h.written hc
      (SyncAuth.syncSignaturePayload_ne h.written hc)
    rw [hverify] at hfalse
    cases hfalse
  use hno
  apply classify_of_not_verifies h.version (h.exists_seed hdeclared).1 hno

/-! ### An enrolled device -/

def Sample.seed : Vector UInt8 32 := Vector.replicate 32 1

def Sample.fingerprint : String :=
  Trust.formatDeviceFingerprint Sample.ext (Sample.ext.verifyingKey Sample.seed).toList

/-- How a device is enrolled with its key in custody. -/
def Sample.enrolmentOf (deviceId certId : String) : List Trust.Act := [
  .identities ((∅ : Table TrustProviderRow).insert "default" { enabled := true })
    ((∅ : Table IdentitySessionRow).insert "session"
      { providerId := "default", subject := "subject", claimSubsetJson := "\x7b\x7d",
        issuedAtMs := 1, expiresAtMs := 9, createdAtMs := 1 })
    ∅,
  .init deviceId "laptop" Sample.seed,
  .verify deviceId Sample.fingerprint 2,
  .enroll certId "default" deviceId 3,
  .verifyChain deviceId 4,
  .store deviceId Sample.seed "secret" (Vector.replicate 24 0)]

def Sample.enrolment : List Trust.Act := Sample.enrolmentOf "device" "cert"

def Sample.enrolledDb : Db := Sample.enrolment.foldl (Trust.Act.after Sample.ext) Sample.db

theorem Sample.enrolledDb_reachable :
  Trust.Reachable Sample.ext Sample.enrolledDb
  := ⟨Sample.db, Sample.enrolment, ⟨rfl, rfl, rfl⟩, rfl⟩

theorem Sample.dbFile_vault (db : Db) :
  Vault.dbFile (Sample.vault db []) = some { db, key := none, layout := 0 }
  := rfl

/-- The vault of the enrolled device before its first push. -/
def Sample.enrolledSite : Site where
  vault := Sample.vault Sample.enrolledDb []
  target := Sample.noTarget
  bucket := ∅

/-- A push of the enrolled device, with the texts it signs and is checked against. -/
theorem Sample.enrolledSite_pushes :
  ((syncPushS3Target Sample.ext Sample.host "target" 1000).eval
      (perform Sample.ext Sample.host) Sample.enrolledSite).1.toOption.any (fun r =>
    r.remoteHead.authorSignatureAlg.isSome
      && (SyncAuth.authorPayload r.remoteHead).any fun payload =>
        (SyncAuth.syncSignaturePayload payload).toOption.any fun signed =>
        (SyncAuth.canonicalSyncAuthorPayloadV1 payload).toOption.any fun checked =>
          Sample.textSum signed % 256 ≠ Sample.textSum checked % 256) = true
  := by decide +kernel

theorem Sample.verify_eq_false {seed : Vector UInt8 32} {a b : String}
    (h : Sample.textSum a % 256 ≠ Sample.textSum b % 256) :
  Sample.ext.verify (Sample.ext.verifyingKey seed) b (Sample.ext.sign seed a) = false
  := by
  simp only [Sample.ext, decide_eq_false_iff_not]
  intro heq
  have hspread := (Vector.append_inj heq).2
  -- The first byte is the low byte of the checksum.
  have hbyte := congrArg (fun v => v[0].toNat) hspread
  simp only [Sample.spread, Vector.getElem_ofFn] at hbyte
  exact h (by simpa using hbyte)

theorem Sample.enrolledSite_push :
  ∃ file r s', Vault.dbFile Sample.enrolledSite.vault = some file
    ∧ (syncPushS3Target Sample.ext Sample.host "target" 1000).eval
      (perform Sample.ext Sample.host) Sample.enrolledSite = (.ok r, s')
    ∧ r.remoteHead.authorSignatureAlg ≠ none
    ∧ ∀ payload signed checked seed, SyncAuth.authorPayload r.remoteHead = some payload →
      SyncAuth.syncSignaturePayload payload = .ok signed →
      SyncAuth.canonicalSyncAuthorPayloadV1 payload = .ok checked → signed ≠ checked →
      Sample.ext.verify (Sample.ext.verifyingKey seed) checked (Sample.ext.sign seed signed)
        = false
  := by
  obtain ⟨r, s', hrun, hpushes⟩ := exists_run_of_any Sample.enrolledSite_pushes
  have hfile : Vault.dbFile Sample.enrolledSite.vault
      = some { db := Sample.enrolledDb, key := none, layout := 0 } := by
    simp [Vault.dbFile_eq_some, Sample.enrolledSite, Sample.vault, Dir.ofFiles, Dir.get]
  rw [Bool.and_eq_true] at hpushes
  refine ⟨_, r, s', hfile, hrun, ?_⟩
  constructor
  · simpa [Option.isSome_iff_ne_none] using hpushes.1
  · intro payload signed checked seed hp hs hc hne
    have hsums := hpushes.2
    rw [hp, Option.any_some, hs, Except.toOption, Option.any_some, hc, Except.toOption,
      Option.any_some] at hsums
    exact Sample.verify_eq_false (of_decide_eq_true hsums)

/-- The enrolled device pushes a head that its own vault rejects. -/
theorem enrolled_device_signs_otherwise :
  ¬ SignsWhatIsChecked Sample.ext Sample.host "target" 1000 Sample.enrolledSite
  := by
  intro h
  obtain ⟨file, r, s', hf, hpush, hdeclared, hsecure⟩ := Sample.enrolledSite_push
  obtain ⟨hok, -⟩ := h file r s' hf hpush hdeclared
  obtain ⟨author, payload, text, signature, hsigned⟩ := syncPushS3Target_signs hf hpush
  obtain ⟨seed, checked, hc, hverify⟩ := hsigned.forges hdeclared hok
  have hfalse := hsecure payload text checked seed hsigned.named hsigned.written hc
    (SyncAuth.syncSignaturePayload_ne hsigned.written hc)
  rw [hverify] at hfalse
  cases hfalse

theorem declared_head_rejected_enrolledSite :
  ∃ file r, Vault.dbFile Sample.enrolledSite.vault = some file
    ∧ SyncAuth.verifySyncHeadAuthorSignatureV1 Sample.ext file.db (SyncPushResultV1.remoteHead r)
      ≠ .ok ()
  := by
  obtain ⟨file, r, s', hf, hpush, hdeclared, hsecure⟩ := Sample.enrolledSite_push
  use file, r, hf
  exact (declared_head_rejected Sample.ext Sample.host "target" 1000 Sample.enrolledSite s' file
    r hf hpush hdeclared hsecure).1

end Sync

end KnowledgeCore
