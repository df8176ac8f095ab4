import KnowledgeCore.Sync.Signing

/-!
# Pushing after a rotation

A rotation gives the new device a certificate but does not verify it, and the author of a push
is the device of the oldest verified certificate. So the author stays who it was. Where it is
the device that was replaced, whose key is gone from custody, heads fall back to the legacy
signature.
-/

namespace KnowledgeCore

namespace Trust

variable {ext : Externals} {db db' : Db} {nowMs : Int64}

/-! ### The author -/

/-- No certificate names the device. -/
def Uncertified (db : Db) (deviceId : String) : Prop :=
  ∀ (certId : String) (cert : DeviceCertificateRow),
    db.deviceCertificates[certId]? = some cert → cert.deviceId ≠ deviceId

/-- Nobody is certified for a device that is not in the registry. -/
theorem WellEnrolled.uncertified {deviceId : String} (h : WellEnrolled ext db)
    (hnew : db.trustedDevices[deviceId]? = none) :
  Uncertified db deviceId
  := by
  rintro certId cert hrow rfl
  obtain ⟨device, hdevice, -⟩ := h.certificate hrow
  rw [hnew] at hdevice
  cases hdevice

/-- A device that no certificate names does not matter to who signs. -/
theorem Uncertified.verifiedIdentities_insert {deviceId : String} {device : TrustedDeviceRow}
    (h : Uncertified db deviceId) :
  verifiedIdentities { db with trustedDevices := db.trustedDevices.insert deviceId device }
    = verifiedIdentities db
  := by
  apply List.filterMap_congr
  rintro ⟨certId, cert⟩ hmem
  have hrow : db.deviceCertificates[certId]? = some cert :=
    Std.ExtTreeMap.mem_toList_iff_getElem?_eq_some.mp hmem
  have hne := h certId cert hrow
  simp [Std.ExtTreeMap.getElem?_insert, Ne.symm hne]

/-- A certificate that has just been issued does not matter either: it is not verified. -/
theorem verifiedIdentities_enroll {certId providerId deviceId : String}
    {cert : DeviceCertificateRow}
    (hop : trustDeviceEnroll ext db certId providerId deviceId nowMs = .ok (cert, db')) :
  verifiedIdentities db' = verifiedIdentities db
  := by
  obtain ⟨_, -, hnew, hcert, rfl⟩ := trustDeviceEnroll_eq_ok hop
  apply Table.filterMap_insert hnew
  simp [hcert]

/-- A rotation leaves the verified identities as they are. -/
theorem WellEnrolled.verifiedIdentities_rotate {new : NewDevice}
    {oldDeviceId newDeviceLabel passphrase : String} {r : TrustDeviceSigningKeyRotateResult}
    (h : WellEnrolled ext db)
    (hop : trustDeviceSigningKeyRotate ext db new oldDeviceId newDeviceLabel passphrase nowMs
      = .ok (r, db')) :
  verifiedIdentities db' = verifiedIdentities db
  := by
  obtain ⟨_, db₁, db₂, db₃, db₄, h₁, h₂, h₃, h₄, h₅⟩ := trustDeviceSigningKeyRotate_eq_ok hop
  obtain ⟨hnew, -, hinit⟩ := trustDeviceInitWithSeed_eq_ok h₁
  obtain ⟨_, -, -, hverify⟩ := trustDeviceVerify_eq_ok h₂
  obtain ⟨_, -, -, hstore⟩ := SyncKeyCustody.storeSyncSigningSeed_eq_ok h₄
  obtain ⟨_, -, -, hretire⟩ := SyncKeyCustody.retireSyncSigningKey_eq_some h₅
  have hnobody : Uncertified db new.deviceId := h.uncertified hnew
  have hnobody₁ : Uncertified db₁ new.deviceId := by
    rw [hinit]
    apply hnobody
  calc
    verifiedIdentities db' = verifiedIdentities db₃ := by rw [hretire, hstore]; rfl
    _ = verifiedIdentities db₂ := verifiedIdentities_enroll h₃
    _ = verifiedIdentities db₁ := by rw [hverify, hnobody₁.verifiedIdentities_insert]
    _ = verifiedIdentities db := by rw [hinit, hnobody.verifiedIdentities_insert]

theorem earliest_mem {α : Type} {l : List (Int64 × α)} {e : Int64 × α}
    (h : earliest l = some e) :
  e ∈ l
  := by
  induction l with
  | nil => cases h
  | cons e' rest ih =>
    rw [earliest] at h
    split at h
    · cases h
      apply List.mem_cons_self
    · next e'' hrest =>
      split at h
      · cases h
        apply List.mem_cons_of_mem _ (ih hrest)
      · cases h
        apply List.mem_cons_self

/-- The author has a certificate. -/
theorem not_uncertified_author {author : AuthorIdentity}
    (h : verifiedAuthorIdentity db = .ok author) :
  ¬ Uncertified db author.deviceId
  := by
  rw [verifiedAuthorIdentity] at h
  split at h
  · next time author' he =>
    cases h
    obtain ⟨⟨certId, cert⟩, hmem, hidentity⟩ := List.mem_filterMap.mp (earliest_mem he)
    simp only [Option.bind_eq_bind, Option.bind_eq_some_iff] at hidentity
    obtain ⟨_, -, _, -, _, -, hidentity⟩ := hidentity
    cases hidentity
    intro hnobody
    exact hnobody certId cert (Std.ExtTreeMap.mem_toList_iff_getElem?_eq_some.mp hmem) rfl
  · cases h

/-- The device that was replaced has no key in custody any more. -/
theorem activeRow_rotate {new : NewDevice} {oldDeviceId newDeviceLabel passphrase : String}
    {r : TrustDeviceSigningKeyRotateResult}
    (hop : trustDeviceSigningKeyRotate ext db new oldDeviceId newDeviceLabel passphrase nowMs
      = .ok (r, db')) :
  SyncKeyCustody.activeRow db' oldDeviceId = none
  := by
  obtain ⟨_, _, _, _, _, -, -, -, -, h₅⟩ := trustDeviceSigningKeyRotate_eq_ok hop
  obtain ⟨_, -, hretired, rfl⟩ := SyncKeyCustody.retireSyncSigningKey_eq_some h₅
  simp [SyncKeyCustody.activeRow, hretired]

end Trust

namespace SyncAuth

variable {ext : Externals} {host : Host} {db : Db}

theorem localSyncAuthor_eq_ok {author : Trust.AuthorIdentity} :
  localSyncAuthor db = .ok author ↔ Trust.verifiedAuthorIdentity db = .ok author
  := mapErr_eq_ok

/-- Without a key, in custody or in the environment, what is signed has the legacy
signature. -/
theorem signSyncPayload_legacy {deviceId payload : String} {signature : SyncPayloadSignature}
    (hkey : SyncKeyCustody.activeRow db deviceId = none)
    (henv : host.env "KC_SYNC_AUTHOR_SIGNING_KEY_HEX" = none)
    (h : signSyncPayload ext host db deviceId payload = .ok signature) :
  signature = { signature := legacySyncSignature ext payload, signatureAlg := none }
  := by
  simp only [signSyncPayload, SyncKeyCustody.loadSyncSigningKey, hkey, henv, bind,
    Except.bind] at h
  cases h
  rfl

end SyncAuth

namespace Sync

variable {ext : Externals} {host : Host} {s : Site} {target : String} {nowMs : Int64}

/-! ### The next push -/

/-- A push writes a head that the device has authored and declared. -/
def PushesAs (ext : Externals) (host : Host) (target : String) (nowMs : Int64) (s : Site)
    (deviceId : String) : Prop :=
  ∃ r s', (syncPushS3Target ext host target nowMs).eval (perform ext host) s = (.ok r, s')
    ∧ r.remoteHead.authorDeviceId = some deviceId
    ∧ r.remoteHead.authorSignatureAlg = some SYNC_AUTHOR_SIGNATURE_ALG_ED25519_V1

/-- A head carries the legacy signature of what it says. -/
def LegacySigned (ext : Externals) (head : SyncHeadV1) : Prop :=
  head.authorSignatureAlg = none ∧ ∃ payload text, SyncAuth.authorPayload head = some payload
    ∧ SyncAuth.syncSignaturePayload payload = .ok text
    ∧ head.authorSignature = some (SyncAuth.legacySyncSignature ext text)

theorem SignedAs.authorDeviceId {db : Db} {head : SyncHeadV1} {author : Trust.AuthorIdentity}
    {payload : SyncAuth.SyncAuthorPayloadV1} {text : String}
    {signature : SyncAuth.SyncPayloadSignature}
    (h : SignedAs ext host db head author payload text signature) :
  head.authorDeviceId = some author.deviceId
  := by
  have hp := h.named
  simp only [SyncAuth.authorPayload, Option.bind_eq_bind, Option.bind_eq_some_iff] at hp
  obtain ⟨deviceId, hd, _, -, _, -, _, -, hp⟩ := hp
  cases hp
  have hdevice : deviceId = author.deviceId := h.device
  rw [hd, hdevice]

/-- After a rotation a push never writes a head of the new device. It is authored by the device
it was authored by before; where this is the one that has been replaced, its head has the legacy
signature, unless there is a key in the environment. -/
theorem rotation_leaves_author (ext : Externals) (host : Host) (db db' : Db)
    (new : Trust.NewDevice) (oldDeviceId newDeviceLabel passphrase : String)
    (rotatedAtMs : Int64) (result : Trust.TrustDeviceSigningKeyRotateResult)
    (hdb : Trust.Reachable ext db)
    (hrotate : Trust.trustDeviceSigningKeyRotate ext db new oldDeviceId newDeviceLabel
      passphrase rotatedAtMs = .ok (result, db'))
    (s : Site) (file : SqliteFile) (hf : Vault.dbFile s.vault = some file)
    (hfile : file.db = db') (target : String) (nowMs : Int64) :
  ¬ PushesAs ext host target nowMs s new.deviceId
    ∧ ∀ r s',
      (syncPushS3Target ext host target nowMs).eval (perform ext host) s = (.ok r, s') →
      ∃ author, Trust.verifiedAuthorIdentity db = .ok author
        ∧ r.remoteHead.authorDeviceId = some author.deviceId
        ∧ (author.deviceId = oldDeviceId →
          host.env "KC_SYNC_AUTHOR_SIGNING_KEY_HEX" = none → LegacySigned ext r.remoteHead)
  := by
  have hauthor (r : SyncPushResultV1) (s' : Site)
      (hpush : (syncPushS3Target ext host target nowMs).eval (perform ext host) s = (.ok r, s')) :
      ∃ author payload text signature,
        SignedAs ext host db' r.remoteHead author payload text signature
          ∧ Trust.verifiedAuthorIdentity db = .ok author := by
    obtain ⟨author, payload, text, signature, hsigned⟩ := syncPushS3Target_signs hf hpush
    rw [hfile] at hsigned
    have hlocal := SyncAuth.localSyncAuthor_eq_ok.mp hsigned.enrolled
    rw [Trust.verifiedAuthorIdentity, hdb.wellEnrolled.verifiedIdentities_rotate hrotate]
      at hlocal
    use author, payload, text, signature, hsigned, hlocal
  constructor
  · rintro ⟨r, s', hpush, hdevice, -⟩
    obtain ⟨author, payload, text, signature, hsigned, hbefore⟩ := hauthor r s' hpush
    have hsame : author.deviceId = new.deviceId := by
      simpa [hsigned.authorDeviceId] using hdevice
    obtain ⟨_, _, _, _, _, hinit, -⟩ := Trust.trustDeviceSigningKeyRotate_eq_ok hrotate
    obtain ⟨hnew, -⟩ := Trust.trustDeviceInitWithSeed_eq_ok hinit
    apply Trust.not_uncertified_author hbefore
    rw [hsame]
    apply hdb.wellEnrolled.uncertified hnew
  · intro r s' hpush
    obtain ⟨author, payload, text, signature, hsigned, hbefore⟩ := hauthor r s' hpush
    use author, hbefore, hsigned.authorDeviceId
    intro hold henv
    have hkey : SyncKeyCustody.activeRow db' author.deviceId = none := by
      rw [hold]
      apply Trust.activeRow_rotate hrotate
    have hlegacy := SyncAuth.signSyncPayload_legacy hkey henv hsigned.signed
    rw [LegacySigned, hsigned.declared, hsigned.carried, hlegacy]
    exact ⟨rfl, payload, text, hsigned.named, hsigned.written, rfl⟩

/-- Algorithms under which different keys have different fingerprints. -/
def Sample.keyedExt : Externals where
  __ := Sample.ext
  sha256 bytes := Sample.spread (bytes.foldl (fun sum b => sum + b.toNat) 0)

def Sample.keyedDb : Db :=
  Sample.enrolment.foldl (Trust.Act.after Sample.keyedExt) Sample.db

theorem Sample.keyedDb_reachable :
  Trust.Reachable Sample.keyedExt Sample.keyedDb
  := ⟨Sample.db, Sample.enrolment, ⟨rfl, rfl, rfl⟩, rfl⟩

/-- What the enrolled device is replaced by. -/
def Sample.newDevice : Trust.NewDevice where
  deviceId := "replacement"
  certId := "cert-b"
  seed := Vector.replicate 32 2
  nonce := Vector.replicate 24 0

def Sample.rotation : AppResult (Trust.TrustDeviceSigningKeyRotateResult × Db) :=
  Trust.trustDeviceSigningKeyRotate Sample.keyedExt Sample.keyedDb Sample.newDevice "device"
    "replacement" "secret" 5

/-- The vault after the rotation. -/
def Sample.rotatedSite : Site where
  vault := Sample.vault ((Sample.rotation.toOption.map Prod.snd).getD Sample.db) []
  target := Sample.noTarget
  bucket := ∅

/-- The rotation goes through, and so does the next push. -/
theorem Sample.rotatedSite_push :
  ∃ result db' file r s', Sample.rotation = .ok (result, db')
    ∧ Vault.dbFile Sample.rotatedSite.vault = some file ∧ file.db = db'
    ∧ (syncPushS3Target Sample.keyedExt Sample.host "target" 1000).eval
      (perform Sample.keyedExt Sample.host) Sample.rotatedSite = (.ok r, s')
    ∧ r.remoteHead.authorDeviceId = some "device" ∧ r.remoteHead.authorSignatureAlg = none
  := by
  obtain ⟨hrotation, hpush⟩ : Sample.rotation.isOk = true
      ∧ ((syncPushS3Target Sample.keyedExt Sample.host "target" 1000).eval
        (perform Sample.keyedExt Sample.host) Sample.rotatedSite).1.toOption.any (fun r =>
          r.remoteHead.authorDeviceId = some "device"
            && r.remoteHead.authorSignatureAlg.isNone) = true := by
    decide +kernel
  obtain ⟨⟨result, db'⟩, hrotation⟩ := exists_of_isOk hrotation
  obtain ⟨r, s', hrun, hauthor⟩ := exists_run_of_any hpush
  have hvault : Sample.rotatedSite.vault = Sample.vault db' [] := by
    rw [Sample.rotatedSite, hrotation]
    rfl
  use result, db', { db := db', key := none, layout := 0 }, r, s', hrotation
  rw [hvault]
  use Sample.dbFile_vault db', rfl, hrun
  simpa using hauthor

/-- After the rotation the next push names the device that has been replaced, and declares no
signature. -/
theorem rotation_keeps_old_author :
  Trust.Reachable Sample.keyedExt Sample.keyedDb ∧ Sample.rotation.isOk = true
    ∧ ¬ PushesAs Sample.keyedExt Sample.host "target" 1000 Sample.rotatedSite
      Sample.newDevice.deviceId
    ∧ ∃ r s', (syncPushS3Target Sample.keyedExt Sample.host "target" 1000).eval
        (perform Sample.keyedExt Sample.host) Sample.rotatedSite = (.ok r, s')
      ∧ r.remoteHead.authorDeviceId = some "device" ∧ r.remoteHead.authorSignatureAlg = none
  := by
  obtain ⟨result, db', file, r, s', hrotation, -, -, hpush, hdevice, halg⟩ :=
    Sample.rotatedSite_push
  refine ⟨Sample.keyedDb_reachable, by rw [hrotation]; rfl, ?_, r, s', hpush, hdevice, halg⟩
  rintro ⟨r', s'', hpush', hdevice', -⟩
  rw [hpush] at hpush'
  cases hpush'
  rw [hdevice] at hdevice'
  exact absurd (Option.some.inj hdevice') (by decide)

theorem rotation_leaves_author_replacement :
  ¬ PushesAs Sample.keyedExt Sample.host "target" 1000 Sample.rotatedSite
      Sample.newDevice.deviceId
  := by
  obtain ⟨result, db', file, r, s', hrotation, hf, hfile, -⟩ := Sample.rotatedSite_push
  exact (rotation_leaves_author Sample.keyedExt Sample.host Sample.keyedDb db' Sample.newDevice
    "device" "replacement" "secret" 5 result Sample.keyedDb_reachable hrotation
    Sample.rotatedSite file hf hfile "target" 1000).1

end Sync

end KnowledgeCore
