import KnowledgeCore.Enrolment

/-!
# The registry over its history

What every registry satisfies that has come about by enrolling devices: the fingerprint of a
device is that of its key, the chain hash of a certificate is the one its device calls for, and
a key in custody is the key of its device.
-/

namespace KnowledgeCore

namespace Trust

variable {ext : Externals} {db db' : Db} {nowMs : Int64}

/-! ### What the operations do -/

theorem trustDeviceInitWithSeed_eq_ok {deviceId deviceLabel : String} {seed : Vector UInt8 32}
    {device : TrustedDeviceRow}
    (h : trustDeviceInitWithSeed ext db deviceId deviceLabel seed = .ok (device, db')) :
  db.trustedDevices[deviceId]? = none
    ∧ device = {
        pubkey := Hex.bytesToHex (ext.verifyingKey seed).toList
        fingerprint := formatDeviceFingerprint ext (ext.verifyingKey seed).toList
        verifiedAtMs := none }
    ∧ db' = { db with trustedDevices := db.trustedDevices.insert deviceId device }
  := by
  rw [trustDeviceInitWithSeed] at h
  split at h
  · cases h
  · next hno =>
    split at h
    · cases h
    · cases h
      refine ⟨?_, rfl, rfl⟩
      apply Std.ExtTreeMap.getElem?_eq_none
      exact hno

theorem trustDeviceVerify_eq_ok {deviceId fingerprint : String} {device : TrustedDeviceRow}
    (h : trustDeviceVerify db deviceId fingerprint nowMs = .ok (device, db')) :
  ∃ existing, db.trustedDevices[deviceId]? = some existing
    ∧ device = { existing with verifiedAtMs := some nowMs }
    ∧ db' = { db with trustedDevices := db.trustedDevices.insert deviceId device }
  := by
  rw [trustDeviceVerify, loadDevice] at h
  split at h
  · cases h
  · next existing hrow =>
    split at h
    · cases h
    · cases h
      use existing

theorem deviceFingerprint_eq_ok {deviceId fingerprint : String}
    (h : deviceFingerprint db deviceId = .ok fingerprint) :
  ∃ device, db.trustedDevices[deviceId]? = some device ∧ device.fingerprint = fingerprint
  := by
  rw [deviceFingerprint, okOrElse_eq_ok] at h
  obtain ⟨device, hrow, rfl⟩ := Option.map_eq_some_iff.mp h
  use device, (Option.filter_eq_some_iff.mp hrow).1

theorem trustDeviceEnroll_eq_ok {certId providerId deviceId : String}
    {cert : DeviceCertificateRow}
    (h : trustDeviceEnroll ext db certId providerId deviceId nowMs = .ok (cert, db')) :
  ∃ device, db.trustedDevices[deviceId]? = some device
    ∧ db.deviceCertificates[certId]? = none
    ∧ cert = {
        deviceId
        certChainHash := expectedCertChainHash ext certId deviceId device.fingerprint
        verifiedAtMs := none
        createdAtMs := nowMs }
    ∧ db' = { db with deviceCertificates := db.deviceCertificates.insert certId cert }
  := by
  simp only [trustDeviceEnroll, AppResult.bind_eq_ok] at h
  obtain ⟨fingerprint, hf, _, -, h⟩ := h
  obtain ⟨device, hrow, rfl⟩ := deviceFingerprint_eq_ok hf
  split at h
  · cases h
  · next hno =>
    cases h
    use device, hrow
    constructor
    · apply Std.ExtTreeMap.getElem?_eq_none
      exact hno
    · exact ⟨rfl, rfl⟩

theorem latest_mem {α : Type} {l : List (Int64 × α)} {e : Int64 × α} (h : latest l = some e) :
  e ∈ l
  := by
  induction l with
  | nil => cases h
  | cons e' rest ih =>
    rw [latest] at h
    split at h
    · cases h
      apply List.mem_cons_self
    · next e'' hrest =>
      split at h
      · cases h
        apply List.mem_cons_self
      · cases h
        apply List.mem_cons_of_mem _ (ih hrest)

theorem latestDeviceCertificate_eq_some {deviceId certId : String} {cert : DeviceCertificateRow}
    (h : latestDeviceCertificate db deviceId = some (certId, cert)) :
  db.deviceCertificates[certId]? = some cert ∧ cert.deviceId = deviceId
  := by
  obtain ⟨⟨time, _⟩, hl, rfl⟩ := Option.map_eq_some_iff.mp h
  obtain ⟨entry, hmem, he⟩ := List.mem_filterMap.mp (latest_mem hl)
  split at he
  · next hd =>
    cases he
    exact ⟨Std.ExtTreeMap.mem_toList_iff_getElem?_eq_some.mp hmem, hd⟩
  · cases he

theorem trustDeviceVerifyChain_eq_ok {deviceId : String} {cert : DeviceCertificateRow}
    (h : trustDeviceVerifyChain ext db deviceId nowMs = .ok (cert, db')) :
  ∃ certId certificate, db.deviceCertificates[certId]? = some certificate
    ∧ cert = { certificate with verifiedAtMs := some nowMs }
    ∧ db' = { db with deviceCertificates := db.deviceCertificates.insert certId cert }
  := by
  simp only [trustDeviceVerifyChain, AppResult.bind_eq_ok, okOrElse_eq_ok] at h
  obtain ⟨⟨certId, certificate⟩, hc, fingerprint, -, h⟩ := h
  obtain ⟨hrow, -⟩ := latestDeviceCertificate_eq_some hc
  split at h
  · cases h
  · cases h
    use certId, certificate

end Trust

namespace SyncKeyCustody

variable {ext : Externals} {db db' : Db} {nowMs : Int64}

theorem storeSyncSigningSeed_eq_ok {deviceId passphrase : String} {seed : Vector UInt8 32}
    {nonce : Vector UInt8 24} {row : SyncSigningKeyRow}
    (h : storeSyncSigningSeed ext db deviceId seed passphrase nonce = .ok (row, db')) :
  ∃ device, db.trustedDevices[deviceId]? = some device
    ∧ row.publicKey = device.pubkey
    ∧ db' = { db with syncSigningKeys := db.syncSigningKeys.insert deviceId row }
  := by
  simp only [storeSyncSigningSeed, AppResult.bind_eq_ok] at h
  obtain ⟨trusted, ht, h⟩ := h
  have hdevice : ∃ device, db.trustedDevices[deviceId]? = some device
      ∧ device.pubkey = trusted := by
    rw [Trust.trustedDevicePublicKey, Trust.loadDevice] at ht
    split at ht
    · cases ht
    · next device hrow =>
      split at ht
      · cases ht
      · cases ht
        use device
  obtain ⟨device, hrow, rfl⟩ := hdevice
  split at h
  · cases h
  · next hkey =>
    split at h
    · cases h
    · simp only [AppResult.bind_eq_ok] at h
      obtain ⟨_, -, _, -, h⟩ := h
      split at h
      · cases h
      · cases h
        push Not at hkey
        use device, hrow, hkey.symm

theorem retireSyncSigningKey_eq_some {deviceId : String} {row : SyncSigningKeyRow}
    (h : retireSyncSigningKey db deviceId nowMs = some (row, db')) :
  ∃ active, db.syncSigningKeys[deviceId]? = some active
    ∧ row = { active with deletedAtMs := some nowMs }
    ∧ db' = { db with syncSigningKeys := db.syncSigningKeys.insert deviceId row }
  := by
  obtain ⟨active, hrow, he⟩ := Option.map_eq_some_iff.mp h
  cases he
  use active, (Option.filter_eq_some_iff.mp hrow).1

theorem retire_of_deleteSyncSigningKey {deviceId : String} {existing : SyncSigningKeyRow}
    (h : deleteSyncSigningKey db deviceId nowMs = some (existing, db')) :
  ∃ row, retireSyncSigningKey db deviceId nowMs = some (row, db')
  := by
  obtain ⟨_, -, h⟩ := Option.bind_eq_some_iff.mp h
  obtain ⟨⟨row, after⟩, hretire, h⟩ := Option.bind_eq_some_iff.mp h
  cases h
  use row

end SyncKeyCustody

namespace Trust

variable {ext : Externals} {db db' : Db} {nowMs : Int64}

/-- A rotation does what its steps do one after the other. -/
theorem trustDeviceSigningKeyRotate_eq_ok {new : NewDevice}
    {oldDeviceId newDeviceLabel passphrase : String} {r : TrustDeviceSigningKeyRotateResult}
    (h : trustDeviceSigningKeyRotate ext db new oldDeviceId newDeviceLabel passphrase nowMs
      = .ok (r, db')) :
  ∃ created db₁ db₂ db₃ db₄,
    trustDeviceInitWithSeed ext db new.deviceId newDeviceLabel new.seed = .ok (created, db₁)
    ∧ trustDeviceVerify db₁ new.deviceId created.fingerprint (nowMs + 1) = .ok (r.device, db₂)
    ∧ trustDeviceEnroll ext db₂ new.certId "default" new.deviceId (nowMs + 2)
      = .ok (r.certificate, db₃)
    ∧ SyncKeyCustody.storeSyncSigningSeed ext db₃ new.deviceId new.seed passphrase new.nonce
      = .ok (r.signingKey, db₄)
    ∧ SyncKeyCustody.rotateSyncSigningKey db₄ oldDeviceId (nowMs + 4)
      = some (r.oldSigningKey, db')
  := by
  simp only [trustDeviceSigningKeyRotate, AppResult.bind_eq_ok] at h
  obtain ⟨_, -, h⟩ := h
  split at h
  · cases h
  · simp only [AppResult.bind_eq_ok, okOrElse_eq_ok] at h
    obtain ⟨⟨created, db₁⟩, h₁, ⟨verified, db₂⟩, h₂, ⟨cert, db₃⟩, h₃, ⟨key, db₄⟩, h₄, ⟨old, db₅⟩,
      h₅, h⟩ := h
    cases h
    exact ⟨created, db₁, db₂, db₃, db₄, h₁, h₂, h₃, h₄, h₅⟩

/-! ### The invariant -/

/-- What the rows of a registry that has come about by enrolment satisfy. -/
structure WellEnrolled (ext : Externals) (db : Db) : Prop where
  device : ∀ {deviceId : String} {device : TrustedDeviceRow},
    db.trustedDevices[deviceId]? = some device →
    ∃ seed, device.pubkey = Hex.bytesToHex (ext.verifyingKey seed).toList
      ∧ device.fingerprint = formatDeviceFingerprint ext (ext.verifyingKey seed).toList
  certificate : ∀ {certId : String} {cert : DeviceCertificateRow},
    db.deviceCertificates[certId]? = some cert →
    ∃ device, db.trustedDevices[cert.deviceId]? = some device
      ∧ cert.certChainHash = expectedCertChainHash ext certId cert.deviceId device.fingerprint
  custody : ∀ {deviceId : String} {row : SyncSigningKeyRow},
    db.syncSigningKeys[deviceId]? = some row →
    ∃ device, db.trustedDevices[deviceId]? = some device ∧ row.publicKey = device.pubkey

/-- A table in which one row has been written has this row and the other ones it had. -/
theorem getElem_insert_eq_some {α : Type} {t : Table α} {key key' : String} {a b : α} :
  (t.insert key a)[key']? = some b
    ↔ (key = key' ∧ a = b) ∨ (key ≠ key' ∧ t[key']? = some b)
  := by
  rw [Std.ExtTreeMap.getElem?_insert]
  by_cases h : key = key'
  · simp [h]
  · simp [h]

/-- Rows for devices whose key and fingerprint are as they were, or new ones, keep the
invariant. -/
theorem WellEnrolled.insert_device {deviceId : String} {device : TrustedDeviceRow}
    (h : WellEnrolled ext db)
    (hkey : ∃ seed, device.pubkey = Hex.bytesToHex (ext.verifyingKey seed).toList
      ∧ device.fingerprint = formatDeviceFingerprint ext (ext.verifyingKey seed).toList)
    (hsame : ∀ existing, db.trustedDevices[deviceId]? = some existing →
      device.pubkey = existing.pubkey ∧ device.fingerprint = existing.fingerprint) :
  WellEnrolled ext { db with trustedDevices := db.trustedDevices.insert deviceId device }
  := by
  have hkept {id : String} {old : TrustedDeviceRow} (hrow : db.trustedDevices[id]? = some old) :
      ∃ d, (db.trustedDevices.insert deviceId device)[id]? = some d
        ∧ d.pubkey = old.pubkey ∧ d.fingerprint = old.fingerprint := by
    by_cases hid : deviceId = id
    · subst hid
      use device, getElem_insert_eq_some.mpr (.inl ⟨rfl, rfl⟩)
      apply hsame old hrow
    · use old, getElem_insert_eq_some.mpr (.inr ⟨hid, hrow⟩)
  constructor
  · intro id d hd
    rcases getElem_insert_eq_some.mp hd with ⟨-, rfl⟩ | ⟨-, hrow⟩
    · exact hkey
    · apply h.device hrow
  · intro certId cert hc
    obtain ⟨old, hrow, hhash⟩ := h.certificate hc
    obtain ⟨d, hd, -, hf⟩ := hkept hrow
    use d, hd
    rw [hf, hhash]
  · intro id row hr
    obtain ⟨old, hrow, hpub⟩ := h.custody hr
    obtain ⟨d, hd, hp, -⟩ := hkept hrow
    use d, hd
    rw [hp, hpub]

theorem WellEnrolled.insert_certificate {certId : String} {cert : DeviceCertificateRow}
    (h : WellEnrolled ext db)
    (hcert : ∃ device, db.trustedDevices[cert.deviceId]? = some device
      ∧ cert.certChainHash = expectedCertChainHash ext certId cert.deviceId device.fingerprint) :
  WellEnrolled ext { db with deviceCertificates := db.deviceCertificates.insert certId cert }
  where
  device := h.device
  certificate := by
    intro id c hc
    rcases getElem_insert_eq_some.mp hc with ⟨rfl, rfl⟩ | ⟨-, hrow⟩
    · exact hcert
    · apply h.certificate hrow
  custody := h.custody

theorem WellEnrolled.insert_key {deviceId : String} {row : SyncSigningKeyRow}
    (h : WellEnrolled ext db)
    (hrow : ∃ device, db.trustedDevices[deviceId]? = some device
      ∧ row.publicKey = device.pubkey) :
  WellEnrolled ext { db with syncSigningKeys := db.syncSigningKeys.insert deviceId row }
  where
  device := h.device
  certificate := h.certificate
  custody := by
    intro id r hr
    rcases getElem_insert_eq_some.mp hr with ⟨rfl, rfl⟩ | ⟨-, hr⟩
    · exact hrow
    · apply h.custody hr

/-! ### Each operation keeps it -/

theorem WellEnrolled.init {deviceId deviceLabel : String} {seed : Vector UInt8 32}
    {device : TrustedDeviceRow} (h : WellEnrolled ext db)
    (hop : trustDeviceInitWithSeed ext db deviceId deviceLabel seed = .ok (device, db')) :
  WellEnrolled ext db'
  := by
  obtain ⟨hnone, hdevice, rfl⟩ := trustDeviceInitWithSeed_eq_ok hop
  apply h.insert_device
  · use seed
    rw [hdevice]
    exact ⟨rfl, rfl⟩
  · intro existing hrow
    rw [hnone] at hrow
    cases hrow

theorem WellEnrolled.verify {deviceId fingerprint : String} {device : TrustedDeviceRow}
    (h : WellEnrolled ext db)
    (hop : trustDeviceVerify db deviceId fingerprint nowMs = .ok (device, db')) :
  WellEnrolled ext db'
  := by
  obtain ⟨existing, hrow, hdevice, rfl⟩ := trustDeviceVerify_eq_ok hop
  apply h.insert_device
  · rw [hdevice]
    apply h.device hrow
  · intro other hother
    obtain rfl : existing = other := by simpa [hrow] using hother
    rw [hdevice]
    exact ⟨rfl, rfl⟩

theorem WellEnrolled.enroll {certId providerId deviceId : String} {cert : DeviceCertificateRow}
    (h : WellEnrolled ext db)
    (hop : trustDeviceEnroll ext db certId providerId deviceId nowMs = .ok (cert, db')) :
  WellEnrolled ext db'
  := by
  obtain ⟨device, hrow, -, hcert, rfl⟩ := trustDeviceEnroll_eq_ok hop
  apply h.insert_certificate
  use device
  rw [hcert]
  exact ⟨hrow, rfl⟩

theorem WellEnrolled.verifyChain {deviceId : String} {cert : DeviceCertificateRow}
    (h : WellEnrolled ext db)
    (hop : trustDeviceVerifyChain ext db deviceId nowMs = .ok (cert, db')) :
  WellEnrolled ext db'
  := by
  obtain ⟨certId, certificate, hrow, hcert, rfl⟩ := trustDeviceVerifyChain_eq_ok hop
  apply h.insert_certificate
  rw [hcert]
  apply h.certificate hrow

theorem WellEnrolled.store {deviceId passphrase : String} {seed : Vector UInt8 32}
    {nonce : Vector UInt8 24} {row : SyncSigningKeyRow} (h : WellEnrolled ext db)
    (hop : SyncKeyCustody.storeSyncSigningSeed ext db deviceId seed passphrase nonce
      = .ok (row, db')) :
  WellEnrolled ext db'
  := by
  obtain ⟨device, hrow, hpub, rfl⟩ := SyncKeyCustody.storeSyncSigningSeed_eq_ok hop
  apply h.insert_key
  use device

theorem WellEnrolled.retire {deviceId : String} {row : SyncSigningKeyRow}
    (h : WellEnrolled ext db)
    (hop : SyncKeyCustody.retireSyncSigningKey db deviceId nowMs = some (row, db')) :
  WellEnrolled ext db'
  := by
  obtain ⟨active, hrow, hretired, rfl⟩ := SyncKeyCustody.retireSyncSigningKey_eq_some hop
  apply h.insert_key
  rw [hretired]
  apply h.custody hrow

theorem WellEnrolled.rotate {new : NewDevice} {oldDeviceId newDeviceLabel passphrase : String}
    {r : TrustDeviceSigningKeyRotateResult} (h : WellEnrolled ext db)
    (hop : trustDeviceSigningKeyRotate ext db new oldDeviceId newDeviceLabel passphrase nowMs
      = .ok (r, db')) :
  WellEnrolled ext db'
  := by
  obtain ⟨_, _, _, _, _, h₁, h₂, h₃, h₄, h₅⟩ := trustDeviceSigningKeyRotate_eq_ok hop
  exact ((((h.init h₁).verify h₂).enroll h₃).store h₄).retire h₅

/-! ### Histories -/

/-- What can happen to a registry. The providers and sessions of identities are kept
elsewhere, and may become any. -/
inductive Act
  | init (deviceId deviceLabel : String) (seed : Vector UInt8 32)
  | verify (deviceId fingerprint : String) (nowMs : Int64)
  | enroll (certId providerId deviceId : String) (nowMs : Int64)
  | verifyChain (deviceId : String) (nowMs : Int64)
  | store (deviceId : String) (seed : Vector UInt8 32) (passphrase : String)
      (nonce : Vector UInt8 24)
  | delete (deviceId : String) (nowMs : Int64)
  | rotate (new : NewDevice) (oldDeviceId newDeviceLabel passphrase : String) (nowMs : Int64)
  | identities (providers : Table TrustProviderRow) (sessions : Table IdentitySessionRow)
      (revocations : Table Unit)

/-- The database after an act that goes through. -/
def Act.run (ext : Externals) (db : Db) : Act → AppResult Db
  | init deviceId deviceLabel seed => do
    let (_, db') ← trustDeviceInitWithSeed ext db deviceId deviceLabel seed
    .ok db'
  | verify deviceId fingerprint nowMs => do
    let (_, db') ← trustDeviceVerify db deviceId fingerprint nowMs
    .ok db'
  | enroll certId providerId deviceId nowMs => do
    let (_, db') ← trustDeviceEnroll ext db certId providerId deviceId nowMs
    .ok db'
  | verifyChain deviceId nowMs => do
    let (_, db') ← trustDeviceVerifyChain ext db deviceId nowMs
    .ok db'
  | store deviceId seed passphrase nonce => do
    let (_, db') ← SyncKeyCustody.storeSyncSigningSeed ext db deviceId seed passphrase nonce
    .ok db'
  | delete deviceId nowMs =>
    match SyncKeyCustody.deleteSyncSigningKey db deviceId nowMs with
    | some (_, db') => .ok db'
    | none => .ok db
  | rotate new oldDeviceId newDeviceLabel passphrase nowMs => do
    let (_, db') ←
      trustDeviceSigningKeyRotate ext db new oldDeviceId newDeviceLabel passphrase nowMs
    .ok db'
  | identities providers sessions revocations =>
    .ok { db with
      trustProviders := providers
      identitySessions := sessions
      trustSessionRevocations := revocations }

/-- The database after an act. One that fails leaves it as it is. -/
def Act.after (ext : Externals) (db : Db) (act : Act) : Db :=
  match act.run ext db with
  | .ok db' => db'
  | .error _ => db

/-- A registry without devices. -/
structure Unenrolled (db : Db) : Prop where
  devices : db.trustedDevices = ∅
  certificates : db.deviceCertificates = ∅
  keys : db.syncSigningKeys = ∅

/-- A database whose registry has come about by enrolment. -/
def Reachable (ext : Externals) (db : Db) : Prop :=
  ∃ (db₀ : Db) (acts : List Act), Unenrolled db₀ ∧ db = acts.foldl (Act.after ext) db₀

theorem Unenrolled.wellEnrolled (h : Unenrolled db) :
  WellEnrolled ext db
  where
  device := by
    intro id device hrow
    simp [h.devices] at hrow
  certificate := by
    intro id cert hrow
    simp [h.certificates] at hrow
  custody := by
    intro id row hrow
    simp [h.keys] at hrow

theorem WellEnrolled.run (h : WellEnrolled ext db) {act : Act}
    (hact : act.run ext db = .ok db') :
  WellEnrolled ext db'
  := by
  cases act with
  | delete deviceId nowMs =>
    rw [Act.run] at hact
    split at hact
    · next hd =>
      cases hact
      obtain ⟨row, hretire⟩ := SyncKeyCustody.retire_of_deleteSyncSigningKey hd
      apply h.retire hretire
    · cases hact
      apply h
  | identities providers sessions revocations =>
    cases hact
    exact ⟨h.device, h.certificate, h.custody⟩
  | _ =>
    simp only [Act.run, AppResult.bind_eq_ok] at hact
    obtain ⟨_, hop, hact⟩ := hact
    cases hact
    first
      | apply h.init hop
      | apply h.verify hop
      | apply h.enroll hop
      | apply h.verifyChain hop
      | apply h.store hop
      | apply h.rotate hop

theorem WellEnrolled.after (h : WellEnrolled ext db) (act : Act) :
  WellEnrolled ext (act.after ext db)
  := by
  rw [Act.after]
  split
  · next hact => apply h.run hact
  · apply h

/-- Every history of enrolments leads to a registry that satisfies the invariant. -/
theorem Reachable.wellEnrolled (h : Reachable ext db) :
  WellEnrolled ext db
  := by
  obtain ⟨db₀, acts, h₀, rfl⟩ := h
  have hrun (d : Db) (hd : WellEnrolled ext d) :
      WellEnrolled ext (acts.foldl (Act.after ext) d) := by
    induction acts generalizing d with
    | nil => apply hd
    | cons act acts ih => apply ih _ (hd.after act)
  apply hrun db₀ h₀.wellEnrolled

end Trust

end KnowledgeCore
