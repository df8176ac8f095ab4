import KnowledgeCore.Registry
import KnowledgeCore.Vault

/-!
# Custody after deletion

A signing key that is deleted or rotated leaves its row in custody, as a retired one. The row is
still in the way of another key of the same device, so that a device stores a key only once.
-/

namespace KnowledgeCore

namespace SyncKeyCustody

variable {ext : Externals} {db : Db} {deviceId passphrase : String} {seed : Vector UInt8 32}
  {nonce : Vector UInt8 24}

/-! ### Calls -/

/-- The calls that change the custody of keys. -/
inductive CustodyCall
  | store (deviceId : String) (seed : Vector UInt8 32) (passphrase : String)
      (nonce : Vector UInt8 24)
  | delete (deviceId : String) (nowMs : Int64)
  | rotate (deviceId : String) (nowMs : Int64)

/-- The database after a call. One that fails leaves it as it is. -/
def CustodyCall.after (ext : Externals) (db : Db) : CustodyCall → Db
  | .store deviceId seed passphrase nonce =>
    match storeSyncSigningSeed ext db deviceId seed passphrase nonce with
    | .ok (_, db') => db'
    | .error _ => db
  | .delete deviceId nowMs =>
    match deleteSyncSigningKey db deviceId nowMs with
    | some (_, db') => db'
    | none => db
  | .rotate deviceId nowMs =>
    match rotateSyncSigningKey db deviceId nowMs with
    | some (_, db') => db'
    | none => db

/-- The device a call takes the key of out of custody. -/
def CustodyCall.retires : CustodyCall → Option String
  | .store _ _ _ _ => none
  | .delete deviceId _ => some deviceId
  | .rotate deviceId _ => some deviceId

/-- What a call does to the database: nothing, or it adds a row for a device that has none, or it
retires the active row of a device. -/
inductive CustodyCall.Does (db : Db) (call : CustodyCall) : Db → Prop
  | nothing : Does db call db
  | adds (deviceId : String) (row : SyncSigningKeyRow) (hnew : deviceId ∉ db.syncSigningKeys) :
      Does db call { db with syncSigningKeys := db.syncSigningKeys.insert deviceId row }
  | retires (deviceId : String) (row : SyncSigningKeyRow) (nowMs : Int64)
      (hcall : call.retires = some deviceId) :
      Does db call { db with
        syncSigningKeys := db.syncSigningKeys.insert deviceId
          { row with deletedAtMs := some nowMs } }

theorem does_retire {call : CustodyCall} {nowMs : Int64} {row : SyncSigningKeyRow} {db' : Db}
    (hcall : call.retires = some deviceId)
    (h : retireSyncSigningKey db deviceId nowMs = some (row, db')) :
  call.Does db db'
  := by
  obtain ⟨active, -, rfl, rfl⟩ := retireSyncSigningKey_eq_some h
  apply CustodyCall.Does.retires deviceId active nowMs hcall

/-- A store that goes through finds no row, and makes a key of the passphrase. -/
theorem not_mem_of_store {row : SyncSigningKeyRow} {db' : Db}
    (h : storeSyncSigningSeed ext db deviceId seed passphrase nonce = .ok (row, db')) :
  deviceId ∉ db.syncSigningKeys ∧ ∃ key, deriveKey ext passphrase (kdfSaltId deviceId) = .ok key
  := by
  simp only [storeSyncSigningSeed, AppResult.bind_eq_ok] at h
  obtain ⟨trusted, -, h⟩ := h
  split_ifs at h with hkey hactive hrow
  · simp only [AppResult.bind_eq_ok] at h
    obtain ⟨key, -, ciphertext, -, h⟩ := h
    cases h
  · simp only [AppResult.bind_eq_ok] at h
    obtain ⟨key, hkey, -⟩ := h
    rw [← Std.ExtTreeMap.contains_iff_mem]
    exact ⟨hrow, key, hkey⟩

theorem CustodyCall.does (ext : Externals) (db : Db) (call : CustodyCall) :
  call.Does db (call.after ext db)
  := by
  cases call with
  | store deviceId seed passphrase nonce =>
    rw [CustodyCall.after]
    split
    · next row db' hstore =>
      obtain ⟨-, -, -, rfl⟩ := storeSyncSigningSeed_eq_ok hstore
      apply CustodyCall.Does.adds deviceId row (not_mem_of_store hstore).1
    · apply CustodyCall.Does.nothing
  | delete deviceId nowMs =>
    rw [CustodyCall.after]
    split
    · next existing db' hdelete =>
      obtain ⟨row, hretire⟩ := retire_of_deleteSyncSigningKey hdelete
      apply does_retire rfl hretire
    · apply CustodyCall.Does.nothing
  | rotate deviceId nowMs =>
    rw [CustodyCall.after]
    split
    · next row db' hrotate => apply does_retire rfl hrotate
    · apply CustodyCall.Does.nothing

/-! ### What later calls keep -/

theorem trustedDevices_after (call : CustodyCall) :
  (call.after ext db).trustedDevices = db.trustedDevices
  := by
  have h := call.does ext db
  generalize call.after ext db = db' at h
  cases h <;> rfl

/-- A row stays as it is until its device is retired. -/
theorem row_after {call : CustodyCall} {row : SyncSigningKeyRow}
    (hrow : db.syncSigningKeys[deviceId]? = some row) (hcall : call.retires ≠ some deviceId) :
  (call.after ext db).syncSigningKeys[deviceId]? = some row
  := by
  have h := call.does ext db
  generalize call.after ext db = db' at h
  cases h with
  | nothing => exact hrow
  | adds other added hnew =>
    rw [Std.ExtTreeMap.getElem?_insert, if_neg]
    · exact hrow
    · intro heq
      obtain rfl := Std.LawfulEqCmp.compare_eq_iff_eq.mp heq
      apply hnew
      rw [Std.ExtTreeMap.mem_iff_isSome_getElem?, hrow]
      rfl
  | retires other retired nowMs hother =>
    rw [Std.ExtTreeMap.getElem?_insert, if_neg]
    · exact hrow
    · intro heq
      obtain rfl := Std.LawfulEqCmp.compare_eq_iff_eq.mp heq
      contradiction

/-- There is a row of the device, and it is not active. -/
def Retired (db : Db) (deviceId : String) : Prop :=
  ∃ row, db.syncSigningKeys[deviceId]? = some row ∧ row.deletedAtMs.isSome = true

theorem retired_after {call : CustodyCall} (h : Retired db deviceId) :
  Retired (call.after ext db) deviceId
  := by
  obtain ⟨row, hrow, hdeleted⟩ := h
  have h := call.does ext db
  generalize call.after ext db = db' at h
  cases h with
  | nothing => use row
  | adds other added hnew =>
    use row, ?_, hdeleted
    rw [Std.ExtTreeMap.getElem?_insert, if_neg]
    · exact hrow
    · intro heq
      obtain rfl := Std.LawfulEqCmp.compare_eq_iff_eq.mp heq
      apply hnew
      rw [Std.ExtTreeMap.mem_iff_isSome_getElem?, hrow]
      rfl
  | retires other retired nowMs hother =>
    by_cases heq : other = deviceId
    · subst heq
      exact ⟨_, Std.ExtTreeMap.getElem?_insert_self, rfl⟩
    · use row, ?_, hdeleted
      rw [Std.ExtTreeMap.getElem?_insert,
        if_neg fun h => heq (Std.LawfulEqCmp.compare_eq_iff_eq.mp h)]
      exact hrow

/-! ### Storing and loading -/

/-- The row of a seed that is stored. -/
def storedRow (ext : Externals) (deviceId : String) (seed : Vector UInt8 32)
    (nonce : Vector UInt8 24) (ciphertext : List UInt8) : SyncSigningKeyRow where
  publicKey := Hex.bytesToHex (ext.verifyingKey seed).toList
  signatureAlg := SYNC_AUTHOR_SIGNATURE_ALG_ED25519_V1
  seedCiphertext := Hex.bytesToHex ciphertext
  seedNonce := Hex.bytesToHex nonce.toList
  kdfAlg := SIGNING_KEY_KDF_ALG
  kdfSaltId := kdfSaltId deviceId
  deletedAtMs := none

variable {key : Vector UInt8 32} {ciphertext : List UInt8}

/-- What a store does for a device that has no row. -/
theorem store_eq_ok
    (htrusted : Trust.trustedDevicePublicKey db deviceId
      = .ok (Hex.bytesToHex (ext.verifyingKey seed).toList))
    (hnew : db.syncSigningKeys[deviceId]? = none)
    (hkey : deriveKey ext passphrase (kdfSaltId deviceId) = .ok key)
    (hencrypt : ext.encrypt key nonce seed.toList = some ciphertext) :
  storeSyncSigningSeed ext db deviceId seed passphrase nonce
    = .ok (storedRow ext deviceId seed nonce ciphertext,
        { db with
          syncSigningKeys := db.syncSigningKeys.insert deviceId
            (storedRow ext deviceId seed nonce ciphertext) })
  := by
  have hcontains : db.syncSigningKeys.contains deviceId = false := by
    rw [← Std.ExtTreeMap.isSome_getElem?_eq_contains, hnew]
    rfl
  have hinactive : (activeRow db deviceId).isSome = false := by
    rw [activeRow, hnew]
    rfl
  rw [storeSyncSigningSeed, htrusted, AppResult.ok_bind, if_neg (not_not.mpr rfl), hinactive,
    if_neg Bool.false_ne_true]
  simp only [hkey, AppResult.ok_bind, hencrypt, okOrElse_some, hcontains, Bool.false_eq_true,
    if_false]
  rfl

/-- A row that has been stored can be opened. -/
theorem load_eq_ok
    (htrusted : Trust.trustedDevicePublicKey db deviceId
      = .ok (Hex.bytesToHex (ext.verifyingKey seed).toList))
    (hrow : db.syncSigningKeys[deviceId]? = some (storedRow ext deviceId seed nonce ciphertext))
    (hkey : deriveKey ext passphrase (kdfSaltId deviceId) = .ok key)
    (hdecrypt : ext.decrypt key nonce ciphertext = some seed.toList) :
  loadSyncSigningKey ext db deviceId (some passphrase) = .ok (some seed)
  := by
  have hactive : activeRow db deviceId = some (storedRow ext deviceId seed nonce ciphertext) := by
    rw [activeRow, hrow]
    rfl
  have hlength : seed.toList.length = 32 := by simp
  have hseed (h : seed.toList.toArray.size = 32) : Vector.mk seed.toList.toArray h = seed := by
    cases seed
    rfl
  rw [loadSyncSigningKey, hactive]
  simp only [storedRow, ne_eq, not_true_eq_false, or_self, if_false, okOrElse_some,
    AppResult.ok_bind, hkey, Hex.parseLowerHexFixed_bytesToHex, Hex.parseLowerHexVec_bytesToHex,
    hdecrypt, dif_pos hlength, htrusted, hseed]

/-! ### What is stored again -/

/-- Custody takes the key of a device that has no active row, and hands it out until the device is
retired. -/
def StoresAgain (ext : Externals) (db : Db) (deviceId : String) (seed : Vector UInt8 32)
    (passphrase : String) (nonce : Vector UInt8 24) : Prop :=
  activeRow db deviceId = none →
  Trust.trustedDevicePublicKey db deviceId
    = .ok (Hex.bytesToHex (ext.verifyingKey seed).toList) →
  ∃ row db', storeSyncSigningSeed ext db deviceId seed passphrase nonce = .ok (row, db')
    ∧ ∀ calls : List CustodyCall, (∀ call ∈ calls, call.retires ≠ some deviceId) →
      loadSyncSigningKey ext (calls.foldl (CustodyCall.after ext) db') deviceId (some passphrase)
        = .ok (some seed)

/-- The device never had a row, and the passphrase makes a key. -/
def NeverStored (ext : Externals) (db : Db) (deviceId : String) (seed : Vector UInt8 32)
    (passphrase : String) : Prop :=
  activeRow db deviceId = none →
  Trust.trustedDevicePublicKey db deviceId
    = .ok (Hex.bytesToHex (ext.verifyingKey seed).toList) →
  db.syncSigningKeys[deviceId]? = none
    ∧ ∃ key, deriveKey ext passphrase (kdfSaltId deviceId) = .ok key

theorem foldl_after {C : Db → Prop} (calls : List CustodyCall)
    (hstep : ∀ call ∈ calls, ∀ db, C db → C (call.after ext db)) (h : C db) :
  C (calls.foldl (CustodyCall.after ext) db)
  := by
  induction calls generalizing db with
  | nil => exact h
  | cons call rest ih =>
    refine ih ?_ ?_
    · intro later hmem
      apply hstep later (List.mem_cons_of_mem _ hmem)
    · apply hstep call List.mem_cons_self db h

theorem storesAgain_iff
    (hencrypt : ∀ key nonce text, ∃ ciphertext, ext.encrypt key nonce text = some ciphertext)
    (hdecrypt : ∀ key nonce text ciphertext, ext.encrypt key nonce text = some ciphertext →
      ext.decrypt key nonce ciphertext = some text) :
  StoresAgain ext db deviceId seed passphrase nonce
    ↔ NeverStored ext db deviceId seed passphrase
  := by
  constructor
  · intro h hinactive htrusted
    obtain ⟨row, db', hstore, -⟩ := h hinactive htrusted
    obtain ⟨hnew, hkey⟩ := not_mem_of_store hstore
    use Std.ExtTreeMap.getElem?_eq_none hnew
  · intro h hinactive htrusted
    obtain ⟨hnew, key, hkey⟩ := h hinactive htrusted
    obtain ⟨ciphertext, hciphertext⟩ := hencrypt key nonce seed.toList
    refine ⟨_, _, store_eq_ok htrusted hnew hkey hciphertext, ?_⟩
    intro calls hcalls
    have hkept : ∀ t : Db, (t.trustedDevices = db.trustedDevices ∧ t.syncSigningKeys[deviceId]?
        = some (storedRow ext deviceId seed nonce ciphertext)) →
        loadSyncSigningKey ext t deviceId (some passphrase) = .ok (some seed) := by
      rintro t ⟨hdevices, hrow⟩
      apply load_eq_ok _ hrow hkey (hdecrypt _ _ _ _ hciphertext)
      rw [Trust.trustedDevicePublicKey, Trust.loadDevice, hdevices]
      exact htrusted
    apply hkept
    refine foldl_after (C := fun t : Db => t.trustedDevices = db.trustedDevices
      ∧ t.syncSigningKeys[deviceId]? = some (storedRow ext deviceId seed nonce ciphertext)) calls
      ?_ ?_
    · rintro call hmem t ⟨hdevices, hrow⟩
      exact ⟨(trustedDevices_after call).trans hdevices, row_after hrow (hcalls call hmem)⟩
    · exact ⟨rfl, Std.ExtTreeMap.getElem?_insert_self⟩

/-- Once the active key of a device is deleted it is not handed out any more. -/
theorem load_after_delete {row : SyncSigningKeyRow} (hrow : activeRow db deviceId = some row)
    (nowMs : Int64) (calls : List CustodyCall) (passphrase : Option String) :
  loadSyncSigningKey ext
      (calls.foldl (CustodyCall.after ext)
        (CustodyCall.after ext db (.delete deviceId nowMs))) deviceId passphrase
    = .ok none
  := by
  have hdeleted : Retired (CustodyCall.after ext db (.delete deviceId nowMs)) deviceId := by
    rw [CustodyCall.after, deleteSyncSigningKey, retireSyncSigningKey, hrow]
    exact ⟨_, Std.ExtTreeMap.getElem?_insert_self, rfl⟩
  obtain ⟨retired, hretired, hat⟩ : Retired (calls.foldl (CustodyCall.after ext)
      (CustodyCall.after ext db (.delete deviceId nowMs))) deviceId :=
    foldl_after (C := fun t => Retired t deviceId) calls (fun _ _ _ => retired_after) hdeleted
  have hinactive : activeRow (calls.foldl (CustodyCall.after ext)
      (CustodyCall.after ext db (.delete deviceId nowMs))) deviceId = none := by
    rw [activeRow, hretired, Option.filter_some, if_neg]
    rw [Option.isNone_iff_eq_none]
    rintro hnone
    rw [hnone] at hat
    cases hat
  rw [loadSyncSigningKey, hinactive]

/-- Custody takes the key of a device that has no active row exactly when the device never had a
row and the passphrase makes a key. A key that is deleted is not handed out after that. -/
theorem custody_stored_again_iff
    (hencrypt : ∀ key nonce text, ∃ ciphertext, ext.encrypt key nonce text = some ciphertext)
    (hdecrypt : ∀ key nonce text ciphertext, ext.encrypt key nonce text = some ciphertext →
      ext.decrypt key nonce ciphertext = some text) :
  (∀ db deviceId seed passphrase nonce,
    StoresAgain ext db deviceId seed passphrase nonce
      ↔ NeverStored ext db deviceId seed passphrase)
    ∧ ∀ db deviceId row nowMs (calls : List CustodyCall) passphrase,
      activeRow db deviceId = some row →
      loadSyncSigningKey ext
          (calls.foldl (CustodyCall.after ext)
            (CustodyCall.after ext db (.delete deviceId nowMs))) deviceId passphrase
        = .ok none
  := by
  constructor
  · intro db deviceId seed passphrase nonce
    apply storesAgain_iff hencrypt hdecrypt
  · intro db deviceId row nowMs calls passphrase hrow
    apply load_after_delete hrow

def Sample.deviceSeed : Vector UInt8 32 := Vector.replicate 32 1

/-- A database with a verified device. -/
def Sample.trustedDb : Db where
  __ := KnowledgeCore.Sample.db
  trustedDevices := (∅ : Table TrustedDeviceRow).insert "device" {
    pubkey := Hex.bytesToHex (KnowledgeCore.Sample.ext.verifyingKey Sample.deviceSeed).toList
    fingerprint := ""
    verifiedAtMs := some 1 }

def Sample.seedNonce : Vector UInt8 24 := Vector.replicate 24 0

/-- The custody of a device whose key has been stored and deleted. -/
def Sample.deletedDb : Db :=
  [.store "device" Sample.deviceSeed "secret" Sample.seedNonce, .delete "device" 2].foldl
    (CustodyCall.after KnowledgeCore.Sample.ext) Sample.trustedDb

/-- A key that has been deleted is not stored again. -/
theorem deleted_key_not_stored_again :
  ¬ ∀ (calls : List CustodyCall) db deviceId seed passphrase nonce,
    StoresAgain KnowledgeCore.Sample.ext (calls.foldl (CustodyCall.after KnowledgeCore.Sample.ext) db)
      deviceId seed passphrase nonce
  := by
  intro h
  have hinactive : activeRow Sample.deletedDb "device" = none := by
    rw [← Option.isNone_iff_eq_none]
    decide +kernel
  have htrusted : Trust.trustedDevicePublicKey Sample.deletedDb "device"
      = .ok (Hex.bytesToHex (KnowledgeCore.Sample.ext.verifyingKey Sample.deviceSeed).toList) := by
    apply ok_of_toOption
    decide +kernel
  have hrow : "device" ∈ Sample.deletedDb.syncSigningKeys := by decide +kernel
  obtain ⟨row, db', hstore, -⟩ := h
    [.store "device" Sample.deviceSeed "secret" Sample.seedNonce, .delete "device" 2] Sample.trustedDb
    "device" Sample.deviceSeed "secret" Sample.seedNonce hinactive htrusted
  apply (not_mem_of_store hstore).1 hrow

/-- The key of a device that has none is stored and handed out. -/
theorem custody_stored_again_device :
  StoresAgain KnowledgeCore.Sample.ext Sample.trustedDb "device" Sample.deviceSeed "secret" Sample.seedNonce
  := by
  apply ((@custody_stored_again_iff KnowledgeCore.Sample.ext
    (fun _ _ text => ⟨text, rfl⟩) (fun _ _ _ _ h => h.symm)).1 _ _ _ _ _).mpr
  intro _ _
  exact ⟨rfl, _, rfl⟩

end SyncKeyCustody

end KnowledgeCore
