import Std.Data.ExtTreeMap
import KnowledgeCore.Json

/-!
# The database

The tables of the vault database that synchronisation reads or writes, as maps from their
primary keys, and the database file they are kept in.
-/

namespace KnowledgeCore

/-- A table whose primary key is a text column, listed in the order of the key. -/
abbrev Table (α : Type) := Std.ExtTreeMap String α

/-- The rows of a table, when one is written under a new key and does not matter. -/
theorem Table.filterMap_insert {α β : Type} {t : Table α} {key : String} {a : α}
    {f : String × α → Option β} (hkey : t[key]? = none) (ha : f (key, a) = none) :
  (t.insert key a).toList.filterMap f = t.toList.filterMap f
  := by
  have hmem (e : String × α) :
      e ∈ (t.insert key a).toList.filter (fun e => e.1 ≠ key) ↔ e ∈ t.toList := by
    obtain ⟨key', b⟩ := e
    rw [List.mem_filter, Std.ExtTreeMap.mem_toList_iff_getElem?_eq_some,
      Std.ExtTreeMap.mem_toList_iff_getElem?_eq_some, Std.ExtTreeMap.getElem?_insert]
    by_cases h : key = key'
    · subst h
      simp [hkey]
    · simp [h, Ne.symm h]
  have hrest : (t.insert key a).toList.filter (fun e => e.1 ≠ key) = t.toList := by
    have hsorted := Std.ExtTreeMap.ordered_keys_toList (t := t.insert key a)
    have hsorted' := Std.ExtTreeMap.ordered_keys_toList (t := t)
    have hne {x y : String × α} (h : compare x.1 y.1 = .lt) : x ≠ y := by
      rintro rfl
      simp at h
    apply List.Perm.eq_of_pairwise _ (hsorted.filter _) hsorted'
    · apply (List.perm_ext_iff_of_nodup _ _).mpr hmem
      · apply (hsorted.filter _).imp hne
      · apply hsorted'.imp hne
    · intro x y _ _ hxy hyx
      have hswap : compare x.1 y.1 = (compare y.1 x.1).swap := Std.OrientedCmp.eq_swap
      rw [hswap, hyx] at hxy
      cases hxy
  rw [← hrest, List.filterMap_filter]
  apply List.filterMap_congr
  rintro ⟨key', b⟩ he
  by_cases h : key' = key
  · subst h
    have hrow := Std.ExtTreeMap.mem_toList_iff_getElem?_eq_some.mp he
    simp at hrow
    simp [← hrow, ha]
  · simp [h]

/-- A row of `objects`, under its `object_hash`. -/
structure ObjectRow where
  bytes : Int64

/-- A row of `docs`, under its `doc_id`. -/
structure DocRow where
  originalObjectHash : String
  bytes : Int64
  mime : String
  sourceKind : String
  effectiveTsMs : Int64

/-- A row of `doc_sources`. -/
structure DocSourceRow where
  docId : String
  sourcePath : String
deriving DecidableEq

/-- A row of `canonical_text`, under its `doc_id`. -/
structure CanonicalTextRow where
  canonicalObjectHash : String
  canonicalHash : String
  extractorName : String
  extractorVersion : String
  extractorFlagsJson : String
  normalizationVersion : Int64
  toolchainJson : String
  createdEventId : Int64

/-- A row of `lineage_overlays`, under its `overlay_id`. -/
structure LineageOverlayRow where
  docId : String
  fromNodeId : String
  toNodeId : String
  relation : String
  evidence : String
  createdAtMs : Int64
  createdBy : String

/-- A row of `lineage_edit_locks`, under its `doc_id`. -/
structure LineageEditLockRow where
  owner : String
  token : String
  acquiredAtMs : Int64
  expiresAtMs : Int64

/-- A row of `sync_state`, under its `state_key`. -/
structure SyncStateRow where
  stateValue : String
  updatedAtMs : Int64

/-- A row of `sync_snapshots`, under its `snapshot_id`. -/
structure SyncSnapshotRow where
  direction : String
  createdAtMs : Int64
  bundleRelpath : String
  manifestHash : String

/-- A row of `trust_providers`, under its `provider_id`. -/
structure TrustProviderRow where
  enabled : Bool

/-- A row of `identity_sessions`, under its `session_id`. -/
structure IdentitySessionRow where
  providerId : String
  subject : String
  claimSubsetJson : String
  issuedAtMs : Int64
  expiresAtMs : Int64
  createdAtMs : Int64

/-- A row of `trusted_devices`, under its `device_id`. -/
structure TrustedDeviceRow where
  pubkey : String
  fingerprint : String
  verifiedAtMs : Option Int64

/-- A row of `device_certificates`, under its `cert_id`. -/
structure DeviceCertificateRow where
  deviceId : String
  certChainHash : String
  verifiedAtMs : Option Int64
  createdAtMs : Int64

/-- A row of `sync_signing_keys`, under its `device_id`. -/
structure SyncSigningKeyRow where
  publicKey : String
  signatureAlg : String
  seedCiphertext : String
  seedNonce : String
  kdfAlg : String
  kdfSaltId : String
  deletedAtMs : Option Int64

/-- A row of `recovery_escrow_configs`, under its `provider_id`. The descriptor is the value
the JSON of its column reads as, absent when the column is not JSON. -/
structure RecoveryEscrowConfigRow where
  enabled : Bool
  descriptorJson : Option Json
  updatedAtMs : Int64

/-- The tables of a database. A table that a migration has not created yet is empty. Of a
revoked session only the key is kept, and the rows of `doc_sources` are in the order they were
inserted in. -/
structure Db where
  userVersion : Int64
  objects : Table ObjectRow
  docs : Table DocRow
  docSources : List DocSourceRow
  canonicalText : Table CanonicalTextRow
  lineageOverlays : Table LineageOverlayRow
  lineageEditLocks : Table LineageEditLockRow
  syncState : Table SyncStateRow
  syncSnapshots : Table SyncSnapshotRow
  trustProviders : Table TrustProviderRow
  identitySessions : Table IdentitySessionRow
  trustSessionRevocations : Table Unit
  trustedDevices : Table TrustedDeviceRow
  deviceCertificates : Table DeviceCertificateRow
  syncSigningKeys : Table SyncSigningKeyRow
  recoveryEscrowConfigs : Table RecoveryEscrowConfigRow

/-- A database file: the tables, the passphrase it is encrypted under if it is, and a number
that tells apart the files that hold the same tables in different bytes. -/
structure SqliteFile where
  db : Db
  key : Option String
  layout : Nat

namespace Db

def LATEST_SCHEMA_VERSION : Int64 := 12

/-- The database without any migration applied. -/
def empty : Db where
  userVersion := 0
  objects := ∅
  docs := ∅
  docSources := []
  canonicalText := ∅
  lineageOverlays := ∅
  lineageEditLocks := ∅
  syncState := ∅
  syncSnapshots := ∅
  trustProviders := ∅
  identitySessions := ∅
  trustSessionRevocations := ∅
  trustedDevices := ∅
  deviceCertificates := ∅
  syncSigningKeys := ∅
  recoveryEscrowConfigs := ∅

/-- Bring a database to the latest schema. The tables a migration creates are empty. -/
def applyMigrations (db : Db) : AppResult Db :=
  if db.userVersion > LATEST_SCHEMA_VERSION then
    .error {
      code := "KC_DB_SCHEMA_INCOMPATIBLE"
      category := "db"
      message := "database schema version is newer than supported"
      details := .obj [("current", .int db.userVersion.toInt),
        ("latest", .int LATEST_SCHEMA_VERSION.toInt)] }
  else
    .ok { db with userVersion := LATEST_SCHEMA_VERSION }

/-- A database at the latest schema is left as it is. -/
theorem applyMigrations_latest {db : Db} (h : db.userVersion = LATEST_SCHEMA_VERSION) :
  db.applyMigrations = .ok db
  := by
  rw [applyMigrations, h, if_neg (by decide)]
  cases db
  cases h
  rfl

theorem applyMigrations_eq_ok {db db' : Db} (h : db.applyMigrations = .ok db') :
  db' = { db with userVersion := LATEST_SCHEMA_VERSION }
  := by
  rw [applyMigrations] at h
  split at h
  · cases h
  · cases h
    rfl

/-! ### The synchronisation tables -/

/-- The value of a row of `sync_state`. -/
def readState (db : Db) (key : String) : Option String :=
  db.syncState[key]?.map SyncStateRow.stateValue

/-- Insert a row of `sync_state`, or update the one with the same key. -/
def writeState (db : Db) (key value : String) (nowMs : Int64) : Db :=
  { db with syncState := db.syncState.insert key ⟨value, nowMs⟩ }

/-- Insert a row of `sync_snapshots`, or replace the one with the same key. -/
def writeSnapshotLog (db : Db) (snapshotId : String) (row : SyncSnapshotRow) : Db :=
  { db with syncSnapshots := db.syncSnapshots.insert snapshotId row }

@[simp] theorem readState_writeState (db : Db) (key key' value : String) (nowMs : Int64) :
  (db.writeState key value nowMs).readState key'
    = if key = key' then some value else db.readState key'
  := by
  simp only [readState, writeState, Std.ExtTreeMap.getElem?_insert,
    Std.LawfulEqCmp.compare_eq_iff_eq]
  split <;> rfl

@[simp] theorem readState_writeSnapshotLog (db : Db) (key id : String)
    (row : SyncSnapshotRow) :
  (db.writeSnapshotLog id row).readState key = db.readState key
  := rfl

@[simp] theorem objects_writeState (db : Db) (key value : String) (nowMs : Int64) :
  (db.writeState key value nowMs).objects = db.objects
  := rfl

@[simp] theorem docs_writeState (db : Db) (key value : String) (nowMs : Int64) :
  (db.writeState key value nowMs).docs = db.docs
  := rfl

@[simp] theorem lineageOverlays_writeState (db : Db) (key value : String) (nowMs : Int64) :
  (db.writeState key value nowMs).lineageOverlays = db.lineageOverlays
  := rfl

@[simp] theorem objects_writeSnapshotLog (db : Db) (id : String) (row : SyncSnapshotRow) :
  (db.writeSnapshotLog id row).objects = db.objects
  := rfl

@[simp] theorem docs_writeSnapshotLog (db : Db) (id : String) (row : SyncSnapshotRow) :
  (db.writeSnapshotLog id row).docs = db.docs
  := rfl

@[simp] theorem lineageOverlays_writeSnapshotLog (db : Db) (id : String)
    (row : SyncSnapshotRow) :
  (db.writeSnapshotLog id row).lineageOverlays = db.lineageOverlays
  := rfl

@[simp] theorem userVersion_writeState (db : Db) (key value : String) (nowMs : Int64) :
  (db.writeState key value nowMs).userVersion = db.userVersion
  := rfl

@[simp] theorem userVersion_writeSnapshotLog (db : Db) (id : String) (row : SyncSnapshotRow) :
  (db.writeSnapshotLog id row).userVersion = db.userVersion
  := rfl

@[simp] theorem recoveryEscrowConfigs_writeState (db : Db) (key value : String)
    (nowMs : Int64) :
  (db.writeState key value nowMs).recoveryEscrowConfigs = db.recoveryEscrowConfigs
  := rfl

@[simp] theorem recoveryEscrowConfigs_writeSnapshotLog (db : Db) (id : String)
    (row : SyncSnapshotRow) :
  (db.writeSnapshotLog id row).recoveryEscrowConfigs = db.recoveryEscrowConfigs
  := rfl

end Db

end KnowledgeCore
