import KnowledgeCore.Sync.Snapshot

/-!
# The write lock of a remote target

A client takes the lock by writing an object that was absent, after deleting one whose lease
has expired. It holds the lock for a lease from the time its call started at, and releases it
by deleting the object if the object still names it as the holder.
-/

namespace KnowledgeCore

namespace Sync

def S3_LOCK_KEY : String := "locks/write.lock"
def S3_LOCK_TTL_MS : Int64 := 60000

structure SyncS3WriteLockV1 where
  schemaVersion : Int64
  holder : String
  vaultId : String
  acquiredAtMs : Int64
  expiresAtMs : Int64
  trustFingerprint : String
deriving DecidableEq

namespace SyncS3WriteLockV1

def toJson (lock : SyncS3WriteLockV1) : Json :=
  .obj [("schema_version", .int lock.schemaVersion.toInt), ("holder", .str lock.holder),
    ("vault_id", .str lock.vaultId), ("acquired_at_ms", .int lock.acquiredAtMs.toInt),
    ("expires_at_ms", .int lock.expiresAtMs.toInt),
    ("trust_fingerprint", .str lock.trustFingerprint)]

open Json in
def ofJson : Reader SyncS3WriteLockV1 := fun j => do
  expectObject j
  let schemaVersion ← field j "schema_version" readI64
  let holder ← field j "holder" readString
  let vaultId ← field j "vault_id" readString
  let acquiredAtMs ← field j "acquired_at_ms" readI64
  let expiresAtMs ← field j "expires_at_ms" readI64
  let trustFingerprint ← field j "trust_fingerprint" readString
  .ok { schemaVersion, holder, vaultId, acquiredAtMs, expiresAtMs, trustFingerprint }

@[simp] theorem ofJson_toJson (lock : SyncS3WriteLockV1) :
  ofJson lock.toJson = .ok lock
  := by
  simp [ofJson, toJson, Json.expectObject, Json.field, Json.get, List.lookup_cons, bind,
    Except.bind]

theorem ofCanonical_toJson (lock : SyncS3WriteLockV1) :
  Content.ofCanonical lock.toJson = .ok (.json lock.toJson 0)
  := Content.ofCanonical_of_not_hasFloat rfl

end SyncS3WriteLockV1

/-- The lock an object holds, if there is an object. -/
def parseLock (target : String) (object : Option Content) :
  AppResult (Option SyncS3WriteLockV1)
  :=
  match object with
  | none => .ok none
  | some bytes => do
    let lock ← mapErr
      (fun error => targetInvalid "failed parsing sync write lock"
        [("error", .str error), ("target", .str target), ("key", .str S3_LOCK_KEY)])
      (bytes.parseJson >>= SyncS3WriteLockV1.ofJson)
    .ok (some lock)

@[simp] theorem parseLock_toJson (target : String) (lock : SyncS3WriteLockV1) :
  parseLock target (some (.json lock.toJson 0)) = .ok (some lock)
  := by
  simp [parseLock, Content.parseJson, bind, Except.bind]

theorem eq_none_of_parseLock {target : String} {object : Option Content}
    (h : parseLock target object = .ok none) :
  object = none
  := by
  cases object with
  | none => rfl
  | some bytes =>
    simp only [parseLock, AppResult.bind_eq_ok] at h
    obtain ⟨_, -, h⟩ := h
    cases h

def readS3Lock (target : String) : SyncM (Option SyncS3WriteLockV1) := do
  let object ← s3Read S3_LOCK_KEY
  Prog.ofExcept (parseLock target object)

/-- The lock a client takes at a time. -/
def lockOf (vaultId : String) (trust : SyncTrustV1) (nowMs : Int64) : SyncS3WriteLockV1 where
  schemaVersion := 1
  holder := vaultId ++ ":" ++ toString nowMs.toInt
  vaultId := vaultId
  acquiredAtMs := nowMs
  expiresAtMs := nowMs + S3_LOCK_TTL_MS
  trustFingerprint := trust.fingerprint

def syncLocked (message : String) (details : List (String × Json)) : AppError :=
  syncError "KC_SYNC_LOCKED" message (.obj details)

/-- What is said of a lock that another client holds. -/
def lockDetails (target : String) (lock : SyncS3WriteLockV1) : List (String × Json) :=
  [("holder", .str lock.holder), ("expires_at_ms", .int lock.expiresAtMs.toInt),
    ("target", .str target)]

/-- Delete a lock that was found if its lease has expired, and stop if it has not. -/
def clearExpiredLock (target : String) (nowMs : Int64) :
    Option SyncS3WriteLockV1 → SyncM Unit
  | some lock =>
    if lock.expiresAtMs > nowMs then
      .fail (syncLocked "remote sync target is already locked" (lockDetails target lock))
    else
      s3Delete S3_LOCK_KEY
  | none => pure ()

/-- Stop because another client has written its lock first. -/
def lockTaken (target : String) : SyncM SyncS3WriteLockV1 := do
  let existing ← readS3Lock target
  .fail (syncLocked "remote sync target lock already exists"
    ((existing.map (lockDetails target)).getD [("target", .str target)]))

/-- Write a lock if there is none. -/
def createLock (target : String) (lock : SyncS3WriteLockV1) : SyncM SyncS3WriteLockV1 := do
  let bytes ← Prog.ofExcept (Content.ofCanonical lock.toJson)
  let created ← s3WriteIfAbsent S3_LOCK_KEY bytes
  if created then
    pure lock
  else
    lockTaken target

def acquireS3Lock (target vaultId : String) (trust : SyncTrustV1) (nowMs : Int64) :
  SyncM SyncS3WriteLockV1
  := do
  let found ← readS3Lock target
  clearExpiredLock target nowMs found
  createLock target (lockOf vaultId trust nowMs)

/-- Delete a lock that was found if the holder is the one given. -/
def deleteOwnLock (holder : String) : Option SyncS3WriteLockV1 → SyncM Unit
  | some existing => if existing.holder = holder then s3Delete S3_LOCK_KEY else pure ()
  | none => pure ()

def releaseS3Lock (target holder : String) : SyncM Unit := do
  let found ← readS3Lock target
  deleteOwnLock holder found

/-- What a call under the lock comes to, given what its body and the release came to. -/
def lockedResult {α : Type} : AppResult α → AppResult Unit → AppResult α
  | .ok value, .ok () => .ok value
  | .ok _, .error e => .error e
  | .error e, _ => .error e

/-- Run a program under the lock. -/
def withS3Lock {α : Type} (target vaultId : String) (trust : SyncTrustV1) (nowMs : Int64)
    (f : SyncM α) : SyncM α
  := do
  let lock ← acquireS3Lock target vaultId trust nowMs
  let result ← f.attempt
  let releaseResult ← (releaseS3Lock target lock.holder).attempt
  Prog.ofExcept (lockedResult result releaseResult)

end Sync

end KnowledgeCore
