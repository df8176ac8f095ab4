import KnowledgeCore.Lineage.Tables

/-!
# Edit locks and scope locks

A lock on a document, or on a scope, is leased to an owner for a fixed time and known by its
token. To acquire one is to read the lock and, unless it is held, to write it anew.
-/

namespace KnowledgeCore

namespace Lineage

open Prog (perform ofExcept)

def LINEAGE_LOCK_LEASE_MS : Int64 := 15 * 60 * 1000

structure LineageLockLeaseV1 where
  docId : String
  owner : String
  token : String
  acquiredAtMs : Int64
  expiresAtMs : Int64

structure LineageLockStatusV1 where
  docId : String
  held : Bool
  owner : Option String
  acquiredAtMs : Option Int64
  expiresAtMs : Option Int64
  expired : Bool

structure LineageScopeLockLeaseV2 where
  scopeKind : String
  scopeValue : String
  owner : String
  token : String
  acquiredAtMs : Int64
  expiresAtMs : Int64

def lineageError (code message : String) (details : List (String × Json)) : AppError where
  code := code
  category := "lineage"
  message := message
  details := .obj details

/-- The error of a statement that fails. -/
def queryFailed (message : String) (details : List (String × Json)) (error : String) : AppError :=
  lineageError "KC_LINEAGE_QUERY_FAILED" message (("error", .str error) :: details)

/-! ### Leases -/

/-- Read a lock and, unless it is held, write it anew. -/
def acquireLock (key : LockKey) (row : LineageEditLockRow) (readFailed : String → AppError)
    (held : LineageEditLockRow → AppError) (writeFailed : String → AppError) :
  LineageProg Unit
  := do
  let lock ← perform (.readLock key)
  let lock ← ofExcept (mapErr readFailed lock)
  match lock.filter fun lock => lock.expiresAtMs > row.acquiredAtMs with
  | some lock => .fail (held lock)
  | none => do
    let written ← perform (.writeLock key row)
    ofExcept (mapErr writeFailed written)

/-- Remove a lock that is known by the token. -/
def releaseLock (key : LockKey) (token : String) (readFailed : String → AppError)
    (missing invalid : AppError) (deleteFailed : String → AppError) :
  LineageProg Unit
  := do
  let lock ← perform (.readLock key)
  let lock ← ofExcept (mapErr readFailed lock)
  match lock with
  | none => .fail missing
  | some lock =>
    if lock.token ≠ token then
      .fail invalid
    else do
      let deleted ← perform (.deleteLock key)
      ofExcept (mapErr deleteFailed deleted)

/-- The lock an owner is given at a time. -/
def leaseRow (owner token : String) (nowMs : Int64) : LineageEditLockRow where
  owner
  token
  acquiredAtMs := nowMs
  expiresAtMs := nowMs + LINEAGE_LOCK_LEASE_MS

/-! ### Locks on documents -/

def lockTokenFor (ext : Externals) (docId owner : String) (nowMs : Int64) : String :=
  blake3HexPrefixed ext (.text ("kc.lineage.lock.v1\n" ++ docId ++ "\n" ++ owner ++ "\n"
    ++ toString nowMs.toInt))

def readLockFailed (docId error : String) : AppError :=
  queryFailed "failed reading lineage edit lock" [("doc_id", .str docId)] error

def readLockRow (docId : String) : LineageProg (Option LineageEditLockRow) := do
  let lock ← perform (.readLock (.doc docId))
  ofExcept (mapErr (readLockFailed docId) lock)

def lineageLockAcquire (ext : Externals) (docId owner : String) (nowMs : Int64) :
  LineageProg LineageLockLeaseV1
  :=
  if isBlank docId = true ∨ isBlank owner = true then
    .fail (lineageError "KC_LINEAGE_LOCK_INVALID"
      "lineage lock acquire requires non-empty doc_id and owner"
      [("doc_id", .str docId), ("owner", .str owner)])
  else do
    let token := lockTokenFor ext docId owner nowMs
    acquireLock (.doc docId) (leaseRow owner token nowMs) (readLockFailed docId)
      (fun lock => lineageError "KC_LINEAGE_LOCK_HELD" "lineage edit lock is already held"
        [("doc_id", .str docId), ("owner", .str lock.owner),
          ("expires_at_ms", .int lock.expiresAtMs.toInt)])
      (queryFailed "failed writing lineage edit lock" [("doc_id", .str docId)])
    pure {
      docId
      owner
      token
      acquiredAtMs := nowMs
      expiresAtMs := nowMs + LINEAGE_LOCK_LEASE_MS }

def lineageLockRelease (docId token : String) : LineageProg Unit :=
  releaseLock (.doc docId) token (readLockFailed docId)
    (lineageError "KC_LINEAGE_LOCK_INVALID" "lineage edit lock does not exist"
      [("doc_id", .str docId)])
    (lineageError "KC_LINEAGE_LOCK_INVALID" "lineage edit lock token is invalid"
      [("doc_id", .str docId)])
    (queryFailed "failed deleting lineage edit lock" [("doc_id", .str docId)])

/-- What is reported of the lock on a document at a time. -/
def lockStatus (docId : String) (nowMs : Int64) : Option LineageEditLockRow → LineageLockStatusV1
  | none => {
      docId
      held := false
      owner := none
      acquiredAtMs := none
      expiresAtMs := none
      expired := false }
  | some lock => {
      docId
      held := ¬ lock.expiresAtMs ≤ nowMs
      owner := some lock.owner
      acquiredAtMs := some lock.acquiredAtMs
      expiresAtMs := some lock.expiresAtMs
      expired := lock.expiresAtMs ≤ nowMs }

def lineageLockStatus (docId : String) (nowMs : Int64) : LineageProg LineageLockStatusV1 := do
  let lock ← readLockRow docId
  pure (lockStatus docId nowMs lock)

def requireValidLock (docId token : String) (nowMs : Int64) : LineageProg LineageEditLockRow := do
  let status ← lineageLockStatus docId nowMs
  if status.held = false then
    .fail (lineageError
      (if status.expired = true then "KC_LINEAGE_LOCK_EXPIRED" else "KC_LINEAGE_LOCK_INVALID")
      "lineage edit lock is required for overlay mutation" [("doc_id", .str docId)])
  else do
    let lock ← readLockRow docId
    match lock with
    | none =>
      .fail (lineageError "KC_LINEAGE_LOCK_INVALID"
        "lineage edit lock is required for overlay mutation" [("doc_id", .str docId)])
    | some lock =>
      if lock.token ≠ token then
        .fail (lineageError "KC_LINEAGE_LOCK_INVALID" "lineage edit lock token is invalid"
          [("doc_id", .str docId)])
      else
        pure lock

/-! ### Locks on scopes -/

/-- `str::to_ascii_lowercase` -/
def toAsciiLowercase (s : String) : String :=
  s.map Char.toLower

def normalizeScope (scopeKind scopeValue : String) : AppResult (String × String) :=
  let kind := toAsciiLowercase (trim scopeKind)
  let value := trim scopeValue
  if kind ≠ "doc" ∧ kind ≠ "set" then
    .error (lineageError "KC_LINEAGE_SCOPE_INVALID" "unsupported lineage lock scope kind"
      [("scope_kind", .str scopeKind), ("supported", .arr [.str "doc", .str "set"])])
  else if value.isEmpty = true then
    .error (lineageError "KC_LINEAGE_SCOPE_INVALID"
      "lineage lock scope value must not be empty" [("scope_kind", .str kind)])
  else
    .ok (kind, value)

def scopeLockTokenFor (ext : Externals) (scopeKind scopeValue owner : String) (nowMs : Int64) :
    String :=
  blake3HexPrefixed ext (.text ("kc.lineage.scope-lock.v2\n" ++ scopeKind ++ "\n" ++ scopeValue
    ++ "\n" ++ owner ++ "\n" ++ toString nowMs.toInt))

def requireNonEmpty (name value code : String) : AppResult Unit :=
  if isBlank value = true then
    .error (lineageError code "lineage governance field must not be empty"
      [("field", .str name)])
  else
    .ok ()

def lineageLockAcquireScope (ext : Externals) (scopeKind scopeValue owner : String)
    (nowMs : Int64) : LineageProg LineageScopeLockLeaseV2
  := do
  ofExcept (requireNonEmpty "owner" owner "KC_LINEAGE_LOCK_INVALID")
  let (scopeKind, scopeValue) ← ofExcept (normalizeScope scopeKind scopeValue)
  let token := scopeLockTokenFor ext scopeKind scopeValue owner nowMs
  acquireLock (.scope scopeKind scopeValue) (leaseRow owner token nowMs)
    (queryFailed "failed reading lineage scoped lock"
      [("scope_kind", .str scopeKind), ("scope_value", .str scopeValue)])
    (fun lock => lineageError "KC_LINEAGE_LOCK_HELD" "lineage scoped lock is already held"
      [("scope_kind", .str scopeKind), ("scope_value", .str scopeValue),
        ("owner", .str lock.owner), ("expires_at_ms", .int lock.expiresAtMs.toInt)])
    (queryFailed "failed writing lineage scoped lock" [])
  pure {
    scopeKind
    scopeValue
    owner
    token
    acquiredAtMs := nowMs
    expiresAtMs := nowMs + LINEAGE_LOCK_LEASE_MS }

/-- A hash function that has one hash for a text and another for everything else. -/
def Sample.markingExt (marked : String) : Externals :=
  { Sample.ext with
    blake3 := fun
      | .text s => if s = marked then Vector.replicate 32 1 else Vector.replicate 32 0
      | _ => Vector.replicate 32 0 }

theorem Sample.eq_marked {marked text : String}
    (h : (Sample.markingExt marked).blake3 (.text text)
      = (Sample.markingExt marked).blake3 (.text marked)) :
  text = marked
  := by
  by_contra hne
  simp only [Sample.markingExt, if_neg hne, if_true] at h
  cases h

end Lineage

end KnowledgeCore
