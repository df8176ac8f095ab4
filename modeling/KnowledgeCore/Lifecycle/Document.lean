import KnowledgeCore.Lifecycle.Policy

/-!
# The lifecycle of documents

A document is superseded by another one or tombstoned by an event in the log of the owner. The
events are read back with the hashes that the documents had then, and followed from document to
document to the one that is current.
-/

namespace KnowledgeCore

namespace Lifecycle

def DOCUMENT_LIFECYCLE_REQUEST_SCHEMA : String := "knowledgecore_document_lifecycle_request.v1"
def DOCUMENT_LIFECYCLE_EVENT_SCHEMA : String := "knowledgecore_document_lifecycle_event.v1"
def DOCUMENT_LIFECYCLE_WRITE_ACTION : String := "document.lifecycle.write"
def SUPERSEDED_EVENT_TYPE : String := "document.lifecycle.superseded.v1"
def TOMBSTONED_EVENT_TYPE : String := "document.lifecycle.tombstoned.v1"
def LIFECYCLE_EVENT_PREFIX : String := "document.lifecycle."
def MAX_SUBJECT_CHARS : Nat := 200
def MAX_SESSION_ID_CHARS : Nat := 200
def MAX_REASON_CHARS : Nat := 240
def MAX_CHAIN_DEPTH : Nat := 100

inductive DocumentLifecycleActionV1
  | supersede
  | tombstone
deriving DecidableEq

structure DocumentLifecycleMutationRequestV1 where
  schemaVersion : String
  action : DocumentLifecycleActionV1
  docId : String
  replacementDocId : Option String
  sessionId : String
  reason : String
  effectiveAtMs : Int64

structure DocumentLifecyclePayloadV1 where
  schemaVersion : String
  action : DocumentLifecycleActionV1
  docId : String
  docCanonicalHash : String
  replacementDocId : Option String
  replacementCanonicalHash : Option String
  subjectId : String
  reason : String
  effectiveAtMs : Int64

structure DocumentLifecycleEventV1 where
  eventId : Int64
  eventHash : String
  eventAtMs : Int64
  action : DocumentLifecycleActionV1
  docId : String
  docCanonicalHash : String
  replacementDocId : Option String
  replacementCanonicalHash : Option String
  authorizationSubjectDigest : String
  reasonDigest : String
deriving DecidableEq

inductive DocumentLifecycleInitialStateV1
  | active
  | superseded
  | tombstoned
  | conflicted
deriving DecidableEq

inductive DocumentLifecycleTerminalStateV1
  | active
  | tombstoned
  | conflicted
deriving DecidableEq

structure DocumentLifecycleResolutionV1 where
  sourceDocId : String
  initialState : DocumentLifecycleInitialStateV1
  terminalState : DocumentLifecycleTerminalStateV1
  terminalDocId : Option String
  events : List DocumentLifecycleEventV1
deriving DecidableEq

def lifecycleError (code message : String) : AppError where
  code := code
  category := "document_lifecycle"
  message := message

def corrupt (message : String) : AppError :=
  lifecycleError "KC_DOCUMENT_LIFECYCLE_CORRUPT" message

def validateBounded (value : String) (maxChars : Nat) : Bool :=
  !isBlank value && value.length ≤ maxChars

/-- The hash of the current canonical text of a document, if it has one. -/
def canonicalHashForDoc (fault : Option String) (db : OwnerDb) (docId : String) :
  AppResult (Option String)
  := do
  let hash ← attempt fault
    (fun _ => lifecycleError "KC_DOCUMENT_LIFECYCLE_LOOKUP_FAILED"
      "failed resolving canonical document identity")
    (.ok (db.canonicalText[docId]?.map CanonicalTextRow.canonicalHash))
  match hash with
  | none => .ok none
  | some value =>
    mapErr (fun _ => corrupt "canonical document hash is invalid")
      (validateBlake3Prefixed value)
    .ok (some value)

/-! ### Payloads -/

namespace DocumentLifecycleActionV1

def name : DocumentLifecycleActionV1 → String
  | supersede => "supersede"
  | tombstone => "tombstone"

def eventType : DocumentLifecycleActionV1 → String
  | supersede => SUPERSEDED_EVENT_TYPE
  | tombstone => TOMBSTONED_EVENT_TYPE

/-- An action is read from its name, or from an object with its name as the only key. -/
def read : Json.Reader DocumentLifecycleActionV1
  | .str "supersede" | .obj [("supersede", .null)] => .ok supersede
  | .str "tombstone" | .obj [("tombstone", .null)] => .ok tombstone
  | _ => .error "unknown variant"

end DocumentLifecycleActionV1

namespace DocumentLifecyclePayloadV1

/-- The members of a payload. No others are known. -/
def keys : List String :=
  ["action", "doc_canonical_hash", "doc_id", "effective_at_ms", "reason",
    "replacement_canonical_hash", "replacement_doc_id", "schema_version", "subject_id"]

/-- `serde_json::to_value` -/
def toValue (payload : DocumentLifecyclePayloadV1) : Json :=
  .obj [
    ("action", .str payload.action.name),
    ("doc_canonical_hash", .str payload.docCanonicalHash),
    ("doc_id", .str payload.docId),
    ("effective_at_ms", .int payload.effectiveAtMs.toInt),
    ("reason", .str payload.reason),
    ("replacement_canonical_hash", .ofOption payload.replacementCanonicalHash),
    ("replacement_doc_id", .ofOption payload.replacementDocId),
    ("schema_version", .str payload.schemaVersion),
    ("subject_id", .str payload.subjectId)]

def read (j : Json) : Except String DocumentLifecyclePayloadV1 := do
  Json.expectObject j
  if (j.asObject.getD []).all (fun m => m.1 ∈ keys) = false then
    .error "unknown field"
  else
    let schemaVersion ← j.field "schema_version" Json.readString
    let action ← j.field "action" DocumentLifecycleActionV1.read
    let docId ← j.field "doc_id" Json.readString
    let docCanonicalHash ← j.field "doc_canonical_hash" Json.readString
    let replacementDocId ←
      j.fieldOr "replacement_doc_id" (Json.readOption Json.readString) none
    let replacementCanonicalHash ←
      j.fieldOr "replacement_canonical_hash" (Json.readOption Json.readString) none
    let subjectId ← j.field "subject_id" Json.readString
    let reason ← j.field "reason" Json.readString
    let effectiveAtMs ← j.field "effective_at_ms" Json.readI64
    .ok {
      schemaVersion
      action
      docId
      docCanonicalHash
      replacementDocId
      replacementCanonicalHash
      subjectId
      reason
      effectiveAtMs }

end DocumentLifecyclePayloadV1

def subjectDigest (ext : Externals) (subjectId : String) : String :=
  blake3HexPrefixed ext
    (.text ("kc.document.lifecycle.authorization-subject.v1\n" ++ subjectId))

def reasonDigest (ext : Externals) (reason : String) : String :=
  blake3HexPrefixed ext (.text reason)

/-- What is made public of a payload and the event it is stored in. -/
def publicEvent (ext : Externals) (record : EventRecord) (payload : DocumentLifecyclePayloadV1) :
    DocumentLifecycleEventV1 where
  eventId := record.eventId
  eventHash := record.eventHash
  eventAtMs := record.tsMs
  action := payload.action
  docId := payload.docId
  docCanonicalHash := payload.docCanonicalHash
  replacementDocId := payload.replacementDocId
  replacementCanonicalHash := payload.replacementCanonicalHash
  authorizationSubjectDigest := subjectDigest ext payload.subjectId
  reasonDigest := reasonDigest ext payload.reason

/-- Whether a payload is the one of an event of its type and time. -/
def meetsContract (record : EventRecord) (payload : DocumentLifecyclePayloadV1) : Bool :=
  payload.schemaVersion = DOCUMENT_LIFECYCLE_EVENT_SCHEMA
    && record.eventType = payload.action.eventType
    && payload.effectiveAtMs = record.tsMs
    && (validateBlake3Prefixed payload.docId).isOk
    && (validateBlake3Prefixed payload.docCanonicalHash).isOk
    && validateBounded payload.subjectId MAX_SUBJECT_CHARS
    && validateBounded payload.reason MAX_REASON_CHARS

/-- Check the replacement that a payload names. -/
def checkReplacement (payload : DocumentLifecyclePayloadV1) : AppResult Unit :=
  match payload.action with
  | .supersede => do
    let replacementDocId ← okOrElse
      (corrupt "supersession is missing a replacement document") payload.replacementDocId
    let replacementHash ← okOrElse
      (corrupt "supersession is missing a replacement canonical hash")
      payload.replacementCanonicalHash
    if replacementDocId = payload.docId
        ∨ (validateBlake3Prefixed replacementDocId).isOk = false
        ∨ (validateBlake3Prefixed replacementHash).isOk = false then
      .error (corrupt "supersession replacement identity is invalid")
    else
      .ok ()
  | .tombstone =>
    if payload.replacementDocId.isSome ∨ payload.replacementCanonicalHash.isSome then
      .error (corrupt "tombstone cannot carry a replacement document")
    else
      .ok ()

/-- Whether an event is about the lifecycle of a document. -/
def isLifecycleType (eventType : String) : Bool :=
  LIFECYCLE_EVENT_PREFIX.toList.isPrefixOf eventType.toList

def eventFromRecord (ext : Externals) (parse : JsonParser) (record : EventRecord) :
  AppResult (Option (DocumentLifecyclePayloadV1 × DocumentLifecycleEventV1))
  :=
  if isLifecycleType record.eventType = false then
    .ok none
  else if record.eventType ≠ SUPERSEDED_EVENT_TYPE
      ∧ record.eventType ≠ TOMBSTONED_EVENT_TYPE then
    .error (corrupt "owner event chain contains an unsupported document lifecycle event")
  else do
    let payload ← mapErr (fun _ => corrupt "document lifecycle payload is malformed")
      (parse record.payloadJson >>= DocumentLifecyclePayloadV1.read)
    if meetsContract record payload = false then
      .error (corrupt "document lifecycle payload violates its owner contract")
    else
      checkReplacement payload
      .ok (some (payload, publicEvent ext record payload))

/-! ### Loading -/

/-- The events of each document, in the order of the log. -/
abbrev EventsByDoc := Table (List DocumentLifecycleEventV1)

/-- Check that a document still has the canonical text it had. -/
def checkCurrentHash (faults : Faults) (db : OwnerDb) (lookup : Lookup)
    (docId expected missing changed : String) : AppResult Unit
  := do
  let found ← canonicalHashForDoc (faults (.canonicalHash lookup)) db docId
  let current ← okOrElse (corrupt missing) found
  if current ≠ expected then .error (corrupt changed) else .ok ()

/-- Check that the documents of an event still have the canonical texts they had. -/
def checkPinned (faults : Faults) (db : OwnerDb) (eventId : Int64)
    (payload : DocumentLifecyclePayloadV1) : AppResult Unit
  := do
  checkCurrentHash faults db (.loadedSource eventId) payload.docId payload.docCanonicalHash
    "lifecycle source document is missing"
    "lifecycle source canonical hash changed after the owner event"
  match payload.replacementDocId, payload.replacementCanonicalHash with
  | some replacementDocId, some expectedHash =>
    checkCurrentHash faults db (.loadedReplacement eventId) replacementDocId expectedHash
      "lifecycle replacement document is missing"
      "lifecycle replacement canonical hash changed after the owner event"
  | _, _ => .ok ()

/-- Add an event to those of its document. -/
def addEvent (byDoc : EventsByDoc) (docId : String) (event : DocumentLifecycleEventV1) :
    EventsByDoc :=
  byDoc.insert docId (byDoc.getD docId [] ++ [event])

def loadRecords (ext : Externals) (parse : JsonParser) (faults : Faults) (db : OwnerDb) :
    List EventRecord → EventsByDoc → AppResult EventsByDoc
  | [], byDoc => .ok byDoc
  | record :: rest, byDoc => do
    let found ← eventFromRecord ext parse record
    match found with
    | none => loadRecords ext parse faults db rest byDoc
    | some (payload, event) =>
      checkPinned faults db record.eventId payload
      loadRecords ext parse faults db rest (addEvent byDoc payload.docId event)

def loadDocumentLifecycleEvents (ext : Externals) (parse : JsonParser) (faults : Faults)
    (db : OwnerDb) : AppResult EventsByDoc
  := do
  let records ← attempt (faults .events)
    (fun _ => eventError "failed reading owner event chain" [])
    (readVerifiedEventChain ext parse db.events)
  loadRecords ext parse faults db records ∅

/-! ### Resolution -/

/-- The initial state, which the first event decides. -/
def initialStateAfter (events : List DocumentLifecycleEventV1)
    (action : DocumentLifecycleActionV1) (initialState : DocumentLifecycleInitialStateV1) :
    DocumentLifecycleInitialStateV1 :=
  if events.isEmpty then
    match action with
    | .supersede => .superseded
    | .tombstone => .tombstoned
  else
    initialState

theorem initialStateAfter_of_ne_nil {events : List DocumentLifecycleEventV1}
    (h : events ≠ []) (action : DocumentLifecycleActionV1)
    (initialState : DocumentLifecycleInitialStateV1) :
  initialStateAfter events action initialState = initialState
  := by
  have hempty : events.isEmpty = false := by
    rw [List.isEmpty_eq_false_iff]
    exact h
  simp [initialStateAfter, hempty]

/-- Follow the events from a document, as long as there is room for more of them. -/
def resolveFrom (byDoc : EventsByDoc) (sourceDocId : String) (room : Nat) (current : String)
    (visited : List String) (initialState : DocumentLifecycleInitialStateV1)
    (events : List DocumentLifecycleEventV1) : AppResult DocumentLifecycleResolutionV1
  :=
  if current ∈ visited then
    .error (corrupt "document lifecycle contains a cycle or exceeds its depth bound")
  else
    match byDoc[current]?, room with
    | none, _ => .ok {
        sourceDocId
        initialState
        terminalState := .active
        terminalDocId := some current
        events }
    | some _, 0 => .error (corrupt "document lifecycle exceeds its depth bound")
    | some [event], room + 1 =>
      let initialState := initialStateAfter events event.action initialState
      match event.action, event.replacementDocId with
      | .supersede, some next =>
        resolveFrom byDoc sourceDocId room next (current :: visited) initialState
          (events ++ [event])
      | .supersede, none =>
        .error (corrupt "supersession replacement disappeared during resolution")
      | .tombstone, _ => .ok {
          sourceDocId
          initialState
          terminalState := .tombstoned
          terminalDocId := some current
          events := events ++ [event] }
    | some currentEvents, _ + 1 => .ok {
        sourceDocId
        initialState := if events.isEmpty then .conflicted else initialState
        terminalState := .conflicted
        terminalDocId := none
        events := events ++ currentEvents }

def resolveDocumentLifecycle (docId : String) (byDoc : EventsByDoc) :
  AppResult DocumentLifecycleResolutionV1
  := do
  mapErr (fun _ => lifecycleError "KC_DOCUMENT_LIFECYCLE_REQUEST_INVALID"
    "document lifecycle requires a canonical document identity") (validateBlake3Prefixed docId)
  resolveFrom byDoc docId MAX_CHAIN_DEPTH docId [] .active []

/-! ### Appending -/

def requestInvalid (message : String) : AppError :=
  lifecycleError "KC_DOCUMENT_LIFECYCLE_REQUEST_INVALID" message

def writeFailed (message : String) : AppError :=
  lifecycleError "KC_DOCUMENT_LIFECYCLE_WRITE_FAILED" message

def validateRequest (isUuid : String → Bool) (request : DocumentLifecycleMutationRequestV1) :
  AppResult Unit
  :=
  if request.schemaVersion ≠ DOCUMENT_LIFECYCLE_REQUEST_SCHEMA
      ∨ request.effectiveAtMs < 0
      ∨ (validateBlake3Prefixed request.docId).isOk = false
      ∨ validateBounded request.sessionId MAX_SESSION_ID_CHARS = false
      ∨ isUuid request.sessionId = false
      ∨ validateBounded request.reason MAX_REASON_CHARS = false then
    .error (requestInvalid "document lifecycle request is invalid")
  else
    match request.action with
    | .supersede => do
      let replacement ← okOrElse
        (requestInvalid "supersession requires a replacement document") request.replacementDocId
      if replacement = request.docId ∨ (validateBlake3Prefixed replacement).isOk = false then
        .error (requestInvalid "supersession replacement is invalid")
      else
        .ok ()
    | .tombstone =>
      if request.replacementDocId.isSome then
        .error (requestInvalid "tombstone cannot include a replacement document")
      else
        .ok ()

/-- The hash of the replacement of a request, which has to be active. -/
def replacementHash (faults : Faults) (byDoc : EventsByDoc) (db : OwnerDb) :
    Option String → AppResult (Option String)
  | none => .ok none
  | some replacementDocId => do
    let resolution ← resolveDocumentLifecycle replacementDocId byDoc
    if resolution.initialState ≠ .active then
      .error (lifecycleError "KC_DOCUMENT_LIFECYCLE_CONFLICT"
        "replacement document is not active")
    else
      let found ← canonicalHashForDoc (faults (.canonicalHash .replacement)) db replacementDocId
      let hash ← okOrElse
        (lifecycleError "KC_DOCUMENT_LIFECYCLE_NOT_FOUND" "replacement document does not exist")
        found
      .ok (some hash)

/-- The payload for a request of a subject, when the documents are active. -/
def payloadFor (ext : Externals) (parse : JsonParser) (faults : Faults)
    (request : DocumentLifecycleMutationRequestV1) (subject : String) (db : OwnerDb) :
  AppResult DocumentLifecyclePayloadV1
  := do
  let byDoc ← loadDocumentLifecycleEvents ext parse faults db
  let resolution ← resolveDocumentLifecycle request.docId byDoc
  if resolution.initialState ≠ .active then
    .error (lifecycleError "KC_DOCUMENT_LIFECYCLE_CONFLICT"
      "document already has a terminal lifecycle transition")
  else
    let found ← canonicalHashForDoc (faults (.canonicalHash .source)) db request.docId
    let docCanonicalHash ← okOrElse
      (lifecycleError "KC_DOCUMENT_LIFECYCLE_NOT_FOUND"
        "document lifecycle source does not exist") found
    let replacementCanonicalHash ← replacementHash faults byDoc db request.replacementDocId
    .ok {
      schemaVersion := DOCUMENT_LIFECYCLE_EVENT_SCHEMA
      action := request.action
      docId := request.docId
      docCanonicalHash
      replacementDocId := request.replacementDocId
      replacementCanonicalHash
      subjectId := subject
      reason := request.reason
      effectiveAtMs := request.effectiveAtMs }

/-- What happens in the transaction once a request has been authorized. -/
def appendAuthorized (ext : Externals) (parse : JsonParser) (faults : Faults)
    (request : DocumentLifecycleMutationRequestV1) (subject : String) (db : OwnerDb) :
  AppResult (DocumentLifecycleEventV1 × OwnerDb)
  := do
  let payload ← payloadFor ext parse faults request subject db
  let (record, events) ← appendEvent ext (faults .insertEvent) request.effectiveAtMs
    request.action.eventType payload.toValue db.events
  attempt (faults .commit)
    (fun _ => writeFailed "failed committing document lifecycle event")
    (.ok (publicEvent ext record payload, { db with events }))

/-- Append a change of a lifecycle. A transaction that does not go through is rolled back, but a
refusal of the policies is committed with its record. -/
def appendDocumentLifecycleEvent (ext : Externals) (parse : JsonParser)
    (isUuid : String → Bool) (faults : Faults) (request : DocumentLifecycleMutationRequestV1)
    (db : OwnerDb) : AppResult DocumentLifecycleEventV1 × OwnerDb
  :=
  let authenticated := do
    validateRequest isUuid request
    attempt (faults .begin)
      (fun _ => writeFailed "failed beginning document lifecycle transaction") (.ok ())
    Trust.authenticateIdentitySession parse faults db request.sessionId request.effectiveAtMs
  match authenticated with
  | .error e => (.error e, db)
  | .ok session =>
    match LineagePolicy.ensureLineagePolicyAllows parse faults session.subject
      DOCUMENT_LIFECYCLE_WRITE_ACTION (some request.docId) request.effectiveAtMs db with
    | (.error e, audited) =>
      match faults .commitDenial with
      | some _ => (.error (writeFailed "failed committing denied lifecycle policy audit"), db)
      | none => (.error e, audited)
    | (.ok (), audited) =>
      match appendAuthorized ext parse faults request session.subject audited with
      | .error e => (.error e, db)
      | .ok (event, after) => (.ok event, after)

end Lifecycle

end KnowledgeCore
