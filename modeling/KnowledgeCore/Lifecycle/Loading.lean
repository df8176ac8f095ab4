import KnowledgeCore.Lifecycle.Outcome

/-!
# Loading the events

The events load when the log is read back, every record of them meets its contract, and every
document has the canonical text that its events name. What is loaded are the events of the log,
grouped by their documents.
-/

namespace KnowledgeCore

namespace Lifecycle

variable {ext : Externals} {parse : JsonParser} {isUuid : String → Bool} {faults : Faults}
  {request : DocumentLifecycleMutationRequestV1} {db : OwnerDb}

/-! ### Canonical hashes -/

/-- The hash of the current canonical text of a document. -/
def CurrentHash (db : OwnerDb) (docId hash : String) : Prop :=
  db.canonicalText[docId]?.map CanonicalTextRow.canonicalHash = some hash
    ∧ validateBlake3Prefixed hash = .ok ()

theorem CurrentHash.unique {docId hash hash' : String} (h : CurrentHash db docId hash)
    (h' : CurrentHash db docId hash') :
  hash = hash'
  := by
  apply Option.some_inj.mp
  rw [← h.1, ← h'.1]

theorem canonicalHashForDoc_eq_ok {fault : Option String} {docId hash : String} :
  canonicalHashForDoc fault db docId = .ok (some hash)
    ↔ fault = none ∧ CurrentHash db docId hash
  := by
  rw [canonicalHashForDoc, AppResult.bind_eq_ok, CurrentHash]
  simp only [attempt_eq_ok, Except.ok.injEq]
  constructor
  · rintro ⟨found, ⟨hfault, rfl⟩, h⟩
    use hfault
    cases hrow : db.canonicalText[docId]?.map CanonicalTextRow.canonicalHash with
    | none =>
      rw [hrow] at h
      cases h
    | some value =>
      rw [hrow] at h
      obtain ⟨⟨⟩, hvalid, h⟩ := AppResult.bind_eq_ok.mp h
      cases h
      use rfl, mapErr_eq_ok.mp hvalid
  · rintro ⟨hfault, hrow, hvalid⟩
    use some hash, ⟨hfault, hrow⟩
    simp only [hvalid, mapErr_ok, AppResult.ok_bind]

/-- A payload names the documents with the canonical texts they have. -/
structure Pinned (db : OwnerDb) (payload : DocumentLifecyclePayloadV1) : Prop where
  source : CurrentHash db payload.docId payload.docCanonicalHash
  replacement : ∀ docId hash, payload.replacementDocId = some docId →
    payload.replacementCanonicalHash = some hash → CurrentHash db docId hash

/-- Only the canonical texts of a database matter. -/
theorem Pinned.of_canonicalText_eq {db' : OwnerDb} {payload : DocumentLifecyclePayloadV1}
    (h : Pinned db payload) (hdb : db'.canonicalText = db.canonicalText) :
  Pinned db' payload
  := by
  constructor
  · rw [CurrentHash, hdb]
    apply h.source
  · intro docId hash hdocId hhash
    rw [CurrentHash, hdb]
    apply h.replacement docId hash hdocId hhash

theorem checkCurrentHash_eq_ok {lookup : Lookup} {docId expected missing changed : String} :
  checkCurrentHash faults db lookup docId expected missing changed = .ok ()
    ↔ faults (.canonicalHash lookup) = none ∧ CurrentHash db docId expected
  := by
  rw [checkCurrentHash]
  simp only [AppResult.bind_eq_ok, okOrElse_eq_ok]
  constructor
  · rintro ⟨found, hfound, current, rfl, h⟩
    split_ifs at h with hne
    rw [not_not] at hne
    rw [← hne]
    apply canonicalHashForDoc_eq_ok.mp hfound
  · intro h
    use some expected, canonicalHashForDoc_eq_ok.mpr h, expected, rfl
    rw [if_neg (not_not.mpr rfl)]

theorem pinned_of_checkPinned {eventId : Int64} {payload : DocumentLifecyclePayloadV1}
    (h : checkPinned faults db eventId payload = .ok ()) :
  Pinned db payload
  := by
  obtain ⟨⟨⟩, hsource, h⟩ := AppResult.bind_eq_ok.mp h
  constructor
  · apply (checkCurrentHash_eq_ok.mp hsource).2
  · intro docId hash hdocId hhash
    rw [hdocId, hhash] at h
    apply (checkCurrentHash_eq_ok.mp h).2

theorem Pinned.checkPinned {payload : DocumentLifecyclePayloadV1} (h : Pinned db payload)
    (eventId : Int64) :
  checkPinned noFaults db eventId payload = .ok ()
  := by
  rw [Lifecycle.checkPinned, checkCurrentHash_eq_ok.mpr ⟨rfl, h.source⟩, AppResult.ok_bind]
  split
  case h_1 docId hash hdocId hhash =>
    apply checkCurrentHash_eq_ok.mpr ⟨rfl, h.replacement docId hash hdocId hhash⟩
  case h_2 => rfl

/-! ### The entries of a log -/

/-- A payload with its public event. -/
abbrev Entry := DocumentLifecyclePayloadV1 × DocumentLifecycleEventV1

/-- The lifecycle events among some records. -/
def entries (ext : Externals) (parse : JsonParser) (records : List EventRecord) : List Entry :=
  records.filterMap fun record => (eventFromRecord ext parse record).toOption.join

/-- Events added to those of their documents. -/
def group (byDoc : EventsByDoc) (l : List Entry) : EventsByDoc :=
  l.foldl (fun byDoc entry => addEvent byDoc entry.1.docId entry.2) byDoc

/-- Some records can be loaded. -/
structure Loadable (ext : Externals) (parse : JsonParser) (db : OwnerDb)
    (records : List EventRecord) : Prop where
  readable : ∀ record ∈ records, (eventFromRecord ext parse record).isOk = true
  pinned : ∀ entry ∈ entries ext parse records, Pinned db entry.1

theorem Loadable.of_canonicalText_eq {db' : OwnerDb} {records : List EventRecord}
    (h : Loadable ext parse db records) (hdb : db'.canonicalText = db.canonicalText) :
  Loadable ext parse db' records
  := by
  constructor
  · apply h.readable
  · intro entry hentry
    apply (h.pinned entry hentry).of_canonicalText_eq hdb

theorem entries_cons {record : EventRecord} {rest : List EventRecord} {found : Option Entry}
    (h : eventFromRecord ext parse record = .ok found) :
  entries ext parse (record :: rest) = found.toList ++ entries ext parse rest
  := by
  cases found <;> simp [entries, h, Except.toOption]

theorem loadable_cons {record : EventRecord} {rest : List EventRecord} {found : Option Entry}
    (h : eventFromRecord ext parse record = .ok found) :
  Loadable ext parse db (record :: rest)
    ↔ (∀ entry ∈ found, Pinned db entry.1) ∧ Loadable ext parse db rest
  := by
  constructor
  · rintro ⟨hreadable, hpinned⟩
    rw [entries_cons h, List.forall_mem_append] at hpinned
    rw [List.forall_mem_cons] at hreadable
    use by simpa using hpinned.1, hreadable.2, hpinned.2
  · rintro ⟨hfound, hreadable, hpinned⟩
    constructor
    · rw [List.forall_mem_cons, h]
      use rfl
    · rw [entries_cons h, List.forall_mem_append]
      use by simpa using hfound

/-- What has been loaded was loadable, and is the events grouped by their documents. -/
theorem loadable_of_loadRecords {records : List EventRecord} {byDoc byDoc' : EventsByDoc}
    (h : loadRecords ext parse faults db records byDoc = .ok byDoc') :
  Loadable ext parse db records ∧ byDoc' = group byDoc (entries ext parse records)
  := by
  induction records generalizing byDoc with
  | nil =>
    cases h
    constructor
    · constructor
      · simp
      · simp [entries]
    · rfl
  | cons record rest ih =>
    obtain ⟨found, hfound, h⟩ := AppResult.bind_eq_ok.mp h
    rw [loadable_cons hfound, entries_cons hfound]
    cases found with
    | none =>
      obtain ⟨hloadable, hbyDoc⟩ := ih h
      use ⟨by simp, hloadable⟩, hbyDoc
    | some entry =>
      obtain ⟨⟨⟩, hpinned, h⟩ := AppResult.bind_eq_ok.mp h
      obtain ⟨hloadable, hbyDoc⟩ := ih h
      use ⟨by simpa using pinned_of_checkPinned hpinned, hloadable⟩, hbyDoc

theorem Loadable.loadRecords {records : List EventRecord} (h : Loadable ext parse db records)
    (byDoc : EventsByDoc) :
  loadRecords ext parse noFaults db records byDoc
    = .ok (group byDoc (entries ext parse records))
  := by
  induction records generalizing byDoc with
  | nil => rfl
  | cons record rest ih =>
    obtain ⟨found, hfound⟩ := exists_of_isOk (h.readable record List.mem_cons_self)
    rw [loadable_cons hfound] at h
    rw [Lifecycle.loadRecords, hfound, AppResult.ok_bind, entries_cons hfound]
    cases found with
    | none => apply ih h.2
    | some entry =>
      have hpinned := h.1 entry rfl
      simp only [hpinned.checkPinned, AppResult.ok_bind]
      apply ih h.2

/-- The events of the log are loaded. -/
theorem load_eq_ok {byDoc : EventsByDoc} :
  loadDocumentLifecycleEvents ext parse noFaults db = .ok byDoc
    ↔ ∃ records, readVerifiedEventChain ext parse db.events = .ok records
        ∧ Loadable ext parse db records ∧ byDoc = group ∅ (entries ext parse records)
  := by
  simp only [loadDocumentLifecycleEvents, AppResult.bind_eq_ok, noFaults, attempt_none]
  constructor
  · rintro ⟨records, hread, h⟩
    use records, hread
    apply loadable_of_loadRecords h
  · rintro ⟨records, hread, hloadable, rfl⟩
    use records, hread
    apply hloadable.loadRecords

/-- What was loaded where statements may fail is loaded where none does. -/
theorem load_of_load_faults {byDoc : EventsByDoc}
    (h : loadDocumentLifecycleEvents ext parse faults db = .ok byDoc) :
  loadDocumentLifecycleEvents ext parse noFaults db = .ok byDoc
  := by
  simp only [loadDocumentLifecycleEvents, AppResult.bind_eq_ok, attempt_eq_ok] at h
  obtain ⟨records, ⟨-, hread⟩, h⟩ := h
  apply load_eq_ok.mpr
  use records, hread
  apply loadable_of_loadRecords h

/-- The events of a document among some entries. -/
def eventsOf (l : List Entry) (docId : String) : List DocumentLifecycleEventV1 :=
  (l.filter fun entry => entry.1.docId = docId).map Prod.snd

theorem getElem?_addEvent (byDoc : EventsByDoc) (docId docId' : String)
    (event : DocumentLifecycleEventV1) :
  (addEvent byDoc docId event)[docId']?
    = if docId = docId' then some (byDoc.getD docId [] ++ [event]) else byDoc[docId']?
  := by
  rw [addEvent, Std.ExtTreeMap.getElem?_insert]
  simp only [Std.LawfulEqCmp.compare_eq_iff_eq]

theorem getElem?_group (byDoc : EventsByDoc) (l : List Entry) (docId : String) :
  (group byDoc l)[docId]?
    = if eventsOf l docId = [] then byDoc[docId]?
      else some (byDoc.getD docId [] ++ eventsOf l docId)
  := by
  induction l generalizing byDoc with
  | nil => rfl
  | cons entry l ih =>
    have hgetD : (addEvent byDoc entry.1.docId entry.2).getD docId []
        = if entry.1.docId = docId then byDoc.getD docId [] ++ [entry.2]
          else byDoc.getD docId [] := by
      rw [Std.ExtTreeMap.getD_eq_getD_getElem?, getElem?_addEvent]
      split
      case isTrue h => rw [h, Option.getD_some]
      case isFalse => rw [Std.ExtTreeMap.getD_eq_getD_getElem?]
    change (group (addEvent byDoc entry.1.docId entry.2) l)[docId]? = _
    rw [ih, getElem?_addEvent, hgetD]
    by_cases h : entry.1.docId = docId
    · simp only [h, if_true, eventsOf, List.filter_cons, decide_true, List.map_cons,
        reduceCtorEq, if_false]
      split
      case isTrue hnil => rw [hnil]
      case isFalse => rw [List.append_assoc, List.singleton_append]
    · simp only [h, if_false, eventsOf, List.filter_cons, decide_false, Bool.false_eq_true]

/-- A document has events exactly when it is the source of one. -/
theorem getElem?_group_eq_none {l : List Entry} {docId : String} :
  (group ∅ l)[docId]? = none ↔ ∀ entry ∈ l, entry.1.docId ≠ docId
  := by
  rw [getElem?_group]
  have hnil : eventsOf l docId = [] ↔ ∀ entry ∈ l, entry.1.docId ≠ docId := by
    rw [eventsOf, List.map_eq_nil_iff, List.filter_eq_nil_iff]
    simp only [decide_eq_true_eq, ne_eq]
  rw [← hnil]
  split
  case isTrue h => simp [h]
  case isFalse h => simp [h]

/-- Nothing is loaded from an empty log. -/
theorem load_of_rows_eq_nil (h : db.events.rows = []) :
  loadDocumentLifecycleEvents ext parse noFaults db = .ok ∅
  := by
  apply load_eq_ok.mpr
  use [], (HoldsEvents.of_rows_eq_nil h).read
  constructor
  · constructor
    · simp
    · simp [entries]
  · rfl

/-! ### Resolving -/

/-- How a resolution ends at a document, or goes on from it. -/
inductive Resolves (byDoc : EventsByDoc) (sourceDocId : String) :
    Nat → String → List String → DocumentLifecycleInitialStateV1 →
      List DocumentLifecycleEventV1 → AppResult DocumentLifecycleResolutionV1 → Prop
  | active (room current visited initialState events)
      (hcurrent : byDoc[current]? = none) :
    Resolves byDoc sourceDocId room current visited initialState events
      (.ok ⟨sourceDocId, initialState, .active, some current, events⟩)
  | tombstoned (room current visited initialState events event)
      (hcurrent : byDoc[current]? = some [event]) (haction : event.action = .tombstone) :
    Resolves byDoc sourceDocId (room + 1) current visited initialState events
      (.ok ⟨sourceDocId, initialStateAfter events event.action initialState, .tombstoned,
        some current, events ++ [event]⟩)
  | conflicted (room current visited initialState events currentEvents)
      (hcurrent : byDoc[current]? = some currentEvents) (hlength : currentEvents.length ≠ 1) :
    Resolves byDoc sourceDocId (room + 1) current visited initialState events
      (.ok ⟨sourceDocId, if events.isEmpty then .conflicted else initialState, .conflicted, none,
        events ++ currentEvents⟩)
  | superseded (room current visited initialState events event next result)
      (hcurrent : byDoc[current]? = some [event]) (haction : event.action = .supersede)
      (hnext : event.replacementDocId = some next)
      (hresult : resolveFrom byDoc sourceDocId room next (current :: visited)
        (initialStateAfter events event.action initialState) (events ++ [event]) = result) :
    Resolves byDoc sourceDocId (room + 1) current visited initialState events result
  | full (current visited initialState events currentEvents)
      (hcurrent : byDoc[current]? = some currentEvents) :
    Resolves byDoc sourceDocId 0 current visited initialState events
      (.error (corrupt "document lifecycle exceeds its depth bound"))
  | dangling (room current visited initialState events event)
      (hcurrent : byDoc[current]? = some [event]) (haction : event.action = .supersede)
      (hnext : event.replacementDocId = none) :
    Resolves byDoc sourceDocId (room + 1) current visited initialState events
      (.error (corrupt "supersession replacement disappeared during resolution"))
  | cycle (room current visited initialState events) (hvisited : current ∈ visited) :
    Resolves byDoc sourceDocId room current visited initialState events
      (.error (corrupt "document lifecycle contains a cycle or exceeds its depth bound"))

theorem resolves (byDoc : EventsByDoc) (sourceDocId : String) (room : Nat) (current : String)
    (visited : List String) (initialState : DocumentLifecycleInitialStateV1)
    (events : List DocumentLifecycleEventV1) :
  Resolves byDoc sourceDocId room current visited initialState events
    (resolveFrom byDoc sourceDocId room current visited initialState events)
  := by
  rw [resolveFrom.eq_def]
  split
  case isTrue hvisited => apply Resolves.cycle _ _ _ _ _ hvisited
  case isFalse =>
    split
    case h_1 hcurrent => apply Resolves.active _ _ _ _ _ hcurrent
    case h_2 currentEvents hcurrent => apply Resolves.full _ _ _ _ _ hcurrent
    case h_3 event room hcurrent =>
      cases haction : event.action with
      | tombstone =>
        simp only
        rw [← haction]
        apply Resolves.tombstoned _ _ _ _ _ _ hcurrent haction
      | supersede =>
        cases hnext : event.replacementDocId with
        | none => apply Resolves.dangling _ _ _ _ _ _ hcurrent haction hnext
        | some next =>
          simp only
          apply Resolves.superseded _ _ _ _ _ _ _ _ hcurrent haction hnext
          rw [haction]
    case h_4 currentEvents room hlength hcurrent =>
      apply Resolves.conflicted _ _ _ _ _ _ hcurrent
      intro h
      obtain ⟨event, rfl⟩ := List.length_eq_one_iff.mp h
      apply hlength event rfl

theorem resolveFrom_initialState {byDoc : EventsByDoc} {sourceDocId : String} {room : Nat}
    {current : String} {visited : List String} {initialState : DocumentLifecycleInitialStateV1}
    {events : List DocumentLifecycleEventV1} {resolution : DocumentLifecycleResolutionV1}
    (hevents : events ≠ [])
    (h : resolveFrom byDoc sourceDocId room current visited initialState events
      = .ok resolution) :
  resolution.initialState = initialState
  := by
  induction room generalizing current visited events with
  | zero =>
    have hresolves := resolves byDoc sourceDocId 0 current visited initialState events
    rw [h] at hresolves
    cases hresolves
    rfl
  | succ room ih =>
    have hresolves := resolves byDoc sourceDocId (room + 1) current visited initialState events
    rw [h] at hresolves
    cases hresolves with
    | active => rfl
    | tombstoned => apply initialStateAfter_of_ne_nil hevents
    | conflicted => simp [hevents]
    | superseded _ _ _ _ _ event next _ _ _ _ hresult =>
      rw [initialStateAfter_of_ne_nil hevents] at hresult
      apply ih _ hresult
      simp

/-- A document is active exactly when it has no events. -/
theorem initialState_eq_active {byDoc : EventsByDoc} {docId : String}
    {resolution : DocumentLifecycleResolutionV1}
    (h : resolveDocumentLifecycle docId byDoc = .ok resolution) :
  resolution.initialState = .active ↔ byDoc[docId]? = none
  := by
  obtain ⟨⟨⟩, -, h⟩ := AppResult.bind_eq_ok.mp h
  have hresolves := resolves byDoc docId MAX_CHAIN_DEPTH docId [] .active []
  rw [h] at hresolves
  generalize MAX_CHAIN_DEPTH = room at hresolves
  cases hresolves with
  | active _ _ _ _ _ hcurrent => simp [hcurrent]
  | tombstoned _ _ _ _ _ event hcurrent haction =>
    simp [hcurrent, initialStateAfter, haction]
  | conflicted _ _ _ _ _ _ hcurrent => simp [hcurrent]
  | superseded _ _ _ _ _ event next _ hcurrent haction _ hresult =>
    rw [resolveFrom_initialState (by simp) hresult]
    simp [hcurrent, initialStateAfter, haction]

/-- A document without events resolves to itself. -/
theorem resolveDocumentLifecycle_of_none {byDoc : EventsByDoc} {docId : String}
    (hvalid : validateBlake3Prefixed docId = .ok ()) (h : byDoc[docId]? = none) :
  resolveDocumentLifecycle docId byDoc = .ok ⟨docId, .active, .active, some docId, []⟩
  := by
  rw [resolveDocumentLifecycle, hvalid, mapErr_ok, AppResult.ok_bind, resolveFrom.eq_def, h]
  simp

/-! ### Requests -/

/-- What a request has to be. -/
structure ValidRequest (isUuid : String → Bool) (request : DocumentLifecycleMutationRequestV1) :
    Prop where
  schemaVersion : request.schemaVersion = DOCUMENT_LIFECYCLE_REQUEST_SCHEMA
  effectiveAtMs : ¬ request.effectiveAtMs < 0
  docId : validateBlake3Prefixed request.docId = .ok ()
  sessionId : validateBounded request.sessionId MAX_SESSION_ID_CHARS = true
  uuid : isUuid request.sessionId = true
  reason : validateBounded request.reason MAX_REASON_CHARS = true
  target : match request.action with
    | .supersede => ∃ replacement, request.replacementDocId = some replacement
        ∧ replacement ≠ request.docId ∧ validateBlake3Prefixed replacement = .ok ()
    | .tombstone => request.replacementDocId = none

theorem isOk_eq_true_iff {x : AppResult Unit} :
  x.isOk = true ↔ x = .ok ()
  := by
  cases x with
  | error e => simp [Except.isOk, Except.toBool]
  | ok u => simp [Except.isOk, Except.toBool]

theorem validateRequest_eq_ok :
  validateRequest isUuid request = .ok () ↔ ValidRequest isUuid request
  := by
  rw [validateRequest]
  constructor
  · intro h
    split at h
    case isTrue => cases h
    case isFalse hchecks =>
      simp only [not_or, not_not, Bool.not_eq_false, isOk_eq_true_iff] at hchecks
      obtain ⟨hschema, hat, hdoc, hsession, huuid, hreason⟩ := hchecks
      use hschema, hat, hdoc, hsession, huuid, hreason
      cases haction : request.action with
      | supersede =>
        simp only [haction, AppResult.bind_eq_ok, okOrElse_eq_ok] at h
        obtain ⟨replacement, hreplacement, h⟩ := h
        split_ifs at h with hbad
        simp only [not_or, Bool.not_eq_false, isOk_eq_true_iff] at hbad
        use replacement, hreplacement
      | tombstone =>
        simp only [haction] at h
        split_ifs at h with hsome
        simpa using hsome
  · intro h
    have htarget := h.target
    rw [if_neg]
    · cases haction : request.action with
      | supersede =>
        rw [haction] at htarget
        obtain ⟨replacement, hreplacement, hne, hvalid⟩ := htarget
        simp only [hreplacement, okOrElse_some, AppResult.ok_bind]
        rw [if_neg]
        simp only [not_or, Bool.not_eq_false, isOk_eq_true_iff]
        use hne
      | tombstone =>
        rw [haction] at htarget
        simp [htarget]
    · simp only [not_or, not_not, Bool.not_eq_false, isOk_eq_true_iff]
      use h.schemaVersion, h.effectiveAtMs, h.docId, h.sessionId, h.uuid, h.reason

/-- The payload for a request of a subject. -/
def payloadOf (request : DocumentLifecycleMutationRequestV1) (subject docCanonicalHash : String)
    (replacementCanonicalHash : Option String) : DocumentLifecyclePayloadV1 where
  schemaVersion := DOCUMENT_LIFECYCLE_EVENT_SCHEMA
  action := request.action
  docId := request.docId
  docCanonicalHash
  replacementDocId := request.replacementDocId
  replacementCanonicalHash
  subjectId := subject
  reason := request.reason
  effectiveAtMs := request.effectiveAtMs

/-- The documents of a request have no events, and have the canonical texts of the hashes. -/
structure Accepts (request : DocumentLifecycleMutationRequestV1) (db : OwnerDb)
    (byDoc : EventsByDoc) (docCanonicalHash : String)
    (replacementCanonicalHash : Option String) : Prop where
  source : byDoc[request.docId]? = none
  sourceHash : CurrentHash db request.docId docCanonicalHash
  replacement : ∀ docId, request.replacementDocId = some docId → byDoc[docId]? = none
  replacementHash : ∀ docId, request.replacementDocId = some docId →
    ∃ hash, replacementCanonicalHash = some hash ∧ CurrentHash db docId hash
  noReplacement : request.replacementDocId = none → replacementCanonicalHash = none

theorem replacementHash_eq_ok {byDoc : EventsByDoc} {docId : String} {hash : Option String}
    (h : replacementHash faults byDoc db (some docId) = .ok hash) :
  byDoc[docId]? = none ∧ ∃ value, hash = some value ∧ CurrentHash db docId value
  := by
  obtain ⟨resolution, hresolution, h⟩ := AppResult.bind_eq_ok.mp h
  split_ifs at h with hactive
  rw [not_not] at hactive
  simp only [AppResult.bind_eq_ok, okOrElse_eq_ok] at h
  obtain ⟨found, hfound, value, rfl, h⟩ := h
  cases h
  use (initialState_eq_active hresolution).mp hactive, value, rfl
  apply (canonicalHashForDoc_eq_ok.mp hfound).2

/-- A payload is made of documents without events. -/
theorem payloadFor_eq_ok {subject : String} {payload : DocumentLifecyclePayloadV1}
    (h : payloadFor ext parse faults request subject db = .ok payload) :
  ∃ byDoc docCanonicalHash replacementCanonicalHash,
    loadDocumentLifecycleEvents ext parse noFaults db = .ok byDoc
      ∧ Accepts request db byDoc docCanonicalHash replacementCanonicalHash
      ∧ payload = payloadOf request subject docCanonicalHash replacementCanonicalHash
  := by
  obtain ⟨byDoc, hload, h⟩ := AppResult.bind_eq_ok.mp h
  obtain ⟨resolution, hresolution, h⟩ := AppResult.bind_eq_ok.mp h
  split_ifs at h with hactive
  rw [not_not] at hactive
  simp only [AppResult.bind_eq_ok, okOrElse_eq_ok] at h
  obtain ⟨found, hfound, docCanonicalHash, rfl, hash, hhash, h⟩ := h
  cases h
  use byDoc, docCanonicalHash, hash, load_of_load_faults hload
  constructor
  · constructor
    · apply (initialState_eq_active hresolution).mp hactive
    · apply (canonicalHashForDoc_eq_ok.mp hfound).2
    · intro docId hdocId
      rw [hdocId] at hhash
      apply (replacementHash_eq_ok hhash).1
    · intro docId hdocId
      rw [hdocId] at hhash
      apply (replacementHash_eq_ok hhash).2
    · intro hnone
      rw [hnone] at hhash
      cases hhash
      rfl
  · rfl

theorem replacementHash_of_accepts {byDoc : EventsByDoc} {docCanonicalHash : String}
    {hash : Option String} (hvalid : ValidRequest isUuid request)
    (haccepts : Accepts request db byDoc docCanonicalHash hash) :
  replacementHash noFaults byDoc db request.replacementDocId = .ok hash
  := by
  have htarget := hvalid.target
  cases hreplacement : request.replacementDocId with
  | none =>
    rw [haccepts.noReplacement hreplacement]
    rfl
  | some docId =>
    have hdocId : validateBlake3Prefixed docId = .ok () := by
      cases haction : request.action with
      | supersede =>
        rw [haction] at htarget
        obtain ⟨replacement, hreplacement', -, hok⟩ := htarget
        cases hreplacement.symm.trans hreplacement'
        apply hok
      | tombstone =>
        rw [haction] at htarget
        cases hreplacement.symm.trans htarget
    obtain ⟨value, rfl, hcurrent⟩ := haccepts.replacementHash docId hreplacement
    have hfound := canonicalHashForDoc_eq_ok.mpr
      ⟨(rfl : noFaults (.canonicalHash .replacement) = none), hcurrent⟩
    rw [replacementHash,
      resolveDocumentLifecycle_of_none hdocId (haccepts.replacement docId hreplacement),
      AppResult.ok_bind, if_neg (not_not.mpr rfl), hfound]
    rfl

theorem payloadFor_of_accepts {subject : String} {byDoc : EventsByDoc}
    {docCanonicalHash : String} {hash : Option String} (hvalid : ValidRequest isUuid request)
    (hload : loadDocumentLifecycleEvents ext parse noFaults db = .ok byDoc)
    (haccepts : Accepts request db byDoc docCanonicalHash hash) :
  payloadFor ext parse noFaults request subject db
    = .ok (payloadOf request subject docCanonicalHash hash)
  := by
  have hfound := canonicalHashForDoc_eq_ok.mpr
    ⟨(rfl : noFaults (.canonicalHash .source) = none), haccepts.sourceHash⟩
  rw [payloadFor, hload, AppResult.ok_bind,
    resolveDocumentLifecycle_of_none hvalid.docId haccepts.source, AppResult.ok_bind,
    if_neg (not_not.mpr rfl), hfound, AppResult.ok_bind, okOrElse_some, AppResult.ok_bind,
    replacementHash_of_accepts hvalid haccepts]
  rfl

theorem isOk_toCanonicalBytes_toValue (payload : DocumentLifecyclePayloadV1) :
  (CanonJson.toCanonicalBytes payload.toValue).isOk = true
  := by
  have hoption (s : Option String) : CanonJson.hasFloat (.ofOption s) = false := by
    cases s <;> rfl
  have hfloat : CanonJson.hasFloat payload.toValue = false := by
    simp only [DocumentLifecyclePayloadV1.toValue, CanonJson.hasFloat,
      CanonJson.membersHaveFloat, hoption, Bool.or_false]
  obtain ⟨text, htext⟩ := CanonJson.toCanonicalBytes_ok_of_not_hasFloat hfloat
  rw [htext]
  rfl

/-- An allowed request of an authenticated subject about documents without events goes
through. -/
theorem append_of_accepts {session : Trust.IdentitySessionRecord}
    {decision : LineagePolicy.LineagePolicyDecisionV3} {byDoc : EventsByDoc}
    {docCanonicalHash : String} {hash : Option String} (hvalid : ValidRequest isUuid request)
    (hsession : Trust.authenticateIdentitySession parse noFaults db request.sessionId
      request.effectiveAtMs = .ok session)
    (hdecision : decisionOn parse noFaults request session.subject db = .ok decision)
    (hallowed : decision.allowed = true)
    (hload : loadDocumentLifecycleEvents ext parse noFaults db = .ok byDoc)
    (haccepts : Accepts request db byDoc docCanonicalHash hash)
    (hroom : db.events.largestId < Int64.maxValue) :
  ∃ event after row events,
    appendDocumentLifecycleEvent ext parse isUuid noFaults request db = (.ok event, after)
      ∧ event.docId = request.docId
      ∧ after = { withAudit db row with events }
      ∧ events.largestId = db.events.largestId + 1
  := by
  obtain ⟨detailsJson, hdetails⟩ := CanonJson.toCanonicalBytes_ok_of_not_hasFloat
    (LineagePolicy.decisionDetails_hasFloat decision)
  obtain ⟨row, haudit⟩ : ∃ row, LineagePolicy.writePolicyAudit noFaults decision
      request.effectiveAtMs db = .ok (withAudit db row) := by
    rw [LineagePolicy.writePolicyAudit, hdetails]
    exact ⟨_, rfl⟩
  have hpolicy : LineagePolicy.ensureLineagePolicyAllows parse noFaults session.subject
      DOCUMENT_LIFECYCLE_WRITE_ACTION (some request.docId) request.effectiveAtMs db
        = (.ok (), withAudit db row) := by
    rw [decisionOn] at hdecision
    rw [LineagePolicy.ensureLineagePolicyAllows, hdecision]
    simp only [haudit, hallowed, if_true]
  have haccepts' : Accepts request (withAudit db row) byDoc docCanonicalHash hash :=
    ⟨haccepts.source, haccepts.sourceHash, haccepts.replacement, haccepts.replacementHash,
      haccepts.noReplacement⟩
  have hload' : loadDocumentLifecycleEvents ext parse noFaults (withAudit db row)
      = .ok byDoc := by
    obtain ⟨records, hread, hloadable, hbyDoc⟩ := load_eq_ok.mp hload
    apply load_eq_ok.mpr
    use records, hread, hloadable.of_canonicalText_eq rfl
  obtain ⟨record, events, hrecord, hid⟩ : ∃ record events,
      appendEvent ext (noFaults .insertEvent) request.effectiveAtMs request.action.eventType
          (payloadOf request session.subject docCanonicalHash hash).toValue
          (withAudit db row).events
        = .ok (record, events) ∧ events.largestId = db.events.largestId + 1 :=
    exists_appendEvent (isOk_toCanonicalBytes_toValue _) hroom
  use publicEvent ext record (payloadOf request session.subject docCanonicalHash hash)
  use { withAudit db row with events }, row, events
  constructor
  · rw [appendDocumentLifecycleEvent, validateRequest_eq_ok.mpr hvalid]
    simp only [AppResult.ok_bind, noFaults, attempt_none, hsession, hpolicy]
    rw [appendAuthorized, payloadFor_of_accepts hvalid hload' haccepts', AppResult.ok_bind,
      hrecord]
    rfl
  · use rfl, rfl

end Lifecycle

end KnowledgeCore
