import KnowledgeCore.Lifecycle.Loading

/-!
# What is appended loads

An append checks the request, the loader checks what is stored. They agree on everything but the
length of the subject, which only the loader checks.
-/

namespace KnowledgeCore

namespace Lifecycle

variable {ext : Externals} {parse : JsonParser} {isUuid : String → Bool} {faults : Faults}
  {request : DocumentLifecycleMutationRequestV1} {db : OwnerDb}

/-! ### Payloads -/

theorem normalise_toValue (payload : DocumentLifecyclePayloadV1) :
  payload.toValue.normalise = payload.toValue
  := by
  have hoption (s : Option String) : (Json.ofOption s).normalise = Json.ofOption s := by
    cases s <;> rfl
  rw [DocumentLifecyclePayloadV1.toValue, Json.normalise]
  simp only [Json.normaliseMembers, Json.normalise, hoption]
  rw [List.Pairwise.insertionSort_eq]
  simp only [List.pairwise_cons, List.forall_mem_cons]
  decide

@[simp] theorem read_name (action : DocumentLifecycleActionV1) :
  DocumentLifecycleActionV1.read (.str action.name) = .ok action
  := by
  cases action <;> rfl

@[simp] theorem readOption_ofOption (s : Option String) :
  Json.readOption Json.readString (.ofOption s) = .ok s
  := by
  cases s <;> rfl

theorem read_toValue (payload : DocumentLifecyclePayloadV1) :
  DocumentLifecyclePayloadV1.read payload.toValue = .ok payload
  := by
  rw [DocumentLifecyclePayloadV1.toValue, DocumentLifecyclePayloadV1.read]
  simp [Json.expectObject, Json.asObject, DocumentLifecyclePayloadV1.keys, Json.field,
    Json.fieldOr, Json.get, List.lookup_cons]
  rfl

theorem read_parse {payload : DocumentLifecyclePayloadV1} {text : String}
    (hparse : ReadsBack parse payload.toValue)
    (h : CanonJson.toCanonicalBytes payload.toValue = .ok text) :
  (parse text >>= DocumentLifecyclePayloadV1.read) = .ok payload
  := by
  rw [hparse text h, normalise_toValue]
  apply read_toValue

/-- The kinds of a lifecycle event are known. -/
theorem isLifecycleType_eventType (action : DocumentLifecycleActionV1) :
  isLifecycleType action.eventType = true
  := by
  cases action <;> decide

theorem eventType_known (action : DocumentLifecycleActionV1) :
  ¬ (action.eventType ≠ SUPERSEDED_EVENT_TYPE ∧ action.eventType ≠ TOMBSTONED_EVENT_TYPE)
  := by
  cases action <;> simp [DocumentLifecycleActionV1.eventType]

/-! ### The record of a request -/

/-- A record holds the payload of a request. -/
structure RecordOf (request : DocumentLifecycleMutationRequestV1)
    (payload : DocumentLifecyclePayloadV1) (record : EventRecord) : Prop where
  tsMs : record.tsMs = request.effectiveAtMs
  eventType : record.eventType = request.action.eventType
  payloadJson : CanonJson.toCanonicalBytes payload.toValue = .ok record.payloadJson

theorem meetsContract_payloadOf {subject docCanonicalHash : String} {hash : Option String}
    {record : EventRecord} (hvalid : ValidRequest isUuid request)
    (hsubject : isBlank subject = false)
    (hhash : validateBlake3Prefixed docCanonicalHash = .ok ())
    (hrecord : RecordOf request (payloadOf request subject docCanonicalHash hash) record) :
  meetsContract record (payloadOf request subject docCanonicalHash hash)
    = decide (subject.length ≤ MAX_SUBJECT_CHARS)
  := by
  have hbounded : validateBounded subject MAX_SUBJECT_CHARS
      = decide (subject.length ≤ MAX_SUBJECT_CHARS) := by
    rw [validateBounded, hsubject, Bool.not_false, Bool.true_and]
  simp only [meetsContract, payloadOf, hrecord.tsMs, hrecord.eventType, hvalid.docId, hhash,
    hbounded, hvalid.reason, decide_true, Bool.true_and, Bool.and_true]
  rfl

theorem checkReplacement_payloadOf {subject docCanonicalHash : String} {hash : Option String}
    {byDoc : EventsByDoc} (hvalid : ValidRequest isUuid request)
    (haccepts : Accepts request db byDoc docCanonicalHash hash) :
  checkReplacement (payloadOf request subject docCanonicalHash hash) = .ok ()
  := by
  have htarget := hvalid.target
  rw [checkReplacement, payloadOf]
  cases haction : request.action with
  | supersede =>
    rw [haction] at htarget
    obtain ⟨replacement, hreplacement, hne, hok⟩ := htarget
    obtain ⟨value, rfl, hcurrent⟩ := haccepts.replacementHash replacement hreplacement
    simp only [hreplacement, okOrElse_some, AppResult.ok_bind]
    rw [if_neg]
    simp only [not_or, Bool.not_eq_false, isOk_eq_true_iff]
    use hne, hok, hcurrent.2
  | tombstone =>
    rw [haction] at htarget
    simp [htarget, haccepts.noReplacement htarget]

/-- The event of a request is read back, unless the name of its subject is too long. -/
theorem eventFromRecord_payloadOf {subject docCanonicalHash : String} {hash : Option String}
    {byDoc : EventsByDoc} {record : EventRecord}
    (hparse : ReadsBack parse (payloadOf request subject docCanonicalHash hash).toValue)
    (hvalid : ValidRequest isUuid request) (hsubject : isBlank subject = false)
    (haccepts : Accepts request db byDoc docCanonicalHash hash)
    (hrecord : RecordOf request (payloadOf request subject docCanonicalHash hash) record) :
  eventFromRecord ext parse record
    = if subject.length ≤ MAX_SUBJECT_CHARS then
        .ok (some (payloadOf request subject docCanonicalHash hash,
          publicEvent ext record (payloadOf request subject docCanonicalHash hash)))
      else
        .error (corrupt "document lifecycle payload violates its owner contract")
  := by
  have hpayload := read_parse hparse hrecord.payloadJson
  have hcontract := meetsContract_payloadOf hvalid hsubject haccepts.sourceHash.2 hrecord
  rw [eventFromRecord, hrecord.eventType, isLifecycleType_eventType,
    if_neg (eventType_known _), hpayload, mapErr_ok, AppResult.ok_bind, hcontract,
    checkReplacement_payloadOf hvalid haccepts]
  by_cases hlength : subject.length ≤ MAX_SUBJECT_CHARS
  · simp [hlength]
  · simp [hlength]

/-! ### One more event -/

theorem loadRecords_append (records rest : List EventRecord) (byDoc : EventsByDoc) :
  loadRecords ext parse faults db (records ++ rest) byDoc
    = loadRecords ext parse faults db records byDoc >>= loadRecords ext parse faults db rest
  := by
  induction records generalizing byDoc with
  | nil => rfl
  | cons record records ih =>
    rw [List.cons_append, loadRecords, loadRecords]
    cases eventFromRecord ext parse record with
    | error e => rfl
    | ok found =>
      simp only [AppResult.ok_bind]
      cases found with
      | none => apply ih
      | some entry =>
        simp only
        cases checkPinned faults db record.eventId entry.1 with
        | error e => rfl
        | ok u => apply ih

theorem pinned_payloadOf {subject docCanonicalHash : String} {hash : Option String}
    {byDoc : EventsByDoc} (haccepts : Accepts request db byDoc docCanonicalHash hash) :
  Pinned db (payloadOf request subject docCanonicalHash hash)
  := by
  constructor
  · apply haccepts.sourceHash
  · intro docId value hdocId hvalue
    obtain ⟨value', hvalue', hcurrent⟩ := haccepts.replacementHash docId hdocId
    cases hvalue.symm.trans hvalue'
    apply hcurrent

/-- The subject of the session that a request names. -/
def subjectOf (db : OwnerDb) (request : DocumentLifecycleMutationRequestV1) : String :=
  (db.identitySessions[request.sessionId]?.map IdentitySessionRow.subject).getD ""

theorem subject_of_authenticate {session : Trust.IdentitySessionRecord}
    (h : Trust.authenticateIdentitySession parse faults db request.sessionId
      request.effectiveAtMs = .ok session) :
  session.subject = subjectOf db request
  := by
  rw [Trust.authenticateIdentitySession] at h
  split at h
  case isTrue => cases h
  case isFalse =>
    simp only [AppResult.bind_eq_ok, attempt_eq_ok, okOrElse_eq_ok, Except.ok.injEq] at h
    obtain ⟨found, ⟨-, hfound⟩, session', rfl, h⟩ := h
    split_ifs at h
    obtain ⟨⟨⟩, -, h⟩ := AppResult.bind_eq_ok.mp h
    cases h
    simp only [Trust.enabledSession, Option.bind_eq_bind, Option.bind_eq_some_iff] at hfound
    obtain ⟨row, hrow, provider, -, hsession⟩ := hfound
    split_ifs at hsession
    cases hsession
    rw [subjectOf, hrow]
    rfl

/-- What is loaded after an append. -/
theorem load_of_append {byDoc : EventsByDoc} {event : DocumentLifecycleEventV1}
    {after : OwnerDb}
    (hparse : ∀ payload : DocumentLifecyclePayloadV1, ReadsBack parse payload.toValue)
    (hload : loadDocumentLifecycleEvents ext parse noFaults db = .ok byDoc)
    (happend : appendDocumentLifecycleEvent ext parse isUuid faults request db
      = (.ok event, after)) :
  loadDocumentLifecycleEvents ext parse noFaults after
    = if (subjectOf db request).length ≤ MAX_SUBJECT_CHARS then
        .ok (addEvent byDoc event.docId event)
      else
        .error (corrupt "document lifecycle payload violates its owner contract")
  := by
  have houtcome := outcome ext parse isUuid faults request db
  rw [happend] at houtcome
  cases houtcome with
  | appended session row payload record events hvalid hsession hsubject hpayload hrecord =>
    obtain ⟨byDoc', docCanonicalHash, hash, -, haccepts, rfl⟩ := payloadFor_eq_ok hpayload
    obtain ⟨records, hread, hloadable, rfl⟩ := load_eq_ok.mp hload
    have hread' : readVerifiedEventChain ext parse events = .ok (records ++ [record]) := by
      apply HoldsEvents.read
      apply (holdsEvents_of_read hread).append (hparse _) hrecord
    have hloadable' :
        Loadable ext parse { withAudit db row with events } records :=
      hloadable.of_canonicalText_eq rfl
    have hpinned : Pinned { withAudit db row with events }
        (payloadOf request session.subject docCanonicalHash hash) :=
      (pinned_payloadOf haccepts).of_canonicalText_eq rfl
    obtain ⟨htsMs, heventType, hpayloadJson, -⟩ := appendEvent_eq_ok hrecord
    have hvalid' := validateRequest_eq_ok.mp hvalid
    rw [loadDocumentLifecycleEvents, noFaults, attempt_none, hread', AppResult.ok_bind,
      loadRecords_append, hloadable'.loadRecords, AppResult.ok_bind, loadRecords,
      eventFromRecord_payloadOf (hparse _) hvalid' hsubject haccepts
        ⟨htsMs, heventType, hpayloadJson⟩,
      ← subject_of_authenticate hsession]
    by_cases hlength : session.subject.length ≤ MAX_SUBJECT_CHARS
    · rw [if_pos hlength, if_pos hlength, AppResult.ok_bind]
      simp only [hpinned.checkPinned, AppResult.ok_bind]
      rfl
    · rw [if_neg hlength, if_neg hlength]
      rfl

/-- An event that has been appended is loaded with those before it exactly when the name of its
subject is not too long. -/
theorem load_append_iff {byDoc : EventsByDoc} {event : DocumentLifecycleEventV1}
    {after : OwnerDb}
    (hparse : ∀ payload : DocumentLifecyclePayloadV1, ReadsBack parse payload.toValue)
    (hload : loadDocumentLifecycleEvents ext parse noFaults db = .ok byDoc)
    (happend : appendDocumentLifecycleEvent ext parse isUuid faults request db
      = (.ok event, after)) :
  loadDocumentLifecycleEvents ext parse noFaults after = .ok (addEvent byDoc event.docId event)
    ↔ (subjectOf db request).length ≤ MAX_SUBJECT_CHARS
  := by
  rw [load_of_append hparse hload happend]
  split
  case isTrue h => simp [h]
  case isFalse h => simp [h]

end Lifecycle

/-! ### Requests that go through -/

namespace Sample

open Lifecycle

theorem validateBlake3Prefixed_smallHash {n : Nat} (hn : n < 256) :
  validateBlake3Prefixed (smallHash n) = .ok ()
  := by
  have hdigit : ∀ k < 16, Hex.isLowerHex (CanonJson.hexDigit k) = true := by decide
  have hall : (List.replicate 62 '0').all Hex.isLowerHex = true := by decide
  apply validateBlake3Prefixed_append
  · rw [String.length_ofList, List.length_append, List.length_replicate]
    rfl
  · rw [String.toList_ofList, List.all_append, hall]
    simp [hdigit (n / 16) (by omega), hdigit (n % 16) (by omega)]

theorem smallHash_injective {m n : Nat} (hm : m < 256) (hn : n < 256)
    (h : smallHash m = smallHash n) :
  m = n
  := by
  have hdigit : ∀ m < 16, ∀ n < 16, CanonJson.hexDigit m = CanonJson.hexDigit n → m = n := by
    decide
  rw [smallHash, smallHash, String.append_right_inj, String.ofList_inj,
    List.append_cancel_left_eq, List.cons.injEq, List.cons.injEq] at h
  have hhigh := hdigit (m / 16) (by omega) (n / 16) (by omega) h.1
  have hlow := hdigit (m % 16) (by omega) (n % 16) (by omega) h.2.1
  omega

/-- The database of an owner with a session, some documents and a policy that allows all. -/
def boundDb (subject : String) (docs : List String) (events : EventTable)
    (audit : List LineagePolicyAuditRow) : OwnerDb where
  __ := ownerDb subject docs [{
    subjectId := subject
    policyId := "policy"
    boundBy := "owner"
    boundAtMs := 0 }]
  events
  lineagePolicyAudit := audit

theorem canonicalText_foldl {docs : List String} {t : Table CanonicalTextRow} {doc : String} :
  (docs.foldl (fun t doc => t.insert doc (canonicalRow doc)) t)[doc]?
    = if doc ∈ docs then some (canonicalRow doc) else t[doc]?
  := by
  induction docs generalizing t with
  | nil => rfl
  | cons d docs ih =>
    rw [List.foldl_cons, ih, Std.ExtTreeMap.getElem?_insert]
    simp only [Std.LawfulEqCmp.compare_eq_iff_eq, List.mem_cons]
    by_cases hmem : doc ∈ docs
    · simp [hmem]
    · by_cases hd : d = doc
      · simp [hd]
      · simp [hmem, hd, Ne.symm hd]

theorem currentHash_boundDb {subject : String} {docs : List String} {events : EventTable}
    {audit : List LineagePolicyAuditRow} {n : Nat} (hn : n < 256) (hmem : smallHash n ∈ docs) :
  CurrentHash (boundDb subject docs events audit) (smallHash n) (smallHash n)
  := by
  constructor
  · change Option.map CanonicalTextRow.canonicalHash (docs.foldl _ ∅)[smallHash n]? = _
    rw [canonicalText_foldl, if_pos hmem]
    rfl
  · apply validateBlake3Prefixed_smallHash hn

theorem validRequest_supersede {m n : Nat} (hm : m < 256) (hn : n < 256) (hne : m ≠ n) :
  ValidRequest isUuid (supersede (smallHash m) (smallHash n) 5)
  := by
  constructor
  · rfl
  · change ¬ (5 : Int64) < 0
    decide
  · apply validateBlake3Prefixed_smallHash hm
  · change validateBounded sessionId MAX_SESSION_ID_CHARS = true
    decide +kernel
  · change isUuid sessionId = true
    decide
  · change validateBounded "newer version" MAX_REASON_CHARS = true
    decide +kernel
  · use smallHash n, rfl
    use fun h => hne (smallHash_injective hm hn h.symm)
    apply validateBlake3Prefixed_smallHash hn

theorem decisionOn_boundDb {subject : String} (hsubject : isBlank subject = false)
    (docs : List String) (events : EventTable) (audit : List LineagePolicyAuditRow)
    (request : DocumentLifecycleMutationRequestV1) :
  ∃ decision, decisionOn JsonText.parse noFaults request subject
      (boundDb subject docs events audit) = .ok decision ∧ decision.allowed = true
  := by
  have hbound : LineagePolicy.boundPolicies (boundDb subject docs events audit) subject
      = [{
          policyId := "policy"
          policyName := "everything"
          effect := "allow"
          conditionJson := "\x7b\x7d" }] := by
    simp [LineagePolicy.boundPolicies, boundDb, ownerDb]
  have hblank :
      ¬ (isBlank subject = true ∨ isBlank DOCUMENT_LIFECYCLE_WRITE_ACTION = true) := by
    simp only [hsubject, Bool.false_eq_true, false_or]
    decide +kernel
  rw [decisionOn, LineagePolicy.lineagePolicyDecision, if_neg hblank]
  simp only [noFaults, attempt_none, AppResult.ok_bind, hbound]
  exact ⟨_, rfl, rfl⟩

def ownerSession (subject : String) : Trust.IdentitySessionRecord where
  sessionId
  providerId := "default"
  subject
  claimSubsetJson := "{}"
  issuedAtMs := 0
  expiresAtMs := 1000
  createdAtMs := 0

theorem authenticate_boundDb (subject : String) (docs : List String) (events : EventTable)
    (audit : List LineagePolicyAuditRow) :
  Trust.authenticateIdentitySession JsonText.parse noFaults (boundDb subject docs events audit)
      sessionId 5 = .ok (ownerSession subject)
  := by
  have henabled : Trust.enabledSession (boundDb subject docs events audit) sessionId
      = some (ownerSession subject) := by
    simp [Trust.enabledSession, boundDb, ownerDb, ownerSession]
  have hsession : ¬ (isBlank sessionId = true ∨ (5 : Int64) < 0) := by decide +kernel
  rw [Trust.authenticateIdentitySession, if_neg hsession, henabled]
  rfl

theorem exists_append {subject : String} {docs : List String} {events : EventTable}
    {audit : List LineagePolicyAuditRow} {byDoc : EventsByDoc} (m n : Nat) (hm : m < 256)
    (hn : n < 256) (hne : m ≠ n) (hsubject : isBlank subject = false)
    (hmdocs : smallHash m ∈ docs) (hndocs : smallHash n ∈ docs)
    (hload : loadDocumentLifecycleEvents ext JsonText.parse noFaults
      (boundDb subject docs events audit) = .ok byDoc)
    (hmnone : byDoc[smallHash m]? = none) (hnnone : byDoc[smallHash n]? = none)
    (hroom : events.largestId < Int64.maxValue) :
  ∃ event events' audit',
    appendDocumentLifecycleEvent ext JsonText.parse isUuid noFaults
        (supersede (smallHash m) (smallHash n) 5) (boundDb subject docs events audit)
      = (.ok event, boundDb subject docs events' audit')
    ∧ event.docId = smallHash m ∧ events'.largestId = events.largestId + 1
  := by
  have haccepts : Accepts (supersede (smallHash m) (smallHash n) 5)
      (boundDb subject docs events audit) byDoc (smallHash m) (some (smallHash n)) := by
    constructor
    · apply hmnone
    · apply currentHash_boundDb hm hmdocs
    · rintro _ ⟨⟩
      apply hnnone
    · rintro _ ⟨⟩
      use smallHash n, rfl
      apply currentHash_boundDb hn hndocs
    · rintro ⟨⟩
  obtain ⟨decision, hdecision, hallowed⟩ :=
    decisionOn_boundDb hsubject docs events audit (supersede (smallHash m) (smallHash n) 5)
  obtain ⟨event, after, row, events', happend, hdocId, rfl, hid⟩ :=
    append_of_accepts (validRequest_supersede hm hn hne)
      (authenticate_boundDb subject docs events audit) hdecision hallowed hload haccepts hroom
  use event, events', audit ++ [row], happend, hdocId
  apply hid

/-- The name of a subject that an authorization code brings in, one character too long. -/
def longSubject : String :=
  Trust.normalizedSubject ext "default" ("sub:" ++ String.ofList (List.replicate 201 'a'))

theorem longSubject_eq :
  longSubject = String.ofList (List.replicate 201 'a')
  := by
  rw [longSubject, Trust.normalizedSubject_sub, trim_eq_self]
  intro c hc
  rw [String.toList_ofList] at hc
  rw [List.eq_of_mem_replicate hc]
  decide

end Sample

namespace Lifecycle

theorem load_append_long_subject :
  let docs := [Sample.smallHash 0, Sample.smallHash 1]
  let db := Sample.boundDb Sample.longSubject docs .empty []
  let request := Sample.supersede (Sample.smallHash 0) (Sample.smallHash 1) 5
  ∃ event after,
    loadDocumentLifecycleEvents Sample.ext JsonText.parse noFaults db = .ok ∅
      ∧ appendDocumentLifecycleEvent Sample.ext JsonText.parse Sample.isUuid noFaults request db
        = (.ok event, after)
      ∧ loadDocumentLifecycleEvents Sample.ext JsonText.parse noFaults after
        = .error (corrupt "document lifecycle payload violates its owner contract")
  := by
  intro docs db request
  have hload : loadDocumentLifecycleEvents Sample.ext JsonText.parse noFaults db = .ok ∅ :=
    load_of_rows_eq_nil rfl
  have hblank : isBlank Sample.longSubject = false := by
    rw [Sample.longSubject_eq, isBlank, trim_eq_self]
    · decide +kernel
    · intro c hc
      rw [String.toList_ofList] at hc
      rw [List.eq_of_mem_replicate hc]
      decide
  obtain ⟨event, events, audit, happend, -⟩ := Sample.exists_append 0 1 (by decide) (by decide)
    (by decide) hblank (by simp [docs]) (by simp [docs]) hload (by simp) (by simp) (by decide)
  use event, Sample.boundDb Sample.longSubject docs events audit, hload, happend
  rw [load_of_append (fun payload => JsonText.readsBack_parse payload.toValue) hload happend,
    if_neg]
  have hsubject : subjectOf db request = Sample.longSubject := by
    simp [subjectOf, db, request, Sample.boundDb, Sample.ownerDb, Sample.supersede]
  rw [hsubject, Sample.longSubject_eq, String.length_ofList, List.length_replicate]
  decide

theorem load_append_iff_owner :
  let docs := [Sample.smallHash 0, Sample.smallHash 1]
  let db := Sample.boundDb "owner" docs .empty []
  let request := Sample.supersede (Sample.smallHash 0) (Sample.smallHash 1) 5
  ∃ event after,
    appendDocumentLifecycleEvent Sample.ext JsonText.parse Sample.isUuid noFaults request db
        = (.ok event, after)
      ∧ (loadDocumentLifecycleEvents Sample.ext JsonText.parse noFaults after
          = .ok (addEvent ∅ event.docId event)
        ↔ (subjectOf db request).length ≤ MAX_SUBJECT_CHARS)
  := by
  intro docs db request
  have hload : loadDocumentLifecycleEvents Sample.ext JsonText.parse noFaults db = .ok ∅ :=
    load_of_rows_eq_nil rfl
  obtain ⟨event, events, audit, happend, -⟩ := Sample.exists_append 0 1 (by decide) (by decide)
    (by decide) (by decide +kernel) (by simp [docs]) (by simp [docs]) hload (by simp) (by simp)
    (by decide)
  use event, Sample.boundDb "owner" docs events audit, happend
  apply load_append_iff (fun payload => JsonText.readsBack_parse payload.toValue) hload happend

end Lifecycle

end KnowledgeCore
