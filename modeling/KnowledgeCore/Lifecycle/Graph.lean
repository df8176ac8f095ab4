import KnowledgeCore.Lib.Succession
import KnowledgeCore.Lifecycle.Agreement

/-!
# The graph of supersessions

The lifecycle events of a log are a history of retirements. An append only goes through for
documents that have not retired, so the history grows well: no document retires twice, no
supersession leads back, and every document leads to one that is current or tombstoned.
-/

namespace KnowledgeCore

namespace Lifecycle

open Succession

variable {ext : Externals} {parse : JsonParser} {isUuid : String → Bool} {faults : Faults}
  {request : DocumentLifecycleMutationRequestV1} {db : OwnerDb}

/-! ### The history of a log -/

/-- The payload of a lifecycle event. -/
def lifecyclePayload (parse : JsonParser) (record : EventRecord) :
  Option DocumentLifecyclePayloadV1
  :=
  if isLifecycleType record.eventType then
    (parse record.payloadJson >>= DocumentLifecyclePayloadV1.read).toOption
  else
    none

/-- The document that a payload retires, and its successor. -/
def retirement (payload : DocumentLifecyclePayloadV1) : String × Option String :=
  (payload.docId, payload.replacementDocId)

/-- The retirements in a log. -/
def history (parse : JsonParser) (table : EventTable) : History String :=
  ((table.rows.filterMap EventRow.decode).filterMap (lifecyclePayload parse)).map retirement

theorem history_of_rows_eq_nil {table : EventTable} (h : table.rows = []) :
  history parse table = []
  := by
  rw [history, h]
  rfl

/-- One more row adds the retirement it is about. -/
theorem history_concat {table after : EventTable} {record : EventRecord}
    (hrows : after.rows = table.rows ++ [record.row]) :
  history parse after
    = history parse table ++ ((lifecyclePayload parse record).map retirement).toList
  := by
  rw [history, history, hrows, List.filterMap_append, List.filterMap_append, List.map_append]
  cases h : lifecyclePayload parse record with
  | none => simp [h]
  | some payload => simp [h]

/-- An event that is found in a record is the one of its payload. -/
theorem eventFromRecord_eq_some {record : EventRecord} {entry : Entry}
    (h : eventFromRecord ext parse record = .ok (some entry)) :
  lifecyclePayload parse record = some entry.1 ∧ meetsContract record entry.1 = true
    ∧ checkReplacement entry.1 = .ok () ∧ entry.2 = publicEvent ext record entry.1
  := by
  rw [eventFromRecord] at h
  split_ifs at h with htype
  · cases h
  · obtain ⟨payload, hpayload, h⟩ := AppResult.bind_eq_ok.mp h
    split_ifs at h with hcontract
    obtain ⟨⟨⟩, hreplacement, h⟩ := AppResult.bind_eq_ok.mp h
    cases h
    rw [Bool.not_eq_false] at htype hcontract
    rw [mapErr_eq_ok] at hpayload
    use by rw [lifecyclePayload, if_pos htype, hpayload, Except.toOption], hcontract

theorem eventFromRecord_eq_none {record : EventRecord}
    (h : eventFromRecord ext parse record = .ok none) :
  lifecyclePayload parse record = none
  := by
  rw [eventFromRecord] at h
  split_ifs at h with htype
  · rw [lifecyclePayload, htype]
    rfl
  · obtain ⟨payload, hpayload, h⟩ := AppResult.bind_eq_ok.mp h
    split_ifs at h
    obtain ⟨⟨⟩, hreplacement, h⟩ := AppResult.bind_eq_ok.mp h
    cases h

/-- What is loaded is the history of the log. -/
theorem Loadable.filterMap_lifecyclePayload {records : List EventRecord}
    (h : Loadable ext parse db records) :
  records.filterMap (lifecyclePayload parse) = (entries ext parse records).map Prod.fst
  := by
  induction records with
  | nil => rfl
  | cons record rest ih =>
    obtain ⟨found, hfound⟩ := exists_of_isOk (h.readable record List.mem_cons_self)
    rw [entries_cons hfound, List.map_append, ← ih ((loadable_cons hfound).mp h).2]
    cases found with
    | none => rw [List.filterMap_cons_none (eventFromRecord_eq_none hfound)]; rfl
    | some entry =>
      rw [List.filterMap_cons_some (eventFromRecord_eq_some hfound).1]
      rfl

theorem history_of_read {records : List EventRecord}
    (hread : readVerifiedEventChain ext parse db.events = .ok records)
    (h : Loadable ext parse db records) :
  history parse db.events = (entries ext parse records).map fun entry => retirement entry.1
  := by
  have hdecode : (records.map EventRecord.row).filterMap EventRow.decode = records := by
    rw [List.filterMap_map]
    simp
  rw [history, (holdsEvents_of_read hread).rows, hdecode, h.filterMap_lifecyclePayload,
    List.map_map]
  rfl

/-- A document has no events exactly when it has not retired. -/
theorem getElem?_load_eq_none {byDoc : EventsByDoc} {docId : String}
    (h : loadDocumentLifecycleEvents ext parse noFaults db = .ok byDoc) :
  byDoc[docId]? = none ↔ ∀ e ∈ history parse db.events, docId ≠ e.1
  := by
  obtain ⟨records, hread, hloadable, rfl⟩ := load_eq_ok.mp h
  rw [getElem?_group_eq_none, history_of_read hread hloadable, List.forall_mem_map]
  apply forall₂_congr
  intro entry _
  apply ne_comm

/-! ### Runs -/

/-- The databases that are reached from one with an empty log, by changes of lifecycles, by other
events, and by changes of other tables. Before every change of a lifecycle that goes through, the
request and the database have to be as `P` says. -/
inductive Reachable (ext : Externals) (parse : JsonParser) (isUuid : String → Bool)
    (P : DocumentLifecycleMutationRequestV1 → OwnerDb → Prop) : OwnerDb → Prop
  | start (db : OwnerDb) (h : db.events.rows = []) : Reachable ext parse isUuid P db
  | append (faults : Faults) (request : DocumentLifecycleMutationRequestV1) (db : OwnerDb)
      (hdb : Reachable ext parse isUuid P db)
      (h : ∀ event,
        (appendDocumentLifecycleEvent ext parse isUuid faults request db).1 = .ok event →
          P request db) :
    Reachable ext parse isUuid P
      (appendDocumentLifecycleEvent ext parse isUuid faults request db).2
  | event (fault : Option String) (tsMs : Int64) (eventType : String) (payload : Json)
      (record : EventRecord) (events : EventTable) (db : OwnerDb)
      (hdb : Reachable ext parse isUuid P db) (htype : isLifecycleType eventType = false)
      (h : appendEvent ext fault tsMs eventType payload db.events = .ok (record, events)) :
    Reachable ext parse isUuid P { db with events }
  | other (db after : OwnerDb) (hdb : Reachable ext parse isUuid P db)
      (h : after.events = db.events) :
    Reachable ext parse isUuid P after

/-- The source and the replacement of a request have not retired. -/
def Unretired (request : DocumentLifecycleMutationRequestV1) (h : History String) : Prop :=
  ∀ e ∈ h, request.docId ≠ e.1 ∧ request.replacementDocId ≠ some e.1

theorem Accepts.unretired {byDoc : EventsByDoc} {docCanonicalHash : String}
    {hash : Option String} (haccepts : Accepts request db byDoc docCanonicalHash hash)
    (hload : loadDocumentLifecycleEvents ext parse noFaults db = .ok byDoc) :
  Unretired request (history parse db.events)
  := by
  intro e he
  constructor
  · apply (getElem?_load_eq_none hload).mp haccepts.source e he
  · intro hreplacement
    have hnone := haccepts.replacement e.1 hreplacement
    apply (getElem?_load_eq_none hload).mp hnone e he
    rfl

theorem ValidRequest.irrefl (h : ValidRequest isUuid request) :
  request.replacementDocId ≠ some request.docId
  := by
  have htarget := h.target
  cases haction : request.action with
  | supersede =>
    rw [haction] at htarget
    obtain ⟨replacement, hreplacement, hne, -⟩ := htarget
    rw [hreplacement]
    apply fun h => hne (Option.some.inj h)
  | tombstone =>
    rw [haction] at htarget
    simp [htarget]

/-- An append that goes through retires its source, and neither its source nor its replacement
had retired before. -/
theorem history_append (hparse : ∀ payload : DocumentLifecyclePayloadV1,
      ReadsBack parse payload.toValue) {event : DocumentLifecycleEventV1} {after : OwnerDb}
    (h : appendDocumentLifecycleEvent ext parse isUuid faults request db = (.ok event, after)) :
  Unretired request (history parse db.events)
    ∧ request.replacementDocId ≠ some request.docId
    ∧ history parse after.events
      = history parse db.events ++ [(request.docId, request.replacementDocId)]
  := by
  have houtcome := outcome ext parse isUuid faults request db
  rw [h] at houtcome
  cases houtcome with
  | appended session row payload record events hvalid hsession hsubject hpayload hrecord =>
    obtain ⟨byDoc, docCanonicalHash, hash, hload, haccepts, rfl⟩ := payloadFor_eq_ok hpayload
    obtain ⟨-, heventType, hpayloadJson, -, -, hrows⟩ := appendEvent_eq_ok hrecord
    have hlifecycle : lifecyclePayload parse record
        = some (payloadOf request session.subject docCanonicalHash hash) := by
      rw [lifecyclePayload, heventType, if_pos (isLifecycleType_eventType _),
        read_parse (hparse _) hpayloadJson]
      rfl
    use haccepts.unretired hload, (validateRequest_eq_ok.mp hvalid).irrefl
    rw [history_concat hrows, hlifecycle]
    rfl

theorem history_append_error {e : AppError} {after : OwnerDb}
    (h : appendDocumentLifecycleEvent ext parse isUuid faults request db = (.error e, after)) :
  after.events = db.events
  := by
  have houtcome := outcome ext parse isUuid faults request db
  rw [h] at houtcome
  cases houtcome with
  | failed => rfl
  | denied => rfl

/-- The history changes by retirements alone, of documents that have not retired. -/
theorem Reachable.induction {P : DocumentLifecycleMutationRequestV1 → OwnerDb → Prop}
    {Q : History String → Prop}
    (hparse : ∀ payload : DocumentLifecyclePayloadV1, ReadsBack parse payload.toValue)
    (hstart : Q [])
    (hstep : ∀ (request : DocumentLifecycleMutationRequestV1) (db : OwnerDb), P request db →
      Unretired request (history parse db.events) →
      request.replacementDocId ≠ some request.docId → Q (history parse db.events) →
      Q (history parse db.events ++ [(request.docId, request.replacementDocId)]))
    (h : Reachable ext parse isUuid P db) :
  Q (history parse db.events)
  := by
  induction h with
  | start db hrows =>
    rw [history_of_rows_eq_nil hrows]
    apply hstart
  | append faults request db hdb hP ih =>
    cases happend : appendDocumentLifecycleEvent ext parse isUuid faults request db with
    | mk result after =>
      cases result with
      | error e =>
        rw [history_append_error happend]
        apply ih
      | ok event =>
        obtain ⟨hunretired, hirrefl, hhistory⟩ := history_append hparse happend
        rw [hhistory]
        rw [happend] at hP
        apply hstep request db (hP event rfl) hunretired hirrefl ih
  | event fault tsMs eventType payload record events db hdb htype happend ih =>
    obtain ⟨-, heventType, -, -, -, hrows⟩ := appendEvent_eq_ok happend
    have hlifecycle : lifecyclePayload parse record = none := by
      rw [lifecyclePayload, heventType, htype]
      rfl
    rw [history_concat hrows, hlifecycle]
    simpa using ih
  | other db after hdb hevents ih =>
    rw [hevents]
    apply ih

theorem Reachable.wellGrown {P : DocumentLifecycleMutationRequestV1 → OwnerDb → Prop}
    (hparse : ∀ payload : DocumentLifecyclePayloadV1, ReadsBack parse payload.toValue)
    (h : Reachable ext parse isUuid P db) :
  WellGrown (history parse db.events)
  := by
  apply h.induction hparse wellGrown_nil
  intro request db _ hunretired hirrefl hgrown
  apply wellGrown_concat.mpr
  use hgrown, hirrefl
  apply hunretired

/-! ### Resolution along the history -/

/-- An event names the successor of its document, unless it is a tombstone. -/
def NamesSuccessor (event : DocumentLifecycleEventV1) : Prop :=
  match event.action with
  | .supersede => ∃ replacement, event.replacementDocId = some replacement
  | .tombstone => event.replacementDocId = none

theorem namesSuccessor_of_checkReplacement {record : EventRecord}
    {payload : DocumentLifecyclePayloadV1} (h : checkReplacement payload = .ok ()) :
  NamesSuccessor (publicEvent ext record payload)
  := by
  rw [checkReplacement] at h
  rw [NamesSuccessor, publicEvent]
  cases haction : payload.action with
  | supersede =>
    simp only [haction, AppResult.bind_eq_ok, okOrElse_eq_ok] at h
    obtain ⟨replacement, hreplacement, -⟩ := h
    use replacement
  | tombstone =>
    simp only [haction] at h
    split_ifs at h with hsome
    simpa using fun hne => hsome (Or.inl hne)

theorem exists_of_mem_entries {records : List EventRecord} {entry : Entry}
    (h : entry ∈ entries ext parse records) :
  ∃ record, eventFromRecord ext parse record = .ok (some entry)
  := by
  obtain ⟨record, -, hrecord⟩ := List.mem_filterMap.mp h
  use record
  cases hevent : eventFromRecord ext parse record with
  | error e =>
    rw [hevent] at hrecord
    cases hrecord
  | ok found =>
    rw [hevent] at hrecord
    exact congrArg _ hrecord

theorem namesSuccessor_of_mem_entries {records : List EventRecord} {entry : Entry}
    (h : entry ∈ entries ext parse records) :
  NamesSuccessor entry.2 ∧ entry.2.replacementDocId = entry.1.replacementDocId
  := by
  obtain ⟨record, hrecord⟩ := exists_of_mem_entries h
  obtain ⟨-, -, hreplacement, hpublic⟩ := eventFromRecord_eq_some hrecord
  rw [hpublic]
  use namesSuccessor_of_checkReplacement hreplacement
  rfl

theorem length_eventsOf_le_one {l : List Entry}
    (h : (l.map fun entry => entry.1.docId).Nodup) (docId : String) :
  (eventsOf l docId).length ≤ 1
  := by
  have hcount := List.nodup_iff_count_le_one.mp h docId
  rw [List.count, List.countP_map, List.countP_eq_length_filter] at hcount
  rw [eventsOf, List.length_map]
  apply hcount

/-- Where the history has grown well, a document that has events has one, which names its
successor. -/
theorem getElem?_load_eq_some {byDoc : EventsByDoc} {docId : String}
    {events : List DocumentLifecycleEventV1} (hgrown : WellGrown (history parse db.events))
    (hload : loadDocumentLifecycleEvents ext parse noFaults db = .ok byDoc)
    (h : byDoc[docId]? = some events) :
  ∃ event, events = [event] ∧ NamesSuccessor event
    ∧ (docId, event.replacementDocId) ∈ history parse db.events
  := by
  obtain ⟨records, hread, hloadable, rfl⟩ := load_eq_ok.mp hload
  have hhistory := history_of_read hread hloadable
  rw [getElem?_group] at h
  split_ifs at h with hnil
  · simp at h
  · have hnodup := hgrown.nodup
    rw [hhistory, List.map_map] at hnodup
    have hlength := length_eventsOf_le_one hnodup docId
    obtain ⟨event, hevent⟩ : ∃ event, eventsOf (entries ext parse records) docId = [event] := by
      apply List.length_eq_one_iff.mp
      have := List.length_pos_of_ne_nil hnil
      omega
    have hmem : event ∈ eventsOf (entries ext parse records) docId := by simp [hevent]
    obtain ⟨entry, hentry, rfl⟩ := List.mem_map.mp hmem
    obtain ⟨hentry, hdocId⟩ := List.mem_filter.mp hentry
    obtain ⟨hnames, hreplacement⟩ := namesSuccessor_of_mem_entries hentry
    use entry.2
    constructor
    · rw [hevent] at h
      simpa using h.symm
    · use hnames
      rw [hhistory, hreplacement, ← of_decide_eq_true hdocId]
      apply List.mem_map_of_mem hentry

/-- A resolution ends where the successions from a document end. -/
structure EndsAt (h : History String) (docId : String)
    (resolution : DocumentLifecycleResolutionV1) : Prop where
  terminalDocId : resolution.terminalDocId = some (finish h docId)
  terminalState : resolution.terminalState = .active ∧ (∀ s, (finish h docId, s) ∉ h)
    ∨ resolution.terminalState = .tombstoned ∧ (finish h docId, none) ∈ h

/-- The resolution ends at a document without events. -/
theorem endsAt_of_none {byDoc : EventsByDoc} {docId : String}
    (hload : loadDocumentLifecycleEvents ext parse noFaults db = .ok byDoc)
    (h : byDoc[docId]? = none) (sourceDocId : String)
    (initialState : DocumentLifecycleInitialStateV1) (events : List DocumentLifecycleEventV1) :
  depth (history parse db.events) docId = 0
    ∧ EndsAt (history parse db.events) docId
        ⟨sourceDocId, initialState, .active, some docId, events⟩
  := by
  have hnotMem : ∀ s, (docId, s) ∉ history parse db.events := by
    intro s hs
    apply (getElem?_load_eq_none hload).mp h _ hs
    rfl
  use depth_of_notMem hnotMem
  constructor
  · rw [finish_of_notMem hnotMem]
  · left
    rw [finish_of_notMem hnotMem]
    use rfl

/-- A document is resolved where the successions from it end, if there is room for them. -/
theorem resolveFrom_of_load {byDoc : EventsByDoc}
    (hgrown : WellGrown (history parse db.events))
    (hload : loadDocumentLifecycleEvents ext parse noFaults db = .ok byDoc)
    (sourceDocId : String) (room : Nat) (current : String) (visited : List String)
    (initialState : DocumentLifecycleInitialStateV1) (events : List DocumentLifecycleEventV1)
    (hvisited : ∀ docId ∈ visited,
      depth (history parse db.events) current < depth (history parse db.events) docId) :
  if depth (history parse db.events) current ≤ room then
    ∃ resolution,
      resolveFrom byDoc sourceDocId room current visited initialState events = .ok resolution
        ∧ EndsAt (history parse db.events) current resolution
  else
    resolveFrom byDoc sourceDocId room current visited initialState events
      = .error (corrupt "document lifecycle exceeds its depth bound")
  := by
  induction room generalizing current visited initialState events with
  | zero =>
    have hresolves := resolves byDoc sourceDocId 0 current visited initialState events
    generalize resolveFrom byDoc sourceDocId 0 current visited initialState events = result
      at hresolves
    cases hresolves with
    | active _ _ _ _ _ hcurrent =>
      obtain ⟨hdepth, hends⟩ := endsAt_of_none hload hcurrent sourceDocId initialState events
      rw [hdepth, if_pos le_rfl]
      exact ⟨_, rfl, hends⟩
    | full _ _ _ _ currentEvents hcurrent =>
      obtain ⟨event, -, -, hmem⟩ := getElem?_load_eq_some hgrown hload hcurrent
      have hpos := hgrown.depth_pos hmem
      rw [if_neg (by omega)]
    | cycle _ _ _ _ _ hcycle => exact absurd (hvisited current hcycle) (lt_irrefl _)
  | succ room ih =>
    have hresolves := resolves byDoc sourceDocId (room + 1) current visited initialState events
    generalize resolveFrom byDoc sourceDocId (room + 1) current visited initialState events
      = result at hresolves
    cases hresolves with
    | active _ _ _ _ _ hcurrent =>
      obtain ⟨hdepth, hends⟩ := endsAt_of_none hload hcurrent sourceDocId initialState events
      rw [hdepth, if_pos (Nat.zero_le _)]
      exact ⟨_, rfl, hends⟩
    | cycle _ _ _ _ _ hcycle => exact absurd (hvisited current hcycle) (lt_irrefl _)
    | tombstoned _ _ _ _ _ event hcurrent haction =>
      obtain ⟨event', hevents, hnames, hmem⟩ := getElem?_load_eq_some hgrown hload hcurrent
      cases hevents
      rw [NamesSuccessor, haction] at hnames
      rw [hnames] at hmem
      rw [hgrown.depth_of_none hmem, if_pos (by omega)]
      refine ⟨_, rfl, ?_⟩
      constructor
      · rw [hgrown.finish_of_none hmem]
      · right
        rw [hgrown.finish_of_none hmem]
        use rfl
    | conflicted _ _ _ _ _ currentEvents hcurrent hlength =>
      obtain ⟨event, rfl, -⟩ := getElem?_load_eq_some hgrown hload hcurrent
      exact absurd rfl hlength
    | dangling _ _ _ _ _ event hcurrent haction hnext =>
      obtain ⟨event', hevents, hnames, -⟩ := getElem?_load_eq_some hgrown hload hcurrent
      cases hevents
      rw [NamesSuccessor, haction] at hnames
      obtain ⟨replacement, hreplacement⟩ := hnames
      rw [hnext] at hreplacement
      cases hreplacement
    | superseded _ _ _ _ _ event next _ hcurrent haction hnext hresult =>
      obtain ⟨event', hevents, -, hmem⟩ := getElem?_load_eq_some hgrown hload hcurrent
      cases hevents
      rw [hnext] at hmem
      have hdepth := hgrown.depth_of_mem hmem
      have hfinish := hgrown.finish_of_mem hmem
      have hvisited' : ∀ docId ∈ current :: visited,
          depth (history parse db.events) next < depth (history parse db.events) docId := by
        intro docId hdocId
        rcases List.mem_cons.mp hdocId with rfl | hdocId
        · omega
        · have := hvisited docId hdocId
          omega
      have hrest := ih next (current :: visited)
        (initialStateAfter events event.action initialState) (events ++ [event]) hvisited'
      rw [hresult] at hrest
      rw [hdepth]
      simp only [Nat.add_le_add_iff_right]
      split
      case isTrue h =>
        rw [if_pos h] at hrest
        obtain ⟨resolution, hok, hends⟩ := hrest
        use resolution, hok
        constructor
        · rw [hfinish]
          apply hends.terminalDocId
        · rw [hfinish]
          apply hends.terminalState
      case isFalse h =>
        rw [if_neg h] at hrest
        apply hrest

theorem resolveDocumentLifecycle_of_load {byDoc : EventsByDoc}
    (hgrown : WellGrown (history parse db.events))
    (hload : loadDocumentLifecycleEvents ext parse noFaults db = .ok byDoc) {docId : String}
    (hdocId : validateBlake3Prefixed docId = .ok ()) :
  if depth (history parse db.events) docId ≤ MAX_CHAIN_DEPTH then
    ∃ resolution, resolveDocumentLifecycle docId byDoc = .ok resolution
      ∧ EndsAt (history parse db.events) docId resolution
  else
    resolveDocumentLifecycle docId byDoc
      = .error (corrupt "document lifecycle exceeds its depth bound")
  := by
  have h := resolveFrom_of_load hgrown hload docId MAX_CHAIN_DEPTH docId [] .active []
    (by simp)
  rw [resolveDocumentLifecycle, hdocId, mapErr_ok, AppResult.ok_bind]
  exact h

/-- In every database that is reached, no document retires twice, no supersession leads back, a
document that has retired is not accepted again as a source or as a replacement, and the
successions from every document end in one place, a document that has not retired or a
tombstone. That is where the document is resolved, which is never in conflict. -/
theorem graph_of_reachable (ext : Externals) (parse : JsonParser) (isUuid : String → Bool)
    (db : OwnerDb)
    (hparse : ∀ payload : DocumentLifecyclePayloadV1, ReadsBack parse payload.toValue)
    (h : Reachable ext parse isUuid (fun _ _ => True) db) :
  ((history parse db.events).map Prod.fst).Nodup
    ∧ (∀ docId, ¬ Relation.TransGen (Succeeds (history parse db.events)) docId docId)
    ∧ (history parse db.events).Pairwise
        (fun earlier later => later.1 ≠ earlier.1 ∧ later.2 ≠ some earlier.1)
    ∧ (∀ faults request event after,
        appendDocumentLifecycleEvent ext parse isUuid faults request db = (.ok event, after) →
          Unretired request (history parse db.events))
    ∧ (∀ docId, ∃! final,
        Relation.ReflTransGen (Succeeds (history parse db.events)) docId final
          ∧ Final (history parse db.events) final)
    ∧ ∀ byDoc docId resolution,
        loadDocumentLifecycleEvents ext parse noFaults db = .ok byDoc →
          resolveDocumentLifecycle docId byDoc = .ok resolution →
            EndsAt (history parse db.events) docId resolution
  := by
  have hgrown := h.wellGrown hparse
  use hgrown.nodup, hgrown.acyclic, hgrown.pairwise
  constructor
  · intro faults request event after happend
    apply (history_append hparse happend).1
  constructor
  · intro docId
    obtain ⟨hreach, hfinal, hunique⟩ := hgrown.existsUnique_final docId
    use finish (history parse db.events) docId, ⟨hreach, hfinal⟩
    rintro other ⟨hother, hotherFinal⟩
    apply hunique other hother hotherFinal
  · intro byDoc docId resolution hload hresolve
    obtain ⟨⟨⟩, hdocId, -⟩ := AppResult.bind_eq_ok.mp hresolve
    have hresolved := resolveDocumentLifecycle_of_load hgrown hload (mapErr_eq_ok.mp hdocId)
    rw [hresolve] at hresolved
    split at hresolved
    case isTrue =>
      obtain ⟨resolution', hok, hends⟩ := hresolved
      cases hok
      apply hends
    case isFalse => cases hresolved

/-! ### The length of chains -/

/-- The chains that end in the source of a request can be longer by one event. -/
def Extensible (parse : JsonParser) (request : DocumentLifecycleMutationRequestV1)
    (db : OwnerDb) : Prop :=
  ∀ docId, finish (history parse db.events) docId = request.docId →
    depth (history parse db.events) docId < MAX_CHAIN_DEPTH

theorem Reachable.depth_le
    (hparse : ∀ payload : DocumentLifecyclePayloadV1, ReadsBack parse payload.toValue)
    (h : Reachable ext parse isUuid (Extensible parse) db) (docId : String) :
  depth (history parse db.events) docId ≤ MAX_CHAIN_DEPTH
  := by
  revert docId
  apply h.induction (Q := fun l => ∀ docId, depth l docId ≤ MAX_CHAIN_DEPTH) hparse
  · intro docId
    apply Nat.zero_le
  · intro request db hextensible _ _ ih docId
    rw [depth_concat]
    split
    case isTrue hfinish => apply hextensible docId hfinish
    case isFalse => apply ih docId

theorem validate_of_load {byDoc : EventsByDoc} {docId : String}
    {events : List DocumentLifecycleEventV1}
    (hload : loadDocumentLifecycleEvents ext parse noFaults db = .ok byDoc)
    (h : byDoc[docId]? = some events) :
  validateBlake3Prefixed docId = .ok ()
  := by
  obtain ⟨records, hread, hloadable, rfl⟩ := load_eq_ok.mp hload
  have hsome : ¬ (group ∅ (entries ext parse records))[docId]? = none := by simp [h]
  rw [getElem?_group_eq_none] at hsome
  push Not at hsome
  obtain ⟨entry, hentry, rfl⟩ := hsome
  obtain ⟨record, hrecord⟩ := exists_of_mem_entries hentry
  obtain ⟨-, hcontract, -⟩ := eventFromRecord_eq_some hrecord
  simp only [meetsContract, Bool.and_eq_true, isOk_eq_true_iff] at hcontract
  tauto

/-- Where no chain is made longer than the resolution can follow, every document with events is
resolved in every database that is reached. -/
theorem resolve_of_reachable (ext : Externals) (parse : JsonParser) (isUuid : String → Bool)
    (db : OwnerDb)
    (hparse : ∀ payload : DocumentLifecyclePayloadV1, ReadsBack parse payload.toValue)
    (h : Reachable ext parse isUuid (Extensible parse) db) (byDoc : EventsByDoc)
    (hload : loadDocumentLifecycleEvents ext parse noFaults db = .ok byDoc) (docId : String)
    (events : List DocumentLifecycleEventV1) (hdocId : byDoc[docId]? = some events) :
  ∃ resolution, resolveDocumentLifecycle docId byDoc = .ok resolution
  := by
  have hresolved := resolveDocumentLifecycle_of_load (h.wellGrown hparse) hload
    (validate_of_load hload hdocId)
  rw [if_pos (h.depth_le hparse docId)] at hresolved
  obtain ⟨resolution, hok, -⟩ := hresolved
  use resolution

end Lifecycle

/-! ### A long chain -/

namespace Sample

open Lifecycle Succession

/-- Documents, each of them superseded by the next. -/
def chain (n : Nat) : History String :=
  (List.range n).map fun k => (smallHash k, some (smallHash (k + 1)))

def chainDocs : List String := (List.range 102).map smallHash

theorem chain_succ (n : Nat) :
  chain (n + 1) = chain n ++ [(smallHash n, some (smallHash (n + 1)))]
  := by
  rw [chain, chain, List.range_succ, List.map_append, List.map_singleton]

theorem smallHash_notMem_chain {m n : Nat} (hm : m < 256) (h : n ≤ m) :
  ∀ e ∈ chain n, smallHash m ≠ e.1
  := by
  intro e he
  obtain ⟨k, hk, rfl⟩ := List.mem_map.mp he
  rw [List.mem_range] at hk
  intro heq
  have := smallHash_injective hm (by omega) heq
  omega

theorem finish_chain {n : Nat} (hn : n < 256) :
  finish (chain n) (smallHash 0) = smallHash n
  := by
  induction n with
  | zero => rfl
  | succ n ih =>
    rw [chain_succ, finish_append, ih (by omega)]
    simp [finish]

theorem depth_chain {n : Nat} (hn : n < 256) :
  depth (chain n) (smallHash 0) = n
  := by
  induction n with
  | zero => rfl
  | succ n ih => rw [chain_succ, depth_concat, finish_chain (by omega), if_pos rfl, ih (by omega)]

/-- The chains of up to 101 supersessions are reached. -/
theorem exists_chain {P : DocumentLifecycleMutationRequestV1 → OwnerDb → Prop} {n : Nat}
    (hn : n ≤ 101)
    (hP : ∀ k < n, ∀ request db, history JsonText.parse db.events = chain k → P request db) :
  ∃ events audit byDoc,
    Reachable ext JsonText.parse isUuid P (boundDb "owner" chainDocs events audit)
      ∧ loadDocumentLifecycleEvents ext JsonText.parse noFaults
          (boundDb "owner" chainDocs events audit) = .ok byDoc
      ∧ history JsonText.parse events = chain n ∧ events.largestId = Int64.ofNat n
  := by
  have hparse (payload : DocumentLifecyclePayloadV1) :
      ReadsBack JsonText.parse payload.toValue := JsonText.readsBack_parse payload.toValue
  induction n with
  | zero =>
    use .empty, [], ∅, .start _ rfl
    use load_of_rows_eq_nil rfl, rfl
    rfl
  | succ n ih =>
    obtain ⟨events, audit, byDoc, hreachable, hload, hhistory, hid⟩ :=
      ih (by omega) fun k hk => hP k (by omega)
    have hnone {m : Nat} (hm : m < 256) (h : n ≤ m) : byDoc[smallHash m]? = none := by
      apply (getElem?_load_eq_none hload).mpr
      change ∀ e ∈ history JsonText.parse events, _
      rw [hhistory]
      apply smallHash_notMem_chain hm h
    have hdocs {m : Nat} (hm : m < 102) : smallHash m ∈ chainDocs :=
      List.mem_map_of_mem (List.mem_range.mpr hm)
    have hroom : ∀ k < 101, Int64.ofNat k < Int64.maxValue := by decide
    obtain ⟨event, events', audit', happend, -, hid'⟩ :=
      exists_append n (n + 1) (by omega) (by omega) (by omega) (by decide +kernel)
        (hdocs (by omega)) (hdocs (by omega)) hload (hnone (by omega) (le_refl n))
        (hnone (by omega) (by omega)) (hid ▸ hroom n (by omega))
    have hsubject : subjectOf (boundDb "owner" chainDocs events audit)
        (supersede (smallHash n) (smallHash (n + 1)) 5) = "owner" := by
      simp [subjectOf, boundDb, ownerDb, supersede]
    have hload' := load_of_append hparse hload happend
    rw [hsubject, if_pos (by decide)] at hload'
    use events', audit', addEvent byDoc event.docId event
    constructor
    · have hstep := Reachable.append noFaults
        (supersede (smallHash n) (smallHash (n + 1)) 5) _ hreachable
        (fun _ _ => hP n (by omega) _ _ hhistory)
      rw [happend] at hstep
      apply hstep
    · use hload'
      constructor
      · rw [chain_succ, ← hhistory]
        apply (history_append hparse happend).2.2
      · rw [hid', hid, Int64.ofNat_add]
        rfl

end Sample

namespace Lifecycle

open Succession

theorem graph_of_reachable_chain :
  ∃ events audit,
    Reachable Sample.ext JsonText.parse Sample.isUuid (fun _ _ => True)
        (Sample.boundDb "owner" Sample.chainDocs events audit)
      ∧ history JsonText.parse events = Sample.chain 3
      ∧ ((history JsonText.parse events).map Prod.fst).Nodup
  := by
  obtain ⟨events, audit, byDoc, hreachable, hload, hhistory, -⟩ :=
    Sample.exists_chain (n := 3) (P := fun _ _ => True) (by decide) (by simp)
  use events, audit, hreachable, hhistory
  apply (graph_of_reachable _ _ _ _ (fun payload => JsonText.readsBack_parse payload.toValue)
    hreachable).1

theorem resolve_of_reachable_supersede :
  ∃ events audit byDoc,
    Reachable Sample.ext JsonText.parse Sample.isUuid (Extensible JsonText.parse)
        (Sample.boundDb "owner" Sample.chainDocs events audit)
      ∧ history JsonText.parse events = Sample.chain 1
      ∧ ∃ resolution,
          resolveDocumentLifecycle (Sample.smallHash 0) byDoc = .ok resolution
  := by
  have hextensible : ∀ k < 1, ∀ request (db : OwnerDb),
      history JsonText.parse db.events = Sample.chain k →
        Extensible JsonText.parse request db := by
    intro k hk request db hhistory docId _
    obtain rfl : k = 0 := by omega
    rw [hhistory]
    change 0 < MAX_CHAIN_DEPTH
    decide
  obtain ⟨events, audit, byDoc, hreachable, hload, hhistory, -⟩ :=
    Sample.exists_chain (by decide) hextensible
  have hsome : byDoc[Sample.smallHash 0]? ≠ none := by
    rw [ne_eq, getElem?_load_eq_none hload]
    change ¬ ∀ e ∈ history JsonText.parse events, _
    rw [hhistory]
    simp [Sample.chain]
  obtain ⟨docEvents, hdocEvents⟩ := Option.ne_none_iff_exists'.mp hsome
  use events, audit, byDoc, hreachable, hhistory
  apply resolve_of_reachable _ _ _ _
    (fun payload => JsonText.readsBack_parse payload.toValue) hreachable _ hload _ _ hdocEvents

/-- A chain of 101 supersessions is reached, and the document it starts from is not resolved. -/
theorem resolve_long_chain :
  ∃ db byDoc events,
    Reachable Sample.ext JsonText.parse Sample.isUuid (fun _ _ => True) db
      ∧ loadDocumentLifecycleEvents Sample.ext JsonText.parse noFaults db = .ok byDoc
      ∧ byDoc[Sample.smallHash 0]? = some events
      ∧ resolveDocumentLifecycle (Sample.smallHash 0) byDoc
          = .error (corrupt "document lifecycle exceeds its depth bound")
  := by
  obtain ⟨events, audit, byDoc, hreachable, hload, hhistory, -⟩ :=
    Sample.exists_chain (n := 101) (P := fun _ _ => True) (by decide) (by simp)
  have hsome : byDoc[Sample.smallHash 0]? ≠ none := by
    rw [ne_eq, getElem?_load_eq_none hload]
    change ¬ ∀ e ∈ history JsonText.parse events, _
    rw [hhistory]
    intro h
    apply h (Sample.smallHash 0, some (Sample.smallHash 1)) _ rfl
    apply List.mem_map_of_mem (List.mem_range.mpr (by decide : 0 < 101))
  obtain ⟨docEvents, hdocEvents⟩ := Option.ne_none_iff_exists'.mp hsome
  use Sample.boundDb "owner" Sample.chainDocs events audit, byDoc, docEvents
  use hreachable, hload, hdocEvents
  have hgrown := hreachable.wellGrown
    fun payload => JsonText.readsBack_parse payload.toValue
  have hresolved := resolveDocumentLifecycle_of_load hgrown hload
    (Sample.validateBlake3Prefixed_smallHash (n := 0) (by decide))
  have hdepth :
      depth (history JsonText.parse (Sample.boundDb "owner" Sample.chainDocs events audit).events)
        (Sample.smallHash 0) = 101 := by
    change depth (history JsonText.parse events) _ = 101
    rw [hhistory, Sample.depth_chain (by decide)]
  rw [hdepth, if_neg (by decide)] at hresolved
  apply hresolved

end Lifecycle

end KnowledgeCore
