import KnowledgeCore.JsonParser
import KnowledgeCore.Lib.Linked
import KnowledgeCore.Vault

/-!
# The event log

The owner of a vault keeps a log of events in its database. Each event is stored with the hash of
the one before it, and with a hash of its own over all its columns. The log is read back by
checking every hash and every link.
-/

namespace KnowledgeCore

/-- What a column of a row of the database holds. -/
inductive SqlValue
  | null
  | integer (n : Int64)
  | real (text : String)
  | text (s : String)
  | blob (bytes : List UInt8)

namespace SqlValue

def asI64 : SqlValue → Option Int64
  | .integer n => some n
  | _ => none

def asText : SqlValue → Option String
  | .text s => some s
  | _ => none

def asNullableText : SqlValue → Option (Option String)
  | .null => some none
  | .text s => some (some s)
  | _ => none

def ofOption : Option String → SqlValue
  | some s => .text s
  | none => .null

@[simp] theorem asNullableText_ofOption (s : Option String) :
  (ofOption s).asNullableText = some s
  := by
  cases s <;> rfl

end SqlValue

/-- A row of `events`. -/
structure EventRow where
  eventId : Int64
  tsMs : SqlValue
  eventType : SqlValue
  payloadJson : SqlValue
  prevEventHash : SqlValue
  eventHash : SqlValue

/-- The table `events`: its rows in the order of their ids, and the largest id that has been
given to a row, which is not given again. -/
structure EventTable where
  rows : List EventRow
  largestId : Int64
  increasing : rows.Pairwise fun row next => row.eventId < next.eventId
  bounded : ∀ row ∈ rows, row.eventId ≤ largestId

structure EventRecord where
  eventId : Int64
  tsMs : Int64
  eventType : String
  payloadJson : String
  prevEventHash : Option String
  eventHash : String
deriving DecidableEq

/-- The columns of a row, unless one of them does not have its type. -/
def EventRow.decode (row : EventRow) : Option EventRecord := do
  let tsMs ← row.tsMs.asI64
  let eventType ← row.eventType.asText
  let payloadJson ← row.payloadJson.asText
  let prevEventHash ← row.prevEventHash.asNullableText
  let eventHash ← row.eventHash.asText
  some { eventId := row.eventId, tsMs, eventType, payloadJson, prevEventHash, eventHash }

/-- The row that a record is stored in. -/
def EventRecord.row (record : EventRecord) : EventRow where
  eventId := record.eventId
  tsMs := .integer record.tsMs
  eventType := .text record.eventType
  payloadJson := .text record.payloadJson
  prevEventHash := .ofOption record.prevEventHash
  eventHash := .text record.eventHash

@[simp] theorem EventRecord.eventId_row (record : EventRecord) :
  record.row.eventId = record.eventId
  := rfl

@[simp] theorem EventRecord.decode_row (record : EventRecord) :
  record.row.decode = some record
  := by
  simp [EventRecord.row, EventRow.decode, SqlValue.asI64, SqlValue.asText]

/-- A row that is decoded is the row of its record. -/
theorem EventRow.eq_row_of_decode {row : EventRow} {record : EventRecord}
    (h : row.decode = some record) :
  row = record.row
  := by
  obtain ⟨eventId, tsMs, eventType, payloadJson, prevEventHash, eventHash⟩ := row
  simp only [EventRow.decode, Option.bind_eq_bind, Option.bind_eq_some_iff] at h
  obtain ⟨ts, hts, type, htype, payload, hpayload, prev, hprev, hash, hhash, h⟩ := h
  have htext {value : SqlValue} {s : String} (h : value.asText = some s) : value = .text s := by
    cases value <;> cases h
    rfl
  have hinteger {value : SqlValue} {n : Int64} (h : value.asI64 = some n) :
      value = .integer n := by
    cases value <;> cases h
    rfl
  have hnullable {value : SqlValue} {s : Option String} (h : value.asNullableText = some s) :
      value = .ofOption s := by
    cases value <;> cases h <;> rfl
  cases h
  rw [EventRecord.row, hinteger hts, htext htype, htext hpayload, hnullable hprev, htext hhash]

namespace EventTable

def empty : EventTable where
  rows := []
  largestId := 0
  increasing := List.Pairwise.nil
  bounded := by simp

theorem lt_add_one {id : Int64} (h : id < Int64.maxValue) :
  id < id + 1
  := by
  rw [Int64.lt_iff_toInt_lt, Int64.toInt_maxValue] at h
  have hmin := id.le_toInt
  rw [Int64.lt_iff_toInt_lt, Int64.toInt_add, Int64.toInt_one,
    Int.bmod_eq_of_le (by omega) (by omega)]
  omega

/-- The table with one more row at its end, under the next id. -/
def push (table : EventTable) (record : EventRecord) (h : table.largestId < Int64.maxValue) :
    EventTable where
  rows := table.rows ++ [{ record with eventId := table.largestId + 1 }.row]
  largestId := table.largestId + 1
  increasing := by
    rw [List.pairwise_append]
    use table.increasing, List.pairwise_singleton _ _
    intro row hrow last hlast
    rw [List.mem_singleton.mp hlast, EventRecord.eventId_row]
    apply Int64.lt_of_le_of_lt (table.bounded row hrow) (lt_add_one h)
  bounded := by
    intro row hrow
    rw [List.mem_append, List.mem_singleton] at hrow
    rcases hrow with hrow | rfl
    · apply Int64.le_of_lt (Int64.lt_of_le_of_lt (table.bounded row hrow) (lt_add_one h))
    · rw [EventRecord.eventId_row]
      apply Int64.le_refl

end EventTable

def eventError (message : String) (details : List (String × Json)) : AppError where
  code := "KC_DB_INTEGRITY_FAILED"
  category := "events"
  message := message
  details := .obj details

/-- What the hash of an event is taken of. -/
def eventHashInput (tsMs : Int64) (eventType payloadJson : String)
    (prevEventHash : Option String) : String
  :=
  "kc.event.v1\n" ++ toString tsMs.toInt ++ "\n" ++ eventType ++ "\n" ++ payloadJson ++ "\n"
    ++ prevEventHash.getD ""

/-- What the hash of a record has to be taken of. -/
def EventRecord.hashInput (record : EventRecord) : String :=
  eventHashInput record.tsMs record.eventType record.payloadJson record.prevEventHash

/-! ### Reading the log -/

def verifyEventRecord (ext : Externals) (parse : JsonParser) (record : EventRecord) :
  AppResult Unit
  := do
  let payload ← mapErr (fun _ => eventError "event payload is not valid JSON"
      [("event_id", .int record.eventId.toInt)]) (parse record.payloadJson)
  let canonicalPayload ← CanonJson.toCanonicalBytes payload
  if canonicalPayload ≠ record.payloadJson then
    .error (eventError "event payload is not canonical"
      [("event_id", .int record.eventId.toInt)])
  else if blake3HexPrefixed ext (.text record.hashInput) ≠ record.eventHash then
    .error (eventError "event hash does not match its canonical payload"
      [("event_id", .int record.eventId.toInt)])
  else
    .ok ()

/-- Read the rows of the log, the first of which has to name the expected hash. -/
def readVerifiedRows (ext : Externals) (parse : JsonParser) :
    Option String → List EventRow → AppResult (List EventRecord)
  | _, [] => .ok []
  | expectedPrev, row :: rest => do
    let record ← okOrElse (eventError "failed decoding owner event chain" []) row.decode
    if record.prevEventHash ≠ expectedPrev then
      .error (eventError "owner event-chain link is invalid"
        [("event_id", .int record.eventId.toInt)])
    else
      verifyEventRecord ext parse record
      let records ← readVerifiedRows ext parse (some record.eventHash) rest
      .ok (record :: records)

def readVerifiedEventChain (ext : Externals) (parse : JsonParser) (table : EventTable) :
  AppResult (List EventRecord)
  :=
  readVerifiedRows ext parse none table.rows

variable {ext : Externals} {parse : JsonParser}

theorem verifyEventRecord_eq_ok {record : EventRecord} :
  verifyEventRecord ext parse record = .ok ()
    ↔ ∃ payload, parse record.payloadJson = .ok payload
        ∧ CanonJson.toCanonicalBytes payload = .ok record.payloadJson
        ∧ record.eventHash = blake3HexPrefixed ext (.text record.hashInput)
  := by
  simp only [verifyEventRecord, AppResult.bind_eq_ok, mapErr_eq_ok]
  apply exists_congr
  intro payload
  apply and_congr_right
  intro _
  constructor
  · rintro ⟨canonicalPayload, hcanonical, h⟩
    split_ifs at h with hpayload hhash
    rw [not_not] at hpayload hhash
    use hpayload ▸ hcanonical, hhash.symm
  · rintro ⟨hcanonical, hhash⟩
    use record.payloadJson, hcanonical
    rw [if_neg (not_not.mpr rfl), if_neg (not_not.mpr hhash.symm)]

/-- A linked log. -/
abbrev EventsLinked (start : Option String) (records : List EventRecord) : Prop :=
  Linked.FromStart EventRecord.eventHash EventRecord.prevEventHash start records

/-- The log is read back exactly when its rows hold linked records, each of them with its
hash. -/
theorem readVerifiedRows_eq_ok {start : Option String} {rows : List EventRow}
    {records : List EventRecord} :
  readVerifiedRows ext parse start rows = .ok records
    ↔ rows.map EventRow.decode = records.map some ∧ EventsLinked start records
        ∧ ∀ record ∈ records, verifyEventRecord ext parse record = .ok ()
  := by
  induction rows generalizing start records with
  | nil =>
    cases records with
    | nil => simp [readVerifiedRows, Linked.FromStart]
    | cons record records => simp [readVerifiedRows]
  | cons row rows ih =>
    simp only [readVerifiedRows, AppResult.bind_eq_ok, okOrElse_eq_ok]
    constructor
    · rintro ⟨record, hdecode, h⟩
      split_ifs at h with hprev
      rw [not_not] at hprev
      obtain ⟨⟨⟩, hverify, h⟩ := AppResult.bind_eq_ok.mp h
      obtain ⟨rest, hrest, h⟩ := AppResult.bind_eq_ok.mp h
      cases h
      obtain ⟨hrows, hlinked, hall⟩ := ih.mp hrest
      use by rw [List.map_cons, List.map_cons, hdecode, hrows], ⟨hprev, hlinked⟩
      rw [List.forall_mem_cons]
      use hverify, hall
    · rintro ⟨hrows, hlinked, hall⟩
      cases records with
      | nil => cases hrows
      | cons record records =>
        obtain ⟨hdecode, hrows⟩ := List.cons.inj hrows
        rw [List.forall_mem_cons] at hall
        use record, hdecode
        rw [if_neg (not_not.mpr hlinked.1), hall.1, AppResult.ok_bind,
          ih.mpr ⟨hrows, hlinked.2, hall.2⟩]
        rfl

/-! ### Appending -/

/-- The hash of the last row, if there is one. -/
def lastEventHash (table : EventTable) : Option String :=
  table.rows.getLast?.bind fun row => row.eventHash.asText

def insertError (error : String) : AppError :=
  eventError "failed to insert event" [("error", .str error)]

/-- Insert a record under the next id, unless the statement fails or all ids have been given. -/
def EventTable.insert (table : EventTable) (fault : Option String) (record : EventRecord) :
  AppResult (EventRecord × EventTable)
  :=
  match fault with
  | some error => .error (insertError error)
  | none =>
    if h : table.largestId < Int64.maxValue then
      .ok ({ record with eventId := table.largestId + 1 }, table.push record h)
    else
      .error (insertError "database or disk is full")

def appendEvent (ext : Externals) (fault : Option String) (tsMs : Int64) (eventType : String)
    (payload : Json) (table : EventTable) : AppResult (EventRecord × EventTable)
  := do
  let prevEventHash := lastEventHash table
  let payloadJson ← CanonJson.toCanonicalBytes payload
  table.insert fault {
    eventId := 0
    tsMs
    eventType
    payloadJson
    prevEventHash
    eventHash := blake3HexPrefixed ext
      (.text (eventHashInput tsMs eventType payloadJson prevEventHash)) }

/-- A successful append adds the record it returns at the end of the log. -/
theorem appendEvent_eq_ok {fault : Option String} {tsMs : Int64} {eventType : String}
    {payload : Json} {table after : EventTable} {record : EventRecord}
    (h : appendEvent ext fault tsMs eventType payload table = .ok (record, after)) :
  record.tsMs = tsMs ∧ record.eventType = eventType
    ∧ CanonJson.toCanonicalBytes payload = .ok record.payloadJson
    ∧ record.prevEventHash = lastEventHash table
    ∧ record.eventHash = blake3HexPrefixed ext (.text record.hashInput)
    ∧ after.rows = table.rows ++ [record.row]
  := by
  obtain ⟨payloadJson, hpayload, h⟩ := AppResult.bind_eq_ok.mp h
  cases fault with
  | some error => cases h
  | none =>
    rw [EventTable.insert] at h
    split_ifs at h
    cases h
    use rfl, rfl, hpayload, rfl, rfl
    rfl

/-- The log holds linked records, each of them with its hash. -/
structure HoldsEvents (ext : Externals) (parse : JsonParser) (records : List EventRecord)
    (table : EventTable) : Prop where
  rows : table.rows = records.map EventRecord.row
  linked : EventsLinked none records
  verified : ∀ record ∈ records, verifyEventRecord ext parse record = .ok ()

theorem HoldsEvents.of_rows_eq_nil {table : EventTable} (h : table.rows = []) :
  HoldsEvents ext parse [] table
  := by
  constructor
  · apply h
  · trivial
  · simp

theorem HoldsEvents.read {records : List EventRecord} {table : EventTable}
    (h : HoldsEvents ext parse records table) :
  readVerifiedEventChain ext parse table = .ok records
  := by
  apply readVerifiedRows_eq_ok.mpr
  use by simp [h.rows, Function.comp_def], h.linked, h.verified

theorem holdsEvents_of_read {records : List EventRecord} {table : EventTable}
    (h : readVerifiedEventChain ext parse table = .ok records) :
  HoldsEvents ext parse records table
  := by
  obtain ⟨hrows, hlinked, hverified⟩ := readVerifiedRows_eq_ok.mp h
  constructor
  · generalize table.rows = rows at hrows
    clear h hlinked hverified
    induction rows generalizing records with
    | nil =>
      cases records with
      | nil => rfl
      | cons record records => cases hrows
    | cons row rows ih =>
      cases records with
      | nil => cases hrows
      | cons record records =>
        obtain ⟨hdecode, hrows⟩ := List.cons.inj hrows
        rw [List.map_cons, EventRow.eq_row_of_decode hdecode, ih hrows]
  · exact hlinked
  · exact hverified

theorem HoldsEvents.lastEventHash {records : List EventRecord} {table : EventTable}
    (h : HoldsEvents ext parse records table) :
  lastEventHash table = Linked.next EventRecord.eventHash none records
  := by
  rw [KnowledgeCore.lastEventHash, h.rows, Linked.next, List.getLast?_map]
  cases records.getLast? <;> rfl

/-- One more event leaves a log that holds one more record. -/
theorem HoldsEvents.append {records : List EventRecord} {table after : EventTable}
    {record : EventRecord} {fault : Option String} {tsMs : Int64} {eventType : String}
    {payload : Json}
    (h : HoldsEvents ext parse records table) (hparse : ReadsBack parse payload)
    (happend : appendEvent ext fault tsMs eventType payload table = .ok (record, after)) :
  HoldsEvents ext parse (records ++ [record]) after
  := by
  obtain ⟨-, -, hpayload, hprev, hhash, hrows⟩ := appendEvent_eq_ok happend
  constructor
  · rw [hrows, h.rows, List.map_append, List.map_singleton]
  · apply Linked.fromStart_concat.mpr
    use h.linked
    rw [hprev, h.lastEventHash]
  · intro other hother
    rw [List.mem_append, List.mem_singleton] at hother
    rcases hother with hother | rfl
    · apply h.verified other hother
    · apply verifyEventRecord_eq_ok.mpr
      use payload.normalise, hparse _ hpayload
      use CanonJson.writeCanonical_normalise hpayload

/-- A request to append an event, with the error of the insertion if that fails. -/
structure EventRequest where
  tsMs : Int64
  eventType : String
  payload : Json
  fault : Option String

/-- A record of what was requested. -/
def EventRequest.RecordedBy (request : EventRequest) (record : EventRecord) : Prop :=
  record.tsMs = request.tsMs ∧ record.eventType = request.eventType
    ∧ CanonJson.toCanonicalBytes request.payload = .ok record.payloadJson

/-- Append events one after the other. The records are those of the requests that succeed. -/
def appendEvents (ext : Externals) : List EventRequest → EventTable → List EventRecord × EventTable
  | [], table => ([], table)
  | request :: rest, table =>
    match appendEvent ext request.fault request.tsMs request.eventType request.payload table with
    | .error _ => appendEvents ext rest table
    | .ok (record, after) =>
      let (records, last) := appendEvents ext rest after
      (record :: records, last)

theorem HoldsEvents.appendEvents {requests : List EventRequest} {records : List EventRecord}
    {table : EventTable} (h : HoldsEvents ext parse records table)
    (hparse : ∀ request ∈ requests, ReadsBack parse request.payload) :
  HoldsEvents ext parse (records ++ (appendEvents ext requests table).1)
    (appendEvents ext requests table).2
  := by
  induction requests generalizing records table with
  | nil =>
    rw [KnowledgeCore.appendEvents, List.append_nil]
    exact h
  | cons request rest ih =>
    rw [List.forall_mem_cons] at hparse
    rw [KnowledgeCore.appendEvents]
    split
    case h_1 => apply ih h hparse.2
    case h_2 record after happend =>
      have := ih (h.append hparse.1 happend) hparse.2
      rw [List.append_assoc] at this
      exact this

/-- An event that the encoder accepts is appended, as long as there are ids. -/
theorem exists_appendEvent {tsMs : Int64} {eventType : String} {payload : Json}
    {table : EventTable} (hpayload : (CanonJson.toCanonicalBytes payload).isOk = true)
    (hroom : table.largestId < Int64.maxValue) :
  ∃ record after, appendEvent ext none tsMs eventType payload table = .ok (record, after)
    ∧ after.largestId = table.largestId + 1
  := by
  obtain ⟨payloadJson, hpayload⟩ := exists_of_isOk hpayload
  rw [appendEvent, hpayload, AppResult.ok_bind, EventTable.insert, dif_pos hroom]
  exact ⟨_, _, rfl, rfl⟩

theorem forall₂_appendEvents {requests : List EventRequest} {table : EventTable}
    (haccepted : ∀ request ∈ requests,
      (CanonJson.toCanonicalBytes request.payload).isOk = true ∧ request.fault = none)
    (hroom : table.largestId.toInt + requests.length < 2 ^ 63) :
  List.Forall₂ EventRequest.RecordedBy requests (appendEvents ext requests table).1
  := by
  induction requests generalizing table with
  | nil => apply List.Forall₂.nil
  | cons request rest ih =>
    rw [List.forall_mem_cons] at haccepted
    rw [List.length_cons] at hroom
    obtain ⟨⟨hpayload, hfault⟩, hrest⟩ := haccepted
    have hlt : table.largestId < Int64.maxValue := by
      rw [Int64.lt_iff_toInt_lt, Int64.toInt_maxValue]
      omega
    obtain ⟨record, after, happend, hid⟩ : ∃ record after,
        appendEvent ext none request.tsMs request.eventType request.payload table
          = .ok (record, after) ∧ after.largestId = table.largestId + 1 :=
      exists_appendEvent hpayload hlt
    rw [appendEvents, hfault, happend]
    have hsteps : after.largestId.toInt = table.largestId.toInt + 1 := by
      have hmin := table.largestId.le_toInt
      rw [hid, Int64.toInt_add, Int64.toInt_one, Int.bmod_eq_of_le (by omega) (by omega)]
    obtain ⟨htsMs, heventType, hpayloadJson, -⟩ := appendEvent_eq_ok happend
    apply List.Forall₂.cons
    · use htsMs, heventType
    · apply ih hrest
      omega

/-- From an empty log, the events that are appended are read back, in the order they were
appended in and each linked to the one before it. -/
theorem readVerifiedEventChain_appendEvents (ext : Externals) (parse : JsonParser)
    (requests : List EventRequest)
    (hparse : ∀ request ∈ requests, ReadsBack parse request.payload) :
  let (records, table) := appendEvents ext requests .empty
  readVerifiedEventChain ext parse table = .ok records
    ∧ EventsLinked none records
    ∧ ((∀ request ∈ requests, (CanonJson.toCanonicalBytes request.payload).isOk = true
          ∧ request.fault = none) →
        requests.length < 2 ^ 63 → List.Forall₂ EventRequest.RecordedBy requests records)
  := by
  have hempty : HoldsEvents ext parse [] .empty := HoldsEvents.of_rows_eq_nil rfl
  have h := hempty.appendEvents hparse
  rw [List.nil_append] at h
  use h.read, h.linked
  intro haccepted hlength
  apply forall₂_appendEvents haccepted
  have hzero : EventTable.empty.largestId.toInt = 0 := rfl
  omega

/-- Two events, the second with its members out of order. -/
def Sample.eventRequests : List EventRequest :=
  [⟨10, "test.first", .obj [("k", .int 1)], none⟩,
    ⟨11, "test.second", .obj [("k", .int 2), ("a", .str "x")], none⟩]

theorem readVerifiedEventChain_two_events :
  readVerifiedEventChain Sample.ext JsonText.parse
      (appendEvents Sample.ext Sample.eventRequests .empty).2
    = .ok (appendEvents Sample.ext Sample.eventRequests .empty).1
  :=
  (readVerifiedEventChain_appendEvents Sample.ext JsonText.parse Sample.eventRequests
    fun _ _ => JsonText.readsBack_parse _).1

/-! ### What the last hash commits to -/

open CanonJson (append_separator_inj append_separator_inj_last newline_notMem_toString)

theorem newline_notMem_blake3HexPrefixed (c : Content) :
  '\n' ∉ (blake3HexPrefixed ext c).toList
  := by
  rw [blake3HexPrefixed, String.toList_append, List.mem_append, not_or]
  use by decide
  intro h
  have hdigits := List.all_eq_true.mp (Hex.all_isLowerHex_bytesToHex (ext.blake3 c).toList) _ h
  revert hdigits
  decide

theorem blake3HexPrefixed_ne_empty (c : Content) :
  blake3HexPrefixed ext c ≠ ""
  := by
  rw [blake3HexPrefixed, ne_eq, String.append_eq_empty_iff, not_and]
  intro h
  exact absurd h (by decide)

/-- Everything that is hashed can be told from what the hash is taken of. -/
theorem eventHashInput_inj {tsMs tsMs' : Int64} {eventType eventType' payload payload' : String}
    {prev prev' : Option String} (hpayload : '\n' ∉ payload.toList)
    (hpayload' : '\n' ∉ payload'.toList) (hprev : '\n' ∉ (prev.getD "").toList)
    (hprev' : '\n' ∉ (prev'.getD "").toList)
    (h : eventHashInput tsMs eventType payload prev
      = eventHashInput tsMs' eventType' payload' prev') :
  tsMs = tsMs' ∧ eventType = eventType' ∧ payload = payload' ∧ prev.getD "" = prev'.getD ""
  := by
  have hlines (ts ty p q : String) :
      (("kc.event.v1\n" ++ ts ++ "\n" ++ ty ++ "\n" ++ p ++ "\n" ++ q).toList)
        = "kc.event.v1\n".toList ++ (ts.toList ++ '\n' :: (ty.toList ++ '\n' :: p.toList
            ++ '\n' :: q.toList)) := by
    simp
  unfold eventHashInput at h
  have h := congrArg String.toList h
  rw [hlines, hlines, List.append_cancel_left_eq,
    append_separator_inj (newline_notMem_toString _) (newline_notMem_toString _),
    append_separator_inj_last hprev hprev', append_separator_inj_last hpayload hpayload',
    String.toList_inj, String.toList_inj, String.toList_inj, String.toList_inj] at h
  obtain ⟨htsMs, ⟨heventType, hpayload⟩, hprev⟩ := h
  use Int64.toInt_inj.mp (Int.repr_inj.mp htsMs)

/-- What an event says, apart from its id and its hash. -/
def EventRecord.content (record : EventRecord) : Int64 × String × String × Option String :=
  (record.tsMs, record.eventType, record.payloadJson, record.prevEventHash)

/-- A verified record names no hash, or one in the form of a hash. -/
theorem prevEventHash_of_mem {records : List EventRecord} {record : EventRecord}
    (hlinked : EventsLinked none records)
    (hverified : ∀ record ∈ records, verifyEventRecord ext parse record = .ok ())
    (h : record ∈ records) :
  record.prevEventHash = none ∨ ∃ c, record.prevEventHash = some (blake3HexPrefixed ext c)
  := by
  apply (hlinked.prev_of_mem h).imp_right
  rintro ⟨other, hother, hprev⟩
  obtain ⟨-, -, -, hhash⟩ := verifyEventRecord_eq_ok.mp (hverified other hother)
  use .text other.hashInput
  rw [hprev, hhash]

/-- Two verified records whose hashes are taken of the same say the same. -/
theorem content_eq_of_hashInput_eq {records records' : List EventRecord}
    {record record' : EventRecord} (hlinked : EventsLinked none records)
    (hlinked' : EventsLinked none records')
    (hverified : ∀ record ∈ records, verifyEventRecord ext parse record = .ok ())
    (hverified' : ∀ record ∈ records', verifyEventRecord ext parse record = .ok ())
    (h : record ∈ records) (h' : record' ∈ records')
    (heq : record.hashInput = record'.hashInput) :
  record.content = record'.content
  := by
  have hpayload {records : List EventRecord} {record : EventRecord} (h : record ∈ records)
      (hverified : ∀ record ∈ records, verifyEventRecord ext parse record = .ok ()) :
      '\n' ∉ record.payloadJson.toList := by
    obtain ⟨payload, -, hpayload, -⟩ := verifyEventRecord_eq_ok.mp (hverified record h)
    apply CanonJson.newline_notMem_writeCanonical hpayload
  have hprev := prevEventHash_of_mem hlinked hverified h
  have hprev' := prevEventHash_of_mem hlinked' hverified' h'
  have hline {prev : Option String}
      (h : prev = none ∨ ∃ c, prev = some (blake3HexPrefixed ext c)) :
      '\n' ∉ (prev.getD "").toList := by
    rcases h with rfl | ⟨c, rfl⟩
    · decide
    · apply newline_notMem_blake3HexPrefixed
  obtain ⟨htsMs, heventType, hpayloads, hprevs⟩ := eventHashInput_inj (hpayload h hverified)
    (hpayload h' hverified') (hline hprev) (hline hprev') heq
  have hprevs : record.prevEventHash = record'.prevEventHash := by
    rcases hprev with hnone | ⟨c, hsome⟩ <;> rcases hprev' with hnone' | ⟨c', hsome'⟩
    · rw [hnone, hnone']
    · rw [hnone, hsome'] at hprevs
      exact absurd hprevs.symm (blake3HexPrefixed_ne_empty c')
    · rw [hsome, hnone'] at hprevs
      exact absurd hprevs (blake3HexPrefixed_ne_empty c)
    · rw [hsome, hsome'] at hprevs ⊢
      rw [Option.some_inj]
      exact hprevs
  rw [EventRecord.content, EventRecord.content, htsMs, heventType, hpayloads, hprevs]

/-- Two logs that are read back and whose last records have the same hash hold the same events
from the first to the last, unless the hash function collides on one of them. -/
theorem content_eq_of_last_eventHash_eq (ext : Externals) (parse : JsonParser)
    (table table' : EventTable) (records records' : List EventRecord)
    (last last' : EventRecord)
    (hread : readVerifiedEventChain ext parse table = .ok records)
    (hread' : readVerifiedEventChain ext parse table' = .ok records')
    (hlast : records.getLast? = some last) (hlast' : records'.getLast? = some last')
    (hcollision : ∀ record ∈ records, ∀ record' ∈ records',
      ext.blake3 (.text record.hashInput) = ext.blake3 (.text record'.hashInput) →
        record.hashInput = record'.hashInput)
    (hhash : last.eventHash = last'.eventHash) :
  records.length = records'.length
    ∧ records.map EventRecord.content = records'.map EventRecord.content
  := by
  obtain ⟨-, hlinked, hverified⟩ := readVerifiedRows_eq_ok.mp hread
  obtain ⟨-, hlinked', hverified'⟩ := readVerifiedRows_eq_ok.mp hread'
  have hcommits : ∀ record ∈ records, ∀ record' ∈ records',
      record.eventHash = record'.eventHash →
        record.content = record'.content ∧ record.prevEventHash = record'.prevEventHash := by
    intro record h record' h' heq
    obtain ⟨-, -, -, hrecord⟩ := verifyEventRecord_eq_ok.mp (hverified record h)
    obtain ⟨-, -, -, hrecord'⟩ := verifyEventRecord_eq_ok.mp (hverified' record' h')
    rw [hrecord, hrecord', blake3HexPrefixed_inj] at heq
    have hcontent := content_eq_of_hashInput_eq hlinked hlinked' hverified hverified' h h'
      (hcollision record h record' h' heq)
    use hcontent
    apply congrArg (fun content => content.2.2.2) hcontent
  have hnext : Linked.next EventRecord.eventHash none records
      = Linked.next EventRecord.eventHash none records' := by
    rw [Linked.next, Linked.next, hlast, hlast', Option.map_some, Option.map_some, hhash]
  have hsame := Linked.forall₂_of_next_eq hlinked hlinked' hcommits hnext
  use hsame.length_eq
  apply List.forall₂_eq_eq_eq ▸ List.forall₂_map_left_iff.mpr (List.forall₂_map_right_iff.mpr hsame)

/-- A log without rows, whose first ids have been given. -/
def Sample.emptiedTable : EventTable where
  rows := []
  largestId := 10
  increasing := List.Pairwise.nil
  bounded := by simp

/-- The records of the two events in a log. -/
def Sample.records (table : EventTable) : List EventRecord :=
  (appendEvents Sample.ext Sample.eventRequests table).1

theorem content_eq_of_last_eventHash_eq_two_events :
  (Sample.records .empty).map EventRecord.content
    = (Sample.records Sample.emptiedTable).map EventRecord.content
  := by
  have hread {table : EventTable} (h : table.rows = []) :
      readVerifiedEventChain Sample.ext JsonText.parse
          (appendEvents Sample.ext Sample.eventRequests table).2
        = .ok (Sample.records table) :=
    ((HoldsEvents.of_rows_eq_nil h).appendEvents fun _ _ => JsonText.readsBack_parse _).read
  have hlast (records : List EventRecord) (h : records ≠ []) :
      records.getLast? = some (records.getLast h) :=
    List.getLast?_eq_some_getLast h
  apply And.right (content_eq_of_last_eventHash_eq Sample.ext JsonText.parse _ _ _ _ _ _
    (hread rfl) (hread rfl) (hlast _ (by decide)) (hlast _ (by decide)) (by decide +kernel) rfl)

end KnowledgeCore
