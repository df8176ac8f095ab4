import KnowledgeCore.Events

/-!
# The lookup of the last hash

An event is linked to the hash that a query finds, and to nothing when the query fails. What is
appended then to a log that is not empty starts a second one.
-/

namespace KnowledgeCore

variable {ext : Externals} {parse : JsonParser}

/-- Ask for the hash of the last event. -/
def lookupLastHash (fault : Option String) (table : EventTable) : Except String String :=
  match fault with
  | some error => .error error
  | none =>
    match table.rows.getLast? with
    | none => .error "Query returned no rows"
    | some row =>
      match row.eventHash.asText with
      | none => .error "Invalid column type Blob at index: 0, name: event_hash"
      | some hash => .ok hash

/-- Append an event when the lookup and the insertion may fail. What is left is the table. -/
def appendEventLooking (ext : Externals) (lookup fault : Option String) (tsMs : Int64)
    (eventType : String) (payload : Json) (table : EventTable) : AppResult EventRecord × EventTable
  :=
  let prevEventHash := (lookupLastHash lookup table).toOption
  let appended : AppResult (EventRecord × EventTable) := do
    let payloadJson ← CanonJson.toCanonicalBytes payload
    table.insert fault {
      eventId := 0
      tsMs
      eventType
      payloadJson
      prevEventHash
      eventHash := blake3HexPrefixed ext
        (.text (eventHashInput tsMs eventType payloadJson prevEventHash)) }
  match appended with
  | .error e => (.error e, table)
  | .ok (record, after) => (.ok record, after)

theorem toOption_lookupLastHash (table : EventTable) :
  (lookupLastHash none table).toOption = lastEventHash table
  := by
  rw [lookupLastHash, lastEventHash]
  cases table.rows.getLast? with
  | none => rfl
  | some row =>
    dsimp only [Option.bind_some]
    cases row.eventHash.asText <;> rfl

/-- When the query does not fail an event is appended as it is elsewhere. -/
theorem appendEventLooking_none (fault : Option String) (tsMs : Int64) (eventType : String)
    (payload : Json) (table : EventTable) :
  appendEventLooking ext none fault tsMs eventType payload table
    = match appendEvent ext fault tsMs eventType payload table with
      | .error e => (.error e, table)
      | .ok (record, after) => (.ok record, after)
  := by
  rw [appendEventLooking, toOption_lookupLastHash]
  rfl

/-! ### What is inserted -/

/-- An append that goes through has a payload that can be encoded, an insertion that does not
fail, and an id. -/
def Insertable (fault : Option String) (payload : Json) (table : EventTable) : Prop :=
  CanonJson.hasFloat payload = false ∧ fault = none ∧ table.largestId < Int64.maxValue

/-- An append leaves the log alone, or adds a record linked to what the lookup found. -/
theorem appendEventLooking_cases (ext : Externals) (lookup fault : Option String) (tsMs : Int64)
    (eventType : String) (payload : Json) (table : EventTable) :
  (¬ Insertable fault payload table
      ∧ ∃ e, appendEventLooking ext lookup fault tsMs eventType payload table = (.error e, table))
    ∨ Insertable fault payload table
      ∧ ∃ record after,
        appendEventLooking ext lookup fault tsMs eventType payload table = (.ok record, after)
          ∧ after.rows = table.rows ++ [record.row]
          ∧ record.prevEventHash = (lookupLastHash lookup table).toOption
  := by
  rw [appendEventLooking]
  have hok := CanonJson.writeCanonical_isOk payload
  cases hpayload : CanonJson.toCanonicalBytes payload with
  | error e =>
    left
    constructor
    · rintro ⟨hfloat, -, -⟩
      obtain ⟨text, htext⟩ := CanonJson.toCanonicalBytes_ok_of_not_hasFloat hfloat
      rw [hpayload] at htext
      cases htext
    · exact ⟨e, rfl⟩
  | ok payloadJson =>
    have hfloat : CanonJson.hasFloat payload = false := by
      rw [CanonJson.toCanonicalBytes] at hpayload
      rw [hpayload] at hok
      cases hhas : CanonJson.hasFloat payload with
      | false => rfl
      | true =>
        rw [hhas] at hok
        cases hok
    rw [AppResult.ok_bind]
    cases fault with
    | some error =>
      left
      refine ⟨?_, insertError error, rfl⟩
      rintro ⟨-, ⟨⟩, -⟩
    | none =>
      rw [EventTable.insert]
      by_cases hroom : table.largestId < Int64.maxValue
      · right
        rw [dif_pos hroom]
        exact ⟨⟨hfloat, rfl, hroom⟩, _, _, rfl, rfl, rfl⟩
      · left
        rw [dif_neg hroom]
        exact ⟨fun h => hroom h.2.2, _, rfl⟩

/-! ### Forks -/

/-- An append fails and inserts nothing, or it inserts a record that names the hash of the event
with the largest id. -/
def KeepsChain (table : EventTable) : AppResult EventRecord × EventTable → Prop
  | (.error _, after) => after = table
  | (.ok record, after) => after.rows = table.rows ++ [record.row]
      ∧ ∃ last ∈ table.rows, (∀ row ∈ table.rows, row.eventId ≤ last.eventId)
        ∧ ∃ hash, last.eventHash = .text hash ∧ record.prevEventHash = some hash

/-- The lookup finds the hash of the event with the largest id. -/
def Finds (lookup : Option String) (table : EventTable) : Prop :=
  lookup = none ∧ ∃ row hash, table.rows.getLast? = some row ∧ row.eventHash = .text hash

theorem lookupLastHash_of_finds {lookup : Option String} {table : EventTable}
    (h : Finds lookup table) :
  ∃ last ∈ table.rows, (∀ row ∈ table.rows, row.eventId ≤ last.eventId)
    ∧ ∃ hash, last.eventHash = .text hash ∧ lookupLastHash lookup table = .ok hash
  := by
  obtain ⟨rfl, last, hash, hlast, hhash⟩ := h
  obtain ⟨rows, hrows⟩ := List.getLast?_eq_some_iff.mp hlast
  have hincreasing := table.increasing
  rw [hrows, List.pairwise_append] at hincreasing
  use last, by rw [hrows]; simp
  constructor
  · intro row hrow
    rw [hrows, List.mem_append, List.mem_singleton] at hrow
    obtain hrow | rfl := hrow
    · exact Int64.le_of_lt (hincreasing.2.2 row hrow last (List.mem_singleton_self last))
    · apply Int64.le_refl
  · use hash, hhash
    rw [lookupLastHash, hlast]
    dsimp only
    rw [hhash]
    rfl

/-- A lookup that does not find the last hash finds nothing, or it is asked of an empty log. -/
theorem finds_of_lookupLastHash {lookup : Option String} {table : EventTable} {hash : String}
    (h : lookupLastHash lookup table = .ok hash) :
  Finds lookup table
  := by
  cases lookup with
  | some error => cases h
  | none =>
    rw [lookupLastHash] at h
    cases hlast : table.rows.getLast? with
    | none =>
      rw [hlast] at h
      cases h
    | some row =>
      rw [hlast] at h
      dsimp only at h
      cases hhash : row.eventHash with
      | text s => exact ⟨rfl, row, s, hlast, hhash⟩
      | _ =>
        rw [hhash] at h
        cases h

/-- An append keeps the chain of a log exactly if the lookup finds the last hash or nothing is
inserted. -/
theorem appendEvent_keepsChain_iff (ext : Externals) (lookup fault : Option String) (tsMs : Int64)
    (eventType : String) (payload : Json) (table : EventTable) :
  KeepsChain table (appendEventLooking ext lookup fault tsMs eventType payload table)
    ↔ Finds lookup table ∨ ¬ Insertable fault payload table
  := by
  obtain ⟨hnot, e, happend⟩ | ⟨hinsertable, record, after, happend, hrows, hprev⟩ :=
    appendEventLooking_cases ext lookup fault tsMs eventType payload table
  · rw [happend]
    exact iff_of_true rfl (Or.inr hnot)
  · rw [happend, KeepsChain]
    constructor
    · rintro ⟨-, last, hmem, hlargest, hash, hhash, hnamed⟩
      left
      rw [hprev] at hnamed
      cases hlookup : lookupLastHash lookup table with
      | error error =>
        rw [hlookup] at hnamed
        cases hnamed
      | ok found => exact finds_of_lookupLastHash hlookup
    · rintro (hfinds | hnot)
      · obtain ⟨last, hmem, hlargest, hash, hhash, hlookup⟩ := lookupLastHash_of_finds hfinds
        refine ⟨hrows, last, hmem, hlargest, hash, hhash, ?_⟩
        rw [hprev, hlookup]
        rfl
      · exact absurd hinsertable hnot

/-- What is inserted when the lookup fails makes a log unreadable. -/
theorem unreadable_of_not_finds {lookup fault : Option String} {tsMs : Int64} {eventType : String}
    {payload : Json} {table : EventTable} (hne : table.rows ≠ []) (hfinds : ¬ Finds lookup table)
    (hinsertable : Insertable fault payload table) :
  ∀ records, readVerifiedEventChain ext parse
    (appendEventLooking ext lookup fault tsMs eventType payload table).2 ≠ .ok records
  := by
  intro records hread
  obtain ⟨hnot, -⟩ | ⟨-, record, after, happend, hrows, hprev⟩ :=
    appendEventLooking_cases ext lookup fault tsMs eventType payload table
  · exact hnot hinsertable
  have hnothing : record.prevEventHash = none := by
    rw [hprev]
    cases hlookup : lookupLastHash lookup table with
    | error error => rfl
    | ok hash => exact absurd (finds_of_lookupLastHash hlookup) hfinds
  rw [happend, readVerifiedEventChain, readVerifiedRows_eq_ok, hrows, List.map_append] at hread
  obtain ⟨hdecode, hlinked, -⟩ := hread
  obtain ⟨before, hbefore, rfl⟩ : ∃ before, table.rows.map EventRow.decode = before.map some
      ∧ records = before ++ [record] := by
    obtain ⟨before, last, hrecords, hbefore, hlast⟩ := List.map_eq_append_iff.mp hdecode.symm
    obtain ⟨r, rest, rfl, hr, hrest⟩ := List.map_eq_cons_iff.mp hlast
    rw [List.map_nil, List.map_eq_nil_iff] at hrest
    rw [EventRecord.decode_row] at hr
    cases hr
    exact ⟨before, hbefore.symm, by rw [hrecords, hrest]⟩
  have hnext := (Linked.fromStart_concat.mp hlinked).2
  rw [hnothing, Linked.next] at hnext
  cases hlast : before.getLast? with
  | none =>
    rw [List.getLast?_eq_none_iff] at hlast
    rw [hlast, List.map_nil, List.map_eq_nil_iff] at hbefore
    exact hne hbefore
  | some last =>
    rw [hlast] at hnext
    cases hnext

/-! ### A log of one event -/

/-- A log with an event. -/
def Sample.oneEvent : EventTable :=
  (appendEventLooking Sample.ext none none 1 "t" (.obj []) .empty).2

theorem Sample.oneEvent_insertable : Insertable none (.obj []) Sample.oneEvent := by
  refine ⟨rfl, rfl, by decide +kernel⟩

/-- The next event, when the database is busy as its predecessor is looked up. It is inserted
without a link, and the log cannot be read again. -/
theorem busy_lookup_forks :
  Sample.oneEvent.rows ≠ []
    ∧ ¬ KeepsChain Sample.oneEvent (appendEventLooking Sample.ext (some "database is locked") none 2
      "t" (.obj []) Sample.oneEvent)
    ∧ ∀ records, readVerifiedEventChain Sample.ext JsonText.parse
        (appendEventLooking Sample.ext (some "database is locked") none 2 "t" (.obj [])
          Sample.oneEvent).2 ≠ .ok records
  := by
  have hne : Sample.oneEvent.rows ≠ [] := List.cons_ne_nil _ _
  have hfinds : ¬ Finds (some "database is locked") Sample.oneEvent := fun h => by cases h.1
  refine ⟨hne, ?_, unreadable_of_not_finds hne hfinds Sample.oneEvent_insertable⟩
  obtain ⟨hnot, -⟩ | ⟨-, record, after, happend, -, hprev⟩ := appendEventLooking_cases Sample.ext
    (some "database is locked") none 2 "t" (.obj []) Sample.oneEvent
  · exact absurd Sample.oneEvent_insertable hnot
  · rw [happend]
    rintro ⟨-, last, -, -, hash, -, hnamed⟩
    rw [hprev] at hnamed
    cases hnamed

end KnowledgeCore
