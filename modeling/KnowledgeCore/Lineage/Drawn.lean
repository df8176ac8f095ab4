import KnowledgeCore.JsonText
import KnowledgeCore.Lineage.Query

/-!
# What a lineage consists of

The edges of a lineage are told apart from the tables one by one: where a document originates from,
its paths, its text, its chunks, and the events that recorded them with those before them. The
nodes are the document and the ends of the edges, and the id of a node says what is in it. A query
that returns has drawn exactly these.
-/

namespace KnowledgeCore

namespace Lineage

open CanonJson (append_separator_inj)
open Drawing (Draws)

/-! ### Events -/

/-- The event under an id. -/
def EventAt (db : LineageSources) (eventId : Int64) (event : EventRecord) : Prop :=
  ∃ row ∈ db.events.rows, row.eventId = eventId ∧ row.decode = some event

/-- The first event with a hash. -/
def EventWithHash (db : LineageSources) (eventHash : String) (event : EventRecord) : Prop :=
  ∃ row, db.events.rows.find? (hasHash eventHash) = some row ∧ row.decode = some event

/-- `Back db event n earlier` holds when `earlier` is found by going `n` events back from `event`,
along the hashes of the events before. -/
inductive Back (db : LineageSources) : EventRecord → Nat → EventRecord → Prop
  | here (event : EventRecord) : Back db event 0 event
  | back {event prev earlier : EventRecord} {n : Nat} {prevHash : String} :
      event.prevEventHash = some prevHash → EventWithHash db prevHash prev →
      Back db prev n earlier → Back db event (n + 1) earlier

/-- The edge from an event to the one before it, for those fewer than `left` events back. -/
def ChainEdge (db : LineageSources) (event : EventRecord) (left : Nat) (e : EdgeKey) : Prop :=
  ∃ n earlier prevHash prev, n < left ∧ Back db event n earlier
    ∧ earlier.prevEventHash = some prevHash ∧ EventWithHash db prevHash prev
    ∧ e = edgeKey (eventNodeId earlier) (eventNodeId prev) "prev_event" prevHash

/-- What records a node: the edge to the event, and those of the chain before it. -/
def RecordingEdge (db : LineageSources) (nodeId relation evidence : String) (eventId depth : Int64)
    (e : EdgeKey) : Prop :=
  ∃ event, EventAt db eventId event
    ∧ (e = edgeKey nodeId (eventNodeId event) relation evidence
      ∨ ChainEdge db event (depth.toInt - 1).toNat e)

/-! ### Edges and nodes -/

/-- The edges of the lineage of a document up to a depth. -/
inductive LineageEdge (db : LineageSources) (seedDocId : String) (depth : Int64) : EdgeKey → Prop
  | original {doc : DocRow} : db.docs[seedDocId]? = some doc →
      LineageEdge db seedDocId depth (edgeKey (docNodeId seedDocId)
        (objectNodeId doc.originalObjectHash) "originates_from" "docs.original_object_hash")
  | source {sourcePath : String} : ⟨seedDocId, sourcePath⟩ ∈ db.docSources →
      LineageEdge db seedDocId depth
        (edgeKey (docNodeId seedDocId) (sourceNodeId sourcePath) "source_path" "doc_sources")
  | canonical {text : CanonicalTextRow} : db.canonicalText[seedDocId]? = some text →
      LineageEdge db seedDocId depth (edgeKey (docNodeId seedDocId)
        (canonicalNodeId text.canonicalHash) "canonical_text" "canonical_text")
  | stored {text : CanonicalTextRow} : db.canonicalText[seedDocId]? = some text →
      LineageEdge db seedDocId depth (edgeKey (canonicalNodeId text.canonicalHash)
        (objectNodeId text.canonicalObjectHash) "stored_as" "canonical_text.canonical_object_hash")
  | created {text : CanonicalTextRow} {e : EdgeKey} : db.canonicalText[seedDocId]? = some text →
      RecordingEdge db (canonicalNodeId text.canonicalHash) "created_by_event"
        "canonical_text.created_event_id" text.createdEventId depth e →
      LineageEdge db seedDocId depth e
  | chunk {chunkId : String} {chunk : ChunkRow} : db.chunks[chunkId]? = some chunk →
      chunk.docId = seedDocId →
      LineageEdge db seedDocId depth (edgeKey (docNodeId seedDocId) (chunkNodeId chunkId)
        "contains_chunk" ("ordinal:" ++ toString chunk.ordinal.toInt))
  | ingested {e : EdgeKey} :
      RecordingEdge db (docNodeId seedDocId) "ingested_by_event" "docs.ingested_event_id"
        (db.ingestedEventId seedDocId) depth e →
      LineageEdge db seedDocId depth e

/-- What is in the node of a kind with a name. -/
def describe (db : LineageSources) (seedDocId kind name : String) : Option LineageNodeV1 :=
  if kind = "doc" then
    if name = seedDocId then
      db.docs[seedDocId]?.map fun doc =>
        ⟨docNodeId seedDocId, kind, seedDocId, docMetadata seedDocId doc⟩
    else none
  else if kind = "object" then
    (db.docs[seedDocId]?.bind fun doc =>
      if doc.originalObjectHash = name then
        some ⟨objectNodeId name, kind, name,
          .obj [("object_hash", .str name), ("role", .str "original")]⟩
      else
        some ⟨objectNodeId name, kind, name, .obj [("role", .str "canonical")]⟩)
  else if kind = "source" then
    some ⟨sourceNodeId name, kind, name, .obj [("source_path", .str name)]⟩
  else if kind = "canonical" then
    db.canonicalText[seedDocId]?.map fun text =>
      ⟨canonicalNodeId name, kind, name, canonicalMetadata text⟩
  else if kind = "chunk" then
    db.chunks[name]?.map fun chunk =>
      ⟨chunkNodeId name, kind, "Chunk " ++ toString chunk.ordinal.toInt, chunkMetadata name chunk⟩
  else if kind = "event" then
    (db.events.rows.find? fun row => toString row.eventId.toInt = name).bind fun row =>
      row.decode.map eventNode
  else none

/-- The node under an id, as its kind and its name say. -/
def Describes (db : LineageSources) (seedDocId nodeId : String) (node : LineageNodeV1) : Prop :=
  ∃ kind name, nodeId = kind ++ ":" ++ name ∧ ':' ∉ kind.toList
    ∧ describe db seedDocId kind name = some node

variable {faults : QueryFaults} {db : LineageSources} {seedDocId : String} {depth : Int64}
  {g g' : LineageGraph} {Edge : EdgeKey → Prop}

/-- The kind and the name of an id are read off it. -/
theorem eq_of_kind_append_eq {kind kind' name name' : String} (hkind : ':' ∉ kind.toList)
    (hkind' : ':' ∉ kind'.toList) (h : kind ++ ":" ++ name = kind' ++ ":" ++ name') :
  kind = kind' ∧ name = name'
  := by
  have hsame := congrArg String.toList h
  rw [String.toList_append, String.toList_append, String.toList_append, String.toList_append,
    List.append_assoc, List.append_assoc] at hsame
  exact ((append_separator_inj hkind hkind').mp hsame).imp String.toList_inj.mp String.toList_inj.mp

/-- An id has one node. -/
theorem Describes.unique {nodeId : String} {node node' : LineageNodeV1}
    (h : Describes db seedDocId nodeId node) (h' : Describes db seedDocId nodeId node') :
  node = node'
  := by
  obtain ⟨kind, name, rfl, hkind, h⟩ := h
  obtain ⟨kind', name', hsame, hkind', h'⟩ := h'
  obtain ⟨rfl, rfl⟩ := eq_of_kind_append_eq hkind hkind' hsame
  rw [h] at h'
  exact Option.some.inj h'

/-- A node has the id and the kind it is described by. -/
theorem describe_named {kind name : String} {node : LineageNodeV1}
    (h : describe db seedDocId kind name = some node) :
  node.nodeId = kind ++ ":" ++ name ∧ node.kind = kind
  := by
  rw [describe] at h
  split_ifs at h with hdoc hname hobject hsource hcanonical hchunk hevent
  · obtain ⟨doc, -, rfl⟩ := Option.map_eq_some_iff.mp h
    subst hdoc hname
    exact ⟨rfl, rfl⟩
  · obtain ⟨doc, -, h⟩ := Option.bind_eq_some_iff.mp h
    subst hobject
    split_ifs at h <;>
    · cases h
      exact ⟨rfl, rfl⟩
  · cases h
    subst hsource
    exact ⟨rfl, rfl⟩
  · obtain ⟨text, -, rfl⟩ := Option.map_eq_some_iff.mp h
    subst hcanonical
    exact ⟨rfl, rfl⟩
  · obtain ⟨chunk, -, rfl⟩ := Option.map_eq_some_iff.mp h
    subst hchunk
    exact ⟨rfl, rfl⟩
  · obtain ⟨row, hfind, h⟩ := Option.bind_eq_some_iff.mp h
    obtain ⟨event, hdecode, rfl⟩ := Option.map_eq_some_iff.mp h
    subst hevent
    have hid : toString row.eventId.toInt = name := by simpa using List.find?_some hfind
    rw [EventRow.eq_row_of_decode hdecode, EventRecord.eventId_row] at hid
    subst hid
    exact ⟨rfl, rfl⟩

/-- A node names its own id, and its kind is what its id starts with. -/
theorem Describes.named {nodeId : String} {node : LineageNodeV1}
    (h : Describes db seedDocId nodeId node) :
  node.nodeId = nodeId ∧ inferredNodeKind nodeId = node.kind
  := by
  obtain ⟨kind, name, rfl, hkind, h⟩ := h
  obtain ⟨hid, hsame⟩ := describe_named h
  use hid
  rw [inferredNodeKind, hsame]
  have htoList : (kind ++ ":" ++ name).toList = kind.toList ++ ':' :: name.toList := by
    rw [String.toList_append, String.toList_append, List.append_assoc]
    rfl
  rw [htoList, if_pos (by simp), List.takeWhile_append_of_pos]
  · simp
  · intro c hc
    rw [decide_eq_true_iff]
    rintro rfl
    exact hkind hc

/-! ### Looking for events -/

theorem decodeFound_eq_ok {failed : String → AppError} {row : Option EventRow}
    {found : Option EventRecord} :
  decodeFound failed row = .ok found ↔ row.map EventRow.decode = found.map some
  := by
  cases row with
  | none => cases found <;> simp [decodeFound]
  | some row =>
    simp only [decodeFound, Option.map_some]
    cases hdecode : row.decode <;> cases found <;> simp [eq_comm]

/-- Rows with one id are the same. -/
theorem eq_of_eventId_eq {row row' : EventRow} (hrow : row ∈ db.events.rows)
    (hrow' : row' ∈ db.events.rows) (h : row.eventId = row'.eventId) :
  row = row'
  := by
  have hnodup : (db.events.rows.map EventRow.eventId).Nodup := by
    rw [List.Nodup, List.pairwise_map]
    exact db.events.increasing.imp Int64.ne_of_lt
  exact List.inj_on_of_nodup_map hnodup hrow hrow' h

/-- A row is found by what only the row of its id satisfies. -/
theorem find?_eventId {row : EventRow} (hmem : row ∈ db.events.rows) {p : EventRow → Bool}
    (hp : ∀ row', p row' = true ↔ row'.eventId = row.eventId) :
  db.events.rows.find? p = some row
  := by
  cases hfind : db.events.rows.find? p with
  | none =>
    rw [List.find?_eq_none] at hfind
    exact absurd ((hp row).mpr rfl) (hfind row hmem)
  | some found =>
    rw [eq_of_eventId_eq (List.mem_of_find?_eq_some hfind) hmem
      ((hp found).mp (List.find?_some hfind))]

theorem EventAt.unique {eventId : Int64} {event event' : EventRecord}
    (h : EventAt db eventId event) (h' : EventAt db eventId event') :
  event = event'
  := by
  obtain ⟨row, hmem, hid, hdecode⟩ := h
  obtain ⟨row', hmem', hid', hdecode'⟩ := h'
  rw [eq_of_eventId_eq hmem' hmem (hid'.trans hid.symm), hdecode] at hdecode'
  exact Option.some.inj hdecode'

theorem EventWithHash.unique {eventHash : String} {event event' : EventRecord}
    (h : EventWithHash db eventHash event) (h' : EventWithHash db eventHash event') :
  event = event'
  := by
  obtain ⟨row, hfind, hdecode⟩ := h
  obtain ⟨row', hfind', hdecode'⟩ := h'
  rw [hfind] at hfind'
  cases hfind'
  rw [hdecode] at hdecode'
  exact Option.some.inj hdecode'

theorem EventWithHash.at {eventHash : String} {event : EventRecord}
    (h : EventWithHash db eventHash event) :
  EventAt db event.eventId event
  := by
  obtain ⟨row, hfind, hdecode⟩ := h
  refine ⟨row, List.mem_of_find?_eq_some hfind, ?_, hdecode⟩
  rw [EventRow.eq_row_of_decode hdecode, EventRecord.eventId_row]

theorem EventAt.eventId_eq {eventId : Int64} {event : EventRecord} (h : EventAt db eventId event) :
  event.eventId = eventId
  := by
  obtain ⟨row, -, hid, hdecode⟩ := h
  rw [← hid, EventRow.eq_row_of_decode hdecode, EventRecord.eventId_row]

/-- What is found under an id is the event there. -/
theorem loadEventById_eq_ok {eventId : Int64} {found : Option EventRecord}
    (h : loadEventById faults db eventId = .ok found) (event : EventRecord) :
  found = some event ↔ EventAt db eventId event
  := by
  rw [loadEventById] at h
  cases hfault : faults.eventById eventId with
  | some error =>
    rw [hfault] at h
    cases h
  | none =>
    rw [hfault] at h
    have hfound := decodeFound_eq_ok.mp h
    constructor
    · rintro rfl
      obtain ⟨row, hfind, hdecode⟩ := Option.map_eq_some_iff.mp hfound
      have hid : row.eventId = eventId := by simpa using List.find?_some hfind
      exact ⟨row, List.mem_of_find?_eq_some hfind, hid, hdecode⟩
    · rintro ⟨row, hmem, rfl, hdecode⟩
      rw [find?_eventId hmem (by simp), Option.map_some, hdecode] at hfound
      cases found with
      | none => cases hfound
      | some event' =>
        simp only [Option.map_some, Option.some.injEq] at hfound
        rw [hfound]

theorem loadEventByHash_eq_ok {eventHash : String} {found : Option EventRecord}
    (h : loadEventByHash faults db eventHash = .ok found) (event : EventRecord) :
  found = some event ↔ EventWithHash db eventHash event
  := by
  rw [loadEventByHash] at h
  cases hfault : faults.eventByHash eventHash with
  | some error =>
    rw [hfault] at h
    cases h
  | none =>
    rw [hfault] at h
    have hfound := decodeFound_eq_ok.mp h
    constructor
    · rintro rfl
      exact Option.map_eq_some_iff.mp hfound
    · rintro ⟨row, hfind, hdecode⟩
      rw [hfind, Option.map_some, hdecode] at hfound
      cases found with
      | none => cases hfound
      | some event' =>
        simp only [Option.map_some, Option.some.injEq] at hfound
        rw [hfound]

/-- The node of an event is the one under its id. -/
theorem EventAt.describes {event : EventRecord} (h : EventAt db event.eventId event) :
  Describes db seedDocId (eventNodeId event) (eventNode event)
  := by
  obtain ⟨row, hmem, hid, hdecode⟩ := h
  use "event", toString event.eventId.toInt, rfl, by decide
  have hfind : (db.events.rows.find? fun row => toString row.eventId.toInt
      = toString event.eventId.toInt) = some row := by
    apply find?_eventId hmem
    intro row'
    rw [decide_eq_true_iff, hid]
    constructor
    · intro h
      exact Int64.toInt_inj.mp (Int.repr_injective h)
    · intro h
      rw [h]
  have hdescribe : describe db seedDocId "event" (toString event.eventId.toInt)
      = (db.events.rows.find? fun row => toString row.eventId.toInt
        = toString event.eventId.toInt).bind fun row => row.decode.map eventNode := rfl
  rw [hdescribe, hfind, Option.bind_some, hdecode, Option.map_some]

/-! ### Chains of events -/

theorem not_chainEdge_zero {event : EventRecord} {e : EdgeKey} :
  ¬ ChainEdge db event 0 e
  := by
  rintro ⟨n, _, _, _, hn, -⟩
  exact Nat.not_lt_zero n hn

/-- An event that has none before it starts no chain. -/
theorem not_chainEdge {event : EventRecord} {left : Nat} {e : EdgeKey}
    (h : ∀ prevHash prev, event.prevEventHash = some prevHash → ¬ EventWithHash db prevHash prev) :
  ¬ ChainEdge db event left e
  := by
  rintro ⟨n, earlier, prevHash, prev, -, hback, hprev, hwith, -⟩
  cases hback with
  | here => exact h prevHash prev hprev hwith
  | back hprev' hwith' _ => exact h _ _ hprev' hwith'

/-- A chain goes on with the chain of the event before. -/
theorem chainEdge_succ {event prev : EventRecord} {prevHash : String}
    (hprev : event.prevEventHash = some prevHash) (hwith : EventWithHash db prevHash prev)
    {left : Nat} {e : EdgeKey} :
  ChainEdge db event (left + 1) e
    ↔ e = edgeKey (eventNodeId event) (eventNodeId prev) "prev_event" prevHash
      ∨ ChainEdge db prev left e
  := by
  constructor
  · rintro ⟨n, earlier, hash, prev', hn, hback, hprev', hwith', rfl⟩
    cases hback with
    | here =>
      left
      rw [hprev] at hprev'
      cases hprev'
      rw [hwith.unique hwith']
    | back hprev'' hwith'' hback =>
      right
      rw [hprev] at hprev''
      cases hprev''
      rw [hwith''.unique hwith] at hback
      exact ⟨_, earlier, hash, prev', Nat.lt_of_succ_lt_succ hn, hback, hprev', hwith', rfl⟩
  · rintro (rfl | ⟨n, earlier, hash, prev', hn, hback, hprev', hwith', rfl⟩)
    · exact ⟨0, event, prevHash, prev, Nat.succ_pos left, .here event, hprev, hwith, rfl⟩
    · exact ⟨n + 1, earlier, hash, prev', Nat.succ_lt_succ hn, .back hprev hwith hback, hprev',
        hwith', rfl⟩

/-- What has been drawn of the lineage of a document. -/
abbrev Drawn (db : LineageSources) (seedDocId : String) (Edge : EdgeKey → Prop)
    (g : LineageGraph) : Prop :=
  Draws EdgeKey.ends (docNodeId seedDocId) (Describes db seedDocId) Edge g

@[simp] theorem ends_edgeKey (fromNodeId toNodeId relation evidence : String) :
  (edgeKey fromNodeId toNodeId relation evidence).ends = (fromNodeId, toNodeId)
  := rfl

/-- An edge to an event is drawn with its node. -/
theorem drawn_event {event : EventRecord} {nodeId : String} (hg : Drawn db seedDocId Edge g)
    (hevent : EventAt db event.eventId event) (hfrom : nodeId ∈ g.nodes)
    (relation evidence : String) :
  Drawn db seedDocId
    (fun e => e = edgeKey nodeId (eventNodeId event) relation evidence ∨ Edge e)
    (addEdge (insertEventNode g event) nodeId (eventNodeId event) relation evidence)
  := hg.link (e := edgeKey nodeId (eventNodeId event) relation evidence) hfrom
    fun _ => hevent.describes

/-- The loop draws the chain of the event it starts from. -/
theorem drawn_chainLoop {left : Nat} {event : EventRecord}
    (h : chainLoop faults db left event g = .ok g') (hg : Drawn db seedDocId Edge g)
    (hfrom : eventNodeId event ∈ g.nodes) :
  Drawn db seedDocId (fun e => ChainEdge db event left e ∨ Edge e) g'
  := by
  induction left generalizing event g Edge with
  | zero =>
    cases h
    apply hg.congr
    intro e
    rw [or_iff_right not_chainEdge_zero]
  | succ left ih =>
    rw [chainLoop] at h
    cases hprev : event.prevEventHash with
    | none =>
      rw [hprev] at h
      cases h
      apply hg.congr
      intro e
      rw [or_iff_right]
      apply not_chainEdge
      simp [hprev]
    | some prevHash =>
      rw [hprev] at h
      obtain ⟨found, hfound, h⟩ := AppResult.bind_eq_ok.mp h
      have hwith := loadEventByHash_eq_ok hfound
      cases found with
      | none =>
        cases h
        apply hg.congr
        intro e
        rw [or_iff_right]
        apply not_chainEdge
        intro hash prev hhash
        rw [hprev] at hhash
        cases hhash
        rw [← hwith]
        rintro ⟨⟩
      | some prev =>
        have hprevious := (hwith prev).mp rfl
        have hdrawn := drawn_event hg hprevious.at hfrom "prev_event" prevHash
        apply (ih h hdrawn (by simp [addEdge, insertEventNode])).congr
        intro e
        rw [chainEdge_succ hprev hprevious, or_assoc, or_left_comm]

theorem drawn_appendEventChain {eventId : Int64} {event : EventRecord}
    (h : appendEventChain faults db eventId depth g = .ok g') (hg : Drawn db seedDocId Edge g)
    (hevent : EventAt db eventId event) (hfrom : eventNodeId event ∈ g.nodes) :
  Drawn db seedDocId (fun e => ChainEdge db event (depth.toInt - 1).toNat e ∨ Edge e) g'
  := by
  rw [appendEventChain] at h
  split_ifs at h with hdepth
  · cases h
    have hle := Int64.le_iff_toInt_le.mp hdepth
    have hzero : (depth.toInt - 1).toNat = 0 := by
      rw [Int64.toInt_one] at hle
      omega
    apply hg.congr
    intro e
    rw [hzero, or_iff_right not_chainEdge_zero]
  · obtain ⟨found, hfound, h⟩ := AppResult.bind_eq_ok.mp h
    obtain rfl := (loadEventById_eq_ok hfound event).mpr hevent
    have hsame : insertEventNode g event = g := Drawing.addNode_of_mem hfrom _
    dsimp only at h
    rw [hsame] at h
    exact drawn_chainLoop h hg hfrom

theorem drawn_addRecordingEvent {nodeId relation evidence : String} {eventId : Int64}
    (h : addRecordingEvent faults db nodeId relation evidence eventId depth g = .ok g')
    (hg : Drawn db seedDocId Edge g) (hfrom : nodeId ∈ g.nodes) :
  Drawn db seedDocId
    (fun e => RecordingEdge db nodeId relation evidence eventId depth e ∨ Edge e) g'
  := by
  obtain ⟨found, hfound, h⟩ := AppResult.bind_eq_ok.mp h
  have hat := loadEventById_eq_ok hfound
  cases found with
  | none =>
    cases h
    apply hg.congr
    intro e
    rw [or_iff_right]
    rintro ⟨event, hevent, -⟩
    cases (hat event).mpr hevent
  | some event =>
    have hevent := (hat event).mp rfl
    have hdrawn := drawn_event hg (hevent.eventId_eq ▸ hevent) hfrom relation evidence
    apply (drawn_appendEventChain h hdrawn hevent (by simp [addEdge, insertEventNode])).congr
    intro e
    constructor
    · rintro (hchain | rfl | he)
      · exact Or.inl ⟨event, hevent, Or.inr hchain⟩
      · exact Or.inl ⟨event, hevent, Or.inl rfl⟩
      · exact Or.inr he
    · rintro (⟨event', hevent', hedge⟩ | he)
      · obtain rfl := hevent.unique hevent'
        exact hedge.elim (Or.inr ∘ Or.inl) Or.inl
      · exact Or.inr (Or.inr he)

/-! ### The whole lineage -/

theorem unlessFails_eq_ok {ε α : Type} {failed : ε → AppError} {fault : Option ε} {a b : α} :
  unlessFails failed fault a = .ok b ↔ fault = none ∧ b = a
  := by
  cases fault <;> simp [unlessFails, eq_comm]

theorem drawn_seedGraph {doc : DocRow} (h : db.docs[seedDocId]? = some doc) :
  Drawn db seedDocId
    (fun e => e = edgeKey (docNodeId seedDocId) (objectNodeId doc.originalObjectHash)
      "originates_from" "docs.original_object_hash")
    (seedGraph seedDocId doc)
  := by
  have hseed : Describes db seedDocId (docNodeId seedDocId)
      ⟨docNodeId seedDocId, "doc", seedDocId, docMetadata seedDocId doc⟩ := by
    use "doc", seedDocId, rfl, by decide
    simp [describe, h]
  have hobject : Describes db seedDocId (objectNodeId doc.originalObjectHash)
      ⟨objectNodeId doc.originalObjectHash, "object", doc.originalObjectHash,
        .obj [("object_hash", .str doc.originalObjectHash), ("role", .str "original")]⟩ := by
    use "object", doc.originalObjectHash, rfl, by decide
    simp [describe, h]
  have hstart : Drawn db seedDocId (fun _ => False) _ := Draws.start hseed
  apply (hstart.link (e := edgeKey (docNodeId seedDocId) (objectNodeId doc.originalObjectHash)
    "originates_from" "docs.original_object_hash") (by simp) fun _ => hobject).congr
  simp

theorem mem_sourcePaths {sourcePath : String} :
  sourcePath ∈ sourcePaths db seedDocId ↔ ⟨seedDocId, sourcePath⟩ ∈ db.docSources
  := by
  rw [sourcePaths, List.mem_insertionSort, List.mem_map]
  constructor
  · rintro ⟨row, hrow, rfl⟩
    obtain ⟨hmem, hdoc⟩ := List.mem_filter.mp hrow
    rw [← of_decide_eq_true hdoc]
    exact hmem
  · intro hmem
    exact ⟨_, List.mem_filter.mpr ⟨hmem, by simp⟩, rfl⟩

theorem drawn_sources (hg : Drawn db seedDocId Edge g) (hseed : docNodeId seedDocId ∈ g.nodes) :
  Drawn db seedDocId
    (fun e => (∃ sourcePath ∈ sourcePaths db seedDocId,
      e = edgeKey (docNodeId seedDocId) (sourceNodeId sourcePath) "source_path" "doc_sources")
        ∨ Edge e)
    ((sourcePaths db seedDocId).foldl (addSource seedDocId) g)
  := by
  apply hg.foldl (fun path => ⟨sourceNodeId path, "source", path, .obj [("source_path", .str path)]⟩)
    fun path => edgeKey (docNodeId seedDocId) (sourceNodeId path) "source_path" "doc_sources"
  · intro path _
    exact hseed
  · intro path _
    use "source", path, rfl, by decide
    simp [describe]

theorem mem_docChunks {chunk : String × ChunkRow} :
  chunk ∈ docChunks db seedDocId ↔ db.chunks[chunk.1]? = some chunk.2 ∧ chunk.2.docId = seedDocId
  := by
  rw [docChunks, List.mem_insertionSort, List.mem_filter,
    Std.ExtTreeMap.mem_toList_iff_getElem?_eq_some, decide_eq_true_iff]

theorem drawn_chunks (hg : Drawn db seedDocId Edge g) (hseed : docNodeId seedDocId ∈ g.nodes) :
  Drawn db seedDocId
    (fun e => (∃ chunk ∈ docChunks db seedDocId, e = edgeKey (docNodeId seedDocId)
      (chunkNodeId chunk.1) "contains_chunk" ("ordinal:" ++ toString chunk.2.ordinal.toInt))
        ∨ Edge e)
    ((docChunks db seedDocId).foldl (addChunk seedDocId) g)
  := by
  apply hg.foldl (fun chunk : String × ChunkRow => ⟨chunkNodeId chunk.1, "chunk",
      "Chunk " ++ toString chunk.2.ordinal.toInt, chunkMetadata chunk.1 chunk.2⟩)
    fun chunk : String × ChunkRow => edgeKey (docNodeId seedDocId) (chunkNodeId chunk.1)
      "contains_chunk" ("ordinal:" ++ toString chunk.2.ordinal.toInt)
  · intro chunk _
    exact hseed
  · intro chunk hchunk
    use "chunk", chunk.1, rfl, by decide
    simp [describe, (mem_docChunks.mp hchunk).1]

/-- The node of the object a text is stored as has the role of the original, if it is that. -/
theorem drawn_addText {doc : DocRow} {text : CanonicalTextRow}
    (hdoc : db.docs[seedDocId]? = some doc)
    (htext : db.canonicalText[seedDocId]? = some text) (hg : Drawn db seedDocId Edge g)
    (hseed : docNodeId seedDocId ∈ g.nodes)
    (horiginal : objectNodeId doc.originalObjectHash ∈ g.nodes) :
  Drawn db seedDocId
    (fun e => e = edgeKey (canonicalNodeId text.canonicalHash)
        (objectNodeId text.canonicalObjectHash) "stored_as" "canonical_text.canonical_object_hash"
      ∨ e = edgeKey (docNodeId seedDocId) (canonicalNodeId text.canonicalHash) "canonical_text"
        "canonical_text"
      ∨ Edge e)
    (addText seedDocId text g)
  := by
  have hcanonical : Describes db seedDocId (canonicalNodeId text.canonicalHash)
      ⟨canonicalNodeId text.canonicalHash, "canonical", text.canonicalHash,
        canonicalMetadata text⟩ := by
    use "canonical", text.canonicalHash, rfl, by decide
    simp [describe, htext]
  have hdrawn := hg.link (e := edgeKey (docNodeId seedDocId) (canonicalNodeId text.canonicalHash)
    "canonical_text" "canonical_text") hseed fun _ => hcanonical
  apply hdrawn.link (e := edgeKey (canonicalNodeId text.canonicalHash)
    (objectNodeId text.canonicalObjectHash) "stored_as" "canonical_text.canonical_object_hash")
  · simp
  · intro hnew
    use "object", text.canonicalObjectHash, rfl, by decide
    have hother : doc.originalObjectHash ≠ text.canonicalObjectHash := by
      intro hsame
      apply hnew
      simp only [Drawing.mem_nodes_addEdge, Drawing.mem_nodes_addNode, ends_edgeKey]
      right
      rw [← hsame]
      exact horiginal
    simp [describe, hdoc, hother]

theorem drawn_addCanonical {doc : DocRow} (hdoc : db.docs[seedDocId]? = some doc)
    (h : addCanonical faults db seedDocId depth g = .ok g') (hg : Drawn db seedDocId Edge g)
    (hseed : docNodeId seedDocId ∈ g.nodes)
    (horiginal : objectNodeId doc.originalObjectHash ∈ g.nodes) :
  Drawn db seedDocId
    (fun e => (∃ text, db.canonicalText[seedDocId]? = some text
        ∧ (RecordingEdge db (canonicalNodeId text.canonicalHash) "created_by_event"
            "canonical_text.created_event_id" text.createdEventId depth e
          ∨ e = edgeKey (canonicalNodeId text.canonicalHash)
            (objectNodeId text.canonicalObjectHash) "stored_as"
            "canonical_text.canonical_object_hash"
          ∨ e = edgeKey (docNodeId seedDocId) (canonicalNodeId text.canonicalHash) "canonical_text"
            "canonical_text"))
      ∨ Edge e)
    g'
  := by
  obtain ⟨row, hrow, h⟩ := AppResult.bind_eq_ok.mp h
  obtain ⟨-, rfl⟩ := unlessFails_eq_ok.mp hrow
  cases htext : db.canonicalText[seedDocId]? with
  | none =>
    rw [htext] at h
    cases h
    apply hg.congr
    simp
  | some text =>
    rw [htext] at h
    have hdrawn := drawn_addText hdoc htext hg hseed horiginal
    apply (drawn_addRecordingEvent h hdrawn (by simp [addText, addEdge, addNode])).congr
    intro e
    simp only [Option.some.injEq, exists_eq_left', or_assoc]

/-- A lineage that is returned has the edges it consists of. -/
theorem drawn_lineageGraph (h : lineageGraph faults db seedDocId depth = .ok g) :
  Drawn db seedDocId (LineageEdge db seedDocId depth) g
  := by
  obtain ⟨row, hrow, h⟩ := AppResult.bind_eq_ok.mp h
  obtain ⟨-, rfl⟩ := unlessFails_eq_ok.mp hrow
  obtain ⟨doc, hdoc, h⟩ := AppResult.bind_eq_ok.mp h
  rw [okOrElse_eq_ok] at hdoc
  obtain ⟨sources, hsources, h⟩ := AppResult.bind_eq_ok.mp h
  obtain ⟨-, rfl⟩ := unlessFails_eq_ok.mp hsources
  obtain ⟨g₁, hcanonical, h⟩ := AppResult.bind_eq_ok.mp h
  obtain ⟨chunks, hchunks, h⟩ := AppResult.bind_eq_ok.mp h
  obtain ⟨-, rfl⟩ := unlessFails_eq_ok.mp hchunks
  have hstart := drawn_seedGraph hdoc
  have hpaths := drawn_sources hstart (by simp [seedGraph, addEdge, addNode])
  have hseed₁ : docNodeId seedDocId ∈ _ := (hpaths.nodes _).mpr (Or.inl rfl)
  have htext := drawn_addCanonical hdoc hcanonical hpaths hseed₁
    ((hpaths.nodes _).mpr (Or.inr ⟨_, Or.inr rfl, Or.inr rfl⟩))
  have hparts := drawn_chunks htext ((htext.nodes _).mpr (Or.inl rfl))
  apply (drawn_addRecordingEvent h hparts ((hparts.nodes _).mpr (Or.inl rfl))).congr
  intro e
  constructor
  · rintro (hingested | ⟨chunk, hmem, rfl⟩ | ⟨text, htext, hcreated | rfl | rfl⟩ | ⟨path, hmem, rfl⟩
      | rfl)
    · exact .ingested hingested
    · obtain ⟨hchunk, hsame⟩ := mem_docChunks.mp hmem
      exact .chunk hchunk hsame
    · exact .created htext hcreated
    · exact .stored htext
    · exact .canonical htext
    · exact .source (mem_sourcePaths.mp hmem)
    · exact .original hdoc
  · intro hedge
    cases hedge with
    | @original doc' hdoc' =>
      rw [hdoc] at hdoc'
      cases hdoc'
      exact Or.inr (Or.inr (Or.inr (Or.inr rfl)))
    | source hmem => exact Or.inr (Or.inr (Or.inr (Or.inl ⟨_, mem_sourcePaths.mpr hmem, rfl⟩)))
    | canonical htext => exact Or.inr (Or.inr (Or.inl ⟨_, htext, Or.inr (Or.inr rfl)⟩))
    | stored htext => exact Or.inr (Or.inr (Or.inl ⟨_, htext, Or.inr (Or.inl rfl)⟩))
    | created htext hcreated => exact Or.inr (Or.inr (Or.inl ⟨_, htext, Or.inl hcreated⟩))
    | @chunk chunkId chunk hchunk hsame =>
      exact Or.inr (Or.inl ⟨(chunkId, chunk), mem_docChunks.mpr ⟨hchunk, hsame⟩, rfl⟩)
    | ingested hingested => exact Or.inl hingested

/-! ### What a query returns -/

/-- The nodes of a lineage: the document and the ends of the edges. -/
def LineageNode (db : LineageSources) (seedDocId : String) (depth : Int64) (nodeId : String) :
    Prop :=
  nodeId = docNodeId seedDocId
    ∨ ∃ e, LineageEdge db seedDocId depth e ∧ (nodeId = e.fromNodeId ∨ nodeId = e.toNodeId)

/-- What a query returns is the lineage: its edges, and its nodes as their ids describe them. -/
structure IsLineage (db : LineageSources) (seedDocId : String) (depth : Int64)
    (res : LineageQueryResV1) : Prop where
  edges : ∀ e, e ∈ res.edges ↔ LineageEdge db seedDocId depth e.key
  nodes : ∀ node, node ∈ res.nodes
    ↔ LineageNode db seedDocId depth node.nodeId ∧ Describes db seedDocId node.nodeId node

theorem mem_sortNodes {nodesById : Table LineageNodeV1} {node : LineageNodeV1} :
  node ∈ sortNodes nodesById ↔ ∃ nodeId : String, nodesById[nodeId]? = some node
  := by
  rw [sortNodes, List.mem_insertionSort, List.mem_map]
  constructor
  · rintro ⟨⟨nodeId, node'⟩, hmem, rfl⟩
    exact ⟨nodeId, Std.ExtTreeMap.mem_toList_iff_getElem?_eq_some.mp hmem⟩
  · rintro ⟨nodeId, h⟩
    exact ⟨(nodeId, node), Std.ExtTreeMap.mem_toList_iff_getElem?_eq_some.mpr h, rfl⟩

theorem queryLineage_eq_ok {nowMs : Int64} {res : LineageQueryResV1}
    (h : queryLineage faults db seedDocId depth nowMs = .ok res) :
  0 < depth ∧ ∃ g, lineageGraph faults db seedDocId depth = .ok g ∧ res.nodes = sortNodes g.nodes
    ∧ res.edges = g.edges.toList.map EdgeKey.edge
  := by
  rw [queryLineage] at h
  split_ifs at h with hdepth
  obtain ⟨g, hg, h⟩ := AppResult.bind_eq_ok.mp h
  cases h
  exact ⟨Int64.not_le.mp hdepth, g, hg, rfl, rfl⟩

theorem isLineage_of_ok {nowMs : Int64} {res : LineageQueryResV1}
    (h : queryLineage faults db seedDocId depth nowMs = .ok res) :
  IsLineage db seedDocId depth res
  := by
  obtain ⟨-, g, hg, hnodes, hedges⟩ := queryLineage_eq_ok h
  have hdrawn := drawn_lineageGraph hg
  constructor
  · intro e
    rw [hedges, List.mem_map, ← hdrawn.edges]
    constructor
    · rintro ⟨key, hmem, rfl⟩
      exact Std.ExtTreeSet.mem_toList.mp hmem
    · intro hmem
      exact ⟨e.key, Std.ExtTreeSet.mem_toList.mpr hmem, rfl⟩
  · intro node
    rw [hnodes, mem_sortNodes]
    have hsome (nodeId : String) := hdrawn.getElem?_eq_some_iff
      (fun _ _ _ => Describes.unique) (k := nodeId) (l := node)
    constructor
    · rintro ⟨nodeId, hnode⟩
      obtain ⟨hthere, hdescribes⟩ := (hsome nodeId).mp hnode
      rw [hdescribes.named.1]
      exact ⟨hthere, hdescribes⟩
    · intro hnode
      exact ⟨node.nodeId, (hsome _).mpr hnode⟩

/-- Whatever the tables hold and whichever statements may fail: what a query returns is the lineage
of the document up to the depth, with no edge and no node too many or too few. -/
theorem query_lineage_exact (faults : QueryFaults) (db : LineageSources) (seedDocId : String)
    (depth nowMs : Int64) (res : LineageQueryResV1)
    (h : queryLineage faults db seedDocId depth nowMs = .ok res) :
  IsLineage db seedDocId depth res
  := isLineage_of_ok h

/-- An event with a hash, after the one with another hash. -/
def Sample.event (prevEventHash : Option String) (eventHash : String) : EventRecord where
  eventId := 0
  tsMs := 0
  eventType := "ingest.completed"
  payloadJson := "\x7b\x7d"
  prevEventHash
  eventHash

/-- Two events, of which the second one follows the first. -/
def Sample.twoEvents : EventTable :=
  (EventTable.empty.push (Sample.event none "first") (by decide)).push
    (Sample.event (some "first") "second") (by decide)

/-- A document with its text and an overlay, recorded by the second of two events. -/
def Sample.lineageSources : LineageSources where
  __ := Db.empty
  docs := (∅ : Table DocRow).insert "document" {
    originalObjectHash := "original"
    bytes := 3
    mime := "text/plain"
    sourceKind := "notes"
    effectiveTsMs := 0 }
  docSources := [⟨"document", "/notes/a.txt"⟩]
  canonicalText := (∅ : Table CanonicalTextRow).insert "document" {
    canonicalObjectHash := "stored"
    canonicalHash := "canonical"
    extractorName := "text"
    extractorVersion := "1"
    extractorFlagsJson := "\x7b\x7d"
    normalizationVersion := 1
    toolchainJson := "\x7b\x7d"
    createdEventId := 2 }
  lineageOverlays := (∅ : Table LineageOverlayRow).insert "overlay" {
    docId := "document"
    fromNodeId := "doc:document"
    toNodeId := "note:overlay"
    relation := "supports"
    evidence := "note"
    createdAtMs := 0
    createdBy := "editor" }
  events := Sample.twoEvents
  trustProviderPolicies := ∅
  lineagePolicies := ∅
  lineagePolicyBindings := []
  lineagePolicyAudit := []
  lineageRoles := ∅
  lineagePermissions := []
  lineageRoleBindings := []
  lineageLockScopes _ := none
  chunks := (∅ : Table ChunkRow).insert "chunk" {
    docId := "document"
    ordinal := 0
    startChar := 0
    endChar := 3
    chunkingConfigHash := "config" }
  ingestedEventId _ := 2

theorem Sample.lineageSources_returns :
  (queryLineage noQueryFaults Sample.lineageSources "document" 2 0).isOk = true
  := by decide +kernel

theorem query_lineage_exact_document :
  ∃ res, queryLineage noQueryFaults Sample.lineageSources "document" 2 0 = .ok res
    ∧ IsLineage Sample.lineageSources "document" 2 res
  := by
  obtain ⟨res, hres⟩ := exists_of_isOk Sample.lineageSources_returns
  use res, hres
  exact query_lineage_exact noQueryFaults Sample.lineageSources "document" 2 0 res hres

end Lineage

end KnowledgeCore
