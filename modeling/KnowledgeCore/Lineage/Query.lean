import Mathlib.Data.Prod.Lex
import KnowledgeCore.Lib.Drawing
import KnowledgeCore.Lib.Sorting
import KnowledgeCore.Lineage.Overlay

/-!
# The lineage of a document

The lineage of a document is a graph: what the document originates from, its text, its chunks, and
the events that recorded them, each with the events before it up to a depth. The second version of
the query adds the overlays. The graph is collected from several tables.
-/

namespace KnowledgeCore

/-- A row of `chunks`, under its `chunk_id`. -/
structure ChunkRow where
  docId : String
  ordinal : Int64
  startChar : Int64
  endChar : Int64
  chunkingConfigHash : String

/-- The database with what a lineage is collected from: the chunks, and the event that recorded
each document. -/
structure LineageSources extends LineageDb where
  chunks : Table ChunkRow
  ingestedEventId : String → Int64

namespace Lineage

structure LineageNodeV1 where
  nodeId : String
  kind : String
  label : String
  metadata : Json

structure LineageEdgeV1 where
  fromNodeId : String
  toNodeId : String
  relation : String
  evidence : String
deriving DecidableEq

structure LineageQueryResV1 where
  schemaVersion : Int64
  seedDocId : String
  depth : Int64
  generatedAtMs : Int64
  nodes : List LineageNodeV1
  edges : List LineageEdgeV1

structure LineageEdgeV2 where
  fromNodeId : String
  toNodeId : String
  relation : String
  evidence : String
  origin : String
deriving DecidableEq

structure LineageQueryResV2 where
  schemaVersion : Int64
  seedDocId : String
  depth : Int64
  generatedAtMs : Int64
  nodes : List LineageNodeV1
  edges : List LineageEdgeV2

/-! ### The graph that is collected -/

/-- What an edge is kept under: its ends, its relation and its evidence. -/
abbrev EdgeKey := String ×ₗ String ×ₗ String ×ₗ String

instance : Std.LawfulEqOrd EdgeKey where
  eq_of_compare h := compare_eq_iff_eq.mp h

def edgeKey (fromNodeId toNodeId relation evidence : String) : EdgeKey :=
  toLex (fromNodeId, toLex (toNodeId, toLex (relation, evidence)))

namespace EdgeKey

def fromNodeId (e : EdgeKey) : String := (ofLex e).1
def toNodeId (e : EdgeKey) : String := (ofLex (ofLex e).2).1
def relation (e : EdgeKey) : String := (ofLex (ofLex (ofLex e).2).2).1
def evidence (e : EdgeKey) : String := (ofLex (ofLex (ofLex e).2).2).2

/-- The nodes an edge is between. -/
def ends (e : EdgeKey) : String × String := (fromNodeId e, toNodeId e)

/-- The edge under a key. -/
def edge (e : EdgeKey) : LineageEdgeV1 where
  fromNodeId := fromNodeId e
  toNodeId := toNodeId e
  relation := relation e
  evidence := evidence e

end EdgeKey

/-- The key of an edge. -/
def LineageEdgeV1.key (e : LineageEdgeV1) : EdgeKey :=
  edgeKey e.fromNodeId e.toNodeId e.relation e.evidence

abbrev LineageGraph := Drawing String LineageNodeV1 EdgeKey

def addNode (g : LineageGraph) (nodeId kind label : String) (metadata : Json) : LineageGraph :=
  g.addNode nodeId { nodeId, kind, label, metadata }

def addEdge (g : LineageGraph) (fromNodeId toNodeId relation evidence : String) : LineageGraph :=
  g.addEdge (edgeKey fromNodeId toNodeId relation evidence)

/-! ### Statements that fail -/

/-- The stage at which a statement for several rows fails. -/
inductive RowsFault
  | prepare (error : String)
  | query (error : String)
  | decode (error : String)

def RowsFault.failed (preparing querying decoding : String) : RowsFault → AppError
  | .prepare error => queryFailed preparing [] error
  | .query error => queryFailed querying [] error
  | .decode error => queryFailed decoding [] error

/-- Which statements of a lineage query fail. -/
structure QueryFaults where
  seedDoc : Option String
  sources : Option RowsFault
  canonical : Option String
  chunks : Option RowsFault
  eventById : Int64 → Option String
  eventByHash : String → Option String
  overlays : Option RowsFault

/-- No statement fails. -/
def noQueryFaults : QueryFaults where
  seedDoc := none
  sources := none
  canonical := none
  chunks := none
  eventById := fun _ => none
  eventByHash := fun _ => none
  overlays := none

/-- What a statement returns unless it fails. -/
def unlessFails {ε α : Type} (failed : ε → AppError) (fault : Option ε) (a : α) : AppResult α :=
  match fault with
  | some error => .error (failed error)
  | none => .ok a

variable (faults : QueryFaults) (db : LineageSources)

/-! ### Events -/

def SqlValue.typeName : SqlValue → String
  | .null => "Null"
  | .integer _ => "Integer"
  | .real _ => "Real"
  | .text _ => "Text"
  | .blob _ => "Blob"

/-- The complaint about the first column of a row that does not have its type. -/
def decodeError (row : EventRow) : String :=
  let complaint (column : SqlValue) (index name : String) :=
    "Invalid column type " ++ SqlValue.typeName column ++ " at index: " ++ index ++ ", name: "
      ++ name
  if row.tsMs.asI64.isNone then complaint row.tsMs "1" "ts_ms"
  else if row.eventType.asText.isNone then complaint row.eventType "2" "type"
  else if row.payloadJson.asText.isNone then complaint row.payloadJson "3" "payload_json"
  else if row.prevEventHash.asNullableText.isNone then
    complaint row.prevEventHash "4" "prev_event_hash"
  else complaint row.eventHash "5" "event_hash"

/-- The event in the row that was found, if one was. -/
def decodeFound (failed : String → AppError) : Option EventRow → AppResult (Option EventRecord)
  | none => .ok none
  | some row =>
    match row.decode with
    | some record => .ok (some record)
    | none => .error (failed (decodeError row))

def loadEventById (eventId : Int64) : AppResult (Option EventRecord) :=
  let failed := queryFailed "failed loading event by id" [("event_id", .int eventId.toInt)]
  match faults.eventById eventId with
  | some error => .error (failed error)
  | none => decodeFound failed (db.events.rows.find? fun row => row.eventId = eventId)

/-- Whether a row has a hash. -/
def hasHash (eventHash : String) (row : EventRow) : Bool :=
  row.eventHash.asText = some eventHash

def loadEventByHash (eventHash : String) : AppResult (Option EventRecord) :=
  let failed := queryFailed "failed loading event by hash" [("event_hash", .str eventHash)]
  match faults.eventByHash eventHash with
  | some error => .error (failed error)
  | none => decodeFound failed (db.events.rows.find? (hasHash eventHash))

def eventNodeId (event : EventRecord) : String :=
  "event:" ++ toString event.eventId.toInt

def eventNode (event : EventRecord) : LineageNodeV1 where
  nodeId := eventNodeId event
  kind := "event"
  label := "Event " ++ toString event.eventId.toInt ++ " " ++ event.eventType
  metadata := .obj [("event_id", .int event.eventId.toInt), ("ts_ms", .int event.tsMs.toInt),
    ("event_type", .str event.eventType), ("payload_json", .str event.payloadJson),
    ("event_hash", .str event.eventHash), ("prev_event_hash", .ofOption event.prevEventHash)]

def insertEventNode (g : LineageGraph) (event : EventRecord) : LineageGraph :=
  g.addNode (eventNodeId event) (eventNode event)

/-- Go back from an event to the one before it, for as many events as are left. -/
def chainLoop : Nat → EventRecord → LineageGraph → AppResult LineageGraph
  | 0, _, g => .ok g
  | left + 1, current, g =>
    match current.prevEventHash with
    | none => .ok g
    | some prevHash => do
      match ← loadEventByHash faults db prevHash with
      | none => .ok g
      | some prevEvent =>
        let g := addEdge (insertEventNode g prevEvent) (eventNodeId current) (eventNodeId prevEvent)
          "prev_event" prevHash
        chainLoop left prevEvent g

def appendEventChain (startEventId depth : Int64) (g : LineageGraph) : AppResult LineageGraph :=
  if depth ≤ 1 then .ok g
  else do
    match ← loadEventById faults db startEventId with
    | none => .ok g
    | some event =>
      chainLoop faults db (depth.toInt - 1).toNat event (insertEventNode g event)

/-- Draw the event that recorded something, and the events before it. -/
def addRecordingEvent (nodeId relation evidence : String) (eventId depth : Int64)
    (g : LineageGraph) : AppResult LineageGraph := do
  match ← loadEventById faults db eventId with
  | none => .ok g
  | some event =>
    let g := addEdge (insertEventNode g event) nodeId (eventNodeId event) relation evidence
    appendEventChain faults db eventId depth g

/-! ### The parts of a lineage -/

def docNodeId (docId : String) : String := "doc:" ++ docId
def objectNodeId (objectHash : String) : String := "object:" ++ objectHash
def sourceNodeId (sourcePath : String) : String := "source:" ++ sourcePath
def canonicalNodeId (canonicalHash : String) : String := "canonical:" ++ canonicalHash
def chunkNodeId (chunkId : String) : String := "chunk:" ++ chunkId

def docMetadata (docId : String) (doc : DocRow) : Json :=
  .obj [("doc_id", .str docId), ("mime", .str doc.mime), ("source_kind", .str doc.sourceKind),
    ("effective_ts_ms", .int doc.effectiveTsMs.toInt)]

def canonicalMetadata (text : CanonicalTextRow) : Json :=
  .obj [("canonical_hash", .str text.canonicalHash), ("extractor_name", .str text.extractorName),
    ("extractor_version", .str text.extractorVersion),
    ("normalization_version", .int text.normalizationVersion.toInt),
    ("toolchain_json", .str text.toolchainJson)]

def chunkMetadata (chunkId : String) (chunk : ChunkRow) : Json :=
  .obj [("chunk_id", .str chunkId), ("ordinal", .int chunk.ordinal.toInt),
    ("start_char", .int chunk.startChar.toInt), ("end_char", .int chunk.endChar.toInt),
    ("chunking_config_hash", .str chunk.chunkingConfigHash)]

/-- The document and the object it originates from. -/
def seedGraph (seedDocId : String) (doc : DocRow) : LineageGraph :=
  let g := addNode Drawing.empty (docNodeId seedDocId) "doc" seedDocId (docMetadata seedDocId doc)
  let g := addNode g (objectNodeId doc.originalObjectHash) "object" doc.originalObjectHash
    (.obj [("object_hash", .str doc.originalObjectHash), ("role", .str "original")])
  addEdge g (docNodeId seedDocId) (objectNodeId doc.originalObjectHash) "originates_from"
    "docs.original_object_hash"

/-- The paths a document was found under, in their order. -/
def sourcePaths (seedDocId : String) : List String :=
  ((db.docSources.filter fun row => row.docId = seedDocId).map DocSourceRow.sourcePath).insertionSort
    (· ≤ ·)

def addSource (seedDocId : String) (g : LineageGraph) (sourcePath : String) : LineageGraph :=
  let g := addNode g (sourceNodeId sourcePath) "source" sourcePath
    (.obj [("source_path", .str sourcePath)])
  addEdge g (docNodeId seedDocId) (sourceNodeId sourcePath) "source_path" "doc_sources"

/-- The text of a document and the object it is stored as. -/
def addText (seedDocId : String) (text : CanonicalTextRow) (g : LineageGraph) : LineageGraph :=
  let canonicalNode := canonicalNodeId text.canonicalHash
  let g := addNode g canonicalNode "canonical" text.canonicalHash (canonicalMetadata text)
  let g := addEdge g (docNodeId seedDocId) canonicalNode "canonical_text" "canonical_text"
  let canonicalObjNode := objectNodeId text.canonicalObjectHash
  let g := addNode g canonicalObjNode "object" text.canonicalObjectHash
    (.obj [("role", .str "canonical")])
  addEdge g canonicalNode canonicalObjNode "stored_as" "canonical_text.canonical_object_hash"

def addCanonical (seedDocId : String) (depth : Int64) (g : LineageGraph) :
  AppResult LineageGraph
  := do
  let row ← unlessFails (queryFailed "failed loading canonical lineage" []) faults.canonical
    db.canonicalText[seedDocId]?
  match row with
  | none => .ok g
  | some text =>
    addRecordingEvent faults db (canonicalNodeId text.canonicalHash) "created_by_event"
      "canonical_text.created_event_id" text.createdEventId depth (addText seedDocId text g)

/-- The chunks of a document by their ordinals, and then by their ids. -/
def docChunks (seedDocId : String) : List (String × ChunkRow) :=
  (db.chunks.toList.filter fun chunk => chunk.2.docId = seedDocId).insertionSort fun a b =>
    a.2.ordinal < b.2.ordinal ∨ a.2.ordinal = b.2.ordinal ∧ a.1 ≤ b.1

def addChunk (seedDocId : String) (g : LineageGraph) (chunk : String × ChunkRow) :
  LineageGraph
  :=
  let (chunkId, row) := chunk
  let g := addNode g (chunkNodeId chunkId) "chunk" ("Chunk " ++ toString row.ordinal.toInt)
    (chunkMetadata chunkId row)
  addEdge g (docNodeId seedDocId) (chunkNodeId chunkId) "contains_chunk"
    ("ordinal:" ++ toString row.ordinal.toInt)

/-! ### The query -/

def nodeOrder (a b : LineageNodeV1) : Prop :=
  toLex (a.kind, a.nodeId) ≤ toLex (b.kind, b.nodeId)

instance : DecidableRel nodeOrder := fun a b =>
  inferInstanceAs (Decidable (toLex (a.kind, a.nodeId) ≤ toLex (b.kind, b.nodeId)))

/-- The nodes under their ids, ordered by their kinds and then by their ids. -/
def sortNodes (nodesById : Table LineageNodeV1) : List LineageNodeV1 :=
  (nodesById.toList.map Prod.snd).insertionSort nodeOrder

def seedNotFound (seedDocId : String) : AppError :=
  lineageError "KC_LINEAGE_DOC_NOT_FOUND" "seed document does not exist"
    [("seed_doc_id", .str seedDocId)]

/-- The graph of the lineage of a document. -/
def lineageGraph (seedDocId : String) (depth : Int64) : AppResult LineageGraph := do
  let row ← unlessFails (queryFailed "failed loading seed doc" [("seed_doc_id", .str seedDocId)])
    faults.seedDoc db.docs[seedDocId]?
  let doc ← okOrElse (seedNotFound seedDocId) row
  let sources ← unlessFails (RowsFault.failed "failed preparing source query"
    "failed querying sources" "failed decoding source row") faults.sources (sourcePaths db seedDocId)
  let g := sources.foldl (addSource seedDocId) (seedGraph seedDocId doc)
  let g ← addCanonical faults db seedDocId depth g
  let chunks ← unlessFails (RowsFault.failed "failed preparing chunk query"
    "failed querying chunks" "failed decoding chunk row") faults.chunks (docChunks db seedDocId)
  let g := chunks.foldl (addChunk seedDocId) g
  addRecordingEvent faults db (docNodeId seedDocId) "ingested_by_event" "docs.ingested_event_id"
    (db.ingestedEventId seedDocId) depth g

def queryLineage (seedDocId : String) (depth nowMs : Int64) : AppResult LineageQueryResV1 :=
  if depth ≤ 0 then
    .error (lineageError "KC_LINEAGE_INVALID_DEPTH" "lineage depth must be >= 1"
      [("depth", .int depth.toInt), ("min", .int 1)])
  else do
    let g ← lineageGraph faults db seedDocId depth
    .ok {
      schemaVersion := 1
      seedDocId
      depth
      generatedAtMs := nowMs
      nodes := sortNodes g.nodes
      edges := g.edges.toList.map EdgeKey.edge }

/-! ### Overlays -/

def LineageOverlayRow.entry (overlayId : String) (row : LineageOverlayRow) :
    LineageOverlayEntryV1 where
  overlayId
  docId := row.docId
  fromNodeId := row.fromNodeId
  toNodeId := row.toNodeId
  relation := row.relation
  evidence := row.evidence
  createdAtMs := row.createdAtMs
  createdBy := row.createdBy

/-- What the overlays of a document are ordered by. -/
def overlayKey (e : LineageOverlayEntryV1) : EdgeKey ×ₗ String :=
  toLex (edgeKey e.fromNodeId e.toNodeId e.relation e.evidence, e.overlayId)

def lineageOverlayList (docId : String) : AppResult (List LineageOverlayEntryV1) :=
  unlessFails (RowsFault.failed "failed preparing lineage overlay list query"
    "failed querying lineage overlays" "failed decoding lineage overlay row") faults.overlays
    ((db.lineageOverlays.toList.filterMap fun (overlayId, row) =>
      if row.docId = docId then some (LineageOverlayRow.entry overlayId row) else none).insertionSort
        fun a b => overlayKey a ≤ overlayKey b)

/-- The kind a node id starts with. -/
def inferredNodeKind (nodeId : String) : String :=
  if ':' ∈ nodeId.toList then
    String.ofList (nodeId.toList.takeWhile (· ≠ ':'))
  else
    "overlay"

/-- A node that is known from an overlay only. -/
def overlayNode (nodeId : String) : LineageNodeV1 where
  nodeId
  kind := inferredNodeKind nodeId
  label := nodeId
  metadata := .obj [("overlay_only", .bool true)]

def addOverlayNode (nodesById : Table LineageNodeV1) (nodeId : String) : Table LineageNodeV1 :=
  nodesById.insertIfNew nodeId (overlayNode nodeId)

def addOverlayNodes (nodesById : Table LineageNodeV1) (overlay : LineageOverlayEntryV1) :
    Table LineageNodeV1 :=
  addOverlayNode (addOverlayNode nodesById overlay.fromNodeId) overlay.toNodeId

def systemEdge (e : LineageEdgeV1) : LineageEdgeV2 where
  fromNodeId := e.fromNodeId
  toNodeId := e.toNodeId
  relation := e.relation
  evidence := e.evidence
  origin := "system"

def overlayEdge (e : LineageOverlayEntryV1) : LineageEdgeV2 where
  fromNodeId := e.fromNodeId
  toNodeId := e.toNodeId
  relation := e.relation
  evidence := e.evidence
  origin := "overlay"

/-- What the edges of the second version are ordered by. -/
def LineageEdgeV2.key (e : LineageEdgeV2) : EdgeKey ×ₗ String :=
  toLex (edgeKey e.fromNodeId e.toNodeId e.relation e.evidence, e.origin)

def queryLineageV2 (seedDocId : String) (depth nowMs : Int64) : AppResult LineageQueryResV2 := do
  let base ← queryLineage faults db seedDocId depth nowMs
  let overlays ← lineageOverlayList faults db seedDocId
  let nodesById := base.nodes.foldl (fun table n => table.insert n.nodeId n) ∅
  let nodesById := overlays.foldl addOverlayNodes nodesById
  let edges := base.edges.map systemEdge ++ overlays.map overlayEdge
  .ok {
    schemaVersion := 2
    seedDocId
    depth
    generatedAtMs := nowMs
    nodes := sortNodes nodesById
    edges := edges.insertionSort fun a b => a.key ≤ b.key }

end Lineage

end KnowledgeCore
