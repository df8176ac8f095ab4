import KnowledgeCore.Objects.Ingest
import KnowledgeCore.Objects.Locator
import KnowledgeCore.Retrieval
import Mathlib.Data.Int.ConditionallyCompleteOrder

/-!
# Asking

A question is answered from the text that is retrieved for it. The chunks that match it are ranked,
the best of them are read and handed to a provider, and what the provider cites has to resolve. The
answer and what it was given from are kept in a trace file.
-/

namespace KnowledgeCore

namespace Ask

open Locator (resolveLocatorStrict)
open Retrieval

/-- A locator with its hints. -/
structure CitedLocator extends LocatorV1 where
  hints : Json

/-- The locators that are cited, each list under the paragraph it is cited in. -/
abbrev Citations := List (Int64 × List CitedLocator)

structure AskRequest where
  question : String
  nowMs : Int64

structure AskResponse where
  answerText : String
  citations : Citations
  tracePath : String

structure RetrievedContext (F : Type) where
  chunkId : String
  ordinal : Int64
  finalScore : F
  locator : CitedLocator
  snippet : String

structure ProviderAnswer where
  answerText : String
  citations : Citations

/-- A provider answers a question from contexts. -/
abbrev AskProvider (F : Type) := String → List (RetrievedContext F) → AppResult ProviderAnswer

structure RetrievedOnlyAskService (F : Type) where
  traceDirName : String
  provider : AskProvider F

def askError (code message : String) (retryable : Bool) (details : List (String × Json)) :
  AppError
  where
  code := code
  category := "ask"
  message := message
  retryable := retryable
  details := .obj details

/-- The first line of a text, or no text at all. -/
def firstLine (text : String) : String :=
  String.ofList (text.toList.takeWhile (· ≠ '\n'))

def DeterministicAskProvider {F : Type} : AskProvider F := fun question contexts => do
  let first ← okOrElse
    (askError "KC_ASK_PROVIDER_UNAVAILABLE" "no retrieved context was available" true [])
    contexts.head?
  .ok {
    answerText := "Q: " ++ trim question ++ "\nA: " ++ trim (firstLine first.snippet)
    citations := [(0, [first.locator])] }

/-! ### Citations -/

def validateLocator (paragraphIdx : Int64) (locator : CitedLocator) : AppResult Unit :=
  if locator.v ≠ 1 then
    .error (askError "KC_ASK_INVALID_CITATIONS" "locator version is invalid" false
      [("paragraph_index", .int paragraphIdx.toInt), ("locator_version", .int locator.v.toInt)])
  else
    .ok ()

def validateCitation (citation : Int64 × List CitedLocator) : AppResult Unit :=
  if citation.1 < 0 then
    .error (askError "KC_ASK_INVALID_CITATIONS" "paragraph_index must be non-negative" false
      [("paragraph_index", .int citation.1.toInt)])
  else if citation.2 = [] then
    .error (askError "KC_ASK_INVALID_CITATIONS"
      "each paragraph citation entry must include at least one locator" false
      [("paragraph_index", .int citation.1.toInt)])
  else
    citation.2.forM (validateLocator citation.1)

def validateCitations (citations : Citations) : AppResult Unit :=
  if citations = [] then
    .error (askError "KC_ASK_MISSING_CITATIONS" "answer must include citations for each paragraph"
      false [])
  else
    citations.forM validateCitation

/-- What locators are ordered by. -/
def locatorKey (locator : CitedLocator) : String ×ₗ ℤ ×ₗ ℤ :=
  toLex (locator.docId, toLex (locator.range.start.toInt, locator.range.end_.toInt))

def sortLocatorList (locators : List CitedLocator) : List CitedLocator :=
  locators.insertionSort fun a b => locatorKey a ≤ locatorKey b

/-- What citations are ordered by: the paragraph, and then the first locator. No locator comes
before any locator. -/
def citationKey (citation : Int64 × List CitedLocator) : ℤ ×ₗ WithBot (String ×ₗ ℤ ×ₗ ℤ) :=
  toLex (citation.1.toInt, (citation.2.head?.map locatorKey : Option _))

def normalizeCitations (citations : Citations) : Citations :=
  (citations.map fun citation => (citation.1, sortLocatorList citation.2)).insertionSort
    fun a b => citationKey a ≤ citationKey b

/-! ### Retrieving contexts -/

/-- A row of `chunks`, under its `chunk_id`. -/
structure ChunkRow where
  docId : String
  ordinal : Int64
  startChar : Int64
  endChar : Int64

/-- The chunks of a vault, and the index over their text if there is one: what a match for a
question returns, row by row, where a row may fail. -/
structure ChunkIndex where
  chunks : Table ChunkRow
  chunksFts : Option (String → List (Option String))

/-- What questions are answered with: the arithmetic of the scores, and how maps are read. -/
structure AskEnv (S F : Type) where
  ext : Externals
  host : Host
  index : ChunkIndex
  scoring : RetrievalConfigV1 → Int64 → Scoring S F
  order : List (Interim S) → List (Interim S)
  scoreJson : F → Json

/-- What chunks are ordered by where nothing matches: the document that took effect last first. -/
def recencyKey (chunk : String × ChunkRow × DocRow) : ℤ ×ₗ String ×ₗ ℤ ×ₗ String :=
  toLex (-chunk.2.2.effectiveTsMs.toInt,
    toLex (chunk.2.1.docId, toLex (chunk.2.1.ordinal.toInt, chunk.1)))

/-- The chunks whose document the database has, the most recent ones first. -/
def recentChunks (index : ChunkIndex) (db : Db) : List String :=
  ((index.chunks.toList.filterMap fun (chunkId, chunk) =>
      (db.docs[chunk.docId]?).map fun doc => (chunkId, chunk, doc)).insertionSort
    fun a b => recencyKey a ≤ recencyKey b).map Prod.fst

/-- Number chunks from one on. -/
def numbered (rows : List (Option String)) : List LexicalCandidate :=
  rows.zipIdx.filterMap fun (row, idx) =>
    row.map fun chunkId => ⟨chunkId, Int64.ofNat idx + 1⟩

/-- The rows that match a question. A question that is blank is not looked up. -/
def matchedRows (index : ChunkIndex) (question : String) (limit : Nat) : List (Option String) :=
  match index.chunksFts with
  | none => []
  | some rows => if isBlank question then [] else (rows (trim question)).take limit

def lexicalCandidates (index : ChunkIndex) (db : Db) (question : String) (limit : Nat) :
  List LexicalCandidate
  :=
  match numbered (matchedRows index question limit) with
  | [] => numbered (((recentChunks index db).take limit).map some)
  | candidates => candidates

def chunkMeta (index : ChunkIndex) (db : Db) (chunkId : String) : AppResult ChunkMeta :=
  okOrElse
    (askError "KC_ASK_PROVIDER_UNAVAILABLE" "failed loading chunk metadata for retrieval" true
      [("error", .str "Query returned no rows"), ("chunk_id", .str chunkId)])
    do
      let chunk ← index.chunks[chunkId]?
      let doc ← db.docs[chunk.docId]?
      some (chunk.docId, chunk.ordinal, doc.sourceKind, doc.effectiveTsMs)

/-- `Ord::clamp` -/
def clampInt (value low high : Int64) : Int64 :=
  if value < low then low else if high < value then high else value

/-- The row of a chunk, and that of the text of its document. -/
def loadChunk (index : ChunkIndex) (db : Db) (chunkId : String) :
  AppResult (ChunkRow × CanonicalTextRow)
  :=
  okOrElse
    (askError "KC_ASK_PROVIDER_UNAVAILABLE"
      "failed loading canonical metadata for merged chunk" true
      [("error", .str "Query returned no rows"), ("chunk_id", .str chunkId)])
    do
      let chunk ← index.chunks[chunkId]?
      let row ← db.canonicalText[chunk.docId]?
      some (chunk, row)

/-- The locator of a chunk, cut to the text. -/
def chunkLocator (chunk : ChunkRow) (row : CanonicalTextRow) (text : String) : CitedLocator :=
  let total := Int64.ofNat text.length
  let clampedStart := clampInt chunk.startChar 0 total
  let clampedEnd := clampInt chunk.endChar clampedStart total
  { v := 1
    docId := chunk.docId
    canonicalHash := row.canonicalHash
    range := ⟨clampedStart, clampedEnd⟩
    hints := .null }

/-- Read the text of a document. -/
def readText (ext : Externals) (store : ObjectStore) (files : Files) (chunk : ChunkRow)
    (row : CanonicalTextRow) : AppResult String
  := do
  let bytes ← store.getBytes ext row.canonicalObjectHash files
  okOrElse
    (askError "KC_ASK_PROVIDER_UNAVAILABLE" "canonical text is not utf8" false
      [("error", .str "invalid utf-8 sequence"), ("doc_id", .str chunk.docId)])
    (String.fromUTF8? ⟨bytes.toArray⟩)

variable {S F : Type} (env : AskEnv S F)

/-- The store of the vault. It has no key. -/
def AskEnv.store : ObjectStore := ObjectStore.new (Ingest.objectsDir env.host.vaultPath)

/-- Read the text a hit stands for. -/
def loadContext (db : Db) (files : Files) (hit : MergedHit F) : AppResult (RetrievedContext F)
  := do
  let (chunk, row) ← loadChunk env.index db hit.chunkId
  let text ← readText env.ext env.store files chunk row
  let locator := chunkLocator chunk row text
  let snippet ← resolveLocatorStrict env.ext db env.store files locator.toLocatorV1
  .ok {
    chunkId := hit.chunkId
    ordinal := hit.ordinal
    finalScore := hit.finalScore
    locator
    snippet }

def retrievalCfg (recencyEnabled : Bool) : RetrievalConfigV1 where
  rrfK := 60
  wLex := 1
  wVec := 1
  recency := { enabled := recencyEnabled, windowDays := 365, maxBoost := 20 / 100 }

section Asking

variable [Preorder F] [DecidableLE F] [DecidableLT F]

def loadContexts (db : Db) (files : Files) (req : AskRequest) (recencyEnabled : Bool) :
  AppResult (List (RetrievedContext F))
  :=
  match lexicalCandidates env.index db req.question 32 with
  | [] => .ok []
  | lexical => do
    let merged ← mergeCandidates (env.scoring (retrievalCfg recencyEnabled) req.nowMs)
      (chunkMeta env.index db) env.order lexical []
    (merged.take 5).mapM (loadContext env db files)

end Asking

/-! ### The trace -/

structure TraceLogV1 where
  schemaVersion : Int64
  traceId : String
  tsMs : Int64
  vaultId : String
  question : String
  retrieval : List (String × Json)
  model : Json
  answer : Json
  redaction : Json

def locatorJson (locator : CitedLocator) : Json :=
  .obj [("v", .int locator.v.toInt), ("doc_id", .str locator.docId),
    ("canonical_hash", .str locator.canonicalHash),
    ("range", .obj [("start", .int locator.range.start.toInt),
      ("end", .int locator.range.end_.toInt)]),
    ("hints", locator.hints)]

def citationsJson (citations : Citations) : Json :=
  .arr (citations.map fun citation =>
    .arr [.int citation.1.toInt, .arr (citation.2.map locatorJson)])

/-- A trace as it is written, with citations under what was retrieved. -/
def traceJson (trace : TraceLogV1) (citations : Citations) : Json :=
  .obj [("schema_version", .int trace.schemaVersion.toInt), ("trace_id", .str trace.traceId),
    ("ts_ms", .int trace.tsMs.toInt), ("vault_id", .str trace.vaultId),
    ("question", .str trace.question),
    ("retrieval", .obj (trace.retrieval ++ [("citations", citationsJson citations)])),
    ("model", trace.model), ("answer", trace.answer), ("redaction", trace.redaction)]

/-- What goes wrong while a trace is written, if anything does. -/
structure TraceFaults where
  createDir : Option String
  write : Option String

def traceError (message : String) (details : List (String × Json)) : AppError where
  code := "KC_TRACE_WRITE_FAILED"
  category := "trace"
  message := message
  details := .obj details

/-- Write a trace file, with the citations sorted. The files are kept by the values they hold. -/
def writeTraceLog (faults : TraceFaults) (traceDir : String) (trace : TraceLogV1)
    (citations : Citations) (traces : Table Json) : AppResult (String × Table Json)
  :=
  match faults.createDir with
  | some error =>
    .error (traceError "failed to create trace directory"
      [("error", .str error), ("path", .str traceDir)])
  | none =>
    let path := PathBuf.join traceDir (trace.traceId ++ ".json")
    match faults.write with
    | some error =>
      .error (traceError "failed to write trace log" [("error", .str error), ("path", .str path)])
    | none => .ok (path, traces.insert path (traceJson trace (normalizeCitations citations)))

def contextJson (context : RetrievedContext F) : Json :=
  .obj [("chunk_id", .str context.chunkId), ("doc_id", .str context.locator.docId),
    ("ordinal", .int context.ordinal.toInt), ("final_score", env.scoreJson context.finalScore),
    ("range", .obj [("start", .int context.locator.range.start.toInt),
      ("end", .int context.locator.range.end_.toInt)]),
    ("snippet", .str context.snippet)]

/-- What a trace says was retrieved. -/
def retrievalJson (contexts : List (RetrievedContext F)) : List (String × Json) :=
  [("chunks", .arr (contexts.map (contextJson env)))]

/-- What becomes of an answer: it is checked, and kept in a trace file. -/
def finalizeAnswerWithRetrieval (service : RetrievedOnlyAskService F) (faults : TraceFaults)
    (traceId : String) (req : AskRequest) (answerText : String) (citations : Citations)
    (retrieval : List (String × Json)) (m : Machine) (traces : Table Json) :
  AppResult (AskResponse × Table Json)
  := do
  let normalizedCitations := normalizeCitations citations
  validateCitations normalizedCitations
  let vault ← Vault.vaultOpen env.host m.vault
  let trace : TraceLogV1 := {
    schemaVersion := 1
    traceId
    tsMs := req.nowMs
    vaultId := vault.vaultId
    question := req.question
    retrieval
    model := .obj [("mode", .str "retrieved-only")]
    answer := .obj [("text", .str answerText)]
    redaction := .obj [("enabled", .bool true)] }
  let (tracePath, traces) ← writeTraceLog faults
    (PathBuf.join env.host.vaultPath service.traceDirName) trace normalizedCitations traces
  .ok ({ answerText, citations := normalizedCitations, tracePath }, traces)

/-- What is cited resolves. -/
def resolveCitations (db : Db) (files : Files) (citations : Citations) : AppResult Unit :=
  citations.forM fun citation => citation.2.forM fun locator => do
    let _ ← resolveLocatorStrict env.ext db env.store files locator.toLocatorV1
    .ok ()

section Asking

variable [Preorder F] [DecidableLE F] [DecidableLT F]

def ask (service : RetrievedOnlyAskService F) (faults : TraceFaults) (traceId : String)
    (req : AskRequest) (m : Machine) (traces : Table Json) :
  AppResult (AskResponse × Machine × Table Json)
  := do
  let (vault, file) ← Ingest.openVault env.ext env.host m.vault
  let m := Ingest.opened m vault file
  let contexts ← loadContexts env file.db m.files req vault.defaults.recencyEnabled
  if contexts.isEmpty then
    .error (askError "KC_ASK_PROVIDER_UNAVAILABLE" "no retrieved context available for ask" true
      [])
  else
    let answer ← service.provider req.question contexts
    resolveCitations env file.db m.files answer.citations
    let (response, traces) ← finalizeAnswerWithRetrieval env service faults traceId req
      answer.answerText answer.citations (retrievalJson env contexts) m traces
    .ok (response, m, traces)

end Asking

end Ask

end KnowledgeCore
