import KnowledgeCore.Lifecycle.Document
import KnowledgeCore.Objects.Migration

/-!
# Federation queries

Other programs ask the owner of a vault which documents mention a project. A query reads the vault
without changing it, and answers with facts about the documents whose texts mention the key. The
second version of the query knows about the lifecycles of the documents, and answers with a notice
where the first would answer with a fact about a document that is not active. A program that is not
the owner presents an identity session, and is answered only if the policies of the owner allow it.
-/

namespace KnowledgeCore

/-- The database with the column of `docs` that only queries read, under the `doc_id`. -/
structure FederationDb extends OwnerDb where
  ingestedEventId : String → Int64

namespace Federation

open Lifecycle

def FEDERATION_QUERY_REQUEST_SCHEMA : String := "knowledgecore_federation_query_request.v1"
def FEDERATION_QUERY_RESULT_SCHEMA : String := "knowledgecore_federation_query_result.v1"
def FEDERATION_QUERY_REQUEST_SCHEMA_V2 : String := "knowledgecore_federation_query_request.v2"
def FEDERATION_QUERY_RESULT_SCHEMA_V2 : String := "knowledgecore_federation_query_result.v2"
def DOCUMENT_FEDERATION_READ_ACTION : String := "document.federation.read"
def MAX_RESULT_LIMIT : Nat := 20
def MAX_SCAN_CANDIDATES : Nat := 200
def MAX_SNIPPET_CHARS : Nat := 240
def MAX_PROVENANCE_STRING_CHARS : Nat := 100
def MAX_TOOLCHAIN_JSON_BYTES : Nat := 64 * 1024

/-! ### Requests and results -/

structure FederationQueryRequestV1 where
  schemaVersion : String
  projectKey : String
  includeContent : Bool
  limit : Nat
  observedAtMs : Int64

structure FederationQueryRequestV2 where
  schemaVersion : String
  projectKey : String
  includeContent : Bool
  limit : Nat
  observedAtMs : Int64

inductive FederationSourceStateV1
  | ready
  | notFound
  | locked
  | permissionDenied
  | corrupt
  | error
deriving DecidableEq

structure FederationSourceRevisionV1 where
  eventId : Int64
  eventHash : String
  eventAtMs : Int64
deriving DecidableEq

structure FederationFactV1 where
  factId : String
  factKey : String
  sourceItemId : String
  observedAtMs : Int64
  score : Json
  value : Json
  valueDigest : String

structure FederationQueryResultV1 where
  schemaVersion : String
  sourceId : String
  owner : String
  canonicality : String
  state : FederationSourceStateV1
  participated : Bool
  vaultId : String
  binding : Option String
  sourceRevision : Option FederationSourceRevisionV1
  observedAtMs : Int64
  freshness : String
  freshnessBasis : String
  trustSemantics : String
  accessMode : String
  instructionBoundary : String
  correctionSemantics : String
  deletionSemantics : String
  queryMatchSemantics : String
  uncertainty : List String
  facts : List FederationFactV1

inductive FederationFactLifecycleStateV2
  | active

inductive FederationMatchDispositionV2
  | none
  | active
  | suppressed
  | activeAndSuppressed
  | conflicted
  | unknown
deriving DecidableEq

structure FederationFactV2 extends FederationFactV1 where
  lifecycleState : FederationFactLifecycleStateV2

structure FederationLifecycleEventRefV2 where
  eventId : Int64
  eventHash : String
  eventAtMs : Int64
  action : DocumentLifecycleActionV1
  sourceItemId : String
  sourceCanonicalHash : String
  replacementSourceItemId : Option String
  replacementCanonicalHash : Option String
  authorizationSubjectDigest : String
  reasonDigest : String

structure FederationLifecycleNoticeV2 where
  sourceItemId : String
  initialState : DocumentLifecycleInitialStateV1
  terminalState : DocumentLifecycleTerminalStateV1
  terminalSourceItemId : Option String
  events : List FederationLifecycleEventRefV2

structure FederationQueryResultV2 where
  schemaVersion : String
  sourceId : String
  owner : String
  canonicality : String
  state : FederationSourceStateV1
  participated : Bool
  vaultId : String
  binding : Option String
  sourceRevision : Option FederationSourceRevisionV1
  observedAtMs : Int64
  freshness : String
  freshnessBasis : String
  trustSemantics : String
  accessMode : String
  instructionBoundary : String
  correctionSemantics : String
  deletionSemantics : String
  queryMatchSemantics : String
  matchDisposition : FederationMatchDispositionV2
  uncertainty : List String
  lifecycleNotices : List FederationLifecycleNoticeV2
  facts : List FederationFactV2

def federationError (code message : String) (details : List (String × Json) := []) :
    AppError where
  code := code
  category := "federation"
  message := message
  details := .obj details

/-! ### Checking a request -/

def isKeyStart (c : Char) : Bool :=
  ('A' ≤ c && c ≤ 'Z') || ('a' ≤ c && c ≤ 'z') || ('0' ≤ c && c ≤ '9')

def isKeyChar (c : Char) : Bool :=
  isKeyStart c || c = '.' || c = '_' || c = '-'

/-- `[A-Za-z0-9][A-Za-z0-9._-]*` -/
def isKeyPart : List Char → Bool
  | [] => false
  | c :: rest => isKeyStart c && rest.all isKeyChar

/-- Two parts with a slash between them, or one part after `supp:`. -/
def isProjectKey (key : String) : Bool :=
  match key.toList.dropWhile (· ≠ '/') with
  | _ :: repo => isKeyPart (key.toList.takeWhile (· ≠ '/')) && isKeyPart repo
  | [] => "supp:".toList.isPrefixOf key.toList && isKeyPart (key.toList.drop 5)

/-- Check a request, given the schema it has to be of. The outcome is the limit. -/
def validate (schema schemaVersion projectKey : String) (limit : Nat) (observedAtMs : Int64) :
  AppResult Nat
  :=
  if schemaVersion ≠ schema then
    .error (federationError "KC_FEDERATION_SCHEMA_UNSUPPORTED"
      "unsupported federation request schema" [("expected", .str schema)])
  else if observedAtMs < 0 then
    .error (federationError "KC_FEDERATION_REQUEST_INVALID"
      "observed_at_ms must be non-negative")
  else if (trim projectKey).utf8ByteSize > 200 ∨ isProjectKey (trim projectKey) = false then
    .error (federationError "KC_FEDERATION_REQUEST_INVALID"
      "project_key must be an exact owner/repo or supp:effort key")
  else
    .ok (min (max limit 1) MAX_RESULT_LIMIT)

def validateRequest (request : FederationQueryRequestV1) : AppResult Nat :=
  validate FEDERATION_QUERY_REQUEST_SCHEMA request.schemaVersion request.projectKey request.limit
    request.observedAtMs

def validateRequestV2 (request : FederationQueryRequestV2) : AppResult Nat :=
  validate FEDERATION_QUERY_REQUEST_SCHEMA_V2 request.schemaVersion request.projectKey
    request.limit request.observedAtMs

/-! ### The vault -/

/-- What a read finds at the path of the database. The tables of a file depend on the key it is
read with, and there are none when SQLite cannot read it so. -/
inductive DbSource
  | missing
  | denied
  | unavailable
  | refused
  | file (tables : Option String → Option FederationDb)

/-- The statements of SQL a query consists of. -/
inductive FederationStatement
  | authorizeQueryOnly
  | queryOnly
  | owner (statement : Statement)
  | openSnapshot
  | revision
  | prepare
  | query
  | decode
  | commit

/-- A vault as a query finds it: its configuration, its databases, the files of the machine, and
the statements of SQL that fail, with their errors. -/
structure FederationVault where
  host : Host
  dir : Dir Content
  database : String → DbSource
  files : Files
  faults : FederationStatement → Option String

namespace FederationVault

/-- The statements that fail among those that others make too. -/
def ownerFaults (vault : FederationVault) : Faults :=
  fun statement => vault.faults (.owner statement)

/-- The path of the database. -/
def dbPath (vault : FederationVault) (config : VaultJsonV3) : String :=
  PathBuf.join vault.host.vaultPath config.db.relativePath

end FederationVault

def openDbReadonly (vault : FederationVault) (fault : Option String) (path : String) :
  AppResult FederationDb
  :=
  match vault.database path with
  | .missing | .unavailable =>
    .error (Vault.dbError "KC_DB_OPEN_FAILED"
      "vault database is unavailable for read-only access")
  | .denied => .error (Vault.dbError "KC_DB_PERMISSION_DENIED" "vault database access is denied")
  | .refused =>
    .error (Vault.dbError "KC_DB_OPEN_FAILED" "failed to open vault database read-only")
  | .file tables => do
    let key ← Vault.dbEncryptionKey vault.host vault.dir
    if key.isSome = true ∧ (tables key).isNone = true then
      .error (Vault.notADatabase key)
    else
      attempt fault
        (fun _ => Vault.dbError "KC_DB_OPEN_FAILED" "failed to enforce read-only query mode")
        (.ok ())
      let db ← okOrElse (Vault.notADatabase none) (tables key)
      if db.userVersion ≠ Db.LATEST_SCHEMA_VERSION then
        .error (Vault.dbError "KC_DB_SCHEMA_INCOMPATIBLE"
          "vault schema must be current before read-only federation access"
          (.obj [("expected", .int Db.LATEST_SCHEMA_VERSION.toInt),
            ("actual", .int db.userVersion.toInt)]))
      else
        .ok db

def storeForRead (ext : Externals) (vault : FederationVault) (config : VaultJsonV3) :
  AppResult ObjectStore
  :=
  let objectsDir := Ingest.objectsDir vault.host.vaultPath
  if config.encryption.enabled = false then
    .ok (ObjectStore.new objectsDir)
  else do
    let passphrase ← okOrElse
      (federationError "KC_ENCRYPTION_REQUIRED"
        "encrypted vault content requires an active owner unlock session")
      (Vault.dbPassphraseForVault vault.host)
    let found ← config.objectStoreEncryptionContext ext (some passphrase)
    let context ← okOrElse
      (federationError "KC_ENCRYPTION_REQUIRED"
        "encrypted vault content requires an owner key context")
      found
    .ok (ObjectStore.withEncryption objectsDir context)

def sourceRevision (fault : Option String) (events : EventTable) :
  AppResult FederationSourceRevisionV1
  :=
  let unavailable error := federationError "KC_FEDERATION_SOURCE_REVISION_UNAVAILABLE"
    "vault event-chain revision is unavailable" [("error", .str error)]
  attempt fault unavailable
    (match events.rows.getLast? with
    | none => .ok { eventId := 0, eventHash := "genesis", eventAtMs := 0 }
    | some row => do
      let eventHash ← okOrElse (unavailable "Invalid column type") row.eventHash.asText
      let eventAtMs ← okOrElse (unavailable "Invalid column type") row.tsMs.asI64
      .ok { eventId := row.eventId, eventHash, eventAtMs })

/-- The binding of a result of a schema to a vault and its log. -/
def bindingOf (ext : Externals) (schema : String) (config : VaultJsonV3)
    (revision : FederationSourceRevisionV1) : String :=
  blake3HexPrefixed ext (.text (schema ++ "\n" ++ config.vaultId ++ "\n"
    ++ toString config.schemaVersion ++ "\n" ++ toString revision.eventId.toInt ++ "\n"
    ++ revision.eventHash))

def sourceBinding (ext : Externals) (config : VaultJsonV3)
    (revision : FederationSourceRevisionV1) : String :=
  bindingOf ext FEDERATION_QUERY_RESULT_SCHEMA config revision

def sourceBindingV2 (ext : Externals) (config : VaultJsonV3)
    (revision : FederationSourceRevisionV1) : String :=
  bindingOf ext FEDERATION_QUERY_RESULT_SCHEMA_V2 config revision

/-! ### Candidates -/

structure CandidateRow where
  docId : String
  sourceKind : String
  effectiveTsMs : Int64
  ingestedEventId : Int64
  canonicalObjectHash : String
  canonicalHash : String
  extractorName : String
  extractorVersion : String
  normalizationVersion : Int64
  toolchainJson : String

/-- A row of `canonical_text` joined with that of its document. -/
def candidateOf (db : FederationDb) (docId : String) (text : CanonicalTextRow) :
    Option CandidateRow :=
  db.docs[docId]?.map fun doc => {
    docId
    sourceKind := doc.sourceKind
    effectiveTsMs := doc.effectiveTsMs
    ingestedEventId := db.ingestedEventId docId
    canonicalObjectHash := text.canonicalObjectHash
    canonicalHash := text.canonicalHash
    extractorName := text.extractorName
    extractorVersion := text.extractorVersion
    normalizationVersion := text.normalizationVersion
    toolchainJson := text.toolchainJson }

/-- `ORDER BY d.ingested_event_id DESC, d.doc_id ASC` -/
abbrev OrderedBefore (a b : CandidateRow) : Prop :=
  b.ingestedEventId < a.ingestedEventId
    ∨ a.ingestedEventId = b.ingestedEventId ∧ a.docId ≤ b.docId

/-- The documents that have a canonical text, in the order of the query. -/
def candidateRows (db : FederationDb) : List CandidateRow :=
  (db.canonicalText.toList.filterMap fun entry => candidateOf db entry.1 entry.2).insertionSort
    OrderedBefore

def hasInvalidIdentity (row : CandidateRow) : Bool :=
  !(validateBlake3Prefixed row.docId).isOk
    || !(validateBlake3Prefixed row.canonicalObjectHash).isOk
    || !(validateBlake3Prefixed row.canonicalHash).isOk
    || row.canonicalObjectHash ≠ row.canonicalHash
    || isBlank row.sourceKind
    || row.sourceKind.length > MAX_PROVENANCE_STRING_CHARS
    || isBlank row.extractorName
    || row.extractorName.length > MAX_PROVENANCE_STRING_CHARS
    || row.extractorVersion.length > MAX_PROVENANCE_STRING_CHARS
    || row.normalizationVersion < 0
    || row.ingestedEventId < 0
    || row.toolchainJson.utf8ByteSize > MAX_TOOLCHAIN_JSON_BYTES

/-- The canonical text of a candidate. -/
def candidateText (ext : Externals) (store : ObjectStore) (files : Files) (row : CandidateRow) :
  AppResult String
  :=
  if hasInvalidIdentity row then
    .error (federationError "KC_DB_INTEGRITY_FAILED" "canonical document identity is invalid")
  else do
    let canonicalBytes ← store.getBytes ext row.canonicalObjectHash files
    if blake3HexPrefixed ext (.raw canonicalBytes) ≠ row.canonicalHash then
      .error (federationError "KC_DB_INTEGRITY_FAILED"
        "canonical document content does not match its owner hash")
    else
      okOrElse (federationError "KC_RETRIEVAL_FAILED" "canonical document text is not UTF-8")
        (String.fromUTF8? ⟨canonicalBytes.toArray⟩)

/-- Whether a text mentions a key. How letters are brought to lower case is a parameter:
`str::to_lowercase` goes by the tables of Unicode, on which nothing depends here. -/
def mentions (toLowercase : String → String) (projectKey text : String) : Bool :=
  (toLowercase text).toList.tails.any (toLowercase projectKey).toList.isPrefixOf

def boundedSnippet (text : String) : String :=
  String.ofList (text.toList.take MAX_SNIPPET_CHARS)

/-- What a fact says of a document, with a snippet of its text if content is asked for. -/
def documentValue (ext : Externals) (includeContent : Bool) (row : CandidateRow)
    (text : String) : Json :=
  .obj ([
    ("canonicalHash", .str row.canonicalHash),
    ("effectiveTsMs", .int row.effectiveTsMs.toInt),
    ("extractor", .obj [
      ("name", .str row.extractorName),
      ("normalizationVersion", .int row.normalizationVersion.toInt),
      ("toolchain", .obj [("digest", .str (blake3HexPrefixed ext (.text row.toolchainJson)))]),
      ("version", .str row.extractorVersion)]),
    ("ingestedEventId", .int row.ingestedEventId.toInt)]
    ++ (if includeContent then [("snippet", .str (boundedSnippet text))] else [])
    ++ [("sourceKind", .str row.sourceKind)])

def factV1 (ext : Externals) (includeContent : Bool) (row : CandidateRow) (text : String) :
    FederationFactV1 where
  factId := "knowledgecore:document:" ++ row.docId
  factKey := "private_document.match"
  sourceItemId := row.docId
  observedAtMs := row.effectiveTsMs
  score := .float "1.0"
  value := documentValue ext includeContent row text
  valueDigest := blake3HexPrefixed ext (.json (documentValue ext includeContent row text) 0)

def factV2 (ext : Externals) (includeContent : Bool) (row : CandidateRow) (text : String) :
    FederationFactV2 where
  toFederationFactV1 := factV1 ext includeContent row text
  lifecycleState := .active

def lifecycleEventRef (event : DocumentLifecycleEventV1) : FederationLifecycleEventRefV2 where
  eventId := event.eventId
  eventHash := event.eventHash
  eventAtMs := event.eventAtMs
  action := event.action
  sourceItemId := event.docId
  sourceCanonicalHash := event.docCanonicalHash
  replacementSourceItemId := event.replacementDocId
  replacementCanonicalHash := event.replacementCanonicalHash
  authorizationSubjectDigest := event.authorizationSubjectDigest
  reasonDigest := event.reasonDigest

def lifecycleNotice (resolution : DocumentLifecycleResolutionV1) :
    FederationLifecycleNoticeV2 where
  sourceItemId := resolution.sourceDocId
  initialState := resolution.initialState
  terminalState := resolution.terminalState
  terminalSourceItemId := resolution.terminalDocId
  events := resolution.events.map lifecycleEventRef

/-- The loop of the first version: the facts about the candidates, until there are enough. -/
def collectFacts (ext : Externals) (toLowercase : String → String) (store : ObjectStore)
    (files : Files) (request : FederationQueryRequestV1) (limit : Nat) :
    List CandidateRow → List FederationFactV1 → AppResult (List FederationFactV1)
  | [], facts => .ok facts
  | row :: rest, facts => do
    let text ← candidateText ext store files row
    if mentions toLowercase request.projectKey text = false then
      collectFacts ext toLowercase store files request limit rest facts
    else
      let facts := facts ++ [factV1 ext request.includeContent row text]
      if facts.length = limit then
        .ok facts
      else
        collectFacts ext toLowercase store files request limit rest facts

/-- The loop of the second version. A document that is not active gets a notice. -/
def collectFactsAndNotices (ext : Externals) (toLowercase : String → String)
    (store : ObjectStore) (files : Files) (byDoc : EventsByDoc)
    (request : FederationQueryRequestV2) (limit : Nat) :
    List CandidateRow → List FederationFactV2 → List FederationLifecycleNoticeV2 →
      AppResult (List FederationFactV2 × List FederationLifecycleNoticeV2)
  | [], facts, notices => .ok (facts, notices)
  | row :: rest, facts, notices => do
    let text ← candidateText ext store files row
    if mentions toLowercase request.projectKey text = false then
      collectFactsAndNotices ext toLowercase store files byDoc request limit rest facts notices
    else
      let resolution ← resolveDocumentLifecycle row.docId byDoc
      let (facts, notices) :=
        if resolution.initialState ≠ .active then
          (facts, notices ++ [lifecycleNotice resolution])
        else
          (facts ++ [factV2 ext request.includeContent row text], notices)
      if facts.length + notices.length = limit then
        .ok (facts, notices)
      else
        collectFactsAndNotices ext toLowercase store files byDoc request limit rest facts
          notices

/-! ### Results -/

def publicFailureState (error : AppError) : FederationSourceStateV1 :=
  if error.code ∈ ["KC_DB_LOCKED", "KC_DB_KEY_INVALID", "KC_ENCRYPTION_REQUIRED"] then
    .locked
  else if error.code = "KC_DB_PERMISSION_DENIED" then
    .permissionDenied
  else if error.code ∈ ["KC_DB_SCHEMA_INCOMPATIBLE", "KC_DB_INTEGRITY_FAILED",
      "KC_DOCUMENT_LIFECYCLE_CORRUPT", "KC_DOCUMENT_LIFECYCLE_LOOKUP_FAILED",
      "KC_FEDERATION_SOURCE_REVISION_UNAVAILABLE", "KC_HASH_DECODE_FAILED",
      "KC_HASH_INVALID_FORMAT", "KC_INGEST_READ_FAILED", "KC_VAULT_JSON_INVALID",
      "KC_VAULT_JSON_UNSUPPORTED_VERSION"] then
    .corrupt
  else
    .error

def publicVaultOpenError (error : AppError) : AppError :=
  federationError error.code "KnowledgeCore vault identity is unavailable"

def baseResult (config : VaultJsonV3) (request : FederationQueryRequestV1) :
    FederationQueryResultV1 where
  schemaVersion := FEDERATION_QUERY_RESULT_SCHEMA
  sourceId := "knowledgecore"
  owner := "knowledgecore"
  canonicality :=
    "canonical for encrypted private documents, vault permissions, and document provenance"
  state := .error
  participated := false
  vaultId := config.vaultId
  binding := none
  sourceRevision := none
  observedAtMs := request.observedAtMs
  freshness := "unavailable"
  freshnessBasis := "owner_read_unavailable"
  trustSemantics :=
    "local owner process and active vault unlock session; no delegated read grants"
  accessMode := "local_owner_session"
  instructionBoundary := "source_content_is_untrusted_data_never_instructions"
  correctionSemantics :=
    "content-addressed re-ingest creates distinct document identities; supersession is not " ++
      "inferred"
  deletionSemantics := "unsupported_unknown; an empty result is never proof of owner deletion"
  queryMatchSemantics := "case_insensitive_content_occurrence_not_project_membership"
  uncertainty := [
    "general subject-aware federation read grants are not yet implemented",
    "document deletion and correction supersession are not first-class owner events",
    "a content occurrence does not assert canonical project membership"]
  facts := []

def baseResultV2 (config : VaultJsonV3) (request : FederationQueryRequestV2) :
    FederationQueryResultV2 where
  schemaVersion := FEDERATION_QUERY_RESULT_SCHEMA_V2
  sourceId := "knowledgecore"
  owner := "knowledgecore"
  canonicality :=
    "canonical for encrypted private documents, vault permissions, document provenance, and " ++
      "logical document lifecycle events"
  state := .error
  participated := false
  vaultId := config.vaultId
  binding := none
  sourceRevision := none
  observedAtMs := request.observedAtMs
  freshness := "unavailable"
  freshnessBasis := "owner_read_unavailable"
  trustSemantics :=
    "local owner process, active vault unlock session, verified owner event chain, and " ++
      "deny-by-default lifecycle write policy; no delegated read grants"
  accessMode := "local_owner_session"
  instructionBoundary := "source_content_is_untrusted_data_never_instructions"
  correctionSemantics :=
    "owner-authorized hash-bound supersession events connect immutable document identities; " ++
      "conflicts remain visible and no successor is inferred"
  deletionSemantics :=
    "owner-authorized logical tombstones suppress federation content while canonical owner " ++
      "bytes remain retained; physical deletion is outside this contract"
  queryMatchSemantics := "case_insensitive_content_occurrence_not_project_membership"
  matchDisposition := .unknown
  uncertainty := [
    "general subject-aware federation read grants are not yet implemented",
    "a content occurrence does not assert canonical project membership",
    "logical tombstone does not prove physical erasure of owner-retained bytes"]
  lifecycleNotices := []
  facts := []

def delegatedResultV2 (result : FederationQueryResultV2) (authorizationState : String) :
    FederationQueryResultV2 :=
  { result with
    trustSemantics :=
      "local owner process, active vault unlock session, current non-revoked identity session, "
        ++ "and deny-by-default federation read policy; authorization_state="
        ++ authorizationState
    accessMode := "delegated_local_unix_session"
    uncertainty := result.uncertainty.filter fun value =>
      value ≠ "general subject-aware federation read grants are not yet implemented" }

def delegatedFailureV2 (config : VaultJsonV3) (request : FederationQueryRequestV2)
    (state : FederationSourceStateV1) (uncertainty : String) : FederationQueryResultV2 :=
  let result := delegatedResultV2 (baseResultV2 config request) "denied_or_unavailable"
  { result with state, uncertainty := result.uncertainty ++ [uncertainty] }

/-- What a failed query says of its state, given what is corrupt and what else has failed. -/
def failureUncertainty (corrupt other : String) : FederationSourceStateV1 → String
  | .locked => "source is locked; unlock remains owned by KnowledgeCore"
  | .permissionDenied => "source access is denied by the owner boundary"
  | .corrupt => corrupt
  | _ => other

/-- What the notices and the facts come to. -/
def matchDispositionOf (facts : List FederationFactV2)
    (notices : List FederationLifecycleNoticeV2) : FederationMatchDispositionV2 :=
  if notices.any fun notice =>
      notice.initialState = .conflicted || notice.terminalState = .conflicted then
    .conflicted
  else
    match facts.isEmpty, notices.isEmpty with
    | true, true => .none
    | false, true => .active
    | true, false => .suppressed
    | false, false => .activeAndSuppressed

/-! ### Queries -/

def retrievalFailed (message error : String) : AppError :=
  federationError "KC_RETRIEVAL_FAILED" message [("error", .str error)]

/-- The candidates, as three statements read them. -/
def queryCandidates (vault : FederationVault) (db : FederationDb) :
  AppResult (List CandidateRow)
  := do
  attempt (vault.faults .prepare) (retrievalFailed "failed preparing federation query") (.ok ())
  attempt (vault.faults .query) (retrievalFailed "failed running federation query") (.ok ())
  attempt (vault.faults .decode) (retrievalFailed "failed decoding federation query row")
    (.ok ((candidateRows db).take MAX_SCAN_CANDIDATES))

def openSnapshot (vault : FederationVault) : AppResult Unit :=
  attempt (vault.faults .openSnapshot)
    (retrievalFailed "failed opening a read-only federation snapshot") (.ok ())

def closeSnapshot (vault : FederationVault) : AppResult Unit :=
  attempt (vault.faults .commit)
    (retrievalFailed "failed closing the read-only federation snapshot") (.ok ())

def runQuery (ext : Externals) (toLowercase : String → String) (vault : FederationVault)
    (config : VaultJsonV3) (request : FederationQueryRequestV1) (limit : Nat) :
  AppResult FederationQueryResultV1
  := do
  let db ← openDbReadonly vault (vault.faults .queryOnly) (vault.dbPath config)
  let store ← storeForRead ext vault config
  openSnapshot vault
  let revision ← sourceRevision (vault.faults .revision) db.events
  let candidates ← queryCandidates vault db
  closeSnapshot vault
  let facts ← collectFacts ext toLowercase store vault.files request limit candidates []
  let result := baseResult config request
  .ok { result with
    state := if facts.isEmpty then .notFound else .ready
    participated := true
    binding := some (sourceBinding ext config revision)
    sourceRevision := some revision
    freshness := "fresh"
    freshnessBasis := "owner_read_at_event_chain_revision"
    facts
    uncertainty := result.uncertainty
      ++ (if request.includeContent then
        ["bounded snippets may omit surrounding document context"]
      else
        []) }

def runQueryV2 (ext : Externals) (parse : JsonParser) (toLowercase : String → String)
    (vault : FederationVault) (config : VaultJsonV3) (request : FederationQueryRequestV2)
    (limit : Nat) : AppResult FederationQueryResultV2
  := do
  let db ← openDbReadonly vault (vault.faults .queryOnly) (vault.dbPath config)
  let store ← storeForRead ext vault config
  openSnapshot vault
  let byDoc ← loadDocumentLifecycleEvents ext parse vault.ownerFaults db.toOwnerDb
  let revision ← sourceRevision (vault.faults .revision) db.events
  let candidates ← queryCandidates vault db
  let (facts, lifecycleNotices) ← collectFactsAndNotices ext toLowercase store vault.files byDoc
    request limit candidates [] []
  closeSnapshot vault
  let matchDisposition := matchDispositionOf facts lifecycleNotices
  let result := baseResultV2 config request
  .ok { result with
    state := if matchDisposition = .none then .notFound else .ready
    participated := true
    binding := some (sourceBindingV2 ext config revision)
    sourceRevision := some revision
    freshness := "fresh"
    freshnessBasis := "verified_owner_event_chain_revision"
    matchDisposition
    lifecycleNotices
    facts
    uncertainty := result.uncertainty
      ++ (if request.includeContent then
        ["bounded snippets may omit surrounding document context"]
      else
        [])
      ++ (if matchDisposition = .suppressed ∨ matchDisposition = .activeAndSuppressed then
        ["matching historical content was suppressed by owner lifecycle events"]
      else
        [])
      ++ (if matchDisposition = .conflicted then
        ["conflicting owner lifecycle events are visible; no successor was selected"]
      else
        []) }

def federationQueryService (ext : Externals) (toLowercase : String → String)
    (vault : FederationVault) (request : FederationQueryRequestV1) :
  AppResult FederationQueryResultV1
  := do
  let limit ← validateRequest request
  let config ← mapErr publicVaultOpenError (Vault.vaultOpen vault.host vault.dir)
  match runQuery ext toLowercase vault config request limit with
  | .ok result => .ok result
  | .error error =>
    let result := baseResult config request
    let state := publicFailureState error
    .ok { result with
      state
      uncertainty := result.uncertainty ++ [failureUncertainty
        "source schema, event chain, or canonical content is corrupt or incompatible"
        "source query failed inside the KnowledgeCore owner boundary" state] }

/-- What is corrupt, where the second version of the query fails for that. -/
def CORRUPT_V2 : String :=
  "source schema, event chain, document lifecycle, or canonical content is corrupt or " ++
    "incompatible"

def federationQueryServiceV2 (ext : Externals) (parse : JsonParser)
    (toLowercase : String → String) (vault : FederationVault)
    (request : FederationQueryRequestV2) : AppResult FederationQueryResultV2
  := do
  let limit ← validateRequestV2 request
  let config ← mapErr publicVaultOpenError (Vault.vaultOpen vault.host vault.dir)
  match runQueryV2 ext parse toLowercase vault config request limit with
  | .ok result => .ok result
  | .error error =>
    let result := baseResultV2 config request
    let state := publicFailureState error
    .ok { result with
      state
      uncertainty := result.uncertainty ++ [failureUncertainty CORRUPT_V2
        "source query failed inside the KnowledgeCore owner boundary" state] }

/-- What is answered before the documents are read, unless the read is allowed. -/
def refusal (parse : JsonParser) (vault : FederationVault) (config : VaultJsonV3)
    (db : FederationDb) (sessionId : String) (authorizedAtMs : Int64)
    (request : FederationQueryRequestV2) : Option FederationQueryResultV2 :=
  match Trust.authenticateIdentitySession parse vault.ownerFaults db.toOwnerDb sessionId
      authorizedAtMs with
  | .error _ => some (delegatedFailureV2 config request .permissionDenied
      ("delegated source access is denied because the owner identity session is unavailable, "
        ++ "expired, revoked, or invalid"))
  | .ok identitySession =>
    match LineagePolicy.lineagePolicyDecision parse vault.ownerFaults db.toOwnerDb
        identitySession.subject DOCUMENT_FEDERATION_READ_ACTION
        (some (trim request.projectKey)) with
    | .error _ => some (delegatedFailureV2 config request .permissionDenied
        ("delegated source access is denied because the owner read policy could not be "
          ++ "verified"))
    | .ok decision =>
      if decision.allowed then
        none
      else
        some (delegatedFailureV2 config request .permissionDenied
          "delegated source access is denied by the KnowledgeCore owner read policy")

def federationQueryServiceV2Authorized (ext : Externals) (parse : JsonParser)
    (toLowercase : String → String) (vault : FederationVault) (sessionId : String)
    (authorizedAtMs : Int64) (request : FederationQueryRequestV2) :
  AppResult FederationQueryResultV2
  := do
  let limit ← validateRequestV2 request
  let config ← mapErr publicVaultOpenError (Vault.vaultOpen vault.host vault.dir)
  match openDbReadonly vault (vault.faults .authorizeQueryOnly) (vault.dbPath config) with
  | .error error =>
    let state := publicFailureState error
    .ok (delegatedFailureV2 config request state (failureUncertainty
      "source schema or canonical storage is corrupt or incompatible"
      "source authorization is unavailable inside the KnowledgeCore owner boundary" state))
  | .ok db =>
    match refusal parse vault config db sessionId authorizedAtMs request with
    | some result => .ok result
    | none =>
      let result :=
        match runQueryV2 ext parse toLowercase vault config request limit with
        | .ok result => result
        | .error error =>
          let state := publicFailureState error
          delegatedFailureV2 config request state (failureUncertainty CORRUPT_V2
            "source query failed inside the KnowledgeCore owner boundary" state)
      .ok (delegatedResultV2 result "allowed")

end Federation

end KnowledgeCore
