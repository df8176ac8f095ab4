import Mathlib.Data.Prod.Lex
import Mathlib.Data.String.Basic
import KnowledgeCore.Federation.Query
import KnowledgeCore.Lib.Scan

/-!
# Runs of a query

The candidates of a query are the documents that have a canonical text, the latest first. Both
versions of the query scan the candidates for as many matches as they may answer with. What one
candidate contributes is the step of the scan.
-/

namespace KnowledgeCore

namespace Federation

open Lifecycle Scan

variable {ext : Externals} {parse : JsonParser} {toLowercase : String → String}
  {vault : FederationVault} {config : VaultJsonV3} {db : FederationDb} {store : ObjectStore}
  {files : Files} {byDoc : EventsByDoc} {limit : Nat}

/-! ### The order of the candidates -/

/-- What the candidates are ordered by. -/
def rank (row : CandidateRow) : ℤ ×ₗ String :=
  toLex (-row.ingestedEventId.toInt, row.docId)

theorem orderedBefore_eq :
  OrderedBefore = Order.Preimage rank (· ≤ ·)
  := by
  ext a b
  rw [Order.Preimage, rank, rank, Prod.Lex.toLex_le_toLex, OrderedBefore,
    Int64.lt_iff_toInt_lt, ← Int64.toInt_inj]
  dsimp only
  rw [Int.neg_lt_neg_iff, Int.neg_inj]

instance : Std.Total OrderedBefore := by
  rw [orderedBefore_eq]
  infer_instance

instance : IsTrans CandidateRow OrderedBefore := by
  rw [orderedBefore_eq]
  infer_instance

/-- A candidate comes before another one: it was ingested later, or together with it under a
smaller id. -/
def Precedes (a b : CandidateRow) : Prop :=
  b.ingestedEventId < a.ingestedEventId
    ∨ a.ingestedEventId = b.ingestedEventId ∧ a.docId < b.docId

theorem OrderedBefore.precedes {a b : CandidateRow} (h : OrderedBefore a b)
    (hne : a.docId ≠ b.docId) :
  Precedes a b
  := by
  obtain h | ⟨heq, hle⟩ := h
  · left
    exact h
  · right
    use heq, lt_of_le_of_ne hle hne

/-- A document with its canonical text, as a candidate. -/
def IsCandidate (db : FederationDb) (row : CandidateRow) : Prop :=
  ∃ text, db.canonicalText[row.docId]? = some text ∧ candidateOf db row.docId text = some row

theorem docId_of_candidateOf {docId : String} {text : CanonicalTextRow} {row : CandidateRow}
    (h : candidateOf db docId text = some row) :
  row.docId = docId
  := by
  obtain ⟨doc, -, rfl⟩ := Option.map_eq_some_iff.mp h
  rfl

theorem mem_candidateRows {row : CandidateRow} :
  row ∈ candidateRows db ↔ IsCandidate db row
  := by
  rw [candidateRows, List.mem_insertionSort, List.mem_filterMap]
  constructor
  · rintro ⟨⟨docId, text⟩, hmem, hrow⟩
    obtain rfl := docId_of_candidateOf hrow
    use text, Std.ExtTreeMap.mem_toList_iff_getElem?_eq_some.mp hmem
  · rintro ⟨text, htext, hrow⟩
    use (row.docId, text), Std.ExtTreeMap.mem_toList_iff_getElem?_eq_some.mpr htext

/-- No document is a candidate twice. -/
theorem pairwise_docId_candidateRows (db : FederationDb) :
  (candidateRows db).Pairwise fun a b => a.docId ≠ b.docId
  := by
  apply ((List.perm_insertionSort OrderedBefore _).pairwise_iff Ne.symm).mpr
  apply List.Pairwise.filterMap _ _ Std.ExtTreeMap.distinct_keys_toList
  intro entry entry' hkeys row hrow row' hrow' heq
  apply hkeys
  rw [← docId_of_candidateOf hrow, ← docId_of_candidateOf hrow', heq]
  apply Std.ReflCmp.compare_self

/-- The candidates are listed in their order. -/
theorem pairwise_candidateRows (db : FederationDb) :
  (candidateRows db).Pairwise Precedes
  := by
  have hsorted := List.pairwise_insertionSort OrderedBefore
    (db.canonicalText.toList.filterMap fun entry => candidateOf db entry.1 entry.2)
  apply (hsorted.and (pairwise_docId_candidateRows db)).imp
  rintro a b ⟨hbefore, hne⟩
  apply hbefore.precedes hne

/-! ### Steps of the scan -/

/-- What a candidate contributes to the facts of the first version. -/
def findFact (ext : Externals) (toLowercase : String → String) (store : ObjectStore)
    (files : Files) (request : FederationQueryRequestV1) (row : CandidateRow) :
  AppResult (Option FederationFactV1)
  := do
  let text ← candidateText ext store files row
  if mentions toLowercase request.projectKey text = false then
    .ok none
  else
    .ok (some (factV1 ext request.includeContent row text))

theorem collectFacts_eq_scan {request : FederationQueryRequestV1} {room : Nat}
    {rows : List CandidateRow} {facts : List FederationFactV1}
    (hlimit : facts.length + (room + 1) = limit) :
  collectFacts ext toLowercase store files request limit rows facts
    = (scan (findFact ext toLowercase store files request) (room + 1) rows).map (facts ++ ·)
  := by
  induction rows generalizing facts room with
  | nil =>
    rw [collectFacts, scan_nil, Except.map, List.append_nil]
  | cons row rest ih =>
    rw [collectFacts]
    cases htext : candidateText ext store files row with
    | error e =>
      rw [scan_cons_error (e := e)]
      · rfl
      · rw [findFact, htext]
        rfl
    | ok text =>
      rw [AppResult.ok_bind]
      by_cases hmentions : mentions toLowercase request.projectKey text = false
      · rw [if_pos hmentions, scan_cons_none, ih hlimit]
        rw [findFact, htext, AppResult.ok_bind, if_pos hmentions]
      · rw [if_neg hmentions, scan_cons_some (b := factV1 ext request.includeContent row text)]
        · dsimp only
          rw [List.length_append, List.length_singleton]
          obtain _ | room := room
          · rw [if_pos hlimit, scan]
            rfl
          · have hnext : (facts ++ [factV1 ext request.includeContent row text]).length
                + (room + 1) = limit := by
              rw [List.length_append, List.length_singleton]
              omega
            rw [if_neg (by omega), ih hnext, map_map]
            congr 1
            funext items
            rw [List.append_assoc, List.singleton_append]
        · rw [findFact, htext, AppResult.ok_bind, if_neg hmentions]

/-- What is answered about a document that matches: a fact if it is active, or else a notice. -/
def itemFor (ext : Externals) (includeContent : Bool) (row : CandidateRow) (text : String)
    (resolution : DocumentLifecycleResolutionV1) :
    FederationFactV2 ⊕ FederationLifecycleNoticeV2 :=
  if resolution.initialState ≠ .active then
    .inr (lifecycleNotice resolution)
  else
    .inl (factV2 ext includeContent row text)

/-- What a candidate contributes to the facts or to the notices of the second version. -/
def findFactOrNotice (ext : Externals) (toLowercase : String → String) (store : ObjectStore)
    (files : Files) (byDoc : EventsByDoc) (request : FederationQueryRequestV2)
    (row : CandidateRow) :
  AppResult (Option (FederationFactV2 ⊕ FederationLifecycleNoticeV2))
  := do
  let text ← candidateText ext store files row
  if mentions toLowercase request.projectKey text = false then
    .ok none
  else do
    let resolution ← resolveDocumentLifecycle row.docId byDoc
    .ok (some (itemFor ext request.includeContent row text resolution))

theorem collectFactsAndNotices_eq_scan {request : FederationQueryRequestV2} {room : Nat}
    {rows : List CandidateRow} {facts : List FederationFactV2}
    {notices : List FederationLifecycleNoticeV2}
    (hlimit : facts.length + notices.length + (room + 1) = limit) :
  collectFactsAndNotices ext toLowercase store files byDoc request limit rows facts notices
    = (scan (findFactOrNotice ext toLowercase store files byDoc request) (room + 1) rows).map
      fun items => (facts ++ lefts items, notices ++ rights items)
  := by
  induction rows generalizing facts notices room with
  | nil =>
    rw [collectFactsAndNotices, scan_nil, Except.map, lefts, rights, List.filterMap_nil,
      List.filterMap_nil, List.append_nil, List.append_nil]
  | cons row rest ih =>
    rw [collectFactsAndNotices]
    cases htext : candidateText ext store files row with
    | error e =>
      rw [scan_cons_error (e := e)]
      · rfl
      · rw [findFactOrNotice, htext]
        rfl
    | ok text =>
      rw [AppResult.ok_bind]
      by_cases hmentions : mentions toLowercase request.projectKey text = false
      · rw [if_pos hmentions, scan_cons_none, ih hlimit]
        rw [findFactOrNotice, htext, AppResult.ok_bind, if_pos hmentions]
      rw [if_neg hmentions]
      cases hresolve : resolveDocumentLifecycle row.docId byDoc with
      | error e =>
        rw [scan_cons_error (e := e)]
        · rfl
        · rw [findFactOrNotice, htext, AppResult.ok_bind, if_neg hmentions, hresolve]
          rfl
      | ok resolution =>
        rw [AppResult.ok_bind,
          scan_cons_some (b := itemFor ext request.includeContent row text resolution)]
        · have hpair : (if resolution.initialState ≠ .active then
                (facts, notices ++ [lifecycleNotice resolution])
              else
                (facts ++ [factV2 ext request.includeContent row text], notices))
              = (facts ++ lefts [itemFor ext request.includeContent row text resolution],
                notices ++ rights [itemFor ext request.includeContent row text resolution]) := by
            rw [itemFor]
            split
            · rw [lefts_cons_inr, rights_cons_inr, lefts, rights, List.filterMap_nil,
                List.filterMap_nil, List.append_nil]
            · rw [lefts_cons_inl, rights_cons_inl, lefts, rights, List.filterMap_nil,
                List.filterMap_nil, List.append_nil]
          generalize itemFor ext request.includeContent row text resolution = item at hpair ⊢
          have hone := length_lefts_add_length_rights [item]
          rw [List.length_singleton] at hone
          rw [hpair]
          dsimp only
          have hlength : (facts ++ lefts [item]).length + (notices ++ rights [item]).length
              = facts.length + notices.length + 1 := by
            rw [List.length_append, List.length_append]
            omega
          obtain _ | room := room
          · rw [if_pos (hlength.trans hlimit), scan]
            rfl
          · have hnext : (facts ++ lefts [item]).length + (notices ++ rights [item]).length
                + (room + 1) = limit := by
              rw [hlength]
              omega
            rw [if_neg (by omega), ih hnext, map_map]
            congr 1
            funext items
            rw [lefts_cons item items, rights_cons item items, List.append_assoc,
              List.append_assoc]
        · rw [findFactOrNotice, htext, AppResult.ok_bind, if_neg hmentions, hresolve]
          rfl

/-! ### What a query that goes through has done -/

/-- How many matches a request may be answered with. -/
def clampedLimit (limit : Nat) : Nat :=
  min (max limit 1) MAX_RESULT_LIMIT

theorem clampedLimit_pos (limit : Nat) :
  0 < clampedLimit limit
  := by
  rw [clampedLimit, MAX_RESULT_LIMIT]
  omega

theorem validate_eq_ok {schema schemaVersion projectKey : String} {asked room : Nat}
    {observedAtMs : Int64}
    (h : validate schema schemaVersion projectKey asked observedAtMs = .ok room) :
  room = clampedLimit asked
  := by
  rw [validate] at h
  split_ifs at h
  apply (Except.ok.inj h).symm

/-- Requests of two schemas are accepted alike. -/
theorem validate_schema {schema schema' schemaVersion projectKey : String} {asked room : Nat}
    {observedAtMs : Int64}
    (h : validate schema schemaVersion projectKey asked observedAtMs = .ok room) :
  validate schema' schema' projectKey asked observedAtMs = .ok room
  := by
  rw [validate] at h ⊢
  split_ifs at h ⊢
  · contradiction
  · exact h

theorem queryCandidates_eq_ok {candidates : List CandidateRow}
    (h : queryCandidates vault db = .ok candidates) :
  candidates = (candidateRows db).take MAX_SCAN_CANDIDATES
  := by
  obtain ⟨⟨⟩, -, h⟩ := AppResult.bind_eq_ok.mp h
  obtain ⟨⟨⟩, -, h⟩ := AppResult.bind_eq_ok.mp h
  obtain ⟨-, h⟩ := attempt_eq_ok.mp h
  apply (Except.ok.inj h).symm

/-- A database that is opened is the one that is read from its file with the key of the vault. -/
theorem openDbReadonly_eq_ok {fault : Option String} {path : String}
    (h : openDbReadonly vault fault path = .ok db) :
  ∃ tables key, vault.database path = .file tables
    ∧ Vault.dbEncryptionKey vault.host vault.dir = .ok key ∧ tables key = some db
  := by
  rw [openDbReadonly] at h
  split at h
  case h_5 tables hfile =>
    obtain ⟨key, hkey, h⟩ := AppResult.bind_eq_ok.mp h
    split_ifs at h with hinvalid
    obtain ⟨⟨⟩, -, h⟩ := AppResult.bind_eq_ok.mp h
    obtain ⟨db', hdb, h⟩ := AppResult.bind_eq_ok.mp h
    split_ifs at h
    obtain rfl := Except.ok.inj h
    use tables, key, hfile, hkey, okOrElse_eq_ok.mp hdb
  all_goals cases h

/-- What the first version of the query reads before it answers. -/
structure Reads (ext : Externals) (vault : FederationVault) (config : VaultJsonV3)
    (db : FederationDb) (store : ObjectStore) (revision : FederationSourceRevisionV1) : Prop where
  opened : openDbReadonly vault (vault.faults .queryOnly) (vault.dbPath config) = .ok db
  stored : storeForRead ext vault config = .ok store
  snapshot : openSnapshot vault = .ok ()
  revised : sourceRevision (vault.faults .revision) db.events = .ok revision
  queried : queryCandidates vault db = .ok ((candidateRows db).take MAX_SCAN_CANDIDATES)
  closed : closeSnapshot vault = .ok ()

/-- What the second version of the query reads before it answers, and what it finds. -/
structure Finds (ext : Externals) (parse : JsonParser) (toLowercase : String → String)
    (vault : FederationVault) (config : VaultJsonV3) (request : FederationQueryRequestV2)
    (db : FederationDb) (store : ObjectStore) (byDoc : EventsByDoc)
    (revision : FederationSourceRevisionV1)
    (items : List (FederationFactV2 ⊕ FederationLifecycleNoticeV2)) : Prop
  extends Reads ext vault config db store revision where
  loaded : loadDocumentLifecycleEvents ext parse vault.ownerFaults db.toOwnerDb = .ok byDoc
  scanned : scan (findFactOrNotice ext toLowercase store vault.files byDoc request)
    (clampedLimit request.limit) ((candidateRows db).take MAX_SCAN_CANDIDATES) = .ok items

/-- How the second version of the query answers with what it has found. -/
structure Answers (items : List (FederationFactV2 ⊕ FederationLifecycleNoticeV2))
    (result : FederationQueryResultV2) : Prop where
  facts : result.facts = lefts items
  notices : result.lifecycleNotices = rights items
  disposition : result.matchDisposition = matchDispositionOf (lefts items) (rights items)
  state : result.state = if result.matchDisposition = .none then .notFound else .ready
  participated : result.participated = true

theorem runQuery_of_reads {request : FederationQueryRequestV1} {limit : Nat}
    {revision : FederationSourceRevisionV1} {facts : List FederationFactV1}
    (hlimit : 0 < limit) (h : Reads ext vault config db store revision)
    (hscan : scan (findFact ext toLowercase store vault.files request) limit
      ((candidateRows db).take MAX_SCAN_CANDIDATES) = .ok facts) :
  ∃ result, runQuery ext toLowercase vault config request limit = .ok result
    ∧ result.participated = true ∧ result.facts = facts
    ∧ result.state = if facts.isEmpty then .notFound else .ready
  := by
  obtain ⟨room, rfl⟩ := Nat.exists_eq_add_one.mpr hlimit
  rw [runQuery, h.opened, AppResult.ok_bind, h.stored, AppResult.ok_bind, h.snapshot,
    AppResult.ok_bind, h.revised, AppResult.ok_bind, h.queried, AppResult.ok_bind, h.closed,
    AppResult.ok_bind, collectFacts_eq_scan (by rw [List.length_nil, Nat.zero_add]), hscan]
  exact ⟨_, rfl, rfl, rfl, rfl⟩

theorem runQueryV2_eq_ok {request : FederationQueryRequestV2} {result : FederationQueryResultV2}
    (h : runQueryV2 ext parse toLowercase vault config request (clampedLimit request.limit)
      = .ok result) :
  ∃ db store byDoc revision items,
    Finds ext parse toLowercase vault config request db store byDoc revision items
      ∧ Answers items result
  := by
  obtain ⟨room, hroom⟩ := Nat.exists_eq_add_one.mpr (clampedLimit_pos request.limit)
  obtain ⟨db, hopened, h⟩ := AppResult.bind_eq_ok.mp h
  obtain ⟨store, hstored, h⟩ := AppResult.bind_eq_ok.mp h
  obtain ⟨⟨⟩, hsnapshot, h⟩ := AppResult.bind_eq_ok.mp h
  obtain ⟨byDoc, hloaded, h⟩ := AppResult.bind_eq_ok.mp h
  obtain ⟨revision, hrevised, h⟩ := AppResult.bind_eq_ok.mp h
  obtain ⟨candidates, hqueried, h⟩ := AppResult.bind_eq_ok.mp h
  obtain ⟨⟨facts, notices⟩, hcollected, h⟩ := AppResult.bind_eq_ok.mp h
  obtain ⟨⟨⟩, hclosed, h⟩ := AppResult.bind_eq_ok.mp h
  obtain rfl := queryCandidates_eq_ok hqueried
  rw [hroom, collectFactsAndNotices_eq_scan (by rw [List.length_nil, List.length_nil,
    Nat.zero_add]), ← hroom] at hcollected
  obtain ⟨items, hscanned, hitems⟩ := map_eq_ok.mp hcollected
  obtain ⟨rfl, rfl⟩ := Prod.mk.inj hitems
  use db, store, byDoc, revision, items
  constructor
  · use ⟨hopened, hstored, hsnapshot, hrevised, hqueried, hclosed⟩, hloaded, hscanned
  · cases h
    constructor <;> rfl

/-- The second version answers with what it has found, or with nothing. -/
theorem federationQueryServiceV2_eq_ok {request : FederationQueryRequestV2}
    {result : FederationQueryResultV2}
    (h : federationQueryServiceV2 ext parse toLowercase vault request = .ok result) :
  ∃ config, validateRequestV2 request = .ok (clampedLimit request.limit)
    ∧ Vault.vaultOpen vault.host vault.dir = .ok config
    ∧ ((∃ db store byDoc revision items,
          Finds ext parse toLowercase vault config request db store byDoc revision items
            ∧ Answers items result)
        ∨ result.participated = false ∧ result.facts = [] ∧ result.lifecycleNotices = [])
  := by
  obtain ⟨limit, hlimit, h⟩ := AppResult.bind_eq_ok.mp h
  obtain ⟨config, hconfig, h⟩ := AppResult.bind_eq_ok.mp h
  obtain rfl := validate_eq_ok hlimit
  use config, hlimit, mapErr_eq_ok.mp hconfig
  cases hrun : runQueryV2 ext parse toLowercase vault config request
    (clampedLimit request.limit) with
  | error e =>
    rw [hrun] at h
    obtain rfl := Except.ok.inj h
    right
    use rfl, rfl
    rfl
  | ok result' =>
    rw [hrun] at h
    obtain rfl := Except.ok.inj h
    left
    apply runQueryV2_eq_ok hrun

end Federation

end KnowledgeCore
