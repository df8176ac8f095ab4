import KnowledgeCore.Federation.Runs
import KnowledgeCore.Lifecycle.Graph

/-!
# Suppression

The second version of the query answers about the first documents that mention the key: with a
fact if the log has no lifecycle events of the document, and else with a notice of what the events
lead to.
-/

namespace KnowledgeCore

namespace Federation

open Lifecycle Scan

variable {ext : Externals} {parse : JsonParser} {toLowercase : String → String}
  {vault : FederationVault} {config : VaultJsonV3} {db : FederationDb} {store : ObjectStore}
  {byDoc : EventsByDoc}

/-! ### Where the lifecycle of a document leads -/

/-- The lifecycle events of a document in a log, in the order of the log. -/
def lifecycleEvents (ext : Externals) (parse : JsonParser) (table : EventTable)
    (docId : String) : List DocumentLifecycleEventV1 :=
  eventsOf (entries ext parse (table.rows.filterMap EventRow.decode)) docId

/-- Where the events lead from a document: the states it is in first and last, the document that
this ends at if it does, and the events on the way. A document with more than one event is in
conflict. -/
inductive LeadsTo (events : String → List DocumentLifecycleEventV1) :
    String → DocumentLifecycleInitialStateV1 → DocumentLifecycleTerminalStateV1 →
      Option String → List DocumentLifecycleEventV1 → Prop
  | active (docId) (hevents : events docId = []) :
    LeadsTo events docId .active .active (some docId) []
  | tombstoned (docId event) (hevents : events docId = [event])
      (haction : event.action = .tombstone) :
    LeadsTo events docId .tombstoned .tombstoned (some docId) [event]
  | superseded (docId event next initialState terminalState terminalDocId passed)
      (hevents : events docId = [event]) (haction : event.action = .supersede)
      (hnext : event.replacementDocId = some next)
      (hpassed : LeadsTo events next initialState terminalState terminalDocId passed) :
    LeadsTo events docId .superseded terminalState terminalDocId (event :: passed)
  | conflicted (docId) (hevents : 2 ≤ (events docId).length) :
    LeadsTo events docId .conflicted .conflicted none (events docId)

/-- What is loaded of a log are the lifecycle events of each document that has any. -/
theorem getElem?_load {faults : Faults} {owner : OwnerDb}
    (h : loadDocumentLifecycleEvents ext parse faults owner = .ok byDoc) (docId : String) :
  byDoc[docId]? = if lifecycleEvents ext parse owner.events docId = [] then none
    else some (lifecycleEvents ext parse owner.events docId)
  := by
  obtain ⟨records, hread, -, rfl⟩ := load_eq_ok.mp (load_of_load_faults h)
  have hdecode : owner.events.rows.filterMap EventRow.decode = records := by
    rw [(holdsEvents_of_read hread).rows, List.filterMap_map]
    simp
  rw [getElem?_group, lifecycleEvents, hdecode, Std.ExtTreeMap.getElem?_empty,
    Std.ExtTreeMap.getD_empty, List.nil_append]

/-- What is resolved from a document is where the events lead from there. The first state is the
one at the document, unless events have been passed before it. -/
theorem leadsTo_of_resolveFrom {events : String → List DocumentLifecycleEventV1}
    {sourceDocId current : String} {room : Nat} {visited : List String}
    {initialState : DocumentLifecycleInitialStateV1} {passed : List DocumentLifecycleEventV1}
    {resolution : DocumentLifecycleResolutionV1}
    (hload : ∀ docId, byDoc[docId]? = if events docId = [] then none else some (events docId))
    (hinitial : passed = [] → initialState = .active)
    (h : resolveFrom byDoc sourceDocId room current visited initialState passed
      = .ok resolution) :
  resolution.sourceDocId = sourceDocId ∧ ∃ state ahead,
    LeadsTo events current state resolution.terminalState resolution.terminalDocId ahead
      ∧ resolution.events = passed ++ ahead
      ∧ (passed = [] → resolution.initialState = state)
  := by
  have hnone {docId : String} (hfound : byDoc[docId]? = none) : events docId = [] := by
    rw [hload] at hfound
    by_contra hne
    rw [if_neg hne] at hfound
    cases hfound
  have hsome {docId : String} {found : List DocumentLifecycleEventV1}
      (hfound : byDoc[docId]? = some found) : events docId = found ∧ found ≠ [] := by
    rw [hload] at hfound
    split at hfound
    case isTrue => cases hfound
    case isFalse hne =>
      obtain rfl := Option.some.inj hfound
      use rfl
  have hresolves := resolves byDoc sourceDocId room current visited initialState passed
  rw [h] at hresolves
  induction room generalizing current visited initialState passed with
  | zero =>
    cases hresolves with
    | active _ _ _ _ _ hcurrent =>
      use rfl, .active, [], .active current (hnone hcurrent), (List.append_nil passed).symm
  | succ room ih =>
    cases hresolves with
    | active _ _ _ _ _ hcurrent =>
      use rfl, .active, [], .active current (hnone hcurrent), (List.append_nil passed).symm
    | tombstoned _ _ _ _ _ event hcurrent haction =>
      use rfl, .tombstoned, [event], .tombstoned current event (hsome hcurrent).1 haction, rfl
      rintro rfl
      rw [haction]
      rfl
    | conflicted _ _ _ _ _ _ hcurrent hlength =>
      obtain ⟨rfl, hne⟩ := hsome hcurrent
      use rfl, .conflicted, events current
      constructor
      · apply LeadsTo.conflicted
        have hpos := List.length_pos_iff.mpr hne
        omega
      · use rfl
        rintro rfl
        rfl
    | superseded _ _ _ _ _ event next _ hcurrent haction hnext hresult =>
      have hnotnil : passed ++ [event] ≠ [] := List.append_ne_nil_of_right_ne_nil _ (by simp)
      have hresolves := resolves byDoc sourceDocId room next (current :: visited)
        (initialStateAfter passed event.action initialState) (passed ++ [event])
      rw [hresult] at hresolves
      obtain ⟨hsource, state, ahead, hleads, hevents, -⟩ := ih (absurd · hnotnil) hresult hresolves
      use hsource, .superseded, event :: ahead
      constructor
      · exact .superseded current event next _ _ _ _ (hsome hcurrent).1 haction hnext hleads
      · constructor
        · rw [hevents, List.append_assoc, List.singleton_append]
        · rintro rfl
          rw [resolveFrom_initialState hnotnil hresult, haction]
          rfl

/-- What is resolved for a document. -/
theorem leadsTo_of_resolve {faults : Faults} {owner : OwnerDb} {docId : String}
    {resolution : DocumentLifecycleResolutionV1}
    (hload : loadDocumentLifecycleEvents ext parse faults owner = .ok byDoc)
    (h : resolveDocumentLifecycle docId byDoc = .ok resolution) :
  resolution.sourceDocId = docId
    ∧ LeadsTo (lifecycleEvents ext parse owner.events) docId resolution.initialState
      resolution.terminalState resolution.terminalDocId resolution.events
  := by
  obtain ⟨⟨⟩, -, h⟩ := AppResult.bind_eq_ok.mp h
  obtain ⟨hsource, state, ahead, hleads, hevents, hinitial⟩ :=
    leadsTo_of_resolveFrom (getElem?_load hload) (fun _ => rfl) h
  rw [hevents, List.nil_append, hinitial rfl]
  exact ⟨hsource, hleads⟩

/-! ### Which documents are answered about -/

/-- A candidate whose text mentions the key. -/
def isMatch (ext : Externals) (toLowercase : String → String) (store : ObjectStore)
    (files : Files) (projectKey : String) (row : CandidateRow) : Bool :=
  (candidateText ext store files row).toOption.any (mentions toLowercase projectKey)

/-- The fact about a document, from its text. -/
def IsFact (ext : Externals) (store : ObjectStore) (files : Files) (includeContent : Bool)
    (row : CandidateRow) (fact : FederationFactV2) : Prop :=
  ∃ text, candidateText ext store files row = .ok text ∧ fact = factV2 ext includeContent row text

/-- The notice about a document, by where its events lead. -/
def IsNotice (events : String → List DocumentLifecycleEventV1) (row : CandidateRow)
    (notice : FederationLifecycleNoticeV2) : Prop :=
  notice.sourceItemId = row.docId ∧ ∃ passed,
    LeadsTo events row.docId notice.initialState notice.terminalState notice.terminalSourceItemId
        passed
      ∧ notice.events = passed.map lifecycleEventRef

/-- A notice of a conflict, at the document or further on. -/
def OfConflict (notice : FederationLifecycleNoticeV2) : Prop :=
  notice.initialState = .conflicted ∨ notice.terminalState = .conflicted

/-- What the facts and the notices say of the matches and of the source. -/
inductive Determines (facts : List FederationFactV2)
    (notices : List FederationLifecycleNoticeV2) :
    FederationMatchDispositionV2 → FederationSourceStateV1 → Prop
  | conflicted (notice) (hnotice : notice ∈ notices) (hconflict : OfConflict notice) :
    Determines facts notices .conflicted .ready
  | none (hfacts : facts = []) (hnotices : notices = []) :
    Determines facts notices .none .notFound
  | active (hfacts : facts ≠ []) (hnotices : notices = []) :
    Determines facts notices .active .ready
  | suppressed (hfacts : facts = []) (hnotices : notices ≠ [])
      (hconflict : ∀ notice ∈ notices, ¬ OfConflict notice) :
    Determines facts notices .suppressed .ready
  | activeAndSuppressed (hfacts : facts ≠ []) (hnotices : notices ≠ [])
      (hconflict : ∀ notice ∈ notices, ¬ OfConflict notice) :
    Determines facts notices .activeAndSuppressed .ready

theorem determines_matchDispositionOf (facts : List FederationFactV2)
    (notices : List FederationLifecycleNoticeV2) :
  Determines facts notices (matchDispositionOf facts notices)
    (if matchDispositionOf facts notices = .none then .notFound else .ready)
  := by
  rw [matchDispositionOf]
  by_cases hany : (notices.any fun notice =>
    notice.initialState = .conflicted || notice.terminalState = .conflicted) = true
  · rw [if_pos hany]
    obtain ⟨notice, hnotice, hconflict⟩ := List.any_eq_true.mp hany
    apply Determines.conflicted notice hnotice
    simpa [OfConflict] using hconflict
  · rw [if_neg hany]
    have hconflict : ∀ notice ∈ notices, ¬ OfConflict notice := by
      intro notice hnotice hconflict
      apply hany
      apply List.any_eq_true.mpr
      use notice, hnotice
      simpa [OfConflict] using hconflict
    obtain _ | ⟨fact, facts⟩ := facts
    · obtain _ | ⟨notice, notices⟩ := notices
      · apply Determines.none rfl rfl
      · apply Determines.suppressed rfl (List.cons_ne_nil _ _) hconflict
    · obtain _ | ⟨notice, notices⟩ := notices
      · apply Determines.active (List.cons_ne_nil _ _) rfl
      · apply Determines.activeAndSuppressed (List.cons_ne_nil _ _) (List.cons_ne_nil _ _)
          hconflict

/-- What a query of the second version answers: `rows` are the candidates in their order, and
`matched` the first of them that match. -/
structure Suppresses (ext : Externals) (parse : JsonParser) (toLowercase : String → String)
    (vault : FederationVault) (request : FederationQueryRequestV2) (db : FederationDb)
    (store : ObjectStore) (rows matched : List CandidateRow)
    (result : FederationQueryResultV2) : Prop where
  complete : ∀ row, row ∈ rows ↔ IsCandidate db row
  ordered : rows.Pairwise Precedes
  first : matched
    = ((rows.take MAX_SCAN_CANDIDATES).filter
        (isMatch ext toLowercase store vault.files request.projectKey)).take
      (clampedLimit request.limit)
  facts : List.Forall₂ (IsFact ext store vault.files request.includeContent)
    (matched.filter fun row => (lifecycleEvents ext parse db.events row.docId).isEmpty)
    result.facts
  notices : List.Forall₂ (IsNotice (lifecycleEvents ext parse db.events))
    (matched.filter fun row => !(lifecycleEvents ext parse db.events row.docId).isEmpty)
    result.lifecycleNotices
  bounded : result.facts.length + result.lifecycleNotices.length ≤ clampedLimit request.limit
  distinct : (result.facts.map (·.sourceItemId)
    ++ result.lifecycleNotices.map (·.sourceItemId)).Nodup
  determined : Determines result.facts result.lifecycleNotices result.matchDisposition
    result.state

/-! ### What a step of the scan finds -/

theorem findFactOrNotice_eq_some {request : FederationQueryRequestV2} {row : CandidateRow}
    {item : FederationFactV2 ⊕ FederationLifecycleNoticeV2}
    (h : findFactOrNotice ext toLowercase store vault.files byDoc request row
      = .ok (some item)) :
  ∃ text resolution, candidateText ext store vault.files row = .ok text
    ∧ resolveDocumentLifecycle row.docId byDoc = .ok resolution
    ∧ item = itemFor ext request.includeContent row text resolution
  := by
  obtain ⟨text, htext, h⟩ := AppResult.bind_eq_ok.mp h
  split_ifs at h with hmentions
  · cases h
  · obtain ⟨resolution, hresolution, h⟩ := AppResult.bind_eq_ok.mp h
    use text, resolution, htext, hresolution
    apply (Option.some.inj (Except.ok.inj h)).symm

/-- Something is found in a candidate exactly when it matches. -/
theorem isSome_of_findFactOrNotice {request : FederationQueryRequestV2} {row : CandidateRow}
    {found : Option (FederationFactV2 ⊕ FederationLifecycleNoticeV2)}
    (h : findFactOrNotice ext toLowercase store vault.files byDoc request row = .ok found) :
  found.isSome = isMatch ext toLowercase store vault.files request.projectKey row
  := by
  obtain ⟨text, htext, h⟩ := AppResult.bind_eq_ok.mp h
  rw [isMatch, htext, Except.toOption, Option.any_some]
  split_ifs at h with hmentions
  · obtain rfl := Except.ok.inj h
    rw [hmentions]
    rfl
  · obtain ⟨resolution, -, h⟩ := AppResult.bind_eq_ok.mp h
    obtain rfl := Except.ok.inj h
    rw [Bool.not_eq_false] at hmentions
    rw [hmentions]
    rfl

/-- A fact is found in the documents without lifecycle events, and in no others. -/
theorem isLeft_of_findFactOrNotice {request : FederationQueryRequestV2} {row : CandidateRow}
    {item : FederationFactV2 ⊕ FederationLifecycleNoticeV2} {faults : Faults} {owner : OwnerDb}
    (hload : loadDocumentLifecycleEvents ext parse faults owner = .ok byDoc)
    (h : findFactOrNotice ext toLowercase store vault.files byDoc request row
      = .ok (some item)) :
  item.isLeft = (lifecycleEvents ext parse owner.events row.docId).isEmpty
  := by
  obtain ⟨text, resolution, -, hresolution, rfl⟩ := findFactOrNotice_eq_some h
  have hactive := initialState_eq_active hresolution
  rw [getElem?_load hload] at hactive
  rw [itemFor]
  by_cases hevents : lifecycleEvents ext parse owner.events row.docId = []
  · rw [if_pos hevents] at hactive
    rw [if_neg (not_not.mpr (hactive.mpr rfl)), hevents]
    rfl
  · rw [if_neg hevents] at hactive
    rw [if_pos (fun h => by cases hactive.mp h), List.isEmpty_eq_false_iff.mpr hevents]
    rfl

theorem isFact_of_findFactOrNotice {request : FederationQueryRequestV2} {row : CandidateRow}
    {fact : FederationFactV2}
    (h : findFactOrNotice ext toLowercase store vault.files byDoc request row
      = .ok (some (.inl fact))) :
  IsFact ext store vault.files request.includeContent row fact
  := by
  obtain ⟨text, resolution, htext, -, hitem⟩ := findFactOrNotice_eq_some h
  rw [itemFor] at hitem
  split_ifs at hitem
  use text, htext, Sum.inl.inj hitem

theorem isNotice_of_findFactOrNotice {request : FederationQueryRequestV2} {row : CandidateRow}
    {notice : FederationLifecycleNoticeV2} {faults : Faults} {owner : OwnerDb}
    (hload : loadDocumentLifecycleEvents ext parse faults owner = .ok byDoc)
    (h : findFactOrNotice ext toLowercase store vault.files byDoc request row
      = .ok (some (.inr notice))) :
  IsNotice (lifecycleEvents ext parse owner.events) row notice
  := by
  obtain ⟨text, resolution, -, hresolution, hitem⟩ := findFactOrNotice_eq_some h
  rw [itemFor] at hitem
  split_ifs at hitem
  obtain rfl := Sum.inr.inj hitem
  obtain ⟨hsource, hleads⟩ := leadsTo_of_resolve hload hresolution
  use hsource, resolution.events, hleads
  rfl

/-- What is answered suppresses the documents that have lifecycle events. -/
theorem suppresses_of_finds {request : FederationQueryRequestV2} {result : FederationQueryResultV2}
    {revision : FederationSourceRevisionV1}
    {items : List (FederationFactV2 ⊕ FederationLifecycleNoticeV2)}
    (h : Finds ext parse toLowercase vault config request db store byDoc revision items)
    (hanswers : Answers items result) :
  Suppresses ext parse toLowercase vault request db store (candidateRows db)
    (((candidateRows db).take MAX_SCAN_CANDIDATES).filter
      (isMatch ext toLowercase store vault.files request.projectKey)
        |>.take (clampedLimit request.limit)) result
  := by
  have hfound := forall₂_scan (fun row _ found => isSome_of_findFactOrNotice) h.scanned
  obtain ⟨hfacts, hnotices⟩ := forall₂_lefts_rights
    (fun row _ item hitem => isLeft_of_findFactOrNotice h.loaded hitem) hfound
  have hdistinct := (((pairwise_docId_candidateRows db).sublist
    (List.take_sublist MAX_SCAN_CANDIDATES _)).filter
      (isMatch ext toLowercase store vault.files request.projectKey)).sublist
        (List.take_sublist (clampedLimit request.limit) _)
  replace hfacts := hfacts.imp fun row fact => isFact_of_findFactOrNotice
  replace hnotices := hnotices.imp fun row notice => isNotice_of_findFactOrNotice h.loaded
  rw [← hanswers.facts] at hfacts
  rw [← hanswers.notices] at hnotices
  generalize hmatched : (((candidateRows db).take MAX_SCAN_CANDIDATES).filter
    (isMatch ext toLowercase store vault.files request.projectKey)).take
      (clampedLimit request.limit) = matched at hfacts hnotices hdistinct ⊢
  constructor
  case complete => apply fun row => mem_candidateRows
  case ordered => apply pairwise_candidateRows
  case first => apply hmatched.symm
  case facts => apply hfacts
  case notices => apply hnotices
  case bounded =>
    rw [hanswers.facts, hanswers.notices, length_lefts_add_length_rights]
    apply length_scan_le h.scanned
  case distinct =>
    rw [map_eq_of_forall₂ (f := CandidateRow.docId) hfacts,
      map_eq_of_forall₂ (f := CandidateRow.docId) hnotices, ← List.map_append]
    · apply List.pairwise_map.mpr
      apply (List.filter_append_perm _ matched).symm.pairwise hdistinct Ne.symm
    · rintro row notice ⟨hsource, -⟩
      exact hsource
    · rintro row fact ⟨text, -, rfl⟩
      rfl
  case determined =>
    rw [hanswers.state, hanswers.disposition, hanswers.facts, hanswers.notices]
    apply determines_matchDispositionOf

/-- A query of the second version that is answered from the vault suppresses exactly the documents
that have lifecycle events. One that is not says nothing of any document. -/
theorem suppresses (ext : Externals) (parse : JsonParser) (toLowercase : String → String)
    (vault : FederationVault) (request : FederationQueryRequestV2)
    (result : FederationQueryResultV2)
    (h : federationQueryServiceV2 ext parse toLowercase vault request = .ok result) :
  (result.participated = true → ∃ config db store rows matched,
    Vault.vaultOpen vault.host vault.dir = .ok config
      ∧ openDbReadonly vault (vault.faults .queryOnly) (vault.dbPath config) = .ok db
      ∧ storeForRead ext vault config = .ok store
      ∧ Suppresses ext parse toLowercase vault request db store rows matched result)
    ∧ (result.participated = false → result.facts = [] ∧ result.lifecycleNotices = [])
  := by
  obtain ⟨config, -, hconfig, h⟩ := federationQueryServiceV2_eq_ok h
  obtain ⟨db, store, byDoc, revision, items, hfinds, hanswers⟩ | ⟨habsent, hempty⟩ := h
  · constructor
    · intro _
      exact ⟨config, db, store, _, _, hconfig, hfinds.opened, hfinds.stored,
        suppresses_of_finds hfinds hanswers⟩
    · rw [hanswers.participated]
      intro h
      cases h
  · constructor
    · rw [habsent]
      intro h
      cases h
    · intro _
      exact hempty

/-! ### A document that mentions the key -/

def Sample.textHash : String :=
  "blake3:1a001a001a001a001a001a001a001a001a001a001a001a001a001a001a001a00"

/-- The database of an owner with one document, the text of which is `a/b`. -/
def Sample.mentioningDb : FederationDb where
  __ := KnowledgeCore.Sample.boundDb "owner" [Sample.textHash] .empty []
  docs := (∅ : Table DocRow).insert Sample.textHash {
    originalObjectHash := Sample.textHash
    bytes := 3
    mime := "text/plain"
    sourceKind := "notes"
    effectiveTsMs := 3 }
  ingestedEventId _ := 1

def Sample.federationVault (db : FederationDb) : FederationVault where
  host := KnowledgeCore.Sample.host
  dir := KnowledgeCore.Sample.vault KnowledgeCore.Sample.db []
  database _ := .file fun key => if key = none then some db else none
  files := (∅ : Files).insert ("/vault/store/objects/1a/" ++ Sample.textHash) [97, 47, 98]
  faults _ := none

def Sample.queryV2 : FederationQueryRequestV2 where
  schemaVersion := FEDERATION_QUERY_REQUEST_SCHEMA_V2
  projectKey := "a/b"
  includeContent := true
  limit := 5
  observedAtMs := 7

/-- The answer to the query, where letters are not brought to lower case. -/
def Sample.answer : AppResult FederationQueryResultV2 :=
  federationQueryServiceV2 KnowledgeCore.Sample.ext JsonText.parse id
    (Sample.federationVault Sample.mentioningDb) Sample.queryV2

theorem Sample.exists_answer :
  ∃ result, Sample.answer = .ok result
    ∧ (result.participated && result.facts.length == 1) = true
  := by
  apply exists_of_any
  decide +kernel

theorem suppresses_mentioning :
  ∃ result, Sample.answer = .ok result ∧ result.participated = true ∧ result.facts.length = 1
    ∧ ∃ config db store rows matched,
      Vault.vaultOpen KnowledgeCore.Sample.host
          (Sample.federationVault Sample.mentioningDb).dir = .ok config
        ∧ openDbReadonly (Sample.federationVault Sample.mentioningDb) none
            ((Sample.federationVault Sample.mentioningDb).dbPath config) = .ok db
        ∧ storeForRead KnowledgeCore.Sample.ext (Sample.federationVault Sample.mentioningDb) config
            = .ok store
        ∧ Suppresses KnowledgeCore.Sample.ext JsonText.parse id
            (Sample.federationVault Sample.mentioningDb) Sample.queryV2 db store rows matched
            result
  := by
  obtain ⟨result, hresult, hfound⟩ := Sample.exists_answer
  rw [Bool.and_eq_true, beq_iff_eq] at hfound
  obtain ⟨hparticipated, hlength⟩ := hfound
  use result, hresult, hparticipated, hlength
  apply (suppresses _ _ _ _ _ _ hresult).1 hparticipated

end Federation

end KnowledgeCore
