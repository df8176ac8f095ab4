import KnowledgeCore.Federation.Extension
import KnowledgeCore.Federation.Delegation
import KnowledgeCore.Lib.Trim

/-!
# Blanks around a key

A request is checked, and a delegated read is allowed, by its key without the blanks around it. The
documents are searched for the key as it stands in the request. So a query answers alike with blanks
around its key and without as far as the documents mention the one where they mention the other.
-/

namespace KnowledgeCore

namespace Federation

open Lifecycle Scan

variable {ext : Externals} {parse : JsonParser} {toLowercase : String → String}
  {vault : FederationVault} {config : VaultJsonV3} {db : FederationDb} {store : ObjectStore}
  {byDoc : EventsByDoc}

/-! ### Other keys -/

/-- The request under another key. -/
def FederationQueryRequestV1.withKey (request : FederationQueryRequestV1) (projectKey : String) :
    FederationQueryRequestV1 :=
  { request with projectKey }

@[inherit_doc FederationQueryRequestV1.withKey]
def FederationQueryRequestV2.withKey (request : FederationQueryRequestV2) (projectKey : String) :
    FederationQueryRequestV2 :=
  { request with projectKey }

/-- Whether the source participated, and the facts. -/
def FederationQueryResultV1.answer (result : FederationQueryResultV1) :
    Bool × List FederationFactV1 :=
  (result.participated, result.facts)

/-- Whether the source participated, the facts and the notices. -/
def FederationQueryResultV2.answer (result : FederationQueryResultV2) :
    Bool × List FederationFactV2 × List FederationLifecycleNoticeV2 :=
  (result.participated, result.facts, result.lifecycleNotices)

/-! ### Where two keys are mentioned alike -/

/-- A candidate is not read as a text. -/
def Unreadable (ext : Externals) (store : ObjectStore) (files : Files) (row : CandidateRow) :
    Prop :=
  ∃ e, candidateText ext store files row = .error e

/-- A candidate is not read as a text, or mentions the key and has a lifecycle that cannot be
resolved. -/
def Unanswerable (ext : Externals) (toLowercase : String → String) (store : ObjectStore)
    (files : Files) (byDoc : EventsByDoc) (projectKey : String) (row : CandidateRow) : Prop :=
  Unreadable ext store files row
    ∨ isMatch ext toLowercase store files projectKey row = true
      ∧ ∃ e, resolveDocumentLifecycle row.docId byDoc = .error e

/-- For both keys a candidate that fails comes before there are enough that mention the key, or
for neither, and then the same candidates mention them first. -/
def AlikeIn (fails : String → CandidateRow → Prop) (mentioned : String → CandidateRow → Bool)
    (limit : Nat) (rows : List CandidateRow) (key key' : String) : Prop :=
  Blocked (fails key) (mentioned key) limit rows ∧ Blocked (fails key') (mentioned key') limit rows
    ∨ ¬ Blocked (fails key) (mentioned key) limit rows
      ∧ ¬ Blocked (fails key') (mentioned key') limit rows
      ∧ (rows.filter (mentioned key)).take limit = (rows.filter (mentioned key')).take limit

/-- Two keys are mentioned alike in the candidates that the first version reads. -/
def AlikeV1 (ext : Externals) (toLowercase : String → String) (vault : FederationVault)
    (limit : Nat) (key key' : String) : Prop :=
  ∀ config db store revision, Vault.vaultOpen vault.host vault.dir = .ok config →
    Reads ext vault config db store revision →
      AlikeIn (fun _ => Unreadable ext store vault.files)
        (isMatch ext toLowercase store vault.files) (clampedLimit limit)
        ((candidateRows db).take MAX_SCAN_CANDIDATES) key key'

/-- Two keys are mentioned alike in the candidates that the second version reads. -/
def AlikeV2 (ext : Externals) (parse : JsonParser) (toLowercase : String → String)
    (vault : FederationVault) (limit : Nat) (key key' : String) : Prop :=
  ∀ config db store revision byDoc, Vault.vaultOpen vault.host vault.dir = .ok config →
    Reads ext vault config db store revision →
    loadDocumentLifecycleEvents ext parse vault.ownerFaults db.toOwnerDb = .ok byDoc →
      AlikeIn (Unanswerable ext toLowercase store vault.files byDoc)
        (isMatch ext toLowercase store vault.files) (clampedLimit limit)
        ((candidateRows db).take MAX_SCAN_CANDIDATES) key key'

/-- A delegated read is let through to the documents. -/
def LetThrough (parse : JsonParser) (vault : FederationVault) (sessionId : String)
    (authorizedAtMs : Int64) (request : FederationQueryRequestV2) : Prop :=
  ∃ config db, Vault.vaultOpen vault.host vault.dir = .ok config
    ∧ openDbReadonly vault (vault.faults .authorizeQueryOnly) (vault.dbPath config) = .ok db
    ∧ refusal parse vault config db sessionId authorizedAtMs request = none

/-! ### Steps -/

theorem findFact_error_iff {request : FederationQueryRequestV1} {row : CandidateRow} :
  (∃ e, findFact ext toLowercase store vault.files request row = .error e)
    ↔ Unreadable ext store vault.files row
  := by
  rw [findFact, Unreadable]
  cases candidateText ext store vault.files row with
  | error e => exact iff_of_true ⟨e, rfl⟩ ⟨e, rfl⟩
  | ok text =>
    rw [AppResult.ok_bind]
    split_ifs <;> simp

theorem isSome_of_findFact {request : FederationQueryRequestV1} {row : CandidateRow}
    {found : Option FederationFactV1}
    (h : findFact ext toLowercase store vault.files request row = .ok found) :
  found.isSome = isMatch ext toLowercase store vault.files request.projectKey row
  := by
  obtain ⟨text, htext, h⟩ := AppResult.bind_eq_ok.mp h
  rw [isMatch, htext, Except.toOption, Option.any_some]
  split_ifs at h with hmentions
  · obtain rfl := Except.ok.inj h
    rw [hmentions]
    rfl
  · obtain rfl := Except.ok.inj h
    rw [Bool.not_eq_false] at hmentions
    rw [hmentions]
    rfl

theorem findFact_eq_some {request : FederationQueryRequestV1} {row : CandidateRow}
    {fact : FederationFactV1}
    (h : findFact ext toLowercase store vault.files request row = .ok (some fact)) :
  ∃ text, candidateText ext store vault.files row = .ok text
    ∧ fact = factV1 ext request.includeContent row text
  := by
  obtain ⟨text, htext, h⟩ := AppResult.bind_eq_ok.mp h
  split_ifs at h
  · cases h
  · use text, htext, (Option.some.inj (Except.ok.inj h)).symm

theorem findFactOrNotice_error_iff {request : FederationQueryRequestV2} {row : CandidateRow} :
  (∃ e, findFactOrNotice ext toLowercase store vault.files byDoc request row = .error e)
    ↔ Unanswerable ext toLowercase store vault.files byDoc request.projectKey row
  := by
  rw [findFactOrNotice, Unanswerable, Unreadable, isMatch]
  cases candidateText ext store vault.files row with
  | error e => exact iff_of_true ⟨e, rfl⟩ (.inl ⟨e, rfl⟩)
  | ok text =>
    rw [AppResult.ok_bind]
    by_cases hmentions : mentions toLowercase request.projectKey text = false
    · simp [hmentions, Except.toOption]
    · rw [if_neg hmentions]
      rw [Bool.not_eq_false] at hmentions
      cases resolveDocumentLifecycle row.docId byDoc with
      | error e => simp [Except.toOption, hmentions]
      | ok resolution => simp [Except.toOption]

theorem findFactOrNotice_agree {request request' : FederationQueryRequestV2} {row : CandidateRow}
    {item item' : FederationFactV2 ⊕ FederationLifecycleNoticeV2}
    (hcontent : request.includeContent = request'.includeContent)
    (h : findFactOrNotice ext toLowercase store vault.files byDoc request row = .ok (some item))
    (h' : findFactOrNotice ext toLowercase store vault.files byDoc request' row
      = .ok (some item')) :
  item = item'
  := by
  obtain ⟨text, resolution, htext, hresolution, rfl⟩ := findFactOrNotice_eq_some h
  obtain ⟨text', resolution', htext', hresolution', rfl⟩ := findFactOrNotice_eq_some h'
  obtain rfl := Except.ok.inj (htext.symm.trans htext')
  obtain rfl := Except.ok.inj (hresolution.symm.trans hresolution')
  rw [hcontent]

/-- The document that an item is about. -/
def itemId : FederationFactV2 ⊕ FederationLifecycleNoticeV2 → String :=
  Sum.elim (·.sourceItemId) (·.sourceItemId)

theorem itemId_of_findFactOrNotice {request : FederationQueryRequestV2} {row : CandidateRow}
    {item : FederationFactV2 ⊕ FederationLifecycleNoticeV2} {faults : Faults} {owner : OwnerDb}
    (hload : loadDocumentLifecycleEvents ext parse faults owner = .ok byDoc)
    (h : findFactOrNotice ext toLowercase store vault.files byDoc request row
      = .ok (some item)) :
  itemId item = row.docId
  := by
  obtain ⟨text, resolution, -, hresolution, rfl⟩ := findFactOrNotice_eq_some h
  rw [itemFor]
  split_ifs
  · exact (leadsTo_of_resolve hload hresolution).1
  · rfl

theorem mem_map_itemId {items : List (FederationFactV2 ⊕ FederationLifecycleNoticeV2)}
    {docId : String} :
  docId ∈ items.map itemId
    ↔ docId ∈ (lefts items).map (·.sourceItemId) ∨ docId ∈ (rights items).map (·.sourceItemId)
  := by
  induction items with
  | nil => simp [lefts, rights]
  | cons item items ih =>
    obtain fact | notice := item
    · rw [List.map_cons, List.mem_cons, ih, lefts_cons_inl, rights_cons_inl, List.map_cons,
        List.mem_cons, or_assoc]
      rfl
    · rw [List.map_cons, List.mem_cons, ih, lefts_cons_inr, rights_cons_inr, List.map_cons,
        List.mem_cons, or_left_comm]
      rfl

/-! ### What a query comes to -/

def answerV1 : AppResult FederationQueryResultV1 → Bool × List FederationFactV1
  | .ok result => result.answer
  | .error _ => (false, [])

def answerV2 : AppResult FederationQueryResultV2 →
    Bool × List FederationFactV2 × List FederationLifecycleNoticeV2
  | .ok result => result.answer
  | .error _ => (false, [], [])

/-- What is found in the candidates is answered. -/
theorem answerV1_runQuery {request : FederationQueryRequestV1}
    {revision : FederationSourceRevisionV1} (h : Reads ext vault config db store revision) :
  answerV1 (runQuery ext toLowercase vault config request (clampedLimit request.limit))
    = outcome id (scan (findFact ext toLowercase store vault.files request)
      (clampedLimit request.limit) ((candidateRows db).take MAX_SCAN_CANDIDATES))
  := by
  obtain ⟨room, hroom⟩ := Nat.exists_eq_add_one.mpr (clampedLimit_pos request.limit)
  rw [runQuery, h.opened, AppResult.ok_bind, h.stored, AppResult.ok_bind, h.snapshot,
    AppResult.ok_bind, h.revised, AppResult.ok_bind, h.queried, AppResult.ok_bind, h.closed,
    AppResult.ok_bind, hroom, collectFacts_eq_scan (by rw [List.length_nil, Nat.zero_add])]
  cases scan (findFact ext toLowercase store vault.files request) (room + 1)
    ((candidateRows db).take MAX_SCAN_CANDIDATES) <;> rfl

theorem reads_of_runQuery {request : FederationQueryRequestV1} {result : FederationQueryResultV1}
    {limit : Nat} (h : runQuery ext toLowercase vault config request limit = .ok result) :
  ∃ db store revision, Reads ext vault config db store revision
  := by
  obtain ⟨db, hopened, h⟩ := AppResult.bind_eq_ok.mp h
  obtain ⟨store, hstored, h⟩ := AppResult.bind_eq_ok.mp h
  obtain ⟨⟨⟩, hsnapshot, h⟩ := AppResult.bind_eq_ok.mp h
  obtain ⟨revision, hrevised, h⟩ := AppResult.bind_eq_ok.mp h
  obtain ⟨candidates, hqueried, h⟩ := AppResult.bind_eq_ok.mp h
  obtain ⟨⟨⟩, hclosed, h⟩ := AppResult.bind_eq_ok.mp h
  obtain rfl := queryCandidates_eq_ok hqueried
  use db, store, revision
  constructor <;> assumption

/-- Where something is not read, nothing is answered. -/
theorem answerV1_of_not_reads {request : FederationQueryRequestV1} {limit : Nat}
    (h : ¬ ∃ db store revision, Reads ext vault config db store revision) :
  answerV1 (runQuery ext toLowercase vault config request limit) = (false, [])
  := by
  cases hrun : runQuery ext toLowercase vault config request limit with
  | error e => rfl
  | ok result => exact absurd (reads_of_runQuery hrun) h

theorem answerV2_runQueryV2 {request : FederationQueryRequestV2}
    {revision : FederationSourceRevisionV1} (h : Reads ext vault config db store revision)
    (hload : loadDocumentLifecycleEvents ext parse vault.ownerFaults db.toOwnerDb = .ok byDoc) :
  answerV2 (runQueryV2 ext parse toLowercase vault config request (clampedLimit request.limit))
    = outcome (fun items => (lefts items, rights items))
      (scan (findFactOrNotice ext toLowercase store vault.files byDoc request)
        (clampedLimit request.limit) ((candidateRows db).take MAX_SCAN_CANDIDATES))
  := by
  obtain ⟨room, hroom⟩ := Nat.exists_eq_add_one.mpr (clampedLimit_pos request.limit)
  rw [runQueryV2, h.opened, AppResult.ok_bind, h.stored, AppResult.ok_bind, h.snapshot,
    AppResult.ok_bind, hload, AppResult.ok_bind, h.revised, AppResult.ok_bind, h.queried,
    AppResult.ok_bind, hroom, collectFactsAndNotices_eq_scan (by rw [List.length_nil,
      List.length_nil, Nat.zero_add])]
  cases scan (findFactOrNotice ext toLowercase store vault.files byDoc request) (room + 1)
      ((candidateRows db).take MAX_SCAN_CANDIDATES) with
  | error e => rfl
  | ok items =>
    change answerV2 (closeSnapshot vault >>= _) = _
    rw [h.closed, AppResult.ok_bind]
    rfl

theorem answerV2_of_not_reads {request : FederationQueryRequestV2}
    (h : ¬ ∃ db store revision byDoc, Reads ext vault config db store revision
      ∧ loadDocumentLifecycleEvents ext parse vault.ownerFaults db.toOwnerDb = .ok byDoc) :
  answerV2 (runQueryV2 ext parse toLowercase vault config request (clampedLimit request.limit))
    = (false, [], [])
  := by
  cases hrun : runQueryV2 ext parse toLowercase vault config request
      (clampedLimit request.limit) with
  | error e => rfl
  | ok result =>
    obtain ⟨db, store, byDoc, revision, items, hfinds, -⟩ := runQueryV2_eq_ok hrun
    exact absurd ⟨db, store, revision, byDoc, hfinds.toReads, hfinds.loaded⟩ h

theorem answerV1_eq_iff {request : FederationQueryRequestV1} {key : String}
    {revision : FederationSourceRevisionV1} (h : Reads ext vault config db store revision) :
  answerV1 (runQuery ext toLowercase vault config request (clampedLimit request.limit))
      = answerV1 (runQuery ext toLowercase vault config (request.withKey key)
        (clampedLimit request.limit))
    ↔ AlikeIn (fun _ => Unreadable ext store vault.files)
        (isMatch ext toLowercase store vault.files) (clampedLimit request.limit)
        ((candidateRows db).take MAX_SCAN_CANDIDATES) request.projectKey key
  := by
  have hunreadable (request : FederationQueryRequestV1) :
      (fun row => ∃ e, findFact ext toLowercase store vault.files request row = .error e)
        = Unreadable ext store vault.files := by
    funext row
    exact propext findFact_error_iff
  have hkey : answerV1 (runQuery ext toLowercase vault config (request.withKey key)
        (clampedLimit request.limit))
      = outcome id (scan (findFact ext toLowercase store vault.files (request.withKey key))
        (clampedLimit request.limit) ((candidateRows db).take MAX_SCAN_CANDIDATES)) :=
    answerV1_runQuery h
  have hid {request : FederationQueryRequestV1} (row : CandidateRow) (fact : FederationFactV1)
      (hfact : findFact ext toLowercase store vault.files request row = .ok (some fact)) :
      fact.sourceItemId = row.docId := by
    obtain ⟨text, -, rfl⟩ := findFact_eq_some hfact
    rfl
  rw [answerV1_runQuery h, hkey, outcome_eq_iff (f := CandidateRow.docId)
    (g := FederationFactV1.sourceItemId) ((pairwise_docId_candidateRows db).sublist
      (List.take_sublist MAX_SCAN_CANDIDATES _)) (fun _ _ => isSome_of_findFact)
    (fun _ _ => isSome_of_findFact) hid hid, hunreadable, hunreadable]
  · rfl
  · intro row fact fact' hfact hfact'
    obtain ⟨text, htext, rfl⟩ := findFact_eq_some hfact
    obtain ⟨text', htext', rfl⟩ := findFact_eq_some hfact'
    obtain rfl := Except.ok.inj (htext.symm.trans htext')
    rfl
  · rintro out _ rfl docId
    rfl

theorem answerV2_eq_iff {request : FederationQueryRequestV2} {key : String}
    {revision : FederationSourceRevisionV1} (h : Reads ext vault config db store revision)
    (hload : loadDocumentLifecycleEvents ext parse vault.ownerFaults db.toOwnerDb = .ok byDoc) :
  answerV2 (runQueryV2 ext parse toLowercase vault config request (clampedLimit request.limit))
      = answerV2 (runQueryV2 ext parse toLowercase vault config (request.withKey key)
        (clampedLimit request.limit))
    ↔ AlikeIn (Unanswerable ext toLowercase store vault.files byDoc)
        (isMatch ext toLowercase store vault.files) (clampedLimit request.limit)
        ((candidateRows db).take MAX_SCAN_CANDIDATES) request.projectKey key
  := by
  have hunanswerable (request : FederationQueryRequestV2) :
      (fun row => ∃ e, findFactOrNotice ext toLowercase store vault.files byDoc request row
          = .error e)
        = Unanswerable ext toLowercase store vault.files byDoc request.projectKey := by
    funext row
    exact propext findFactOrNotice_error_iff
  have hkey : answerV2 (runQueryV2 ext parse toLowercase vault config (request.withKey key)
        (clampedLimit request.limit))
      = outcome (fun items => (lefts items, rights items))
        (scan (findFactOrNotice ext toLowercase store vault.files byDoc (request.withKey key))
          (clampedLimit request.limit) ((candidateRows db).take MAX_SCAN_CANDIDATES)) :=
    answerV2_runQueryV2 h hload
  rw [answerV2_runQueryV2 h hload, hkey, outcome_eq_iff (f := CandidateRow.docId) (g := itemId)
    ((pairwise_docId_candidateRows db).sublist (List.take_sublist MAX_SCAN_CANDIDATES _))
    (fun _ _ => isSome_of_findFactOrNotice) (fun _ _ => isSome_of_findFactOrNotice)
    (fun _ _ => itemId_of_findFactOrNotice hload) (fun _ _ => itemId_of_findFactOrNotice hload),
    hunanswerable, hunanswerable]
  · rfl
  · intro row item item'
    exact findFactOrNotice_agree rfl
  · intro out out' hview docId
    obtain ⟨hlefts, hrights⟩ := Prod.mk.inj hview
    rw [mem_map_itemId, mem_map_itemId, hlefts, hrights]

/-! ### Services -/

/-- Checking a request sees its key without the blanks around it. -/
theorem validate_trim {schema schemaVersion key key' : String} {limit : Nat} {observedAtMs : Int64}
    (h : trim key = trim key') :
  validate schema schemaVersion key limit observedAtMs
    = validate schema schemaVersion key' limit observedAtMs
  := by rw [validate, validate, h]

theorem map_answer_federationQueryService {request : FederationQueryRequestV1} {limit : Nat}
    (h : validateRequest request = .ok limit) :
  (federationQueryService ext toLowercase vault request).map (·.answer)
    = (mapErr publicVaultOpenError (Vault.vaultOpen vault.host vault.dir)).map fun config =>
      answerV1 (runQuery ext toLowercase vault config request (clampedLimit request.limit))
  := by
  obtain rfl := validate_eq_ok h
  rw [federationQueryService, h, AppResult.ok_bind]
  cases mapErr publicVaultOpenError (Vault.vaultOpen vault.host vault.dir) with
  | error e => rfl
  | ok config =>
    rw [AppResult.ok_bind]
    change _ = Except.ok (answerV1 (runQuery ext toLowercase vault config request
      (clampedLimit request.limit)))
    cases runQuery ext toLowercase vault config request (clampedLimit request.limit) <;> rfl

theorem map_answer_federationQueryServiceV2 {request : FederationQueryRequestV2} {limit : Nat}
    (h : validateRequestV2 request = .ok limit) :
  (federationQueryServiceV2 ext parse toLowercase vault request).map (·.answer)
    = (mapErr publicVaultOpenError (Vault.vaultOpen vault.host vault.dir)).map fun config =>
      answerV2 (runQueryV2 ext parse toLowercase vault config request
        (clampedLimit request.limit))
  := by
  obtain rfl := validate_eq_ok h
  rw [federationQueryServiceV2, h, AppResult.ok_bind]
  cases mapErr publicVaultOpenError (Vault.vaultOpen vault.host vault.dir) with
  | error e => rfl
  | ok config =>
    rw [AppResult.ok_bind]
    change _ = Except.ok (answerV2 (runQueryV2 ext parse toLowercase vault config request
      (clampedLimit request.limit)))
    cases runQueryV2 ext parse toLowercase vault config request (clampedLimit request.limit)
      <;> rfl

/-- Nothing is answered to a delegated read that is not let through. -/
theorem answer_of_refusal {sessionId : String} {authorizedAtMs : Int64}
    {request : FederationQueryRequestV2} {result : FederationQueryResultV2}
    (h : refusal parse vault config db sessionId authorizedAtMs request = some result) :
  result.answer = (false, [], [])
  := by
  have hnot := not_discloses_refusal h
  rw [Discloses, not_or, not_or, not_or, not_or, not_not, not_not] at hnot
  obtain ⟨hfacts, hnotices, -, -, hparticipated⟩ := hnot
  rw [FederationQueryResultV2.answer, hfacts, hnotices, Bool.eq_false_of_not_eq_true hparticipated]

open Classical in
theorem map_answer_authorized {sessionId : String} {authorizedAtMs : Int64}
    {request : FederationQueryRequestV2} {limit : Nat}
    (h : validateRequestV2 request = .ok limit) :
  (federationQueryServiceV2Authorized ext parse toLowercase vault sessionId authorizedAtMs
      request).map (·.answer)
    = (mapErr publicVaultOpenError (Vault.vaultOpen vault.host vault.dir)).map fun config =>
      if LetThrough parse vault sessionId authorizedAtMs request then
        answerV2 (runQueryV2 ext parse toLowercase vault config request
          (clampedLimit request.limit))
      else (false, [], [])
  := by
  obtain rfl := validate_eq_ok h
  rw [federationQueryServiceV2Authorized, h, AppResult.ok_bind]
  cases hconfig : Vault.vaultOpen vault.host vault.dir with
  | error e => rfl
  | ok config =>
    rw [mapErr_ok, AppResult.ok_bind]
    change _ = Except.ok (if LetThrough parse vault sessionId authorizedAtMs request then
        answerV2 (runQueryV2 ext parse toLowercase vault config request
          (clampedLimit request.limit))
      else (false, [], []))
    have hthrough : LetThrough parse vault sessionId authorizedAtMs request ↔ ∃ db,
        openDbReadonly vault (vault.faults .authorizeQueryOnly) (vault.dbPath config) = .ok db
          ∧ refusal parse vault config db sessionId authorizedAtMs request = none := by
      constructor
      · rintro ⟨config', db, hconfig', hdb, hrefusal⟩
        obtain rfl := Except.ok.inj (hconfig.symm.trans hconfig')
        use db, hdb
      · rintro ⟨db, hdb, hrefusal⟩
        use config, db, hconfig, hdb
    cases hopened : openDbReadonly vault (vault.faults .authorizeQueryOnly)
        (vault.dbPath config) with
    | error e =>
      rw [if_neg]
      · rfl
      · rw [hthrough, hopened]
        rintro ⟨db, ⟨⟩, -⟩
    | ok db =>
      dsimp only
      cases hrefusal : refusal parse vault config db sessionId authorizedAtMs request with
      | some result =>
        rw [if_neg]
        · exact congrArg Except.ok (answer_of_refusal hrefusal)
        · rw [hthrough, hopened]
          rintro ⟨db', hdb, hnone⟩
          obtain rfl := Except.ok.inj hdb
          rw [hrefusal] at hnone
          cases hnone
      | none =>
        rw [if_pos (hthrough.mpr ⟨db, hopened, hrefusal⟩)]
        cases runQueryV2 ext parse toLowercase vault config request
          (clampedLimit request.limit) <;> rfl

theorem trim_padded {before after : String} (key : String)
    (hbefore : ∀ c ∈ before.toList, isWhitespace c = true)
    (hafter : ∀ c ∈ after.toList, isWhitespace c = true) :
  trim (before ++ key ++ after) = trim key
  := by
  have hboth : Trim.both isWhitespace (before ++ key ++ after).toList
      = Trim.both isWhitespace key.toList := by
    rw [String.toList_append, String.toList_append, Trim.both_append_right hafter,
      Trim.both_append_left hbefore]
  exact congrArg String.ofList hboth

theorem map_eq_map_iff {α γ : Type} {x : AppResult α} {f g : α → γ} :
  x.map f = x.map g ↔ ∀ a, x = .ok a → f a = g a
  := by
  cases x with
  | error e =>
    constructor
    · rintro - a ⟨⟩
    · intro _
      rfl
  | ok a =>
    constructor
    · rintro h _ ⟨⟩
      exact Except.ok.inj h
    · intro h
      exact congrArg Except.ok (h a rfl)

theorem refusal_withKey {sessionId : String} {authorizedAtMs : Int64}
    {request : FederationQueryRequestV2} {key : String} (h : trim key = trim request.projectKey) :
  refusal parse vault config db sessionId authorizedAtMs (request.withKey key)
    = refusal parse vault config db sessionId authorizedAtMs request
  := by
  rw [refusal, refusal, FederationQueryRequestV2.withKey, h]
  rfl

/-- A query answers alike with blanks around its key and without exactly when the documents that
it reads mention the two alike. A delegated one that is not let through to them always does. -/
theorem padding_ignored_iff (ext : Externals) (parse : JsonParser)
    (toLowercase : String → String) (vault : FederationVault) (before after : String)
    (hbefore : ∀ c ∈ before.toList, isWhitespace c = true)
    (hafter : ∀ c ∈ after.toList, isWhitespace c = true) :
  (∀ request : FederationQueryRequestV1, (validateRequest request).isOk = true →
      let padded := before ++ request.projectKey ++ after
      ((federationQueryService ext toLowercase vault request).map (·.answer)
          = (federationQueryService ext toLowercase vault (request.withKey padded)).map (·.answer)
        ↔ AlikeV1 ext toLowercase vault request.limit request.projectKey padded))
    ∧ (∀ request : FederationQueryRequestV2, (validateRequestV2 request).isOk = true →
      let padded := before ++ request.projectKey ++ after
      ((federationQueryServiceV2 ext parse toLowercase vault request).map (·.answer)
          = (federationQueryServiceV2 ext parse toLowercase vault (request.withKey padded)).map
            (·.answer)
        ↔ AlikeV2 ext parse toLowercase vault request.limit request.projectKey padded))
    ∧ ∀ sessionId authorizedAtMs, ∀ request : FederationQueryRequestV2,
      (validateRequestV2 request).isOk = true →
      let padded := before ++ request.projectKey ++ after
      ((federationQueryServiceV2Authorized ext parse toLowercase vault sessionId authorizedAtMs
            request).map (·.answer)
          = (federationQueryServiceV2Authorized ext parse toLowercase vault sessionId
            authorizedAtMs (request.withKey padded)).map (·.answer)
        ↔ (LetThrough parse vault sessionId authorizedAtMs request →
          AlikeV2 ext parse toLowercase vault request.limit request.projectKey padded))
  := by
  have hruns (request : FederationQueryRequestV2) (key : String) :
      (∀ config, mapErr publicVaultOpenError (Vault.vaultOpen vault.host vault.dir) = .ok config →
        answerV2 (runQueryV2 ext parse toLowercase vault config request
            (clampedLimit request.limit))
          = answerV2 (runQueryV2 ext parse toLowercase vault config (request.withKey key)
            (clampedLimit request.limit)))
      ↔ AlikeV2 ext parse toLowercase vault request.limit request.projectKey key := by
    constructor
    · intro h config db store revision byDoc hconfig hreads hload
      exact (answerV2_eq_iff hreads hload).mp (h config (mapErr_eq_ok.mpr hconfig))
    · intro h config hconfig
      by_cases hreads : ∃ db store revision byDoc, Reads ext vault config db store revision
          ∧ loadDocumentLifecycleEvents ext parse vault.ownerFaults db.toOwnerDb = .ok byDoc
      · obtain ⟨db, store, revision, byDoc, hreads, hload⟩ := hreads
        exact (answerV2_eq_iff hreads hload).mpr
          (h config db store revision byDoc (mapErr_eq_ok.mp hconfig) hreads hload)
      · rw [answerV2_of_not_reads hreads]
        exact (answerV2_of_not_reads hreads).symm
  refine ⟨?_, ?_, ?_⟩
  · intro request haccepted padded
    obtain ⟨limit, hlimit⟩ := exists_of_isOk haccepted
    have hpadded : validateRequest (request.withKey padded) = .ok limit := by
      rw [← hlimit]
      exact validate_trim (trim_padded request.projectKey hbefore hafter)
    rw [map_answer_federationQueryService hlimit, map_answer_federationQueryService hpadded,
      map_eq_map_iff]
    constructor
    · intro h config db store revision hconfig hreads
      exact (answerV1_eq_iff hreads).mp (h config (mapErr_eq_ok.mpr hconfig))
    · intro h config hconfig
      by_cases hreads : ∃ db store revision, Reads ext vault config db store revision
      · obtain ⟨db, store, revision, hreads⟩ := hreads
        exact (answerV1_eq_iff hreads).mpr
          (h config db store revision (mapErr_eq_ok.mp hconfig) hreads)
      · rw [answerV1_of_not_reads hreads, answerV1_of_not_reads hreads]
  · intro request haccepted padded
    obtain ⟨limit, hlimit⟩ := exists_of_isOk haccepted
    have hpadded : validateRequestV2 (request.withKey padded) = .ok limit := by
      rw [← hlimit]
      exact validate_trim (trim_padded request.projectKey hbefore hafter)
    rw [map_answer_federationQueryServiceV2 hlimit, map_answer_federationQueryServiceV2 hpadded,
      map_eq_map_iff, ← hruns]
    rfl
  · intro sessionId authorizedAtMs request haccepted padded
    obtain ⟨limit, hlimit⟩ := exists_of_isOk haccepted
    have htrim : trim padded = trim request.projectKey :=
      trim_padded request.projectKey hbefore hafter
    have hpadded : validateRequestV2 (request.withKey padded) = .ok limit := by
      rw [← hlimit]
      exact validate_trim htrim
    have hthrough : LetThrough parse vault sessionId authorizedAtMs (request.withKey padded)
        ↔ LetThrough parse vault sessionId authorizedAtMs request := by
      simp only [LetThrough, refusal_withKey htrim]
    rw [map_answer_authorized hlimit, map_answer_authorized hpadded, map_eq_map_iff, ← hruns]
    by_cases hlet : LetThrough parse vault sessionId authorizedAtMs request
    · simp only [if_pos hlet, if_pos (hthrough.mpr hlet)]
      exact ⟨fun h _ => h, fun h => h hlet⟩
    · simp only [if_neg hlet, if_neg (mt hthrough.mp hlet)]
      exact iff_of_true (fun _ _ => trivial) fun h => absurd h hlet

/-- In a vault without documents the blanks make no difference. -/
theorem padding_ignored_emptied :
  (federationQueryServiceV2 KnowledgeCore.Sample.ext JsonText.parse id
      (Sample.federationVault Sample.emptiedDb) Sample.queryV2).map (·.answer)
    = (federationQueryServiceV2 KnowledgeCore.Sample.ext JsonText.parse id
      (Sample.federationVault Sample.emptiedDb) (Sample.queryV2.withKey (" " ++ "a/b" ++ ""))).map
        (·.answer)
  := by
  apply ((padding_ignored_iff KnowledgeCore.Sample.ext JsonText.parse id
    (Sample.federationVault Sample.emptiedDb) " " "" (List.all_eq_true.mp (by decide))
    (List.all_eq_true.mp (by decide))).2.1 Sample.queryV2
      (by decide +kernel)).mpr
  intro config db store revision byDoc hconfig hreads hload
  obtain rfl := Except.ok.inj
    (hreads.opened.symm.trans (Sample.openDbReadonly_eq Sample.emptiedDb _ rfl))
  have hrows : candidateRows Sample.emptiedDb = [] := rfl
  rw [hrows]
  right
  use not_blocked_nil, not_blocked_nil
  rfl

/-- A document is answered about under its key, and is not with a blank before the key. -/
theorem padding_hides_document :
  let vault := Sample.federationVault Sample.mentioningDb
  let padded := " " ++ "a/b" ++ ""
  (federationQueryService KnowledgeCore.Sample.ext id vault Sample.queryV2.asV1).map (·.answer)
      ≠ (federationQueryService KnowledgeCore.Sample.ext id vault
        (Sample.queryV2.asV1.withKey padded)).map (·.answer)
    ∧ (federationQueryServiceV2 KnowledgeCore.Sample.ext JsonText.parse id vault
          Sample.queryV2).map (·.answer)
      ≠ (federationQueryServiceV2 KnowledgeCore.Sample.ext JsonText.parse id vault
        (Sample.queryV2.withKey padded)).map (·.answer)
    ∧ (federationQueryServiceV2Authorized KnowledgeCore.Sample.ext JsonText.parse id vault
          KnowledgeCore.Sample.sessionId 5 Sample.queryV2).map (·.answer)
      ≠ (federationQueryServiceV2Authorized KnowledgeCore.Sample.ext JsonText.parse id vault
        KnowledgeCore.Sample.sessionId 5 (Sample.queryV2.withKey padded)).map (·.answer)
  := by
  have hdiffers {γ : Type} (facts : γ → Nat) {x y : AppResult γ}
      (hx : x.toOption.any (fun a => facts a == 1) = true)
      (hy : y.toOption.any (fun a => facts a == 1) = false) : x ≠ y := by
    rintro rfl
    rw [hx] at hy
    cases hy
  refine ⟨?_, ?_, ?_⟩
  · apply hdiffers fun answer => answer.2.length
    · decide +kernel
    · decide +kernel
  · apply hdiffers fun answer => answer.2.1.length
    · decide +kernel
    · decide +kernel
  · apply hdiffers fun answer => answer.2.1.length
    · decide +kernel
    · decide +kernel

end Federation

end KnowledgeCore
