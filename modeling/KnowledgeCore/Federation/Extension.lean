import KnowledgeCore.Federation.Suppression

/-!
# The second version extends the first

Where the log has no lifecycle events, every step of the scan of the second version finds what the
first version finds in the same candidate. So the answers agree.
-/

namespace KnowledgeCore

namespace Federation

open Lifecycle Scan

variable {ext : Externals} {parse : JsonParser} {toLowercase : String → String}
  {vault : FederationVault} {config : VaultJsonV3} {db : FederationDb} {store : ObjectStore}
  {byDoc : EventsByDoc}

/-- The request of the first version that asks for the same. -/
def FederationQueryRequestV2.asV1 (request : FederationQueryRequestV2) :
    FederationQueryRequestV1 where
  schemaVersion := FEDERATION_QUERY_REQUEST_SCHEMA
  projectKey := request.projectKey
  includeContent := request.includeContent
  limit := request.limit
  observedAtMs := request.observedAtMs

/-- The fact of the second version that says the same of an active document. -/
def FederationFactV1.asActive (fact : FederationFactV1) : FederationFactV2 where
  toFederationFactV1 := fact
  lifecycleState := .active

/-- No event in the log of the vault is about the lifecycle of a document. -/
def NoLifecycleEvents (vault : FederationVault) : Prop :=
  ∀ config fault db, Vault.vaultOpen vault.host vault.dir = .ok config →
    openDbReadonly vault fault (vault.dbPath config) = .ok db →
      ∀ row ∈ db.events.rows, ∀ record, row.decode = some record →
        isLifecycleType record.eventType = false

theorem lifecycleEvents_eq_nil {table : EventTable}
    (h : ∀ row ∈ table.rows, ∀ record, row.decode = some record →
      isLifecycleType record.eventType = false) (docId : String) :
  lifecycleEvents ext parse table docId = []
  := by
  have hentries : entries ext parse (table.rows.filterMap EventRow.decode) = [] := by
    apply List.filterMap_eq_nil_iff.mpr
    intro record hrecord
    obtain ⟨row, hrow, hdecode⟩ := List.mem_filterMap.mp hrecord
    rw [eventFromRecord, if_pos (h row hrow record hdecode)]
    rfl
  rw [lifecycleEvents, hentries]
  rfl

/-- An item is the fact that the first version has in its place. -/
def SameFact (item : FederationFactV2 ⊕ FederationLifecycleNoticeV2) (fact : FederationFactV1) :
    Prop :=
  item = .inl fact.asActive

theorem SameFact.lefts_eq {items : List (FederationFactV2 ⊕ FederationLifecycleNoticeV2)}
    {facts : List FederationFactV1} (h : List.Forall₂ SameFact items facts) :
  lefts items = facts.map FederationFactV1.asActive
  := by
  induction h with
  | nil => rfl
  | cons hitem _ ih => rw [hitem, lefts_cons_inl, ih, List.map_cons]

theorem SameFact.rights_eq {items : List (FederationFactV2 ⊕ FederationLifecycleNoticeV2)}
    {facts : List FederationFactV1} (h : List.Forall₂ SameFact items facts) :
  rights items = []
  := by
  induction h with
  | nil => rfl
  | cons hitem _ ih => rw [hitem, rights_cons_inl, ih]

/-- Without lifecycle events both versions find the same in a candidate. -/
theorem findFact_of_findFactOrNotice {request : FederationQueryRequestV2} {row : CandidateRow}
    {faults : Faults} {owner : OwnerDb}
    {found : Option (FederationFactV2 ⊕ FederationLifecycleNoticeV2)}
    (hload : loadDocumentLifecycleEvents ext parse faults owner = .ok byDoc)
    (hnone : lifecycleEvents ext parse owner.events row.docId = [])
    (h : findFactOrNotice ext toLowercase store vault.files byDoc request row = .ok found) :
  ∃ found', findFact ext toLowercase store vault.files request.asV1 row = .ok found'
    ∧ Option.Rel SameFact found found'
  := by
  obtain ⟨text, htext, h⟩ := AppResult.bind_eq_ok.mp h
  rw [findFact, htext, AppResult.ok_bind]
  split_ifs at h with hmentions
  · obtain rfl := Except.ok.inj h
    use none, if_pos hmentions
    apply Option.Rel.none
  · obtain ⟨resolution, hresolution, h⟩ := AppResult.bind_eq_ok.mp h
    obtain rfl := Except.ok.inj h
    have hactive : resolution.initialState = .active := by
      apply (initialState_eq_active hresolution).mpr
      rw [getElem?_load hload, if_pos hnone]
    use some (factV1 ext request.includeContent row text), if_neg hmentions
    apply Option.Rel.some
    rw [itemFor, if_neg (not_not.mpr hactive)]
    rfl

/-- The second version extends the first: where there are no lifecycle events it answers, if it
does from the vault, with the same facts, with no notices, and with the same state. -/
theorem extends_v1 (ext : Externals) (parse : JsonParser) (toLowercase : String → String)
    (vault : FederationVault) (request : FederationQueryRequestV2)
    (result : FederationQueryResultV2) (hnone : NoLifecycleEvents vault)
    (h : federationQueryServiceV2 ext parse toLowercase vault request = .ok result)
    (hparticipated : result.participated = true) :
  ∃ resultV1, federationQueryService ext toLowercase vault request.asV1 = .ok resultV1
    ∧ resultV1.participated = true
    ∧ result.facts = resultV1.facts.map FederationFactV1.asActive
    ∧ result.lifecycleNotices = []
    ∧ result.state = resultV1.state
  := by
  obtain ⟨config, hvalid, hconfig, h⟩ := federationQueryServiceV2_eq_ok h
  obtain ⟨db, store, byDoc, revision, items, hfinds, hanswers⟩ | ⟨habsent, -⟩ := h
  · obtain ⟨facts, hscan, hsame⟩ := scan_simulates (fun row _ found => by
      apply findFact_of_findFactOrNotice hfinds.loaded
      apply lifecycleEvents_eq_nil
      apply hnone _ _ _ hconfig hfinds.opened) hfinds.scanned
    obtain ⟨resultV1, hrun, hparticipatedV1, hfacts, hstate⟩ :=
      runQuery_of_reads (clampedLimit_pos request.limit) hfinds.toReads hscan
    use resultV1
    constructor
    · rw [federationQueryService, validateRequest]
      change validate _ FEDERATION_QUERY_REQUEST_SCHEMA request.projectKey request.limit
        request.observedAtMs >>= _ = _
      rw [validate_schema hvalid, AppResult.ok_bind, hconfig, mapErr_ok, AppResult.ok_bind, hrun]
    · use hparticipatedV1
      rw [hanswers.facts, hanswers.notices, SameFact.lefts_eq hsame, SameFact.rights_eq hsame,
        hfacts]
      use rfl, rfl
      rw [hanswers.state, hanswers.disposition, hstate, SameFact.lefts_eq hsame,
        SameFact.rights_eq hsame]
      obtain _ | ⟨fact, facts⟩ := facts
      · rfl
      · rfl
  · rw [habsent] at hparticipated
    cases hparticipated

theorem Sample.noLifecycleEvents :
  NoLifecycleEvents (Sample.federationVault Sample.mentioningDb)
  := by
  intro config fault db _ hopened row hrow
  obtain ⟨tables, key, ⟨⟩, -, hdb⟩ := openDbReadonly_eq_ok hopened
  dsimp only at hdb
  split_ifs at hdb
  obtain rfl := Option.some.inj hdb
  cases hrow

theorem extends_v1_mentioning :
  ∃ result, Sample.answer = .ok result ∧ ∃ resultV1,
    federationQueryService KnowledgeCore.Sample.ext id
        (Sample.federationVault Sample.mentioningDb) Sample.queryV2.asV1 = .ok resultV1
      ∧ resultV1.participated = true
      ∧ result.facts = resultV1.facts.map FederationFactV1.asActive
      ∧ result.lifecycleNotices = []
      ∧ result.state = resultV1.state
  := by
  obtain ⟨result, hresult, hfound⟩ := Sample.exists_answer
  use result, hresult
  apply extends_v1 _ _ _ _ _ _ Sample.noLifecycleEvents hresult (Bool.and_eq_true_iff.mp hfound).1

end Federation

end KnowledgeCore
