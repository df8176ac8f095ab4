import KnowledgeCore.JsonParser
import KnowledgeCore.Lifecycle.Document

/-!
# What an append does

An append of a lifecycle event either fails and leaves the database as it was, or is denied by the
policies and leaves the record of the denial, or goes through and leaves the record of the
allowance and one more event.
-/

namespace KnowledgeCore

namespace LineagePolicy

/-- The codes of the errors of actions that are not allowed. -/
def denialCodes : List String :=
  ["KC_LINEAGE_POLICY_DENY_ENFORCED", "KC_LINEAGE_PERMISSION_DENIED"]

theorem policyDenied_code (decision : LineagePolicyDecisionV3) :
  (policyDenied decision).code ∈ denialCodes
  := by
  rw [policyDenied, policyError, denialCodes]
  split <;> simp

theorem decisionDetails_hasFloat (decision : LineagePolicyDecisionV3) :
  CanonJson.hasFloat (.obj (decisionDetails decision)) = false
  := by
  have hoption (s : Option String) : CanonJson.hasFloat (.ofOption s) = false := by
    cases s <;> rfl
  simp only [decisionDetails, CanonJson.hasFloat, CanonJson.membersHaveFloat, hoption,
    Bool.or_false]

/-- What is put on record of a decision. -/
structure Records (decision : LineagePolicyDecisionV3) (nowMs : Int64)
    (row : LineagePolicyAuditRow) : Prop where
  tsMs : row.tsMs = nowMs
  subjectId : row.subjectId = decision.subjectId
  action : row.action = decision.action
  docId : row.docId = decision.docId
  allowed : row.allowed = decision.allowed

/-- A decision is put on record, unless the statement fails with an error that is no denial. -/
theorem writePolicyAudit_cases (faults : Faults) (decision : LineagePolicyDecisionV3)
    (nowMs : Int64) (db : OwnerDb) :
  (∃ e, writePolicyAudit faults decision nowMs db = .error e ∧ e.code ∉ denialCodes)
    ∨ ∃ row, Records decision nowMs row ∧ writePolicyAudit faults decision nowMs db
        = .ok { db with lineagePolicyAudit := db.lineagePolicyAudit ++ [row] }
  := by
  obtain ⟨detailsJson, hdetails⟩ :=
    CanonJson.toCanonicalBytes_ok_of_not_hasFloat (decisionDetails_hasFloat decision)
  simp only [writePolicyAudit, hdetails, AppResult.ok_bind]
  cases faults .insertAudit with
  | some error =>
    left
    use policyError "KC_LINEAGE_QUERY_FAILED" "failed writing lineage policy audit row"
      [("error", .str error)], rfl
    simp [policyError, denialCodes]
  | none =>
    right
    exact ⟨_, ⟨rfl, rfl, rfl, rfl, rfl⟩, rfl⟩

/-- A decision is about what was asked. -/
theorem lineagePolicyDecision_eq_ok {parse : JsonParser} {faults : Faults} {db : OwnerDb}
    {subjectId action : String} {docId : Option String} {decision : LineagePolicyDecisionV3}
    (h : lineagePolicyDecision parse faults db subjectId action docId = .ok decision) :
  isBlank subjectId = false ∧ decision.subjectId = subjectId ∧ decision.action = action
    ∧ decision.docId = docId
  := by
  rw [lineagePolicyDecision] at h
  split_ifs at h with hblank
  rw [not_or, Bool.not_eq_true] at hblank
  use hblank.1
  obtain ⟨policies, -, h⟩ := AppResult.bind_eq_ok.mp h
  obtain ⟨⟨allow, deny⟩, -, h⟩ := AppResult.bind_eq_ok.mp h
  cases deny with
  | some deny =>
    cases h
    use rfl, rfl
  | none =>
    cases allow with
    | some allow =>
      cases h
      use rfl, rfl
    | none =>
      cases h
      use rfl, rfl

end LineagePolicy

namespace Lifecycle

open LineagePolicy (denialCodes policyDenied lineagePolicyDecision LineagePolicyDecisionV3)

variable {ext : Externals} {parse : JsonParser} {isUuid : String → Bool} {faults : Faults}
  {request : DocumentLifecycleMutationRequestV1} {db : OwnerDb}

/-- What the policies decide on a request of a subject. -/
def decisionOn (parse : JsonParser) (faults : Faults)
    (request : DocumentLifecycleMutationRequestV1) (subject : String) (db : OwnerDb) :
  AppResult LineagePolicyDecisionV3
  :=
  lineagePolicyDecision parse faults db subject DOCUMENT_LIFECYCLE_WRITE_ACTION
    (some request.docId)

/-- The error is the denial of a request by the policies. -/
def Denied (parse : JsonParser) (faults : Faults) (request : DocumentLifecycleMutationRequestV1)
    (db : OwnerDb) (e : AppError) : Prop :=
  ∃ session decision,
    Trust.authenticateIdentitySession parse faults db request.sessionId request.effectiveAtMs
        = .ok session
      ∧ decisionOn parse faults request session.subject db = .ok decision
      ∧ decision.allowed = false ∧ e = policyDenied decision

/-- The database with one more decision on record. -/
def withAudit (db : OwnerDb) (row : LineagePolicyAuditRow) : OwnerDb :=
  { db with lineagePolicyAudit := db.lineagePolicyAudit ++ [row] }

/-- The outcomes of an append. -/
inductive Outcome (ext : Externals) (parse : JsonParser) (isUuid : String → Bool)
    (faults : Faults) (request : DocumentLifecycleMutationRequestV1) (db : OwnerDb) :
    AppResult DocumentLifecycleEventV1 × OwnerDb → Prop
  | failed (e : AppError) (h : ¬ Denied parse faults request db e) :
    Outcome ext parse isUuid faults request db (.error e, db)
  | denied (e : AppError) (row : LineagePolicyAuditRow)
      (h : Denied parse faults request db e)
      (hrow : row.tsMs = request.effectiveAtMs ∧ row.action = DOCUMENT_LIFECYCLE_WRITE_ACTION
        ∧ row.docId = some request.docId ∧ row.allowed = false) :
    Outcome ext parse isUuid faults request db (.error e, withAudit db row)
  | appended (session : Trust.IdentitySessionRecord) (row : LineagePolicyAuditRow)
      (payload : DocumentLifecyclePayloadV1) (record : EventRecord) (events : EventTable)
      (hvalid : validateRequest isUuid request = .ok ())
      (hsession : Trust.authenticateIdentitySession parse faults db request.sessionId
        request.effectiveAtMs = .ok session)
      (hsubject : isBlank session.subject = false)
      (hpayload : payloadFor ext parse faults request session.subject (withAudit db row)
        = .ok payload)
      (hrecord : appendEvent ext (faults .insertEvent) request.effectiveAtMs
        request.action.eventType payload.toValue db.events = .ok (record, events)) :
    Outcome ext parse isUuid faults request db
      (.ok (publicEvent ext record payload), { withAudit db row with events })

theorem not_denied_of_code {e : AppError} (h : e.code ∉ denialCodes) :
  ¬ Denied parse faults request db e
  := by
  rintro ⟨_, decision, -, -, -, rfl⟩
  apply h (LineagePolicy.policyDenied_code decision)

theorem requestInvalid_code (message : String) :
  (requestInvalid message).code ∉ denialCodes
  := by
  simp [requestInvalid, lifecycleError, denialCodes]

theorem writeFailed_code (message : String) :
  (writeFailed message).code ∉ denialCodes
  := by
  simp [writeFailed, lifecycleError, denialCodes]

theorem validateRequest_code {e : AppError} (h : validateRequest isUuid request = .error e) :
  e.code ∉ denialCodes
  := by
  rw [validateRequest] at h
  split at h
  · cases h
    apply requestInvalid_code
  · cases haction : request.action with
    | supersede =>
      rw [haction] at h
      cases hreplacement : request.replacementDocId with
      | none =>
        rw [hreplacement] at h
        cases h
        apply requestInvalid_code
      | some replacement =>
        simp only [hreplacement, okOrElse_some, AppResult.ok_bind] at h
        split_ifs at h
        cases h
        apply requestInvalid_code
    | tombstone =>
      simp only [haction] at h
      split_ifs at h
      cases h
      apply requestInvalid_code

/-- What an authorized request leads to when it goes through. -/
theorem appendAuthorized_eq_ok {subject : String} {event : DocumentLifecycleEventV1}
    {after : OwnerDb}
    (h : appendAuthorized ext parse faults request subject db = .ok (event, after)) :
  ∃ payload record events, payloadFor ext parse faults request subject db = .ok payload
    ∧ appendEvent ext (faults .insertEvent) request.effectiveAtMs request.action.eventType
        payload.toValue db.events = .ok (record, events)
    ∧ event = publicEvent ext record payload ∧ after = { db with events }
  := by
  simp only [appendAuthorized, AppResult.bind_eq_ok, attempt_eq_ok] at h
  obtain ⟨payload, hpayload, ⟨record, events⟩, hrecord, -, h⟩ := h
  cases h
  use payload, record, events, hpayload, hrecord

/-- An append has one of the outcomes. -/
theorem outcome (ext : Externals) (parse : JsonParser) (isUuid : String → Bool)
    (faults : Faults) (request : DocumentLifecycleMutationRequestV1) (db : OwnerDb) :
  Outcome ext parse isUuid faults request db
    (appendDocumentLifecycleEvent ext parse isUuid faults request db)
  := by
  rw [appendDocumentLifecycleEvent]
  cases hvalid : validateRequest isUuid request with
  | error e =>
    apply Outcome.failed
    apply not_denied_of_code (validateRequest_code hvalid)
  | ok u =>
    cases hbegin : faults .begin with
    | some error =>
      apply Outcome.failed
      apply not_denied_of_code (writeFailed_code _)
    | none =>
      simp only [AppResult.ok_bind, attempt_none]
      cases hsession : Trust.authenticateIdentitySession parse faults db request.sessionId
          request.effectiveAtMs with
      | error e =>
        apply Outcome.failed
        rintro ⟨session, decision, hok, -⟩
        rw [hsession] at hok
        cases hok
      | ok session =>
        simp only [LineagePolicy.ensureLineagePolicyAllows]
        cases hdecision : lineagePolicyDecision parse faults db session.subject
            DOCUMENT_LIFECYCLE_WRITE_ACTION (some request.docId) with
        | error e =>
          have hnot (e : AppError) : ¬ Denied parse faults request db e := by
            rintro ⟨session', decision, hok, hdecided, -⟩
            rw [hsession] at hok
            cases hok
            rw [decisionOn, hdecision] at hdecided
            cases hdecided
          cases faults .commitDenial with
          | some error => apply Outcome.failed _ (hnot _)
          | none => apply Outcome.failed _ (hnot _)
        | ok decision =>
          obtain ⟨hsubject, -, haction, hdocId⟩ :=
            LineagePolicy.lineagePolicyDecision_eq_ok hdecision
          rcases LineagePolicy.writePolicyAudit_cases faults decision request.effectiveAtMs db
            with ⟨e, haudit, hcode⟩ | ⟨row, hrow, haudit⟩
          · simp only [haudit]
            cases faults .commitDenial with
            | some error => apply Outcome.failed _ (not_denied_of_code (writeFailed_code _))
            | none => apply Outcome.failed _ (not_denied_of_code hcode)
          · simp only [haudit]
            cases hallowed : decision.allowed with
            | false =>
              simp only [Bool.false_eq_true, if_false]
              cases faults .commitDenial with
              | some error => apply Outcome.failed _ (not_denied_of_code (writeFailed_code _))
              | none =>
                apply Outcome.denied _ row ⟨session, decision, hsession, hdecision, hallowed, rfl⟩
                use hrow.tsMs, hrow.action.trans haction, hrow.docId.trans hdocId
                use hrow.allowed.trans hallowed
            | true =>
              simp only [if_true]
              cases happend : appendAuthorized ext parse faults request session.subject
                  (withAudit db row) with
              | error e =>
                simp only [withAudit] at happend
                simp only [happend]
                apply Outcome.failed
                rintro ⟨session', decision', hok, hdecided, hdenied, -⟩
                rw [hsession] at hok
                cases hok
                rw [decisionOn, hdecision] at hdecided
                cases hdecided
                rw [hallowed] at hdenied
                cases hdenied
              | ok result =>
                obtain ⟨event, after⟩ := result
                obtain ⟨payload, record, events, hpayload, hrecord, rfl, rfl⟩ :=
                  appendAuthorized_eq_ok happend
                simp only [withAudit] at happend
                simp only [happend]
                apply Outcome.appended session row payload record events hvalid hsession
                  hsubject hpayload hrecord

/-- An append that fails leaves the tables as they were, except that the denial of a request is
put on record. -/
theorem append_error (ext : Externals) (parse : JsonParser) (isUuid : String → Bool)
    (faults : Faults) (request : DocumentLifecycleMutationRequestV1) (db : OwnerDb)
    (e : AppError)
    (h : (appendDocumentLifecycleEvent ext parse isUuid faults request db).1 = .error e) :
  (Denied parse faults request db e
      ∧ ∃ row : LineagePolicyAuditRow, row.tsMs = request.effectiveAtMs
        ∧ row.action = DOCUMENT_LIFECYCLE_WRITE_ACTION ∧ row.docId = some request.docId
        ∧ row.allowed = false
        ∧ (appendDocumentLifecycleEvent ext parse isUuid faults request db).2
          = { db with lineagePolicyAudit := db.lineagePolicyAudit ++ [row] })
    ∨ (¬ Denied parse faults request db e
      ∧ (appendDocumentLifecycleEvent ext parse isUuid faults request db).2 = db)
  := by
  have houtcome := outcome ext parse isUuid faults request db
  generalize appendDocumentLifecycleEvent ext parse isUuid faults request db = result
    at h houtcome
  cases houtcome with
  | failed e' hnot =>
    cases h
    right
    use hnot
  | denied e' row hdenied hrow =>
    cases h
    left
    use hdenied, row, hrow.1, hrow.2.1, hrow.2.2.1, hrow.2.2.2
    rfl
  | appended => cases h

end Lifecycle

/-! ### A sample -/

namespace Sample

open Lifecycle

/-- A hash that ends in the digits of a small number. -/
def smallHash (n : Nat) : String :=
  "blake3:" ++ String.ofList (List.replicate 62 '0'
    ++ [CanonJson.hexDigit (n / 16), CanonJson.hexDigit (n % 16)])

def sessionId : String := "00000000-0000-4000-8000-000000000000"

def isUuid (s : String) : Bool := s = sessionId

/-- A document whose canonical text has its own hash. -/
def canonicalRow (hash : String) : CanonicalTextRow where
  canonicalObjectHash := hash
  canonicalHash := hash
  extractorName := "plain"
  extractorVersion := "1"
  extractorFlagsJson := "\x7b\x7d"
  normalizationVersion := 1
  toolchainJson := "\x7b\x7d"
  createdEventId := 1

/-- The database of an owner with a session and some documents. -/
def ownerDb (subject : String) (docs : List String) (policies : List LineagePolicyBindingRow) :
    OwnerDb where
  __ := { db with
    canonicalText := docs.foldl (fun t doc => t.insert doc (canonicalRow doc)) ∅
    trustProviders := (∅ : Table TrustProviderRow).insert "default" { enabled := true }
    identitySessions := (∅ : Table IdentitySessionRow).insert sessionId {
      providerId := "default"
      subject
      claimSubsetJson := "\x7b\x7d"
      issuedAtMs := 0
      expiresAtMs := 1000
      createdAtMs := 0 } }
  events := .empty
  trustProviderPolicies := ∅
  lineagePolicies := (∅ : Table LineagePolicyRow).insert "policy" {
    policyName := "everything"
    effect := "allow"
    priority := 200
    conditionJson := "\x7b\x7d"
    createdBy := "owner"
    createdAtMs := 0 }
  lineagePolicyBindings := policies
  lineagePolicyAudit := []

/-- A request to supersede one document by another. -/
def supersede (docId replacementDocId : String) (at_ : Int64) :
    DocumentLifecycleMutationRequestV1 where
  schemaVersion := DOCUMENT_LIFECYCLE_REQUEST_SCHEMA
  action := .supersede
  docId
  replacementDocId := some replacementDocId
  sessionId
  reason := "newer version"
  effectiveAtMs := at_

/-- The denial of a subject to which no policy is bound. -/
def denial : AppError :=
  LineagePolicy.policyDenied {
    subjectId := "owner"
    action := DOCUMENT_LIFECYCLE_WRITE_ACTION
    docId := some (smallHash 0)
    allowed := false
    reason := "no_matching_allow_policy"
    matchedPolicyId := none
    matchedPolicyName := none
    matchedEffect := none }

end Sample

namespace Lifecycle

theorem append_error_unbound_subject :
  let db := Sample.ownerDb "owner" [Sample.smallHash 0, Sample.smallHash 1] []
  let request := Sample.supersede (Sample.smallHash 0) (Sample.smallHash 1) 5
  let result :=
    appendDocumentLifecycleEvent Sample.ext JsonText.parse Sample.isUuid noFaults request db
  (Denied JsonText.parse noFaults request db Sample.denial
      ∧ ∃ row : LineagePolicyAuditRow, row.tsMs = 5
        ∧ row.action = DOCUMENT_LIFECYCLE_WRITE_ACTION ∧ row.docId = some (Sample.smallHash 0)
        ∧ row.allowed = false
        ∧ result.2 = { db with lineagePolicyAudit := db.lineagePolicyAudit ++ [row] })
    ∨ (¬ Denied JsonText.parse noFaults request db Sample.denial ∧ result.2 = db)
  := by
  apply append_error
  rfl

end Lifecycle

end KnowledgeCore
