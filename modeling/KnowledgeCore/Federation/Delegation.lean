import KnowledgeCore.Federation.Access
import KnowledgeCore.Federation.Suppression
import KnowledgeCore.Lineage.Gate

/-!
# Delegated queries

A program that is not the owner learns something of the documents of a vault only if the identity
session it presents is good and the policies allow its subject to read. A denial depends on nothing
but the configuration of the vault and its tables of providers, sessions and policies.
-/

namespace KnowledgeCore

namespace Federation

open Lifecycle Trust

variable {ext : Externals} {parse : JsonParser} {toLowercase : String → String}
  {vault vault' : FederationVault} {config : VaultJsonV3} {db db' : FederationDb}
  {sessionId : String} {authorizedAtMs : Int64} {request : FederationQueryRequestV2}
  {result : FederationQueryResultV2}

/-! ### Who is allowed to read -/

/-- Something of the vault is disclosed. -/
def Discloses (result : FederationQueryResultV2) : Prop :=
  result.facts ≠ [] ∨ result.lifecycleNotices ≠ [] ∨ result.sourceRevision ≠ none
    ∨ result.binding ≠ none ∨ result.participated = true

/-- A session is good at a time, and the policies allow its subject to read under a key. -/
structure Authorized (parse : JsonParser) (db : FederationDb) (sessionId : String)
    (authorizedAtMs : Int64) (projectKey : String) (session : IdentitySessionRow)
    (provider : TrustProviderRow) (decision : LineagePolicy.LineagePolicyDecisionV3) : Prop where
  stored : db.identitySessions[sessionId]? = some session
  provided : db.trustProviders[session.providerId]? = some provider
  enabled : provider.enabled = true
  issued : session.issuedAtMs ≤ authorizedAtMs
  unexpired : authorizedAtMs ≤ session.expiresAtMs
  unrevoked : db.trustSessionRevocations.contains sessionId = false
  decided : LineagePolicy.lineagePolicyDecision parse noFaults db.toOwnerDb session.subject
    DOCUMENT_FEDERATION_READ_ACTION (some (trim projectKey)) = .ok decision
  allowed : decision.allowed = true

/-- A failure discloses nothing. -/
theorem not_discloses_delegatedFailureV2 (state : FederationSourceStateV1)
    (uncertainty : String) :
  ¬ Discloses (delegatedFailureV2 config request state uncertainty)
  := by
  rintro (h | h | h | h | h)
  · exact h rfl
  · exact h rfl
  · exact h rfl
  · exact h rfl
  · cases h

theorem enabledSession_eq_some {owner : OwnerDb} {record : IdentitySessionRecord}
    (h : enabledSession owner sessionId = some record) :
  ∃ session provider, owner.identitySessions[sessionId]? = some session
    ∧ owner.trustProviders[session.providerId]? = some provider ∧ provider.enabled = true
    ∧ record = {
        sessionId
        providerId := session.providerId
        subject := session.subject
        claimSubsetJson := session.claimSubsetJson
        issuedAtMs := session.issuedAtMs
        expiresAtMs := session.expiresAtMs
        createdAtMs := session.createdAtMs }
  := by
  obtain ⟨session, hsession, h⟩ := Option.bind_eq_some_iff.mp h
  obtain ⟨provider, hprovider, h⟩ := Option.bind_eq_some_iff.mp h
  split_ifs at h with henabled
  use session, provider, hsession, hprovider, henabled, (Option.some.inj h).symm

theorem unrevoked_of_ensureSessionPolicyAllows {faults : Faults} {owner : OwnerDb}
    {providerId claimSubsetJson : String} {issuedAtMs expiresAtMs nowMs : Int64} {u : Unit}
    (h : TrustPolicy.ensureSessionPolicyAllows parse faults owner providerId sessionId
      claimSubsetJson issuedAtMs expiresAtMs nowMs = .ok u) :
  owner.trustSessionRevocations.contains sessionId = false
  := by
  obtain ⟨revoked, hrevoked, h⟩ := AppResult.bind_eq_ok.mp h
  obtain ⟨-, hrevoked⟩ := attempt_eq_ok.mp hrevoked
  rw [Except.ok.inj hrevoked]
  split_ifs at h with hcontains
  apply Bool.eq_false_of_not_eq_true hcontains

/-- A refusal discloses nothing. -/
theorem not_discloses_refusal
    (h : refusal parse vault config db sessionId authorizedAtMs request = some result) :
  ¬ Discloses result
  := by
  rw [refusal] at h
  split at h
  · rw [← Option.some.inj h]
    apply not_discloses_delegatedFailureV2
  · split at h
    · rw [← Option.some.inj h]
      apply not_discloses_delegatedFailureV2
    · split_ifs at h
      rw [← Option.some.inj h]
      apply not_discloses_delegatedFailureV2

/-- Whoever is not refused is authorized. -/
theorem authorized_of_not_refused
    (h : refusal parse vault config db sessionId authorizedAtMs request = none) :
  ∃ session provider decision,
    Authorized parse db sessionId authorizedAtMs request.projectKey session provider decision
  := by
  rw [refusal] at h
  cases hauthenticate : authenticateIdentitySession parse vault.ownerFaults db.toOwnerDb
    sessionId authorizedAtMs with
  | error e =>
    rw [hauthenticate] at h
    cases h
  | ok record =>
    rw [hauthenticate] at h
    dsimp only at h
    cases hdecision : LineagePolicy.lineagePolicyDecision parse vault.ownerFaults db.toOwnerDb
      record.subject DOCUMENT_FEDERATION_READ_ACTION (some (trim request.projectKey)) with
    | error e =>
      rw [hdecision] at h
      cases h
    | ok decision =>
      rw [hdecision] at h
      dsimp only at h
      split_ifs at h with hallowed
      rw [authenticateIdentitySession] at hauthenticate
      split_ifs at hauthenticate
      obtain ⟨found, hfound, hauthenticate⟩ := AppResult.bind_eq_ok.mp hauthenticate
      obtain ⟨-, hfound⟩ := attempt_eq_ok.mp hfound
      obtain rfl := Except.ok.inj hfound
      obtain ⟨record', hrecord, hauthenticate⟩ := AppResult.bind_eq_ok.mp hauthenticate
      split_ifs at hauthenticate with hwindow
      obtain ⟨u, hensure, hauthenticate⟩ := AppResult.bind_eq_ok.mp hauthenticate
      obtain rfl := Except.ok.inj hauthenticate
      obtain ⟨session, provider, hstored, hprovided, henabled, rfl⟩ :=
        enabledSession_eq_some (okOrElse_eq_ok.mp hrecord)
      rw [not_or, Int64.not_lt, gt_iff_lt, Int64.not_lt] at hwindow
      use session, provider, decision, hstored, hprovided, henabled, hwindow.1, hwindow.2,
        unrevoked_of_ensureSessionPolicyAllows hensure,
        LineagePolicy.lineagePolicyDecision_noFaults hdecision

/-! ### What a denial depends on -/

/-- The statements that the authorization of a query consists of. -/
def AUTHORIZATION : List Statement :=
  [.session, .revocation, .providerPolicy, .policies]

/-- Two vaults with the same configuration, the databases of which both open and agree on the
providers, the sessions and the policies. -/
structure SameTrust (vault vault' : FederationVault) (config : VaultJsonV3)
    (db db' : FederationDb) : Prop where
  vaultJson : vault.dir.get Vault.vaultJsonPath = vault'.dir.get Vault.vaultJsonPath
  opened : openDbReadonly vault (vault.faults .authorizeQueryOnly) (vault.dbPath config) = .ok db
  opened' : openDbReadonly vault' (vault'.faults .authorizeQueryOnly) (vault'.dbPath config)
    = .ok db'
  trustProviders : db.trustProviders = db'.trustProviders
  trustProviderPolicies : db.trustProviderPolicies = db'.trustProviderPolicies
  identitySessions : db.identitySessions = db'.identitySessions
  trustSessionRevocations : db.trustSessionRevocations = db'.trustSessionRevocations
  lineagePolicies : db.lineagePolicies = db'.lineagePolicies
  lineagePolicyBindings : db.lineagePolicyBindings = db'.lineagePolicyBindings
  faults : ∀ statement ∈ AUTHORIZATION,
    vault.ownerFaults statement = vault'.ownerFaults statement

theorem SameTrust.authenticateIdentitySession_eq
    (h : SameTrust vault vault' config db db') (sessionId : String) (nowMs : Int64) :
  authenticateIdentitySession parse vault.ownerFaults db.toOwnerDb sessionId nowMs
    = authenticateIdentitySession parse vault'.ownerFaults db'.toOwnerDb sessionId nowMs
  := by
  have hsession := h.faults .session (by simp [AUTHORIZATION])
  have hrevocation := h.faults .revocation (by simp [AUTHORIZATION])
  have hproviderPolicy := h.faults .providerPolicy (by simp [AUTHORIZATION])
  simp only [authenticateIdentitySession, enabledSession, TrustPolicy.ensureSessionPolicyAllows,
    h.identitySessions, h.trustProviders, h.trustSessionRevocations, h.trustProviderPolicies,
    hsession, hrevocation, hproviderPolicy]

theorem SameTrust.lineagePolicyDecision_eq (h : SameTrust vault vault' config db db')
    (subjectId action : String) (docId : Option String) :
  LineagePolicy.lineagePolicyDecision parse vault.ownerFaults db.toOwnerDb subjectId action docId
    = LineagePolicy.lineagePolicyDecision parse vault'.ownerFaults db'.toOwnerDb subjectId action
      docId
  := by
  have hpolicies := h.faults .policies (by simp [AUTHORIZATION])
  simp only [LineagePolicy.lineagePolicyDecision, LineagePolicy.boundPolicies, h.lineagePolicies,
    h.lineagePolicyBindings, hpolicies]

theorem SameTrust.refusal_eq (h : SameTrust vault vault' config db db') :
  refusal parse vault config db sessionId authorizedAtMs request
    = refusal parse vault' config db' sessionId authorizedAtMs request
  := by
  simp only [refusal, h.authenticateIdentitySession_eq, h.lineagePolicyDecision_eq]

theorem vaultOpen_of_get_eq {host host' : Host} {dir dir' : Dir Content}
    (hget : dir.get Vault.vaultJsonPath = dir'.get Vault.vaultJsonPath)
    (h : Vault.vaultOpen host dir = .ok config) :
  Vault.vaultOpen host' dir' = .ok config
  := by
  obtain ⟨bytes, hbytes, h⟩ := AppResult.bind_eq_ok.mp h
  obtain ⟨value, hvalue, h⟩ := AppResult.bind_eq_ok.mp h
  obtain ⟨normalized, hnormalized, h⟩ := AppResult.bind_eq_ok.mp h
  rw [okOrElse_eq_ok, hget] at hbytes
  rw [mapErr_eq_ok] at hvalue
  have hnormalized' : Vault.normalize host' value = .ok normalized := by
    obtain ⟨version, hversion, hnormalized⟩ := AppResult.bind_eq_ok.mp hnormalized
    rw [okOrElse_eq_ok] at hversion
    rw [Vault.normalize, hversion, okOrElse_some, AppResult.ok_bind]
    split at hnormalized
    · rwa [mapErr_eq_ok] at hnormalized ⊢
    · rwa [mapErr_eq_ok] at hnormalized ⊢
    · rwa [mapErr_eq_ok] at hnormalized ⊢
    · cases hnormalized
  rw [Vault.vaultOpen, hbytes, okOrElse_some, AppResult.ok_bind, hvalue, mapErr_ok,
    AppResult.ok_bind, hnormalized', AppResult.ok_bind, h]

/-- The state of a failure is that access is denied only for the error that says so. -/
theorem publicFailureState_ne_permissionDenied {e : AppError} (h : e.code ≠ ACCESS_DENIED) :
  publicFailureState e ≠ .permissionDenied
  := by
  rw [publicFailureState]
  split_ifs
  · intro h
    cases h
  · contradiction
  · intro h
    cases h
  · intro h
    cases h

/-- An answer from the vault is not a denial. -/
theorem Answers.state_ne {items : List (FederationFactV2 ⊕ FederationLifecycleNoticeV2)}
    (h : Answers items result) :
  result.state ≠ .permissionDenied
  := by
  rw [h.state]
  split_ifs
  · intro h
    cases h
  · intro h
    cases h

/-- What is answered once the database is open: the refusal, or else what the query comes to,
which is not a denial. -/
theorem authorized_eq_ok
    (hconfig : Vault.vaultOpen vault.host vault.dir = .ok config)
    (hopened : openDbReadonly vault (vault.faults .authorizeQueryOnly) (vault.dbPath config)
      = .ok db)
    (h : federationQueryServiceV2Authorized ext parse toLowercase vault sessionId authorizedAtMs
      request = .ok result) :
  (∃ limit, validateRequestV2 request = .ok limit)
    ∧ (refusal parse vault config db sessionId authorizedAtMs request = some result
      ∨ refusal parse vault config db sessionId authorizedAtMs request = none
        ∧ result.state ≠ .permissionDenied)
  := by
  obtain ⟨limit, hlimit, h⟩ := AppResult.bind_eq_ok.mp h
  obtain rfl := validate_eq_ok hlimit
  use ⟨_, hlimit⟩
  rw [hconfig, mapErr_ok, AppResult.ok_bind, hopened] at h
  dsimp only at h
  cases hrefusal : refusal parse vault config db sessionId authorizedAtMs request with
  | some refused =>
    rw [hrefusal] at h
    left
    rw [Except.ok.inj h]
  | none =>
    rw [hrefusal] at h
    right
    use rfl
    rw [← Except.ok.inj h]
    cases hrun : runQueryV2 ext parse toLowercase vault config request
      (clampedLimit request.limit) with
    | ok answer =>
      obtain ⟨_, _, _, _, items, -, hanswers⟩ := runQueryV2_eq_ok hrun
      apply hanswers.state_ne
    | error e =>
      obtain ⟨tables, key, hfile, -⟩ := openDbReadonly_eq_ok hopened
      apply publicFailureState_ne_permissionDenied
      apply undenied_runQueryV2 hfile e hrun

theorem authorized_of_refusal_eq_some
    (hconfig : Vault.vaultOpen vault.host vault.dir = .ok config)
    (hopened : openDbReadonly vault (vault.faults .authorizeQueryOnly) (vault.dbPath config)
      = .ok db) {limit : Nat} (hlimit : validateRequestV2 request = .ok limit)
    (hrefusal : refusal parse vault config db sessionId authorizedAtMs request = some result) :
  federationQueryServiceV2Authorized ext parse toLowercase vault sessionId authorizedAtMs request
    = .ok result
  := by
  rw [federationQueryServiceV2Authorized, hlimit, AppResult.ok_bind, hconfig, mapErr_ok,
    AppResult.ok_bind, hopened]
  dsimp only
  rw [hrefusal]

/-- Whoever is not authorized is disclosed nothing. -/
theorem authorized_of_discloses
    (h : federationQueryServiceV2Authorized ext parse toLowercase vault sessionId authorizedAtMs
      request = .ok result) (hdiscloses : Discloses result) :
  ∃ config db session provider decision, Vault.vaultOpen vault.host vault.dir = .ok config
    ∧ openDbReadonly vault (vault.faults .authorizeQueryOnly) (vault.dbPath config) = .ok db
    ∧ Authorized parse db sessionId authorizedAtMs request.projectKey session provider decision
  := by
  obtain ⟨limit, hlimit, h'⟩ := AppResult.bind_eq_ok.mp h
  obtain ⟨config, hconfig, h'⟩ := AppResult.bind_eq_ok.mp h'
  rw [mapErr_eq_ok] at hconfig
  cases hopened : openDbReadonly vault (vault.faults .authorizeQueryOnly) (vault.dbPath config)
    with
  | error e =>
    rw [hopened] at h'
    rw [← Except.ok.inj h'] at hdiscloses
    cases not_discloses_delegatedFailureV2 _ _ hdiscloses
  | ok db =>
    obtain ⟨-, hrefusal | ⟨hrefusal, -⟩⟩ := authorized_eq_ok hconfig hopened h
    · cases not_discloses_refusal hrefusal hdiscloses
    · obtain ⟨session, provider, decision, hauthorized⟩ := authorized_of_not_refused hrefusal
      use config, db, session, provider, decision, hconfig, hopened

/-- Delegated queries control access and do not interfere. What is disclosed is disclosed to a
session that is authorized; and of two vaults that agree on whom to trust, what one answers to
deny a request is what the other answers. -/
theorem delegates (ext : Externals) (parse : JsonParser) (toLowercase : String → String) :
  (∀ vault sessionId authorizedAtMs request result,
      federationQueryServiceV2Authorized ext parse toLowercase vault sessionId authorizedAtMs
          request = .ok result → Discloses result →
        ∃ config db session provider decision,
          Vault.vaultOpen vault.host vault.dir = .ok config
            ∧ openDbReadonly vault (vault.faults .authorizeQueryOnly) (vault.dbPath config)
              = .ok db
            ∧ Authorized parse db sessionId authorizedAtMs request.projectKey session provider
              decision)
    ∧ ∀ vault vault' config db db' sessionId authorizedAtMs request result,
        Vault.vaultOpen vault.host vault.dir = .ok config →
        SameTrust vault vault' config db db' →
        federationQueryServiceV2Authorized ext parse toLowercase vault sessionId authorizedAtMs
          request = .ok result → result.state = .permissionDenied →
        federationQueryServiceV2Authorized ext parse toLowercase vault' sessionId authorizedAtMs
          request = .ok result
  := by
  constructor
  · intro vault sessionId authorizedAtMs request result
    apply authorized_of_discloses
  · intro vault vault' config db db' sessionId authorizedAtMs request result hconfig hsame h
      hdenied
    obtain ⟨⟨limit, hlimit⟩, hrefusal | ⟨-, hstate⟩⟩ := authorized_eq_ok hconfig hsame.opened h
    · apply authorized_of_refusal_eq_some (vaultOpen_of_get_eq hsame.vaultJson hconfig)
        hsame.opened' hlimit
      rw [← hsame.refusal_eq, hrefusal]
    · contradiction

/-! ### With a document and without -/

def Sample.emptiedDb : FederationDb where
  __ := Sample.mentioningDb
  docs := ∅
  canonicalText := ∅

theorem Sample.openDbReadonly_eq (db : FederationDb) (path : String)
    (hversion : db.userVersion = Db.LATEST_SCHEMA_VERSION) :
  openDbReadonly (Sample.federationVault db) none path = .ok db
  := by
  have hkey : Vault.dbEncryptionKey KnowledgeCore.Sample.host
      (KnowledgeCore.Sample.vault KnowledgeCore.Sample.db []) = .ok none := by
    apply ok_of_toOption
    decide +kernel
  rw [openDbReadonly]
  change (Vault.dbEncryptionKey KnowledgeCore.Sample.host
    (KnowledgeCore.Sample.vault KnowledgeCore.Sample.db []) >>= _) = _
  rw [hkey, AppResult.ok_bind, if_neg (by simp), attempt_none, AppResult.ok_bind]
  dsimp only
  rw [if_pos rfl, okOrElse_some, AppResult.ok_bind, if_neg (not_not.mpr hversion)]

theorem Sample.sameTrust (config : VaultJsonV3) :
  SameTrust (Sample.federationVault Sample.emptiedDb) (Sample.federationVault Sample.mentioningDb)
    config Sample.emptiedDb Sample.mentioningDb
  := by
  constructor
  case opened => apply Sample.openDbReadonly_eq _ _ rfl
  case opened' => apply Sample.openDbReadonly_eq _ _ rfl
  case faults => exact fun _ _ => rfl
  all_goals rfl

/-- The answer to a query under a session, where there are no documents. -/
def Sample.answerTo (sessionId : String) : AppResult FederationQueryResultV2 :=
  federationQueryServiceV2Authorized KnowledgeCore.Sample.ext JsonText.parse id
    (Sample.federationVault Sample.emptiedDb) sessionId 5 Sample.queryV2

theorem delegates_with_and_without_document :
  (∃ result, Sample.answerTo KnowledgeCore.Sample.sessionId = .ok result ∧ Discloses result
      ∧ ∃ config db session provider decision,
        Vault.vaultOpen KnowledgeCore.Sample.host
            (Sample.federationVault Sample.emptiedDb).dir = .ok config
          ∧ openDbReadonly (Sample.federationVault Sample.emptiedDb) none
            ((Sample.federationVault Sample.emptiedDb).dbPath config) = .ok db
          ∧ Authorized JsonText.parse db KnowledgeCore.Sample.sessionId 5 "a/b" session provider
            decision)
    ∧ ∃ result, Sample.answerTo "nobody" = .ok result ∧ result.state = .permissionDenied
      ∧ federationQueryServiceV2Authorized KnowledgeCore.Sample.ext JsonText.parse id
        (Sample.federationVault Sample.mentioningDb) "nobody" 5 Sample.queryV2 = .ok result
  := by
  constructor
  · have hanswer : (Sample.answerTo KnowledgeCore.Sample.sessionId).toOption.any
        FederationQueryResultV2.participated = true := by
      decide +kernel
    obtain ⟨result, hresult, hparticipated⟩ := exists_of_any hanswer
    have hdiscloses : Discloses result := .inr (.inr (.inr (.inr hparticipated)))
    use result, hresult, hdiscloses
    apply (delegates _ _ _).1 _ _ _ _ _ hresult hdiscloses
  · have hanswer : (Sample.answerTo "nobody").toOption.any
        (fun result => result.state = .permissionDenied) = true := by
      decide +kernel
    have hconfig : (Vault.vaultOpen KnowledgeCore.Sample.host
        (KnowledgeCore.Sample.vault KnowledgeCore.Sample.db [])).isOk = true := by
      decide +kernel
    obtain ⟨result, hresult, hdenied⟩ := exists_of_any hanswer
    obtain ⟨config, hconfig⟩ := exists_of_isOk hconfig
    replace hdenied := of_decide_eq_true hdenied
    use result, hresult, hdenied
    apply (delegates _ _ _).2 _ _ _ _ _ _ _ _ _ hconfig (Sample.sameTrust config) hresult hdenied

end Federation

end KnowledgeCore
