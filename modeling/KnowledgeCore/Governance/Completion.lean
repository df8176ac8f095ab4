import KnowledgeCore.CanonJson
import KnowledgeCore.Governance.Sessions

/-!
# Completions that are rejected

A completion makes its session before the policy of the provider is asked about it. When the policy
turns the session down the completion fails, and the session stays.
-/

namespace KnowledgeCore

namespace TrustIdentity

open Prog (Ends)
open TrustDb (Effect Anything)

/-- An issuer is discovered as a provider whose id is not blank. -/
theorem isBlank_of_providerIdFromIssuer {ext : Externals} {issuer providerId : String}
    (h : providerIdFromIssuer ext issuer = .ok providerId) :
  isBlank providerId = false
  := by
  rw [providerIdFromIssuer] at h
  obtain ⟨normalized, -, h⟩ := AppResult.bind_eq_ok.mp h
  cases h
  rw [isBlank_eq_false_iff]
  use 'a'
  constructor
  · rw [String.toList_append]
    apply List.mem_append_left
    decide
  · decide

-- No text is to be examined character by character.
attribute [local irreducible] isBlank normalizeIssuer providerIdFromIssuer providerRefIsIssuer

variable {ext : Externals} {parse : JsonParser} {faults : Faults} {plan : TrustOp → Option String}
  {db : TrustDb} {sessionId providerRef authCode : String} {nowMs : Int64}

/-! ### The provider of a completion -/

/-- The provider that is read under an id. -/
def providerFound (plan : TrustOp → Option String) (db : TrustDb) (providerId : String) :
    Option IdentityProviderRecord :=
  if plan (.readProvider providerId) = none then
    db.providers[providerId]?.map (recordOf providerId)
  else if plan (.readLegacyProvider providerId) = none then
    db.identityProviders[providerId]?.map (legacyRecordOf providerId)
  else
    none

/-- A completion reaches a provider that may be used, with an issuer and an audience, and sessions
may refer to it. -/
inductive Reaches (ext : Externals) (plan : TrustOp → Option String) (db : TrustDb)
    (providerRef : String) (nowMs : Int64) : String → String → String → Prop
  | registered (provider : IdentityProviderRecord) (href : providerRefIsIssuer providerRef = false)
      (hfound : providerFound plan db providerRef = some provider)
      (henabled : provider.enabled = true) (hlegacy : providerRef ∈ db.identityProviders) :
      Reaches ext plan db providerRef nowMs providerRef provider.issuer provider.audience
  | discovered (issuer providerId : String) (href : providerRefIsIssuer providerRef = true)
      (hissuer : normalizeIssuer providerRef = .ok issuer)
      (hid : providerIdFromIssuer ext issuer = .ok providerId)
      (hupsert : plan (.upsertProvider providerId issuer (defaultAudience providerId)
        (jwksOf issuer) nowMs) = none)
      (hlegacy : plan (.upsertLegacyProvider providerId issuer (defaultAudience providerId) nowMs)
        = none)
      (hread : plan (.readProvider providerId) = none
        ∨ plan (.readLegacyProvider providerId) = none) :
      Reaches ext plan db providerRef nowMs providerId issuer (defaultAudience providerId)

/-- What a provider is loaded as. -/
theorem eval_loadProvider (parse : JsonParser) (faults : Faults)
    (plan : TrustOp → Option String) (db : TrustDb) (providerId : String) :
  ∃ r, (loadProvider providerId).eval (TrustDb.answer parse faults plan) db = (r, db)
    ∧ r.toOption.join = providerFound plan db providerId
  := by
  rw [loadProvider, Prog.perform_bind, Prog.eval_op, providerFound]
  cases hread : plan (.readProvider providerId) with
  | none =>
    rw [if_pos rfl]
    use .ok (db.providers[providerId]?.map (recordOf providerId))
    simp [TrustDb.answer, hread, TrustDb.perform, Prog.pure_eq, Except.toOption]
  | some error =>
    cases hlegacy : plan (.readLegacyProvider providerId) with
    | none =>
      use .ok (db.identityProviders[providerId]?.map (legacyRecordOf providerId))
      simp [TrustDb.answer, hread, hlegacy, TrustDb.perform, TrustDb.refused, Prog.pure_eq,
        Except.toOption]
    | some fallbackError =>
      use .error (identityError "KC_TRUST_OIDC_PROVIDER_UNAVAILABLE"
        "failed reading identity provider" [("error", .str fallbackError),
          ("fallback_error", .str error), ("provider_id", .str providerId)])
      simp [TrustDb.answer, hread, hlegacy, TrustDb.refused]
      rfl

/-- What a provider that has to be there is loaded as. -/
theorem eval_loadProvider_bind (parse : JsonParser) (faults : Faults)
    (plan : TrustOp → Option String) (db : TrustDb) (providerId : String) (e : AppError) :
  ∃ r, (loadProvider providerId >>= fun loaded => Prog.ofExcept (okOrElse e loaded)).eval
      (TrustDb.answer parse faults plan) db = (r, db)
    ∧ r.toOption = providerFound plan db providerId
  := by
  obtain ⟨r, hr, hfound⟩ := eval_loadProvider parse faults plan db providerId
  rw [← hfound]
  cases r with
  | error e' =>
    use .error e', Prog.eval_bind_error hr
    rfl
  | ok loaded =>
    rw [Prog.eval_bind_ok hr, Prog.eval_ofExcept]
    use okOrElse e loaded, rfl
    cases loaded with
    | none => rfl
    | some provider => rfl

/-- What adding a provider leads to. -/
theorem eval_upsertIdentityProviderWithJwks {providerId issuer audience jwksUrl : String}
    (hblank : isBlank providerId = false) :
  ∃ r t, (upsertIdentityProviderWithJwks providerId issuer audience jwksUrl nowMs).eval
      (TrustDb.answer parse faults plan) db = (r, t)
    ∧ (plan (.upsertProvider providerId issuer audience jwksUrl nowMs) = none
          ∧ plan (.upsertLegacyProvider providerId issuer audience nowMs) = none
          ∧ (plan (.readProvider providerId) = none ∨ plan (.readLegacyProvider providerId) = none)
        → ∃ provider, r = .ok provider ∧ provider.enabled = true
            ∧ provider.providerId = providerId ∧ provider.issuer = issuer
            ∧ provider.audience = audience ∧ providerId ∈ t.identityProviders)
    ∧ ∀ provider, r = .ok provider →
        plan (.upsertProvider providerId issuer audience jwksUrl nowMs) = none
          ∧ plan (.upsertLegacyProvider providerId issuer audience nowMs) = none
          ∧ (plan (.readProvider providerId) = none ∨ plan (.readLegacyProvider providerId) = none)
  := by
  rw [upsertIdentityProviderWithJwks, if_neg (Bool.not_eq_true _ ▸ hblank), Prog.perform_bind,
    Prog.eval_op]
  cases hupsert : plan (.upsertProvider providerId issuer audience jwksUrl nowMs) with
  | some error => simp [TrustDb.answer, hupsert, TrustDb.refused]
  | none =>
  simp only [TrustDb.answer, hupsert, Option.bind_none, TrustDb.perform, mapErr_ok,
    Prog.ofExcept_ok, Prog.ret_bind, Prog.perform_bind, Prog.eval_op]
  cases hlegacy : plan (.upsertLegacyProvider providerId issuer audience nowMs) with
  | some error => simp [TrustDb.refused]
  | none =>
  simp only [Option.bind_none, mapErr_ok, Prog.ofExcept_ok, Prog.ret_bind, true_and]
  generalize ht : TrustDb.mk _ _ _ _ = t
  have hrow : t.providers[providerId]?
      = some (TrustDb.upserted db.providers[providerId]? issuer audience jwksUrl nowMs) := by
    rw [← ht]
    apply Std.ExtTreeMap.getElem?_alter_self
  have hlegacyRow : t.identityProviders[providerId]?
      = some (TrustDb.upsertedLegacy db.identityProviders[providerId]? issuer audience nowMs) := by
    rw [← ht]
    apply Std.ExtTreeMap.getElem?_alter_self
  have hknown : providerId ∈ t.identityProviders := by
    rw [Std.ExtTreeMap.mem_iff_isSome_getElem?, hlegacyRow]
    rfl
  obtain ⟨r, hr, hfound⟩ := eval_loadProvider_bind parse faults plan t providerId
    (identityError "KC_TRUST_OIDC_PROVIDER_UNAVAILABLE" "identity provider missing after upsert"
      [("provider_id", .str providerId)])
  use r, t, hr
  rw [providerFound, hrow, hlegacyRow] at hfound
  split_ifs at hfound with hread hreadLegacy
  · constructor
    · intro _
      use recordOf providerId (TrustDb.upserted db.providers[providerId]? issuer audience jwksUrl
        nowMs), ok_of_toOption hfound, rfl, rfl, rfl, rfl, hknown
    · intro _ _
      left
      exact hread
  · constructor
    · intro _
      use legacyRecordOf providerId (TrustDb.upsertedLegacy db.identityProviders[providerId]? issuer
        audience nowMs), ok_of_toOption hfound, rfl, rfl, rfl, rfl, hknown
    · intro _ _
      right
      exact hreadLegacy
  · constructor
    · rintro (h | h)
      · contradiction
      · contradiction
    · rintro provider rfl
      cases hfound

theorem providerId_of_providerFound {providerId : String} {provider : IdentityProviderRecord}
    (h : providerFound plan db providerId = some provider) :
  provider.providerId = providerId
  := by
  rw [providerFound] at h
  split_ifs at h with hread hreadLegacy
  · obtain ⟨row, -, rfl⟩ := Option.map_eq_some_iff.mp h
    rfl
  · obtain ⟨row, -, rfl⟩ := Option.map_eq_some_iff.mp h
    rfl

/-- What is known once the provider of a completion has been looked up. -/
structure LookedUp (ext : Externals) (plan : TrustOp → Option String) (db : TrustDb)
    (providerRef : String) (nowMs : Int64) (r : AppResult IdentityProviderRecord) (t : TrustDb) :
    Prop where
  sound : ∀ provider, r = .ok provider → provider.enabled = true →
    provider.providerId ∈ t.identityProviders →
    Reaches ext plan db providerRef nowMs provider.providerId provider.issuer provider.audience
  complete : ∀ providerId issuer audience,
    Reaches ext plan db providerRef nowMs providerId issuer audience →
    ∃ provider, r = .ok provider ∧ provider.enabled = true ∧ provider.providerId = providerId
      ∧ provider.issuer = issuer ∧ provider.audience = audience
      ∧ providerId ∈ t.identityProviders

theorem eval_completeProvider (ext : Externals) (parse : JsonParser) (faults : Faults)
    (plan : TrustOp → Option String) (db : TrustDb) (providerRef : String) (nowMs : Int64) :
  ∃ r t, (completeProvider ext providerRef nowMs).eval (TrustDb.answer parse faults plan) db
      = (r, t) ∧ LookedUp ext plan db providerRef nowMs r t
  := by
  rw [completeProvider]
  cases href : providerRefIsIssuer providerRef with
  | false =>
    rw [if_neg Bool.false_ne_true]
    obtain ⟨r, hr, hfound⟩ := eval_loadProvider_bind parse faults plan db providerRef
      (identityError "KC_TRUST_OIDC_PROVIDER_UNAVAILABLE" "identity provider is not registered"
        [("provider_id", .str providerRef)])
    refine ⟨r, db, hr, ?_, ?_⟩
    · rintro provider rfl henabled hlegacy
      obtain hid := providerId_of_providerFound hfound.symm
      rw [hid] at hlegacy ⊢
      apply Reaches.registered provider href hfound.symm henabled hlegacy
    · intro providerId issuer audience hreaches
      cases hreaches with
      | registered provider _ hprovider henabled hlegacy =>
        rw [hprovider] at hfound
        use provider, ok_of_toOption hfound, henabled, providerId_of_providerFound hprovider
      | discovered issuer providerId hissuer =>
        rw [href] at hissuer
        cases hissuer
  | true =>
    rw [if_pos rfl, discoverIdentityProvider]
    cases hnormalized : normalizeIssuer providerRef with
    | error e =>
      refine ⟨.error e, db, rfl, ?_, ?_⟩
      · rintro provider ⟨⟩
      · intro providerId issuer audience hreaches
        cases hreaches with
        | registered provider hissuer =>
          rw [href] at hissuer
          cases hissuer
        | discovered issuer providerId _ hissuer =>
          rw [hnormalized] at hissuer
          cases hissuer
    | ok normalized =>
    rw [Prog.ofExcept_ok, Prog.ret_bind]
    cases hid : providerIdFromIssuer ext normalized with
    | error e =>
      refine ⟨.error e, db, rfl, ?_, ?_⟩
      · rintro provider ⟨⟩
      · intro providerId issuer audience hreaches
        cases hreaches with
        | registered provider hissuer =>
          rw [href] at hissuer
          cases hissuer
        | discovered issuer providerId _ hissuer hprovider =>
          rw [hnormalized] at hissuer
          cases hissuer
          rw [hid] at hprovider
          cases hprovider
    | ok providerId =>
    rw [Prog.ofExcept_ok, Prog.ret_bind]
    obtain ⟨r, t, hr, hcomplete, hsound⟩ := eval_upsertIdentityProviderWithJwks
      (isBlank_of_providerIdFromIssuer hid)
    refine ⟨r, t, hr, ?_, ?_⟩
    · rintro provider rfl henabled hlegacy
      have hplan := hsound provider rfl
      obtain ⟨_, ⟨⟩, -, rfl, rfl, haudience, -⟩ := hcomplete hplan
      rw [haudience]
      apply Reaches.discovered _ _ href hnormalized hid hplan.1 hplan.2.1 hplan.2.2
    · intro providerId' issuer audience hreaches
      cases hreaches with
      | registered provider hissuer =>
        rw [href] at hissuer
        cases hissuer
      | discovered issuer providerId' _ hissuer hprovider hupsert hlegacy hread =>
        rw [hnormalized] at hissuer
        cases hissuer
        rw [hid] at hprovider
        cases hprovider
        apply hcomplete ⟨hupsert, hlegacy, hread⟩

/-! ### What a policy grants -/

theorem hasFloat_sessionClaims (audience issuer subject : String) (issuedAtMs expiresAtMs : Int64) :
  CanonJson.hasFloat (sessionClaims audience issuer subject issuedAtMs expiresAtMs) = false
  := rfl

/-- The claims of a session are listed in the order of their keys. -/
theorem normalise_sessionClaims (audience issuer subject : String)
    (issuedAtMs expiresAtMs : Int64) :
  (sessionClaims audience issuer subject issuedAtMs expiresAtMs).normalise
    = sessionClaims audience issuer subject issuedAtMs expiresAtMs
  := by
  have hkeys : ["aud", "exp", "iat", "iss", "sub"].Pairwise (· ≤ ·) := by decide
  rw [sessionClaims, Json.normalise, Json.obj.injEq]
  apply List.Pairwise.insertionSort_eq
  apply List.pairwise_map.mp hkeys

/-- What a session claims of texts is its audience, its issuer and its subject. -/
theorem lookup_sessionClaims {audience issuer subject key value : String}
    {issuedAtMs expiresAtMs : Int64} {claims : List (String × Json)}
    (h : sessionClaims audience issuer subject issuedAtMs expiresAtMs = .obj claims) :
  claims.lookup key = some (.str value)
    ↔ (key, Json.str value) ∈ [("aud", .str audience), ("iss", .str issuer), ("sub", .str subject)]
  := by
  have hkeys : ["aud", "exp", "iat", "iss", "sub"].Nodup := by decide
  have hnodup : (claims.map Prod.fst).Nodup := by
    cases h
    exact hkeys
  constructor
  · intro hlookup
    have hmem := Json.mem_of_lookup_eq_some hlookup
    cases h
    simpa using hmem
  · intro hmem
    apply Json.lookup_eq_some_of_mem hnodup
    cases h
    simp only [List.mem_cons] at hmem ⊢
    tauto

/-- A policy grants a session: its window does not overflow, and it asks for nothing but the
audience, the issuer and the subject of the session. -/
structure Grants (parse : JsonParser) (policy : TrustProviderPolicyRow)
    (audience issuer subject : String) (nowMs : Int64) : Prop where
  notBefore : nowMs - policy.maxClockSkewMs ≤ nowMs
  notAfter : nowMs ≤ nowMs + DEFAULT_SESSION_TTL_MS + policy.maxClockSkewMs
  claims : ∃ required,
    TrustPolicy.parseRequireClaims parse policy.requireClaimsJson = .ok required
      ∧ ∀ claim ∈ required,
          claim ∈ [("aud", .str audience), ("iss", .str issuer), ("sub", .str subject)]

/-- A policy admits a new session exactly when it grants it. -/
theorem admits_iff_grants {policy : TrustProviderPolicyRow} {audience issuer subject text : String}
    (hparse : ReadsBack parse
      (sessionClaims audience issuer subject nowMs (nowMs + DEFAULT_SESSION_TTL_MS)))
    (htext : CanonJson.toCanonicalBytes (sessionClaims audience issuer subject nowMs
      (nowMs + DEFAULT_SESSION_TTL_MS)) = .ok text) :
  TrustPolicy.Admits parse policy text nowMs (nowMs + DEFAULT_SESSION_TTL_MS) nowMs
    ↔ Grants parse policy audience issuer subject nowMs
  := by
  have hread := hparse text htext
  rw [normalise_sessionClaims] at hread
  have hclaims (required : List (String × Json)) :
      TrustPolicy.parseRequireClaims parse policy.requireClaimsJson = .ok required →
      (TrustPolicy.Satisfies parse text required ↔ ∀ claim ∈ required,
        claim ∈ [("aud", .str audience), ("iss", .str issuer), ("sub", .str subject)]) := by
    intro hrequired
    constructor
    · rintro (rfl | ⟨claims, hparsed, hholds⟩) claim hmem
      · cases hmem
      · rw [hparsed] at hread
        obtain ⟨value, hvalue, hlookup⟩ := hholds claim hmem
        have hclaim := (lookup_sessionClaims (Except.ok.inj hread).symm).mp hlookup
        rw [← hvalue] at hclaim
        exact hclaim
    · intro hall
      right
      refine ⟨_, hread, ?_⟩
      intro claim hmem
      obtain ⟨value, hvalue⟩ :=
        TrustPolicy.exists_str_of_parseRequireClaims hrequired hmem
      use value, hvalue
      apply (lookup_sessionClaims rfl).mpr
      rw [← hvalue]
      exact hall claim hmem
  constructor
  · rintro ⟨hbefore, hafter, required, hrequired, hsatisfies⟩
    exact ⟨hbefore, hafter, required, hrequired, (hclaims required hrequired).mp hsatisfies⟩
  · rintro ⟨hbefore, hafter, required, hrequired, hmem⟩
    exact ⟨hbefore, hafter, required, hrequired, (hclaims required hrequired).mpr hmem⟩

/-! ### When a completion that fails leaves no session -/

/-- The policy of a provider is evaluated as the database has it. -/
theorem answer_policyAllows (providerId claimSubsetJson : String)
    (issuedAtMs expiresAtMs : Int64) :
  TrustDb.answer parse faults plan (.policyAllows providerId sessionId claimSubsetJson issuedAtMs
      expiresAtMs nowMs) db
    = (TrustPolicy.ensureSessionPolicyAllows parse faults db.toOwnerDb providerId sessionId
        claimSubsetJson issuedAtMs expiresAtMs nowMs, db)
  := by
  rw [TrustDb.answer]
  cases plan (.policyAllows providerId sessionId claimSubsetJson issuedAtMs expiresAtMs nowMs) with
  | none => rfl
  | some error => rfl

/-- The session of a completion, if it is made, is allowed. -/
def Allowed (parse : JsonParser) (faults : Faults) (db : TrustDb)
    (sessionId providerId audience issuer subject : String) (nowMs : Int64) : Prop :=
  faults .revocation = none ∧ sessionId ∉ db.trustSessionRevocations
    ∧ faults .providerPolicy = none
    ∧ ∀ policy, db.trustProviderPolicies[providerId]? = some policy →
      Grants parse policy audience issuer subject nowMs

/-- The row of the session of a completion. -/
def completionRow (ext : Externals) (providerId authCode claimSubsetJson : String)
    (nowMs : Int64) : IdentitySessionRow where
  providerId
  subject := Trust.normalizedSubject ext providerId authCode
  claimSubsetJson
  issuedAtMs := nowMs
  expiresAtMs := nowMs + DEFAULT_SESSION_TTL_MS
  createdAtMs := nowMs

/-- What a session with a provider that may be used is made of. -/
def completionClaims (ext : Externals) (providerId issuer audience authCode : String)
    (nowMs : Int64) : Json :=
  sessionClaims audience issuer (Trust.normalizedSubject ext providerId authCode) nowMs
    (nowMs + DEFAULT_SESSION_TTL_MS)

/-- A completion that makes its session makes one that is allowed. -/
def Accepts (ext : Externals) (parse : JsonParser) (faults : Faults)
    (plan : TrustOp → Option String) (db : TrustDb) (sessionId providerRef authCode : String)
    (nowMs : Int64) : Prop :=
  ∀ providerId issuer audience claimSubsetJson,
    Reaches ext plan db providerRef nowMs providerId issuer audience →
    isBlank authCode = false → sessionId ∉ db.identitySessions →
    CanonJson.toCanonicalBytes (completionClaims ext providerId issuer audience authCode nowMs)
      = .ok claimSubsetJson →
    plan (.insertSession sessionId
      (completionRow ext providerId authCode claimSubsetJson nowMs)) = none →
    Allowed parse faults db sessionId providerId audience issuer
      (Trust.normalizedSubject ext providerId authCode) nowMs

/-- A completion with a provider leaves no session when it fails, unless it has made one that is
not allowed. -/
theorem completeWith_unchanged_iff {provider : IdentityProviderRecord} {claimSubsetJson : String}
    (hparse : ReadsBack parse (completionClaims ext provider.providerId provider.issuer
      provider.audience authCode nowMs))
    (htext : CanonJson.toCanonicalBytes (completionClaims ext provider.providerId provider.issuer
      provider.audience authCode nowMs) = .ok claimSubsetJson)
    {r : AppResult Trust.IdentitySessionRecord} {after : TrustDb}
    (h : (completeWith ext sessionId provider providerRef authCode nowMs).eval
      (TrustDb.answer parse faults plan) db = (r, after)) :
  (r.isOk = false → after.identitySessions = db.identitySessions)
    ↔ (provider.providerId ∈ db.identityProviders → sessionId ∉ db.identitySessions →
      plan (.insertSession sessionId
        (completionRow ext provider.providerId authCode claimSubsetJson nowMs)) = none →
      Allowed parse faults db sessionId provider.providerId provider.audience provider.issuer
        (Trust.normalizedSubject ext provider.providerId authCode) nowMs)
  := by
  have hrow : sessionRow provider (Trust.normalizedSubject ext provider.providerId authCode)
      claimSubsetJson nowMs
        = completionRow ext provider.providerId authCode claimSubsetJson nowMs := rfl
  have hclaims : sessionClaims provider.audience provider.issuer
      (Trust.normalizedSubject ext provider.providerId authCode) nowMs
      (nowMs + DEFAULT_SESSION_TTL_MS)
        = completionClaims ext provider.providerId provider.issuer provider.audience authCode
            nowMs := rfl
  rw [completeWith, hclaims, htext, Prog.ofExcept_ok, Prog.ret_bind, hrow, Prog.perform_bind, Prog.eval_op] at h
  cases hplan : plan (.insertSession sessionId
    (completionRow ext provider.providerId authCode claimSubsetJson nowMs)) with
  | some error =>
    rw [TrustDb.answer, hplan] at h
    cases h
    simp [TrustDb.refused]
  | none =>
  rw [TrustDb.answer, hplan, Option.bind_none, TrustDb.perform, TrustDb.insertSession] at h
  split_ifs at h with hid hprovider
  · cases h
    simp [hid]
  · generalize ht : ({ db with identitySessions := db.identitySessions.insert sessionId _ } : TrustDb)
      = t at h
    have hsessions : sessionId ∈ t.identitySessions := by
      rw [← ht]
      apply Std.ExtTreeMap.mem_insert_self
    have hrevocations : t.trustSessionRevocations = db.trustSessionRevocations := by
      rw [← ht]
    have hpolicies : t.trustProviderPolicies = db.trustProviderPolicies := by
      rw [← ht]
    have hallowed : TrustPolicy.ensureSessionPolicyAllows parse faults t.toOwnerDb
        provider.providerId sessionId claimSubsetJson nowMs (nowMs + DEFAULT_SESSION_TTL_MS) nowMs
          = .ok ()
        ↔ Allowed parse faults db sessionId provider.providerId provider.audience provider.issuer
            (Trust.normalizedSubject ext provider.providerId authCode) nowMs := by
      rw [TrustPolicy.ensureSessionPolicyAllows_eq_ok, hrevocations, hpolicies, Allowed]
      simp only [admits_iff_grants hparse htext]
    rw [← hallowed]
    simp only [mapErr_ok, Prog.ofExcept_ok, Prog.ret_bind, Prog.perform_bind, Prog.eval_op,
      answer_policyAllows] at h
    cases hensure : TrustPolicy.ensureSessionPolicyAllows parse faults t.toOwnerDb
        provider.providerId sessionId claimSubsetJson nowMs (nowMs + DEFAULT_SESSION_TTL_MS)
        nowMs with
    | error e =>
      have hchanged : t.identitySessions ≠ db.identitySessions := by
        intro hsame
        rw [hsame] at hsessions
        contradiction
      rw [hensure] at h
      cases h
      have hknown : provider.providerId ∈ db.identityProviders := hprovider
      simp [hid, hknown, hchanged, Except.isOk, Except.toBool]
    | ok u =>
      rw [hensure] at h
      cases h
      simp [Except.isOk, Except.toBool]
  · cases h
    have hunknown : provider.providerId ∉ db.identityProviders := hprovider
    simp [hunknown]

/-- A completion that fails leaves the sessions as they were exactly when it makes no session that
is not allowed. -/
theorem unchanged_iff_accepts
    (hparse : ∀ audience issuer subject issuedAtMs expiresAtMs,
      ReadsBack parse (sessionClaims audience issuer subject issuedAtMs expiresAtMs))
    {r : AppResult Trust.IdentitySessionRecord} {after : TrustDb}
    (h : (trustIdentityComplete ext sessionId providerRef authCode nowMs).eval
      (TrustDb.answer parse faults plan) db = (r, after)) :
  (r.isOk = false → after.identitySessions = db.identitySessions)
    ↔ Accepts ext parse faults plan db sessionId providerRef authCode nowMs
  := by
  obtain ⟨found, t, hfound, hlooked⟩ :=
    eval_completeProvider ext parse faults plan db providerRef nowMs
  have htable (T : TrustTable) (hT : T ≠ .providers ∧ T ≠ .identityProviders) :
      t.table T = db.table T := by
    have hend : Ends (Effect parse Anything) (completeProvider ext providerRef nowMs) db found t := by
      have heval := Prog.ends_eval (TrustDb.effect_answer parse faults plan fun _ _ => trivial)
        (completeProvider ext providerRef nowMs) db
      rw [hfound] at heval
      exact heval
    apply table_ends _ hend
    apply allOps_completeProvider
    · intro op hwrites
      rw [hwrites]
      rintro ⟨⟩
    · intro _ providerId _ issuer audience jwksUrl nowMs
      constructor
      · rintro ⟨⟩
        apply hT.1 rfl
      · rintro ⟨⟩
        apply hT.2 rfl
  rw [trustIdentityComplete] at h
  cases found with
  | error e =>
    rw [Prog.eval_bind_error hfound] at h
    cases h
    constructor
    · intro _ providerId issuer audience text hreaches
      obtain ⟨provider, ⟨⟩, -⟩ := hlooked.complete _ _ _ hreaches
    · intro _ _
      apply htable .sessions (by decide)
  | ok provider =>
  rw [Prog.eval_bind_ok hfound] at h
  split_ifs at h with henabled hblank
  · cases h
    constructor
    · intro _ providerId issuer audience text hreaches
      obtain ⟨_, ⟨⟩, henabled', -⟩ := hlooked.complete _ _ _ hreaches
      rw [henabled] at henabled'
      cases henabled'
    · intro _ _
      apply htable .sessions (by decide)
  · cases h
    constructor
    · intro _ providerId issuer audience text _ hnotBlank
      rw [hblank] at hnotBlank
      cases hnotBlank
    · intro _ _
      apply htable .sessions (by decide)
  · have hsessions : t.identitySessions = db.identitySessions := htable .sessions (by decide)
    have hrevocations : t.trustSessionRevocations = db.trustSessionRevocations :=
      htable .revocations (by decide)
    have hpolicies : t.trustProviderPolicies = db.trustProviderPolicies :=
      htable .policies (by decide)
    obtain ⟨text, htext⟩ := CanonJson.toCanonicalBytes_ok_of_not_hasFloat
      (hasFloat_sessionClaims provider.audience provider.issuer
        (Trust.normalizedSubject ext provider.providerId authCode) nowMs
        (nowMs + DEFAULT_SESSION_TTL_MS))
    rw [← hsessions, completeWith_unchanged_iff (hparse _ _ _ _ _) htext h]
    constructor
    · intro hallowed providerId issuer audience text' hreaches _ hnew htext' hplan
      obtain ⟨_, ⟨⟩, -, rfl, rfl, rfl, hknown⟩ := hlooked.complete _ _ _ hreaches
      rw [completionClaims, htext] at htext'
      cases htext'
      rw [← hsessions] at hnew
      have := hallowed hknown hnew hplan
      rw [Allowed, hrevocations, hpolicies] at this
      exact this
    · intro haccepts hknown hnew hplan
      rw [hsessions] at hnew
      rw [Allowed, hrevocations, hpolicies]
      apply haccepts _ _ _ _ (hlooked.sound provider rfl _ hknown) _ hnew htext hplan
      · exact Bool.eq_true_of_not_eq_false henabled
      · exact Bool.eq_false_of_not_eq_true hblank

end TrustIdentity

/-! ### Runs -/

namespace Governance

open Prog (Ends)
open TrustDb (Effect Anything)
open TrustIdentity

variable {ext : Externals} {parse : JsonParser}

/-- A step that is a completion makes no session that is not allowed. -/
def Step.Accepted (ext : Externals) (parse : JsonParser) (step : Step) : Prop :=
  ∀ sessionId providerRef authCode nowMs,
    step.call = .complete sessionId providerRef authCode nowMs → ∃ faults plan,
      (step.call.prog ext parse).eval (TrustDb.answer parse faults plan) step.before
          = (step.result, step.after)
        ∧ Accepts ext parse faults plan step.before sessionId providerRef authCode nowMs

/-- The session was there at the start, or was made by a completion that succeeded. -/
def FromSuccess (db : TrustDb) (steps : List Step) (sessionId : String) : Prop :=
  sessionId ∈ db.identitySessions
    ∨ ∃ step ∈ steps, step.call.Completes sessionId ∧ step.result.isOk = true

/-- When no completion makes a session that is not allowed, all sessions are from successes. -/
theorem Run.fromSuccess
    (hparse : ∀ audience issuer subject issuedAtMs expiresAtMs,
      ReadsBack parse (sessionClaims audience issuer subject issuedAtMs expiresAtMs))
    {mayFail : TrustOp → Prop} {db last : TrustDb} {steps : List Step}
    (h : Run ext parse mayFail db steps last) (haccepted : ∀ step ∈ steps, step.Accepted ext parse)
    {sessionId : String} {session : IdentitySessionRow}
    (hsession : last.identitySessions[sessionId]? = some session) :
  FromSuccess db steps sessionId
  := by
  obtain hstart | ⟨step, hmem, ⟨providerRef, authCode, nowMs, hcall⟩, hunknown, hcreated⟩ :=
    h.created hsession
  · left
    rw [Std.ExtTreeMap.mem_iff_isSome_getElem?, hstart]
    rfl
  · right
    refine ⟨step, hmem, ⟨providerRef, authCode, nowMs, hcall⟩, ?_⟩
    obtain ⟨faults, plan, heval, haccepts⟩ := haccepted step hmem _ _ _ _ hcall
    by_contra hfailed
    apply hunknown
    rw [hcall, Call.prog, Prog.eval_bind] at heval
    obtain ⟨r, after, hr⟩ : ∃ r after, (trustIdentityComplete ext sessionId providerRef authCode
        nowMs).eval (TrustDb.answer parse faults plan) step.before = (r, after) :=
      ⟨_, _, Prod.mk.eta.symm⟩
    rw [hr] at heval
    cases r with
    | ok record =>
      have hresult : .ok () = step.result := congrArg Prod.fst heval
      apply absurd _ hfailed
      rw [← hresult]
      rfl
    | error e =>
      have hafter : after = step.after := congrArg Prod.snd heval
      rw [← hafter] at hcreated
      rw [← (unchanged_iff_accepts hparse hr).mpr haccepts rfl,
        Std.ExtTreeMap.mem_iff_isSome_getElem?, hcreated]
      rfl

/-- A completion that fails leaves the sessions as they were exactly when it makes no session that
is not allowed, and in every run of such completions no device is enrolled and nothing is
authenticated by a completion that failed. -/
theorem completion_atomic_iff
    (hparse : ∀ audience issuer subject issuedAtMs expiresAtMs,
      ReadsBack parse (sessionClaims audience issuer subject issuedAtMs expiresAtMs)) :
  (∀ faults plan db sessionId providerRef authCode nowMs r after,
    (trustIdentityComplete ext sessionId providerRef authCode nowMs).eval
        (TrustDb.answer parse faults plan) db = (r, after) →
      ((r.isOk = false → after.identitySessions = db.identitySessions)
        ↔ Accepts ext parse faults plan db sessionId providerRef authCode nowMs))
    ∧ ∀ db steps last, Run ext parse Anything db steps last →
      (∀ step ∈ steps, step.Accepted ext parse) →
      (∀ sessionId nowMs session after, Ends (Effect parse Anything)
          (authenticateIdentitySession sessionId nowMs) last (.ok session) after →
        FromSuccess db steps sessionId)
      ∧ ∀ certId providerId deviceId nowMs record after, Ends (Effect parse Anything)
          (trustDeviceEnroll ext certId providerId deviceId nowMs) last (.ok record) after →
        ∃ sessionId session, last.identitySessions[sessionId]? = some session
          ∧ session.subject = record.subject ∧ FromSuccess db steps sessionId
  := by
  constructor
  · intro faults plan db sessionId providerRef authCode nowMs r after h
    apply unchanged_iff_accepts hparse h
  · intro db steps last hrun haccepted
    constructor
    · intro sessionId nowMs session after hend
      obtain ⟨faults, hsession⟩ := authenticate_eq_ok hend
      obtain ⟨row, husable, -⟩ := Trust.usable_of_authenticate hsession
      apply hrun.fromSuccess hparse haccepted husable.found
    · intro certId providerId deviceId nowMs record after hend
      obtain ⟨sessionId, session, hsession, -, hsubject⟩ :=
        Trust.latestSessionSubject_eq_ok (subject_of_enroll hend)
      use sessionId, session, hsession, hsubject, hrun.fromSuccess hparse haccepted hsession

/-- A provider that asks for a claim no session makes. -/
def Sample.tenantSet : Step :=
  Sample.step (.setTenantTemplate "corp" "https://corp.example" "desktop" "Tenant-A")
    Sample.corpAdded.after

def Sample.rejected : Step :=
  Sample.step (.complete KnowledgeCore.Sample.sessionId "corp" "sub:mallory" 1)
    Sample.tenantSet.after

/-- A session that is turned down by the policy is still there, and a device is enrolled by it. -/
theorem rejected_completion_enrols :
  (¬ ∀ db sessionId providerRef authCode nowMs r after,
      Ends (Effect JsonText.parse Anything) (trustIdentityComplete KnowledgeCore.Sample.ext sessionId
          providerRef authCode nowMs) db r after →
        r.isOk = false → after.identitySessions = db.identitySessions)
    ∧ Sample.rejected.result.isOk = false
    ∧ ∃ record after, Ends (Effect JsonText.parse Anything)
        (trustDeviceEnroll KnowledgeCore.Sample.ext "cert" "corp" "laptop" 2)
        Sample.rejected.after (.ok record) after ∧ record.subject = "mallory"
  := by
  let completed := (trustIdentityComplete KnowledgeCore.Sample.ext KnowledgeCore.Sample.sessionId
    "corp" "sub:mallory" 1).eval (TrustDb.answer JsonText.parse noFaults TrustDb.noPlan)
    Sample.tenantSet.after
  obtain ⟨hfailed, hnew, hinserted, hrejected, henrolled⟩ : completed.1.isOk = false
      ∧ KnowledgeCore.Sample.sessionId ∉ Sample.tenantSet.after.identitySessions
      ∧ KnowledgeCore.Sample.sessionId ∈ completed.2.identitySessions
      ∧ Sample.rejected.result.isOk = false
      ∧ ((trustDeviceEnroll KnowledgeCore.Sample.ext "cert" "corp" "laptop" 2).eval
          (TrustDb.answer JsonText.parse noFaults TrustDb.noPlan)
          Sample.rejected.after).1.toOption.any (fun record => record.subject = "mallory")
        = true := by
    decide +kernel
  refine ⟨?_, hrejected, ?_⟩
  · intro h
    have hend := Sample.ends Anything (trustIdentityComplete KnowledgeCore.Sample.ext
      KnowledgeCore.Sample.sessionId "corp" "sub:mallory" 1) Sample.tenantSet.after
    have hunchanged := h _ _ _ _ _ _ _ hend hfailed
    rw [← hunchanged] at hnew
    exact hnew hinserted
  · obtain ⟨record, after, heval, hsubject⟩ := exists_run_of_any henrolled
    use record, after, ?_, of_decide_eq_true hsubject
    have hend := Sample.ends Anything (trustDeviceEnroll KnowledgeCore.Sample.ext "cert"
      "corp" "laptop" 2) Sample.rejected.after
    rw [heval] at hend
    exact hend

/-- A completion that is accepted, and the device that is enrolled by it. -/
theorem completion_atomic_corp :
  ∃ record after, Ends (Effect JsonText.parse Anything)
      (trustDeviceEnroll KnowledgeCore.Sample.ext "cert" "corp" "laptop" 2)
      Sample.corpCompleted.after (.ok record) after
    ∧ ∃ sessionId session, Sample.corpCompleted.after.identitySessions[sessionId]? = some session
      ∧ session.subject = record.subject
      ∧ FromSuccess Sample.trustDb [Sample.corpAdded, Sample.corpCompleted] sessionId
  := by
  have hrun : Run KnowledgeCore.Sample.ext JsonText.parse Anything Sample.trustDb
      [Sample.corpAdded, Sample.corpCompleted] Sample.corpCompleted.after :=
    Sample.snoc_step (Sample.snoc_step .nil _) _
  have haccepted : ∀ step ∈ [Sample.corpAdded, Sample.corpCompleted],
      step.Accepted KnowledgeCore.Sample.ext JsonText.parse := by
    intro step hmem sessionId providerRef authCode nowMs hcall
    obtain rfl | hmem := List.mem_cons.mp hmem
    · cases hcall
    · obtain rfl := List.mem_singleton.mp hmem
      use noFaults, TrustDb.noPlan, rfl
      have hend := Sample.ends Anything ((Call.add "corp" "https://corp.example" "desktop"
        "https://corp.example/jwks" 0).prog KnowledgeCore.Sample.ext JsonText.parse) Sample.trustDb
      have hrevocations : Sample.corpAdded.after.trustSessionRevocations = ∅ :=
        table_call (T := .revocations) (by simp [Call.writes]) hend
      have hpolicies : Sample.corpAdded.after.trustProviderPolicies = ∅ :=
        table_call (T := .policies) (by simp [Call.writes]) hend
      intro providerId issuer audience text _ _ _ _ _
      refine ⟨rfl, ?_, rfl, ?_⟩
      · show sessionId ∉ Sample.corpAdded.after.trustSessionRevocations
        rw [hrevocations]
        apply Std.ExtTreeMap.not_mem_empty
      · intro policy hpolicy
        change Sample.corpAdded.after.trustProviderPolicies[providerId]? = some policy at hpolicy
        rw [hpolicies, Std.ExtTreeMap.getElem?_empty] at hpolicy
        cases hpolicy
  obtain ⟨record, after, heval, -⟩ := exists_run_of_any
    (x := (trustDeviceEnroll KnowledgeCore.Sample.ext "cert" "corp" "laptop" 2).eval
      (TrustDb.answer JsonText.parse noFaults TrustDb.noPlan) Sample.corpCompleted.after)
    (p := fun _ => true) (by decide +kernel)
  have hend := Sample.ends Anything (trustDeviceEnroll KnowledgeCore.Sample.ext "cert" "corp"
    "laptop" 2) Sample.corpCompleted.after
  rw [heval] at hend
  use record, after, hend
  exact ((completion_atomic_iff fun _ _ _ _ _ => JsonText.readsBack_parse _).2 _ _ _ hrun
    haccepted).2 _ _ _ _ _ _ hend

end Governance

end KnowledgeCore
