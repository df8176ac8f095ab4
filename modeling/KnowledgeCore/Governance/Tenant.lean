import KnowledgeCore.Governance.Completion

/-!
# The template of a tenant

The template asks for a claim of the tenant, which no session makes. A provider with such a policy
turns every completion down.
-/

namespace KnowledgeCore

open Prog (Ends safe_bind safe_check safe_perform_bind)
open TrustDb (Effect Anything)
open TrustIdentity

variable {ext : Externals} {parse : JsonParser} {mayFail : TrustOp → Prop} {db after : TrustDb}
  {sessionId providerRef authCode providerId : String} {nowMs : Int64}

-- No text is to be examined character by character.
attribute [local irreducible] isBlank TrustIdentity.normalizeIssuer
  TrustIdentity.providerIdFromIssuer TrustIdentity.providerRefIsIssuer

/-! ### What a completion that succeeds has passed -/

/-- The policy of the provider admits the session of a completion that succeeds. -/
theorem TrustIdentity.admits_of_complete {record : Trust.IdentitySessionRecord}
    (h : Ends (Effect parse mayFail) (trustIdentityComplete ext sessionId providerRef authCode
      nowMs) db (.ok record) after)
    {policy : TrustProviderPolicyRow}
    (hpolicy : db.trustProviderPolicies[record.providerId]? = some policy) :
  ∃ audience issuer subject text,
    CanonJson.toCanonicalBytes (sessionClaims audience issuer subject nowMs
        (nowMs + DEFAULT_SESSION_TTL_MS)) = .ok text
      ∧ TrustPolicy.Admits parse policy text nowMs (nowMs + DEFAULT_SESSION_TTL_MS) nowMs
  := by
  have hkeeps {op : TrustOp} {ans : op.Ans} {s t : TrustDb} (hop : op.writes ≠ some .policies)
      (hs : s.trustProviderPolicies = db.trustProviderPolicies)
      (ht : Effect parse mayFail op s ans t) :
      t.trustProviderPolicies = db.trustProviderPolicies := by
    rw [← hs]
    apply table_effect hop ht
  have hops : (completeProvider ext providerRef nowMs).AllOps
      fun op => op.writes ≠ some .policies := by
    apply allOps_completeProvider
    · intro op hwrites
      rw [hwrites]
      rintro ⟨⟩
    · intro _ providerId _ issuer audience jwksUrl nowMs
      constructor
      · rintro ⟨⟩
      · rintro ⟨⟩
  have hsafe : (trustIdentityComplete ext sessionId providerRef authCode nowMs).Safe
      (Effect parse mayFail) (fun _ => True)
      (fun r _ => ∀ record, r = .ok record → ∀ policy,
        db.trustProviderPolicies[record.providerId]? = some policy →
        ∃ audience issuer subject text,
          CanonJson.toCanonicalBytes (sessionClaims audience issuer subject nowMs
              (nowMs + DEFAULT_SESSION_TTL_MS)) = .ok text
            ∧ TrustPolicy.Admits parse policy text nowMs (nowMs + DEFAULT_SESSION_TTL_MS)
              nowMs) db := by
    rw [trustIdentityComplete, safe_bind]
    apply (hops.safe (C := fun t => t.trustProviderPolicies = db.trustProviderPolicies)
      (fun _ _ _ _ => hkeeps) rfl).mono (fun _ _ => trivial)
    rintro (e | provider) s hs
    · rintro record ⟨⟩
    rw [Prog.then_ok]
    split_ifs with henabled hblank
    · use trivial
      rintro record ⟨⟩
    · use trivial
      rintro record ⟨⟩
    · rw [completeWith]
      apply safe_check trivial
      · rintro e - record ⟨⟩
      intro text htext
      rw [safe_perform_bind]
      use trivial
      intro inserted t ht
      have ht := hkeeps (by rintro ⟨⟩) hs ht
      apply safe_check trivial
      · rintro e - record ⟨⟩
      intro _ _
      rw [safe_perform_bind]
      use trivial
      intro allowed u hu
      apply safe_check trivial
      · rintro e - record ⟨⟩
      rintro ⟨⟩ rfl
      use trivial
      rintro record ⟨⟩ policy hpolicy
      obtain ⟨faults, hu⟩ | ⟨-, error, ⟨⟩, -⟩ := hu
      have hensure := TrustPolicy.ensureSessionPolicyAllows_eq_ok.mp (congrArg Prod.fst hu)
      rw [ht] at hensure
      exact ⟨_, _, _, text, htext, hensure.2.2.2 policy hpolicy⟩
  apply hsafe.ends h record rfl policy hpolicy

/-! ### What the template asks for -/

namespace TrustPolicy

/-- The claims of the template are listed in the order of their keys. -/
theorem normalise_tenantClaims (audience issuer tenantId : String) :
  (tenantClaims audience issuer tenantId).normalise = tenantClaims audience issuer tenantId
  := by
  have hkeys : ["aud", "iss", "tenant"].Pairwise (· ≤ ·) := by decide
  rw [tenantClaims, Json.normalise, Json.obj.injEq]
  apply List.Pairwise.insertionSort_eq
  apply List.pairwise_map.mp hkeys

/-- A policy that has been set with success is the one given, with its claims in order. -/
theorem policy_of_trustProviderPolicySet {maxClockSkewMs : Int64} {requireClaimsJson : String}
    {r : AppResult TrustProviderPolicyV1}
    (h : Ends (Effect parse mayFail) (trustProviderPolicySet parse providerId maxClockSkewMs
      requireClaimsJson) db r after)
    (hok : r.isOk = true) :
  ∃ claims text, parseRequireClaims parse requireClaimsJson = .ok claims
    ∧ CanonJson.toCanonicalBytes (.obj claims) = .ok text
    ∧ after.trustProviderPolicies[providerId]?
        = some { maxClockSkewMs, requireClaimsJson := text }
  := by
  have hsafe : (trustProviderPolicySet parse providerId maxClockSkewMs requireClaimsJson).Safe
      (Effect parse mayFail) (fun _ => True)
      (fun r t => r.isOk = true → ∃ claims text,
        parseRequireClaims parse requireClaimsJson = .ok claims
          ∧ CanonJson.toCanonicalBytes (.obj claims) = .ok text
          ∧ t.trustProviderPolicies[providerId]?
              = some { maxClockSkewMs, requireClaimsJson := text }) db := by
    rw [trustProviderPolicySet]
    split_ifs with hblank hskew
    · use trivial
      rintro ⟨⟩
    · use trivial
      rintro ⟨⟩
    rw [safe_perform_bind]
    use trivial
    intro providerExists s _
    apply safe_check trivial
    · rintro e - ⟨⟩
    intro providerExists _
    split_ifs with hmissing
    · use trivial
      rintro ⟨⟩
    apply safe_check trivial
    · rintro e - ⟨⟩
    intro claims hclaims
    apply safe_check trivial
    · rintro e - ⟨⟩
    intro text htext
    rw [safe_perform_bind]
    use trivial
    intro written t ht
    apply safe_check trivial
    · rintro e - ⟨⟩
    intro _ hwritten
    have hrow : t.trustProviderPolicies[providerId]?
        = some { maxClockSkewMs, requireClaimsJson := text } := by
      obtain ⟨faults, ht⟩ | ⟨-, error, ⟨⟩, -⟩ := ht
      · rw [TrustDb.perform] at ht
        split_ifs at ht with hprovider
        · cases ht
          apply Std.ExtTreeMap.getElem?_insert_self
        · cases ht
          cases hwritten
      · cases hwritten
    have hget : (trustProviderPolicyGet providerId).AllOps fun op => op.writes = none :=
      allOps_trustProviderPolicyGet (fun _ hwrites => hwrites) providerId
    have hops := hget.bind fun policy => Prog.allOps_ofExcept (okOrElse (policyError
      "KC_TRUST_PROVIDER_POLICY_INVALID" "policy disappeared after write"
      [("provider_id", .str providerId)]) policy)
    refine (hops.safe (C := fun u => u.trustProviderPolicies = t.trustProviderPolicies) ?_ rfl).mono
      (fun _ _ => trivial) ?_
    · intro op u ans v hop hu hv
      rw [← hu]
      apply table_effect (T := .policies) _ hv
      rw [hop]
      rintro ⟨⟩
    · intro r u hu _
      rw [hu]
      exact ⟨claims, text, hclaims, htext, hrow⟩
  apply hsafe.ends h hok

/-- The policy of a template asks for a claim of a tenant. -/
theorem policy_of_setTenantTemplate
    (hparse : ∀ audience issuer tenantId, ReadsBack parse (tenantClaims audience issuer tenantId))
    {issuer audience tenantId : String} {r : AppResult TrustProviderPolicyV1}
    (h : Ends (Effect parse mayFail) (trustProviderPolicySetTenantTemplate parse providerId issuer
      audience tenantId) db r after)
    (hok : r.isOk = true) :
  ∃ policy required tenant, after.trustProviderPolicies[providerId]? = some policy
    ∧ parseRequireClaims parse policy.requireClaimsJson = .ok required
    ∧ ("tenant", .str tenant) ∈ required
  := by
  have hsafe : (trustProviderPolicySetTenantTemplate parse providerId issuer audience tenantId).Safe
      (Effect parse mayFail) (fun _ => True)
      (fun r t => r.isOk = true → ∃ policy required tenant,
        t.trustProviderPolicies[providerId]? = some policy
          ∧ parseRequireClaims parse policy.requireClaimsJson = .ok required
          ∧ ("tenant", .str tenant) ∈ required) db := by
    rw [trustProviderPolicySetTenantTemplate]
    apply safe_check trivial
    · rintro e - ⟨⟩
    intro tenant _
    dsimp only
    split_ifs with hrequired
    · use trivial
      rintro ⟨⟩
    apply safe_check trivial
    · rintro e - ⟨⟩
    intro text htext
    apply Prog.safe_iff.mpr
    use fun _ _ _ => trivial
    intro r t hend hok
    obtain ⟨claims, text', hclaims, htext', hpolicy⟩ := policy_of_trustProviderPolicySet hend hok
    have hread := hparse _ _ _ text htext
    rw [normalise_tenantClaims, (parseRequireClaims_eq_ok.mp hclaims).1] at hread
    rw [Except.ok.inj hread, htext] at htext'
    cases htext'
    use { maxClockSkewMs := DEFAULT_TENANT_TEMPLATE_CLOCK_SKEW_MS, requireClaimsJson := text },
      claims, tenant, hpolicy, hclaims
    cases Except.ok.inj hread
    simp
  apply hsafe.ends h hok

end TrustPolicy

/-! ### Nobody passes the template -/

namespace Governance

/-- Some completion with a provider succeeds under the policy the provider has. -/
def Satisfiable (ext : Externals) (parse : JsonParser) (db : TrustDb) (providerId : String) :
    Prop :=
  ∃ later sessionId providerRef authCode nowMs record last,
    later.trustProviderPolicies[providerId]? = db.trustProviderPolicies[providerId]?
      ∧ Ends (Effect parse Anything) (trustIdentityComplete ext sessionId providerRef authCode
          nowMs) later (.ok record) last
      ∧ record.providerId = providerId

/-- No completion succeeds under a policy that asks for a claim of a tenant. -/
theorem not_satisfiable
    (hparse : ∀ audience issuer subject issuedAtMs expiresAtMs,
      ReadsBack parse (sessionClaims audience issuer subject issuedAtMs expiresAtMs))
    {policy : TrustProviderPolicyRow} {required : List (String × Json)} {tenant : String}
    (hpolicy : db.trustProviderPolicies[providerId]? = some policy)
    (hrequired : TrustPolicy.parseRequireClaims parse policy.requireClaimsJson = .ok required)
    (hmem : ("tenant", .str tenant) ∈ required) :
  ¬ Satisfiable ext parse db providerId
  := by
  rintro ⟨later, sessionId, providerRef, authCode, nowMs, record, last, hsame, hend, rfl⟩
  rw [hpolicy] at hsame
  obtain ⟨audience, issuer, subject, text, htext, hadmits⟩ := admits_of_complete hend hsame
  obtain ⟨-, -, required', hrequired', hgranted⟩ :=
    (admits_iff_grants (hparse _ _ _ _ _) htext).mp hadmits
  rw [hrequired] at hrequired'
  cases hrequired'
  have hgranted := hgranted _ hmem
  simp at hgranted

/-- Once the template of a tenant has been set for a provider, no completion with the provider
succeeds under it. -/
theorem tenant_template_unsatisfiable
    (hclaims : ∀ audience issuer tenantId,
      ReadsBack parse (TrustPolicy.tenantClaims audience issuer tenantId))
    (hsession : ∀ audience issuer subject issuedAtMs expiresAtMs,
      ReadsBack parse (sessionClaims audience issuer subject issuedAtMs expiresAtMs))
    {issuer audience tenantId : String} {r : AppResult TrustPolicy.TrustProviderPolicyV1}
    (h : Ends (Effect parse Anything) (TrustPolicy.trustProviderPolicySetTenantTemplate parse
      providerId issuer audience tenantId) db r after)
    (hok : r.isOk = true) :
  ¬ Satisfiable ext parse after providerId
  := by
  obtain ⟨policy, required, tenant, hpolicy, hrequired, hmem⟩ :=
    TrustPolicy.policy_of_setTenantTemplate hclaims h hok
  apply not_satisfiable hsession hpolicy hrequired hmem

/-- A template that is accepted and that no completion passes. -/
theorem tenant_template_locks_out :
  ¬ ∀ db providerId issuer audience tenantId r after,
    Ends (Effect JsonText.parse Anything) (TrustPolicy.trustProviderPolicySetTenantTemplate
        JsonText.parse providerId issuer audience tenantId) db r after →
      r.isOk = true → Satisfiable KnowledgeCore.Sample.ext JsonText.parse after providerId
  := by
  intro h
  have hend := Sample.ends Anything (TrustPolicy.trustProviderPolicySetTenantTemplate
    JsonText.parse "corp" "https://corp.example" "desktop" "Tenant-A") Sample.corpAdded.after
  obtain ⟨policy, required, tenant, hpolicy, hrequired, hmem⟩ :=
    TrustPolicy.policy_of_setTenantTemplate (fun _ _ _ => JsonText.readsBack_parse _) hend
      (by decide +kernel)
  apply not_satisfiable (fun _ _ _ _ _ => JsonText.readsBack_parse _) hpolicy hrequired hmem
  apply h _ _ _ _ _ _ _ hend (by decide +kernel)

/-- A tenant of the provider `corp`. -/
theorem tenant_template_unsatisfiable_corp :
  Sample.tenantSet.result.isOk = true
    ∧ ¬ Satisfiable KnowledgeCore.Sample.ext JsonText.parse
      ((TrustPolicy.trustProviderPolicySetTenantTemplate JsonText.parse "corp"
          "https://corp.example" "desktop" "Tenant-A").eval
        (TrustDb.answer JsonText.parse noFaults TrustDb.noPlan) Sample.corpAdded.after).2 "corp"
  := by
  use by decide +kernel
  apply tenant_template_unsatisfiable (fun _ _ _ => JsonText.readsBack_parse _)
    (fun _ _ _ _ _ => JsonText.readsBack_parse _) (Sample.ends Anything _ _)
  decide +kernel

end Governance

end KnowledgeCore
