import KnowledgeCore.Governance.Runs

/-!
# Disabled providers

A provider that has been disabled is not accepted until it is added again, as long as it is only
looked up under its own id. An issuer is discovered by adding its provider again.
-/

namespace KnowledgeCore

namespace Governance

open Prog (Ends Safe safe_bind safe_check safe_perform_bind)
open TrustDb (Effect)
open TrustIdentity

-- No text is to be examined character by character.
attribute [local irreducible] isBlank TrustIdentity.normalizeIssuer
  TrustIdentity.providerIdFromIssuer TrustIdentity.providerRefIsIssuer

variable {ext : Externals} {parse : JsonParser} {mayFail : TrustOp → Prop} {db after : TrustDb}
  {providerId : String}

/-- The provider is there, and may not be used. -/
def Disabled (db : TrustDb) (providerId : String) : Prop :=
  ∃ row, db.providers[providerId]? = some row ∧ row.enabled = false

/-- Any statement may fail but the one that reads a provider. -/
def Readable : TrustOp → Prop
  | .readProvider _ => False
  | _ => True

/-! ### Statements and programs -/

theorem getElem?_alter_of_ne {α : Type} {t : Table α} {f : Option α → Option α}
    {key key' : String} (h : key ≠ key') :
  (t.alter key f)[key']? = t[key']?
  := by
  rw [Std.ExtTreeMap.getElem?_alter, if_neg]
  intro heq
  apply h (Std.LawfulEqCmp.compare_eq_iff_eq.mp heq)

/-- A disabled provider stays disabled unless it is added again. -/
theorem Disabled.effect (h : Disabled db providerId) {op : TrustOp} {ans : op.Ans}
    (hop : op.adds ≠ some providerId) (heffect : Effect parse mayFail op db ans after) :
  Disabled after providerId
  := by
  by_cases hwrites : op.writes = some .providers
  · obtain ⟨row, hrow, hdisabled⟩ := h
    obtain ⟨faults, heffect⟩ | ⟨-, error, -, rfl⟩ := heffect
    · cases op with
      | upsertProvider id issuer audience jwksUrl nowMs =>
        cases heffect
        use row
        rw [TrustDb.providers_withProviders, getElem?_alter_of_ne]
        · use hrow
        · rintro rfl
          contradiction
      | disableProvider id nowMs =>
        cases heffect
        by_cases hid : id = providerId
        · subst hid
          use { row with enabled := false, updatedAtMs := nowMs }
          rw [TrustDb.providers_withProviders, Std.ExtTreeMap.getElem?_alter_self, hrow]
          use rfl
        · use row
          rw [TrustDb.providers_withProviders, getElem?_alter_of_ne hid]
          use hrow
      | _ => cases hwrites
    · use row
  · have hsame : after.providers = db.providers := table_effect hwrites heffect
    rw [Disabled, hsame]
    exact h

theorem Disabled.ends (h : Disabled db providerId) {α : Type} {p : TrustProg α}
    {r : AppResult α} (hp : p.AllOps fun op => op.adds ≠ some providerId)
    (hend : Ends (Effect parse mayFail) p db r after) :
  Disabled after providerId
  := by
  refine hp.ends (C := fun t => Disabled t providerId) ?_ h hend
  intro op s ans t hop hs ht
  apply hs.effect hop ht

/-- A provider that can be read is found as it is. -/
theorem safe_loadProvider (providerId : String) :
  (loadProvider providerId).Safe (Effect parse Readable) (fun _ => True)
    (fun r t => t = db ∧ r = .ok (db.providers[providerId]?.map (recordOf providerId))) db
  := by
  rw [loadProvider, safe_perform_bind]
  use trivial
  intro ans t h
  obtain ⟨faults, h⟩ | ⟨hfail, -⟩ := h
  · cases h
    exact ⟨trivial, rfl, rfl⟩
  · cases hfail

/-- A provider that can be read is loaded, and the rest of a program goes on with it. -/
theorem safe_loadProvider_bind {α : Type} {f : Option IdentityProviderRecord → TrustProg α}
    {Q : AppResult α → TrustDb → Prop}
    (h : (f (db.providers[providerId]?.map (recordOf providerId))).Safe (Effect parse Readable)
      (fun _ => True) Q db) :
  (loadProvider providerId >>= f).Safe (Effect parse Readable) (fun _ => True) Q db
  := by
  rw [safe_bind]
  apply (safe_loadProvider providerId).mono (fun _ ht => ht)
  rintro r t ⟨rfl, rfl⟩
  exact h

/-- A provider is disabled in the end when it has been disabled with success. -/
theorem disabled_of_trustProviderDisable {nowMs : Int64} {r : AppResult IdentityProviderRecord}
    (h : Ends (Effect parse Readable) (trustProviderDisable providerId nowMs) db r after)
    (hok : r.isOk = true) :
  Disabled after providerId
  := by
  have hsafe : (trustProviderDisable providerId nowMs).Safe (Effect parse Readable)
      (fun _ => True) (fun r t => r.isOk = true → Disabled t providerId) db := by
    rw [trustProviderDisable]
    apply safe_loadProvider_bind
    apply safe_check trivial
    · rintro e - ⟨⟩
    intro provider hprovider
    obtain ⟨row, hrow, -⟩ := Option.map_eq_some_iff.mp (okOrElse_eq_ok.mp hprovider)
    rw [safe_perform_bind]
    use trivial
    intro ans t h
    apply safe_check trivial
    · rintro e - ⟨⟩
    intro _ hans
    have hdisabled : Disabled t providerId := by
      obtain ⟨faults, h⟩ | ⟨-, error, herror, -⟩ := h
      · cases h
        use { row with enabled := false, updatedAtMs := nowMs }
        rw [TrustDb.providers_withProviders, Std.ExtTreeMap.getElem?_alter_self, hrow]
        use rfl
      · cases herror
        cases hans
    rw [safe_perform_bind]
    use trivial
    intro ans u h
    have hkept : Disabled u providerId := hdisabled.effect (by rintro ⟨⟩) h
    apply safe_check trivial
    · rintro e - ⟨⟩
    intro _ _
    exact ⟨trivial, fun _ => hkept⟩
  apply hsafe.ends h hok

/-- No identity is started with a disabled provider under its own id. -/
theorem trustIdentityStart_refused (h : Disabled db providerId)
    (hissuer : providerRefIsIssuer providerId = false) {nowMs : Int64}
    {r : AppResult IdentityStartResult}
    (hend : Ends (Effect parse Readable) (trustIdentityStart ext providerId nowMs) db r after) :
  r.isOk = false ∧ after = db
  := by
  obtain ⟨row, hrow, hdisabled⟩ := h
  have hsafe : (trustIdentityStart ext providerId nowMs).Safe (Effect parse Readable)
      (fun _ => True) (fun r t => r.isOk = false ∧ t = db) db := by
    rw [trustIdentityStart, startProvider, if_neg (Bool.not_eq_true _ ▸ hissuer), Prog.bind_assoc]
    apply safe_loadProvider_bind
    rw [hrow, Option.map_some]
    dsimp only
    rw [Prog.pure_eq, Prog.ret_bind, if_pos (show (recordOf providerId row).enabled = false
      from hdisabled)]
    exact ⟨trivial, rfl, rfl⟩
  apply hsafe.ends hend

/-- No identity is completed with a disabled provider under its own id. -/
theorem trustIdentityComplete_refused (h : Disabled db providerId)
    (hissuer : providerRefIsIssuer providerId = false) {sessionId authCode : String}
    {nowMs : Int64} {r : AppResult Trust.IdentitySessionRecord}
    (hend : Ends (Effect parse Readable)
      (trustIdentityComplete ext sessionId providerId authCode nowMs) db r after) :
  r.isOk = false ∧ after = db
  := by
  obtain ⟨row, hrow, hdisabled⟩ := h
  have hsafe : (trustIdentityComplete ext sessionId providerId authCode nowMs).Safe
      (Effect parse Readable) (fun _ => True) (fun r t => r.isOk = false ∧ t = db) db := by
    rw [trustIdentityComplete, completeProvider, if_neg (Bool.not_eq_true _ ▸ hissuer),
      Prog.bind_assoc]
    apply safe_loadProvider_bind
    rw [hrow, Option.map_some, okOrElse_some, Prog.ofExcept_ok, Prog.ret_bind,
      if_pos (show (recordOf providerId row).enabled = false from hdisabled)]
    exact ⟨trivial, rfl, rfl⟩
  apply hsafe.ends hend

/-! ### Runs -/

/-- A provider is named by its id, by an issuer it is discovered as, or by its own issuer, in any
spelling of it. -/
def Names (ext : Externals) (db : TrustDb) (providerRef providerId : String) : Prop :=
  providerRef = providerId ∨ discoveredId ext providerRef = .ok providerId
    ∨ ∃ row issuer, db.providers[providerId]? = some row
      ∧ normalizeIssuer providerRef = .ok issuer ∧ normalizeIssuer row.issuer = .ok issuer

/-- The provider a call starts or completes an identity with. -/
def Call.identityRef : Call → Option String
  | .start providerRef _ => some providerRef
  | .complete _ providerRef _ _ => some providerRef
  | _ => none

/-- A call that goes to a provider in another way than by looking it up under its id. -/
def Call.Evades (ext : Externals) (db : TrustDb) (providerId : String) : Call → Prop
  | .discover issuer _ => discoveredId ext issuer = .ok providerId
  | .start providerRef _ | .complete _ providerRef _ _ =>
    Names ext db providerRef providerId
      ∧ ¬ (providerRef = providerId ∧ providerRefIsIssuer providerRef = false)
  | _ => False

/-- The provider is disabled with success. -/
def Step.Disables (step : Step) (providerId : String) : Prop :=
  (∃ nowMs, step.call = .disable providerId nowMs) ∧ step.result.isOk = true

/-- The provider is added, and may be used after that. -/
def Step.AddsAgain (step : Step) (providerId : String) : Prop :=
  (∃ issuer audience jwksUrl nowMs, step.call = .add providerId issuer audience jwksUrl nowMs)
    ∧ ¬ Disabled step.after providerId

/-- The provider has been disabled, and has not been added since. -/
def Barred (steps : List Step) (providerId : String) : Prop :=
  ∃ pre step post, steps = pre ++ step :: post ∧ step.Disables providerId
    ∧ ∀ later ∈ post, ¬ later.AddsAgain providerId

/-- A step does not go around the disabling of a provider. -/
def LooksUp (ext : Externals) (pre : List Step) (step : Step) : Prop :=
  ∀ providerId, Barred pre providerId → ¬ step.call.Evades ext step.before providerId

/-- A step does not accept a disabled provider. -/
def Refuses (ext : Externals) (pre : List Step) (step : Step) : Prop :=
  ∀ providerId providerRef, Barred pre providerId → step.call.identityRef = some providerRef →
    Names ext step.before providerRef providerId → step.result.isOk = false

theorem barred_concat {steps : List Step} {step : Step} (h : Barred (steps ++ [step]) providerId) :
  step.Disables providerId ∨ Barred steps providerId ∧ ¬ step.AddsAgain providerId
  := by
  obtain ⟨pre, found, post, heq, hdisables, hlater⟩ := h
  obtain rfl | ⟨post, last, rfl⟩ := post.eq_nil_or_concat
  · obtain ⟨-, hlast⟩ := List.append_inj' heq rfl
    obtain rfl := List.singleton_inj.mp hlast
    left
    exact hdisables
  · rw [List.concat_eq_append] at heq hlater
    rw [← List.cons_append, ← List.append_assoc] at heq
    obtain ⟨rfl, hlast⟩ := List.append_inj' heq rfl
    obtain rfl := List.singleton_inj.mp hlast
    right
    constructor
    · use pre, found, post, rfl, hdisables
      intro later hmem
      apply hlater later (List.mem_append_left _ hmem)
    · apply hlater step (List.mem_append_right _ (List.mem_singleton_self step))

theorem allReads_adds (providerId : String) :
  AllReads fun op => op.adds ≠ some providerId
  := by
  intro op hwrites
  cases op with
  | upsertProvider => cases hwrites
  | _ => rintro ⟨⟩

theorem upserts_adds {other : String} (h : other ≠ providerId) :
  Upserts (fun op => op.adds ≠ some providerId) other
  := by
  intro issuer audience jwksUrl nowMs
  constructor
  · intro heq
    apply h (Option.some.inj heq)
  · rintro ⟨⟩

/-- A call that does not go around it leaves a disabled provider disabled, and does not accept
it. -/
theorem Disabled.call (h : Disabled db providerId) {call : Call} {result : AppResult Unit}
    (hevades : ¬ call.Evades ext db providerId)
    (hadds : ¬ Step.AddsAgain ⟨call, db, result, after⟩ providerId)
    (hend : Ends (Effect parse Readable) (call.prog ext parse) db result after) :
  Disabled after providerId ∧ ∀ providerRef, call.identityRef = some providerRef →
    Names ext db providerRef providerId → result.isOk = false
  := by
  have hreads := allReads_adds providerId
  cases call with
  | add other issuer audience jwksUrl nowMs =>
    obtain ⟨r, hr, -⟩ := Prog.ends_bind_ret hend
    constructor
    · by_cases hother : other = providerId
      · subst hother
        by_contra hnot
        apply hadds
        use ⟨issuer, audience, jwksUrl, nowMs, rfl⟩
      · apply h.ends (allOps_trustProviderAdd hreads (upserts_adds hother) _ _ _ _) hr
    · rintro providerRef ⟨⟩
  | disable other nowMs =>
    obtain ⟨r, hr, -⟩ := Prog.ends_bind_ret hend
    constructor
    · apply h.ends (allOps_trustProviderDisable hreads _ _) hr
      · rintro ⟨⟩
      · rintro ⟨⟩
    · rintro providerRef ⟨⟩
  | discover issuer nowMs =>
    obtain ⟨r, hr, -⟩ := Prog.ends_bind_ret hend
    constructor
    · apply h.ends (allOps_discoverIdentityProvider hreads _ _) hr
      intro other hother
      apply upserts_adds
      rintro rfl
      apply hevades hother
    · rintro providerRef ⟨⟩
  | start providerRef nowMs =>
    obtain ⟨r, hr, hok⟩ := Prog.ends_bind_ret hend
    by_cases hlooks : providerRef = providerId ∧ providerRefIsIssuer providerRef = false
    · obtain ⟨rfl, hissuer⟩ := hlooks
      obtain ⟨herror, rfl⟩ := trustIdentityStart_refused h hissuer hr
      use h
      intro _ _ _
      rw [hok, herror]
    · have hnames : ¬ Names ext db providerRef providerId := fun hnames =>
        hevades ⟨hnames, hlooks⟩
      constructor
      · apply h.ends (allOps_trustIdentityStart hreads _ _ _) hr
        · intro _ other hother
          apply upserts_adds
          rintro rfl
          apply hnames (.inr (.inl hother))
        · intro _
          apply upserts_adds
          intro heq
          apply hnames (.inl heq)
      · rintro _ ⟨⟩ hnames'
        contradiction
  | complete sessionId providerRef authCode nowMs =>
    obtain ⟨r, hr, hok⟩ := Prog.ends_bind_ret hend
    by_cases hlooks : providerRef = providerId ∧ providerRefIsIssuer providerRef = false
    · obtain ⟨rfl, hissuer⟩ := hlooks
      obtain ⟨herror, rfl⟩ := trustIdentityComplete_refused h hissuer hr
      use h
      intro _ _ _
      rw [hok, herror]
    · have hnames : ¬ Names ext db providerRef providerId := fun hnames =>
        hevades ⟨hnames, hlooks⟩
      constructor
      · apply h.ends (allOps_trustIdentityComplete hreads _ _ _ _) hr
        · intro _ other hother
          apply upserts_adds
          rintro rfl
          apply hnames (.inr (.inl hother))
        · rintro _ ⟨⟩
      · rintro _ ⟨⟩ hnames'
        contradiction
  | setPolicy other maxClockSkewMs requireClaimsJson =>
    obtain ⟨r, hr, -⟩ := Prog.ends_bind_ret hend
    constructor
    · apply h.ends (TrustPolicy.allOps_trustProviderPolicySet hreads _ _ _) hr
      rintro _ ⟨⟩
    · rintro providerRef ⟨⟩
  | setTenantTemplate other issuer audience tenantId =>
    obtain ⟨r, hr, -⟩ := Prog.ends_bind_ret hend
    constructor
    · apply h.ends (TrustPolicy.allOps_trustProviderPolicySetTenantTemplate hreads _ _ _ _) hr
      rintro _ ⟨⟩
    · rintro providerRef ⟨⟩
  | revoke sessionId revokedBy nowMs =>
    obtain ⟨r, hr, -⟩ := Prog.ends_bind_ret hend
    constructor
    · apply h.ends (TrustPolicy.allOps_trustSessionRevoke hreads _ _ _) hr
      rintro ⟨⟩
    · rintro providerRef ⟨⟩
  | authenticate sessionId nowMs =>
    obtain ⟨r, hr, -⟩ := Prog.ends_bind_ret hend
    constructor
    · apply h.ends (allOps_authenticateIdentitySession hreads _ _) hr
    · rintro providerRef ⟨⟩
  | enroll certId other deviceId nowMs =>
    obtain ⟨r, hr, -⟩ := Prog.ends_bind_ret hend
    constructor
    · apply h.ends (allOps_trustDeviceEnroll hreads _ _ _) hr
      rintro _ ⟨⟩
    · rintro providerRef ⟨⟩

/-- A disabled provider is not accepted until it is added again, in every run whose steps do not go
around the disabling. -/
theorem disabling_sticky {steps : List Step} (h : Run ext parse Readable db steps after)
    (hlooks : EachStep (LooksUp ext) steps) :
  EachStep (Refuses ext) steps
  := by
  have hboth : EachStep (Refuses ext) steps
      ∧ ∀ providerId, Barred steps providerId → Disabled after providerId := by
    induction h with
    | nil =>
      use eachStep_nil _
      rintro providerId ⟨pre, step, post, heq, -⟩
      cases pre <;> cases heq
    | @snoc pre before last call result hrun hend ih =>
      obtain ⟨hlooks, hlast⟩ := eachStep_concat.mp hlooks
      obtain ⟨hrefuses, hdisabled⟩ := ih hlooks
      constructor
      · refine eachStep_concat.mpr ⟨hrefuses, ?_⟩
        intro providerId providerRef hbarred href hnames
        by_cases hadds : Step.AddsAgain ⟨call, before, result, last⟩ providerId
        · obtain ⟨⟨issuer, audience, jwksUrl, nowMs, rfl⟩, -⟩ := hadds
          cases href
        · apply ((hdisabled providerId hbarred).call (hlast providerId hbarred) hadds hend).2
            providerRef href hnames
      · intro providerId hbarred
        obtain ⟨⟨nowMs, rfl⟩, hok⟩ | ⟨hbarred, hadds⟩ := barred_concat hbarred
        · obtain ⟨r, hr, hisOk⟩ := Prog.ends_bind_ret hend
          apply disabled_of_trustProviderDisable hr
          rw [← hisOk]
          exact hok
        · apply ((hdisabled providerId hbarred).call (hlast providerId hbarred) hadds hend).1
  exact hboth.1

/-- The provider that `https://issuer.example` is discovered as. -/
def Sample.discoveredId : String := "auto-d7d0d7d0d7d0"

def Sample.discovered : Step :=
  Sample.step (.discover "https://issuer.example" 0) Sample.trustDb

def Sample.disabled : Step :=
  Sample.step (.disable Sample.discoveredId 1) Sample.discovered.after

def Sample.completed : Step :=
  Sample.step (.complete KnowledgeCore.Sample.sessionId "https://issuer.example" "sub:alice" 2)
    Sample.disabled.after

/-- A disabled provider is accepted again when it is named by its issuer. -/
theorem discovery_accepts_disabled :
  ¬ ∀ steps after, Run KnowledgeCore.Sample.ext JsonText.parse Readable Sample.trustDb steps after →
    EachStep (Refuses KnowledgeCore.Sample.ext) steps
  := by
  intro h
  have hid : (discoveredId KnowledgeCore.Sample.ext "https://issuer.example").toOption
    = some Sample.discoveredId := by decide +kernel
  have hdisabled : Sample.disabled.result.isOk = true := by decide +kernel
  have hcompleted : Sample.completed.result.isOk = true := by decide +kernel
  have hrun : Run KnowledgeCore.Sample.ext JsonText.parse Readable Sample.trustDb
      [Sample.discovered, Sample.disabled, Sample.completed] Sample.completed.after :=
    Sample.snoc_step (Sample.snoc_step (Sample.snoc_step .nil _) _) _
  have hbarred : Barred [Sample.discovered, Sample.disabled] Sample.discoveredId := by
    use [Sample.discovered], Sample.disabled, [], rfl, ⟨⟨1, rfl⟩, hdisabled⟩
    rintro later ⟨⟩
  have hrefused : Sample.completed.result.isOk = false :=
    h _ _ hrun [Sample.discovered, Sample.disabled] Sample.completed [] rfl Sample.discoveredId
      "https://issuer.example" hbarred rfl (.inr (.inl (ok_of_toOption hid)))
  rw [hcompleted] at hrefused
  cases hrefused

def Sample.corpDisabled : Step :=
  Sample.step (.disable "corp" 1) Sample.corpAdded.after

def Sample.corpStarted : Step :=
  Sample.step (.start "corp" 2) Sample.corpDisabled.after

/-- A provider that is disabled and then looked up under its id. -/
theorem disabling_sticky_corp :
  Barred [Sample.corpAdded, Sample.corpDisabled] "corp"
    ∧ EachStep (Refuses KnowledgeCore.Sample.ext)
      [Sample.corpAdded, Sample.corpDisabled, Sample.corpStarted]
  := by
  have hdisabled : Sample.corpDisabled.result.isOk = true := by decide +kernel
  have hissuer : providerRefIsIssuer "corp" = false := by decide +kernel
  have hrun : Run KnowledgeCore.Sample.ext JsonText.parse Readable Sample.trustDb
      [Sample.corpAdded, Sample.corpDisabled, Sample.corpStarted] Sample.corpStarted.after :=
    Sample.snoc_step (Sample.snoc_step (Sample.snoc_step .nil _) _) _
  constructor
  · use [Sample.corpAdded], Sample.corpDisabled, [], rfl, ⟨⟨1, rfl⟩, hdisabled⟩
    rintro later ⟨⟩
  · apply disabling_sticky hrun
    refine eachStep_concat.mpr ⟨eachStep_concat.mpr ⟨eachStep_concat.mpr ⟨eachStep_nil _, ?_⟩, ?_⟩, ?_⟩
    · rintro providerId - ⟨⟩
    · rintro providerId - ⟨⟩
    · rintro providerId hbarred ⟨-, hnot⟩
      apply hnot
      obtain ⟨⟨nowMs, hcall⟩, -⟩ | ⟨hbarred, -⟩ := barred_concat hbarred
      · cases hcall
        use rfl
      · change Barred ([] ++ [Sample.corpAdded]) providerId at hbarred
        obtain ⟨⟨nowMs, hcall⟩, -⟩ | ⟨hbarred, -⟩ := barred_concat hbarred
        · cases hcall
        · obtain ⟨pre, step, post, heq, -⟩ := hbarred
          cases pre <;> cases heq

end Governance

end KnowledgeCore
