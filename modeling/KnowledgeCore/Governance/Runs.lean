import KnowledgeCore.Governance.Identity
import KnowledgeCore.Lifecycle.Outcome

/-!
# Runs of the governance of identities

What each call may do to the tables, whichever of its statements fail. A program leaves every table
alone that none of its statements writes.
-/

namespace KnowledgeCore

open TrustDb (Effect)

/-! ### What the statements write -/

/-- The tables that the statements write. -/
inductive TrustTable
  | providers
  | identityProviders
  | policies
  | sessions
  | revocations
  | certificates
deriving DecidableEq

abbrev TrustTable.Rows : TrustTable → Type
  | .providers => Table TrustProviderRecord
  | .identityProviders => Table IdentityProviderRow
  | .policies => Table TrustProviderPolicyRow
  | .sessions => Table IdentitySessionRow
  | .revocations => Table Unit
  | .certificates => Table DeviceCertificateRow

def TrustDb.table (db : TrustDb) : (T : TrustTable) → T.Rows
  | .providers => db.providers
  | .identityProviders => db.identityProviders
  | .policies => db.trustProviderPolicies
  | .sessions => db.identitySessions
  | .revocations => db.trustSessionRevocations
  | .certificates => db.deviceCertificates

/-- The table a statement writes. -/
def TrustOp.writes : TrustOp → Option TrustTable
  | .upsertProvider _ _ _ _ _ => some .providers
  | .upsertLegacyProvider _ _ _ _ => some .identityProviders
  | .disableProvider _ _ => some .providers
  | .disableLegacyProvider _ => some .identityProviders
  | .upsertPolicy _ _ => some .policies
  | .insertSession _ _ => some .sessions
  | .revoke _ => some .revocations
  | .insertCertificate _ _ _ => some .certificates
  | _ => none

/-- The provider that a statement adds, or adds again. -/
def TrustOp.adds : TrustOp → Option String
  | .upsertProvider providerId _ _ _ _ => some providerId
  | _ => none

variable {ext : Externals} {parse : JsonParser} {faults : Faults}
  {mayFail : TrustOp → Prop} {db after : TrustDb}

theorem table_perform {op : TrustOp} {T : TrustTable} (h : op.writes ≠ some T) (db : TrustDb) :
  (TrustDb.perform parse faults op db).2.table T = db.table T
  := by
  cases op with
  | upsertPolicy providerId policy =>
    rw [TrustDb.perform]
    split_ifs with hprovider
    · cases T with
      | policies => contradiction
      | _ => rfl
    · rfl
  | insertSession sessionId session =>
    rw [TrustDb.perform, TrustDb.insertSession]
    split_ifs with hid hprovider
    · rfl
    · cases T with
      | sessions => contradiction
      | _ => rfl
    · rfl
  | revoke sessionId =>
    rw [TrustDb.perform]
    split_ifs with hsession
    · cases T with
      | revocations => contradiction
      | _ => rfl
    · rfl
  | insertCertificate certId providerId certificate =>
    rw [TrustDb.perform, TrustDb.insertCertificate]
    split_ifs with hid hrefers
    · rfl
    · rfl
    · cases T with
      | certificates => contradiction
      | _ => rfl
  | upsertProvider providerId issuer audience jwksUrl nowMs =>
    cases T with
    | providers => contradiction
    | _ => rfl
  | upsertLegacyProvider providerId issuer audience nowMs =>
    cases T with
    | identityProviders => contradiction
    | _ => rfl
  | disableProvider providerId nowMs =>
    cases T with
    | providers => contradiction
    | _ => rfl
  | disableLegacyProvider providerId =>
    cases T with
    | identityProviders => contradiction
    | _ => rfl
  | _ => rfl

/-- A statement leaves every table alone but the one it writes. -/
theorem table_effect {op : TrustOp} {T : TrustTable} {ans : op.Ans} (hop : op.writes ≠ some T)
    (h : Effect parse mayFail op db ans after) :
  after.table T = db.table T
  := by
  obtain ⟨faults, h⟩ | ⟨-, error, -, rfl⟩ := h
  · rw [← table_perform hop db, h]
  · rfl

/-- A program leaves every table alone that none of its statements writes. -/
theorem table_ends {α : Type} {p : TrustProg α} {T : TrustTable} {r : AppResult α}
    (hp : p.AllOps fun op => op.writes ≠ some T)
    (h : Prog.Ends (Effect parse mayFail) p db r after) :
  after.table T = db.table T
  := by
  apply hp.ends_frame (fun db => db.table T) _ h
  intro op s ans t hop ht
  apply table_effect hop ht

/-! ### The statements of the programs -/

/-- The statements that only read are among the given ones. -/
def AllReads (P : TrustOp → Prop) : Prop :=
  ∀ op : TrustOp, op.writes = none → P op

-- No text is to be examined character by character.
attribute [local irreducible] isBlank TrustIdentity.normalizeIssuer
  TrustIdentity.providerIdFromIssuer TrustIdentity.providerRefIsIssuer

namespace TrustIdentity

variable {P : TrustOp → Prop}

theorem allOps_loadProvider (hreads : AllReads P) (providerId : String) :
  (loadProvider providerId).AllOps P
  := by
  rw [loadProvider]
  use hreads _ rfl
  intro found
  cases found with
  | ok row => trivial
  | error e =>
    use hreads _ rfl
    intro legacy
    apply Prog.AllOps.bind (Prog.allOps_ofExcept _)
    intro row
    trivial

/-- The statements that add a provider are among the given ones. -/
def Upserts (P : TrustOp → Prop) (providerId : String) : Prop :=
  ∀ (issuer audience jwksUrl : String) (nowMs : Int64),
    P (.upsertProvider providerId issuer audience jwksUrl nowMs)
      ∧ P (.upsertLegacyProvider providerId issuer audience nowMs)

/-- The provider that an issuer is discovered as. -/
def discoveredId (ext : Externals) (issuer : String) : AppResult String := do
  let normalized ← normalizeIssuer issuer
  providerIdFromIssuer ext normalized

theorem allOps_upsertIdentityProviderWithJwks (hreads : AllReads P) {providerId : String}
    (h : Upserts P providerId) (issuer audience jwksUrl : String) (nowMs : Int64) :
  (upsertIdentityProviderWithJwks providerId issuer audience jwksUrl nowMs).AllOps P
  := by
  rw [upsertIdentityProviderWithJwks]
  split_ifs with hblank
  · trivial
  · use (h issuer audience jwksUrl nowMs).1
    intro written
    apply Prog.AllOps.bind (Prog.allOps_ofExcept _)
    intro _
    use (h issuer audience jwksUrl nowMs).2
    intro written
    apply Prog.AllOps.bind (Prog.allOps_ofExcept _)
    intro _
    apply Prog.AllOps.bind (allOps_loadProvider hreads providerId)
    intro loaded
    apply Prog.allOps_ofExcept

theorem allOps_discoverIdentityProvider (hreads : AllReads P) {issuer : String}
    (h : ∀ providerId, discoveredId ext issuer = .ok providerId → Upserts P providerId)
    (nowMs : Int64) :
  (discoverIdentityProvider ext issuer nowMs).AllOps P
  := by
  rw [discoverIdentityProvider]
  rw [discoveredId] at h
  cases hnormalized : normalizeIssuer issuer with
  | error e => trivial
  | ok normalized =>
    rw [hnormalized, AppResult.ok_bind] at h
    rw [Prog.ofExcept_ok, Prog.ret_bind]
    cases hid : providerIdFromIssuer ext normalized with
    | error e => trivial
    | ok providerId => apply allOps_upsertIdentityProviderWithJwks hreads (h providerId hid)

theorem allOps_trustProviderAdd (hreads : AllReads P) {providerId : String}
    (h : Upserts P providerId) (issuer audience jwksUrl : String) (nowMs : Int64) :
  (trustProviderAdd providerId issuer audience jwksUrl nowMs).AllOps P
  := by
  rw [trustProviderAdd]
  split_ifs with hblank
  · trivial
  · apply allOps_upsertIdentityProviderWithJwks hreads h

theorem allOps_trustProviderDisable (hreads : AllReads P) {providerId : String} {nowMs : Int64}
    (hprovider : P (.disableProvider providerId nowMs))
    (hlegacy : P (.disableLegacyProvider providerId)) :
  (trustProviderDisable providerId nowMs).AllOps P
  := by
  rw [trustProviderDisable]
  apply Prog.AllOps.bind (allOps_loadProvider hreads providerId)
  intro loaded
  apply Prog.AllOps.bind (Prog.allOps_ofExcept _)
  intro provider
  use hprovider
  intro disabled
  apply Prog.AllOps.bind (Prog.allOps_ofExcept _)
  intro _
  use hlegacy
  intro disabled
  apply Prog.AllOps.bind (Prog.allOps_ofExcept _)
  intro _
  trivial

theorem allOps_startProvider (hreads : AllReads P) {providerRef : String}
    (hdiscover : providerRefIsIssuer providerRef = true → ∀ providerId,
      discoveredId ext providerRef = .ok providerId → Upserts P providerId)
    (hadd : providerRefIsIssuer providerRef = false → Upserts P providerRef) (nowMs : Int64) :
  (startProvider ext providerRef nowMs).AllOps P
  := by
  rw [startProvider]
  split_ifs with hissuer
  · apply allOps_discoverIdentityProvider hreads (hdiscover hissuer)
  · apply Prog.AllOps.bind (allOps_loadProvider hreads providerRef)
    intro loaded
    cases loaded with
    | some existing => trivial
    | none =>
      apply allOps_upsertIdentityProviderWithJwks hreads
        (hadd (Bool.eq_false_of_not_eq_true hissuer))

theorem allOps_trustIdentityStart (hreads : AllReads P) {providerRef : String}
    (hdiscover : providerRefIsIssuer providerRef = true → ∀ providerId,
      discoveredId ext providerRef = .ok providerId → Upserts P providerId)
    (hadd : providerRefIsIssuer providerRef = false → Upserts P providerRef) (nowMs : Int64) :
  (trustIdentityStart ext providerRef nowMs).AllOps P
  := by
  rw [trustIdentityStart]
  apply Prog.AllOps.bind (allOps_startProvider hreads hdiscover hadd nowMs)
  intro provider
  split_ifs with henabled
  · trivial
  · trivial

theorem allOps_completeProvider (hreads : AllReads P) {providerRef : String}
    (hdiscover : providerRefIsIssuer providerRef = true → ∀ providerId,
      discoveredId ext providerRef = .ok providerId → Upserts P providerId) (nowMs : Int64) :
  (completeProvider ext providerRef nowMs).AllOps P
  := by
  rw [completeProvider]
  split_ifs with hissuer
  · apply allOps_discoverIdentityProvider hreads (hdiscover hissuer)
  · apply Prog.AllOps.bind (allOps_loadProvider hreads providerRef)
    intro loaded
    apply Prog.allOps_ofExcept

theorem allOps_completeWith (hreads : AllReads P) {sessionId : String}
    (hinsert : ∀ session, P (.insertSession sessionId session))
    (provider : IdentityProviderRecord) (providerRef authCode : String) (nowMs : Int64) :
  (completeWith ext sessionId provider providerRef authCode nowMs).AllOps P
  := by
  rw [completeWith]
  apply Prog.AllOps.bind (Prog.allOps_ofExcept _)
  intro claimSubsetJson
  use hinsert _
  intro inserted
  apply Prog.AllOps.bind (Prog.allOps_ofExcept _)
  intro _
  use hreads _ rfl
  intro allowed
  apply Prog.AllOps.bind (Prog.allOps_ofExcept _)
  intro _
  trivial

theorem allOps_trustIdentityComplete (hreads : AllReads P) {sessionId providerRef : String}
    (hdiscover : providerRefIsIssuer providerRef = true → ∀ providerId,
      discoveredId ext providerRef = .ok providerId → Upserts P providerId)
    (hinsert : ∀ session, P (.insertSession sessionId session)) (authCode : String)
    (nowMs : Int64) :
  (trustIdentityComplete ext sessionId providerRef authCode nowMs).AllOps P
  := by
  rw [trustIdentityComplete]
  apply Prog.AllOps.bind (allOps_completeProvider hreads hdiscover nowMs)
  intro provider
  split_ifs with henabled hblank
  · trivial
  · trivial
  · apply allOps_completeWith hreads hinsert

theorem allOps_authenticateIdentitySession (hreads : AllReads P) (sessionId : String)
    (nowMs : Int64) :
  (authenticateIdentitySession sessionId nowMs).AllOps P
  := by
  rw [authenticateIdentitySession]
  use hreads _ rfl
  intro session
  apply Prog.allOps_ofExcept

theorem allOps_trustDeviceEnroll (hreads : AllReads P) {certId providerId : String}
    (hinsert : ∀ certificate, P (.insertCertificate certId providerId certificate))
    (deviceId : String) (nowMs : Int64) :
  (trustDeviceEnroll ext certId providerId deviceId nowMs).AllOps P
  := by
  rw [trustDeviceEnroll]
  use hreads _ rfl
  intro fingerprint
  apply Prog.AllOps.bind (Prog.allOps_ofExcept _)
  intro fingerprint
  apply Prog.AllOps.bind (Prog.allOps_ofExcept _)
  intro fingerprint
  use hreads _ rfl
  intro subject
  apply Prog.AllOps.bind (Prog.allOps_ofExcept _)
  intro subject
  apply Prog.AllOps.bind (Prog.allOps_ofExcept _)
  intro subject
  use hinsert _
  intro inserted
  apply Prog.AllOps.bind (Prog.allOps_ofExcept _)
  intro _
  trivial

end TrustIdentity

namespace TrustPolicy

variable {P : TrustOp → Prop}

theorem allOps_trustProviderPolicyGet (hreads : AllReads P) (providerId : String) :
  (trustProviderPolicyGet providerId).AllOps P
  := by
  rw [trustProviderPolicyGet]
  use hreads _ rfl
  intro policy
  apply Prog.AllOps.bind (Prog.allOps_ofExcept _)
  intro policy
  trivial

theorem allOps_trustProviderPolicySet (hreads : AllReads P) {providerId : String}
    (hupsert : ∀ policy, P (.upsertPolicy providerId policy)) (maxClockSkewMs : Int64)
    (requireClaimsJson : String) :
  (trustProviderPolicySet parse providerId maxClockSkewMs requireClaimsJson).AllOps P
  := by
  rw [trustProviderPolicySet]
  split_ifs with hblank hskew
  · trivial
  · trivial
  · use hreads _ rfl
    intro providerExists
    apply Prog.AllOps.bind (Prog.allOps_ofExcept _)
    intro providerExists
    split_ifs with hmissing
    · trivial
    · apply Prog.AllOps.bind (Prog.allOps_ofExcept _)
      intro claims
      apply Prog.AllOps.bind (Prog.allOps_ofExcept _)
      intro canonicalClaimsJson
      use hupsert _
      intro written
      apply Prog.AllOps.bind (Prog.allOps_ofExcept _)
      intro _
      apply Prog.AllOps.bind (allOps_trustProviderPolicyGet hreads providerId)
      intro policy
      apply Prog.allOps_ofExcept

theorem allOps_trustProviderPolicySetTenantTemplate (hreads : AllReads P) {providerId : String}
    (hupsert : ∀ policy, P (.upsertPolicy providerId policy))
    (issuer audience tenantId : String) :
  (trustProviderPolicySetTenantTemplate parse providerId issuer audience tenantId).AllOps P
  := by
  rw [trustProviderPolicySetTenantTemplate]
  apply Prog.AllOps.bind (Prog.allOps_ofExcept _)
  intro tenantId
  dsimp only
  split_ifs with hrequired
  · trivial
  · apply Prog.AllOps.bind (Prog.allOps_ofExcept _)
    intro requireClaimsJson
    apply allOps_trustProviderPolicySet hreads hupsert

theorem allOps_trustSessionRevoke (hreads : AllReads P) {sessionId : String}
    (hrevoke : P (.revoke sessionId)) (revokedBy : String) (nowMs : Int64) :
  (trustSessionRevoke sessionId revokedBy nowMs).AllOps P
  := by
  rw [trustSessionRevoke]
  split_ifs with hblank
  · trivial
  · use hreads _ rfl
    intro sessionExists
    apply Prog.AllOps.bind (Prog.allOps_ofExcept _)
    intro sessionExists
    split_ifs with hmissing
    · trivial
    · apply Prog.AllOps.bind (Prog.allOps_ofExcept _)
      intro detailsJson
      use hrevoke
      intro written
      apply Prog.AllOps.bind (Prog.allOps_ofExcept _)
      intro _
      trivial

end TrustPolicy

/-! ### Runs of calls -/

namespace Governance

open Prog (Ends)

/-- The calls that govern identities. -/
inductive Call
  | add (providerId issuer audience jwksUrl : String) (nowMs : Int64)
  | disable (providerId : String) (nowMs : Int64)
  | discover (issuer : String) (nowMs : Int64)
  | start (providerRef : String) (nowMs : Int64)
  | complete (sessionId providerRef authCode : String) (nowMs : Int64)
  | setPolicy (providerId : String) (maxClockSkewMs : Int64) (requireClaimsJson : String)
  | setTenantTemplate (providerId issuer audience tenantId : String)
  | revoke (sessionId revokedBy : String) (nowMs : Int64)
  | authenticate (sessionId : String) (nowMs : Int64)
  | enroll (certId providerId deviceId : String) (nowMs : Int64)

/-- A program whose value does not matter. -/
abbrev forget {α : Type} (p : TrustProg α) : TrustProg Unit :=
  p >>= fun _ => pure ()

def Call.prog (ext : Externals) (parse : JsonParser) : Call → TrustProg Unit
  | .add providerId issuer audience jwksUrl nowMs =>
    forget (TrustIdentity.trustProviderAdd providerId issuer audience jwksUrl nowMs)
  | .disable providerId nowMs => forget (TrustIdentity.trustProviderDisable providerId nowMs)
  | .discover issuer nowMs =>
    forget (TrustIdentity.discoverIdentityProvider ext issuer nowMs)
  | .start providerRef nowMs => forget (TrustIdentity.trustIdentityStart ext providerRef nowMs)
  | .complete sessionId providerRef authCode nowMs =>
    forget (TrustIdentity.trustIdentityComplete ext sessionId providerRef authCode nowMs)
  | .setPolicy providerId maxClockSkewMs requireClaimsJson =>
    forget (TrustPolicy.trustProviderPolicySet parse providerId maxClockSkewMs
      requireClaimsJson)
  | .setTenantTemplate providerId issuer audience tenantId =>
    forget (TrustPolicy.trustProviderPolicySetTenantTemplate parse providerId issuer audience
      tenantId)
  | .revoke sessionId revokedBy nowMs =>
    forget (TrustPolicy.trustSessionRevoke sessionId revokedBy nowMs)
  | .authenticate sessionId nowMs =>
    forget (TrustIdentity.authenticateIdentitySession sessionId nowMs)
  | .enroll certId providerId deviceId nowMs =>
    forget (TrustIdentity.trustDeviceEnroll ext certId providerId deviceId nowMs)

/-- The tables a call may write. -/
def Call.writes : Call → List TrustTable
  | .add _ _ _ _ _ | .disable _ _ | .discover _ _ | .start _ _ => [.providers, .identityProviders]
  | .complete _ _ _ _ => [.providers, .identityProviders, .sessions]
  | .setPolicy _ _ _ | .setTenantTemplate _ _ _ _ => [.policies]
  | .revoke _ _ _ => [.revocations]
  | .authenticate _ _ => []
  | .enroll _ _ _ _ => [.certificates]

theorem Call.allOps (ext : Externals) (parse : JsonParser) (call : Call) :
  (call.prog ext parse).AllOps fun op => ∀ T, op.writes = some T → T ∈ call.writes
  := by
  have hreads (tables : List TrustTable) :
      AllReads fun op => ∀ T, op.writes = some T → T ∈ tables := by
    intro op hnone T hT
    rw [hnone] at hT
    cases hT
  have hupserts (tables : List TrustTable) (providerId : String) :
      TrustIdentity.Upserts (fun op => ∀ T, op.writes = some T →
        T ∈ .providers :: .identityProviders :: tables) providerId := by
    intro issuer audience jwksUrl nowMs
    constructor
    · rintro T ⟨⟩
      apply List.mem_cons_self
    · rintro T ⟨⟩
      apply List.mem_cons_of_mem _ List.mem_cons_self
  have hdecide (op : TrustOp) (tables : List TrustTable)
      (h : op.writes.all (· ∈ tables) = true) : ∀ T, op.writes = some T → T ∈ tables := by
    intro T hT
    rw [hT, Option.all_some] at h
    apply of_decide_eq_true h
  cases call with
  | add providerId issuer audience jwksUrl nowMs =>
    apply Prog.AllOps.bind
    · apply TrustIdentity.allOps_trustProviderAdd (hreads _)
      apply hupserts
    · intro _
      trivial
  | disable providerId nowMs =>
    apply Prog.AllOps.bind
    · apply TrustIdentity.allOps_trustProviderDisable (hreads _)
      · apply hdecide _ _ (by rfl)
      · apply hdecide _ _ (by rfl)
    · intro _
      trivial
  | discover issuer nowMs =>
    apply Prog.AllOps.bind
    · apply TrustIdentity.allOps_discoverIdentityProvider (hreads _)
      intro providerId _
      apply hupserts
    · intro _
      trivial
  | start providerRef nowMs =>
    apply Prog.AllOps.bind
    · apply TrustIdentity.allOps_trustIdentityStart (hreads _)
      · intro _ providerId _
        apply hupserts
      · intro _
        apply hupserts
    · intro _
      trivial
  | complete sessionId providerRef authCode nowMs =>
    apply Prog.AllOps.bind
    · apply TrustIdentity.allOps_trustIdentityComplete (hreads _)
      · intro _ providerId _
        apply hupserts
      · intro session
        apply hdecide _ _ (by rfl)
    · intro _
      trivial
  | setPolicy providerId maxClockSkewMs requireClaimsJson =>
    apply Prog.AllOps.bind
    · apply TrustPolicy.allOps_trustProviderPolicySet (hreads _)
      intro policy
      apply hdecide _ _ (by rfl)
    · intro _
      trivial
  | setTenantTemplate providerId issuer audience tenantId =>
    apply Prog.AllOps.bind
    · apply TrustPolicy.allOps_trustProviderPolicySetTenantTemplate (hreads _)
      intro policy
      apply hdecide _ _ (by rfl)
    · intro _
      trivial
  | revoke sessionId revokedBy nowMs =>
    apply Prog.AllOps.bind
    · apply TrustPolicy.allOps_trustSessionRevoke (hreads _)
      apply hdecide _ _ (by rfl)
    · intro _
      trivial
  | authenticate sessionId nowMs =>
    apply Prog.AllOps.bind
    · apply TrustIdentity.allOps_authenticateIdentitySession (hreads _)
    · intro _
      trivial
  | enroll certId providerId deviceId nowMs =>
    apply Prog.AllOps.bind
    · apply TrustIdentity.allOps_trustDeviceEnroll (hreads _)
      intro certificate
      apply hdecide _ _ (by rfl)
    · intro _
      trivial

/-- A call leaves every table alone that it does not write. -/
theorem table_call {call : Call} {T : TrustTable} {r : AppResult Unit} (hT : T ∉ call.writes)
    (h : Ends (Effect parse mayFail) (call.prog ext parse) db r after) :
  after.table T = db.table T
  := by
  apply table_ends _ h
  apply (call.allOps ext parse).mono
  rintro op hop heq
  apply hT (hop T heq)

/-- A call of a run, with its result and the databases before and after it. -/
structure Step where
  call : Call
  before : TrustDb
  result : AppResult Unit
  after : TrustDb

/-- The runs of calls, in which some kinds of statements may fail. -/
inductive Run (ext : Externals) (parse : JsonParser) (mayFail : TrustOp → Prop) (db : TrustDb) :
    List Step → TrustDb → Prop
  | nil : Run ext parse mayFail db [] db
  | snoc {steps s t} (call : Call) (result : AppResult Unit) :
      Run ext parse mayFail db steps s →
      Ends (Effect parse mayFail) (call.prog ext parse) s result t →
      Run ext parse mayFail db (steps ++ [⟨call, s, result, t⟩]) t

/-- Every step of a run is as it should be, given the steps before it. -/
def EachStep (P : List Step → Step → Prop) (steps : List Step) : Prop :=
  ∀ pre step post, steps = pre ++ step :: post → P pre step

theorem eachStep_nil (P : List Step → Step → Prop) :
  EachStep P []
  := by
  intro pre step post h
  cases pre <;> cases h

theorem eachStep_concat {P : List Step → Step → Prop} {steps : List Step} {step : Step} :
  EachStep P (steps ++ [step]) ↔ EachStep P steps ∧ P steps step
  := by
  constructor
  · intro h
    constructor
    · intro pre step' post heq
      apply h pre step' (post ++ [step])
      rw [heq, List.append_assoc, List.cons_append]
    · apply h steps step [] rfl
  · rintro ⟨hsteps, hstep⟩ pre step' post heq
    obtain rfl | ⟨post, last, rfl⟩ := post.eq_nil_or_concat
    · obtain ⟨rfl, hlast⟩ := List.append_inj' heq rfl
      obtain rfl := List.singleton_inj.mp hlast
      exact hstep
    · rw [List.concat_eq_append, ← List.cons_append, ← List.append_assoc] at heq
      obtain ⟨rfl, -⟩ := List.append_inj' heq rfl
      apply hsteps pre step' post rfl

/-- What every call keeps holds in every state a run leads to. -/
theorem Run.invariant {C : TrustDb → Prop} {steps : List Step}
    (h : Run ext parse mayFail db steps after) (hstart : C db)
    (hcall : ∀ (call : Call) (result : AppResult Unit) s t, C s →
      Ends (Effect parse mayFail) (call.prog ext parse) s result t → C t) :
  C after
  := by
  induction h with
  | nil => exact hstart
  | snoc call result _ hend ih => apply hcall call result _ _ ih hend

/-- A database with a trusted device, in which no provider is known. -/
def Sample.trustDb : TrustDb where
  __ := { KnowledgeCore.Sample.ownerDb "owner" [] [] with
    trustProviders := ∅
    identitySessions := ∅
    trustedDevices := (∅ : Table TrustedDeviceRow).insert "laptop" {
      pubkey := ""
      fingerprint := ""
      verifiedAtMs := some 0 } }
  providers := ∅
  identityProviders := ∅
  trustProviders_eq := rfl

/-- The step of a call when no statement fails. -/
def Sample.step (call : Call) (db : TrustDb) : Step :=
  let (result, after) := (call.prog KnowledgeCore.Sample.ext JsonText.parse).eval
    (TrustDb.answer JsonText.parse noFaults TrustDb.noPlan) db
  ⟨call, db, result, after⟩

/-- What a program ends with when no statement fails. -/
theorem Sample.ends (mayFail : TrustOp → Prop) {α : Type} (p : TrustProg α) (db : TrustDb) :
  Ends (Effect JsonText.parse mayFail) p db
    (p.eval (TrustDb.answer JsonText.parse noFaults TrustDb.noPlan) db).1
    (p.eval (TrustDb.answer JsonText.parse noFaults TrustDb.noPlan) db).2
  := by
  apply Prog.ends_eval
  apply TrustDb.effect_answer
  rintro op ⟨⟩

theorem Sample.snoc_step {steps : List Step}
    (h : Run KnowledgeCore.Sample.ext JsonText.parse mayFail db steps after) (call : Call) :
  Run KnowledgeCore.Sample.ext JsonText.parse mayFail db (steps ++ [Sample.step call after])
    (Sample.step call after).after
  := by
  apply Run.snoc call _ h
  apply Sample.ends

def Sample.corpAdded : Step :=
  Sample.step (.add "corp" "https://corp.example" "desktop" "https://corp.example/jwks" 0)
    Sample.trustDb

def Sample.corpCompleted : Step :=
  Sample.step (.complete KnowledgeCore.Sample.sessionId "corp" "sub:alice" 1) Sample.corpAdded.after

end Governance

end KnowledgeCore
