import KnowledgeCore.Governance.Runs

/-!
# The two tables of providers

Every provider is written to two tables, the older one for what still refers to it. A call writes
both, the one after the other, and where no statement fails they say the same of every provider.
-/

namespace KnowledgeCore

namespace Governance

open Prog (Ends safe_bind safe_check safe_perform_bind)
open TrustDb (Effect)
open TrustIdentity

-- No text is to be examined character by character.
attribute [local irreducible] isBlank TrustIdentity.normalizeIssuer
  TrustIdentity.providerIdFromIssuer TrustIdentity.providerRefIsIssuer

variable {ext : Externals} {parse : JsonParser} {db after : TrustDb}

/-- No statement may fail. -/
abbrev Nothing : TrustOp → Prop := fun _ => False

/-- Both tables have the same providers, with the same issuer and audience, and both say the same
of whether it may be used. -/
def Agree (db : TrustDb) : Prop :=
  ∀ providerId : String,
    db.providers[providerId]?.map (fun row => (row.issuer, row.audience, row.enabled))
      = db.identityProviders[providerId]?.map fun row => (row.issuer, row.audience, row.enabled)

/-- The row that a provider of the older table is copied to when the other table is made. -/
def migratedRow (row : IdentityProviderRow) : TrustProviderRecord where
  enabled := row.enabled
  issuer := row.issuer
  audience := row.audience
  jwksUrl := jwksOf row.issuer
  createdAtMs := row.createdAtMs
  updatedAtMs := row.createdAtMs

/-- The database right after the migration that makes the table of providers. -/
def Migrated (db : TrustDb) : Prop :=
  db.providers = db.identityProviders.map fun _ row => migratedRow row

theorem Migrated.agree (h : Migrated db) :
  Agree db
  := by
  intro providerId
  rw [h, Std.ExtTreeMap.getElem?_map, Option.map_map]
  rfl

/-! ### Programs that keep the agreement -/

/-- Started where the tables agree, a program that ends leaves them so. -/
def Keeps (parse : JsonParser) {α : Type} (p : TrustProg α) : Prop :=
  ∀ db, Agree db → p.Safe (Effect parse Nothing) (fun _ => True) (fun _ => Agree) db

theorem Keeps.bind {α β : Type} {p : TrustProg α} {f : α → TrustProg β} (hp : Keeps parse p)
    (hf : ∀ a, Keeps parse (f a)) :
  Keeps parse (p >>= f)
  := by
  intro db h
  rw [safe_bind]
  apply (hp db h).mono (fun _ ht => ht)
  rintro (e | a) t ht
  · exact ht
  · exact hf a t ht

/-- The statements that write neither table. -/
def Apart (op : TrustOp) : Prop :=
  op.writes ≠ some .providers ∧ op.writes ≠ some .identityProviders

theorem allReads_apart :
  AllReads Apart
  := by
  intro op hop
  rw [Apart, hop]
  constructor <;> rintro ⟨⟩

/-- A program whose statements write neither table keeps the agreement. -/
theorem keeps_of_allOps {α : Type} {p : TrustProg α} (hp : p.AllOps Apart) :
  Keeps parse p
  := by
  intro db h
  apply Prog.Safe.mono (C := Agree) (Q := fun _ => Agree) (fun _ _ => trivial) (fun _ _ ht => ht)
  apply hp.safe _ h
  rintro op s ans t ⟨hproviders, hlegacy⟩ hs heffect
  have hsame : t.providers = s.providers := table_effect hproviders heffect
  have hsame' : t.identityProviders = s.identityProviders := table_effect hlegacy heffect
  intro providerId
  rw [hsame, hsame']
  exact hs providerId

/-- Both rows of a provider are altered alike, and no others. -/
theorem Agree.alter (h : Agree db) {providerId : String}
    {f : Option TrustProviderRecord → Option TrustProviderRecord}
    {g : Option IdentityProviderRow → Option IdentityProviderRow}
    (hproviders : after.providers = db.providers.alter providerId f)
    (hlegacy : after.identityProviders = db.identityProviders.alter providerId g)
    (hsame : (f db.providers[providerId]?).map (fun row => (row.issuer, row.audience, row.enabled))
      = (g db.identityProviders[providerId]?).map
        fun row => (row.issuer, row.audience, row.enabled)) :
  Agree after
  := by
  intro other
  rw [hproviders, hlegacy, Std.ExtTreeMap.getElem?_alter, Std.ExtTreeMap.getElem?_alter]
  split_ifs with heq
  · exact hsame
  · exact h other

theorem keeps_upsertIdentityProviderWithJwks (providerId issuer audience jwksUrl : String)
    (nowMs : Int64) :
  Keeps parse (upsertIdentityProviderWithJwks providerId issuer audience jwksUrl nowMs)
  := by
  intro db h
  rw [upsertIdentityProviderWithJwks]
  split_ifs with hblank
  · exact ⟨trivial, h⟩
  rw [safe_perform_bind]
  use trivial
  rintro ans t (⟨faults, ⟨⟩⟩ | ⟨⟨⟩, -⟩)
  rw [mapErr_ok, Prog.ofExcept_ok, Prog.ret_bind, safe_perform_bind]
  use trivial
  rintro ans u (⟨faults, ⟨⟩⟩ | ⟨⟨⟩, -⟩)
  rw [mapErr_ok, Prog.ofExcept_ok, Prog.ret_bind]
  have hread : Keeps parse (loadProvider providerId >>= fun loaded =>
      Prog.ofExcept (okOrElse (identityError "KC_TRUST_OIDC_PROVIDER_UNAVAILABLE"
        "identity provider missing after upsert" [("provider_id", .str providerId)]) loaded)) := by
    apply keeps_of_allOps
    apply Prog.AllOps.bind (allOps_loadProvider allReads_apart providerId)
    intro loaded
    apply Prog.allOps_ofExcept
  apply hread
  apply h.alter rfl rfl
  rfl

theorem keeps_discoverIdentityProvider (issuer : String) (nowMs : Int64) :
  Keeps parse (discoverIdentityProvider ext issuer nowMs)
  := by
  rw [discoverIdentityProvider]
  apply Keeps.bind (keeps_of_allOps (Prog.allOps_ofExcept _))
  intro normalizedIssuer
  apply Keeps.bind (keeps_of_allOps (Prog.allOps_ofExcept _))
  intro providerId
  apply keeps_upsertIdentityProviderWithJwks

theorem keeps_trustProviderAdd (providerId issuer audience jwksUrl : String) (nowMs : Int64) :
  Keeps parse (trustProviderAdd providerId issuer audience jwksUrl nowMs)
  := by
  rw [trustProviderAdd]
  split_ifs with hblank
  · exact keeps_of_allOps trivial
  · apply keeps_upsertIdentityProviderWithJwks

theorem keeps_trustProviderDisable (providerId : String) (nowMs : Int64) :
  Keeps parse (trustProviderDisable providerId nowMs)
  := by
  rw [trustProviderDisable]
  apply Keeps.bind (keeps_of_allOps (allOps_loadProvider allReads_apart providerId))
  intro loaded
  apply Keeps.bind (keeps_of_allOps (Prog.allOps_ofExcept _))
  intro provider db h
  rw [safe_perform_bind]
  use trivial
  rintro ans t (⟨faults, ⟨⟩⟩ | ⟨⟨⟩, -⟩)
  rw [mapErr_ok, Prog.ofExcept_ok, Prog.ret_bind, safe_perform_bind]
  use trivial
  rintro ans u (⟨faults, ⟨⟩⟩ | ⟨⟨⟩, -⟩)
  rw [mapErr_ok, Prog.ofExcept_ok, Prog.ret_bind]
  use trivial
  apply h.alter rfl rfl
  rw [Option.map_map, Option.map_map]
  have hrow := congrArg (Option.map fun row => (row.1, row.2.1, false)) (h providerId)
  rwa [Option.map_map, Option.map_map] at hrow

theorem keeps_startProvider (providerRef : String) (nowMs : Int64) :
  Keeps parse (startProvider ext providerRef nowMs)
  := by
  rw [startProvider]
  split_ifs with hissuer
  · apply keeps_discoverIdentityProvider
  · apply Keeps.bind (keeps_of_allOps (allOps_loadProvider allReads_apart providerRef))
    intro loaded
    cases loaded with
    | some existing => exact keeps_of_allOps trivial
    | none => apply keeps_upsertIdentityProviderWithJwks

theorem keeps_completeProvider (providerRef : String) (nowMs : Int64) :
  Keeps parse (completeProvider ext providerRef nowMs)
  := by
  rw [completeProvider]
  split_ifs with hissuer
  · apply keeps_discoverIdentityProvider
  · apply Keeps.bind (keeps_of_allOps (allOps_loadProvider allReads_apart providerRef))
    intro loaded
    exact keeps_of_allOps (Prog.allOps_ofExcept _)

theorem keeps_trustIdentityStart (providerRef : String) (nowMs : Int64) :
  Keeps parse (trustIdentityStart ext providerRef nowMs)
  := by
  rw [trustIdentityStart]
  apply (keeps_startProvider providerRef nowMs).bind
  intro provider
  apply keeps_of_allOps
  split_ifs with henabled
  · trivial
  · trivial

theorem keeps_trustIdentityComplete (sessionId providerRef authCode : String) (nowMs : Int64) :
  Keeps parse (trustIdentityComplete ext sessionId providerRef authCode nowMs)
  := by
  rw [trustIdentityComplete]
  apply (keeps_completeProvider providerRef nowMs).bind
  intro provider
  apply keeps_of_allOps
  split_ifs with henabled hblank
  · trivial
  · trivial
  · apply allOps_completeWith allReads_apart
    intro session
    constructor <;> rintro ⟨⟩

/-! ### Runs -/

/-- Every call keeps the agreement: those that have to do with providers write both tables, and
the others neither. -/
theorem keeps_call (call : Call) :
  Keeps parse (call.prog ext parse)
  := by
  have hforget {α : Type} {p : TrustProg α} (hp : Keeps parse p) : Keeps parse (forget p) :=
    hp.bind fun _ => keeps_of_allOps trivial
  have hother (h : .providers ∉ call.writes ∧ .identityProviders ∉ call.writes) :
      Keeps parse (call.prog ext parse) := by
    apply keeps_of_allOps
    apply (call.allOps ext parse).mono
    intro op hop
    exact ⟨fun heq => h.1 (hop _ heq), fun heq => h.2 (hop _ heq)⟩
  cases call with
  | add => exact hforget (keeps_trustProviderAdd _ _ _ _ _)
  | disable => exact hforget (keeps_trustProviderDisable _ _)
  | discover => exact hforget (keeps_discoverIdentityProvider _ _)
  | start => exact hforget (keeps_trustIdentityStart _ _)
  | complete => exact hforget (keeps_trustIdentityComplete _ _ _ _)
  | setPolicy => exact hother (by simp [Call.writes])
  | setTenantTemplate => exact hother (by simp [Call.writes])
  | revoke => exact hother (by simp [Call.writes])
  | authenticate => exact hother (by simp [Call.writes])
  | enroll => exact hother (by simp [Call.writes])

/-- The tables agree in every state that calls lead to when no statement fails. -/
theorem tables_agree {steps : List Step} (hstart : Migrated db)
    (h : Run ext parse Nothing db steps after) :
  Agree after
  := by
  apply h.invariant hstart.agree
  intro call result s t hs hend
  exact (keeps_call call s hs).ends hend

/-- A provider that is added, added again under another issuer and disabled. -/
theorem tables_agree_corp :
  let added := Sample.step (.add "corp" "https://corp.example" "desktop" "https://jwks" 0)
    Sample.trustDb
  let moved := Sample.step (.add "corp" "https://other.example" "desktop" "https://jwks" 1)
    added.after
  let disabled := Sample.step (.disable "corp" 2) moved.after
  Agree disabled.after
  := by
  intro added moved disabled
  have hrun : Run KnowledgeCore.Sample.ext JsonText.parse Nothing Sample.trustDb
      [added, moved, disabled] disabled.after :=
    Sample.snoc_step (Sample.snoc_step (Sample.snoc_step .nil _) _) _
  have hmigrated : Migrated Sample.trustDb := rfl
  exact tables_agree hmigrated hrun

end Governance

end KnowledgeCore
