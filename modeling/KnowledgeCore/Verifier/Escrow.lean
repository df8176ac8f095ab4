import Mathlib.Data.Prod.Lex
import Mathlib.Data.List.Destutter
import Mathlib.Data.String.Basic
import KnowledgeCore.Bundle
import KnowledgeCore.Verifier.Schema

/-!
# The escrow block of a manifest

The verifier has rules of its own for the block of a manifest about recovery escrow: which
providers it may name, and in which order it has to list them and their descriptors. The block
that an export writes satisfies them.
-/

namespace KnowledgeCore

namespace Verifier

open Json (asBool asI64 asStr asArray asObject display isI64 isNull isObject)

/-! ### Reports -/

structure VerifyErrorEntry where
  code : String
  path : String
  expected : Option String
  actual : Option String

structure CheckedCounts where
  objects : Nat
  indexes : Nat

structure VerifyReportV1 where
  reportVersion : Nat
  status : String
  exitCode : Nat
  errors : List VerifyErrorEntry
  checked : CheckedCounts

/-- What a verification ends with: an exit code, and a report. -/
abbrev Verdict := Nat × VerifyReportV1

/-- The order of the errors in a report. -/
def errorLe (a b : VerifyErrorEntry) : Bool :=
  ((compare a.code b.code).then (compare a.path b.path)).isLE

def reportFor (exitCode : Nat) (errors : List VerifyErrorEntry) (checked : CheckedCounts) :
  Verdict
  :=
  (exitCode, {
    reportVersion := 1
    status := if exitCode = 0 then "ok" else "failed"
    exitCode
    errors := errors.insertionSort (fun a b => errorLe a b)
    checked })

def internalError (path message : String) (checked : CheckedCounts) : Verdict :=
  reportFor 60
    [{ code := "INTERNAL_ERROR", path, expected := none, actual := some message }] checked

/-! ### The check of the escrow block -/

def mismatch (path expected actual : String) : VerifyErrorEntry where
  code := "RECOVERY_ESCROW_METADATA_MISMATCH"
  path := path
  expected := some expected
  actual := some actual

/-- Go on if a condition holds, and otherwise stop with a mismatch. -/
def require (condition : Bool) (path expected actual : String) : Except VerifyErrorEntry Unit :=
  if condition then .ok () else .error (mismatch path expected actual)

/-- The value, or else a mismatch. -/
def requireSome {α : Type} (value : Option α) (path expected actual : String) :
  Except VerifyErrorEntry α
  :=
  match value with
  | some a => .ok a
  | none => .error (mismatch path expected actual)

@[simp] theorem require_true (path expected actual : String) :
  require true path expected actual = .ok ()
  := rfl

@[simp] theorem requireSome_some {α : Type} (a : α) (path expected actual : String) :
  requireSome (some a) path expected actual = .ok a
  := rfl

/-- The block of a manifest about recovery escrow. Two of its fields may be missing. -/
structure EscrowBlock where
  enabled : Bool
  provider : String
  updated : Json
  descriptor : Json
  providersRaw : Option (List Json)
  descriptorsRaw : Option (List Json)

/-- The block of a manifest, unless it has none with the fields that every block has. -/
def escrowBlock (manifest : Json) : Option EscrowBlock := do
  let block ← manifest.get "recovery_escrow"
  let enabled ← (block.get "enabled").bind asBool
  let provider ← (block.get "provider").bind asStr
  let updated ← block.get "updated_at_ms"
  let descriptor ← block.get "descriptor"
  some {
    enabled, provider, updated, descriptor
    providersRaw := (block.get "providers").bind asArray
    descriptorsRaw := (block.get "escrow_descriptors").bind asArray }

/-- `Vec::dedup` -/
def dedup {α : Type} [DecidableEq α] (l : List α) : List α :=
  l.destutter (· ≠ ·)

/-- The providers a block lists, or else that of its descriptor. -/
def normalizedProviders (block : EscrowBlock) : List String :=
  (block.providersRaw.getD (block.descriptor.get "provider").toList).filterMap asStr

/-- The providers in the order they are expected in. -/
def expectedProviderOrder (block : EscrowBlock) : List String :=
  dedup ((normalizedProviders block).insertionSort (fun a b => Export.providerLe a b))

def verifyProviders (block : EscrowBlock) : Except VerifyErrorEntry Unit := do
  let providers := normalizedProviders block
  let toCheck := block.providersRaw.getD []
  require (toCheck.isEmpty || providers.length == toCheck.length)
    "recovery_escrow/providers" "all providers entries are strings" (display (.arr toCheck))
  require (!providers.isEmpty)
    "recovery_escrow/providers" "non-empty providers array when enabled=true" "[]"
  let unsupported := providers.find? (fun p => !Export.ESCROW_PROVIDER_PRIORITY.contains p)
  require unsupported.isNone
    "recovery_escrow/providers" "providers use supported escrow ids" (unsupported.getD "")
  require (block.providersRaw.isNone || providers == expectedProviderOrder block)
    "recovery_escrow/providers" "providers sorted by priority then provider id with dedupe"
    (display (.arr (providers.map .str)))

/-- A descriptor as the verifier reads it, with the value it was read from. -/
structure NormalizedDescriptor where
  provider : String
  providerRef : String
  keyId : String
  wrappedAtMs : Int64
  entry : Json

def normalizedDescriptor (order : List String) (entry : Json) :
  Except VerifyErrorEntry NormalizedDescriptor
  := do
  require entry.isObject
    "recovery_escrow/escrow_descriptors" "object entries in escrow_descriptors" (display entry)
  let provider ← requireSome ((entry.get "provider").bind asStr)
    "recovery_escrow/escrow_descriptors/provider" "descriptor provider string" (display entry)
  require (order.contains provider)
    "recovery_escrow/escrow_descriptors/provider"
    "descriptor provider present in providers list" provider
  let providerRef ← requireSome ((entry.get "provider_ref").bind asStr)
    "recovery_escrow/escrow_descriptors/provider_ref" "descriptor provider_ref string"
    (display entry)
  let keyId ← requireSome ((entry.get "key_id").bind asStr)
    "recovery_escrow/escrow_descriptors/key_id" "descriptor key_id string" (display entry)
  let wrappedAtMs ← requireSome ((entry.get "wrapped_at_ms").bind asI64)
    "recovery_escrow/escrow_descriptors/wrapped_at_ms" "descriptor wrapped_at_ms integer"
    (display entry)
  .ok { provider, providerRef, keyId, wrappedAtMs, entry }

def normalizedDescriptors (order : List String) :
    List Json → Except VerifyErrorEntry (List NormalizedDescriptor)
  | [] => .ok []
  | entry :: rest => do
    let descriptor ← normalizedDescriptor order entry
    let descriptors ← normalizedDescriptors order rest
    .ok (descriptor :: descriptors)

/-- Whether a descriptor comes before another, or is of the same rank. -/
def descriptorLe (a b : NormalizedDescriptor) : Bool :=
  ((compare (Export.providerPriority a.provider) (Export.providerPriority b.provider)).then
    ((compare a.provider b.provider).then
      ((compare a.providerRef b.providerRef).then
        ((compare a.keyId b.keyId).then
          (compare a.wrappedAtMs.toInt b.wrappedAtMs.toInt))))).isLE

def isSameDescriptor (a b : NormalizedDescriptor) : Bool :=
  a.provider == b.provider && a.providerRef == b.providerRef && a.keyId == b.keyId
    && a.wrappedAtMs == b.wrappedAtMs && a.entry.isSame b.entry

/-- Whether two lists of descriptors are equal. -/
def areSameDescriptors : List NormalizedDescriptor → List NormalizedDescriptor → Bool
  | [], [] => true
  | a :: l, b :: l' => isSameDescriptor a b && areSameDescriptors l l'
  | _, _ => false

def verifyDescriptors (block : EscrowBlock) : Except VerifyErrorEntry Unit := do
  let source := block.descriptorsRaw.getD [block.descriptor]
  require (!source.isEmpty)
    "recovery_escrow/escrow_descriptors" "non-empty escrow_descriptors array when enabled=true"
    "[]"
  let descriptors ← normalizedDescriptors (expectedProviderOrder block) source
  let expected := descriptors.insertionSort (fun a b => descriptorLe a b)
  require (block.descriptorsRaw.isNone || areSameDescriptors descriptors expected)
    "recovery_escrow/escrow_descriptors"
    "escrow_descriptors sorted by provider priority then provider_ref" (display (.arr source))
  require block.descriptor.isObject
    "recovery_escrow/descriptor" "object when enabled=true" (display block.descriptor)
  match expected with
  | [] => .ok ()
  | primary :: _ => do
    require (block.descriptor.isSame primary.entry)
      "recovery_escrow/descriptor" "descriptor matches first escrow_descriptors entry"
      (display block.descriptor)
    let value :=
      match expectedProviderOrder block with
      | [provider] => provider
      | _ => "multi"
    require (block.provider == value) "recovery_escrow/provider" value block.provider

/-- The check of a block that is enabled. -/
def verifyEnabled (block : EscrowBlock) : Except VerifyErrorEntry Unit := do
  require (block.provider != "")
    "recovery_escrow/provider" "non-empty provider id when enabled=true" block.provider
  require block.updated.isI64
    "recovery_escrow/updated_at_ms" "integer timestamp when enabled=true"
    (display block.updated)
  verifyProviders block
  verifyDescriptors block

/-- The check of a block that is not enabled. -/
def verifyDisabled (block : EscrowBlock) : Except VerifyErrorEntry Unit := do
  require (block.provider == "none")
    "recovery_escrow/provider" "none when enabled=false" block.provider
  let providers := block.providersRaw.getD []
  require providers.isEmpty
    "recovery_escrow/providers" "empty array when enabled=false" (display (.arr providers))
  require block.updated.isNull
    "recovery_escrow/updated_at_ms" "null when enabled=false" (display block.updated)
  require block.descriptor.isNull
    "recovery_escrow/descriptor" "null when enabled=false" (display block.descriptor)
  let descriptors := block.descriptorsRaw.getD []
  require descriptors.isEmpty
    "recovery_escrow/escrow_descriptors" "empty array when enabled=false"
    (display (.arr descriptors))

/-- What is wrong with the escrow block of a manifest. -/
def verifyRecoveryEscrowMetadata (manifest : Json) : Option VerifyErrorEntry :=
  match escrowBlock manifest with
  | none => none
  | some block =>
    match if block.enabled then verifyEnabled block else verifyDisabled block with
    | .ok () => none
    | .error entry => some entry

/-! ### The block an export writes -/

section ExportedBlock

open Export

variable {db : Db} {block manifest : Json}
  {found : List (RecoveryEscrowDescriptorV2 × Int64)}

theorem providerLe_iff {a b : String} :
  providerLe a b = true ↔ toLex (providerPriority a, a) ≤ toLex (providerPriority b, b)
  := by
  simp [providerLe, Prod.Lex.toLex_le_toLex]

instance : Std.Total fun a b => providerLe a b = true where
  total a b := by
    rw [providerLe_iff, providerLe_iff]
    apply le_total

instance : IsTrans String fun a b => providerLe a b = true where
  trans a b c hab hbc := by
    rw [providerLe_iff] at hab hbc ⊢
    exact hab.trans hbc

instance : Std.Total fun a b : RecoveryEscrowDescriptorV2 =>
    providerLe a.provider b.provider = true where
  total a b := Std.Total.total (r := fun a b => providerLe a b = true) a.provider b.provider

instance : IsTrans RecoveryEscrowDescriptorV2 fun a b =>
    providerLe a.provider b.provider = true where
  trans a b c := IsTrans.trans (r := fun a b => providerLe a b = true) a.provider b.provider
    c.provider

theorem provider_of_escrowDescriptor {providerId : String} {row : RecoveryEscrowConfigRow}
    {descriptor : RecoveryEscrowDescriptorV2}
    (h : escrowDescriptor providerId row = .ok (some descriptor)) :
  descriptor.provider = providerId
  := by
  unfold escrowDescriptor at h
  split at h
  · cases h
  · obtain ⟨value, -, h⟩ := AppResult.bind_eq_ok.mp h
    dsimp only at h
    split at h
    · cases h
    · obtain ⟨descriptor', -, h⟩ := AppResult.bind_eq_ok.mp h
      split at h
      · cases h
      · next hprovider =>
        cases h
        exact not_not.mp hprovider

/-- The providers of the descriptors are among those of the rows, each at most once. -/
theorem providers_sublist {rows : List (String × RecoveryEscrowConfigRow)}
    (h : escrowDescriptors rows = .ok found) :
  (found.map fun d => d.1.provider).Sublist (rows.map Prod.fst)
  := by
  induction rows generalizing found with
  | nil =>
    cases h
    exact List.Sublist.refl _
  | cons row rows ih =>
    simp only [escrowDescriptors, AppResult.bind_eq_ok] at h
    obtain ⟨descriptor, hdescriptor, others, hothers, h⟩ := h
    cases h
    cases descriptor with
    | none => exact (ih hothers).cons _
    | some descriptor =>
      have hprovider := provider_of_escrowDescriptor hdescriptor
      simp only [Option.map_some, Option.toList_some, List.singleton_append, List.map_cons,
        hprovider]
      exact (ih hothers).cons_cons _

/-- Every descriptor is that of a row. -/
theorem exists_row_of_mem {rows : List (String × RecoveryEscrowConfigRow)}
    (h : escrowDescriptors rows = .ok found) {d : RecoveryEscrowDescriptorV2 × Int64}
    (hd : d ∈ found) :
  ∃ row ∈ rows, escrowDescriptor row.1 row.2 = .ok (some d.1)
  := by
  induction rows generalizing found with
  | nil =>
    cases h
    cases hd
  | cons row rows ih =>
    simp only [escrowDescriptors, AppResult.bind_eq_ok] at h
    obtain ⟨descriptor, hdescriptor, others, hothers, h⟩ := h
    cases h
    obtain hfirst | hrest := List.mem_append.mp hd
    · obtain ⟨descriptor', rfl, rfl⟩ := Option.map_eq_some_iff.mp (Option.mem_toList.mp hfirst)
      exact ⟨row, List.mem_cons_self .., hdescriptor⟩
    · obtain ⟨row', hrow', heq⟩ := ih hothers hrest
      exact ⟨row', List.mem_cons_of_mem _ hrow', heq⟩

/-- What an enabled block is written from: the descriptors with the times of their rows, in the
order of the providers. -/
theorem providers_sorted (h : escrowDescriptors db.recoveryEscrowConfigs.toList = .ok found) :
  ((found.map fun d => d.1.provider).insertionSort fun a b => providerLe a b).Nodup
  := by
  have hkeys : (db.recoveryEscrowConfigs.toList.map Prod.fst).Nodup := by
    rw [List.Nodup, List.pairwise_map]
    apply List.Pairwise.imp _ Std.ExtTreeMap.distinct_keys_toList
    intro a b hab heq
    apply hab
    rw [heq]
    apply Std.ReflCmp.compare_self
  apply (List.perm_insertionSort _ _).nodup_iff.mpr
  exact (providers_sublist h).nodup hkeys

/-- Sorting and deduplicating providers that are sorted and distinct changes nothing. -/
theorem expectedProviderOrder_eq {block : EscrowBlock} {providers : List String}
    (hproviders : block.providersRaw = some (providers.map .str)) (hnodup : providers.Nodup)
    (hsorted : providers.Pairwise fun a b => providerLe a b = true) :
  normalizedProviders block = providers ∧ expectedProviderOrder block = providers
  := by
  have hnormalized : normalizedProviders block = providers := by
    rw [normalizedProviders, hproviders, Option.getD_some, List.filterMap_map]
    exact List.filterMap_some
  use hnormalized
  rw [expectedProviderOrder, hnormalized, hsorted.insertionSort_eq, dedup]
  apply List.destutter_of_isChain
  exact (List.Pairwise.isChain hnodup)

theorem verifyProviders_eq_ok {block : EscrowBlock} {providers : List String}
    (hproviders : block.providersRaw = some (providers.map .str)) (hne : providers ≠ [])
    (hnodup : providers.Nodup) (hsorted : providers.Pairwise fun a b => providerLe a b = true)
    (hsupported : ∀ p ∈ providers, p ∈ ESCROW_PROVIDER_PRIORITY) :
  verifyProviders block = .ok ()
  := by
  obtain ⟨hnormalized, horder⟩ := expectedProviderOrder_eq hproviders hnodup hsorted
  have hfind : providers.find? (fun p => !ESCROW_PROVIDER_PRIORITY.contains p) = none := by
    rw [List.find?_eq_none]
    intro p hp
    simpa using hsupported p hp
  have hempty : providers.isEmpty = false := by simpa using hne
  simp only [verifyProviders, hnormalized, horder, hproviders, hfind, hempty]
  simp [bind, Except.bind]

/-- A descriptor that an export has written, as the verifier reads it. -/
def normalizedOf (descriptor : RecoveryEscrowDescriptorV2) : NormalizedDescriptor where
  provider := descriptor.provider
  providerRef := descriptor.providerRef
  keyId := descriptor.keyId
  wrappedAtMs := descriptor.wrappedAtMs
  entry := descriptor.toJson

theorem normalizedDescriptors_toJson {order : List String}
    {descriptors : List RecoveryEscrowDescriptorV2} (h : ∀ d ∈ descriptors, d.provider ∈ order) :
  normalizedDescriptors order (descriptors.map RecoveryEscrowDescriptorV2.toJson)
    = .ok (descriptors.map normalizedOf)
  := by
  induction descriptors with
  | nil => rfl
  | cons d descriptors ih =>
    have hd : normalizedDescriptor order d.toJson = .ok (normalizedOf d) := by
      have horder := h d (List.mem_cons_self ..)
      simp [normalizedDescriptor, RecoveryEscrowDescriptorV2.toJson, Json.get, List.lookup_cons,
        asStr, asObject, isObject, horder, normalizedOf, bind, Except.bind]
    have hrest := ih fun d hd => h d (List.mem_cons_of_mem _ hd)
    simp [normalizedDescriptors, hd, hrest, bind, Except.bind]

theorem isSame_toJson (descriptor : RecoveryEscrowDescriptorV2) :
  descriptor.toJson.isSame descriptor.toJson = true
  := by
  simp [RecoveryEscrowDescriptorV2.toJson, Json.isSame, Json.membersAreSame, List.lookup_cons]

theorem areSameDescriptors_self (descriptors : List RecoveryEscrowDescriptorV2) :
  areSameDescriptors (descriptors.map normalizedOf) (descriptors.map normalizedOf) = true
  := by
  induction descriptors with
  | nil => rfl
  | cons d descriptors ih =>
    simp [areSameDescriptors, isSameDescriptor, normalizedOf, isSame_toJson, ih]

/-- Of two descriptors of different providers, the providers decide which comes first. -/
theorem descriptorLe_of_providerLe {a b : NormalizedDescriptor} (hne : a.provider ≠ b.provider)
    (h : providerLe a.provider b.provider = true) :
  descriptorLe a b = true
  := by
  rw [providerLe_iff, Prod.Lex.toLex_le_toLex] at h
  rw [descriptorLe]
  obtain hlt | ⟨heq, hle⟩ := h
  · simp [compare_lt_iff_lt.mpr hlt]
  · have hlt : a.provider < b.provider := lt_of_le_of_ne hle hne
    simp only [compare_eq_iff_eq.mpr heq, compare_lt_iff_lt.mpr hlt]
    rfl

theorem verifyDescriptors_eq_ok {block : EscrowBlock} {first : RecoveryEscrowDescriptorV2}
    {rest : List RecoveryEscrowDescriptorV2} {order : List String}
    (horder : expectedProviderOrder block = order)
    (hraw : block.descriptorsRaw
      = some ((first :: rest).map RecoveryEscrowDescriptorV2.toJson))
    (hdescriptor : block.descriptor = first.toJson)
    (hmem : ∀ d ∈ first :: rest, d.provider ∈ order)
    (hsorted : (first :: rest).Pairwise fun a b =>
      a.provider ≠ b.provider ∧ providerLe a.provider b.provider = true)
    (hprovider : block.provider = match order with
      | [provider] => provider
      | _ => "multi") :
  verifyDescriptors block = .ok ()
  := by
  have hexpected : ((first :: rest).map normalizedOf).insertionSort
      (fun a b => descriptorLe a b) = (first :: rest).map normalizedOf := by
    apply List.Pairwise.insertionSort_eq
    rw [List.pairwise_map]
    apply hsorted.imp
    rintro a b ⟨hne, hle⟩
    exact descriptorLe_of_providerLe hne hle
  have hsame := areSameDescriptors_self (first :: rest)
  rw [verifyDescriptors, hraw, Option.getD_some, horder, normalizedDescriptors_toJson hmem]
  simp only [bind, Except.bind, hexpected, hsame, hdescriptor]
  have hobject : first.toJson.isObject = true := rfl
  simp [normalizedOf, isSame_toJson, hprovider, hobject]

theorem verifyEnabled_eq_ok {block : EscrowBlock} {updatedAtMs : Int64}
    (hprovider : block.provider ≠ "") (hupdated : block.updated = .int updatedAtMs.toInt)
    (hproviders : verifyProviders block = .ok ())
    (hdescriptors : verifyDescriptors block = .ok ()) :
  verifyEnabled block = .ok ()
  := by
  have hprovider : (block.provider != "") = true := by simpa using hprovider
  have hupdated : block.updated.isI64 = true := by simp [hupdated, isI64]
  simp [verifyEnabled, hprovider, hupdated, hproviders, hdescriptors, bind, Except.bind]

theorem exists_latest {l : List Int64} (h : l ≠ []) :
  ∃ t, latest l = some t
  := by
  cases l with
  | nil => exact absurd rfl h
  | cons t l =>
    rw [latest]
    split
    · use t
    · exact ⟨_, rfl⟩

/-- The provider a block names: the one it lists, if it lists one. -/
def primaryProvider : List String → String
  | [provider] => provider
  | _ => "multi"

/-- An enabled block is accepted when its providers are distinct, supported and in order, and
there is a descriptor for each of them, in that order. -/
theorem verifyEnabled_written {providers : List String} {first : RecoveryEscrowDescriptorV2}
    {rest : List RecoveryEscrowDescriptorV2} (updatedAtMs : Int64)
    (hperm : ((first :: rest).map RecoveryEscrowDescriptorV2.provider).Perm providers)
    (hnodup : providers.Nodup) (hsorted : providers.Pairwise fun a b => providerLe a b = true)
    (hdescriptors : (first :: rest).Pairwise fun a b => providerLe a.provider b.provider = true)
    (hsupported : ∀ p ∈ providers, p ∈ ESCROW_PROVIDER_PRIORITY) :
  verifyEnabled {
    enabled := true
    provider := primaryProvider providers
    updated := .int updatedAtMs.toInt
    descriptor := first.toJson
    providersRaw := some (providers.map .str)
    descriptorsRaw := some ((first :: rest).map RecoveryEscrowDescriptorV2.toJson) } = .ok ()
  := by
  have hne : providers ≠ [] := by
    rintro rfl
    cases hperm.eq_nil
  have hdistinct : (first :: rest).Pairwise fun a b => a.provider ≠ b.provider := by
    rw [← List.pairwise_map (f := RecoveryEscrowDescriptorV2.provider)]
    exact hperm.nodup_iff.mpr hnodup
  apply verifyEnabled_eq_ok
  · -- no supported provider has an empty name
    cases providers with
    | nil => exact absurd rfl hne
    | cons provider others =>
      cases others with
      | nil =>
        rintro rfl
        exact absurd (hsupported "" (List.mem_singleton_self _)) (by decide)
      | cons other others => exact (by decide : "multi" ≠ "")
  · rfl
  · exact verifyProviders_eq_ok rfl hne hnodup hsorted hsupported
  · apply verifyDescriptors_eq_ok (expectedProviderOrder_eq rfl hnodup hsorted).2 rfl rfl
    · intro d hd
      exact hperm.subset (List.mem_map_of_mem hd)
    · exact hdistinct.and hdescriptors
    · rfl

/-- The check of the escrow block accepts the block that is written when every descriptor in the
table is of a supported provider. -/
theorem verifyRecoveryEscrowMetadata_of_supported
    (hblock : recoveryEscrowExportBlock db = .ok block)
    (hmanifest : manifest.get "recovery_escrow" = some block)
    (hsupported : ∀ id row d, db.recoveryEscrowConfigs[id]? = some row →
      escrowDescriptor id row = .ok (some d) → d.provider ∈ ESCROW_PROVIDER_PRIORITY) :
  verifyRecoveryEscrowMetadata manifest = none
  := by
  simp only [recoveryEscrowExportBlock, AppResult.bind_eq_ok] at hblock
  obtain ⟨found, hfound, hblock⟩ := hblock
  split at hblock
  · cases hblock
    rw [verifyRecoveryEscrowMetadata, escrowBlock, hmanifest]
    rfl
  · next first rest hdescriptors =>
    rw [hdescriptors] at hblock
    cases hblock
    have hperm : (first :: rest).Perm (found.map Prod.fst) := by
      rw [← hdescriptors]
      apply List.perm_insertionSort
    have hprovidersPerm := List.perm_insertionSort (fun a b => providerLe a b = true)
      (found.map fun d => d.1.provider)
    have hdistinct := providers_sorted hfound
    have hmatch : ((first :: rest).map RecoveryEscrowDescriptorV2.provider).Perm
        ((found.map fun d => d.1.provider).insertionSort fun a b => providerLe a b) := by
      apply List.Perm.trans _ hprovidersPerm.symm
      simpa [Function.comp_def] using hperm.map RecoveryEscrowDescriptorV2.provider
    have hsorted : (first :: rest).Pairwise
        fun a b => providerLe a.provider b.provider = true := by
      rw [← hdescriptors]
      apply List.pairwise_insertionSort
    have hprovider : ∀ p ∈ (found.map fun d => d.1.provider).insertionSort
        (fun a b => providerLe a b), p ∈ ESCROW_PROVIDER_PRIORITY := by
      intro p hp
      obtain ⟨d, hd, rfl⟩ := List.mem_map.mp (hprovidersPerm.subset hp)
      obtain ⟨row, hrow, hdescriptor⟩ := exists_row_of_mem hfound hd
      exact hsupported _ _ _ (Std.ExtTreeMap.mem_toList_iff_getElem?_eq_some.mp hrow) hdescriptor
    have hfoundAny : found.map Prod.snd ≠ [] := by
      intro hnil
      rw [List.map_eq_nil_iff.mp hnil] at hperm
      cases hperm.eq_nil
    obtain ⟨updatedAtMs, hlatest⟩ := exists_latest hfoundAny
    have hverified := verifyEnabled_written updatedAtMs hmatch hdistinct
      (List.pairwise_insertionSort _ _) hsorted hprovider
    rw [verifyRecoveryEscrowMetadata, escrowBlock, hmanifest, hlatest]
    exact congrArg (fun result => match result with
      | .ok () => none
      | .error entry => some entry) hverified

/-- The check of the escrow block accepts the block that an export writes. -/
theorem verifyRecoveryEscrowMetadata_export
    (hblock : recoveryEscrowExportBlock db = .ok block)
    (hmanifest : manifest.get "recovery_escrow" = some block)
    (hsupported : ∀ id ∈ db.recoveryEscrowConfigs, id ∈ ESCROW_PROVIDER_PRIORITY) :
  verifyRecoveryEscrowMetadata manifest = none
  := by
  apply verifyRecoveryEscrowMetadata_of_supported hblock hmanifest
  intro id row d hrow hdescriptor
  rw [provider_of_escrowDescriptor hdescriptor]
  apply hsupported
  rw [Std.ExtTreeMap.mem_iff_isSome_getElem?, hrow, Option.isSome_some]

end ExportedBlock

/-- Two providers with descriptors, and one that has been enabled without any yet. -/
def Sample.escrowDb : Db :=
  let row (id : String) : RecoveryEscrowConfigRow := {
    enabled := true
    descriptorJson := some (Export.RecoveryEscrowDescriptorV2.toJson
      { provider := id, providerRef := "ref", keyId := "key", wrappedAtMs := 5 })
    updatedAtMs := 5 }
  { Db.empty with
    recoveryEscrowConfigs := ((Db.empty.recoveryEscrowConfigs.insert "local" (row "local")).insert
      "aws" (row "aws")).insert "gcp"
        { enabled := true, descriptorJson := some (.obj []), updatedAtMs := 7 } }

theorem verifyRecoveryEscrowMetadata_export_sample :
  ∃ block, Export.recoveryEscrowExportBlock Sample.escrowDb = .ok block
    ∧ ((block.get "enabled").bind asBool) = some true
    ∧ verifyRecoveryEscrowMetadata (.obj [("recovery_escrow", block)]) = none
  := by
  obtain ⟨block, hblock, henabled⟩ := exists_of_any
    (x := Export.recoveryEscrowExportBlock Sample.escrowDb)
    (p := fun block => ((block.get "enabled").bind asBool) = some true) (by decide)
  use block, hblock, of_decide_eq_true henabled
  apply verifyRecoveryEscrowMetadata_export hblock rfl
  intro id hid
  simp only [Sample.escrowDb, Std.ExtTreeMap.mem_insert, Std.LawfulEqCmp.compare_eq_iff_eq] at hid
  obtain rfl | rfl | rfl | hid := hid
  · decide
  · decide
  · decide
  · simp [Db.empty] at hid

end Verifier

end KnowledgeCore
