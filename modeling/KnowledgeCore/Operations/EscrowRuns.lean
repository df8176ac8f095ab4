import KnowledgeCore.Operations.Init
import KnowledgeCore.Operations.LeftKeys

/-!
# Runs of escrow calls

Everything a call of recovery escrow does is one of a few steps: a row is written to a table, a key
is left with an adapter, it is noted where the last bundle is, or a key is put back. From this
follows what the tables look like after any number of calls.
-/

namespace KnowledgeCore

namespace EscrowProviders

open Export (RecoveryEscrowDescriptorV2 ESCROW_PROVIDER_PRIORITY)
open Fallible (Within)
open Ingest (openVault toAsciiLowercase)
open Operations hiding vaultRecoveryEscrowEnableService vaultRecoveryEscrowProviderAddService
  vaultRecoveryEscrowRotateAllService vaultRecoveryEscrowRotateService
  vaultRecoveryEscrowRestoreService rotateEach
open Recovery (keyBlobPath)
open Relation (ReflTransGen)

/-! ### Supported providers -/

/-- A name that a provider is found by. -/
def Supported (providerId : String) : Prop :=
  toAsciiLowercase (trim providerId) ∈ ESCROW_PROVIDER_PRIORITY

/-- The names of the providers are in their normal form. -/
theorem normal_of_mem {providerId : String} (h : providerId ∈ ESCROW_PROVIDER_PRIORITY) :
  toAsciiLowercase (trim providerId) = providerId
  := by
  have hall : ∀ id ∈ ESCROW_PROVIDER_PRIORITY, toAsciiLowercase (trim id) = id := by
    decide +kernel
  exact hall providerId h

theorem supported_of_mem {providerId : String} (h : providerId ∈ ESCROW_PROVIDER_PRIORITY) :
  Supported providerId
  := by
  rw [Supported, normal_of_mem h]
  exact h

section Resolving

variable {host : Host} {vaultId providerId : String} {provider : RecoveryEscrowProvider}

theorem providerId_of_resolve
    (h : resolveRecoveryEscrowProvider host vaultId providerId = .ok provider) :
  provider.providerId = toAsciiLowercase (trim providerId)
  := by
  unfold resolveRecoveryEscrowProvider at h
  split at h <;> cases h
  all_goals
    next heq => exact heq.symm

theorem supported_of_resolve
    (h : resolveRecoveryEscrowProvider host vaultId providerId = .ok provider) :
  Supported providerId
  := by
  rw [Supported, ← providerId_of_resolve h]
  exact mem_of_resolve h

theorem exists_resolve (host : Host) (vaultId : String) (h : Supported providerId) :
  ∃ provider, resolveRecoveryEscrowProvider host vaultId providerId = .ok provider
  := by
  rw [resolveRecoveryEscrowProvider]
  simp only [Supported, ESCROW_PROVIDER_PRIORITY, List.mem_cons, List.not_mem_nil, or_false] at h
  rcases h with h | h | h | h | h | h
  all_goals
    rw [h]
    exact ⟨_, rfl⟩

end Resolving

/-! ### Steps -/

/-- Which rows of the configurations a call may write, and with which passphrases and of which times
it makes bundles. -/
structure Scope where
  ids : String → Prop
  bundles : String → Int64 → Prop

/-- Any row, and any bundle. -/
def Scope.all : Scope where
  ids _ := True
  bundles _ _ := True

/-- What calls do. -/
inductive Touch (ext : Externals) (host : Host) (trouble : EscrowTrouble) (vaultId : String)
    (scope : Scope) (s : EscrowState) : EscrowState → Prop
  | config {providerId value updatedAtMs} (hid : Supported providerId)
      (hscope : scope.ids providerId) (hmissing : value.get "provider" = none) :
    Touch ext host trouble vaultId scope s
      ((Statement.config providerId value updatedAtMs).apply ext s)
  | descriptor {descriptor : RecoveryEscrowDescriptorV2} {updatedAtMs}
      (hid : descriptor.provider ∈ ESCROW_PROVIDER_PRIORITY)
      (hscope : scope.ids descriptor.provider) :
    Touch ext host trouble vaultId scope s
      ((Statement.config descriptor.provider descriptor.toJson updatedAtMs).apply ext s)
  | provider {providerId configRef updatedAtMs} (hid : Supported providerId) :
    Touch ext host trouble vaultId scope s
      ((Statement.provider providerId configRef updatedAtMs).apply ext s)
  | event (providerId action tsMs details) :
    Touch ext host trouble vaultId scope s
      ((Statement.event providerId action tsMs details).apply ext s)
  | leave {provider outputDir passphrase nowMs} (hbundle : scope.bundles passphrase nowMs) :
    Touch ext host trouble vaultId scope s
      { s with
        files := (leaveKey ext (trouble.moment ext vaultId passphrase) provider vaultId outputDir
          passphrase nowMs s.files).2 }
  | note (moment bundlePath) :
    Touch ext host trouble vaultId scope s
      { s with files := (writeRecoveryStateFile host moment bundlePath s.files).2 }
  | restore (moment error bundlePath bytes) :
    Touch ext host trouble vaultId scope s
      { s with files := (writeFile moment error (keyBlobPath bundlePath) bytes s.files).2 }

section Steps

variable {ext : Externals} {host : Host} {trouble : EscrowTrouble} {vaultId : String}
  {scope : Scope} {s t : EscrowState}

theorem execute_eq_ok {statement : Statement} {u : Unit} :
  execute ext trouble statement s = (.ok u, t)
    ↔ trouble.refuses statement = none ∧ t = statement.apply ext s
  := by
  rw [execute]
  split
  · next hrefused => simp [hrefused]
  · next hrefused => simp [hrefused, eq_comm]

theorem onFiles_eq_ok {α : Type} {f : Files → AppResult α × Files} {a : α} :
  onFiles f s = (.ok a, t) ↔ ∃ files, f s.files = (.ok a, files) ∧ t = { s with files }
  := by
  rw [onFiles]
  constructor
  · intro h
    obtain ⟨hresult, rfl⟩ := Prod.mk.inj h
    use (f s.files).2
    exact ⟨Prod.ext hresult rfl, rfl⟩
  · rintro ⟨files, hf, rfl⟩
    rw [hf]

theorem within_execute {statement : Statement}
    (h : ∀ s, Touch ext host trouble vaultId scope s (statement.apply ext s)) :
  Within (Touch ext host trouble vaultId scope) (execute ext trouble statement) s
  := by
  rw [Within, execute]
  split
  · exact ReflTransGen.refl
  · exact ReflTransGen.single (h s)

theorem within_onFiles {α : Type} {f : Files → AppResult α × Files}
    (h : ∀ s : EscrowState, Touch ext host trouble vaultId scope s
      { s with files := (f s.files).2 }) :
  Within (Touch ext host trouble vaultId scope) (onFiles f) s
  := ReflTransGen.single (h s)

/-! ### Calls are made of steps -/

theorem resolve_of_resolveConfigured {providerId : String} {provider : RecoveryEscrowProvider}
    (h : resolveConfigured host vaultId providerId = .ok provider) :
  resolveRecoveryEscrowProvider host vaultId providerId = .ok provider
  := by
  obtain ⟨found, hfound, h⟩ := AppResult.bind_eq_ok.mp h
  split at h
  · cases h
  · cases h
    exact hfound

theorem resolveAvailable_eq_ok {db : Db} {found : String × RecoveryEscrowProvider} :
  resolveAvailable host vaultId db = .ok found
    ↔ (∃ row, readRecoveryEscrowConfig db = some (found.1, row) ∧ row.enabled = true)
      ∧ resolveRecoveryEscrowProvider host vaultId found.1 = .ok found.2
      ∧ found.2.available = true
  := by
  simp only [resolveAvailable, enabledConfig, AppResult.bind_eq_ok, okOrElse_eq_ok]
  constructor
  · rintro ⟨config, ⟨config', hconfig, henabled⟩, provider, hprovider, h⟩
    split at henabled
    case isTrue => cases henabled
    next hrow =>
    cases henabled
    split at h
    case isTrue => cases h
    next havailable =>
    cases h
    refine ⟨⟨_, hconfig, ?_⟩, hprovider, ?_⟩
    · simpa using hrow
    · simpa using havailable
  · rintro ⟨⟨row, hconfig, henabled⟩, hprovider, havailable⟩
    refine ⟨(found.1, row), ⟨_, hconfig, ?_⟩, found.2, hprovider, ?_⟩
    · rw [if_neg]
      simp [henabled]
    · rw [if_neg]
      simp [havailable]

theorem resolveForAll_eq_ok {providerId : String} {provider : RecoveryEscrowProvider} :
  resolveForAll host vaultId providerId = .ok provider
    ↔ resolveRecoveryEscrowProvider host vaultId providerId = .ok provider
      ∧ provider.available = true
  := by
  simp only [resolveForAll, AppResult.bind_eq_ok]
  constructor
  · rintro ⟨found, hfound, h⟩
    split at h
    case isTrue => cases h
    next havailable =>
    cases h
    exact ⟨hfound, by simpa using havailable⟩
  · rintro ⟨hfound, havailable⟩
    use provider, hfound
    rw [if_neg]
    simp [havailable]

theorem within_enableProvider {providerId : String} {nowMs : Int64}
    (hids : scope.ids providerId) :
  Within (Touch ext host trouble vaultId scope)
    (enableProvider ext host trouble vaultId providerId nowMs) s
  := by
  apply Within.bind (Within.ofExcept _ _)
  intro provider t hprovider
  have hid := supported_of_resolve
    (resolve_of_resolveConfigured (Fallible.ofExcept_eq_ok.mp hprovider).1)
  apply Within.bind (within_execute fun s => .config hid hids rfl)
  intro _ _ _
  apply Within.bind (within_execute fun s => .event _ _ _ _)
  intro _ _ _
  apply Within.reading

theorem within_addProvider {providerId configRef : String} {nowMs : Int64}
    (hids : scope.ids providerId) :
  Within (Touch ext host trouble vaultId scope)
    (addProvider ext host trouble vaultId providerId configRef nowMs) s
  := by
  apply Within.bind (Within.ofExcept _ _)
  intro provider t hprovider
  have hid := supported_of_resolve
    (resolve_of_resolveConfigured (Fallible.ofExcept_eq_ok.mp hprovider).1)
  apply Within.bind (within_execute fun s => .provider hid)
  intro _ _ _
  apply Within.bind (within_execute fun s => .config hid hids rfl)
  intro _ _ _
  apply Within.bind (within_execute fun s => .event _ _ _ _)
  intro _ _ _
  apply Within.bind (Within.reading _ _)
  intro _ _ _
  apply Within.ofExcept

/-- What follows in a rotation after the key has been left. -/
theorem within_noteLast {moment : EscrowMoment} {providerId action : String} {value details : Json}
    {nowMs : Int64} {rotated : Rotated} (hid : Supported providerId)
    (hscope : scope.ids providerId) (hmissing : value.get "provider" = none) :
  Within (Touch ext host trouble vaultId scope)
    (do
      onFiles (writeRecoveryStateFile host moment rotated.generated.bundlePath)
      execute ext trouble (.config providerId value nowMs)
      execute ext trouble (.event providerId action nowMs details)
      let status ← escrowStatus host vaultId
      pure (status, rotated) : EscrowM (VaultRecoveryEscrowStatus × Rotated)) s
  := by
  apply Within.bind (within_onFiles fun s => .note _ _)
  intro _ _ _
  apply Within.bind (within_execute fun s => .config hid hscope hmissing)
  intro _ _ _
  apply Within.bind (within_execute fun s => .event _ _ _ _)
  intro _ _ _
  apply Within.bind (Within.reading _ _)
  intro _ _ _
  apply Within.pure

theorem within_rotateLast {passphrase : String} {nowMs : Int64}
    (hbundle : scope.bundles passphrase nowMs)
    (hids : ∀ config, readRecoveryEscrowConfig s.file.db = some config → scope.ids config.1) :
  Within (Touch ext host trouble vaultId scope)
    (rotateLast ext host trouble vaultId passphrase nowMs) s
  := by
  apply Within.bind (Within.reading _ _)
  rintro ⟨providerId, provider⟩ t hfound
  obtain ⟨⟨row, hconfig, -⟩, hprovider, -⟩ :=
    resolveAvailable_eq_ok.mp (Fallible.reading_eq_ok.mp hfound).1
  apply Within.bind (within_onFiles fun s => .leave hbundle)
  intro rotated _ _
  exact within_noteLast (supported_of_resolve hprovider) (hids _ hconfig) rfl

/-- What follows in rotating the key of one of all the providers after it has been left. -/
theorem within_noteOne {moment moment' : EscrowMoment} {passphrase outputDir configRef : String}
    {row : String × RecoveryEscrowProviderConfigRowV3} {provider : RecoveryEscrowProvider}
    {details : Json} {nowMs : Int64} {rotated : Rotated} {files files' : Files}
    (hrow : row.1 ∈ ESCROW_PROVIDER_PRIORITY) (hscope : scope.ids row.1)
    (hresolve : resolveRecoveryEscrowProvider host vaultId row.1 = .ok provider)
    (hleave : leaveKey ext moment provider vaultId outputDir passphrase nowMs files
      = (.ok rotated, files')) :
  Within (Touch ext host trouble vaultId scope)
    (do
      execute ext trouble (.config row.1 rotated.descriptor.toJson nowMs)
      execute ext trouble (.provider row.1 configRef nowMs)
      execute ext trouble (.event row.1 "rotate_all" nowMs details)
      onFiles (writeRecoveryStateFile host moment' rotated.generated.bundlePath)
      pure rotated : EscrowM Rotated) s
  := by
  obtain ⟨drawn, hleft⟩ := leaveKey_eq_ok hleave
  have hdescriptor : rotated.descriptor.provider = row.1 := by
    rw [hleft.descriptor]
    exact (providerId_of_resolve hresolve).trans (normal_of_mem hrow)
  have htouch (s : EscrowState) : Touch ext host trouble vaultId scope s
      ((Statement.config row.1 rotated.descriptor.toJson nowMs).apply ext s) := by
    rw [← hdescriptor] at hrow hscope ⊢
    exact .descriptor hrow hscope
  apply Within.bind (within_execute htouch)
  intro _ _ _
  apply Within.bind (within_execute fun s => .provider (supported_of_mem hrow))
  intro _ _ _
  apply Within.bind (within_execute fun s => .event _ _ _ _)
  intro _ _ _
  apply Within.bind (within_onFiles fun s => .note _ _)
  intro _ _ _
  apply Within.pure

theorem within_rotateOne {passphrase : String} {nowMs : Int64}
    {row : String × RecoveryEscrowProviderConfigRowV3} (hrow : row.1 ∈ ESCROW_PROVIDER_PRIORITY)
    (hids : scope.ids row.1) (hbundle : scope.bundles passphrase nowMs) :
  Within (Touch ext host trouble vaultId scope)
    (rotateOne ext host trouble vaultId passphrase row nowMs) s
  := by
  apply Within.bind (Within.ofExcept _ _)
  intro provider t hprovider
  have hresolve := (resolveForAll_eq_ok.mp (Fallible.ofExcept_eq_ok.mp hprovider).1).1
  apply Within.bind (within_onFiles fun s => .leave hbundle)
  intro rotated u hleave
  obtain ⟨files, hleave, -⟩ := onFiles_eq_ok.mp hleave
  exact within_noteOne hrow hids hresolve hleave

theorem within_rotateEach {passphrase : String} {nowMs : Int64}
    {rows : List (String × RecoveryEscrowProviderConfigRowV3)}
    (hrows : ∀ row ∈ rows, row.1 ∈ ESCROW_PROVIDER_PRIORITY)
    (hids : ∀ row ∈ rows, scope.ids row.1)
    (hbundles : ∀ i < rows.length, scope.bundles passphrase (nowMs + Int64.ofNat i)) :
  Within (Touch ext host trouble vaultId scope)
    (rotateEach ext host trouble vaultId passphrase rows nowMs) s
  := by
  induction rows generalizing nowMs s with
  | nil => apply Within.pure
  | cons row rest ih =>
    have hfirst : scope.bundles passphrase nowMs := by
      simpa using hbundles 0 (by simp)
    apply Within.bind (within_rotateOne (hrows _ List.mem_cons_self) (hids _ List.mem_cons_self)
      hfirst)
    intro rotated t _
    apply Within.bind
    · apply ih
      · exact fun row hrow => hrows row (List.mem_cons_of_mem _ hrow)
      · exact fun row hrow => hids row (List.mem_cons_of_mem _ hrow)
      · intro i hi
        have hnext := hbundles (i + 1) (by simpa using hi)
        rwa [Int64.ofNat_add, Int64.add_comm (Int64.ofNat i), ← Int64.add_assoc] at hnext
    · intro _ _ _
      apply Within.pure

theorem within_restoreBundle {bundlePath : String} {nowMs : Int64} :
  Within (Touch ext host trouble vaultId scope)
    (restoreBundle ext host trouble vaultId bundlePath nowMs) s
  := by
  apply Within.bind (Within.reading _ _)
  intro config _ _
  apply Within.bind (Within.reading _ _)
  intro manifest _ _
  apply Within.bind (Within.ofExcept _ _)
  intro descriptor _ _
  apply Within.bind (Within.ofExcept _ _)
  intro provider _ _
  apply Within.bind (Within.reading _ _)
  intro bytes _ _
  apply Within.bind (within_onFiles fun s => .restore _ _ _ _)
  intro _ _ _
  apply Within.bind (within_execute fun s => .event _ _ _ _)
  intro _ _ _
  apply Within.bind (Within.reading _ _)
  intro _ _ _
  apply Within.pure

end Steps

/-! ### The tables after a step -/

/-- A configuration as the calls write it: enabled, of a supported provider, and with a descriptor
that an export can read if it has one. -/
structure Sound (providerId : String) (row : RecoveryEscrowConfigRow) : Prop where
  enabled : row.enabled = true
  supported : Supported providerId
  readable : ∃ descriptor, Export.escrowDescriptor providerId row = .ok descriptor

/-- The tables of escrow as the calls write them. -/
structure Orderly (s : EscrowState) : Prop where
  rows : ∀ providerId row, s.file.db.recoveryEscrowConfigs[providerId]? = some row →
    Sound providerId row
  providers : ∀ (providerId : String) row, s.providers[providerId]? = some row →
    providerId ∈ ESCROW_PROVIDER_PRIORITY

section Tables

variable {ext : Externals} {host : Host} {trouble : EscrowTrouble} {vaultId : String}
  {scope : Scope} {s t : EscrowState}

theorem escrowDescriptor_toJson (descriptor : RecoveryEscrowDescriptorV2) (updatedAtMs : Int64) :
  Export.escrowDescriptor descriptor.provider
      { enabled := true, descriptorJson := some descriptor.toJson, updatedAtMs }
    = .ok (some descriptor)
  := by
  have hshape : (["provider", "provider_ref", "key_id", "wrapped_at_ms"].all
      fun key => (descriptor.toJson.get key).isSome) = true := by
    simp [RecoveryEscrowDescriptorV2.toJson, Json.get, List.lookup_cons]
  simp only [Export.escrowDescriptor, Bool.not_true, Bool.false_eq_true, if_false,
    okOrElse_some, AppResult.ok_bind, hshape, ofJson_toJson, mapErr_ok, ne_eq,
    not_true_eq_false]

theorem Orderly.config (h : Orderly s) {providerId : String} {value : Json} {updatedAtMs : Int64}
    (hrow : Sound providerId { enabled := true, descriptorJson := some value, updatedAtMs }) :
  Orderly ((Statement.config providerId value updatedAtMs).apply ext s)
  where
  rows providerId' row hfound := by
    change (s.file.db.recoveryEscrowConfigs.insert providerId _)[providerId']? = some row at hfound
    rw [Std.ExtTreeMap.getElem?_insert] at hfound
    split at hfound
    · next heq =>
      cases Std.LawfulEqCmp.eq_of_compare heq
      cases hfound
      exact hrow
    · exact h.rows _ _ hfound
  providers := h.providers

/-- The calls keep the tables in order. -/
theorem Orderly.touch (h : Orderly s) (htouch : Touch ext host trouble vaultId scope s t) :
  Orderly t
  := by
  cases htouch with
  | config hid _ hmissing =>
    apply h.config
    exact ⟨rfl, hid, none, escrowDescriptor_of_missing hmissing⟩
  | @descriptor descriptor updatedAtMs hid _ =>
    apply h.config
    exact ⟨rfl, supported_of_mem hid, some descriptor, escrowDescriptor_toJson _ _⟩
  | @provider providerId configRef updatedAtMs hid =>
    constructor
    · exact h.rows
    · intro providerId' row hfound
      change (s.providers.insert (toAsciiLowercase (trim providerId)) _)[providerId']? = some row
        at hfound
      rw [Std.ExtTreeMap.getElem?_insert] at hfound
      split at hfound
      · next heq =>
        cases Std.LawfulEqCmp.eq_of_compare heq
        exact hid
      · exact h.providers _ _ hfound
  | event => exact ⟨h.rows, h.providers⟩
  | leave => exact ⟨h.rows, h.providers⟩
  | note => exact ⟨h.rows, h.providers⟩
  | restore => exact ⟨h.rows, h.providers⟩

/-- The database stays readable with the same key, at the same schema. -/
theorem file_touch (htouch : Touch ext host trouble vaultId scope s t) :
  t.file.key = s.file.key ∧ t.file.db.userVersion = s.file.db.userVersion
  := by
  cases htouch <;> exact ⟨rfl, rfl⟩

theorem Orderly.touches (h : Orderly s)
    (htouches : ReflTransGen (Touch ext host trouble vaultId scope) s t) :
  Orderly t
  := by
  induction htouches with
  | refl => exact h
  | tail _ htouch ih => exact ih.touch htouch

theorem file_touches (htouches : ReflTransGen (Touch ext host trouble vaultId scope) s t) :
  t.file.key = s.file.key ∧ t.file.db.userVersion = s.file.db.userVersion
  := by
  induction htouches with
  | refl => exact ⟨rfl, rfl⟩
  | tail _ htouch ih =>
    obtain ⟨hkey, hversion⟩ := file_touch htouch
    exact ⟨hkey.trans ih.1, hversion.trans ih.2⟩

theorem laterConfig_eq (config : Option (String × RecoveryEscrowConfigRow))
    (row : String × RecoveryEscrowConfigRow) :
  laterConfig config row = config ∨ laterConfig config row = some row
  := by
  cases config with
  | none =>
    right
    rfl
  | some last =>
    rw [laterConfig]
    split
    · right
      rfl
    · left
      rfl

/-- The configuration that was last updated is one of those there are. -/
theorem mem_of_readRecoveryEscrowConfig {db : Db} {config : String × RecoveryEscrowConfigRow}
    (h : readRecoveryEscrowConfig db = some config) :
  db.recoveryEscrowConfigs[config.1]? = some config.2
  := by
  have hmem (rows : List (String × RecoveryEscrowConfigRow)) (start) :
      rows.foldl laterConfig start = start
        ∨ ∃ row ∈ rows, rows.foldl laterConfig start = some row := by
    induction rows generalizing start with
    | nil =>
      left
      rfl
    | cons row rest ih =>
      rw [List.foldl_cons]
      obtain hstart | ⟨row', hrow', hfold⟩ := ih (laterConfig start row)
      · rw [hstart]
        obtain hlater | hlater := laterConfig_eq start row
        · left
          exact hlater
        · right
          exact ⟨row, List.mem_cons_self, hlater⟩
      · right
        exact ⟨row', List.mem_cons_of_mem _ hrow', hfold⟩
  obtain hnone | ⟨row, hrow, hfold⟩ := hmem db.recoveryEscrowConfigs.toList none
  · rw [readRecoveryEscrowConfig, hnone] at h
    cases h
  · rw [readRecoveryEscrowConfig, hfold] at h
    cases h
    exact Std.ExtTreeMap.mem_toList_iff_getElem?_eq_some.mp hrow

/-- The state of escrow can always be told. -/
theorem Orderly.status (h : Orderly s) :
  ∃ status, escrowStatus host vaultId s = (.ok status, s)
  := by
  rw [escrowStatus, Fallible.reading]
  cases hconfig : readRecoveryEscrowConfig s.file.db with
  | none => exact ⟨_, rfl⟩
  | some config =>
    have hsound := h.rows _ _ (mem_of_readRecoveryEscrowConfig hconfig)
    obtain ⟨provider, hprovider⟩ := exists_resolve host vaultId hsound.supported
    rw [recoveryEscrowStatusFromConfig, hprovider, AppResult.ok_bind]
    exact ⟨_, rfl⟩

/-- The references that are enabled are rows of their table. -/
theorem mem_enabledProviders {rows : List (String × RecoveryEscrowProviderConfigRowV3)}
    (h : enabledProviders s = .ok rows) {row : String × RecoveryEscrowProviderConfigRowV3} :
  row ∈ rows ↔ s.providers[row.1]? = some row.2 ∧ row.2.enabled = true
  := by
  rw [enabledProviders] at h
  split at h
  · cases h
  · cases h
    rw [List.mem_filter, listRecoveryEscrowProviderConfigsV3, List.mem_insertionSort,
      Std.ExtTreeMap.mem_toList_iff_getElem?_eq_some]

end Tables

/-! ### Calls -/

inductive Call
  | enable (providerId : String)
  | providerAdd (providerId configRef : String)
  | rotate (passphrase : String)
  | rotateAll (passphrase : String)
  | restore (bundlePath : String)

/-- What a call returns of the keys it has rotated. -/
def rotations {α : Type} (f : α → List Rotated) (r : AppResult α × EscrowVault) :
  AppResult (List Rotated) × EscrowVault
  := (r.1.map f, r.2)

/-- Make a call. -/
def Call.run (ext : Externals) (host : Host) (trouble : EscrowTrouble) (nowMs : Int64)
    (v : EscrowVault) : Call → AppResult (List Rotated) × EscrowVault
  | .enable providerId => rotations (fun _ => [])
    (vaultRecoveryEscrowEnableService ext host trouble providerId nowMs v)
  | .providerAdd providerId configRef => rotations (fun _ => [])
    (vaultRecoveryEscrowProviderAddService ext host trouble providerId configRef nowMs v)
  | .rotate passphrase => rotations (fun r => [r.2])
    (vaultRecoveryEscrowRotateService ext host trouble passphrase nowMs v)
  | .rotateAll passphrase => rotations id
    (vaultRecoveryEscrowRotateAllService ext host trouble passphrase nowMs v)
  | .restore bundlePath => rotations (fun _ => [])
    (vaultRecoveryEscrowRestoreService ext host trouble bundlePath nowMs v)

def Call.scope (nowMs : Int64) (s : EscrowState) : Call → Scope
  | .enable providerId | .providerAdd providerId _ => {
      ids := fun id => id = providerId
      bundles := fun _ _ => False }
  | .rotate passphrase => {
      ids := fun id => ∃ row, readRecoveryEscrowConfig s.file.db = some (id, row)
      bundles := fun passphrase' t => passphrase' = passphrase ∧ t = nowMs }
  | .rotateAll passphrase => {
      ids := fun id => ∃ row, s.providers[id]? = some row ∧ row.enabled = true
      bundles := fun passphrase' t => passphrase' = passphrase
        ∧ ∃ rows, enabledProviders s = .ok rows ∧ ∃ i < rows.length, t = nowMs + Int64.ofNat i }
  | .restore _ => {
      ids := fun _ => False
      bundles := fun _ _ => False }

section Calls

variable {ext : Externals} {host : Host} {trouble : EscrowTrouble} {nowMs : Int64}
  {v : EscrowVault} {config : VaultJsonV3} {file : SqliteFile} {s t : EscrowState}

/-- A call of a vault that opens is a call of its state. -/
theorem inVault_of_openVault {α : Type} {body : String → EscrowM α}
    (h : openVault ext host v.machine.vault = .ok (config, file)) :
  inVault ext host body v = ((body config.vaultId (v.state file)).1,
    v.leave config (body config.vaultId (v.state file)).2)
  := by
  rw [inVault, h]

theorem inVault_of_error {α : Type} {body : String → EscrowM α} {e : AppError}
    (h : openVault ext host v.machine.vault = .error e) :
  inVault ext host body v = (.error e, v)
  := by
  rw [inVault, h]

/-- A vault opens with what a call has left of its database. -/
theorem openVault_leave (h : openVault ext host v.machine.vault = .ok (config, file))
    (hkey : s.file.key = file.key) (hversion : s.file.db.userVersion = file.db.userVersion) :
  openVault ext host (v.leave config s).machine.vault = .ok (config, s.file)
  := by
  have hopened : (v.leave config s).machine.vault.get Vault.vaultJsonPath
      = v.machine.vault.get Vault.vaultJsonPath := by
    change (Dir.write _ _ _).get _ = _
    rw [Dir.get_write, if_neg (Ingest.dbPath_ne_of_openVault h)]
  obtain ⟨config', hconfig, h⟩ := AppResult.bind_eq_ok.mp h
  obtain ⟨file', hfile, h⟩ := AppResult.bind_eq_ok.mp h
  cases h
  obtain ⟨key, hkeyed, hfile⟩ := AppResult.bind_eq_ok.mp hfile
  obtain ⟨hfilekey, hlatest⟩ := Vault.openDbFile_eq_ok hfile
  have hreopen : Ingest.openDbOf ext host (v.leave config s).machine.vault config
      = .ok s.file := by
    rw [Ingest.openDbOf, Vault.dbEncryptionKey_congr hopened, hkeyed, AppResult.ok_bind]
    change Vault.openDbFile ext key ((Dir.write _ _ _).get _) = _
    rw [Dir.get_write, if_pos rfl]
    apply Vault.openDbFile_latest
    · rw [hkey, hfilekey]
    · rw [hversion, hlatest]
  rw [openVault, Vault.vaultOpen_congr hopened, hconfig, AppResult.ok_bind, hreopen]
  rfl

/-- A vault with its tables in order. -/
def OrderlyVault (ext : Externals) (host : Host) (v : EscrowVault) : Prop :=
  ∀ config file, openVault ext host v.machine.vault = .ok (config, file) →
    VaultJsonV3.uuidV4Pattern.fits config.vaultId.toList = true ∧ Orderly (v.state file)

theorem within_rotateAll {vaultId passphrase : String} (horderly : Orderly s) :
  Within (Touch ext host trouble vaultId ((Call.rotateAll passphrase).scope nowMs s))
    (rotateAll ext host trouble vaultId passphrase nowMs) s
  := by
  apply Within.bind (Within.reading _ _)
  intro rows t hfound
  obtain ⟨hrows, rfl⟩ := Fallible.reading_eq_ok.mp hfound
  apply within_rotateEach
  · intro row hrow
    exact horderly.providers _ _ ((mem_enabledProviders hrows).mp hrow).1
  · intro row hrow
    use row.2
    exact (mem_enabledProviders hrows).mp hrow
  · intro i hi
    exact ⟨rfl, rows, hrows, i, hi, rfl⟩

/-- A call that cannot open the vault changes nothing, and any other takes steps from the state of
the vault. -/
theorem Call.run_cases (h : OrderlyVault ext host v) (trouble : EscrowTrouble) (nowMs : Int64)
    (call : Call) :
  (call.run ext host trouble nowMs v).2 = v
    ∨ ∃ config file s, openVault ext host v.machine.vault = .ok (config, file)
      ∧ ReflTransGen (Touch ext host trouble config.vaultId
          (call.scope nowMs (v.state file))) (v.state file) s
      ∧ (call.run ext host trouble nowMs v).2 = v.leave config s
  := by
  cases hopen : openVault ext host v.machine.vault with
  | error e =>
    left
    cases call with
    | enable providerId =>
      rw [Call.run, vaultRecoveryEscrowEnableService, inVault_of_error hopen]
      rfl
    | providerAdd providerId configRef =>
      rw [Call.run, vaultRecoveryEscrowProviderAddService, inVault_of_error hopen]
      split <;> rfl
    | rotate passphrase =>
      rw [Call.run, vaultRecoveryEscrowRotateService, inVault_of_error hopen]
      split <;> rfl
    | rotateAll passphrase =>
      rw [Call.run, vaultRecoveryEscrowRotateAllService, inVault_of_error hopen]
      split <;> rfl
    | restore bundlePath =>
      rw [Call.run, vaultRecoveryEscrowRestoreService, inVault_of_error hopen]
      rfl
  | ok found =>
    obtain ⟨config, file⟩ := found
    have horderly := (h config file hopen).2
    cases call with
    | enable providerId =>
      rw [Call.run, vaultRecoveryEscrowEnableService, inVault_of_openVault hopen]
      right
      exact ⟨config, file, _, rfl, within_enableProvider rfl, rfl⟩
    | providerAdd providerId configRef =>
      rw [Call.run, vaultRecoveryEscrowProviderAddService, inVault_of_openVault hopen]
      split
      · left
        rfl
      · right
        exact ⟨config, file, _, rfl, within_addProvider rfl, rfl⟩
    | rotate passphrase =>
      rw [Call.run, vaultRecoveryEscrowRotateService, inVault_of_openVault hopen]
      split
      · left
        rfl
      · right
        refine ⟨config, file, _, rfl, within_rotateLast ⟨rfl, rfl⟩ ?_, rfl⟩
        exact fun row hrow => ⟨row.2, hrow⟩
    | rotateAll passphrase =>
      rw [Call.run, vaultRecoveryEscrowRotateAllService, inVault_of_openVault hopen]
      split
      · left
        rfl
      · right
        exact ⟨config, file, _, rfl, within_rotateAll horderly, rfl⟩
    | restore bundlePath =>
      rw [Call.run, vaultRecoveryEscrowRestoreService, inVault_of_openVault hopen]
      right
      exact ⟨config, file, _, rfl, within_restoreBundle, rfl⟩

/-- A call keeps the tables in order. -/
theorem OrderlyVault.run (h : OrderlyVault ext host v) (trouble : EscrowTrouble) (nowMs : Int64)
    (call : Call) :
  OrderlyVault ext host (call.run ext host trouble nowMs v).2
  := by
  obtain hsame | ⟨config, file, s, hopen, htouches, hleave⟩ := call.run_cases h trouble nowMs
  · rw [hsame]
    exact h
  · obtain ⟨hid, horderly⟩ := h config file hopen
    obtain ⟨hkey, hversion⟩ := file_touches htouches
    rw [hleave]
    intro config' file' hopen'
    rw [openVault_leave hopen hkey hversion] at hopen'
    cases hopen'
    exact ⟨hid, horderly.touches htouches⟩

end Calls

/-! ### Vaults that use escrow -/

/-- The vaults that escrow has been used in, from one in which it has not been. What else happens
to a vault leaves its identifier and the tables of escrow as they are. -/
inductive Served (ext : Externals) (host : Host) : EscrowVault → Prop
  | unused {v}
      (hnew : ∀ config file, openVault ext host v.machine.vault = .ok (config, file) →
        VaultJsonV3.uuidV4Pattern.fits config.vaultId.toList = true
          ∧ file.db.recoveryEscrowConfigs = ∅)
      (hproviders : v.providers = seededProviders) : Served ext host v
  | call {v} (h : Served ext host v) (trouble nowMs) (call : Call) :
    Served ext host (call.run ext host trouble nowMs v).2
  | other {v v'} (h : Served ext host v)
      (hsame : ∀ config' file', openVault ext host v'.machine.vault = .ok (config', file') →
        ∃ config file, openVault ext host v.machine.vault = .ok (config, file)
          ∧ config'.vaultId = config.vaultId
          ∧ file'.db.recoveryEscrowConfigs = file.db.recoveryEscrowConfigs)
      (hproviders : v'.providers = v.providers) : Served ext host v'

theorem mem_of_seededProviders {providerId : String} {row : RecoveryEscrowProviderConfigRowV3}
    (h : seededProviders[providerId]? = some row) :
  providerId ∈ ESCROW_PROVIDER_PRIORITY
  := by
  simp only [seededProviders, List.foldl_cons, List.foldl_nil, Std.ExtTreeMap.getElem?_insert,
    Std.LawfulEqCmp.compare_eq_iff_eq, Std.ExtTreeMap.getElem?_empty] at h
  split at h
  · next heq => simp [← heq, ESCROW_PROVIDER_PRIORITY]
  · split at h
    · next heq => simp [← heq, ESCROW_PROVIDER_PRIORITY]
    · split at h
      · next heq => simp [← heq, ESCROW_PROVIDER_PRIORITY]
      · cases h

/-- What leaves the tables of escrow as they are leaves them in order. -/
theorem OrderlyVault.other {ext : Externals} {host : Host} {v v' : EscrowVault}
    (h : OrderlyVault ext host v)
    (hsame : ∀ config' file', openVault ext host v'.machine.vault = .ok (config', file') →
      ∃ config file, openVault ext host v.machine.vault = .ok (config, file)
        ∧ config'.vaultId = config.vaultId
        ∧ file'.db.recoveryEscrowConfigs = file.db.recoveryEscrowConfigs)
    (hproviders : v'.providers = v.providers) :
  OrderlyVault ext host v'
  := by
  intro config' file' hopen'
  obtain ⟨config, file, hopen, hid, hrows⟩ := hsame config' file' hopen'
  obtain ⟨hfits, horderly⟩ := h config file hopen
  refine ⟨by rwa [hid], ?_, ?_⟩
  · intro providerId row hrow
    change file'.db.recoveryEscrowConfigs[providerId]? = some row at hrow
    rw [hrows] at hrow
    exact horderly.rows _ _ hrow
  · intro providerId row hrow
    change v'.providers[providerId]? = some row at hrow
    rw [hproviders] at hrow
    exact horderly.providers _ _ hrow

theorem Served.orderly {ext : Externals} {host : Host} {v : EscrowVault}
    (h : Served ext host v) :
  OrderlyVault ext host v
  := by
  induction h with
  | @unused v hnew hproviders =>
    intro config file hopen
    obtain ⟨hid, hempty⟩ := hnew config file hopen
    refine ⟨hid, ?_, ?_⟩
    · intro providerId row hrow
      change file.db.recoveryEscrowConfigs[providerId]? = some row at hrow
      simp [hempty] at hrow
    · intro providerId row hrow
      change v.providers[providerId]? = some row at hrow
      rw [hproviders] at hrow
      exact mem_of_seededProviders hrow
  | call _ trouble nowMs call ih => exact ih.run trouble nowMs call
  | other _ hsame hproviders ih => exact ih.other hsame hproviders

end EscrowProviders

end KnowledgeCore
