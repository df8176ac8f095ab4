import KnowledgeCore.Operations.Restoring

/-!
# What an export says of escrow

Rotating all keys leaves their descriptors where an export finds them, and a descriptor stays there
until another call concerns its provider. Rotating the key of one provider puts something else in
its place.
-/

namespace KnowledgeCore

namespace EscrowProviders

open Export (RecoveryEscrowDescriptorV2 ESCROW_PROVIDER_PRIORITY escrowDescriptor escrowDescriptors
  recoveryEscrowExportBlock exportBundle)
open Ingest (openVault toAsciiLowercase)
open Operations hiding vaultRecoveryEscrowEnableService vaultRecoveryEscrowProviderAddService
  vaultRecoveryEscrowRotateAllService vaultRecoveryEscrowRotateService
  vaultRecoveryEscrowRestoreService rotateEach
open Recovery (readRecoveryManifest)
open Relation (ReflTransGen)

/-! ### The escrow block -/

/-- A block that is enabled and lists a descriptor. -/
def Lists (block : Json) (descriptor : RecoveryEscrowDescriptorV2) : Prop :=
  block.get "enabled" = some (.bool true)
    ∧ ∃ descriptors, block.get "escrow_descriptors" = some (.arr descriptors)
      ∧ descriptor.toJson ∈ descriptors

/-- An export finds a descriptor in the row of its provider. -/
def Finds (db : Db) (descriptor : RecoveryEscrowDescriptorV2) : Prop :=
  ∃ row, db.recoveryEscrowConfigs[descriptor.provider]? = some row
    ∧ escrowDescriptor descriptor.provider row = .ok (some descriptor)

section Block

variable {db : Db} {descriptor : RecoveryEscrowDescriptorV2}

theorem toJson_inj {descriptor' : RecoveryEscrowDescriptorV2}
    (h : descriptor.toJson = descriptor'.toJson) :
  descriptor = descriptor'
  := by
  have hread := ofJson_toJson descriptor
  rw [h, ofJson_toJson] at hread
  exact (Except.ok.inj hread).symm

/-- The descriptors that are found are those of the rows. -/
theorem mem_escrowDescriptors {rows : List (String × RecoveryEscrowConfigRow)}
    {found : List (RecoveryEscrowDescriptorV2 × Int64)} (h : escrowDescriptors rows = .ok found) :
  descriptor ∈ found.map Prod.fst
    ↔ ∃ row ∈ rows, escrowDescriptor row.1 row.2 = .ok (some descriptor)
  := by
  induction rows generalizing found with
  | nil =>
    cases h
    simp
  | cons row rest ih =>
    obtain ⟨providerId, row⟩ := row
    simp only [escrowDescriptors, AppResult.bind_eq_ok] at h
    obtain ⟨first, hfirst, others, hothers, h⟩ := h
    cases h
    rw [List.map_append, List.mem_append, ih hothers]
    cases first with
    | none => simp [hfirst]
    | some first => simp [hfirst, eq_comm]

theorem exists_escrowDescriptors {rows : List (String × RecoveryEscrowConfigRow)}
    (h : ∀ row ∈ rows, ∃ descriptor, escrowDescriptor row.1 row.2 = .ok descriptor) :
  ∃ found, escrowDescriptors rows = .ok found
  := by
  induction rows with
  | nil => exact ⟨[], rfl⟩
  | cons row rest ih =>
    obtain ⟨providerId, row⟩ := row
    obtain ⟨first, hfirst⟩ := h _ List.mem_cons_self
    obtain ⟨others, hothers⟩ := ih fun row hrow => h row (List.mem_cons_of_mem _ hrow)
    rw [escrowDescriptors, hfirst, AppResult.ok_bind, hothers, AppResult.ok_bind]
    exact ⟨_, rfl⟩

/-- A row has no descriptor of another provider. -/
theorem provider_of_escrowDescriptor {providerId : String} {row : RecoveryEscrowConfigRow}
    (h : escrowDescriptor providerId row = .ok (some descriptor)) :
  descriptor.provider = providerId
  := by
  rw [escrowDescriptor] at h
  split at h
  · cases h
  · obtain ⟨value, -, h⟩ := AppResult.bind_eq_ok.mp h
    dsimp only at h
    split at h
    · cases h
    · obtain ⟨found, -, h⟩ := AppResult.bind_eq_ok.mp h
      split at h
      · cases h
      · next heq =>
        cases h
        exact not_not.mp heq

theorem finds_iff {found : List (RecoveryEscrowDescriptorV2 × Int64)}
    (h : escrowDescriptors db.recoveryEscrowConfigs.toList = .ok found) :
  Finds db descriptor ↔ descriptor ∈ found.map Prod.fst
  := by
  rw [mem_escrowDescriptors h]
  constructor
  · rintro ⟨row, hrow, hdescriptor⟩
    exact ⟨(descriptor.provider, row),
      Std.ExtTreeMap.mem_toList_iff_getElem?_eq_some.mpr hrow, hdescriptor⟩
  · rintro ⟨⟨providerId, row⟩, hrow, hdescriptor⟩
    obtain rfl := provider_of_escrowDescriptor hdescriptor
    exact ⟨row, Std.ExtTreeMap.mem_toList_iff_getElem?_eq_some.mp hrow, hdescriptor⟩

/-- A block lists what is found. -/
theorem lists_iff {block : Json} (h : recoveryEscrowExportBlock db = .ok block) :
  Lists block descriptor ↔ Finds db descriptor
  := by
  obtain ⟨found, hfound, h⟩ := AppResult.bind_eq_ok.mp h
  rw [finds_iff hfound]
  dsimp only at h
  have hmem : descriptor ∈ found.map Prod.fst
      ↔ descriptor ∈ Export.normalizeEscrowDescriptors (found.map Prod.fst) := by
    rw [Export.normalizeEscrowDescriptors, List.mem_insertionSort]
  rw [hmem]
  split at h
  · next hnil =>
    cases h
    rw [hnil]
    simp [Lists, Json.get, List.lookup_cons]
  · next first rest hcons =>
    cases h
    rw [hcons]
    constructor
    · rintro ⟨-, members, hmembers, hdescriptor⟩
      simp only [Json.get, List.lookup_cons, String.reduceBEq, Option.some.injEq,
        Json.arr.injEq] at hmembers
      rw [← hmembers] at hdescriptor
      obtain ⟨descriptor', hmem', heq⟩ := List.mem_map.mp hdescriptor
      rwa [← toJson_inj heq]
    · intro hdescriptor
      exact ⟨rfl, _, rfl, List.mem_map_of_mem hdescriptor⟩

end Block

/-! ### Exports of a vault -/

/-- The next export of a vault has a block with the descriptor, and does not fail for it. -/
structure Exports (ext : Externals) (host : Host) (v : EscrowVault)
    (descriptor : RecoveryEscrowDescriptorV2) : Prop where
  block : ∃ config file block, openVault ext host v.machine.vault = .ok (config, file)
    ∧ recoveryEscrowExportBlock file.db = .ok block ∧ Lists block descriptor
  manifest : ∀ opts bundle, exportBundle ext host v.machine.vault opts = .ok bundle →
    ∃ manifest block, bundle.get Export.manifestPath = some (.json manifest 0)
      ∧ manifest.get "recovery_escrow" = some block ∧ Lists block descriptor

section Exporting

variable {ext : Externals} {host : Host} {v : EscrowVault}
  {descriptor : RecoveryEscrowDescriptorV2} {config : VaultJsonV3} {file : SqliteFile}

/-- An export reads the database that is opened. -/
theorem recoveryEscrow_of_readExportSource {opts : Export.ExportOptions}
    {source : Export.ExportSource} {block : Json}
    (hopen : openVault ext host v.machine.vault = .ok (config, file))
    (hblock : recoveryEscrowExportBlock file.db = .ok block)
    (hsource : Export.readExportSource ext host v.machine.vault opts = .ok source) :
  source.recoveryEscrow = block
  := by
  simp only [openVault, Ingest.openDbOf, AppResult.bind_eq_ok] at hopen
  obtain ⟨config', hconfig, file', ⟨key, hkey, hfile⟩, hopen⟩ := hopen
  cases hopen
  simp only [Export.readExportSource, AppResult.bind_eq_ok, okOrElse_eq_ok] at hsource
  obtain ⟨vault, hvault, dbSrc, hdbSrc, key', hkey', found, hfound, objects, -, escrow, hescrow,
    hsource⟩ := hsource
  cases hsource
  rw [hconfig] at hvault
  cases hvault
  rw [hkey] at hkey'
  cases hkey'
  rw [hdbSrc, hfound] at hfile
  cases hfile
  rw [hblock] at hescrow
  cases hescrow
  rfl

theorem exports_iff (horderly : OrderlyVault ext host v)
    (hopen : openVault ext host v.machine.vault = .ok (config, file)) :
  Exports ext host v descriptor ↔ Finds file.db descriptor
  := by
  have hrows := (horderly config file hopen).2.rows
  obtain ⟨found, hfound⟩ : ∃ found, escrowDescriptors file.db.recoveryEscrowConfigs.toList
      = .ok found := by
    apply exists_escrowDescriptors
    intro row hrow
    exact (hrows _ _ (Std.ExtTreeMap.mem_toList_iff_getElem?_eq_some.mp hrow)).readable
  obtain ⟨block, hblock⟩ : ∃ block, recoveryEscrowExportBlock file.db = .ok block := by
    rw [recoveryEscrowExportBlock, hfound, AppResult.ok_bind]
    dsimp only
    split <;> exact ⟨_, rfl⟩
  constructor
  · rintro ⟨⟨config', file', block', hopen', hblock', hlists⟩, -⟩
    rw [hopen] at hopen'
    cases hopen'
    exact (lists_iff hblock').mp hlists
  · intro hfinds
    have hlists := (lists_iff hblock).mpr hfinds
    use ⟨config, file, block, hopen, hblock, hlists⟩
    intro opts bundle hexport
    obtain ⟨source, hsource, rfl⟩ := Export.exportBundle_eq_ok hexport
    refine ⟨Export.manifestOf ext opts source, source.recoveryEscrow, ?_, ?_, ?_⟩
    · rw [Dir.get_write, if_pos rfl]
    · simp [Export.manifestOf, Export.buildManifest, Json.get, List.lookup_cons]
    · rw [recoveryEscrow_of_readExportSource hopen hblock hsource]
      exact hlists

end Exporting

/-! ### Newest keys -/

/-- A call for a provider. -/
def Call.Concerns (providerId : String) (s : EscrowState) : Call → Prop
  | .enable providerId' => providerId' = providerId
  | .providerAdd providerId' _ => providerId' = providerId
  | .rotate _ => ∃ config, readRecoveryEscrowConfig s.file.db = some config
    ∧ toAsciiLowercase (trim config.1) = providerId
  | .rotateAll _ => ∃ row, s.providers[providerId]? = some row ∧ row.enabled = true
  | .restore _ => False

/-- The vaults in which the newest key of a provider is one that was rotated with all the others,
and no call since then has been for that provider. -/
inductive Newest (ext : Externals) (host : Host) (rotated : Rotated) : EscrowVault → Prop
  | rotateAll {v v' trouble nowMs passphrase rotations} (hserved : Served ext host v)
      (h : (Call.rotateAll passphrase).run ext host trouble nowMs v = (.ok rotations, v'))
      (hmem : rotated ∈ rotations) : Newest ext host rotated v'
  | later {v} (h : Newest ext host rotated v) (trouble nowMs) (call : Call)
      (hother : ∀ config file, openVault ext host v.machine.vault = .ok (config, file) →
        ¬ call.Concerns rotated.descriptor.provider (v.state file)) :
    Newest ext host rotated (call.run ext host trouble nowMs v).2
  | other {v v'} (h : Newest ext host rotated v)
      (hsame : ∀ config' file', openVault ext host v'.machine.vault = .ok (config', file') →
        ∃ config file, openVault ext host v.machine.vault = .ok (config, file)
          ∧ config'.vaultId = config.vaultId
          ∧ file'.db.recoveryEscrowConfigs = file.db.recoveryEscrowConfigs)
      (hproviders : v'.providers = v.providers)
      (hopens : ∃ found, openVault ext host v'.machine.vault = .ok found) :
    Newest ext host rotated v'

section Newest

variable {ext : Externals} {host : Host} {trouble : EscrowTrouble} {scope : Scope}
  {vaultId passphrase : String} {nowMs : Int64} {s t : EscrowState} {rotated : Rotated}
  {descriptor : RecoveryEscrowDescriptorV2} {v v' : EscrowVault}

theorem Finds.touches (h : Finds s.file.db descriptor) (hids : ¬ scope.ids descriptor.provider)
    (htouches : ReflTransGen (Touch ext host trouble vaultId scope) s t) :
  Finds t.file.db descriptor
  := by
  obtain ⟨row, hrow, hdescriptor⟩ := h
  use row
  rw [row_touches hids htouches]
  exact ⟨hrow, hdescriptor⟩

/-- The descriptors of all the keys that have been rotated are found. -/
theorem finds_rotateAll (horderly : Orderly s) {rotations : List Rotated}
    (h : rotateAll ext host trouble vaultId passphrase nowMs s = (.ok rotations, t))
    (hmem : rotated ∈ rotations) :
  rotated.descriptor.provider ∈ ESCROW_PROVIDER_PRIORITY ∧ Finds t.file.db rotated.descriptor
  := by
  simp only [rotateAll, Fallible.bind_eq_ok, Fallible.reading_eq_ok] at h
  obtain ⟨rows, _, ⟨hrows, rfl⟩, heach⟩ := h
  have hids : ∀ row ∈ rows, row.1 ∈ ESCROW_PROVIDER_PRIORITY := by
    intro row hrow
    exact horderly.providers _ _ ((mem_enabledProviders hrows).mp hrow).1
  have hnodup := nodup_enabledProviders hrows
  obtain ⟨before, row, rest, u, u', rfl, hone, htouches⟩ := rotateEach_eq_ok hids heach hmem
  obtain ⟨provider, drawn, hresolve, hleft, hinsert⟩ := rotateOne_eq_ok hone
  have hrow : row.1 ∈ ESCROW_PROVIDER_PRIORITY :=
    hids row (List.mem_append_right _ List.mem_cons_self)
  have hprovider : rotated.descriptor.provider = row.1 := by
    rw [hleft.descriptor]
    exact (providerId_of_resolve hresolve).trans (normal_of_mem hrow)
  have hfinds : Finds u'.file.db rotated.descriptor := by
    refine ⟨_, ?_, escrowDescriptor_toJson rotated.descriptor
      (nowMs + Int64.ofNat before.length)⟩
    rw [hinsert, hprovider]
    exact Std.ExtTreeMap.getElem?_insert_self
  constructor
  · rw [hprovider]
    exact hrow
  · apply hfinds.touches _ htouches
    rintro ⟨row', hrow', heq⟩
    rw [hprovider] at heq
    rw [List.map_append, List.map_cons] at hnodup
    apply (List.nodup_cons.mp (List.nodup_append.mp hnodup).2.1).1
    rw [← heq]
    exact List.mem_map_of_mem hrow'

/-- A call writes the rows of the providers it is for. -/
theorem concerns_of_scope {providerId : String} (hid : providerId ∈ ESCROW_PROVIDER_PRIORITY)
    {call : Call} (h : (call.scope nowMs s).ids providerId) :
  call.Concerns providerId s
  := by
  cases call with
  | enable providerId' => exact h.symm
  | providerAdd providerId' configRef => exact h.symm
  | rotate passphrase =>
    obtain ⟨row, hrow⟩ := h
    exact ⟨_, hrow, normal_of_mem hid⟩
  | rotateAll passphrase => exact h
  | restore bundlePath => exact h

theorem Newest.finds (h : Newest ext host rotated v) :
  OrderlyVault ext host v ∧ rotated.descriptor.provider ∈ ESCROW_PROVIDER_PRIORITY
    ∧ ∃ config file, openVault ext host v.machine.vault = .ok (config, file)
      ∧ Finds file.db rotated.descriptor
  := by
  induction h with
  | @rotateAll v v' trouble nowMs passphrase rotations hserved h hmem =>
    have horderly := hserved.orderly.run trouble nowMs (.rotateAll passphrase)
    have hafter : ((Call.rotateAll passphrase).run ext host trouble nowMs v).2 = v' :=
      congrArg Prod.snd h
    rw [hafter] at horderly
    obtain ⟨found, hrotate, rfl⟩ := rotations_eq_ok.mp h
    rw [vaultRecoveryEscrowRotateAllService] at hrotate
    split at hrotate
    · cases hrotate
    · obtain ⟨config, file, s, hopen, hbody, rfl⟩ := inVault_eq_ok hrotate
      have hstate := (hserved.orderly config file hopen).2
      obtain ⟨hid, hfinds⟩ := finds_rotateAll hstate hbody hmem
      have hwithin : Fallible.Within (Touch ext host trouble config.vaultId
          ((Call.rotateAll passphrase).scope nowMs (v.state file)))
          (EscrowProviders.rotateAll ext host trouble config.vaultId passphrase nowMs)
          (v.state file) :=
        within_rotateAll hstate
      rw [Fallible.Within, hbody] at hwithin
      obtain ⟨hkey, hversion⟩ := file_touches hwithin
      exact ⟨horderly, hid, config, s.file, openVault_leave hopen hkey hversion, hfinds⟩
  | @later v _ trouble nowMs call hother ih =>
    obtain ⟨horderly, hid, config, file, hopen, hfinds⟩ := ih
    refine ⟨horderly.run trouble nowMs call, hid, ?_⟩
    obtain hsame | ⟨config', file', s, hopen', htouches, hleave⟩ :=
      call.run_cases horderly trouble nowMs
    · rw [hsame]
      exact ⟨config, file, hopen, hfinds⟩
    · rw [hopen] at hopen'
      cases hopen'
      obtain ⟨hkey, hversion⟩ := file_touches htouches
      rw [hleave]
      refine ⟨config, s.file, openVault_leave hopen hkey hversion, ?_⟩
      apply Finds.touches (s := v.state file) hfinds _ htouches
      exact fun hscope => hother config file hopen (concerns_of_scope hid hscope)
  | @other v v' _ hsame hproviders hopens ih =>
    obtain ⟨horderly, hid, config, file, hopen, hfinds⟩ := ih
    refine ⟨horderly.other hsame hproviders, hid, ?_⟩
    obtain ⟨⟨config', file'⟩, hopen'⟩ := hopens
    obtain ⟨config'', file'', hopen'', -, hrows⟩ := hsame config' file' hopen'
    rw [hopen] at hopen''
    cases hopen''
    refine ⟨config', file', hopen', ?_⟩
    obtain ⟨row, hrow, hdescriptor⟩ := hfinds
    exact ⟨row, by rwa [hrows], hdescriptor⟩

/-- After the key of one provider has been rotated, its descriptor is not found. -/
theorem not_finds_rotateLast {status : VaultRecoveryEscrowStatus}
    (h : rotateLast ext host trouble vaultId passphrase nowMs s = (.ok (status, rotated), t))
    (hname : ∀ config, readRecoveryEscrowConfig s.file.db = some config →
      config.1 = rotated.descriptor.provider) :
  ¬ Finds t.file.db rotated.descriptor
  := by
  obtain ⟨config, provider, drawn, hconfig, hresolve, hleft, hinsert⟩ := rotateLast_eq_ok h
  rintro ⟨row, hrow, hdescriptor⟩
  rw [hinsert, hname config hconfig, Std.ExtTreeMap.getElem?_insert_self] at hrow
  cases hrow
  rw [escrowDescriptor_of_missing rfl] at hdescriptor
  cases hdescriptor

/-- What a rotation writes into the manifest of its bundle. -/
theorem manifest_of_rotated {call : Call} {rotations : List Rotated}
    (horderly : OrderlyVault ext host v)
    (h : call.run ext host trouble nowMs v = (.ok rotations, v')) (hmem : rotated ∈ rotations) :
  rotated.generated.manifest.escrow = some rotated.descriptor
    ∧ readRecoveryManifest rotated.generated.bundlePath v'.machine.files
      = .ok rotated.generated.manifest
  := by
  obtain ⟨config, file, s, hopen, rfl, -, hrotated⟩ := Call.hasRotated horderly h hmem
  obtain ⟨providerId, provider, passphrase, outputDir, createdAtMs, drawn, u, scope, -, -, hleft,
    havoids, -, htouches⟩ := hrotated.left
  have hread := manifest_touches havoids hleft.manifestFile htouches
  have hpath : rotated.generated.bundlePath
      = bundlePathOf outputDir config.vaultId createdAtMs := by
    rw [hleft.generated]
    rfl
  constructor
  · rw [hleft.generated]
    rfl
  · rw [hpath]
    exact hread

end Newest

/-- What a rotation writes into the manifest of its bundle, an export lists as long as the key is
the newest of its provider and was rotated with all the others. When it was rotated alone, the
export does not list it. -/
theorem exports_newest {ext : Externals} {host : Host} :
  (∀ v v' trouble nowMs call rotations rotated, Served ext host v →
      Call.run ext host trouble nowMs v call = (.ok rotations, v') → rotated ∈ rotations →
      rotated.generated.manifest.escrow = some rotated.descriptor
      ∧ readRecoveryManifest rotated.generated.bundlePath v'.machine.files
        = .ok rotated.generated.manifest)
    ∧ (∀ v rotated, Newest ext host rotated v → Exports ext host v rotated.descriptor)
    ∧ ∀ v v' trouble nowMs passphrase rotated, Served ext host v →
      (Call.rotate passphrase).run ext host trouble nowMs v = (.ok [rotated], v') →
      (∀ config file last, openVault ext host v.machine.vault = .ok (config, file) →
        readRecoveryEscrowConfig file.db = some last → last.1 = rotated.descriptor.provider) →
      ¬ Exports ext host v' rotated.descriptor
  := by
  refine ⟨?_, ?_, ?_⟩
  · intro v v' trouble nowMs call rotations rotated hserved h hmem
    exact manifest_of_rotated hserved.orderly h hmem
  · intro v rotated h
    obtain ⟨horderly, -, config, file, hopen, hfinds⟩ := h.finds
    exact (exports_iff horderly hopen).mpr hfinds
  · intro v v' trouble nowMs passphrase rotated hserved h hname
    have horderly := hserved.orderly.run trouble nowMs (.rotate passphrase)
    have hafter : ((Call.rotate passphrase).run ext host trouble nowMs v).2 = v' :=
      congrArg Prod.snd h
    rw [hafter] at horderly
    obtain ⟨⟨status, found⟩, hrotate, hrotated⟩ := rotations_eq_ok.mp h
    cases hrotated
    rw [vaultRecoveryEscrowRotateService] at hrotate
    split at hrotate
    · cases hrotate
    · obtain ⟨config, file, s, hopen, hbody, rfl⟩ := inVault_eq_ok hrotate
      have hwithin : Fallible.Within (Touch ext host trouble config.vaultId .all)
          (rotateLast ext host trouble config.vaultId passphrase nowMs) (v.state file) :=
        within_rotateLast trivial fun _ _ => trivial
      rw [Fallible.Within, hbody] at hwithin
      obtain ⟨hkey, hversion⟩ := file_touches hwithin
      rw [exports_iff horderly (openVault_leave hopen hkey hversion)]
      exact not_finds_rotateLast hbody fun last hlast => hname config file last hopen hlast

namespace Sample

/-- Whether an export of a vault has escrow enabled. -/
def escrowEnabled (v : EscrowVault) : Option Bool := do
  let found ← (openVault Recovery.Sample.sealing Sample.host v.machine.vault).toOption
  let block ← (recoveryEscrowExportBlock found.2.db).toOption
  match block.get "enabled" with
  | some (.bool enabled) => some enabled
  | _ => none

theorem escrowEnabled_firstRotation : escrowEnabled firstRotation.2 = some false := by
  decide +kernel

/-- The local adapter is added, and all keys are rotated. -/
def allRotated : AppResult (List Rotated) × EscrowVault :=
  (Call.rotateAll "secret").run Recovery.Sample.sealing Sample.host calm 2
    ((Call.providerAdd "local" "a").run Recovery.Sample.sealing Sample.host calm 1 unused).2

theorem provider_allRotated :
  (allRotated.1.toOption.map fun rotations => rotations.map fun rotated =>
      rotated.descriptor.provider)
    = some ["local"]
  := by
  decide +kernel

end Sample

/-- After the key of the local adapter has been rotated alone, an export has no descriptor. -/
theorem rotated_not_exported :
  Served Recovery.Sample.sealing Sample.host Sample.enabled
    ∧ (∃ rotated, Sample.firstRotation.1 = .ok [rotated] ∧ rotated.provider = "local")
    ∧ Sample.escrowEnabled Sample.firstRotation.2 = some false
  := by
  refine ⟨.call Sample.served_unused Sample.calm 1 _, ?_, Sample.escrowEnabled_firstRotation⟩
  have hcreated := Sample.firstRotation_facts.1
  cases hrotate : Sample.firstRotation.1 with
  | error e =>
    rw [hrotate] at hcreated
    cases hcreated
  | ok rotations =>
    rw [hrotate] at hcreated
    simp only [Except.toOption, Option.map_some, Option.some.injEq] at hcreated
    obtain ⟨rotated, rfl⟩ : ∃ rotated, rotations = [rotated] := by
      apply List.length_eq_one_iff.mp
      simpa using congrArg List.length hcreated
    simp only [List.map_cons, List.map_nil, List.cons.injEq, Prod.mk.injEq, and_true] at hcreated
    exact ⟨rotated, rfl, hcreated.1⟩

/-- A descriptor that was left by rotating all keys is exported after another provider has been
added. -/
theorem exports_newest_local :
  ∃ rotations rotated, Sample.allRotated.1 = .ok rotations ∧ rotated ∈ rotations
    ∧ Exports Recovery.Sample.sealing Sample.host
      ((Call.providerAdd "private_kms" "b").run Recovery.Sample.sealing Sample.host Sample.calm 3
        Sample.allRotated.2).2 rotated.descriptor
  := by
  have hprovider := Sample.provider_allRotated
  rcases hrotate : Sample.allRotated with ⟨_ | rotations, v⟩
  · rw [hrotate] at hprovider
    cases hprovider
  rw [hrotate] at hprovider
  simp only [Except.toOption, Option.map_some, Option.some.injEq] at hprovider
  obtain ⟨rotated, rfl⟩ : ∃ rotated, rotations = [rotated] := by
    apply List.length_eq_one_iff.mp
    simpa using congrArg List.length hprovider
  simp only [List.map_cons, List.map_nil, List.cons.injEq, and_true] at hprovider
  refine ⟨[rotated], rotated, rfl, List.mem_cons_self, ?_⟩
  have hnewest : Newest Recovery.Sample.sealing Sample.host rotated v :=
    .rotateAll (.call Sample.served_unused Sample.calm 1 _) hrotate List.mem_cons_self
  apply exports_newest.2.1
  apply hnewest.later
  intro config file _ hconcerns
  rw [hprovider] at hconcerns
  revert hconcerns
  change ¬ "private_kms" = "local"
  decide

end EscrowProviders

end KnowledgeCore
