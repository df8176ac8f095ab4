import Mathlib.Data.List.Perm.Subperm
import Mathlib.Tactic.IntervalCases
import KnowledgeCore.Operations.EscrowRuns

/-!
# What stays of a rotation

The manifest of a bundle stays as it is while no other bundle of its time is made, and the payload
that was left with an adapter stays as it is while no other payload of its hash is left.
-/

namespace KnowledgeCore

namespace EscrowProviders

open Export (RecoveryEscrowDescriptorV2 ESCROW_PROVIDER_PRIORITY)
open Fallible (Within)
open Ingest (openVault toAsciiLowercase)
open Operations hiding vaultRecoveryEscrowEnableService vaultRecoveryEscrowProviderAddService
  vaultRecoveryEscrowRotateAllService vaultRecoveryEscrowRotateService
  vaultRecoveryEscrowRestoreService rotateEach
open Recovery (keyBlobPath manifestPath readRecoveryManifest)
open Relation (ReflTransGen)

section Touches

variable {ext : Externals} {host : Host} {trouble : EscrowTrouble} {vaultId : String}
  {scope : Scope} {s t : EscrowState} {path : String} {bytes : List UInt8}

/-- A step changes a file only if it is a key blob, the note of the last bundle, the manifest of a
bundle that is made, or a payload that is left. -/
theorem holds_touch (hkey : ∀ bundlePath, path ≠ keyBlobPath bundlePath)
    (hstate : path ≠ statePath host)
    (hmanifest : ∀ passphrase nowMs outputDir, scope.bundles passphrase nowMs →
      path ≠ manifestPath (bundlePathOf outputDir vaultId nowMs))
    (hpayload : ∀ passphrase nowMs drawn root, scope.bundles passphrase nowMs →
      (trouble.moment ext vaultId passphrase).draw nowMs = .ok drawn →
      payloadPath root vaultId (blake3HexPrefixed ext (.raw drawn.keyBlob)) = path →
      drawn.keyBlob = bytes)
    (h : s.files[path]? = some bytes) (htouch : Touch ext host trouble vaultId scope s t) :
  t.files[path]? = some bytes
  := by
  cases htouch with
  | config => exact h
  | descriptor => exact h
  | provider => exact h
  | event => exact h
  | leave hbundle =>
    apply written_leaveKey.getElem?_eq_some _ h
    rintro bytes' ((hpath | hpath) | ⟨drawn, root, hdraw, -, hpath, rfl⟩)
    · exact absurd hpath (hkey _)
    · exact absurd hpath (hmanifest _ _ _ hbundle)
    · exact hpayload _ _ drawn root hbundle hdraw hpath.symm
  | note moment bundlePath =>
    exact written_writeFile.getElem?_eq_some (fun _ hwrite => absurd hwrite.1 hstate) h
  | restore moment error bundlePath restored =>
    exact written_writeFile.getElem?_eq_some (fun _ hwrite => absurd hwrite.1 (hkey bundlePath)) h

/-- A manifest is read back while its file is as it was. -/
theorem readRecoveryManifest_congr {bundlePath : String} {manifest : RecoveryManifestV2}
    {files files' : Files}
    (hfile : ∀ bytes, files[manifestPath bundlePath]? = some bytes →
      files'[manifestPath bundlePath]? = some bytes)
    (h : readRecoveryManifest bundlePath files = .ok manifest) :
  readRecoveryManifest bundlePath files' = .ok manifest
  := by
  simp only [readRecoveryManifest, AppResult.bind_eq_ok, okOrElse_eq_ok] at h ⊢
  obtain ⟨bytes, hbytes, hparse⟩ := h
  exact ⟨bytes, hfile bytes hbytes, hparse⟩

/-- No bundle of the time is made. -/
def Scope.Avoids (scope : Scope) (createdAtMs : Int64) : Prop :=
  ∀ passphrase nowMs, scope.bundles passphrase nowMs → nowMs ≠ createdAtMs

/-- What is drawn has the hash of a key blob only if it is that key blob. -/
def Distinguishes (ext : Externals) (trouble : EscrowTrouble) (vaultId : String) (scope : Scope)
    (keyBlob : List UInt8) : Prop :=
  ∀ passphrase nowMs drawn, scope.bundles passphrase nowMs →
    (trouble.moment ext vaultId passphrase).draw nowMs = .ok drawn →
    ext.blake3 (.raw drawn.keyBlob) = ext.blake3 (.raw keyBlob) → drawn.keyBlob = keyBlob

theorem manifest_touches {outputDir vaultId' : String} {createdAtMs : Int64}
    {manifest : RecoveryManifestV2} (havoids : scope.Avoids createdAtMs)
    (h : readRecoveryManifest (bundlePathOf outputDir vaultId' createdAtMs) s.files
      = .ok manifest)
    (htouches : ReflTransGen (Touch ext host trouble vaultId scope) s t) :
  readRecoveryManifest (bundlePathOf outputDir vaultId' createdAtMs) t.files = .ok manifest
  := by
  induction htouches with
  | refl => exact h
  | tail _ htouch ih =>
    apply readRecoveryManifest_congr _ ih
    intro bytes hbytes
    apply holds_touch _ _ _ _ hbytes htouch
    · exact manifestPath_ne_keyBlobPath _
    · apply manifestPath_ne_statePath
    · intro passphrase nowMs outputDir' hbundle heq
      exact havoids _ _ hbundle (createdAtMs_eq_of_manifestPath heq).symm
    · intro passphrase nowMs drawn root _ _ heq
      exact absurd heq (payloadPath_ne_manifestPath _ _ _)

theorem payload_touches {root vaultId' : String} {keyBlob : List UInt8}
    (hdistinguishes : Distinguishes ext trouble vaultId scope keyBlob)
    (h : s.files[payloadPath root vaultId' (blake3HexPrefixed ext (.raw keyBlob))]?
      = some keyBlob)
    (htouches : ReflTransGen (Touch ext host trouble vaultId scope) s t) :
  t.files[payloadPath root vaultId' (blake3HexPrefixed ext (.raw keyBlob))]? = some keyBlob
  := by
  induction htouches with
  | refl => exact h
  | tail _ htouch ih =>
    apply holds_touch _ _ _ _ ih htouch
    · apply payloadPath_ne_keyBlobPath
    · apply payloadPath_ne_statePath
    · exact fun _ _ _ _ => payloadPath_ne_manifestPath _ _ _
    · intro passphrase nowMs drawn root' hbundle hdraw heq
      exact hdistinguishes _ _ _ hbundle hdraw (blake3_eq_of_payloadPath heq)

/-- A row that no step may write stays as it is. -/
theorem row_touches {providerId : String} (hids : ¬ scope.ids providerId)
    (htouches : ReflTransGen (Touch ext host trouble vaultId scope) s t) :
  t.file.db.recoveryEscrowConfigs[providerId]? = s.file.db.recoveryEscrowConfigs[providerId]?
  := by
  have hinsert {rows : Table RecoveryEscrowConfigRow} {id : String} {row} (hid : scope.ids id) :
      (rows.insert id row)[providerId]? = rows[providerId]? := by
    rw [Std.ExtTreeMap.getElem?_insert, if_neg]
    rw [Std.LawfulEqCmp.compare_eq_iff_eq]
    rintro rfl
    exact hids hid
  induction htouches with
  | refl => rfl
  | tail _ htouch ih =>
    cases htouch with
    | config _ hscope _ => exact (hinsert hscope).trans ih
    | descriptor _ hscope => exact (hinsert hscope).trans ih
    | provider => exact ih
    | event => exact ih
    | leave => exact ih
    | note => exact ih
    | restore => exact ih

/-- There is a configuration. -/
def Configured (s : EscrowState) : Prop :=
  ∃ (providerId : String) (row : RecoveryEscrowConfigRow),
    s.file.db.recoveryEscrowConfigs[providerId]? = some row

theorem Configured.of_insert {rows : Table RecoveryEscrowConfigRow} {providerId : String}
    {row : RecoveryEscrowConfigRow}
    (h : s.file.db.recoveryEscrowConfigs = rows.insert providerId row) :
  Configured s
  := by
  use providerId, row
  rw [h]
  exact Std.ExtTreeMap.getElem?_insert_self

/-- Configurations are never removed. -/
theorem Configured.touches (h : Configured s)
    (htouches : ReflTransGen (Touch ext host trouble vaultId scope) s t) :
  Configured t
  := by
  induction htouches with
  | refl => exact h
  | tail _ htouch ih =>
    cases htouch with
    | config => exact .of_insert rfl
    | descriptor => exact .of_insert rfl
    | provider => exact ih
    | event => exact ih
    | leave => exact ih
    | note => exact ih
    | restore => exact ih

theorem exists_foldl_laterConfig (rows : List (String × RecoveryEscrowConfigRow))
    (config : String × RecoveryEscrowConfigRow) :
  ∃ config', rows.foldl laterConfig (some config) = some config'
  := by
  induction rows generalizing config with
  | nil => exact ⟨config, rfl⟩
  | cons row rest ih =>
    rw [List.foldl_cons]
    obtain hlater | hlater := laterConfig_eq (some config) row
    · rw [hlater]
      apply ih
    · rw [hlater]
      apply ih

/-- Of the configurations there are, one was last updated. -/
theorem Configured.exists_config (h : Configured s) :
  ∃ config, readRecoveryEscrowConfig s.file.db = some config
  := by
  obtain ⟨providerId, row, hrow⟩ := h
  rw [← Std.ExtTreeMap.mem_toList_iff_getElem?_eq_some] at hrow
  rw [readRecoveryEscrowConfig]
  cases hrows : s.file.db.recoveryEscrowConfigs.toList with
  | nil =>
    rw [hrows] at hrow
    cases hrow
  | cons first rest => apply exists_foldl_laterConfig

end Touches

/-! ### What rotations leave -/

section Rotations

variable {ext : Externals} {host : Host} {trouble : EscrowTrouble} {vaultId passphrase : String}
  {nowMs : Int64} {s t : EscrowState} {rotated : Rotated}

theorem LeftKey.congr {moment : EscrowMoment} {provider : RecoveryEscrowProvider}
    {outputDir : String} {drawn : RecoveryDraw} {files files' : Files}
    (h : LeftKey ext moment provider vaultId outputDir passphrase nowMs drawn rotated files)
    (hmanifest : ∀ bytes,
      files[manifestPath (bundlePathOf outputDir vaultId nowMs)]? = some bytes →
      files'[manifestPath (bundlePathOf outputDir vaultId nowMs)]? = some bytes)
    (hpayload : ∀ root bytes,
      files[payloadPath root vaultId (blake3HexPrefixed ext (.raw drawn.keyBlob))]? = some bytes →
      files'[payloadPath root vaultId (blake3HexPrefixed ext (.raw drawn.keyBlob))]?
        = some bytes) :
  LeftKey ext moment provider vaultId outputDir passphrase nowMs drawn rotated files'
  := by
  obtain ⟨hnonempty, hdraw, hprovider, hdescriptor, hgenerated, hvalid, hread, root, hroot,
    hfile⟩ := h
  exact ⟨hnonempty, hdraw, hprovider, hdescriptor, hgenerated, hvalid,
    readRecoveryManifest_congr hmanifest hread, root, hroot, hpayload root _ hfile⟩

/-- Noting where a bundle is changes none of the files it consists of. -/
theorem LeftKey.note {moment moment' : EscrowMoment} {provider : RecoveryEscrowProvider}
    {outputDir bundlePath : String} {drawn : RecoveryDraw} {files : Files}
    (h : LeftKey ext moment provider vaultId outputDir passphrase nowMs drawn rotated files) :
  LeftKey ext moment provider vaultId outputDir passphrase nowMs drawn rotated
    (writeRecoveryStateFile host moment' bundlePath files).2
  := by
  apply h.congr
  · intro bytes hbytes
    apply written_writeFile.getElem?_eq_some _ hbytes
    rintro _ ⟨hpath, -⟩
    exact absurd hpath (manifestPath_ne_statePath _)
  · intro root bytes hbytes
    apply written_writeFile.getElem?_eq_some _ hbytes
    rintro _ ⟨hpath, -⟩
    exact absurd hpath (payloadPath_ne_statePath _ _)

theorem rotateOne_eq_ok {row : String × RecoveryEscrowProviderConfigRowV3}
    (h : rotateOne ext host trouble vaultId passphrase row nowMs s = (.ok rotated, t)) :
  ∃ provider drawn, resolveRecoveryEscrowProvider host vaultId row.1 = .ok provider
    ∧ LeftKey ext (trouble.moment ext vaultId passphrase) provider vaultId
        (PathBuf.join (bundlesDir host) row.1) passphrase nowMs drawn rotated t.files
    ∧ t.file.db.recoveryEscrowConfigs = s.file.db.recoveryEscrowConfigs.insert row.1 {
        enabled := true
        descriptorJson := some rotated.descriptor.toJson
        updatedAtMs := nowMs }
  := by
  simp only [rotateOne, Fallible.bind_eq_ok, Fallible.ofExcept_eq_ok, Fallible.pure_eq_ok,
    execute_eq_ok, onFiles_eq_ok] at h
  obtain ⟨provider, _, ⟨hprovider, rfl⟩, left, _, ⟨files, hleave, rfl⟩, _, _, ⟨-, rfl⟩, _, _,
    ⟨-, rfl⟩, _, _, ⟨-, rfl⟩, _, _, ⟨noted, hnote, rfl⟩, rfl, rfl⟩ := h
  obtain ⟨drawn, hleft⟩ := leaveKey_eq_ok hleave
  refine ⟨provider, drawn, (resolveForAll_eq_ok.mp hprovider).1, ?_, rfl⟩
  have hafter : (writeRecoveryStateFile host _ _ files).2 = noted := congrArg Prod.snd hnote
  change LeftKey _ _ _ _ _ _ _ _ _ noted
  rw [← hafter]
  exact hleft.note

theorem rotateLast_eq_ok {status : VaultRecoveryEscrowStatus}
    (h : rotateLast ext host trouble vaultId passphrase nowMs s = (.ok (status, rotated), t)) :
  ∃ config provider drawn, readRecoveryEscrowConfig s.file.db = some config
    ∧ resolveRecoveryEscrowProvider host vaultId config.1 = .ok provider
    ∧ LeftKey ext (trouble.moment ext vaultId passphrase) provider vaultId (bundlesDir host)
        passphrase nowMs drawn rotated t.files
    ∧ t.file.db.recoveryEscrowConfigs = s.file.db.recoveryEscrowConfigs.insert config.1 {
        enabled := true
        descriptorJson := some (providerStatus provider [("last_rotate_manifest_payload_hash",
          .str rotated.generated.manifest.payloadHash)])
        updatedAtMs := nowMs }
  := by
  simp only [rotateLast, Fallible.bind_eq_ok, Fallible.reading_eq_ok, Fallible.pure_eq_ok,
    execute_eq_ok, onFiles_eq_ok, escrowStatus] at h
  obtain ⟨⟨providerId, provider⟩, _, ⟨hprovider, rfl⟩, left, _, ⟨files, hleave, rfl⟩, _, _,
    ⟨noted, hnote, rfl⟩, _, _, ⟨-, rfl⟩, _, _, ⟨-, rfl⟩, _, _, ⟨-, rfl⟩, hpair, rfl⟩ := h
  cases hpair
  obtain ⟨drawn, hleft⟩ := leaveKey_eq_ok hleave
  obtain ⟨⟨row, hconfig, -⟩, hresolve, -⟩ := resolveAvailable_eq_ok.mp hprovider
  refine ⟨(providerId, row), provider, drawn, hconfig, hresolve, ?_, rfl⟩
  have hafter : (writeRecoveryStateFile host _ _ files).2 = noted := congrArg Prod.snd hnote
  change LeftKey _ _ _ _ _ _ _ _ _ noted
  rw [← hafter]
  exact hleft.note

/-- What is left to do of rotating all keys after one of a time has been rotated. -/
def restScope (passphrase : String) (rest : List (String × RecoveryEscrowProviderConfigRowV3))
    (createdAtMs : Int64) : Scope
  where
  ids id := ∃ row ∈ rest, row.1 = id
  bundles passphrase' nowMs := passphrase' = passphrase
    ∧ ∃ i < rest.length, nowMs = createdAtMs + 1 + Int64.ofNat i

/-- Every key that has been rotated has been rotated in turn, before those of the providers that
follow. -/
theorem rotateEach_eq_ok {rows : List (String × RecoveryEscrowProviderConfigRowV3)}
    {rotations : List Rotated} (hrows : ∀ row ∈ rows, row.1 ∈ ESCROW_PROVIDER_PRIORITY)
    (h : rotateEach ext host trouble vaultId passphrase rows nowMs s = (.ok rotations, t))
    (hmem : rotated ∈ rotations) :
  ∃ before row rest u u', rows = before ++ row :: rest
    ∧ rotateOne ext host trouble vaultId passphrase row (nowMs + Int64.ofNat before.length) u
      = (.ok rotated, u')
    ∧ ReflTransGen (Touch ext host trouble vaultId
        (restScope passphrase rest (nowMs + Int64.ofNat before.length))) u' t
  := by
  induction rows generalizing nowMs s rotations with
  | nil =>
    obtain ⟨rfl, -⟩ := Fallible.pure_eq_ok.mp h
    cases hmem
  | cons row rest ih =>
    simp only [rotateEach, Fallible.bind_eq_ok, Fallible.pure_eq_ok] at h
    obtain ⟨first, u, hfirst, others, _, hothers, rfl, rfl⟩ := h
    have hrest : ∀ row ∈ rest, row.1 ∈ ESCROW_PROVIDER_PRIORITY :=
      fun row hrow => hrows row (List.mem_cons_of_mem _ hrow)
    rcases List.mem_cons.mp hmem with rfl | hmem
    · refine ⟨[], row, rest, s, u, rfl, ?_, ?_⟩
      · simpa using hfirst
      · have hwithin : Within (Touch ext host trouble vaultId (restScope passphrase rest nowMs))
            (rotateEach ext host trouble vaultId passphrase rest (nowMs + 1)) u := by
          apply within_rotateEach hrest
          · exact fun row hrow => ⟨row, hrow, rfl⟩
          · exact fun i hi => ⟨rfl, i, hi, rfl⟩
        rw [Within, hothers] at hwithin
        simpa using hwithin
    · obtain ⟨before, row', rest', u', u'', rfl, hone, htouches⟩ := ih hrest hothers hmem
      have htime : nowMs + Int64.ofNat (row :: before).length
          = nowMs + 1 + Int64.ofNat before.length := by
        rw [List.length_cons, Int64.ofNat_add, Int64.add_comm (Int64.ofNat _), Int64.add_assoc]
        rfl
      refine ⟨row :: before, row', rest', u', u'', rfl, ?_, ?_⟩
      · rw [htime]
        exact hone
      · rw [htime]
        exact htouches

/-! ### All the keys of a vault -/

/-- No provider is rotated twice. -/
theorem nodup_enabledProviders {rows : List (String × RecoveryEscrowProviderConfigRowV3)}
    (h : enabledProviders s = .ok rows) :
  (rows.map Prod.fst).Nodup
  := by
  rw [enabledProviders] at h
  split at h
  · cases h
  · cases h
    apply ((List.filter_sublist).map Prod.fst).nodup
    apply ((List.perm_insertionSort _ _).map Prod.fst).nodup_iff.mpr
    apply List.pairwise_map.mpr
    apply Std.ExtTreeMap.distinct_keys_toList.imp
    intro a b hne heq
    rw [heq] at hne
    exact hne Std.ReflCmp.compare_self

/-- There are not many providers. -/
theorem length_enabledProviders_le (horderly : Orderly s)
    {rows : List (String × RecoveryEscrowProviderConfigRowV3)} (h : enabledProviders s = .ok rows) :
  rows.length ≤ 6
  := by
  have hsubset : rows.map Prod.fst ⊆ ESCROW_PROVIDER_PRIORITY := by
    intro id hid
    obtain ⟨row, hrow, rfl⟩ := List.mem_map.mp hid
    exact horderly.providers _ _ ((mem_enabledProviders h).mp hrow).1
  have hle := (List.Nodup.subperm (nodup_enabledProviders h) hsubset).length_le
  rwa [List.length_map] at hle

theorem later_ne (createdAtMs : Int64) {i : Nat} (hi : i < 6) :
  createdAtMs + 1 + Int64.ofNat i ≠ createdAtMs
  := by
  intro h
  rw [Int64.add_assoc, Int64.add_eq_left] at h
  have htoInt := congrArg Int64.toInt h
  interval_cases i <;> revert htoInt <;> decide

/-- The keys that are rotated after one of a time are of other times. -/
theorem avoids_restScope {rest : List (String × RecoveryEscrowProviderConfigRowV3)}
    (hlength : rest.length ≤ 6) (createdAtMs : Int64) :
  (restScope passphrase rest createdAtMs).Avoids createdAtMs
  := by
  rintro passphrase' nowMs ⟨-, i, hi, rfl⟩
  exact later_ne createdAtMs (by omega)

/-- What a call has left of a key that it has rotated, and what it has done since. -/
structure HasRotated (ext : Externals) (host : Host) (trouble : EscrowTrouble) (vaultId : String)
    (scope : Scope) (rotated : Rotated) (s : EscrowState) : Prop where
  configured : Configured s
  left : ∃ providerId provider passphrase outputDir nowMs drawn u scope',
    resolveRecoveryEscrowProvider host vaultId providerId = .ok provider
      ∧ scope.bundles passphrase nowMs
      ∧ LeftKey ext (trouble.moment ext vaultId passphrase) provider vaultId outputDir passphrase
          nowMs drawn rotated u.files
      ∧ scope'.Avoids nowMs
      ∧ (∀ passphrase' nowMs', scope'.bundles passphrase' nowMs' →
          scope.bundles passphrase' nowMs')
      ∧ ReflTransGen (Touch ext host trouble vaultId scope') u s

theorem hasRotated_rotateLast {status : VaultRecoveryEscrowStatus}
    (h : rotateLast ext host trouble vaultId passphrase nowMs s = (.ok (status, rotated), t)) :
  HasRotated ext host trouble vaultId ((Call.rotate passphrase).scope nowMs s) rotated t
  := by
  obtain ⟨config, provider, drawn, -, hresolve, hleft, hrows⟩ := rotateLast_eq_ok h
  constructor
  · exact .of_insert hrows
  · refine ⟨config.1, provider, passphrase, _, nowMs, drawn, t,
      ⟨fun _ => False, fun _ _ => False⟩, hresolve, ⟨rfl, rfl⟩, hleft, ?_, ?_, .refl⟩
    · exact fun _ _ h => h.elim
    · exact fun _ _ h => h.elim

theorem hasRotated_rotateAll (horderly : Orderly s) {rotations : List Rotated}
    (h : rotateAll ext host trouble vaultId passphrase nowMs s = (.ok rotations, t))
    (hmem : rotated ∈ rotations) :
  HasRotated ext host trouble vaultId ((Call.rotateAll passphrase).scope nowMs s) rotated t
  := by
  simp only [rotateAll, Fallible.bind_eq_ok, Fallible.reading_eq_ok] at h
  obtain ⟨rows, _, ⟨hrows, rfl⟩, heach⟩ := h
  have hids : ∀ row ∈ rows, row.1 ∈ ESCROW_PROVIDER_PRIORITY := by
    intro row hrow
    exact horderly.providers _ _ ((mem_enabledProviders hrows).mp hrow).1
  obtain ⟨before, row, rest, u, u', rfl, hone, htouches⟩ := rotateEach_eq_ok hids heach hmem
  obtain ⟨provider, drawn, hresolve, hleft, hinsert⟩ := rotateOne_eq_ok hone
  have hlength := length_enabledProviders_le horderly hrows
  rw [List.length_append, List.length_cons] at hlength
  constructor
  · exact (Configured.of_insert hinsert).touches htouches
  · refine ⟨row.1, provider, passphrase, _, _, drawn, u', _, hresolve, ?_, hleft, ?_, ?_,
      htouches⟩
    · refine ⟨rfl, _, hrows, before.length, ?_, rfl⟩
      rw [List.length_append, List.length_cons]
      omega
    · exact avoids_restScope (by omega) _
    · rintro passphrase' nowMs' ⟨rfl, i, hi, rfl⟩
      refine ⟨rfl, _, hrows, before.length + (i + 1), ?_, ?_⟩
      · rw [List.length_append, List.length_cons]
        omega
      · rw [Int64.ofNat_add, Int64.ofNat_add, Int64.add_comm (Int64.ofNat i), Int64.add_assoc,
          Int64.add_assoc]
        rfl

theorem rotations_eq_ok {α : Type} {f : α → List Rotated} {r : AppResult α × EscrowVault}
    {rs : List Rotated} {v : EscrowVault} :
  rotations f r = (.ok rs, v) ↔ ∃ a, r = (.ok a, v) ∧ f a = rs
  := by
  obtain ⟨e | a, v'⟩ := r
  · simp [rotations, Except.map]
  · constructor
    · intro h
      cases h
      exact ⟨a, rfl, rfl⟩
    · rintro ⟨a', h, rfl⟩
      cases h
      rfl

theorem inVault_eq_ok {α : Type} {body : String → EscrowM α} {v v' : EscrowVault} {a : α}
    (h : inVault ext host body v = (.ok a, v')) :
  ∃ config file s, openVault ext host v.machine.vault = .ok (config, file)
    ∧ body config.vaultId (v.state file) = (.ok a, s) ∧ v' = v.leave config s
  := by
  cases hopen : openVault ext host v.machine.vault with
  | error e =>
    rw [inVault_of_error hopen] at h
    cases h
  | ok found =>
    obtain ⟨config, file⟩ := found
    rw [inVault_of_openVault hopen] at h
    obtain ⟨hresult, rfl⟩ := Prod.mk.inj h
    exact ⟨config, file, _, rfl, Prod.ext hresult rfl, rfl⟩

/-- A call that has rotated keys has left them. -/
theorem Call.hasRotated {v v' : EscrowVault} {call : Call} {rs : List Rotated}
    (horderly : OrderlyVault ext host v)
    (h : call.run ext host trouble nowMs v = (.ok rs, v')) (hmem : rotated ∈ rs) :
  ∃ config file s, openVault ext host v.machine.vault = .ok (config, file)
    ∧ v' = v.leave config s
    ∧ ReflTransGen (Touch ext host trouble config.vaultId (call.scope nowMs (v.state file)))
        (v.state file) s
    ∧ HasRotated ext host trouble config.vaultId (call.scope nowMs (v.state file)) rotated s
  := by
  cases call with
  | enable providerId =>
    obtain ⟨_, -, rfl⟩ := rotations_eq_ok.mp h
    cases hmem
  | providerAdd providerId configRef =>
    obtain ⟨_, -, rfl⟩ := rotations_eq_ok.mp h
    cases hmem
  | rotate passphrase =>
    obtain ⟨⟨status, found⟩, hrotate, rfl⟩ := rotations_eq_ok.mp h
    obtain rfl := List.mem_singleton.mp hmem
    rw [vaultRecoveryEscrowRotateService] at hrotate
    split at hrotate
    · cases hrotate
    · obtain ⟨config, file, s, hopen, hbody, rfl⟩ := inVault_eq_ok hrotate
      have hwithin : Within (Touch ext host trouble config.vaultId
          ((Call.rotate passphrase).scope nowMs (v.state file)))
          (rotateLast ext host trouble config.vaultId passphrase nowMs) (v.state file) :=
        within_rotateLast ⟨rfl, rfl⟩ fun row hrow => ⟨row.2, hrow⟩
      rw [Within, hbody] at hwithin
      exact ⟨config, file, s, hopen, rfl, hwithin, hasRotated_rotateLast hbody⟩
  | rotateAll passphrase =>
    obtain ⟨found, hrotate, rfl⟩ := rotations_eq_ok.mp h
    rw [vaultRecoveryEscrowRotateAllService] at hrotate
    split at hrotate
    · cases hrotate
    · obtain ⟨config, file, s, hopen, hbody, rfl⟩ := inVault_eq_ok hrotate
      have hstate := (horderly config file hopen).2
      have hwithin : Within (Touch ext host trouble config.vaultId
          ((Call.rotateAll passphrase).scope nowMs (v.state file)))
          (EscrowProviders.rotateAll ext host trouble config.vaultId passphrase nowMs)
          (v.state file) :=
        within_rotateAll hstate
      rw [Within, hbody] at hwithin
      exact ⟨config, file, s, hopen, rfl, hwithin, hasRotated_rotateAll hstate hbody hmem⟩
  | restore bundlePath =>
    obtain ⟨_, -, rfl⟩ := rotations_eq_ok.mp h
    cases hmem

end Rotations

end EscrowProviders

end KnowledgeCore
