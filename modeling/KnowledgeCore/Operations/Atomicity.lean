import KnowledgeCore.Operations.Restoring

/-!
# Rotations that fail

A rotation that fails has changed nothing of escrow if it has not left a key with an adapter. Once
it has left one it undoes nothing: the rows of the providers that come before the one it fails for
are those of keys whose phrases have not been returned.
-/

namespace KnowledgeCore

namespace EscrowProviders

open Export (RecoveryEscrowDescriptorV2 ESCROW_PROVIDER_PRIORITY)
open Fallible (Within)
open Ingest (openVault)
open Operations hiding vaultRecoveryEscrowEnableService vaultRecoveryEscrowProviderAddService
  vaultRecoveryEscrowRotateAllService vaultRecoveryEscrowRotateService
  vaultRecoveryEscrowRestoreService rotateEach
open Recovery (keyBlobPath manifestPath)
open Relation (ReflTransGen)

/-! ### Leaving a key -/

/-- A key gets as far as the adapter: there is a passphrase, the key is drawn and sealed, and its
files can be written. -/
def LeavesPayload (ext : Externals) (moment : EscrowMoment) (provider : RecoveryEscrowProvider)
    (vaultId outputDir passphrase : String) (nowMs : Int64) : Prop :=
  passphrase ≠ "" ∧ ∃ drawn root, moment.draw nowMs = .ok drawn ∧ provider.root = some root
    ∧ moment.fails (keyBlobPath (bundlePathOf outputDir vaultId nowMs)) = false
    ∧ moment.fails (manifestPath (bundlePathOf outputDir vaultId nowMs)) = false
    ∧ moment.fails (payloadPath root vaultId (blake3HexPrefixed ext (.raw drawn.keyBlob))) = false

/-- There is a payload with the hash of the one that is drawn. -/
def HasPayload (ext : Externals) (moment : EscrowMoment) (provider : RecoveryEscrowProvider)
    (vaultId : String) (nowMs : Int64) (files : Files) : Prop :=
  ∃ drawn root, moment.draw nowMs = .ok drawn ∧ provider.root = some root
    ∧ files[payloadPath root vaultId (blake3HexPrefixed ext (.raw drawn.keyBlob))]?.isSome = true

section Leaving

variable {ext : Externals} {moment : EscrowMoment} {provider : RecoveryEscrowProvider}
  {vaultId outputDir passphrase : String} {nowMs : Int64} {files : Files}

theorem writeFile_of_fits {error : String → AppError} {path : String} {bytes : List UInt8}
    (h : moment.fails path = false) :
  writeFile moment error path bytes files = (.ok (), files.insert path bytes)
  := by
  rw [writeFile, if_neg]
  simp [h]

theorem writeFile_of_fails {error : String → AppError} {path : String} {bytes : List UInt8}
    (h : moment.fails path = true) :
  writeFile moment error path bytes files = (.error (error path), files)
  := by
  rw [writeFile, if_pos h]

/-- A manifest always has a text. -/
theorem writeRecoveryManifest_of_fits {bundlePath : String} (manifest : RecoveryManifestV2)
    (h : moment.fails (manifestPath bundlePath) = false) :
  ∃ after, writeRecoveryManifest moment bundlePath manifest files = (.ok (), after)
  := by
  obtain ⟨text, htext⟩ :=
    CanonJson.toCanonicalBytes_ok_of_not_hasFloat (Recovery.hasFloat_manifest manifest)
  rw [writeRecoveryManifest, htext]
  exact ⟨_, writeFile_of_fits h⟩

theorem fails_of_writeRecoveryManifest {bundlePath : String} {manifest : RecoveryManifestV2}
    {after : Files} (h : writeRecoveryManifest moment bundlePath manifest files = (.ok (), after)) :
  moment.fails (manifestPath bundlePath) = false
  := by
  rw [writeRecoveryManifest] at h
  split at h
  · cases h
  · rw [writeFile] at h
    split at h
    · cases h
    · next hfits =>
      rw [Bool.not_eq_true] at hfits
      exact hfits

/-- A bundle is made if there is a passphrase, and it is drawn and written. -/
theorem exists_generateRecoveryBundle {drawn : RecoveryDraw} (hne : passphrase ≠ "")
    (hdraw : moment.draw nowMs = .ok drawn)
    (hkey : moment.fails (keyBlobPath (bundlePathOf outputDir vaultId nowMs)) = false)
    (hmanifest : moment.fails (manifestPath (bundlePathOf outputDir vaultId nowMs)) = false) :
  ∃ after, generateRecoveryBundle ext moment vaultId outputDir passphrase nowMs files
    = (.ok (generatedOf ext vaultId outputDir nowMs drawn none), after)
  := by
  let written := files.insert (keyBlobPath (bundlePathOf outputDir vaultId nowMs)) drawn.keyBlob
  have hwritten (error : String → AppError) : writeFile moment error
      (PathBuf.join (bundlePathOf outputDir vaultId nowMs) "key_blob.enc") drawn.keyBlob files
        = (.ok (), written) := writeFile_of_fits hkey
  obtain ⟨after, hafter⟩ : ∃ after, writeRecoveryManifest moment
      (bundlePathOf outputDir vaultId nowMs)
      (generatedOf ext vaultId outputDir nowMs drawn none).manifest written = (.ok (), after) :=
    writeRecoveryManifest_of_fits _ hmanifest
  use after
  rw [bundlePathOf] at hwritten hafter
  rw [generateRecoveryBundle, if_neg hne, hdraw]
  simp only [hwritten]
  rw [generatedOf] at hafter
  dsimp only at hafter
  rw [hafter]
  rfl

/-- What has been made has been written. -/
theorem fails_of_generateRecoveryBundle {generated : RecoveryBundleGenerateResult}
    {after : Files} (h : generateRecoveryBundle ext moment vaultId outputDir passphrase nowMs files
      = (.ok generated, after)) :
  moment.fails (keyBlobPath (bundlePathOf outputDir vaultId nowMs)) = false
    ∧ moment.fails (manifestPath (bundlePathOf outputDir vaultId nowMs)) = false
  := by
  rw [generateRecoveryBundle] at h
  split at h
  case isTrue => cases h
  split at h
  next => cases h
  next drawn hdraw =>
  dsimp only at h
  split at h
  next => cases h
  next written hwrite =>
  split at h
  next => cases h
  next hmanifest =>
  constructor
  · rw [writeFile] at hwrite
    split at hwrite
    · cases hwrite
    · next hfits =>
      rw [Bool.not_eq_true] at hfits
      exact hfits
  · exact fails_of_writeRecoveryManifest hmanifest

/-- A key that does not get as far as the adapter leaves nothing but files of its bundle. -/
theorem leaveKey_of_not_leavesPayload
    (h : ¬ LeavesPayload ext moment provider vaultId outputDir passphrase nowMs) :
  ∃ e after, leaveKey ext moment provider vaultId outputDir passphrase nowMs files
      = (.error e, after)
    ∧ Written (fun path _ => OfBundle (bundlePathOf outputDir vaultId nowMs) path) files after
  := by
  have hwritten : Written (fun path _ => OfBundle (bundlePathOf outputDir vaultId nowMs) path)
      files (generateRecoveryBundle ext moment vaultId outputDir passphrase nowMs files).2 :=
    written_generateRecoveryBundle
  rcases hgenerate : generateRecoveryBundle ext moment vaultId outputDir passphrase nowMs files
    with ⟨e | generated, after⟩
  · rw [hgenerate] at hwritten
    refine ⟨e, after, ?_, hwritten⟩
    rw [leaveKey, hgenerate]
  · rw [hgenerate] at hwritten
    obtain ⟨hne, drawn, hdraw, rfl⟩ := generateRecoveryBundle_eq_ok hgenerate
    obtain ⟨hkey, hmanifest⟩ := fails_of_generateRecoveryBundle hgenerate
    obtain ⟨e, hwrite⟩ : ∃ e, provider.write moment vaultId
        (generatedOf ext vaultId outputDir nowMs drawn none).manifest.payloadHash
        (generatedOf ext vaultId outputDir nowMs drawn none).keyBlob nowMs after
          = (.error e, after) := by
      rw [RecoveryEscrowProvider.write]
      cases hroot : provider.root with
      | none => exact ⟨_, rfl⟩
      | some root =>
        have hpayload : moment.fails (payloadPath root vaultId
            (blake3HexPrefixed ext (.raw drawn.keyBlob))) = true := by
          by_contra hfits
          rw [Bool.not_eq_true] at hfits
          exact h ⟨hne, drawn, root, hdraw, hroot, hkey, hmanifest, hfits⟩
        have hfailed (error : String → AppError) : writeFile moment error
            (PathBuf.join (PathBuf.join root vaultId)
              (RecoveryEscrowProvider.blobName (blake3HexPrefixed ext (.raw drawn.keyBlob))))
            drawn.keyBlob after = (.error (error _), after) := writeFile_of_fails hpayload
        dsimp only [generatedOf]
        rw [hfailed]
        exact ⟨_, rfl⟩
    refine ⟨e, after, ?_, hwritten⟩
    rw [leaveKey, hgenerate]
    dsimp only
    rw [hwrite]

/-- A key that gets as far as the adapter is left with it, whatever follows. -/
theorem hasPayload_leaveKey
    (h : LeavesPayload ext moment provider vaultId outputDir passphrase nowMs) :
  HasPayload ext moment provider vaultId nowMs
    (leaveKey ext moment provider vaultId outputDir passphrase nowMs files).2
  := by
  obtain ⟨hne, drawn, root, hdraw, hroot, hkey, hmanifest, hpayload⟩ := h
  obtain ⟨after, hgenerate⟩ : ∃ after, generateRecoveryBundle ext moment vaultId outputDir
      passphrase nowMs files = (.ok (generatedOf ext vaultId outputDir nowMs drawn none), after) :=
    exists_generateRecoveryBundle hne hdraw hkey hmanifest
  let left := after.insert
    (payloadPath root vaultId (blake3HexPrefixed ext (.raw drawn.keyBlob))) drawn.keyBlob
  have hleft : left[payloadPath root vaultId
      (blake3HexPrefixed ext (.raw drawn.keyBlob))]?.isSome = true := by
    rw [Std.ExtTreeMap.getElem?_insert_self]
    rfl
  have hwritten (error : String → AppError) : writeFile moment error
      (PathBuf.join (PathBuf.join root vaultId)
        (RecoveryEscrowProvider.blobName (blake3HexPrefixed ext (.raw drawn.keyBlob))))
      drawn.keyBlob after = (.ok (), left) := writeFile_of_fits hpayload
  have hwrite : (provider.write moment vaultId
      (generatedOf ext vaultId outputDir nowMs drawn none).manifest.payloadHash
      (generatedOf ext vaultId outputDir nowMs drawn none).keyBlob nowMs after).2 = left := by
    rw [RecoveryEscrowProvider.write, hroot]
    dsimp only [generatedOf]
    rw [hwritten]
  refine ⟨drawn, root, hdraw, hroot, ?_⟩
  rw [leaveKey, hgenerate]
  dsimp only
  split
  · next hfailed =>
    rw [hfailed] at hwrite
    dsimp only at hwrite ⊢
    rw [hwrite]
    exact hleft
  · next descriptor written hdone =>
    rw [hdone] at hwrite
    dsimp only at hwrite
    subst hwrite
    split
    · next hfailed =>
      rw [← congrArg Prod.snd hfailed]
      exact written_writeRecoveryManifest.isSome hleft
    · next hdone' =>
      rw [← congrArg Prod.snd hdone']
      exact written_writeRecoveryManifest.isSome hleft

end Leaving

/-! ### Calls that fail -/

/-- Escrow is as it was: the tables, what is left with the adapters, and the note of the last
bundle. Only files of bundles may differ. -/
structure SameEscrow (s t : EscrowState) : Prop where
  configs : t.file.db.recoveryEscrowConfigs = s.file.db.recoveryEscrowConfigs
  providers : t.providers = s.providers
  events : t.events = s.events
  files : ∀ path, (∀ bundlePath, ¬ OfBundle bundlePath path) → t.files[path]? = s.files[path]?

section Failing

variable {ext : Externals} {host : Host} {trouble : EscrowTrouble} {scope : Scope}
  {moment : EscrowMoment} {provider : RecoveryEscrowProvider}
  {vaultId outputDir passphrase : String} {nowMs : Int64} {s t : EscrowState}

theorem SameEscrow.refl (s : EscrowState) : SameEscrow s s :=
  ⟨rfl, rfl, rfl, fun _ _ => rfl⟩

/-- No file is ever removed. -/
theorem isSome_touches {path : String}
    (htouches : ReflTransGen (Touch ext host trouble vaultId scope) s t)
    (h : s.files[path]?.isSome = true) :
  t.files[path]?.isSome = true
  := by
  induction htouches with
  | refl => exact h
  | tail _ htouch ih =>
    cases htouch with
    | config => exact ih
    | descriptor => exact ih
    | provider => exact ih
    | event => exact ih
    | leave => exact written_leaveKey.isSome ih
    | note => exact written_writeFile.isSome ih
    | restore => exact written_writeFile.isSome ih

theorem HasPayload.touches (h : HasPayload ext moment provider vaultId nowMs s.files)
    (htouches : ReflTransGen (Touch ext host trouble vaultId scope) s t) :
  HasPayload ext moment provider vaultId nowMs t.files
  := by
  obtain ⟨drawn, root, hdraw, hroot, hfile⟩ := h
  exact ⟨drawn, root, hdraw, hroot, isSome_touches htouches hfile⟩

/-- A call that leaves a key first, and cannot, fails there and leaves escrow as it was. -/
theorem exists_stops {α : Type} {rest : Rotated → EscrowM α}
    (h : ¬ LeavesPayload ext moment provider vaultId outputDir passphrase nowMs) :
  ∃ e t, (onFiles (leaveKey ext moment provider vaultId outputDir passphrase nowMs) >>= rest) s
      = (.error e, t)
    ∧ SameEscrow s t
  := by
  obtain ⟨e, after, hleave, hwritten⟩ : ∃ e after, leaveKey ext moment provider vaultId
      outputDir passphrase nowMs s.files = (.error e, after) ∧ Written
        (fun path _ => OfBundle (bundlePathOf outputDir vaultId nowMs) path) s.files after :=
    leaveKey_of_not_leavesPayload h
  refine ⟨e, { s with files := after }, ?_, rfl, rfl, rfl, ?_⟩
  · apply Fallible.bind_of_error
    rw [onFiles, hleave]
  · intro path hpath
    exact hwritten.getElem?_eq fun _ => hpath _

/-- A call that leaves a key first does not take it back. -/
theorem hasPayload_bind {α : Type} {rest : Rotated → EscrowM α}
    (h : LeavesPayload ext moment provider vaultId outputDir passphrase nowMs)
    (hrest : ∀ rotated files, leaveKey ext moment provider vaultId outputDir passphrase nowMs
        s.files = (.ok rotated, files) →
      Within (Touch ext host trouble vaultId .all) (rest rotated) { s with files }) :
  HasPayload ext moment provider vaultId nowMs
    ((onFiles (leaveKey ext moment provider vaultId outputDir passphrase nowMs) >>= rest)
      s).2.files
  := by
  have hleft : HasPayload ext moment provider vaultId nowMs
      (onFiles (leaveKey ext moment provider vaultId outputDir passphrase nowMs) s).2.files :=
    hasPayload_leaveKey h
  have htouches : ReflTransGen (Touch ext host trouble vaultId .all)
      (onFiles (leaveKey ext moment provider vaultId outputDir passphrase nowMs) s).2
      ((onFiles (leaveKey ext moment provider vaultId outputDir passphrase nowMs) >>= rest)
        s).2 := by
    apply Fallible.within_bind
    intro rotated t hleave
    obtain ⟨files, hleft, rfl⟩ := onFiles_eq_ok.mp hleave
    exact hrest rotated files hleft
  exact hleft.touches htouches

/-- The adapter that a rotation leaves its first key with, where it makes the bundle, and the
passphrase it seals. -/
inductive Call.Begins (host : Host) (vaultId : String) (s : EscrowState) :
    Call → RecoveryEscrowProvider → String → String → Prop
  | rotate {passphrase found} (hne : passphrase ≠ "")
      (hfound : resolveAvailable host vaultId s.file.db = .ok found) :
    Call.Begins host vaultId s (.rotate passphrase) found.2 (bundlesDir host) passphrase
  | rotateAll {passphrase row rest provider} (hblank : ¬ isBlank passphrase)
      (hrows : enabledProviders s = .ok (row :: rest))
      (hprovider : resolveForAll host vaultId row.1 = .ok provider) :
    Call.Begins host vaultId s (.rotateAll passphrase) provider
      (PathBuf.join (bundlesDir host) row.1) passphrase

/-! ### The last provider -/

theorem rotateLast_stops (hne : passphrase ≠ "")
    (h : ∀ provider outputDir passphrase',
      (Call.rotate passphrase).Begins host vaultId s provider outputDir passphrase' →
      ¬ LeavesPayload ext (trouble.moment ext vaultId passphrase') provider vaultId outputDir
        passphrase' nowMs) :
  SameEscrow s (rotateLast ext host trouble vaultId passphrase nowMs s).2
  := by
  cases hfound : resolveAvailable host vaultId s.file.db with
  | error e =>
    have hread : Fallible.reading (fun s => resolveAvailable host vaultId s.file.db) s
        = (.error e, s) := by
      rw [Fallible.reading, hfound]
    rw [rotateLast, Fallible.bind_of_error hread]
    exact .refl s
  | ok found =>
    have hread : Fallible.reading (fun s => resolveAvailable host vaultId s.file.db) s
        = (.ok found, s) := by
      rw [Fallible.reading, hfound]
    rw [rotateLast, Fallible.bind_of_ok hread]
    obtain ⟨e, t, hstops, hsame⟩ := exists_stops (h _ _ _ (.rotate hne hfound))
    dsimp only
    rw [hstops]
    exact hsame

theorem hasPayload_rotateLast
    (hbegins : (Call.rotate passphrase).Begins host vaultId s provider outputDir passphrase)
    (h : LeavesPayload ext (trouble.moment ext vaultId passphrase) provider vaultId outputDir
      passphrase nowMs) :
  HasPayload ext (trouble.moment ext vaultId passphrase) provider vaultId nowMs
    (rotateLast ext host trouble vaultId passphrase nowMs s).2.files
  := by
  cases hbegins with
  | @rotate _ found hne hfound =>
    have hread : Fallible.reading (fun s => resolveAvailable host vaultId s.file.db) s
        = (.ok found, s) := by
      rw [Fallible.reading, hfound]
    obtain ⟨-, hresolve, -⟩ := resolveAvailable_eq_ok.mp hfound
    rw [rotateLast, Fallible.bind_of_ok hread]
    apply hasPayload_bind h
    intro rotated files _
    exact within_noteLast (supported_of_resolve hresolve) trivial rfl

/-! ### All the providers -/

variable {row : String × RecoveryEscrowProviderConfigRowV3}
  {rest : List (String × RecoveryEscrowProviderConfigRowV3)}

theorem exists_rotateOne_stops
    (h : ∀ provider, resolveForAll host vaultId row.1 = .ok provider →
      ¬ LeavesPayload ext (trouble.moment ext vaultId passphrase) provider vaultId
        (PathBuf.join (bundlesDir host) row.1) passphrase nowMs) :
  ∃ e t, rotateOne ext host trouble vaultId passphrase row nowMs s = (.error e, t)
    ∧ SameEscrow s t
  := by
  cases hprovider : resolveForAll host vaultId row.1 with
  | error e =>
    have hresolve : Fallible.ofExcept (resolveForAll host vaultId row.1) s = (.error e, s) := by
      rw [Fallible.ofExcept, hprovider]
    refine ⟨e, s, ?_, .refl s⟩
    rw [rotateOne, Fallible.bind_of_error hresolve]
  | ok provider =>
    have hresolve : Fallible.ofExcept (resolveForAll host vaultId row.1) s
        = (.ok provider, s) := by
      rw [Fallible.ofExcept, hprovider]
    obtain ⟨e, t, hstops, hsame⟩ := exists_stops (h provider hprovider)
    refine ⟨e, t, ?_, hsame⟩
    rw [rotateOne, Fallible.bind_of_ok hresolve]
    exact hstops

theorem hasPayload_rotateOne (hrow : row.1 ∈ ESCROW_PROVIDER_PRIORITY)
    (hprovider : resolveForAll host vaultId row.1 = .ok provider)
    (h : LeavesPayload ext (trouble.moment ext vaultId passphrase) provider vaultId
      (PathBuf.join (bundlesDir host) row.1) passphrase nowMs) :
  HasPayload ext (trouble.moment ext vaultId passphrase) provider vaultId nowMs
    (rotateOne ext host trouble vaultId passphrase row nowMs s).2.files
  := by
  have hresolve : Fallible.ofExcept (resolveForAll host vaultId row.1) s
      = (.ok provider, s) := by
    rw [Fallible.ofExcept, hprovider]
  rw [rotateOne, Fallible.bind_of_ok hresolve]
  apply hasPayload_bind h
  intro rotated files hleave
  exact within_noteOne hrow trivial (resolveForAll_eq_ok.mp hprovider).1 hleave

theorem rotateAll_stops (hblank : ¬ isBlank passphrase)
    (h : ∀ provider outputDir passphrase',
      (Call.rotateAll passphrase).Begins host vaultId s provider outputDir passphrase' →
      ¬ LeavesPayload ext (trouble.moment ext vaultId passphrase') provider vaultId outputDir
        passphrase' nowMs) :
  SameEscrow s (rotateAll ext host trouble vaultId passphrase nowMs s).2
  := by
  cases hrows : enabledProviders s with
  | error e =>
    have hread : Fallible.reading enabledProviders s = (.error e, s) := by
      rw [Fallible.reading, hrows]
    rw [rotateAll, Fallible.bind_of_error hread]
    exact .refl s
  | ok rows =>
    have hread : Fallible.reading enabledProviders s = (.ok rows, s) := by
      rw [Fallible.reading, hrows]
    rw [rotateAll, Fallible.bind_of_ok hread]
    cases rows with
    | nil => exact .refl s
    | cons row rest =>
      obtain ⟨e, t, hstops, hsame⟩ := exists_rotateOne_stops fun provider hprovider =>
        h _ _ _ (.rotateAll hblank hrows hprovider)
      rw [rotateEach, Fallible.bind_of_error hstops]
      exact hsame

theorem hasPayload_rotateAll (horderly : Orderly s)
    (hbegins : (Call.rotateAll passphrase).Begins host vaultId s provider outputDir passphrase)
    (h : LeavesPayload ext (trouble.moment ext vaultId passphrase) provider vaultId outputDir
      passphrase nowMs) :
  HasPayload ext (trouble.moment ext vaultId passphrase) provider vaultId nowMs
    (rotateAll ext host trouble vaultId passphrase nowMs s).2.files
  := by
  cases hbegins with
  | @rotateAll _ row rest _ hblank hrows hprovider =>
    have hids : ∀ row' ∈ row :: rest, row'.1 ∈ ESCROW_PROVIDER_PRIORITY := by
      intro row' hrow'
      exact horderly.providers _ _ ((mem_enabledProviders hrows).mp hrow').1
    have hread : Fallible.reading enabledProviders s = (.ok (row :: rest), s) := by
      rw [Fallible.reading, hrows]
    have hfirst := hasPayload_rotateOne (s := s) (hids row List.mem_cons_self) hprovider h
    rw [rotateAll, Fallible.bind_of_ok hread, rotateEach]
    have htouches : ReflTransGen (Touch ext host trouble vaultId .all)
        (rotateOne ext host trouble vaultId passphrase row nowMs s).2
        ((rotateOne ext host trouble vaultId passphrase row nowMs >>= fun rotated =>
          rotateEach ext host trouble vaultId passphrase rest (nowMs + 1) >>= fun others =>
            pure (rotated :: others)) s).2 := by
      apply Fallible.within_bind
      intro rotated t _
      apply Within.bind
      · apply within_rotateEach
        · exact fun row' hrow' => hids row' (List.mem_cons_of_mem _ hrow')
        · exact fun _ _ => trivial
        · exact fun _ _ => trivial
      · intro _ _ _
        apply Within.pure
    exact hfirst.touches htouches

end Failing

/-! ### Vaults -/

/-- Escrow of the vault is as it was. -/
def Unchanged (ext : Externals) (host : Host) (v v' : EscrowVault) : Prop :=
  v' = v ∨ ∃ config file file', openVault ext host v.machine.vault = .ok (config, file)
    ∧ openVault ext host v'.machine.vault = .ok (config, file')
    ∧ SameEscrow (v.state file) (v'.state file')

/-- A call that leaves a key with an adapter. -/
def Call.LeavesKey (ext : Externals) (host : Host) (trouble : EscrowTrouble) (nowMs : Int64)
    (v : EscrowVault) (call : Call) : Prop :=
  ∃ config file provider outputDir passphrase,
    openVault ext host v.machine.vault = .ok (config, file)
    ∧ call.Begins host config.vaultId (v.state file) provider outputDir passphrase
    ∧ LeavesPayload ext (trouble.moment ext config.vaultId passphrase) provider config.vaultId
      outputDir passphrase nowMs

/-- A call that leaves a key with an adapter that has none of its hash. -/
def Call.LeavesNewKey (ext : Externals) (host : Host) (trouble : EscrowTrouble) (nowMs : Int64)
    (v : EscrowVault) (call : Call) : Prop :=
  ∃ config file provider outputDir passphrase,
    openVault ext host v.machine.vault = .ok (config, file)
    ∧ call.Begins host config.vaultId (v.state file) provider outputDir passphrase
    ∧ LeavesPayload ext (trouble.moment ext config.vaultId passphrase) provider config.vaultId
      outputDir passphrase nowMs
    ∧ ¬ HasPayload ext (trouble.moment ext config.vaultId passphrase) provider config.vaultId
      nowMs v.machine.files

section Vaults

variable {ext : Externals} {host : Host} {trouble : EscrowTrouble} {nowMs : Int64}
  {v v' : EscrowVault} {passphrase : String} {e : AppError}

theorem unchanged_leave {config : VaultJsonV3} {file : SqliteFile} {s : EscrowState}
    {scope : Scope}
    (hopen : openVault ext host v.machine.vault = .ok (config, file))
    (htouches : ReflTransGen (Touch ext host trouble config.vaultId scope) (v.state file) s)
    (hsame : SameEscrow (v.state file) s) :
  Unchanged ext host v (v.leave config s)
  := by
  obtain ⟨hkey, hversion⟩ := file_touches htouches
  right
  exact ⟨config, file, s.file, hopen, openVault_leave hopen hkey hversion, hsame⟩

/-- A payload that has been left is a change. -/
theorem not_unchanged_leave {config : VaultJsonV3} {s : EscrowState} {moment : EscrowMoment}
    {provider : RecoveryEscrowProvider} {vaultId : String}
    (hleft : HasPayload ext moment provider vaultId nowMs s.files)
    (hnew : ¬ HasPayload ext moment provider vaultId nowMs v.machine.files) :
  ¬ Unchanged ext host v (v.leave config s)
  := by
  obtain ⟨drawn, root, hdraw, hroot, hfile⟩ := hleft
  have hoff (bundlePath : String) : ¬ OfBundle bundlePath
      (payloadPath root vaultId (blake3HexPrefixed ext (.raw drawn.keyBlob))) := by
    rintro (hpath | hpath)
    · exact payloadPath_ne_keyBlobPath _ _ _ hpath
    · exact payloadPath_ne_manifestPath _ _ _ hpath
  rintro (hsame | ⟨config', file, file', -, -, hsame⟩)
  · apply hnew
    rw [← hsame]
    exact ⟨drawn, root, hdraw, hroot, hfile⟩
  · have hfiles : s.files[payloadPath root vaultId (blake3HexPrefixed ext (.raw drawn.keyBlob))]?
        = v.machine.files[payloadPath root vaultId
          (blake3HexPrefixed ext (.raw drawn.keyBlob))]? := hsame.files _ hoff
    rw [hfiles] at hfile
    exact hnew ⟨drawn, root, hdraw, hroot, hfile⟩

theorem rotate_cases :
  (¬ (Call.rotate passphrase).LeavesKey ext host trouble nowMs v →
      Unchanged ext host v ((Call.rotate passphrase).run ext host trouble nowMs v).2)
    ∧ ((Call.rotate passphrase).LeavesNewKey ext host trouble nowMs v →
      ¬ Unchanged ext host v ((Call.rotate passphrase).run ext host trouble nowMs v).2)
  := by
  rw [Call.run, vaultRecoveryEscrowRotateService]
  by_cases hne : passphrase = ""
  · rw [if_pos hne]
    constructor
    · intro _
      exact .inl rfl
    · rintro ⟨config, file, provider, outputDir, passphrase', -, hbegins, -, -⟩
      cases hbegins with
      | rotate hne' => exact absurd hne hne'
  · rw [if_neg hne]
    cases hopen : openVault ext host v.machine.vault with
    | error e =>
      rw [inVault_of_error hopen]
      constructor
      · intro _
        exact .inl rfl
      · rintro ⟨config, file, provider, outputDir, passphrase', hopen', -, -, -⟩
        rw [hopen] at hopen'
        cases hopen'
    | ok found =>
      obtain ⟨config, file⟩ := found
      rw [inVault_of_openVault hopen]
      constructor
      · intro hleaves
        have hwithin : Within (Touch ext host trouble config.vaultId .all)
            (rotateLast ext host trouble config.vaultId passphrase nowMs) (v.state file) :=
          within_rotateLast trivial fun _ _ => trivial
        apply unchanged_leave hopen hwithin
        apply rotateLast_stops hne
        intro provider outputDir passphrase' hbegins hpayload
        exact hleaves ⟨config, file, provider, outputDir, passphrase', hopen, hbegins, hpayload⟩
      · rintro ⟨config', file', provider, outputDir, passphrase', hopen', hbegins, hpayload, hnew⟩
        rw [hopen] at hopen'
        cases hopen'
        apply not_unchanged_leave _ hnew
        cases hbegins with
        | rotate hne' hfound => exact hasPayload_rotateLast (.rotate hne' hfound) hpayload

theorem rotateAll_cases (horderly : OrderlyVault ext host v) :
  (¬ (Call.rotateAll passphrase).LeavesKey ext host trouble nowMs v →
      Unchanged ext host v ((Call.rotateAll passphrase).run ext host trouble nowMs v).2)
    ∧ ((Call.rotateAll passphrase).LeavesNewKey ext host trouble nowMs v →
      ¬ Unchanged ext host v ((Call.rotateAll passphrase).run ext host trouble nowMs v).2)
  := by
  rw [Call.run, vaultRecoveryEscrowRotateAllService]
  by_cases hblank : isBlank passphrase
  · rw [if_pos hblank]
    constructor
    · intro _
      exact .inl rfl
    · rintro ⟨config, file, provider, outputDir, passphrase', -, hbegins, -, -⟩
      cases hbegins with
      | rotateAll hblank' => exact absurd hblank hblank'
  · rw [if_neg hblank]
    cases hopen : openVault ext host v.machine.vault with
    | error e =>
      rw [inVault_of_error hopen]
      constructor
      · intro _
        exact .inl rfl
      · rintro ⟨config, file, provider, outputDir, passphrase', hopen', -, -, -⟩
        rw [hopen] at hopen'
        cases hopen'
    | ok found =>
      obtain ⟨config, file⟩ := found
      have hstate := (horderly config file hopen).2
      rw [inVault_of_openVault hopen]
      constructor
      · intro hleaves
        have hwithin : Within (Touch ext host trouble config.vaultId
            ((Call.rotateAll passphrase).scope nowMs (v.state file)))
            (rotateAll ext host trouble config.vaultId passphrase nowMs) (v.state file) :=
          within_rotateAll hstate
        apply unchanged_leave hopen hwithin
        apply rotateAll_stops hblank
        intro provider outputDir passphrase' hbegins hpayload
        exact hleaves ⟨config, file, provider, outputDir, passphrase', hopen, hbegins, hpayload⟩
      · rintro ⟨config', file', provider, outputDir, passphrase', hopen', hbegins, hpayload, hnew⟩
        rw [hopen] at hopen'
        cases hopen'
        apply not_unchanged_leave _ hnew
        cases hbegins with
        | rotateAll hblank' hrows hprovider =>
          exact hasPayload_rotateAll hstate (.rotateAll hblank' hrows hprovider) hpayload

/-- A rotation that fails has changed nothing if it has not left a key with an adapter. A key that
is new there it never takes back. -/
theorem rotate_error (hserved : Served ext host v) {call : Call}
    (hcall : call = .rotate passphrase ∨ call = .rotateAll passphrase)
    (h : call.run ext host trouble nowMs v = (.error e, v')) :
  (¬ call.LeavesKey ext host trouble nowMs v → Unchanged ext host v v')
    ∧ (call.LeavesNewKey ext host trouble nowMs v → ¬ Unchanged ext host v v')
  := by
  have hafter : (call.run ext host trouble nowMs v).2 = v' := congrArg Prod.snd h
  rw [← hafter]
  obtain rfl | rfl := hcall
  · exact rotate_cases
  · exact rotateAll_cases hserved.orderly

end Vaults

namespace Sample

/-- A vault after a call in which nothing goes wrong. -/
def after (nowMs : Int64) (call : Call) (v : EscrowVault) : EscrowVault :=
  (call.run Recovery.Sample.sealing Sample.host calm nowMs v).2

theorem served_after {v : EscrowVault} (h : Served Recovery.Sample.sealing Sample.host v)
    (nowMs : Int64) (call : Call) :
  Served Recovery.Sample.sealing Sample.host (after nowMs call v)
  := h.call calm nowMs call

/-- The key of the local adapter has been rotated, and a provider has been added that is not
available. -/
def added : EscrowVault :=
  after 3 (.providerAdd "private_kms" "b") (after 2 (.rotateAll "secret")
    (after 1 (.providerAdd "local" "a") unused))

theorem served_added :
  Served Recovery.Sample.sealing Sample.host added
  := served_after (served_after (served_after served_unused 1 _) 2 _) 3 _

/-- All keys are rotated again. -/
def rotatedInPart : AppResult (List Rotated) × EscrowVault :=
  (Call.rotateAll "secret").run Recovery.Sample.sealing Sample.host calm 4 added

/-- When the key of the local adapter was rotated. -/
def localTime (v : EscrowVault) : Option (Option Int64) :=
  (openVault Recovery.Sample.sealing Sample.host v.machine.vault).toOption.map fun found =>
    found.2.db.recoveryEscrowConfigs["local"]?.map fun row => row.updatedAtMs

def codeOf {α : Type} : AppResult α → Option String
  | .error e => some e.code
  | .ok _ => none

theorem rotatedInPart_eq :
  (codeOf rotatedInPart.1, localTime rotatedInPart.2, localTime added)
    = (some "KC_RECOVERY_ESCROW_ROTATION_CONFLICT", some (some 4), some (some 2))
  := by
  decide +kernel

end Sample

/-- The key of the first provider is replaced, and the call fails for the second. -/
theorem rotated_in_part :
  Served Recovery.Sample.sealing Sample.host Sample.added
    ∧ (∃ e, Sample.rotatedInPart.1 = .error e ∧ e.code = "KC_RECOVERY_ESCROW_ROTATION_CONFLICT")
    ∧ ¬ Unchanged Recovery.Sample.sealing Sample.host Sample.added Sample.rotatedInPart.2
  := by
  refine ⟨Sample.served_added, ?_, ?_⟩
  · have hcode := congrArg Prod.fst Sample.rotatedInPart_eq
    cases hresult : Sample.rotatedInPart.1 with
    | error e =>
      rw [hresult] at hcode
      exact ⟨e, rfl, Option.some.inj hcode⟩
    | ok rotations =>
      rw [hresult] at hcode
      cases hcode
  · have hafter : Sample.localTime Sample.rotatedInPart.2 = some (some 4) :=
      congrArg (fun outcome => outcome.2.1) Sample.rotatedInPart_eq
    have hbefore : Sample.localTime Sample.added = some (some 2) :=
      congrArg (fun outcome => outcome.2.2) Sample.rotatedInPart_eq
    rintro (hsame | ⟨config, file, file', hopen, hopen', hsame⟩)
    · rw [hsame, hbefore] at hafter
      revert hafter
      decide
    · rw [Sample.localTime, hopen] at hbefore
      rw [Sample.localTime, hopen'] at hafter
      have hconfigs : file'.db.recoveryEscrowConfigs = file.db.recoveryEscrowConfigs :=
        hsame.configs
      simp only [Except.toOption, Option.map_some] at hbefore hafter
      rw [hconfigs, hbefore] at hafter
      revert hafter
      decide

/-- The account of the failure above. -/
theorem rotate_error_in_part :
  ∃ e v', Sample.rotatedInPart = (.error e, v')
    ∧ ((¬ (Call.rotateAll "secret").LeavesKey Recovery.Sample.sealing Sample.host Sample.calm 4
            Sample.added → Unchanged Recovery.Sample.sealing Sample.host Sample.added v')
      ∧ ((Call.rotateAll "secret").LeavesNewKey Recovery.Sample.sealing Sample.host Sample.calm 4
            Sample.added → ¬ Unchanged Recovery.Sample.sealing Sample.host Sample.added v'))
  := by
  have hcode := congrArg Prod.fst Sample.rotatedInPart_eq
  rcases hrun : Sample.rotatedInPart with ⟨e | rotations, v'⟩
  · exact ⟨e, v', rfl, rotate_error Sample.served_added (.inr rfl) hrun⟩
  · rw [hrun] at hcode
    cases hcode

end EscrowProviders

end KnowledgeCore
