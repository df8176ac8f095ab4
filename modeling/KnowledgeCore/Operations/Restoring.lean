import KnowledgeCore.Operations.KeptKeys

/-!
# Restoring a key

A key that has been left with the local adapter can be put back into its bundle after any number of
later rotations, whatever has become of the key blob in the bundle. The bundle is then accepted
with the phrase that was returned for it.
-/

namespace KnowledgeCore

namespace EscrowProviders

open Export (RecoveryEscrowDescriptorV2 ESCROW_PROVIDER_PRIORITY)
open Ingest (openVault toAsciiLowercase)
open Operations hiding vaultRecoveryEscrowEnableService vaultRecoveryEscrowProviderAddService
  vaultRecoveryEscrowRotateAllService vaultRecoveryEscrowRotateService
  vaultRecoveryEscrowRestoreService rotateEach
open Operations.RecoveryEscrowProvider (blobName)
open Recovery (AeadCorrect keyBlobPath manifestPath readRecoveryManifest verifyRecoveryBundle)
open Relation (ReflTransGen)

/-! ### The local adapter -/

theorem slash_notMem_of_fits {vaultId : String}
    (h : VaultJsonV3.uuidV4Pattern.fits vaultId.toList = true) :
  vaultId ≠ "" ∧ '/' ∉ vaultId.toList
  := by
  have hpattern (p : Verifier.Pattern) (l : List Char) (hp : p.all (fun cls => !cls '/') = true)
      (hfits : p.fits l = true) : '/' ∉ l := by
    induction p generalizing l with
    | nil =>
      cases l with
      | nil => simp
      | cons c l => cases hfits
    | cons cls p ih =>
      cases l with
      | nil => simp
      | cons c l =>
        rw [Verifier.Pattern.fits_cons, Bool.and_eq_true] at hfits
        rw [List.all_cons, Bool.and_eq_true] at hp
        rw [List.mem_cons, not_or]
        constructor
        · rintro rfl
          simp [hfits.1] at hp
        · exact ih l hp.2 hfits.2
  constructor
  · rintro rfl
    cases h
  · exact hpattern _ _ (by decide) h

section Local

variable {ext : Externals} {host : Host} {vaultId providerId : String}
  {provider : RecoveryEscrowProvider}

theorem eq_local_of_resolve
    (h : resolveRecoveryEscrowProvider host vaultId providerId = .ok provider)
    (hlocal : provider.providerId = "local") :
  provider = localRecoveryEscrowProvider host
  := by
  rw [providerId_of_resolve h] at hlocal
  rw [resolveRecoveryEscrowProvider, hlocal] at h
  cases h
  rfl

/-- Where the local adapter writes a payload is where its descriptor says. -/
theorem join_providerRef (root : String) {c : Content}
    (hid : VaultJsonV3.uuidV4Pattern.fits vaultId.toList = true) :
  PathBuf.join root (vaultId ++ "/" ++ blobName (blake3HexPrefixed ext c))
    = payloadPath root vaultId (blake3HexPrefixed ext c)
  := by
  obtain ⟨hne, hslash⟩ := slash_notMem_of_fits hid
  have hlist : vaultId.toList ≠ [] := fun hnil => hne (String.toList_inj.mp hnil)
  have hrelative : vaultId.toList.head? ≠ some '/' := by
    intro hhead
    exact hslash (List.mem_of_head? hhead)
  have hname : (blobName (blake3HexPrefixed ext c)).toList.head? ≠ some '/' := by
    rw [toList_blobName, List.append_assoc, List.head?_append_of_ne_nil _ (by decide)]
    decide
  have hreference : (vaultId ++ "/" ++ blobName (blake3HexPrefixed ext c)).toList.head?
      ≠ some '/' := by
    rw [String.toList_append, String.toList_append, List.append_assoc,
      List.head?_append_of_ne_nil _ hlist]
    exact hrelative
  have hseparator : PathBuf.withSeparator (PathBuf.withSeparator root ++ vaultId)
      = PathBuf.withSeparator root ++ vaultId ++ "/" := by
    apply PathBuf.withSeparator_eq
    · intro hempty
      exact hne (String.append_eq_empty_iff.mp hempty).2
    · rw [String.toList_append, List.getLast?_append_of_ne_nil _ hlist]
      intro hlast
      exact hslash (List.mem_of_getLast? hlast)
  rw [payloadPath, PathBuf.join_of_relative hreference, PathBuf.join_of_relative hrelative,
    PathBuf.join_of_relative hname, hseparator]
  simp only [String.append_assoc]

end Local

/-! ### A key that has been left stays -/

section Staying

variable {ext : Externals} {host : Host} {trouble : EscrowTrouble} {moment : EscrowMoment}
  {provider : RecoveryEscrowProvider} {vaultId outputDir passphrase : String}
  {createdAtMs : Int64} {drawn : RecoveryDraw} {rotated : Rotated} {scope : Scope}
  {s t : EscrowState}

theorem LeftKey.touches
    (h : LeftKey ext moment provider vaultId outputDir passphrase createdAtMs drawn rotated
      s.files)
    (havoids : scope.Avoids createdAtMs)
    (hdistinguishes : Distinguishes ext trouble vaultId scope drawn.keyBlob)
    (htouches : ReflTransGen (Touch ext host trouble vaultId scope) s t) :
  LeftKey ext moment provider vaultId outputDir passphrase createdAtMs drawn rotated t.files
  := by
  obtain ⟨hnonempty, hdraw, hprovider, hdescriptor, hgenerated, hvalid, hread, root, hroot,
    hfile⟩ := h
  exact ⟨hnonempty, hdraw, hprovider, hdescriptor, hgenerated, hvalid,
    manifest_touches havoids hread htouches, root, hroot,
    payload_touches hdistinguishes hfile htouches⟩

end Staying

/-! ### Restoring -/

/-- Nothing goes wrong. -/
structure EscrowTrouble.Calm (trouble : EscrowTrouble) : Prop where
  writes : ∀ path, trouble.fails path = false
  executes : ∀ statement, trouble.refuses statement = none

section Restoring

variable {ext : Externals} {host : Host} {trouble : EscrowTrouble} {moment : EscrowMoment}
  {vaultId outputDir passphrase : String} {createdAtMs nowMs : Int64} {drawn : RecoveryDraw}
  {rotated : Rotated} {s t : EscrowState}

theorem Orderly.enabledConfig (horderly : Orderly s) (hconfigured : Configured s) :
  ∃ config, enabledConfig s.file.db = .ok config
  := by
  obtain ⟨config, hconfig⟩ := hconfigured.exists_config
  have hsound := horderly.rows _ _ (mem_of_readRecoveryEscrowConfig hconfig)
  use config
  rw [Operations.enabledConfig, hconfig, okOrElse_some, AppResult.ok_bind, if_neg]
  simp [hsound.enabled]

/-- What was left with the local adapter is read back from it. -/
theorem LeftKey.read
    (h : LeftKey ext moment (localRecoveryEscrowProvider host) vaultId outputDir passphrase
      createdAtMs drawn rotated s.files)
    (hid : VaultJsonV3.uuidV4Pattern.fits vaultId.toList = true) :
  (localRecoveryEscrowProvider host).read ext rotated.descriptor
      (blake3HexPrefixed ext (.raw drawn.keyBlob)) s.files
    = .ok drawn.keyBlob
  := by
  obtain ⟨root, hroot, hfile⟩ := h.payloadFile
  have hpath : PathBuf.join root rotated.descriptor.providerRef
      = payloadPath root vaultId (blake3HexPrefixed ext (.raw drawn.keyBlob)) := by
    rw [h.descriptor]
    exact join_providerRef root hid
  have hprovider : ¬ rotated.descriptor.provider
      ≠ (localRecoveryEscrowProvider host).providerId := by
    rw [h.descriptor]
    exact not_not_intro rfl
  rw [RecoveryEscrowProvider.read, h.valid, AppResult.ok_bind, if_neg hprovider, hroot,
    okOrElse_some, AppResult.ok_bind]
  dsimp only
  rw [hpath, hfile, okOrElse_some, AppResult.ok_bind, validatePayloadHash]
  simp [bind, Except.bind]

/-- Put back, a key blob is what was left, and nothing else has changed. -/
theorem restoreBundle_eq_ok (hcalm : trouble.Calm) (horderly : Orderly s)
    (hconfigured : Configured s)
    (h : LeftKey ext moment (localRecoveryEscrowProvider host) vaultId outputDir passphrase
      createdAtMs drawn rotated s.files)
    (hid : VaultJsonV3.uuidV4Pattern.fits vaultId.toList = true) :
  ∃ result t, restoreBundle ext host trouble vaultId rotated.generated.bundlePath nowMs s
      = (.ok result, t)
    ∧ t.files = s.files.insert (keyBlobPath rotated.generated.bundlePath) drawn.keyBlob
    ∧ t.file.key = s.file.key ∧ t.file.db.userVersion = s.file.db.userVersion
  := by
  obtain ⟨config, hconfig⟩ := horderly.enabledConfig hconfigured
  have hmanifest : readRecoveryManifest rotated.generated.bundlePath s.files
      = .ok rotated.generated.manifest := by
    rw [h.generated]
    have hread := h.manifestFile
    rw [h.generated] at hread
    exact hread
  have hescrow : rotated.generated.manifest.escrow = some rotated.descriptor := by
    rw [h.generated]
    rfl
  have hhash : rotated.generated.manifest.payloadHash
      = blake3HexPrefixed ext (.raw drawn.keyBlob) := by
    rw [h.generated]
    rfl
  have hresolve : resolveRecoveryEscrowProvider host vaultId rotated.descriptor.provider
      = .ok (localRecoveryEscrowProvider host) := by
    rw [h.descriptor]
    change resolveRecoveryEscrowProvider host vaultId "local" = _
    rw [resolveRecoveryEscrowProvider, normal_of_mem (by decide)]
    rfl
  have hwritten (error : String → AppError) : writeFile (trouble.moment ext vaultId "") error
      (keyBlobPath rotated.generated.bundlePath) drawn.keyBlob s.files
        = (.ok (), s.files.insert (keyBlobPath rotated.generated.bundlePath) drawn.keyBlob) := by
    rw [writeFile, EscrowTrouble.moment, if_neg]
    simp [hcalm.writes]
  have hbytes := h.read hid
  rw [← hhash] at hbytes
  let written : EscrowState :=
    { s with files := s.files.insert (keyBlobPath rotated.generated.bundlePath) drawn.keyBlob }
  let noted : EscrowState := (Statement.event config.1 "restore" nowMs
    (bundleDetails rotated.generated.bundlePath rotated.generated.manifest.payloadHash)).apply
      ext written
  have hnoted : Orderly noted := ⟨horderly.rows, horderly.providers⟩
  obtain ⟨status, hstatus⟩ : ∃ status, escrowStatus host vaultId noted = (.ok status, noted) :=
    hnoted.status
  use (status, drawn.keyBlob, rotated.generated.manifest), noted
  refine ⟨?_, rfl, rfl, rfl⟩
  simp only [restoreBundle, Fallible.bind_eq_ok, Fallible.reading_eq_ok, Fallible.ofExcept_eq_ok,
    Fallible.pure_eq_ok, onFiles_eq_ok, execute_eq_ok, okOrElse_eq_ok]
  exact ⟨config, s, ⟨hconfig, rfl⟩, _, s, ⟨hmanifest, rfl⟩, _, s, ⟨hescrow, rfl⟩, _, s,
    ⟨hresolve, rfl⟩, _, s, ⟨hbytes, rfl⟩, (), written, ⟨_, hwritten _, rfl⟩, (), noted,
    ⟨hcalm.executes _, rfl⟩, status, noted, hstatus, rfl, rfl⟩

end Restoring

/-! ### Vaults that keep a key -/

/-- The key blob of a bundle replaced by something else, or removed. -/
def EscrowVault.damage (v : EscrowVault) (bundlePath : String) (found : Option (List UInt8)) :
  EscrowVault
  :=
  { v with machine := { v.machine with
      files := v.machine.files.alter (keyBlobPath bundlePath) fun _ => found } }

/-- The bundles of other times. -/
def Scope.others (scope : Scope) (createdAtMs : Int64) : Scope :=
  { scope with bundles := fun passphrase nowMs =>
      scope.bundles passphrase nowMs ∧ nowMs ≠ createdAtMs }

/-- A call after a rotation. It makes no bundle of the time of the rotation, and it draws no other
key blob with the hash of the one that has been left. -/
inductive LaterCall (ext : Externals) (host : Host) (rotated : Rotated) (v : EscrowVault) :
    EscrowVault → Prop
  | call (trouble : EscrowTrouble) (nowMs : Int64) (call : Call)
      (havoids : ∀ config file, openVault ext host v.machine.vault = .ok (config, file) →
        (call.scope nowMs (v.state file)).Avoids rotated.generated.manifest.createdAtMs)
      (hdistinguishes : ∀ config file,
        openVault ext host v.machine.vault = .ok (config, file) →
        Distinguishes ext trouble config.vaultId (call.scope nowMs (v.state file))
          rotated.generated.keyBlob) :
    LaterCall ext host rotated v (call.run ext host trouble nowMs v).2

/-- A vault in which a key is where it has been left with the local adapter. -/
structure Keeps (ext : Externals) (host : Host) (rotated : Rotated) (v : EscrowVault) : Prop where
  orderly : OrderlyVault ext host v
  left : ∃ config file trouble outputDir passphrase drawn,
    openVault ext host v.machine.vault = .ok (config, file) ∧ Configured (v.state file)
    ∧ LeftKey ext (EscrowTrouble.moment ext trouble config.vaultId passphrase)
        (localRecoveryEscrowProvider host) config.vaultId outputDir passphrase
        rotated.generated.manifest.createdAtMs drawn rotated v.machine.files

/-- What is derived from the bytes that are drawn. -/
theorem drawRecovery_eq_ok {ext : Externals} {entropy : Except String (Vector UInt8 16)}
    {vaultId passphrase : String} {createdAtMs : Int64} {drawn : RecoveryDraw}
    (h : Recovery.drawRecovery ext entropy vaultId passphrase createdAtMs = .ok drawn) :
  Recovery.buildBlob ext vaultId createdAtMs passphrase drawn.recoveryPhrase = .ok drawn.keyBlob
    ∧ Recovery.phraseChecksum ext vaultId drawn.recoveryPhrase = drawn.phraseChecksum
  := by
  simp only [Recovery.drawRecovery, AppResult.bind_eq_ok] at h
  obtain ⟨phrase, -, blob, hblob, h⟩ := h
  cases h
  exact ⟨hblob, rfl⟩

section Keeping

variable {ext : Externals} {host : Host} {rotated : Rotated} {v w : EscrowVault}

theorem LeftKey.createdAtMs_eq {moment : EscrowMoment} {provider : RecoveryEscrowProvider}
    {vaultId outputDir passphrase : String} {nowMs : Int64} {drawn : RecoveryDraw} {files : Files}
    (h : LeftKey ext moment provider vaultId outputDir passphrase nowMs drawn rotated files) :
  rotated.generated.manifest.createdAtMs = nowMs
  := by
  rw [h.generated]
  rfl

theorem LeftKey.keyBlob_eq {moment : EscrowMoment} {provider : RecoveryEscrowProvider}
    {vaultId outputDir passphrase : String} {nowMs : Int64} {drawn : RecoveryDraw} {files : Files}
    (h : LeftKey ext moment provider vaultId outputDir passphrase nowMs drawn rotated files) :
  rotated.generated.keyBlob = drawn.keyBlob
  := by
  rw [h.generated]
  rfl

/-- A call that rotates a key of the local adapter leaves it there. -/
theorem keeps_of_rotated {trouble : EscrowTrouble} {nowMs : Int64} {call : Call}
    {rotations : List Rotated} (horderly : OrderlyVault ext host v)
    (h : call.run ext host trouble nowMs v = (.ok rotations, w)) (hmem : rotated ∈ rotations)
    (hlocal : rotated.provider = "local")
    (hdistinguishes : ∀ config file, openVault ext host v.machine.vault = .ok (config, file) →
      Distinguishes ext trouble config.vaultId
        ((call.scope nowMs (v.state file)).others rotated.generated.manifest.createdAtMs)
        rotated.generated.keyBlob) :
  Keeps ext host rotated w
  := by
  have hrun : (call.run ext host trouble nowMs v).2 = w := congrArg Prod.snd h
  have hafter := horderly.run trouble nowMs call
  rw [hrun] at hafter
  obtain ⟨config, file, s, hopen, rfl, hwithin, hrotated⟩ := Call.hasRotated horderly h hmem
  obtain ⟨providerId, provider, passphrase, outputDir, createdAtMs, drawn, u, scope, hresolve,
    -, hleft, havoids, hscope, htouches⟩ := hrotated.left
  obtain rfl := eq_local_of_resolve hresolve (hleft.providerId.symm.trans hlocal)
  obtain rfl := hleft.createdAtMs_eq
  have hothers : Distinguishes ext trouble config.vaultId scope drawn.keyBlob := by
    intro passphrase' nowMs' drawn' hbundle
    rw [← hleft.keyBlob_eq]
    apply hdistinguishes config file hopen
    exact ⟨hscope _ _ hbundle, havoids _ _ hbundle⟩
  obtain ⟨hkey, hversion⟩ := file_touches hwithin
  use hafter, config, s.file, trouble, outputDir, passphrase, drawn
  exact ⟨openVault_leave hopen hkey hversion, hrotated.configured,
    hleft.touches havoids hothers htouches⟩

/-- A later call leaves the key where it is. -/
theorem Keeps.laterCall (h : Keeps ext host rotated v) (hcall : LaterCall ext host rotated v w) :
  Keeps ext host rotated w
  := by
  obtain ⟨trouble, nowMs, call, havoids, hdistinguishes⟩ := hcall
  obtain ⟨config, file, trouble', outputDir, passphrase, drawn, hopen, hconfigured, hleft⟩ :=
    h.left
  use h.orderly.run trouble nowMs call
  obtain hsame | ⟨config', file', s, hopen', htouches, hleave⟩ :=
    call.run_cases h.orderly trouble nowMs
  · rw [hsame]
    exact h.left
  · rw [hopen] at hopen'
    cases hopen'
    obtain ⟨hkey, hversion⟩ := file_touches htouches
    have hblob := hdistinguishes config file hopen
    rw [hleft.keyBlob_eq] at hblob
    rw [hleave]
    exact ⟨config, s.file, trouble', outputDir, passphrase, drawn,
      openVault_leave hopen hkey hversion, hconfigured.touches htouches,
      LeftKey.touches (s := v.state file) hleft (havoids config file hopen) hblob htouches⟩

theorem Keeps.later (h : Keeps ext host rotated v)
    (hlater : ReflTransGen (LaterCall ext host rotated) v w) :
  Keeps ext host rotated w
  := by
  induction hlater with
  | refl => exact h
  | tail _ hcall ih => exact ih.laterCall hcall

/-- Whatever becomes of a key blob, what has been left is not it. -/
theorem Keeps.damage (h : Keeps ext host rotated v) (bundlePath : String)
    (found : Option (List UInt8)) :
  Keeps ext host rotated (v.damage bundlePath found)
  := by
  obtain ⟨config, file, trouble, outputDir, passphrase, drawn, hopen, hconfigured, hleft⟩ :=
    h.left
  have hother {path : String} {bytes : List UInt8} (hpath : path ≠ keyBlobPath bundlePath)
      (hbytes : v.machine.files[path]? = some bytes) :
      (v.damage bundlePath found).machine.files[path]? = some bytes := by
    change (v.machine.files.alter (keyBlobPath bundlePath) fun _ => found)[path]? = some bytes
    rw [Std.ExtTreeMap.getElem?_alter, if_neg]
    · exact hbytes
    · rw [Std.LawfulEqCmp.compare_eq_iff_eq]
      exact hpath.symm
  constructor
  · intro config' file' hopen'
    obtain ⟨hid, horderly⟩ := h.orderly config' file' hopen'
    exact ⟨hid, horderly.rows, horderly.providers⟩
  · refine ⟨config, file, trouble, outputDir, passphrase, drawn, hopen, hconfigured, ?_⟩
    apply hleft.congr
    · exact fun bytes => hother (manifestPath_ne_keyBlobPath _ _)
    · exact fun root bytes => hother (payloadPath_ne_keyBlobPath _ _ _)

/-- A key that has been restored is accepted with the phrase it was sealed under. -/
theorem Keeps.restore (haead : AeadCorrect ext) (h : Keeps ext host rotated v)
    {calm : EscrowTrouble} (hcalm : calm.Calm) (nowMs : Int64) :
  ∃ result w, vaultRecoveryEscrowRestoreService ext host calm rotated.generated.bundlePath nowMs v
      = (.ok result, w)
    ∧ ∃ config file, openVault ext host w.machine.vault = .ok (config, file)
      ∧ verifyRecoveryBundle ext config.vaultId rotated.generated.bundlePath
          rotated.generated.recoveryPhrase w.machine.files
        = .ok rotated.generated.manifest
  := by
  obtain ⟨config, file, trouble, outputDir, passphrase, drawn, hopen, hconfigured, hleft⟩ :=
    h.left
  obtain ⟨hid, horderly⟩ := h.orderly config file hopen
  obtain ⟨result, t, hrestore, hfiles, hkey, hversion⟩ : ∃ result t, restoreBundle ext host calm
      config.vaultId rotated.generated.bundlePath nowMs (v.state file) = (.ok result, t)
      ∧ t.files = v.machine.files.insert (keyBlobPath rotated.generated.bundlePath) drawn.keyBlob
      ∧ t.file.key = file.key ∧ t.file.db.userVersion = file.db.userVersion :=
    restoreBundle_eq_ok hcalm horderly hconfigured hleft hid
  refine ⟨result, v.leave config t, ?_, config, t.file, openVault_leave hopen hkey hversion, ?_⟩
  · rw [vaultRecoveryEscrowRestoreService, inVault_of_openVault hopen, hrestore]
  · change verifyRecoveryBundle ext config.vaultId rotated.generated.bundlePath
      rotated.generated.recoveryPhrase t.files = _
    obtain ⟨hblob, hchecksum⟩ := drawRecovery_eq_ok hleft.draw
    have hmanifest : readRecoveryManifest rotated.generated.bundlePath t.files
        = .ok rotated.generated.manifest := by
      have hpath : rotated.generated.bundlePath
          = bundlePathOf outputDir config.vaultId rotated.generated.manifest.createdAtMs := by
        rw [hleft.generated]
        rfl
      rw [hpath, hfiles]
      apply readRecoveryManifest_congr _ hleft.manifestFile
      intro bytes hbytes
      rw [Std.ExtTreeMap.getElem?_insert, if_neg]
      · exact hbytes
      · rw [Std.LawfulEqCmp.compare_eq_iff_eq]
        exact (manifestPath_ne_keyBlobPath _ _).symm
    have hrestored : t.files[keyBlobPath rotated.generated.bundlePath]? = some drawn.keyBlob := by
      rw [hfiles, Std.ExtTreeMap.getElem?_insert_self]
    have hphrase : rotated.generated.recoveryPhrase = drawn.recoveryPhrase := by
      rw [hleft.generated]
      rfl
    have hopened := Recovery.decryptRecoveryBlob_buildBlob haead hleft.nonempty hblob
      (congrArg Recovery.normalizePhrase hphrase) (keyBlobPath rotated.generated.bundlePath)
    rw [verifyRecoveryBundle, hmanifest, AppResult.ok_bind, hrestored, okOrElse_some]
    apply (Recovery.checkBundle_eq_ok _).mpr
    refine ⟨rfl, ?_, ?_, ?_, _, hopened⟩
    · rw [hleft.generated]
      rfl
    · rw [hleft.generated]
      rfl
    · rw [hphrase, hchecksum, hleft.generated]
      rfl

end Keeping

/-- After any number of later calls, a key blob that has been damaged is restored from the local
adapter, and the bundle is accepted with the phrase that was returned for it. -/
theorem restore_damaged {ext : Externals} {host : Host} (haead : AeadCorrect ext)
    {v v₁ w : EscrowVault} (hserved : Served ext host v) {trouble : EscrowTrouble}
    {nowMs : Int64} {call : Call} {rotations : List Rotated} {rotated : Rotated}
    (h : call.run ext host trouble nowMs v = (.ok rotations, v₁)) (hmem : rotated ∈ rotations)
    (hlocal : rotated.provider = "local")
    (hdistinguishes : ∀ config file, openVault ext host v.machine.vault = .ok (config, file) →
      Distinguishes ext trouble config.vaultId
        ((call.scope nowMs (v.state file)).others rotated.generated.manifest.createdAtMs)
        rotated.generated.keyBlob)
    (hlater : ReflTransGen (LaterCall ext host rotated) v₁ w) (found : Option (List UInt8))
    {calm : EscrowTrouble} (hcalm : calm.Calm) (restoredAtMs : Int64) :
  ∃ result w', vaultRecoveryEscrowRestoreService ext host calm rotated.generated.bundlePath
        restoredAtMs (w.damage rotated.generated.bundlePath found) = (.ok result, w')
    ∧ ∃ config file, openVault ext host w'.machine.vault = .ok (config, file)
      ∧ verifyRecoveryBundle ext config.vaultId rotated.generated.bundlePath
          rotated.generated.recoveryPhrase w'.machine.files
        = .ok rotated.generated.manifest
  := by
  have hkeeps := keeps_of_rotated hserved.orderly h hmem hlocal hdistinguishes
  exact ((hkeeps.later hlater).damage _ found).restore haead hcalm restoredAtMs

namespace Sample

/-- A vault in which escrow has not been used. -/
def unused : EscrowVault where
  machine := {
    vault := vaultInit "00000000-0000-4000-8000-000000000000" "a" 0 (Dir.ofFiles [])
    files := ∅ }
  providers := seededProviders
  events := []

/-- Surroundings in which nothing goes wrong, and all bytes are zero. -/
def calm : EscrowTrouble where
  entropy _ := .ok (Vector.replicate 16 0)
  fails _ := false
  refuses _ := none

theorem calm_calm : calm.Calm := ⟨fun _ => rfl, fun _ => rfl⟩

theorem served_unused :
  Served Recovery.Sample.sealing Sample.host unused
  := by
  apply Served.unused _ rfl
  intro config file hopen
  have hfound : ((openVault Recovery.Sample.sealing Sample.host
      unused.machine.vault).toOption.map fun found =>
        (VaultJsonV3.uuidV4Pattern.fits found.1.vaultId.toList,
          found.2.db.recoveryEscrowConfigs.isEmpty)) = some (true, true) := by
    decide +kernel
  rw [hopen] at hfound
  simp only [Except.toOption, Option.map_some, Option.some.injEq, Prod.mk.injEq] at hfound
  exact ⟨hfound.1, Std.ExtTreeMap.isEmpty_iff.mp hfound.2⟩

/-- The local adapter is enabled. -/
def enabled : EscrowVault :=
  ((Call.enable "local").run Recovery.Sample.sealing Sample.host calm 1 unused).2

/-- Its key is rotated. -/
def firstRotation : AppResult (List Rotated) × EscrowVault :=
  (Call.rotate "secret").run Recovery.Sample.sealing Sample.host calm 2 enabled

/-- Its key is rotated again. -/
def secondRotation : AppResult (List Rotated) × EscrowVault :=
  (Call.rotate "a longer secret").run Recovery.Sample.sealing Sample.host calm 3 firstRotation.2

/-- The first rotation is of the local adapter, and the key blobs of the two have different
hashes. -/
theorem firstRotation_facts :
  (firstRotation.1.toOption.map fun rotations => rotations.map fun rotated =>
        (rotated.provider, rotated.generated.manifest.createdAtMs))
      = some [("local", 2)]
    ∧ ((openVault Recovery.Sample.sealing Sample.host
          firstRotation.2.machine.vault).toOption.map fun found => found.1.vaultId)
      = some "00000000-0000-4000-8000-000000000000"
    ∧ ((calm.moment Recovery.Sample.sealing "00000000-0000-4000-8000-000000000000"
          "a longer secret").draw 3).toOption.map
        (fun drawn => Recovery.Sample.sealing.blake3 (.raw drawn.keyBlob))
      ≠ (firstRotation.1.toOption.bind List.head?).map
        fun rotated => Recovery.Sample.sealing.blake3 (.raw rotated.generated.keyBlob)
  := by
  decide +kernel

end Sample

/-- A key blob that has been removed after a second rotation is restored. -/
theorem restore_removed :
  ∃ rotated, Sample.firstRotation.1 = .ok [rotated]
    ∧ ∃ result w, vaultRecoveryEscrowRestoreService Recovery.Sample.sealing Sample.host Sample.calm
          rotated.generated.bundlePath 4
          (Sample.secondRotation.2.damage rotated.generated.bundlePath none)
        = (.ok result, w)
      ∧ ∃ config file,
          openVault Recovery.Sample.sealing Sample.host w.machine.vault = .ok (config, file)
        ∧ verifyRecoveryBundle Recovery.Sample.sealing config.vaultId rotated.generated.bundlePath
            rotated.generated.recoveryPhrase w.machine.files
          = .ok rotated.generated.manifest
  := by
  obtain ⟨hcreated, hopened, hne⟩ := Sample.firstRotation_facts
  rcases hrotate : Sample.firstRotation with ⟨_ | rotations, v⟩
  · rw [hrotate] at hcreated
    cases hcreated
  rw [hrotate] at hcreated hne
  obtain ⟨rotated, rfl, hlocal, hat⟩ : ∃ rotated, rotations = [rotated]
      ∧ rotated.provider = "local" ∧ rotated.generated.manifest.createdAtMs = 2 := by
    simp only [Except.toOption, Option.map_some, Option.some.injEq] at hcreated
    obtain ⟨rotated, rfl⟩ : ∃ rotated, rotations = [rotated] := by
      apply List.length_eq_one_iff.mp
      simpa using congrArg List.length hcreated
    simp only [List.map_cons, List.map_nil, List.cons.injEq, Prod.mk.injEq, and_true] at hcreated
    exact ⟨rotated, rfl, hcreated.1, hcreated.2⟩
  use rotated, rfl
  apply restore_damaged Recovery.Sample.sealing_correct (.call Sample.served_unused Sample.calm 1 _) hrotate
    List.mem_cons_self hlocal _ _ none Sample.calm_calm 4
  · rintro config file - passphrase nowMs drawn ⟨⟨-, rfl⟩, hother⟩
    exact absurd hat.symm hother
  · apply ReflTransGen.single
    have hsecond : LaterCall Recovery.Sample.sealing Sample.host rotated v
        ((Call.rotate "a longer secret").run Recovery.Sample.sealing Sample.host Sample.calm 3
          v).2 := by
      apply LaterCall.call
      · rintro config file - passphrase nowMs ⟨-, rfl⟩
        rw [hat]
        decide
      · rintro config file hopen passphrase nowMs drawn ⟨rfl, rfl⟩ hdraw hhash
        rw [hrotate, hopen] at hopened
        have hid : config.vaultId = _ := Option.some.inj hopened
        rw [hid] at hdraw
        rw [hdraw] at hne
        exact absurd (congrArg some hhash) hne
    rw [Sample.secondRotation, hrotate]
    exact hsecond

end EscrowProviders

end KnowledgeCore
