import KnowledgeCore.Lib.Written
import KnowledgeCore.Operations.Providers

/-!
# What a rotation leaves

A rotation writes a key blob and a manifest into a bundle, leaves the key blob with an adapter
under its hash, and notes where the bundle is. No two of these paths are the same, and the paths
of two bundles are not, unless the bundles are of the same time.
-/

namespace KnowledgeCore

namespace EscrowProviders

open CanonJson (append_separator_inj_last notMem_toString)
open Export (RecoveryEscrowDescriptorV2)
open Operations hiding vaultRecoveryEscrowEnableService vaultRecoveryEscrowProviderAddService
  vaultRecoveryEscrowRotateAllService vaultRecoveryEscrowRotateService
  vaultRecoveryEscrowRestoreService rotateEach
open Operations.RecoveryEscrowProvider (blobName)
open Recovery (keyBlobPath manifestPath readRecoveryManifest)

/-! ### Paths -/

def bundlePathOf (outputDir vaultId : String) (createdAtMs : Int64) : String :=
  PathBuf.join outputDir ("recovery_" ++ vaultId ++ "_" ++ toString createdAtMs.toInt)

def payloadPath (root vaultId payloadHash : String) : String :=
  PathBuf.join (PathBuf.join root vaultId) (blobName payloadHash)

/-- Where it is noted where the last bundle is. -/
def statePath (host : Host) : String :=
  PathBuf.join host.vaultPath ".kc_recovery_last_path"

/-- Equal texts are equal from their ends on. -/
theorem getElem?_reverse_of_append {a b pre pre' : String} (h : pre ++ a = pre' ++ b) {k : Nat}
    (ha : k < a.toList.length) (hb : k < b.toList.length) :
  a.toList.reverse[k]? = b.toList.reverse[k]?
  := by
  have hreverse := congrArg (fun s => s.toList.reverse[k]?) h
  simp only [String.toList_append, List.reverse_append] at hreverse
  rwa [List.getElem?_append_left (by rwa [List.length_reverse]),
    List.getElem?_append_left (by rwa [List.length_reverse])] at hreverse

/-- Paths that end with different characters are different. -/
theorem join_ne_of_getElem? {base base' a b : String} (k : Nat) (ha : k < a.toList.length)
    (hb : k < b.toList.length) (hne : a.toList.reverse[k]? ≠ b.toList.reverse[k]?) :
  PathBuf.join base a ≠ PathBuf.join base' b
  := by
  obtain ⟨pre, hpre⟩ := PathBuf.exists_join base a
  obtain ⟨pre', hpre'⟩ := PathBuf.exists_join base' b
  rw [hpre, hpre']
  intro h
  exact hne (getElem?_reverse_of_append h ha hb)

theorem toList_blobName (ext : Externals) (c : Content) :
  (blobName (blake3HexPrefixed ext c)).toList
    = "blake3_".toList ++ (Hex.bytesToHex (ext.blake3 c).toList).toList ++ ".enc".toList
  := by
  have hplain : ∀ d ∈ (Hex.bytesToHex (ext.blake3 c).toList).toList,
      (if d = ':' then '_' else d) = d := by
    intro d hd
    have hhex := List.all_eq_true.mp (Hex.all_isLowerHex_bytesToHex (ext.blake3 c).toList) d hd
    rw [if_neg]
    rintro rfl
    revert hhex
    decide
  rw [blobName, String.toList_append, String.toList_map, blake3HexPrefixed, String.toList_append,
    List.map_append, List.map_congr_left hplain, List.map_id']
  rfl

theorem length_bytesToHex (bytes : List UInt8) :
  (Hex.bytesToHex bytes).toList.length = bytes.length * 2
  := by
  rw [Hex.bytesToHex, String.toList_ofList, Hex.length_digits]

theorem length_blobName (ext : Externals) (c : Content) :
  (blobName (blake3HexPrefixed ext c)).toList.length = 75
  := by
  rw [toList_blobName, List.length_append, List.length_append, length_bytesToHex,
    Vector.length_toList]
  rfl

/-- The names of payloads end with `.enc`. -/
theorem getElem?_blobName_zero (ext : Externals) (c : Content) :
  (blobName (blake3HexPrefixed ext c)).toList.reverse[0]? = some 'c'
  := by
  rw [toList_blobName, List.reverse_append]
  rfl

/-- Before that stand digits. -/
theorem exists_getElem?_blobName_five (ext : Externals) (c : Content) :
  ∃ d, (blobName (blake3HexPrefixed ext c)).toList.reverse[5]? = some d ∧ Hex.isLowerHex d = true
  := by
  have hlength := length_bytesToHex (ext.blake3 c).toList
  rw [Vector.length_toList] at hlength
  have hlt : 1 < (Hex.bytesToHex (ext.blake3 c).toList).toList.reverse.length := by
    rw [List.length_reverse, hlength]
    decide
  use (Hex.bytesToHex (ext.blake3 c).toList).toList.reverse[1]
  constructor
  · rw [toList_blobName, List.reverse_append, List.reverse_append]
    change ((Hex.bytesToHex (ext.blake3 c).toList).toList.reverse ++ _)[1]? = _
    rw [List.getElem?_append_left hlt, List.getElem?_eq_getElem hlt]
  · apply List.all_eq_true.mp (Hex.all_isLowerHex_bytesToHex (ext.blake3 c).toList)
    apply List.mem_reverse.mp
    apply List.getElem_mem

section Paths

variable {ext : Externals} {host : Host} {base base' : String} {c c' : Content}

theorem payloadPath_ne_manifestPath (root vaultId bundlePath : String) :
  payloadPath root vaultId (blake3HexPrefixed ext c) ≠ manifestPath bundlePath
  := by
  apply join_ne_of_getElem? 0
  · rw [length_blobName]
    decide
  · decide
  · rw [getElem?_blobName_zero]
    decide

theorem payloadPath_ne_statePath (root vaultId : String) :
  payloadPath root vaultId (blake3HexPrefixed ext c) ≠ statePath host
  := by
  apply join_ne_of_getElem? 0
  · rw [length_blobName]
    decide
  · decide
  · rw [getElem?_blobName_zero]
    decide

theorem payloadPath_ne_keyBlobPath (root vaultId bundlePath : String) :
  payloadPath root vaultId (blake3HexPrefixed ext c) ≠ keyBlobPath bundlePath
  := by
  apply join_ne_of_getElem? 5
  · rw [length_blobName]
    decide
  · decide
  · obtain ⟨d, hd, hhex⟩ := exists_getElem?_blobName_five ext c
    rw [hd]
    intro h
    have ho : d = 'o' := Option.some.inj h
    rw [ho] at hhex
    revert hhex
    decide

theorem manifestPath_ne_statePath (bundlePath : String) :
  manifestPath bundlePath ≠ statePath host
  := join_ne_of_getElem? 0 (by decide) (by decide) (by decide)

theorem manifestPath_ne_keyBlobPath (bundlePath bundlePath' : String) :
  manifestPath bundlePath ≠ keyBlobPath bundlePath'
  := join_ne_of_getElem? 0 (by decide) (by decide) (by decide)

theorem keyBlobPath_ne_statePath (bundlePath : String) :
  keyBlobPath bundlePath ≠ statePath host
  := join_ne_of_getElem? 0 (by decide) (by decide) (by decide)

/-- Payloads under one path have the same hash. -/
theorem blake3_eq_of_payloadPath {root root' vaultId vaultId' : String}
    (h : payloadPath root vaultId (blake3HexPrefixed ext c)
      = payloadPath root' vaultId' (blake3HexPrefixed ext c')) :
  ext.blake3 c = ext.blake3 c'
  := by
  obtain ⟨pre, hpre⟩ :=
    PathBuf.exists_join (PathBuf.join root vaultId) (blobName (blake3HexPrefixed ext c))
  obtain ⟨pre', hpre'⟩ :=
    PathBuf.exists_join (PathBuf.join root' vaultId') (blobName (blake3HexPrefixed ext c'))
  rw [payloadPath, payloadPath, hpre, hpre'] at h
  have htoList := congrArg String.toList h
  rw [String.toList_append, String.toList_append] at htoList
  have hname := (List.append_inj' htoList (by rw [length_blobName, length_blobName])).2
  rw [toList_blobName, toList_blobName, List.append_cancel_right_eq,
    List.append_cancel_left_eq] at hname
  apply Vector.toList_inj.mp
  apply Hex.bytesToHex_injective
  exact String.toList_inj.mp hname

/-! ### Bundles of one time -/

theorem toString_ne_empty (n : Int) :
  toString n ≠ ""
  := by
  intro h
  have hzero : (toString n).toList = [] := by
    rw [h]
    rfl
  cases n with
  | ofNat k =>
    change k.repr.toList = [] at hzero
    rw [Nat.toList_repr] at hzero
    exact Nat.toDigits_ne_nil hzero
  | negSucc k =>
    change ("-" ++ (k + 1).repr).toList = [] at hzero
    rw [String.toList_append] at hzero
    cases hzero

/-- The path of a bundle ends with its time. -/
theorem exists_bundlePathOf (outputDir vaultId : String) (createdAtMs : Int64) :
  ∃ pre, bundlePathOf outputDir vaultId createdAtMs
    = pre ++ "_" ++ toString createdAtMs.toInt
  := by
  obtain ⟨pre, hpre⟩ := PathBuf.exists_join outputDir
    ("recovery_" ++ vaultId ++ "_" ++ toString createdAtMs.toInt)
  use pre ++ ("recovery_" ++ vaultId)
  rw [bundlePathOf, hpre]
  simp only [String.append_assoc]

/-- Bundles with the same manifest are of the same time. -/
theorem createdAtMs_eq_of_manifestPath {outputDir outputDir' vaultId vaultId' : String}
    {createdAtMs createdAtMs' : Int64}
    (h : manifestPath (bundlePathOf outputDir vaultId createdAtMs)
      = manifestPath (bundlePathOf outputDir' vaultId' createdAtMs')) :
  createdAtMs = createdAtMs'
  := by
  have hseparator (outputDir vaultId : String) (createdAtMs : Int64) :
      PathBuf.withSeparator (bundlePathOf outputDir vaultId createdAtMs)
        = bundlePathOf outputDir vaultId createdAtMs ++ "/" := by
    obtain ⟨pre, hpre⟩ := exists_bundlePathOf outputDir vaultId createdAtMs
    have hne : (toString createdAtMs.toInt).toList ≠ [] := by
      intro hnil
      exact toString_ne_empty _ (String.toList_inj.mp hnil)
    apply PathBuf.withSeparator_eq
    · rw [hpre]
      intro hempty
      exact toString_ne_empty _ (String.append_eq_empty_iff.mp hempty).2
    · rw [hpre, String.toList_append, List.getLast?_append_of_ne_nil _ hne]
      intro hslash
      exact notMem_toString (by decide) (by decide) _ (List.mem_of_getLast? hslash)
  obtain ⟨pre, hpre⟩ := exists_bundlePathOf outputDir vaultId createdAtMs
  obtain ⟨pre', hpre'⟩ := exists_bundlePathOf outputDir' vaultId' createdAtMs'
  rw [manifestPath, manifestPath, PathBuf.join_of_relative (by decide),
    PathBuf.join_of_relative (by decide), hseparator, hseparator] at h
  have hbundle := Recovery.append_right_cancel (Recovery.append_right_cancel h)
  rw [hpre, hpre'] at hbundle
  have htoList := congrArg String.toList hbundle
  simp only [String.toList_append, List.append_assoc] at htoList
  have htime := ((append_separator_inj_last
    (notMem_toString (by decide) (by decide) createdAtMs.toInt)
    (notMem_toString (by decide) (by decide) createdAtMs'.toInt)).mp htoList).2
  apply Int64.toInt_inj.mp
  exact Int.repr_injective (String.toList_inj.mp htime)

end Paths

/-! ### Files -/

section Files

variable {ext : Externals} {moment : EscrowMoment} {provider : RecoveryEscrowProvider}
  {vaultId outputDir passphrase path : String} {nowMs : Int64} {bytes : List UInt8}
  {files after : Files}

theorem written_writeFile {error : String → AppError} {path : String} {bytes : List UInt8} :
  Written (fun path' bytes' => path' = path ∧ bytes' = bytes) files
    (writeFile moment error path bytes files).2
  := by
  rw [writeFile]
  split
  · exact .refl
  · exact .single ⟨rfl, rfl⟩

theorem written_writeRecoveryManifest {bundlePath : String} {manifest : RecoveryManifestV2} :
  Written (fun path _ => path = manifestPath bundlePath) files
    (writeRecoveryManifest moment bundlePath manifest files).2
  := by
  rw [writeRecoveryManifest]
  split
  · exact .refl
  · exact written_writeFile.mono fun _ _ h => h.1

/-- The files of a bundle. -/
def OfBundle (bundlePath path : String) : Prop :=
  path = keyBlobPath bundlePath ∨ path = manifestPath bundlePath

/-- Making a bundle writes its files only. -/
theorem written_generateRecoveryBundle :
  Written (fun path _ => OfBundle (bundlePathOf outputDir vaultId nowMs) path) files
    (generateRecoveryBundle ext moment vaultId outputDir passphrase nowMs files).2
  := by
  rw [generateRecoveryBundle]
  split
  · exact .refl
  · split
    · exact .refl
    · next drawn hdrawn =>
      have hblob {error : String → AppError} : Written
          (fun path _ => OfBundle (bundlePathOf outputDir vaultId nowMs) path) files
          (writeFile moment error (keyBlobPath (bundlePathOf outputDir vaultId nowMs))
            drawn.keyBlob files).2 :=
        written_writeFile.mono fun _ _ h => .inl h.1
      dsimp only
      split
      · next hwrite =>
        rw [← congrArg Prod.snd hwrite]
        exact hblob
      · next written hwrite =>
        have hafter : (writeFile moment _ _ drawn.keyBlob files).2 = written :=
          congrArg Prod.snd hwrite
        rw [← hafter]
        split
        · next hwriteManifest =>
          rw [← congrArg Prod.snd hwriteManifest]
          exact hblob.trans (written_writeRecoveryManifest.mono fun _ _ h => .inr h)
        · next hwriteManifest =>
          rw [← congrArg Prod.snd hwriteManifest]
          exact hblob.trans (written_writeRecoveryManifest.mono fun _ _ h => .inr h)

theorem written_write {payloadHash : String} {keyBlob : List UInt8} :
  Written (fun path bytes => ∃ root, provider.root = some root
      ∧ path = payloadPath root vaultId payloadHash ∧ bytes = keyBlob) files
    (provider.write moment vaultId payloadHash keyBlob nowMs files).2
  := by
  rw [RecoveryEscrowProvider.write]
  split
  · exact .refl
  · next root hroot =>
    dsimp only
    split
    · next hwrite =>
      rw [← congrArg Prod.snd hwrite]
      exact written_writeFile.mono fun _ _ h => ⟨root, hroot, h⟩
    · next hwrite =>
      rw [← congrArg Prod.snd hwrite]
      exact written_writeFile.mono fun _ _ h => ⟨root, hroot, h⟩

end Files

/-! ### Rotations -/

/-- The bundle that is made from what has been drawn. -/
def generatedOf (ext : Externals) (vaultId outputDir : String) (createdAtMs : Int64)
    (drawn : RecoveryDraw) (escrow : Option RecoveryEscrowDescriptorV2) :
  RecoveryBundleGenerateResult
  where
  bundlePath := bundlePathOf outputDir vaultId createdAtMs
  manifest := {
    schemaVersion := 2
    vaultId
    createdAtMs
    phraseChecksum := drawn.phraseChecksum
    payloadHash := blake3HexPrefixed ext (.raw drawn.keyBlob)
    escrow }
  recoveryPhrase := drawn.recoveryPhrase
  keyBlob := drawn.keyBlob

/-- The descriptor of a payload that has been left with an adapter. -/
def descriptorOf (provider : RecoveryEscrowProvider) (vaultId payloadHash : String)
    (wrappedAtMs : Int64) : RecoveryEscrowDescriptorV2
  where
  provider := provider.providerId
  providerRef := vaultId ++ "/" ++ blobName payloadHash
  keyId := provider.keyId payloadHash
  wrappedAtMs := wrappedAtMs

/-- What a rotation returns and leaves, for what has been drawn. -/
structure LeftKey (ext : Externals) (moment : EscrowMoment) (provider : RecoveryEscrowProvider)
    (vaultId outputDir passphrase : String) (nowMs : Int64) (drawn : RecoveryDraw)
    (rotated : Rotated) (files : Files) : Prop where
  nonempty : passphrase ≠ ""
  draw : moment.draw nowMs = .ok drawn
  providerId : rotated.provider = provider.providerId
  descriptor : rotated.descriptor
    = descriptorOf provider vaultId (blake3HexPrefixed ext (.raw drawn.keyBlob)) nowMs
  generated : rotated.generated
    = generatedOf ext vaultId outputDir nowMs drawn (some rotated.descriptor)
  valid : validateEscrowDescriptor rotated.descriptor = .ok ()
  manifestFile : readRecoveryManifest (bundlePathOf outputDir vaultId nowMs) files
    = .ok rotated.generated.manifest
  payloadFile : ∃ root, provider.root = some root
    ∧ files[payloadPath root vaultId (blake3HexPrefixed ext (.raw drawn.keyBlob))]?
      = some drawn.keyBlob

section Rotations

variable {ext : Externals} {moment : EscrowMoment} {provider : RecoveryEscrowProvider}
  {vaultId outputDir passphrase path : String} {nowMs : Int64} {bytes : List UInt8}
  {files after : Files}

theorem generateRecoveryBundle_eq_ok {generated : RecoveryBundleGenerateResult}
    (h : generateRecoveryBundle ext moment vaultId outputDir passphrase nowMs files
      = (.ok generated, after)) :
  passphrase ≠ "" ∧ ∃ drawn, moment.draw nowMs = .ok drawn
    ∧ generated = generatedOf ext vaultId outputDir nowMs drawn none
  := by
  rw [generateRecoveryBundle] at h
  split at h
  case isTrue => cases h
  next hpassphrase =>
  split at h
  next => cases h
  next drawn hdraw =>
  dsimp only at h
  split at h
  next => cases h
  split at h
  next => cases h
  cases h
  use hpassphrase, drawn, hdraw
  rfl

theorem write_eq_ok {payloadHash : String} {keyBlob : List UInt8}
    {descriptor : RecoveryEscrowDescriptorV2}
    (h : provider.write moment vaultId payloadHash keyBlob nowMs files
      = (.ok descriptor, after)) :
  descriptor = descriptorOf provider vaultId payloadHash nowMs
    ∧ validateEscrowDescriptor descriptor = .ok ()
    ∧ ∃ root, provider.root = some root
      ∧ after[payloadPath root vaultId payloadHash]? = some keyBlob
  := by
  rw [RecoveryEscrowProvider.write] at h
  split at h
  next => cases h
  next root hroot =>
  dsimp only at h
  split at h
  next => cases h
  next written hwrite =>
  obtain ⟨hresult, rfl⟩ := Prod.mk.inj h
  cases hvalid : validateEscrowDescriptor (descriptorOf provider vaultId payloadHash nowMs) with
  | error e =>
    change (validateEscrowDescriptor (descriptorOf provider vaultId payloadHash nowMs)).map _ = _
      at hresult
    rw [hvalid] at hresult
    cases hresult
  | ok _ =>
    change (validateEscrowDescriptor (descriptorOf provider vaultId payloadHash nowMs)).map _ = _
      at hresult
    rw [hvalid] at hresult
    cases hresult
    refine ⟨rfl, hvalid, root, hroot, ?_⟩
    cases Recovery.writeFile_eq_ok hwrite
    apply Std.ExtTreeMap.getElem?_insert_self

/-- What a rotation returns and leaves. -/
theorem leaveKey_eq_ok {rotated : Rotated}
    (h : leaveKey ext moment provider vaultId outputDir passphrase nowMs files
      = (.ok rotated, after)) :
  ∃ drawn, LeftKey ext moment provider vaultId outputDir passphrase nowMs drawn rotated after
  := by
  rw [leaveKey] at h
  split at h
  next => cases h
  next generated written hgenerate =>
  split at h
  next => cases h
  next descriptor left hwrite =>
  dsimp only at h
  split at h
  next => cases h
  next hmanifest =>
  cases h
  obtain ⟨hpassphrase, drawn, hdraw, rfl⟩ := generateRecoveryBundle_eq_ok hgenerate
  obtain ⟨rfl, hvalid, root, hroot, hpayload⟩ := write_eq_ok hwrite
  have hescrow : Recovery.validateEscrow (some _) = .ok () := hvalid
  obtain ⟨hread, hrest⟩ := Recovery.writeRecoveryManifest_eq_ok rfl hescrow hmanifest
  use drawn
  constructor
  · exact hpassphrase
  · exact hdraw
  · rfl
  · rfl
  · rfl
  · exact hvalid
  · exact hread
  · use root, hroot
    rw [hrest _ (payloadPath_ne_manifestPath _ _ _)]
    exact hpayload

/-- The files that a rotation writes: those of its bundle, and the payload it leaves. -/
def LeftFile (ext : Externals) (moment : EscrowMoment) (provider : RecoveryEscrowProvider)
    (vaultId outputDir : String) (nowMs : Int64) (path : String) (bytes : List UInt8) : Prop :=
  OfBundle (bundlePathOf outputDir vaultId nowMs) path
    ∨ ∃ drawn root, moment.draw nowMs = .ok drawn ∧ provider.root = some root
      ∧ path = payloadPath root vaultId (blake3HexPrefixed ext (.raw drawn.keyBlob))
      ∧ bytes = drawn.keyBlob

theorem written_leaveKey :
  Written (LeftFile ext moment provider vaultId outputDir nowMs) files
    (leaveKey ext moment provider vaultId outputDir passphrase nowMs files).2
  := by
  have hgenerated : Written (LeftFile ext moment provider vaultId outputDir nowMs) files
      (generateRecoveryBundle ext moment vaultId outputDir passphrase nowMs files).2 :=
    written_generateRecoveryBundle.mono fun _ _ h => .inl h
  rw [leaveKey]
  split
  · next hgenerate =>
    rw [hgenerate] at hgenerated
    exact hgenerated
  · next generated written hgenerate =>
    rw [hgenerate] at hgenerated
    obtain ⟨-, drawn, hdraw, rfl⟩ := generateRecoveryBundle_eq_ok hgenerate
    have hwritten : Written (LeftFile ext moment provider vaultId outputDir nowMs) written
        (provider.write moment vaultId (blake3HexPrefixed ext (.raw drawn.keyBlob))
          drawn.keyBlob nowMs written).2 := by
      apply written_write.mono
      rintro path bytes ⟨root, hroot, hpath, hbytes⟩
      exact .inr ⟨drawn, root, hdraw, hroot, hpath, hbytes⟩
    have hlast {manifest : RecoveryManifestV2} {left : Files} :
        Written (LeftFile ext moment provider vaultId outputDir nowMs) left
          (writeRecoveryManifest moment (bundlePathOf outputDir vaultId nowMs) manifest left).2 :=
      written_writeRecoveryManifest.mono fun _ _ h => .inl (.inr h)
    dsimp only [generatedOf]
    split
    · next hwrite =>
      rw [hwrite] at hwritten
      exact hgenerated.trans hwritten
    · next descriptor left hwrite =>
      rw [hwrite] at hwritten
      split
      · next hwriteManifest =>
        rw [← congrArg Prod.snd hwriteManifest]
        exact (hgenerated.trans hwritten).trans hlast
      · next hwriteManifest =>
        rw [← congrArg Prod.snd hwriteManifest]
        exact (hgenerated.trans hwritten).trans hlast

end Rotations

end EscrowProviders

end KnowledgeCore
