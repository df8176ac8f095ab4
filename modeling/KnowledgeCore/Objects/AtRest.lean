import KnowledgeCore.Objects.Ingest

/-!
# Objects at rest

Whether ingesting into a vault with object encryption leaves a plain object. The remote
interface asks the configuration which store to make, and refuses. The command line always
makes a store without a key.
-/

namespace KnowledgeCore

namespace Ingest

variable {ext : Externals} {host : Host} {moment : Moment} {sourceKind filePath : String}
  {vaultPath : String} {m : Machine}

/-! ### Files that are kept, and files that are new -/

/-- Files that are still there, as they were. -/
def Keeps (before after : Files) : Prop :=
  ∀ (path : String) (bytes : List UInt8), before[path]? = some bytes → after[path]? = some bytes

/-- A path below the objects of the vault. -/
def IsObjectPath (vaultPath path : String) : Prop :=
  ∃ rel, path = objectsDir vaultPath ++ "/" ++ rel

/-- Every object that is new is encrypted. -/
def GainsNoPlaintext (vaultPath : String) (before after : Files) : Prop :=
  ∀ (path : String) (bytes : List UInt8), IsObjectPath vaultPath path → path ∉ before →
    after[path]? = some bytes → isEncryptedPayload bytes = true

theorem Keeps.refl (files : Files) : Keeps files files
  := by
  intro path bytes h
  exact h

theorem Keeps.trans {before between after : Files} (h : Keeps before between)
    (h' : Keeps between after) :
  Keeps before after
  := by
  intro path bytes hbytes
  apply h' _ _ (h _ _ hbytes)

theorem Keeps.mem {before after : Files} (h : Keeps before after) {path : String}
    (hpath : path ∈ before) :
  path ∈ after
  := by
  obtain ⟨bytes, hbytes⟩ := Option.isSome_iff_exists.mp
    (Std.ExtTreeMap.mem_iff_isSome_getElem?.mp hpath)
  apply Std.ExtTreeMap.mem_iff_isSome_getElem?.mpr
  rw [h _ _ hbytes, Option.isSome_some]

theorem GainsNoPlaintext.refl (vaultPath : String) (files : Files) : GainsNoPlaintext vaultPath files files
  := by
  intro path bytes _ hpath hbytes
  rw [Std.ExtTreeMap.getElem?_eq_none hpath] at hbytes
  cases hbytes

/-- Of two steps that keep what is there, both have to add no plain object. -/
theorem gainsNoPlaintext_trans_iff {before between after : Files} (h : Keeps before between)
    (h' : Keeps between after) :
  GainsNoPlaintext vaultPath before after
    ↔ GainsNoPlaintext vaultPath before between ∧ GainsNoPlaintext vaultPath between after
  := by
  constructor
  · intro hgains
    constructor
    · intro path bytes hobject hpath hbytes
      apply hgains path bytes hobject hpath (h' _ _ hbytes)
    · intro path bytes hobject hpath hbytes
      apply hgains path bytes hobject _ hbytes
      intro hbefore
      exact hpath (h.mem hbefore)
  · rintro ⟨hfirst, hsecond⟩ path bytes hobject hpath hbytes
    by_cases hbetween : path ∈ between
    · obtain ⟨bytes', hbytes'⟩ := Option.isSome_iff_exists.mp
        (Std.ExtTreeMap.mem_iff_isSome_getElem?.mp hbetween)
      have hsame := h' _ _ hbytes'
      rw [hbytes] at hsame
      cases hsame
      apply hfirst path bytes hobject hpath hbytes'
    · apply hsecond path bytes hobject hbetween hbytes

/-! ### One file of the command line -/

theorem withSeparator_objectsDir (vaultPath : String) :
  PathBuf.withSeparator (objectsDir vaultPath) = objectsDir vaultPath ++ "/"
  := by
  obtain ⟨pre, hpre⟩ := PathBuf.exists_join vaultPath "store/objects"
  rw [PathBuf.withSeparator_eq]
  · rw [objectsDir, hpre]
    intro hempty
    simpa using congrArg String.toList hempty
  · rw [objectsDir, hpre]
    simp

/-- Every byte string has a place among the objects. -/
theorem exists_objectPath (ext : Externals) (vaultPath : String) (bytes : List UInt8) :
  ∃ path, (ObjectStore.new (objectsDir vaultPath)).filePathForHash
      (blake3HexPrefixed ext (.raw bytes)) = .ok path
    ∧ IsObjectPath vaultPath path
  := by
  obtain ⟨dir, hpath⟩ := ObjectStore.exists_filePathForHash ext
    (ObjectStore.new (objectsDir vaultPath)) (.raw bytes)
  refine ⟨_, hpath, dir ++ "/" ++ blake3HexPrefixed ext (.raw bytes), ?_⟩
  rw [ObjectStore.new, withSeparator_objectsDir]
  simp only [String.append_assoc]

/-- A file that can be ingested: the vault and its database open, and the file is there and
not too large. -/
structure Ready (ext : Externals) (host : Host) (filePath : String) (m : Machine)
    (bytes : List UInt8) : Prop where
  opens : ∃ config file, openVault ext host m.vault = .ok (config, file)
  reads : m.files[filePath]? = some bytes
  fits : bytes.length ≤ INGEST_SINGLE_FILE_MAX_BYTES

/-- A file that can be ingested and has no object yet, and whose bytes, as far as they get
written, do not look encrypted. -/
def Leaks (ext : Externals) (host : Host) (moment : Moment) (filePath : String) (m : Machine) :
  Prop
  :=
  ∃ bytes path, Ready ext host filePath m bytes
    ∧ (ObjectStore.new (objectsDir host.vaultPath)).filePathForHash (blake3HexPrefixed ext (.raw bytes))
      = .ok path
    ∧ path ∉ m.files
    ∧ isEncryptedPayload (written bytes (moment.stops filePath)) = false

theorem files_ingestBytes {store : ObjectStore} {req : IngestBytesReq} {stop : Option Nat}
    {disk : Disk} :
  (ingestBytes ext store req stop disk).2.files = (store.putBytes ext req.bytes stop disk).2.files
  := by
  rw [ingestBytes]
  rcases store.putBytes ext req.bytes stop disk with ⟨_ | _, after⟩ <;> rfl

/-- Ingesting a file writes its object, if there is none. -/
theorem getElem?_files_ingestOne {bytes : List UInt8} {path : String}
    (hready : Ready ext host filePath m bytes)
    (hpath : (ObjectStore.new (objectsDir host.vaultPath)).filePathForHash
      (blake3HexPrefixed ext (.raw bytes)) = .ok path)
    (path' : String) :
  (ingestOne ext host moment sourceKind filePath m).2.files[path']?
    = m.files[path']?.or
      (if path = path' then some (written bytes (moment.stops filePath)) else none)
  := by
  obtain ⟨⟨config, file, hopen⟩, hreads, hfits⟩ := hready
  have hplain : (ObjectStore.new (objectsDir host.vaultPath)).maybeEncryptBytes ext
      (blake3HexPrefixed ext (.raw bytes)) bytes = .ok bytes := rfl
  have hlimits : validateIngestBytesLimits bytes.length = .ok () := by
    rw [validateIngestBytesLimits, if_neg (Nat.not_lt.mpr hfits)]
  simp only [ingestOne, hopen, hreads, ingestBytesWithLimits, hlimits, closed]
  rw [files_ingestBytes, ObjectStore.getElem?_files_putBytes hpath hplain]

/-- A file that cannot be ingested leaves the files alone. -/
theorem files_ingestOne_of_not_ready (h : ∀ bytes, ¬ Ready ext host filePath m bytes) :
  (ingestOne ext host moment sourceKind filePath m).2.files = m.files
  := by
  rw [ingestOne]
  split
  · rfl
  · next config file hopen =>
    split
    · rfl
    · next bytes hreads =>
      have hlimits : bytes.length > INGEST_SINGLE_FILE_MAX_BYTES := by
        by_contra hfits
        exact h bytes ⟨⟨config, file, hopen⟩, hreads, Nat.not_lt.mp hfits⟩
      simp only [ingestBytesWithLimits, validateIngestBytesLimits, if_pos hlimits, closed]

theorem keeps_ingestOne : Keeps m.files (ingestOne ext host moment sourceKind filePath m).2.files
  := by
  intro path' bytes' hbytes'
  by_cases hready : ∃ bytes, Ready ext host filePath m bytes
  · obtain ⟨bytes, hready⟩ := hready
    obtain ⟨path, hpath, -⟩ := exists_objectPath ext host.vaultPath bytes
    rw [getElem?_files_ingestOne hready hpath, hbytes', Option.some_or]
  · rw [files_ingestOne_of_not_ready (not_exists.mp hready), hbytes']

/-- Ingesting one file leaves no plain object exactly when the file does not leak. -/
theorem gainsNoPlaintext_ingestOne :
  GainsNoPlaintext host.vaultPath m.files (ingestOne ext host moment sourceKind filePath m).2.files
    ↔ ¬ Leaks ext host moment filePath m
  := by
  by_cases hready : ∃ bytes, Ready ext host filePath m bytes
  · obtain ⟨bytes, hready⟩ := hready
    obtain ⟨path, hpath, hobject⟩ := exists_objectPath ext host.vaultPath bytes
    constructor
    · rintro hgains ⟨bytes', path', hready', hpath', hnew, hplain⟩
      obtain rfl : bytes = bytes' := by
        have := hready.reads.symm.trans hready'.reads
        simpa using this
      rw [hpath] at hpath'
      cases hpath'
      have hsealed := hgains path (written bytes (moment.stops filePath)) hobject hnew (by
        rw [getElem?_files_ingestOne hready hpath, Std.ExtTreeMap.getElem?_eq_none hnew,
          if_pos rfl, Option.none_or])
      rw [hplain] at hsealed
      cases hsealed
    · intro hleaks path' bytes' _ hnew hbytes'
      rw [getElem?_files_ingestOne hready hpath, Std.ExtTreeMap.getElem?_eq_none hnew,
        Option.none_or] at hbytes'
      obtain ⟨rfl, hwritten⟩ := Option.ite_none_right_eq_some.mp hbytes'
      cases hwritten
      apply Bool.of_not_eq_false
      intro hplain
      exact hleaks ⟨bytes, path, hready, hpath, hnew, hplain⟩
  · rw [files_ingestOne_of_not_ready (not_exists.mp hready)]
    apply iff_of_true
    · apply GainsNoPlaintext.refl
    · rintro ⟨bytes, -, hready', -⟩
      exact hready ⟨bytes, hready'⟩

/-! ### Several files of the command line -/

/-- No file leaks when it is its turn. -/
def IngestsSafely (ext : Externals) (host : Host) (moment : Moment) (sourceKind : String) :
    List String → Machine → Prop
  | [], _ => True
  | file :: rest, m =>
    ¬ Leaks ext host moment file m
      ∧ ∀ doc after, ingestOne ext host moment sourceKind file m = (.ok doc, after) →
        IngestsSafely ext host moment sourceKind rest after

theorem keeps_ingestEach (files : List String) (m : Machine) :
  Keeps m.files (ingestEach ext host moment sourceKind files m).2.files
  := by
  induction files generalizing m with
  | nil => apply Keeps.refl
  | cons file rest ih =>
    have hfirst : Keeps m.files (ingestOne ext host moment sourceKind file m).2.files :=
      keeps_ingestOne
    rw [ingestEach]
    rcases hone : ingestOne ext host moment sourceKind file m with ⟨_ | doc, after⟩
    · rw [hone] at hfirst
      apply hfirst
    · rw [hone] at hfirst
      apply hfirst.trans (ih after)

theorem gainsNoPlaintext_ingestEach (files : List String) (m : Machine) :
  GainsNoPlaintext host.vaultPath m.files
      (ingestEach ext host moment sourceKind files m).2.files
    ↔ IngestsSafely ext host moment sourceKind files m
  := by
  induction files generalizing m with
  | nil =>
    apply iff_of_true
    · apply GainsNoPlaintext.refl
    · trivial
  | cons file rest ih =>
    have hfirst : Keeps m.files (ingestOne ext host moment sourceKind file m).2.files :=
      keeps_ingestOne
    have hstep : GainsNoPlaintext host.vaultPath m.files
          (ingestOne ext host moment sourceKind file m).2.files
        ↔ ¬ Leaks ext host moment file m := gainsNoPlaintext_ingestOne
    rw [ingestEach, IngestsSafely]
    rcases hone : ingestOne ext host moment sourceKind file m with ⟨e | doc, after⟩
    · rw [hone] at hstep
      rw [hstep]
      simp
    · rw [hone] at hfirst hstep
      rw [gainsNoPlaintext_trans_iff hfirst (keeps_ingestEach rest after), hstep, ih]
      simp

/-! ### The file of the inbox -/

/-- A file that has been ingested was there. -/
theorem mem_of_ingestOne_eq_ok {doc : IngestedDoc} {after : Machine}
    (h : ingestOne ext host moment sourceKind filePath m = (.ok doc, after)) :
  filePath ∈ m.files
  := by
  rw [ingestOne] at h
  split at h
  · cases h
  · split at h
    · cases h
    · next bytes hreads =>
      rw [Std.ExtTreeMap.mem_iff_isSome_getElem?, hreads, Option.isSome_some]

/-- The name of a processed file is not an absolute path. -/
theorem head?_processedName (filePath docId : String) :
  (processedName filePath docId).toList.head? ≠ some '/'
  := by
  have hstem : '/' ∉ ((PathBuf.fileStem filePath).getD "file").toList := by
    cases hs : PathBuf.fileStem filePath with
    | none => simp
    | some stem =>
      rw [Option.getD_some]
      apply PathBuf.slash_notMem_fileStem hs
  have hname (stem suffix : String) (hstem : '/' ∉ stem.toList) :
      (stem ++ "__" ++ suffix).toList.head? ≠ some '/' := by
    simp only [String.toList_append]
    cases hl : stem.toList with
    | nil => simp
    | cons c rest =>
      rw [hl] at hstem
      rintro ⟨⟩
      apply hstem
      simp
  rw [processedName]
  split
  · apply hname _ _ hstem
  · apply hname _ _ hstem
  · apply PathBuf.head?_withExtension
    apply hname _ _ hstem

/-- What is in the directory of the processed files is not among the objects. -/
theorem not_isObjectPath_join (vaultPath : String) {name : String}
    (hname : name.toList.head? ≠ some '/') :
  ¬ IsObjectPath vaultPath (PathBuf.join (PathBuf.join vaultPath "Inbox/processed") name)
  := by
  rintro ⟨rel, hrel⟩
  have hlists := congrArg String.toList hrel
  rw [PathBuf.join_of_relative hname, PathBuf.join_of_relative (by simp), objectsDir,
    PathBuf.join_of_relative (by simp), PathBuf.withSeparator_eq] at hlists
  · simp only [String.toList_append, List.append_assoc] at hlists
    have := List.append_cancel_left hlists
    simp at this
  · intro hempty
    simpa using congrArg String.toList hempty
  · simp

/-- A processed file is not among the objects. -/
theorem not_isObjectPath_processedPath (host : Host) (filePath docId : String) :
  ¬ IsObjectPath host.vaultPath (processedPath host filePath docId)
  := by
  apply not_isObjectPath_join
  apply head?_processedName

/-- Moving a file out of the inbox leaves the objects alone. -/
theorem gainsNoPlaintext_renameFile {before files : Files} {source target : String}
    (hsource : source ∈ before) (htarget : ¬ IsObjectPath vaultPath target) :
  GainsNoPlaintext vaultPath before (renameFile files source target)
    ↔ GainsNoPlaintext vaultPath before files
  := by
  have hsame {path : String} (hobject : IsObjectPath vaultPath path) (hnew : path ∉ before) :
      (renameFile files source target)[path]? = files[path]? := by
    have hne : ¬ source = path := by
      rintro rfl
      exact hnew hsource
    have hne' : ¬ target = path := by
      rintro rfl
      exact htarget hobject
    rw [renameFile]
    split
    · rfl
    · simp [Std.ExtTreeMap.getElem?_insert, Std.ExtTreeMap.getElem?_erase, hne, hne']
  constructor
  · intro hgains path bytes hobject hnew hbytes
    apply hgains path bytes hobject hnew
    rw [hsame hobject hnew, hbytes]
  · intro hgains path bytes hobject hnew hbytes
    rw [hsame hobject hnew] at hbytes
    apply hgains path bytes hobject hnew hbytes

/-- Taking a file out of the inbox leaves no plain object exactly when the file does not
leak. -/
theorem gainsNoPlaintext_ingestInboxOnce :
  GainsNoPlaintext host.vaultPath m.files
      (ingestInboxOnce ext host moment filePath sourceKind m).2.files
    ↔ ¬ Leaks ext host moment filePath m
  := by
  have hstep : GainsNoPlaintext host.vaultPath m.files
        (ingestOne ext host moment sourceKind filePath m).2.files
      ↔ ¬ Leaks ext host moment filePath m := gainsNoPlaintext_ingestOne
  rw [← hstep, ingestInboxOnce]
  rcases hone : ingestOne ext host moment sourceKind filePath m with ⟨e | doc, after⟩
  · rfl
  · simp only
    rw [moveProcessed]
    split
    · rfl
    · split
      · rfl
      · next docId _ =>
        split
        · rfl
        · apply gainsNoPlaintext_renameFile (mem_of_ingestOne_eq_ok hone)
          apply not_isObjectPath_processedPath

/-! ### The configuration stays -/

theorem get_ingestOne :
  (ingestOne ext host moment sourceKind filePath m).2.vault.get Vault.vaultJsonPath
    = m.vault.get Vault.vaultJsonPath
  := by
  rw [ingestOne]
  split
  · rfl
  · next hopen =>
    split
    · apply get_opened hopen
    · apply get_closed hopen

theorem get_ingestEach (files : List String) (m : Machine) :
  (ingestEach ext host moment sourceKind files m).2.vault.get Vault.vaultJsonPath
    = m.vault.get Vault.vaultJsonPath
  := by
  induction files generalizing m with
  | nil => rfl
  | cons file rest ih =>
    have hfirst : (ingestOne ext host moment sourceKind file m).2.vault.get Vault.vaultJsonPath
        = m.vault.get Vault.vaultJsonPath := get_ingestOne
    rw [ingestEach]
    rcases hone : ingestOne ext host moment sourceKind file m with ⟨_ | doc, after⟩
    · rw [hone] at hfirst
      apply hfirst
    · rw [hone] at hfirst
      apply (ih after).trans hfirst

theorem get_moveProcessed :
  (moveProcessed ext host moment filePath m).2.vault.get Vault.vaultJsonPath
    = m.vault.get Vault.vaultJsonPath
  := by
  rw [moveProcessed]
  split
  · rfl
  · next hopen =>
    have hget := get_opened hopen
    split
    · apply hget
    · split
      · apply hget
      · apply hget

/-! ### Runs -/

/-- A command that ingests files, of the command line or of the remote interface. -/
inductive Call
  | ingestScanFolder (scanRoot sourceKind : String)
  | ingestInboxOnce (filePath sourceKind : String)
  | ingestScanFolderService (scanRoot sourceKind : String) (nowMs : Int64)
  | ingestInboxStartService (filePath sourceKind : String) (nowMs : Int64)

/-- A command with what it meets when it is given. -/
structure Invocation where
  env : String → Option String
  dbUnlockSession : Option String
  moment : Moment
  call : Call

namespace Invocation

def hostAt (inv : Invocation) (vaultPath : String) : Host where
  vaultPath := vaultPath
  env := inv.env
  dbUnlockSession := inv.dbUnlockSession

/-- The machine after a command. -/
def after (ext : Externals) (vaultPath : String) (m : Machine) (inv : Invocation) : Machine :=
  let host := inv.hostAt vaultPath
  match inv.call with
  | .ingestScanFolder scanRoot sourceKind =>
    (ingestScanFolder ext host inv.moment scanRoot sourceKind m).2
  | .ingestInboxOnce filePath sourceKind =>
    (ingestInboxOnce ext host inv.moment filePath sourceKind m).2
  | .ingestScanFolderService scanRoot sourceKind nowMs =>
    (ingestScanFolderService ext host inv.moment scanRoot sourceKind nowMs m).2
  | .ingestInboxStartService filePath sourceKind nowMs =>
    (ingestInboxStartService ext host inv.moment filePath sourceKind nowMs m).2

/-- No file that the command line ingests leaks when it is its turn. A scan that is too large
ingests none. -/
def Safe (ext : Externals) (vaultPath : String) (m : Machine) (inv : Invocation) : Prop :=
  let host := inv.hostAt vaultPath
  match inv.call with
  | .ingestScanFolder scanRoot sourceKind =>
    validateScanFolderFiles m.files scanRoot (scanFiles m.files scanRoot) = .ok () →
      IngestsSafely ext host inv.moment sourceKind (scanFiles m.files scanRoot) m
  | .ingestInboxOnce filePath _ => ¬ Leaks ext host inv.moment filePath m
  | .ingestScanFolderService _ _ _ | .ingestInboxStartService _ _ _ => True

end Invocation

/-- Whether the configuration of a vault says that its objects are encrypted. -/
def EncryptionEnabled (vaultPath : String) (vault : Dir Content) : Prop :=
  ∃ config, Vault.vaultOpen ⟨vaultPath, fun _ => none, none⟩ vault = .ok config
    ∧ config.encryption.enabled = true

theorem encryptionEnabled_congr {vault vault' : Dir Content}
    (h : vault'.get Vault.vaultJsonPath = vault.get Vault.vaultJsonPath) :
  EncryptionEnabled vaultPath vault' ↔ EncryptionEnabled vaultPath vault
  := by
  rw [EncryptionEnabled, EncryptionEnabled, Vault.vaultOpen_congr h]

/-- The remote interface makes no object store for a vault with encryption. -/
theorem objectStoreWithoutPassphrase_eq_error {inv : Invocation} {config : VaultJsonV3}
    {file : SqliteFile} (henabled : EncryptionEnabled vaultPath m.vault)
    (hopen : openVault ext (inv.hostAt vaultPath) m.vault = .ok (config, file)) :
  ∃ e, objectStoreWithoutPassphrase (inv.hostAt vaultPath) config = .error e
  := by
  simp only [openVault, AppResult.bind_eq_ok] at hopen
  obtain ⟨config', hconfig, file', -, h⟩ := hopen
  cases h
  obtain ⟨config'', hconfig', hon⟩ := henabled
  -- opening the vault reads only its path from the surroundings
  have hsame : Vault.vaultOpen (inv.hostAt vaultPath) m.vault
      = Vault.vaultOpen ⟨vaultPath, fun _ => none, none⟩ m.vault := rfl
  rw [hsame, hconfig'] at hconfig
  cases hconfig
  rw [objectStoreWithoutPassphrase, if_pos hon]
  exact ⟨_, rfl⟩

/-- A command leaves the configuration alone. -/
theorem get_after (inv : Invocation) :
  (inv.after ext vaultPath m).vault.get Vault.vaultJsonPath = m.vault.get Vault.vaultJsonPath
  := by
  rw [Invocation.after]
  cases inv.call with
  | ingestScanFolder scanRoot sourceKind =>
    simp only [ingestScanFolder]
    split
    · rfl
    · apply get_ingestEach
  | ingestInboxOnce filePath sourceKind =>
    have hfirst : (ingestOne ext (inv.hostAt vaultPath) inv.moment sourceKind filePath m).2.vault.get
        Vault.vaultJsonPath = m.vault.get Vault.vaultJsonPath := get_ingestOne
    simp only [ingestInboxOnce]
    rcases hone : ingestOne ext (inv.hostAt vaultPath) inv.moment sourceKind filePath m
      with ⟨_ | doc, after⟩
    · rw [hone] at hfirst
      apply hfirst
    · rw [hone] at hfirst
      apply get_moveProcessed.trans hfirst
  | ingestScanFolderService scanRoot sourceKind nowMs =>
    simp only [ingestScanFolderService]
    split
    · rfl
    · next hopen =>
      split
      · apply get_opened hopen
      · split
        · apply get_opened hopen
        · apply get_closed hopen
  | ingestInboxStartService filePath sourceKind nowMs =>
    simp only [ingestInboxStartService]
    split
    · rfl
    · next hopen =>
      split
      · apply get_opened hopen
      · apply get_closed hopen

/-- A command leaves no plain object in a vault with encryption exactly when it is safe. -/
theorem gainsNoPlaintext_after {inv : Invocation}
    (henabled : EncryptionEnabled vaultPath m.vault) :
  GainsNoPlaintext vaultPath m.files (inv.after ext vaultPath m).files
    ↔ inv.Safe ext vaultPath m
  := by
  rw [Invocation.after, Invocation.Safe]
  cases inv.call with
  | ingestScanFolder scanRoot sourceKind =>
    simp only [ingestScanFolder]
    split
    · next e hlimits =>
      apply iff_of_true
      · apply GainsNoPlaintext.refl
      · intro hok
        rw [hlimits] at hok
        cases hok
    · next hlimits =>
      have heach : GainsNoPlaintext (inv.hostAt vaultPath).vaultPath m.files
            (ingestEach ext (inv.hostAt vaultPath) inv.moment sourceKind
              (scanFiles m.files scanRoot) m).2.files
          ↔ IngestsSafely ext (inv.hostAt vaultPath) inv.moment sourceKind
              (scanFiles m.files scanRoot) m := by
        apply gainsNoPlaintext_ingestEach
      rw [hlimits, forall_prop_of_true rfl]
      exact heach
  | ingestInboxOnce filePath sourceKind =>
    have honce : GainsNoPlaintext (inv.hostAt vaultPath).vaultPath m.files
          (ingestInboxOnce ext (inv.hostAt vaultPath) inv.moment filePath sourceKind m).2.files
        ↔ ¬ Leaks ext (inv.hostAt vaultPath) inv.moment filePath m := by
      apply gainsNoPlaintext_ingestInboxOnce
    exact honce
  | ingestScanFolderService scanRoot sourceKind nowMs =>
    apply iff_of_true _ trivial
    simp only [ingestScanFolderService]
    split
    · apply GainsNoPlaintext.refl
    · next hopen =>
      obtain ⟨e, he⟩ := objectStoreWithoutPassphrase_eq_error henabled hopen
      rw [he]
      apply GainsNoPlaintext.refl
  | ingestInboxStartService filePath sourceKind nowMs =>
    apply iff_of_true _ trivial
    simp only [ingestInboxStartService]
    split
    · apply GainsNoPlaintext.refl
    · next hopen =>
      obtain ⟨e, he⟩ := objectStoreWithoutPassphrase_eq_error henabled hopen
      rw [he]
      apply GainsNoPlaintext.refl

/-- No command of a run leaves a plain object. -/
def GainsNoPlaintextAlong (ext : Externals) (vaultPath : String) :
    Machine → List Invocation → Prop
  | _, [] => True
  | m, inv :: rest =>
    GainsNoPlaintext vaultPath m.files (inv.after ext vaultPath m).files
      ∧ GainsNoPlaintextAlong ext vaultPath (inv.after ext vaultPath m) rest

/-- Every command of a run is safe. -/
def SafeAlong (ext : Externals) (vaultPath : String) : Machine → List Invocation → Prop
  | _, [] => True
  | m, inv :: rest =>
    inv.Safe ext vaultPath m ∧ SafeAlong ext vaultPath (inv.after ext vaultPath m) rest

/-- Ingesting into a vault whose objects are encrypted never leaves a plain object exactly when
no file that the command line ingests leaks. -/
theorem gains_no_plaintext_iff (ext : Externals) (vaultPath : String) (m : Machine)
    (run : List Invocation) :
  (EncryptionEnabled vaultPath m.vault → GainsNoPlaintextAlong ext vaultPath m run)
    ↔ (EncryptionEnabled vaultPath m.vault → SafeAlong ext vaultPath m run)
  := by
  apply imp_congr_right
  intro henabled
  induction run generalizing m with
  | nil => exact Iff.rfl
  | cons inv rest ih =>
    rw [GainsNoPlaintextAlong, SafeAlong, gainsNoPlaintext_after henabled,
      ih _ ((encryptionEnabled_congr (get_after inv)).mpr henabled)]

/-- The vault with object encryption, and a file in its inbox. -/
def Sample.encryptedMachine : Machine where
  vault := Dir.ofFiles [(Vault.vaultJsonPath, .json Sample.encryptedVaultJson 0),
    (Vault.dbPath, .sqlite { db := Sample.db, key := none, layout := 0 })]
  files := (∅ : Files).insert "/vault/Inbox/note.txt" [110, 111, 116, 101]

/-- The command that takes the file out of the inbox, when nothing goes wrong. -/
def Sample.takeNote : Invocation where
  env _ := none
  dbUnlockSession := none
  moment := {
    clock := fun _ => 1000
    modifiedMs := fun _ => none
    stops := fun _ => none
    canMove := true }
  call := .ingestInboxOnce "/vault/Inbox/note.txt" "notes"

theorem Sample.encryptionEnabled : EncryptionEnabled "/vault" Sample.encryptedMachine.vault
  := by
  have henabled : (Vault.vaultOpen ⟨"/vault", fun _ => none, none⟩
      Sample.encryptedMachine.vault).toOption.any (fun config => config.encryption.enabled)
      = true := by decide +kernel
  obtain ⟨config, hconfig, hon⟩ := exists_of_any henabled
  exact ⟨config, hconfig, hon⟩

/-- The command line puts the file into the store as it is. -/
theorem inbox_leaves_plaintext :
  ¬ (EncryptionEnabled "/vault" Sample.encryptedMachine.vault →
    GainsNoPlaintextAlong Sample.ext "/vault" Sample.encryptedMachine [Sample.takeNote])
  := by
  intro hgains
  obtain ⟨hgains, -⟩ := hgains Sample.encryptionEnabled
  apply (gainsNoPlaintext_after Sample.encryptionEnabled).mp hgains
  have hopen : (openVault Sample.ext (Sample.takeNote.hostAt "/vault")
      Sample.encryptedMachine.vault).isOk = true := by decide +kernel
  obtain ⟨⟨config, file⟩, hopen⟩ := exists_of_isOk hopen
  obtain ⟨path, hpath, rel, hrel⟩ := exists_objectPath Sample.ext "/vault" [110, 111, 116, 101]
  refine ⟨[110, 111, 116, 101], path, ⟨⟨config, file, hopen⟩, ?_, by decide⟩, hpath, ?_, rfl⟩
  · decide +kernel
  · have hdir : objectsDir "/vault" = "/vault/store/objects" := by decide +kernel
    rw [hrel, hdir]
    simp only [Sample.encryptedMachine, Std.ExtTreeMap.mem_insert, Std.ExtTreeMap.not_mem_empty,
      or_false, Std.LawfulEqCmp.compare_eq_iff_eq]
    intro hsame
    have hlists := congrArg (fun s => s.toList.take 8) hsame
    simp at hlists

end Ingest

end KnowledgeCore
