import KnowledgeCore.Verifier.Folder

/-!
# Tampering with a bundle

The manifest of an export has the hash of every file of the bundle. When a file is changed or
removed afterwards, and the manifest is not, the verification finds an error, unless the manifest
itself is refused before the files are looked at.
-/

namespace KnowledgeCore

/-! ### File names -/

/-- A name in a directory. -/
structure IsName (name : String) : Prop where
  nonempty : name ≠ ""
  not_dot : name ≠ "."
  no_slash : '/' ∉ name.toList

instance (name : String) : Decidable (IsName name) :=
  decidable_of_iff (name ≠ "" ∧ name ≠ "." ∧ '/' ∉ name.toList)
    ⟨fun h => ⟨h.1, h.2.1, h.2.2⟩, fun h => ⟨h.nonempty, h.not_dot, h.no_slash⟩⟩

namespace Export

theorem splitPath_of_not_mem {component l : List Char} (h : '/' ∉ l) :
  splitPath component l = [component.reverse ++ l]
  := by
  induction l generalizing component with
  | nil => simp [splitPath]
  | cons c l ih =>
    simp only [List.mem_cons, not_or] at h
    rw [splitPath, if_neg (Ne.symm h.1), ih h.2]
    simp

theorem splitPath_renderPath {name : String} {p : RelPath}
    (h : ∀ n ∈ name :: p, IsName n) :
  splitPath [] (renderPath (name :: p)).toList = (name :: p).map String.toList
  := by
  induction p generalizing name with
  | nil =>
    have hname := h name (List.mem_singleton_self _)
    rw [renderPath, String.intercalate_singleton, splitPath_of_not_mem hname.no_slash]
    rfl
  | cons name' p ih =>
    have hname := h name (List.mem_cons_self ..)
    have hrest := ih fun n hn => h n (List.mem_cons_of_mem _ hn)
    rw [renderPath] at hrest ⊢
    rw [String.intercalate_cons_cons, String.toList_append, String.toList_append,
      List.append_assoc]
    change splitPath [] (name.toList ++ '/' :: ("/".intercalate (name' :: p)).toList) = _
    rw [splitPath_append_slash _ _ _ hname.no_slash, hrest]
    rfl

/-- A path is read back from its text. -/
theorem relPath_renderPath {p : RelPath} (h : ∀ n ∈ p, IsName n) :
  relPath (renderPath p) = p
  := by
  cases p with
  | nil => rfl
  | cons name p =>
    rw [relPath, splitPath_renderPath h, List.filter_eq_self.mpr]
    · simp
    · intro part hpart
      obtain ⟨n, hn, rfl⟩ := List.mem_map.mp hpart
      have hname := h n hn
      have hdot : n.toList ≠ ['.'] := by
        intro hdot
        apply hname.not_dot
        apply String.toList_inj.mp
        exact hdot
      simp [hname.nonempty, hdot]

end Export

namespace Verifier

open Export (ExportOptions ExportSource ExportedObject bundleFiles manifestOf manifestPath relPath
  renderPath exportBundle readExportSource relPath_renderPath vectorEntry exportedVectors
  vectorsDir)

/-- A directory of files as one to verify. -/
def Folder.ofDir (path : String) (dir : Dir Content) : Folder where
  path := path
  entry rel :=
    if relPath rel = [] then .unreadable "Is a directory (os error 21)"
    else
      match dir.get (relPath rel) with
      | some bytes => .file bytes
      | none =>
        if dir.contains (relPath rel) then .unreadable "Is a directory (os error 21)"
        else .missing
  entry_empty _ := FileEntry.noConfusion

theorem Folder.get_of_entry {path rel : String} {dir : Dir Content} {bytes : Content}
    (h : (Folder.ofDir path dir).entry rel = .file bytes) :
  dir.get (relPath rel) = some bytes
  := by
  cases hget : dir.get (relPath rel) with
  | none =>
    simp only [Folder.ofDir, hget] at h
    split_ifs at h
  | some bytes' =>
    simp only [Folder.ofDir, hget] at h
    split_ifs at h
    cases h
    rfl

theorem Folder.entry_of_get {path rel : String} {dir : Dir Content} {bytes : Content}
    (hrel : relPath rel ≠ []) (h : dir.get (relPath rel) = some bytes) :
  (Folder.ofDir path dir).entry rel = .file bytes
  := by
  simp only [Folder.ofDir, if_neg hrel, h]

theorem Folder.get_of_unreadable {path rel error : String} {dir : Dir Content}
    (hrel : relPath rel ≠ []) (h : (Folder.ofDir path dir).entry rel = .unreadable error) :
  dir.get (relPath rel) = none
  := by
  cases hget : dir.get (relPath rel) with
  | none => rfl
  | some bytes =>
    rw [Folder.entry_of_get hrel hget] at h
    cases h

/-! ### The files a manifest lists -/

/-- The files a manifest lists: their paths, and the hashes they have to have. -/
def listedFiles (manifest : Json) : List (String × String) :=
  let db := (manifest.get "db").getD .null
  (textAt db "relative_path", textAt db "hash")
    :: ((objectsOf manifest).map (fun obj => (textAt obj "relative_path",
        textAt obj "storage_hash"))
      ++ (vectorsOf manifest).map (fun idx => (textAt idx "relative_path", textAt idx "hash")))

section Reports

variable {ext : Externals} {folder : Folder} {manifest db : Json}

/-- What the check of an entry finds is among what is found. -/
theorem subset_verifyEach {check : Json → Except Verdict (List VerifyErrorEntry)}
    {entries : List Json} {errors : List VerifyErrorEntry} {entry : Json}
    (h : verifyEach check entries = .ok errors) (hentry : entry ∈ entries) :
  ∃ found, check entry = .ok found ∧ found ⊆ errors
  := by
  induction entries generalizing errors with
  | nil => cases hentry
  | cons entry' rest ih =>
    rw [verifyEach] at h
    cases hcheck : check entry' with
    | error verdict =>
      rw [hcheck] at h
      cases h
    | ok found =>
      cases hrest : verifyEach check rest with
      | error verdict =>
        rw [hcheck, hrest] at h
        cases h
      | ok others =>
        rw [hcheck, hrest] at h
        cases h
        obtain rfl | hmem := List.mem_cons.mp hentry
        · exact ⟨found, hcheck, List.subset_append_left _ _⟩
        · obtain ⟨found', hfound, hsubset⟩ := ih hrest hmem
          exact ⟨found', hfound, List.subset_append_of_subset_right _ hsubset⟩

/-- When the file of an entry is not there, or fails its check, there is an error that names it. -/
theorem exists_error_of_readEntry {what path expected : String} {counts : CheckedCounts}
    {check : Content → List VerifyErrorEntry} {errors : List VerifyErrorEntry}
    (h : readEntry folder what path expected counts check = .ok errors)
    (hcheck : ∀ bytes, folder.entry path = .file bytes → ∃ e ∈ check bytes, e.path = path) :
  ∃ e ∈ errors, e.path = path
  := by
  unfold readEntry at h
  split at h
  · cases h
    exact ⟨_, List.mem_singleton_self _, rfl⟩
  · cases h
  · next bytes hentry =>
    cases h
    exact hcheck bytes hentry

theorem exists_error_of_unlessEqual {code path expected actual : String}
    (h : actual ≠ expected) (others : List VerifyErrorEntry) :
  ∃ e ∈ unlessEqual code path expected actual ++ others, e.path = path
  := by
  rw [unlessEqual, if_pos h]
  exact ⟨_, List.mem_append_left _ (List.mem_singleton_self _), rfl⟩

theorem fileErrors_eq_ok {errors : List VerifyErrorEntry}
    (h : fileErrors ext folder manifest db = .ok errors) :
  ∃ ofObjects ofVectors,
    verifyEach (verifyObject ext folder (isEnabled manifest "encryption")
      (checkedCounts manifest)) (objectsOf manifest) = .ok ofObjects
    ∧ verifyEach (verifyVector ext folder (checkedCounts manifest)) (vectorsOf manifest)
      = .ok ofVectors
    ∧ errors = verifyDb ext folder (isEnabled manifest "db_encryption") db ++ ofObjects
      ++ ofVectors
  := by
  simp only [fileErrors] at h
  cases hobjects : verifyEach (verifyObject ext folder (isEnabled manifest "encryption")
      (checkedCounts manifest)) (objectsOf manifest) with
  | error verdict =>
    rw [hobjects] at h
    cases h
  | ok ofObjects =>
    cases hvectors : verifyEach (verifyVector ext folder (checkedCounts manifest))
        (vectorsOf manifest) with
    | error verdict =>
      rw [hobjects, hvectors] at h
      cases h
    | ok ofVectors =>
      rw [hobjects, hvectors] at h
      cases h
      exact ⟨ofObjects, ofVectors, rfl, rfl, rfl⟩

/-- A listed file without the hash it has to have is named by an error. -/
theorem exists_error_of_listed {path hash : String} {errors : List VerifyErrorEntry}
    (hdb : manifest.get "db" = some db) (h : fileErrors ext folder manifest db = .ok errors)
    (hlisted : (path, hash) ∈ listedFiles manifest)
    (hhash : ∀ bytes, folder.entry path = .file bytes → blake3HexPrefixed ext bytes ≠ hash) :
  ∃ e ∈ errors, e.path = path
  := by
  obtain ⟨ofObjects, ofVectors, hobjects, hvectors, rfl⟩ := fileErrors_eq_ok h
  simp only [listedFiles, hdb, Option.getD_some, List.mem_cons, List.mem_append, List.mem_map,
    Prod.mk.injEq] at hlisted
  obtain ⟨rfl, rfl⟩ | ⟨obj, hobj, rfl, rfl⟩ | ⟨idx, hidx, rfl, rfl⟩ := hlisted
  · have herror : ∃ e ∈ verifyDb ext folder (isEnabled manifest "db_encryption") db,
        e.path = textAt db "relative_path" := by
      simp only [verifyDb]
      split
      · next bytes hentry => exact exists_error_of_unlessEqual (hhash bytes hentry) _
      · exact ⟨_, List.mem_singleton_self _, rfl⟩
    obtain ⟨e, he, hpath⟩ := herror
    exact ⟨e, List.mem_append_left _ (List.mem_append_left _ he), hpath⟩
  · obtain ⟨found, hfound, hsubset⟩ := subset_verifyEach hobjects hobj
    obtain ⟨e, he, hpath⟩ := exists_error_of_readEntry hfound fun bytes hentry => by
      rw [List.append_assoc]
      exact exists_error_of_unlessEqual (hhash bytes hentry) _
    exact ⟨e, List.mem_append_left _ (List.mem_append_right _ (hsubset he)), hpath⟩
  · obtain ⟨found, hfound, hsubset⟩ := subset_verifyEach hvectors hidx
    obtain ⟨e, he, hpath⟩ := exists_error_of_readEntry hfound fun bytes hentry => by
      rw [← List.append_nil (unlessEqual ..)]
      exact exists_error_of_unlessEqual (hhash bytes hentry) _
    exact ⟨e, List.mem_append_right _ (hsubset he), hpath⟩

end Reports

/-! ### The files of an export -/

section Export

variable {ext : Externals} {host : Host} {vaultDir bundle : Dir Content} {opts : ExportOptions}
  {source : ExportSource}

/-- A file that is there after several writes is one of those written, or was there before. -/
theorem mem_of_get_foldl_write {l : List (RelPath × Content)} {d : Dir Content} {p : RelPath}
    {bytes : Content} (h : (l.foldl (fun d file => d.write file.1 file.2) d).get p = some bytes) :
  (p, bytes) ∈ l ∨ d.get p = some bytes
  := by
  induction l generalizing d with
  | nil =>
    right
    exact h
  | cons file l ih =>
    obtain hmem | hget := ih h
    · left
      exact List.mem_cons_of_mem _ hmem
    · rw [Dir.get_write] at hget
      split at hget
      · next hpath =>
        cases hget
        left
        rw [← hpath]
        exact List.mem_cons_self ..
      · right
        exact hget

/-- An object as its entry in the manifest describes it. -/
structure IsListed (ext : Externals) (object : ExportedObject) : Prop where
  path : relPath (textAt object.entry "relative_path") = object.path
  storageHash : textAt object.entry "storage_hash" = blake3HexPrefixed ext object.stored
  encrypted : flagAt object.entry "encrypted" = object.stored.isEncryptedPayload

theorem isListed_of_mem {rows : List (String × ObjectRow)} {objects : List ExportedObject}
    (h : Export.exportObjects ext vaultDir rows = .ok objects) {object : ExportedObject}
    (hobject : object ∈ objects) :
  IsListed ext object
  := by
  induction rows generalizing objects with
  | nil =>
    cases h
    cases hobject
  | cons row rows ih =>
    simp only [Export.exportObjects, AppResult.bind_eq_ok] at h
    obtain ⟨first, hfirst, rest, hrest, h⟩ := h
    cases h
    obtain rfl | hmem := List.mem_cons.mp hobject
    · simp only [Export.exportObject, AppResult.bind_eq_ok] at hfirst
      obtain ⟨dir, -, stored, -, hfirst⟩ := hfirst
      cases hfirst
      exact ⟨rfl, rfl, rfl⟩
    · exact ih hrest hmem

theorem objectsOf_manifestOf :
  objectsOf (manifestOf ext opts source) = source.objects.map ExportedObject.entry
  := rfl

theorem mem_vectorsOf_manifestOf {idx : Json} :
  idx ∈ vectorsOf (manifestOf ext opts source)
    ↔ ∃ file ∈ source.vectors, (vectorEntry ext file).2 = idx
  := by
  change idx ∈ ((source.vectors.map (vectorEntry ext)).insertionSort _).map Prod.snd ↔ _
  simp only [List.mem_map, List.mem_insertionSort]
  constructor
  · rintro ⟨_, ⟨file, hfile, rfl⟩, rfl⟩
    use file, hfile
  · rintro ⟨file, hfile, rfl⟩
    exact ⟨_, ⟨file, hfile, rfl⟩, rfl⟩

/-- Every file of an export besides its manifest is listed there with its hash. -/
theorem exists_listed_of_get {rows : List (String × ObjectRow)}
    (hobjects : Export.exportObjects ext vaultDir rows = .ok source.objects)
    (hnames : ∀ file ∈ source.vectors, ∀ name ∈ file.1, IsName name) {p : RelPath}
    {bytes : Content} (h : (bundleFiles source).get p = some bytes) :
  ∃ path, relPath path = p
    ∧ (path, blake3HexPrefixed ext bytes) ∈ listedFiles (manifestOf ext opts source)
  := by
  simp only [listedFiles, List.mem_cons, List.mem_append, List.mem_map, Prod.mk.injEq]
  have hfold : (bundleFiles source).get p = (source.vectors.foldl
      (fun d file => d.write file.1 file.2)
      ((source.objects.map fun object => (object.path, object.stored)).foldl
        (fun d file => d.write file.1 file.2)
        (Dir.empty.write (relPath source.vault.db.relativePath) source.dbSrc))).get p := by
    rw [bundleFiles, List.foldl_map]
  rw [hfold] at h
  obtain hvector | h := mem_of_get_foldl_write h
  · use renderPath p, relPath_renderPath (hnames _ hvector)
    right
    right
    exact ⟨_, mem_vectorsOf_manifestOf.mpr ⟨_, hvector, rfl⟩, rfl, rfl⟩
  obtain hobject | h := mem_of_get_foldl_write h
  · obtain ⟨object, hmem, heq⟩ := List.mem_map.mp hobject
    cases heq
    have hlisted := isListed_of_mem hobjects hmem
    use textAt object.entry "relative_path", hlisted.path
    right
    left
    refine ⟨object.entry, ?_, rfl, hlisted.storageHash⟩
    rw [objectsOf_manifestOf]
    exact List.mem_map_of_mem hmem
  · rw [Dir.get_write] at h
    split at h
    · next hpath =>
      cases h
      use source.vault.db.relativePath, hpath
      left
      exact ⟨rfl, rfl⟩
    · simp at h

/-- Every file a manifest lists is in the export. -/
theorem isSome_get_of_listed {rows : List (String × ObjectRow)}
    (hobjects : Export.exportObjects ext vaultDir rows = .ok source.objects)
    (hnames : ∀ file ∈ source.vectors, ∀ name ∈ file.1, IsName name) {path hash : String}
    (h : (path, hash) ∈ listedFiles (manifestOf ext opts source)) :
  ((bundleFiles source).get (relPath path)).isSome = true
  := by
  rw [bundleFiles, ← List.foldl_map (f := fun object : ExportedObject =>
    (object.path, object.stored)) (g := fun d file => Dir.write d file.1 file.2)]
  simp only [listedFiles, List.mem_cons, List.mem_append, List.mem_map, Prod.mk.injEq] at h
  apply Dir.isSome_get_foldl_write
  obtain ⟨rfl, -⟩ | ⟨obj, hobj, rfl, -⟩ | ⟨idx, hidx, rfl, -⟩ := h
  · right
    apply Dir.isSome_get_foldl_write
    right
    change ((Dir.empty.write (relPath source.vault.db.relativePath) source.dbSrc).get
      (relPath source.vault.db.relativePath)).isSome = true
    rw [Dir.get_write, if_pos rfl, Option.isSome_some]
  · right
    apply Dir.isSome_get_foldl_write
    left
    rw [objectsOf_manifestOf] at hobj
    obtain ⟨object, hmem, rfl⟩ := List.mem_map.mp hobj
    rw [(isListed_of_mem hobjects hmem).path, List.map_map]
    exact List.mem_map_of_mem hmem
  · left
    obtain ⟨file, hfile, rfl⟩ := mem_vectorsOf_manifestOf.mp hidx
    change relPath (renderPath file.1) ∈ _
    rw [relPath_renderPath (hnames file hfile)]
    exact List.mem_map_of_mem hfile

/-- No object and no file of the vector index is at the top of the bundle itself. -/
theorem relPath_ne_nil {key : Option String} {file : SqliteFile}
    (hreads : Export.ReadsExport ext host vaultDir opts source key file)
    (hnames : ∀ file ∈ source.vectors, ∀ name ∈ file.1, IsName name) {entry : Json}
    (h : entry ∈ objectsOf (manifestOf ext opts source)
      ++ vectorsOf (manifestOf ext opts source)) :
  relPath (textAt entry "relative_path") ≠ []
  := by
  intro hnil
  obtain hobj | hidx := List.mem_append.mp h
  · rw [objectsOf_manifestOf] at hobj
    obtain ⟨object, hmem, rfl⟩ := List.mem_map.mp hobj
    obtain ⟨row, -, hrow⟩ := Export.exists_row_of_mem hreads.objects hmem
    have hhead := head_objectPath hrow.path
    rw [← (isListed_of_mem hreads.objects hmem).path, hnil] at hhead
    cases hhead
  · obtain ⟨file, hfile, rfl⟩ := mem_vectorsOf_manifestOf.mp hidx
    have hhead := Export.head_of_mem_exportedVectors (p := file.1)
      (by rw [← hreads.vectors]; exact List.mem_map_of_mem hfile)
    rw [← relPath_renderPath (hnames file hfile)] at hhead
    change (relPath (textAt (vectorEntry ext file).2 "relative_path")).head? = _ at hhead
    rw [hnil] at hhead
    cases hhead

/-! ### Tampering -/

/-- What is at a path is not what it was. -/
def Changed (bundle tampered : Dir Content) (p : RelPath) : Prop :=
  tampered.get p ≠ bundle.get p

/-- Some files of a bundle are changed or removed, not the manifest, and none of the new files
collides with the file it stands in for. -/
structure Tampered (ext : Externals) (bundle tampered : Dir Content) : Prop where
  manifest : ¬ Changed bundle tampered manifestPath
  ofBundle : ∀ p, Changed bundle tampered p → (bundle.get p).isSome = true
  changed : ∃ p, Changed bundle tampered p
  collisionFree : ∀ p bytes bytes', bundle.get p = some bytes → tampered.get p = some bytes' →
    ext.blake3 bytes = ext.blake3 bytes' → bytes = bytes'

/-- A manifest is accepted or refused. -/
theorem exists_manifestErrors {validatorFor : ValidatorFor}
    (hvalidates : Validates validatorFor) (format : String) (manifest : Json) :
  ∃ errors, manifestErrors validatorFor format manifest = .ok errors
  := by
  obtain ⟨validate, hcompiled, -⟩ := hvalidates manifestSchema
  rw [manifestErrors, hcompiled, mapErr_ok, AppResult.ok_bind]
  split
  · exact ⟨_, rfl⟩
  · split_ifs <;> exact ⟨_, rfl⟩

/-- Once its manifest has been accepted, the verdict on an export that was tampered with names a
file that was changed. -/
theorem exists_verdict_tampered {key : Option String} {file : SqliteFile} {path : String}
    {tampered : Dir Content}
    (hreads : Export.ReadsExport ext host vaultDir opts source key file)
    (hnames : ∀ file ∈ source.vectors, ∀ name ∈ file.1, IsName name)
    (htampered : Tampered ext ((bundleFiles source).write manifestPath
      (.json (manifestOf ext opts source) 0)) tampered)
    {db : Json} (hdb : (manifestOf ext opts source).get "db" = some db) :
  (filesVerdict ext (Folder.ofDir path tampered) (manifestOf ext opts source) db).1 ≠ 0
    ∧ ∃ e ∈ (filesVerdict ext (Folder.ofDir path tampered) (manifestOf ext opts source)
        db).2.errors,
        Changed ((bundleFiles source).write manifestPath (.json (manifestOf ext opts source) 0))
          tampered (relPath e.path)
  := by
  rw [filesVerdict]
  cases hfiles : fileErrors ext (Folder.ofDir path tampered) (manifestOf ext opts source) db with
  | error verdict =>
    -- the file that cannot be read was readable in the export
    obtain ⟨entry, hentry, error, message, hunreadable, rfl⟩ := fileErrors_eq_error hfiles
    have hne := relPath_ne_nil hreads hnames hentry
    have hlisted : ∃ hash, (textAt entry "relative_path", hash)
        ∈ listedFiles (manifestOf ext opts source) := by
      obtain hobj | hidx := List.mem_append.mp hentry
      · exact ⟨_, List.mem_cons_of_mem _ (List.mem_append_left _
          (List.mem_map_of_mem hobj))⟩
      · exact ⟨_, List.mem_cons_of_mem _ (List.mem_append_right _
          (List.mem_map_of_mem hidx))⟩
    obtain ⟨hash, hlisted⟩ := hlisted
    use Nat.succ_ne_zero 59
    refine ⟨_, List.mem_singleton_self _, ?_⟩
    intro heq
    rw [Folder.get_of_unreadable hne hunreadable, Dir.get_write] at heq
    split at heq
    · cases heq
    · have hsome := isSome_get_of_listed hreads.objects hnames hlisted
      rw [← heq] at hsome
      cases hsome
  | ok errors =>
    obtain ⟨p, hchanged⟩ := htampered.changed
    obtain ⟨bytes, hbytes⟩ := Option.isSome_iff_exists.mp (htampered.ofBundle p hchanged)
    have hp : manifestPath ≠ p := by
      rintro rfl
      exact htampered.manifest hchanged
    have hbytes' := hbytes
    rw [Dir.get_write, if_neg hp] at hbytes'
    obtain ⟨rel, hrel, hlisted⟩ := exists_listed_of_get hreads.objects hnames hbytes'
    obtain ⟨e, he, hpath⟩ := exists_error_of_listed hdb hfiles hlisted (by
      intro bytes' hentry hhash
      have hget := Folder.get_of_entry hentry
      rw [hrel] at hget
      have heq := htampered.collisionFree p bytes bytes' hbytes hget
        (blake3HexPrefixed_inj.mp hhash).symm
      apply hchanged
      rw [hget, hbytes, heq])
    constructor
    · intro hzero
      rw [exitCodeFor_eq_zero.mp hzero] at he
      cases he
    · refine ⟨e, (List.mem_insertionSort _).mpr he, ?_⟩
      rw [hpath, hrel]
      exact hchanged

/-- Tampering with the files of an export is detected: the exit code is not zero, and if the
manifest itself is not refused, an error names a file that was changed. -/
theorem verifyFolderBundle_tampered {validatorFor : ValidatorFor} {tampered : Dir Content}
    (format path : String) (hvalidates : Validates validatorFor)
    (hexport : exportBundle ext host vaultDir opts = .ok bundle)
    (hnames : ∀ file ∈ vaultDir.listFiles vectorsDir, ∀ name ∈ file.1, IsName name)
    (htampered : Tampered ext bundle tampered) :
  ∃ code report manifest, readManifest (Folder.ofDir path tampered) = .ok manifest
    ∧ verifyFolderBundle ext validatorFor (Folder.ofDir path tampered) format
        = .ok (code, report)
    ∧ code ≠ 0
    ∧ (manifestErrors validatorFor format manifest = .ok [] →
        ∃ e ∈ report.errors, Changed bundle tampered (relPath e.path))
  := by
  obtain ⟨source, hsource, rfl⟩ := Export.exportBundle_eq_ok hexport
  obtain ⟨key, file, hreads⟩ := Export.readExportSource_eq_ok.mp hsource
  have hobjects := hreads.objects
  have hvectors : ∀ file ∈ source.vectors, ∀ name ∈ file.1, IsName name := by
    rw [hreads.vectors]
    intro file hfile
    rw [exportedVectors] at hfile
    split at hfile
    · exact hnames file hfile
    · cases hfile
  have hmanifest : tampered.get manifestPath = some (.json (manifestOf ext opts source) 0) := by
    rw [not_not.mp htampered.manifest, Dir.get_write, if_pos rfl]
  have hread : readManifest (Folder.ofDir path tampered) = .ok (manifestOf ext opts source) := by
    rw [readManifest, Folder.entry_of_get (by decide) hmanifest]
    rfl
  obtain ⟨errors, herrors⟩ := exists_manifestErrors hvalidates format
    (manifestOf ext opts source)
  cases errors with
  | cons error errors =>
    refine ⟨21, (reportFor 21 (error :: errors) noCounts).2, _, hread, ?_, by decide, ?_⟩
    · simp only [verifyFolderBundle, hread, herrors, AppResult.ok_bind]
      rfl
    · intro h
      rw [herrors] at h
      cases h
  | nil =>
    obtain ⟨hcode, hnamed⟩ := exists_verdict_tampered hreads hvectors htampered rfl
    refine ⟨_, _, _, hread, ?_, hcode, fun _ => hnamed⟩
    rw [verifyFolderBundle, hread]
    simp only [herrors, AppResult.ok_bind]
    rfl

/-- Removing a file other than the manifest is tampering. -/
theorem tampered_removeAll {p : RelPath} (hmanifest : Dir.under p manifestPath = false)
    (hp : (bundle.get p).isSome = true) :
  Tampered ext bundle (bundle.removeAll p)
  where
  manifest := by
    rw [Changed, not_not, Dir.get_removeAll, if_neg (by simp [hmanifest])]
  ofBundle q hq := by
    rw [Changed, Dir.get_removeAll] at hq
    split at hq
    · exact Option.isSome_iff_ne_none.mpr (Ne.symm hq)
    · exact absurd rfl hq
  changed := by
    use p
    rw [Changed, Dir.get_removeAll, if_pos (by simp [Dir.under])]
    intro h
    rw [← h] at hp
    cases hp
  collisionFree q bytes bytes' hbytes hbytes' _ := by
    rw [Dir.get_removeAll] at hbytes'
    split at hbytes'
    · cases hbytes'
    · exact Option.some.inj (hbytes.symm.trans hbytes')

end Export

namespace Sample

open KnowledgeCore.Sample (ext host documentDb documentVault objectHash vaultJson)

def folderOptions : ExportOptions where
  includeVectors := false
  asZip := false

/-- Where the object of the sample vaults is. -/
def notePath : RelPath := ["store", "objects", "3f", objectHash]

/-- A configuration with an identifier of the right form. -/
def uuidVaultJson : Json :=
  match vaultJson with
  | .obj members => .obj (members.map fun m =>
      if m.1 = "vault_id" then (m.1, .str "11111111-1111-4111-8111-111111111111") else m)
  | other => other

/-- A vault with one document. -/
def uuidVault : Dir Content :=
  Dir.ofFiles [(Vault.vaultJsonPath, .json uuidVaultJson 0),
    (Vault.dbPath, .sqlite { db := documentDb, key := none, layout := 0 }),
    (notePath, .text "note")]

/-- What the verifier says of an export of a vault without the file of its object. -/
def removalVerdict (bundle : Dir Content) : AppResult Verdict :=
  verifyFolderBundle ext validatorFor (.ofDir "/bundle" (bundle.removeAll notePath)) "folder"

end Sample

theorem verifyFolderBundle_tampered_note :
  ∃ bundle code report,
    exportBundle KnowledgeCore.Sample.ext KnowledgeCore.Sample.host Sample.uuidVault
      Sample.folderOptions = .ok bundle
    ∧ Sample.removalVerdict bundle = .ok (code, report)
    ∧ code ≠ 0
    ∧ ∃ e ∈ report.errors, Changed bundle (bundle.removeAll Sample.notePath) (relPath e.path)
  := by
  obtain ⟨bundle, hexport, hp⟩ := exists_of_any
    (x := exportBundle KnowledgeCore.Sample.ext KnowledgeCore.Sample.host Sample.uuidVault
      Sample.folderOptions)
    (p := fun bundle => (bundle.get Sample.notePath).isSome
      && match readManifest (.ofDir "/bundle" (bundle.removeAll Sample.notePath)) with
        | .ok manifest =>
          (manifestErrors Sample.validatorFor "folder" manifest).toOption.any List.isEmpty
        | .error _ => false) (by decide +kernel)
  obtain ⟨hnote, haccepted⟩ := Bool.and_eq_true _ _ ▸ hp
  obtain ⟨code, report, manifest, hread, hverdict, hcode, hnamed⟩ :=
    verifyFolderBundle_tampered "folder" "/bundle" Sample.validates hexport
      (by decide +kernel) (tampered_removeAll (by decide) hnote)
  use bundle, code, report, hexport, hverdict, hcode
  rw [hread] at haccepted
  obtain ⟨errors, herrors, hempty⟩ := exists_of_any haccepted
  apply hnamed
  rw [herrors, List.isEmpty_iff.mp hempty]

/-- The verifier refuses the manifest of an export whose vault has an identifier of another form,
and does not get to the file that was removed. -/
theorem removal_not_named :
  Validates Sample.validatorFor
    ∧ ∃ bundle code report,
      exportBundle KnowledgeCore.Sample.ext KnowledgeCore.Sample.host
        KnowledgeCore.Sample.documentVault Sample.folderOptions = .ok bundle
      ∧ Tampered KnowledgeCore.Sample.ext bundle (bundle.removeAll Sample.notePath)
      ∧ Sample.removalVerdict bundle = .ok (code, report)
      ∧ ∀ e ∈ report.errors,
          ¬ Changed bundle (bundle.removeAll Sample.notePath) (relPath e.path)
  := by
  use Sample.validates
  obtain ⟨bundle, hexport, hp⟩ := exists_of_any
    (x := exportBundle KnowledgeCore.Sample.ext KnowledgeCore.Sample.host
      KnowledgeCore.Sample.documentVault Sample.folderOptions)
    (p := fun bundle => (bundle.get Sample.notePath).isSome
      && (Sample.removalVerdict bundle).toOption.any
        fun verdict => verdict.2.errors.all fun e => e.path == "") (by decide +kernel)
  obtain ⟨hnote, hverdict⟩ := Bool.and_eq_true _ _ ▸ hp
  obtain ⟨⟨code, report⟩, hverdict, herrors⟩ := exists_of_any hverdict
  refine ⟨bundle, code, report, hexport, tampered_removeAll (by decide) hnote, hverdict, ?_⟩
  intro e he
  have hpath : e.path = "" := beq_iff_eq.mp (List.all_eq_true.mp herrors e he)
  rw [Changed, not_not, hpath, Dir.get_removeAll]
  exact if_neg (by decide)

end Verifier

end KnowledgeCore
