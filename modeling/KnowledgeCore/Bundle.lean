import KnowledgeCore.Contents

/-!
# What a bundle has

What an export reads from a vault, and what the directory it writes has: the database as it
was, the files of the objects the database lists, and the vector index.
-/

namespace KnowledgeCore

namespace Export

variable {ext : Externals} {host : Host} {vaultDir vaultDir' : Dir Content}
  {opts : ExportOptions} {source : ExportSource}

/-! ### Reading -/

/-- What an export has read from a vault, and the key and the database it has opened to list
the objects. -/
structure ReadsExport (ext : Externals) (host : Host) (vaultDir : Dir Content)
    (opts : ExportOptions) (source : ExportSource) (key : Option String) (file : SqliteFile) :
    Prop where
  configured : Vault.vaultOpen host vaultDir = .ok source.vault
  dbSrc : vaultDir.get (relPath source.vault.db.relativePath) = some source.dbSrc
  unlocked : Vault.dbEncryptionKey host vaultDir = .ok key
  opened : Vault.openDbFile ext key (some source.dbSrc) = .ok file
  objects : exportObjects ext vaultDir file.db.objects.toList = .ok source.objects
  recoveryEscrow : recoveryEscrowExportBlock file.db = .ok source.recoveryEscrow
  vectors : source.vectors = exportedVectors vaultDir opts

theorem readExportSource_eq_ok :
  readExportSource ext host vaultDir opts = .ok source
    ↔ ∃ key file, ReadsExport ext host vaultDir opts source key file
  := by
  simp only [readExportSource, AppResult.bind_eq_ok, okOrElse_eq_ok]
  constructor
  · rintro ⟨vault, hv, dbSrc, hd, key, hk, file, hf, objects, ho, escrow, he, h⟩
    cases h
    exact ⟨key, file, hv, hd, hk, hf, ho, he, rfl⟩
  · rintro ⟨key, file, h⟩
    refine ⟨_, h.configured, _, h.dbSrc, key, h.unlocked, file, h.opened, _, h.objects, _,
      h.recoveryEscrow, ?_⟩
    rw [← h.vectors]

/-- An object of an export is that of a row: it has its path, the bytes of its file, and its
hash in the manifest. -/
structure IsObject (vaultDir : Dir Content) (row : String × ObjectRow)
    (object : ExportedObject) : Prop where
  path : objectPath row.1 = some object.path
  stored : vaultDir.get object.path = some object.stored
  hash : object.entry.get "hash" = some (.str row.1)
  plain : CanonJson.hasFloat object.entry = false

theorem exportObject_eq_ok {row : String × ObjectRow} {object : ExportedObject}
    (h : exportObject ext vaultDir row.1 row.2 = .ok object) :
  IsObject vaultDir row object
  := by
  simp only [exportObject, AppResult.bind_eq_ok, okOrElse_eq_ok] at h
  obtain ⟨dir, hdir, stored, hstored, h⟩ := h
  cases h
  exact ⟨by simp [objectPath, hdir], hstored, rfl, rfl⟩

/-- The objects of an export are those of the rows. -/
theorem exportObjects_eq_ok {rows : List (String × ObjectRow)} {objects : List ExportedObject}
    (h : exportObjects ext vaultDir rows = .ok objects) :
  List.Forall₂ (IsObject vaultDir) rows objects
  := by
  induction rows generalizing objects with
  | nil =>
    cases h
    apply List.Forall₂.nil
  | cons row rows ih =>
    simp only [exportObjects, AppResult.bind_eq_ok] at h
    obtain ⟨object, ho, rest, hrest, h⟩ := h
    cases h
    exact List.Forall₂.cons (exportObject_eq_ok ho) (ih hrest)

theorem exists_row_of_mem {rows : List (String × ObjectRow)} {objects : List ExportedObject}
    (h : exportObjects ext vaultDir rows = .ok objects) {object : ExportedObject}
    (hobject : object ∈ objects) :
  ∃ row ∈ rows, IsObject vaultDir row object
  := by
  have hforall := exportObjects_eq_ok h
  obtain ⟨i, hi, rfl⟩ := List.getElem_of_mem hobject
  have hi' : i < rows.length := by rwa [hforall.length_eq]
  exact ⟨rows[i], List.getElem_mem hi', hforall.get hi' hi⟩

theorem exists_object_of_mem {rows : List (String × ObjectRow)} {objects : List ExportedObject}
    (h : exportObjects ext vaultDir rows = .ok objects) {row : String × ObjectRow}
    (hrow : row ∈ rows) :
  ∃ object ∈ objects, IsObject vaultDir row object
  := by
  have hforall := exportObjects_eq_ok h
  obtain ⟨i, hi, rfl⟩ := List.getElem_of_mem hrow
  have hi' : i < objects.length := by rwa [← hforall.length_eq]
  exact ⟨objects[i], List.getElem_mem hi', hforall.get hi hi'⟩

/-- An export of the objects goes by their files only. -/
theorem exportObjects_congr {rows : List (String × ObjectRow)} {objects : List ExportedObject}
    (h : exportObjects ext vaultDir rows = .ok objects)
    (hfiles : ∀ object ∈ objects, vaultDir'.get object.path = some object.stored) :
  exportObjects ext vaultDir' rows = .ok objects
  := by
  induction rows generalizing objects with
  | nil => exact h
  | cons row rows ih =>
    simp only [exportObjects, AppResult.bind_eq_ok] at h ⊢
    obtain ⟨object, ho, rest, hrest, h⟩ := h
    cases h
    have hfile := hfiles object (List.mem_cons_self ..)
    have hrest := ih hrest fun o ho => hfiles o (List.mem_cons_of_mem _ ho)
    refine ⟨object, ?_, rest, hrest, rfl⟩
    simp only [exportObject, AppResult.bind_eq_ok, okOrElse_eq_ok] at ho ⊢
    obtain ⟨dir, hdir, stored, -, ho⟩ := ho
    cases ho
    exact ⟨dir, hdir, stored, hfile, rfl⟩

/-! ### The manifest -/

open CanonJson

theorem hasFloat_ofOption (s : Option String) :
  hasFloat (Json.ofOption s) = false
  := by
  cases s <;> rfl

theorem hasFloat_recoveryEscrow {db : Db} {block : Json}
    (h : recoveryEscrowExportBlock db = .ok block) :
  hasFloat block = false
  := by
  simp only [recoveryEscrowExportBlock, AppResult.bind_eq_ok] at h
  obtain ⟨found, -, h⟩ := h
  split at h
  · cases h
    rfl
  · next first rest _ =>
    cases h
    have hproviders : itemsHaveFloat
        (((found.map fun d => d.1.provider).insertionSort fun a b => providerLe a b).map .str)
        = false := by
      rw [itemsHaveFloat_eq_false]
      intro j hj
      obtain ⟨provider, -, rfl⟩ := List.mem_map.mp hj
      rfl
    have hdescriptors : itemsHaveFloat ((normalizeEscrowDescriptors (found.map Prod.fst)).map
        RecoveryEscrowDescriptorV2.toJson) = false := by
      rw [itemsHaveFloat_eq_false]
      intro j hj
      obtain ⟨descriptor, -, rfl⟩ := List.mem_map.mp hj
      rfl
    have hlatest : hasFloat
        (((latest (found.map Prod.snd)).map fun t => Json.int t.toInt).getD .null) = false := by
      cases latest (found.map Prod.snd) <;> rfl
    simp [hasFloat, membersHaveFloat, hproviders, hdescriptors, hlatest,
      RecoveryEscrowDescriptorV2.toJson]

/-- The manifest of an export has a canonical text. -/
theorem hasFloat_manifestOf {key : Option String} {file : SqliteFile}
    (h : ReadsExport ext host vaultDir opts source key file) :
  hasFloat (manifestOf ext opts source) = false
  := by
  have hobjects : itemsHaveFloat (source.objects.map ExportedObject.entry) = false := by
    rw [itemsHaveFloat_eq_false]
    intro j hj
    obtain ⟨object, hobject, rfl⟩ := List.mem_map.mp hj
    obtain ⟨row, -, hrow⟩ := exists_row_of_mem h.objects hobject
    exact hrow.plain
  have hvectors : itemsHaveFloat (((source.vectors.map (vectorEntry ext)).insertionSort
      (fun a b => a.1 ≤ b.1)).map Prod.snd) = false := by
    rw [itemsHaveFloat_eq_false]
    intro j hj
    obtain ⟨entry, hentry, rfl⟩ := List.mem_map.mp hj
    obtain ⟨file, -, rfl⟩ := List.mem_map.mp ((List.mem_insertionSort _).mp hentry)
    rfl
  simp [manifestOf, buildManifest, hasFloat, membersHaveFloat, hobjects, hvectors,
    hasFloat_recoveryEscrow h.recoveryEscrow, encryptionBlock, dbEncryptionBlock,
    packagingBlock, hasFloat_ofOption]

/-- An export that has read what it needs succeeds. -/
theorem exportBundle_of_reads {key : Option String} {file : SqliteFile}
    (h : ReadsExport ext host vaultDir opts source key file) :
  exportBundle ext host vaultDir opts
    = .ok ((bundleFiles source).write manifestPath (.json (manifestOf ext opts source) 0))
  := by
  have hread : readExportSource ext host vaultDir opts = .ok source :=
    readExportSource_eq_ok.mpr ⟨key, file, h⟩
  simp [exportBundle, hread, Content.ofCanonical_of_not_hasFloat (hasFloat_manifestOf h)]

/-- What a manifest says of the configuration of a vault. -/
def configOf (vault : VaultJsonV3) : List Json :=
  [.str vault.vaultId, encryptionBlock vault, dbEncryptionBlock vault,
    .str vault.toolchain.pdfium, .str vault.toolchain.tesseract,
    .str vault.defaults.chunkingConfigId, .str vault.defaults.embeddingModelId,
    .str vault.db.relativePath]

/-- What a manifest says of the vector index. -/
def vectorsOf (ext : Externals) (vectors : List (RelPath × Content)) : List Json :=
  ((vectors.map (vectorEntry ext)).insertionSort (fun a b => a.1 ≤ b.1)).map Prod.snd

/-- Two manifests with one packaging are equal when they say the same of everything else. -/
theorem manifestOf_inj {source' : ExportSource} :
  manifestOf ext opts source = manifestOf ext opts source'
    ↔ configOf source.vault = configOf source'.vault
      ∧ ext.blake3 source.dbSrc = ext.blake3 source'.dbSrc
      ∧ source.recoveryEscrow = source'.recoveryEscrow
      ∧ source.objects.map ExportedObject.entry = source'.objects.map ExportedObject.entry
      ∧ vectorsOf ext source.vectors = vectorsOf ext source'.vectors
  := by
  simp only [manifestOf, buildManifest, configOf, vectorsOf, Json.obj.injEq, List.cons.injEq,
    Prod.mk.injEq, Json.str.injEq, Json.arr.injEq, true_and, and_true, blake3HexPrefixed_inj]
  tauto

/-- The manifest of an archive is never that of a folder. -/
theorem manifestOf_zip_ne_folder {source' : ExportSource} {includeVectors : Bool} :
  manifestOf ext { includeVectors, asZip := true } source
    ≠ manifestOf ext { includeVectors, asZip := false } source'
  := by
  intro h
  simp [manifestOf, buildManifest, packagingBlock] at h

/-! ### Where an export writes -/

theorem head_of_mem_objects {rows : List (String × ObjectRow)} {objects : List ExportedObject}
    (h : exportObjects ext vaultDir rows = .ok objects) {p : RelPath}
    (hp : p ∈ (objects.map fun object => (object.path, object.stored)).map Prod.fst) :
  p.head? = some "store"
  := by
  simp only [List.map_map, List.mem_map, Function.comp_apply] at hp
  obtain ⟨object, hobject, rfl⟩ := hp
  obtain ⟨row, -, hrow⟩ := exists_row_of_mem h hobject
  exact head_objectPath hrow.path

theorem under_vectorsDir {p : RelPath} (h : Dir.under vectorsDir p = true) :
  p.head? = some "index"
  := by
  cases p with
  | nil => cases h
  | cons c p =>
    simp only [Dir.under, vectorsDir, List.isPrefixOf, Bool.and_eq_true, beq_iff_eq] at h
    simp [h.1]

theorem head_of_mem_exportedVectors {p : RelPath}
    (h : p ∈ (exportedVectors vaultDir opts).map Prod.fst) :
  p.head? = some "index"
  := by
  obtain ⟨file, hfile, rfl⟩ := List.mem_map.mp h
  rw [exportedVectors] at hfile
  split at hfile
  · exact under_vectorsDir (Dir.mem_listFiles.mp hfile).1
  · cases hfile

/-! ### Exports -/

/-- The directory of an export of a vault that keeps its database at the usual place. -/
structure IsExport (ext : Externals) (dir : Dir Content) (opts : ExportOptions)
    (source : ExportSource) : Prop where
  read : ∃ host vaultDir, readExportSource ext host vaultDir opts = .ok source
  usualPlace : source.vault.db.relativePath = "db/knowledge.sqlite"
  files : ∀ p, dir.get p
    = ((bundleFiles source).write manifestPath (.json (manifestOf ext opts source) 0)).get p

theorem relPath_usualPlace :
  relPath "db/knowledge.sqlite" = Vault.dbPath
  := by
  decide

namespace IsExport

variable {dir : Dir Content}

theorem get_manifestPath (h : IsExport ext dir opts source) :
  dir.get manifestPath = some (.json (manifestOf ext opts source) 0)
  := by
  rw [h.files, Dir.get_write, if_pos rfl]

/-- The database of an export is a database file, and the objects are those of its rows. -/
theorem exists_dbFile (h : IsExport ext dir opts source) :
  ∃ file vaultDir, source.dbSrc = .sqlite file
    ∧ exportObjects ext vaultDir file.db.objects.toList = .ok source.objects
    ∧ recoveryEscrowExportBlock file.db = .ok source.recoveryEscrow
    ∧ source.vectors = exportedVectors vaultDir opts
  := by
  obtain ⟨host, vaultDir, hs⟩ := h.read
  obtain ⟨key, file', hr⟩ := readExportSource_eq_ok.mp hs
  have hopened := hr.opened
  have hobjects := hr.objects
  have hescrow := hr.recoveryEscrow
  cases hsrc : source.dbSrc with
  | sqlite file =>
    rw [hsrc] at hopened
    rw [(Vault.openDbFile_tables hopened).1] at hobjects hescrow
    exact ⟨file, vaultDir, rfl, hobjects, hescrow, hr.vectors⟩
  | raw _ | text _ | json _ _ | zip _ =>
    rw [hsrc] at hopened
    cases hopened

/-- The files of an export, by where they are. -/
theorem get_eq (h : IsExport ext dir opts source) {p : RelPath} (hp : p ≠ manifestPath) :
  dir.get p = (source.vectors.foldl (fun d file => d.write file.1 file.2)
    ((source.objects.map fun object => (object.path, object.stored)).foldl
      (fun d file => d.write file.1 file.2)
      (Dir.empty.write Vault.dbPath source.dbSrc))).get p
  := by
  rw [h.files, Dir.get_write, if_neg hp.symm, bundleFiles, List.foldl_map, h.usualPlace,
    relPath_usualPlace]

theorem get_dbPath (h : IsExport ext dir opts source) :
  dir.get Vault.dbPath = some source.dbSrc
  := by
  obtain ⟨file, vaultDir, -, ho, -, hv⟩ := h.exists_dbFile
  have hobjects : Vault.dbPath ∉
      (source.objects.map fun object => (object.path, object.stored)).map Prod.fst := by
    intro hp
    exact absurd (head_of_mem_objects ho hp) (by decide)
  have hvectors : Vault.dbPath ∉ source.vectors.map Prod.fst := by
    rw [hv]
    intro hp
    exact absurd (head_of_mem_exportedVectors hp) (by decide)
  rw [h.get_eq (by decide), Dir.get_foldl_write_of_not_mem hvectors,
    Dir.get_foldl_write_of_not_mem hobjects, Dir.get_write, if_pos rfl]

/-- An export has the files of its objects. -/
theorem get_object (h : IsExport ext dir opts source) {object : ExportedObject}
    (hobject : object ∈ source.objects) :
  dir.get object.path = some object.stored
  := by
  obtain ⟨file, vaultDir, -, ho, -, hv⟩ := h.exists_dbFile
  obtain ⟨row, -, hrow⟩ := exists_row_of_mem ho hobject
  have hstore := head_objectPath hrow.path
  have hmanifest : object.path ≠ manifestPath := by
    intro hp
    rw [hp] at hstore
    exact absurd hstore (by decide)
  have hvectors : object.path ∉ source.vectors.map Prod.fst := by
    rw [hv]
    intro hp
    have := head_of_mem_exportedVectors hp
    rw [hstore] at this
    exact absurd this (by decide)
  rw [h.get_eq hmanifest, Dir.get_foldl_write_of_not_mem hvectors]
  apply Dir.get_foldl_write_of_mem
  · rw [List.map_map]
    exact List.mem_map_of_mem hobject
  · -- two objects under one path have the bytes of the one file there
    intro e he heq
    obtain ⟨object', hobject', rfl⟩ := List.mem_map.mp he
    obtain ⟨row', -, hrow'⟩ := exists_row_of_mem ho hobject'
    have heq : object'.path = object.path := heq
    have hstored := hrow'.stored
    rw [heq, hrow.stored] at hstored
    exact (Option.some.inj hstored).symm

theorem dbFile_eq (h : IsExport ext dir opts source) {file : SqliteFile}
    (hsrc : source.dbSrc = .sqlite file) :
  Vault.dbFile dir = some file
  := by
  rw [Vault.dbFile_eq_some, h.get_dbPath, hsrc]

/-- An export has the files of its entries. -/
theorem hasFile_of_lists (h : IsExport ext dir opts source) {item : Item}
    (hl : Lists dir item) :
  HasFile dir item
  := by
  cases item with
  | document _ | overlay _ => trivial
  | object hash =>
    obtain ⟨file, vaultDir, hsrc, ho, -⟩ := h.exists_dbFile
    obtain ⟨file', hfile', hrow⟩ := hl
    obtain rfl : file = file' := by simpa [h.dbFile_eq hsrc] using hfile'
    obtain ⟨row, hrow⟩ := Option.isSome_iff_exists.mp
      (Std.ExtTreeMap.mem_iff_isSome_getElem?.mp hrow)
    obtain ⟨object, hobject, his⟩ := exists_object_of_mem ho
      (Std.ExtTreeMap.mem_toList_iff_getElem?_eq_some.mpr hrow)
    exact ⟨object.path, object.stored, his.path, h.get_object hobject⟩

/-- The vector index of an export is that of the vault. -/
theorem listFiles_vectorsDir (h : IsExport ext dir opts source)
    (hopts : opts.includeVectors = true) :
  dir.listFiles vectorsDir = source.vectors
  := by
  obtain ⟨file, vaultDir, -, ho, -, hv⟩ := h.exists_dbFile
  rw [exportedVectors, if_pos hopts] at hv
  rw [hv]
  apply Dir.listFiles_congr
  intro q hq
  have hindex := under_vectorsDir hq
  have hmanifest : q ≠ manifestPath := by
    rintro rfl
    exact absurd hindex (by decide)
  have hobjects : q ∉
      (source.objects.map fun object => (object.path, object.stored)).map Prod.fst := by
    intro hp
    have := head_of_mem_objects ho hp
    rw [hindex] at this
    exact absurd this (by decide)
  have hdb : Vault.dbPath ≠ q := by
    rintro rfl
    exact absurd hindex (by decide)
  rw [h.get_eq hmanifest, hv, Dir.get_foldl_write (Dir.nodup_listFiles _ _),
    Dir.lookup_listFiles, if_pos hq, Dir.get_foldl_write_of_not_mem hobjects, Dir.get_write,
    if_neg hdb, Dir.get_empty, Option.or_none]

end IsExport

end Export

end KnowledgeCore
