import KnowledgeCore.Lib.PathOrder
import KnowledgeCore.Verifier.Tamper

/-!
# The verification of an archive

An export can be packed into an archive, with its files in the order of their paths. The verifier
checks the entries of an archive before it unpacks them: how they are stored, and that their names
are in order. The order of the names is not always that of the paths.
-/

namespace KnowledgeCore

namespace Verifier

open Export (ExportOptions relPath relForPath renderPath createDeterministicZip exportBundle)

/-! ### Archives -/

inductive CompressionMethod
  | stored
  | deflated
deriving DecidableEq

def CompressionMethod.debug : CompressionMethod → String
  | .stored => "Stored"
  | .deflated => "Deflated"

structure ZipDateTime where
  year : Nat
  month : Nat
  day : Nat
  hour : Nat
  minute : Nat
  second : Nat
deriving DecidableEq

/-- An entry of an archive. Its bytes may turn out not to be readable. -/
structure ZipEntry where
  name : String
  compression : CompressionMethod
  lastModified : Option ZipDateTime
  unixMode : Option Nat
  bytes : Except String Content

def zipFixedTime : ZipDateTime where
  year := 1980
  month := 1
  day := 1
  hour := 0
  minute := 0
  second := 0

/-- The entry that is written for a file of a bundle. -/
def zipEntry (file : RelPath × Content) : ZipEntry where
  name := relForPath file.1
  compression := .stored
  lastModified := some zipFixedTime
  unixMode := some 0o100644
  bytes := .ok file.2

/-- The entries of the archive of a bundle. -/
def zipEntries (bundle : Dir Content) : List ZipEntry :=
  (bundle.listFiles []).map zipEntry

/-- The archive of a bundle has the names and the bytes of its entries. -/
theorem createDeterministicZip_eq (bundle : Dir Content) :
  ∃ entries, createDeterministicZip bundle = .zip entries
    ∧ (zipEntries bundle).map (fun e => (e.name, e.bytes))
      = entries.map fun e => (e.1, Except.ok e.2)
  := by
  refine ⟨_, rfl, ?_⟩
  rw [zipEntries, List.map_map, List.map_map]
  rfl

/-! ### The check of the entries -/

def zipMetadataInvalid (path expected actual : String) : VerifyErrorEntry where
  code := "ZIP_METADATA_INVALID"
  path := path
  expected := some expected
  actual := some actual

/-- The digits of a number, with zeros in front up to a width. -/
def padded (base width n : Nat) : String :=
  let digits := Nat.toDigits base n
  String.ofList (List.replicate (width - digits.length) '0' ++ digits)

def isZipTimeNormalized (dt : ZipDateTime) : Bool :=
  dt.year = 1980 ∧ dt.month = 1 ∧ dt.day = 1 ∧ dt.hour = 0 ∧ dt.minute = 0 ∧ dt.second = 0

def ZipDateTime.display (dt : ZipDateTime) : String :=
  padded 10 4 dt.year ++ "-" ++ padded 10 2 dt.month ++ "-" ++ padded 10 2 dt.day ++ "T"
    ++ padded 10 2 dt.hour ++ ":" ++ padded 10 2 dt.minute ++ ":" ++ padded 10 2 dt.second ++ "Z"

def compressionErrors (entry : ZipEntry) : List VerifyErrorEntry :=
  if entry.compression ≠ .stored then
    [zipMetadataInvalid entry.name "compression=stored"
      ("compression=" ++ entry.compression.debug)]
  else []

def timeErrors (entry : ZipEntry) : List VerifyErrorEntry :=
  match entry.lastModified with
  | some dt =>
    if isZipTimeNormalized dt then []
    else [zipMetadataInvalid entry.name "mtime=1980-01-01T00:00:00Z" ("mtime=" ++ dt.display)]
  | none => [zipMetadataInvalid entry.name "mtime=1980-01-01T00:00:00Z" "mtime=missing"]

/-- The last nine bits of the mode have to be those of a plain file. -/
def modeErrors (entry : ZipEntry) : List VerifyErrorEntry :=
  let mode := entry.unixMode.getD 0o644 % 0o1000
  if mode ≠ 0o644 then
    [zipMetadataInvalid entry.name "mode=0644" ("mode=" ++ padded 8 4 mode)]
  else []

def entryErrors (entry : ZipEntry) : List VerifyErrorEntry :=
  compressionErrors entry ++ timeErrors entry ++ modeErrors entry

/-- The path to unpack an entry to, if its name is that of a path below the directory. -/
def safeZipRelativePath (name : String) : Option RelPath :=
  let pieces := PathBuf.pieces [] name.toList
  if name.toList.head? = some '/' ∨ pieces.head? = some ['.'] then none
  else if (relPath name).contains ".." ∨ relPath name = [] then none
  else some (relPath name)

/-- Unpack an entry. A file cannot stand where a directory is, nor below another file. -/
def unpackFile (dir : Dir Content) (name : String) (rel : RelPath) (bytes : Except String Content) :
  AppResult (Dir Content)
  := do
  if rel.dropLast.inits.any (fun p => dir.isFile p) then
    let error := if dir.isFile rel.dropLast then "File exists (os error 17)"
      else "Not a directory (os error 20)"
    .error (verifyFailed "failed creating extraction directory"
      (.obj [("error", .str error), ("path", .str (renderPath rel.dropLast))]))
  else do
    let bytes ← mapErr
      (fun error => verifyFailed "failed reading zip entry bytes"
        (.obj [("error", .str error), ("entry", .str name)]))
      bytes
    if !dir.isFile rel && dir.contains rel then
      .error (verifyFailed "failed writing extracted zip entry"
        (.obj [("error", .str "Is a directory (os error 21)"), ("path", .str (renderPath rel))]))
    else
      .ok (dir.write rel bytes)

/-- What the verifier knows of an archive after some of its entries. -/
structure ZipScan where
  names : List String
  errors : List VerifyErrorEntry
  dir : Dir Content

def ZipScan.start : ZipScan where
  names := []
  errors := []
  dir := Dir.empty

def isDirectoryName (name : String) : Bool :=
  name.toList.getLast? = some '/'

/-- Go through the entries of an archive: check them and unpack them. An entry may turn out not to
be readable. -/
def scanEntries (zipPath : String) :
    ZipScan → List (Except String ZipEntry) → AppResult (Except Verdict ZipScan)
  | scan, [] => .ok (.ok scan)
  | _, .error error :: _ =>
    .ok (.error (internalError zipPath ("failed reading zip entry: " ++ error) noCounts))
  | scan, .ok entry :: rest =>
    if isDirectoryName entry.name then
      scanEntries zipPath scan rest
    else
      let names := scan.names ++ [entry.name]
      let errors := scan.errors ++ entryErrors entry
      match safeZipRelativePath entry.name with
      | none =>
        scanEntries zipPath { scan with
          names
          errors := errors ++ [zipMetadataInvalid entry.name
            "relative path without traversal" "invalid path"] } rest
      | some rel => do
        let dir ← unpackFile scan.dir entry.name rel entry.bytes
        scanEntries zipPath { names, errors, dir } rest

/-- The error of an archive whose names are not in order. -/
def orderErrors (zipPath : String) (names : List String) : List VerifyErrorEntry :=
  if names ≠ names.insertionSort (· ≤ ·) then
    [zipMetadataInvalid zipPath "entries sorted lexicographically"
      "archive entry order is not deterministic"]
  else []

/-- What opening an archive leads to. -/
inductive ArchiveFile
  | notOpened (error : String)
  | notAnArchive (error : String)
  | archive (entries : List (Except String ZipEntry))

/-- Verify an archive: check its entries, and then verify the bundle that they unpack to. -/
def verifyZipBundle (ext : Externals) (validatorFor : ValidatorFor) (zipPath extractRoot : String) :
    ArchiveFile → AppResult Verdict
  | .notOpened error => .ok (invalidJson zipPath error)
  | .notAnArchive error =>
    .ok (reportFor 21
      [{
        code := "MANIFEST_SCHEMA_INVALID"
        path := zipPath
        expected := some "valid deterministic zip archive"
        actual := some error }] noCounts)
  | .archive entries => do
    match ← scanEntries zipPath .start entries with
    | .error verdict => .ok verdict
    | .ok scan =>
      let errors := scan.errors ++ orderErrors zipPath scan.names
      if !errors.isEmpty then
        .ok (reportFor 21 errors noCounts)
      else
        verifyFolderBundle ext validatorFor (.ofDir extractRoot scan.dir) "zip"

/-- Verify what is at a path: an archive, if it is a file with the extension of one, and a
directory otherwise. -/
def verifyBundle (ext : Externals) (validatorFor : ValidatorFor) (isFile : Bool) (folder : Folder)
    (extractRoot : String) (archive : ArchiveFile) :
  AppResult Verdict
  :=
  if isFile && (PathBuf.extension folder.path).any (fun e => e.map Char.toLower = "zip") then
    verifyZipBundle ext validatorFor folder.path extractRoot archive
  else
    verifyFolderBundle ext validatorFor folder "folder"

/-! ### Deterministic archives -/

/-- The names of the entries that are files. -/
def entryNames (entries : List ZipEntry) : List String :=
  (entries.map ZipEntry.name).filter (fun name => !isDirectoryName name)

/-- The entries of an archive pass the checks of the compression, the times, the modes and the
order. -/
structure IsDeterministic (zipPath : String) (entries : List ZipEntry) : Prop where
  metadata : ∀ entry ∈ entries, isDirectoryName entry.name = false → entryErrors entry = []
  order : orderErrors zipPath (entryNames entries) = []

/-- Going through entries collects their names and their errors. -/
theorem scanEntries_eq_ok {zipPath : String} {scan : ZipScan} {entries : List ZipEntry}
    {scanned : Except Verdict ZipScan}
    (h : scanEntries zipPath scan (entries.map .ok) = .ok scanned) :
  ∃ last, scanned = .ok last
    ∧ last.names = scan.names ++ entryNames entries
    ∧ scan.errors ⊆ last.errors
    ∧ ∀ entry ∈ entries, isDirectoryName entry.name = false → entryErrors entry ⊆ last.errors
  := by
  induction entries generalizing scan with
  | nil =>
    cases h
    exact ⟨scan, rfl, by simp [entryNames], List.Subset.refl _, by simp⟩
  | cons entry entries ih =>
    rw [List.map_cons, scanEntries] at h
    split at h
    · next hdirectory =>
      obtain ⟨last, hlast, hnames, herrors, hrest⟩ := ih h
      refine ⟨last, hlast, ?_, herrors, ?_⟩
      · rw [hnames]
        simp [entryNames, hdirectory]
      · intro entry' hentry hfile
        obtain rfl | hmem := List.mem_cons.mp hentry
        · rw [hfile] at hdirectory
          cases hdirectory
        · exact hrest entry' hmem hfile
    · next hfile =>
      have hstep : ∃ next, scanEntries zipPath next (entries.map .ok) = .ok scanned
          ∧ next.names = scan.names ++ [entry.name]
          ∧ scan.errors ++ entryErrors entry ⊆ next.errors := by
        split at h
        · exact ⟨_, h, rfl, List.subset_append_left _ _⟩
        · obtain ⟨dir, -, h⟩ := AppResult.bind_eq_ok.mp h
          exact ⟨_, h, rfl, List.Subset.refl _⟩
      obtain ⟨next, h, hnext, hsubset⟩ := hstep
      obtain ⟨last, hlast, hnames, herrors, hrest⟩ := ih h
      have hsubset := List.append_subset.mp (List.Subset.trans hsubset herrors)
      refine ⟨last, hlast, ?_, hsubset.1, ?_⟩
      · rw [hnames, hnext, List.append_assoc]
        simp [entryNames, hfile]
      · intro entry' hentry hfile'
        obtain rfl | hmem := List.mem_cons.mp hentry
        · exact hsubset.2
        · exact hrest entry' hmem hfile'

/-- An archive that the verifier accepts is deterministic. -/
theorem isDeterministic_of_verifyZipBundle {ext : Externals} {validatorFor : ValidatorFor}
    {zipPath extractRoot : String} {entries : List ZipEntry} {report : VerifyReportV1}
    (h : verifyZipBundle ext validatorFor zipPath extractRoot (.archive (entries.map .ok))
      = .ok (0, report)) :
  IsDeterministic zipPath entries
  := by
  rw [verifyZipBundle] at h
  obtain ⟨scanned, hscan, h⟩ := AppResult.bind_eq_ok.mp h
  obtain ⟨last, rfl, hnames, -, herrors⟩ := scanEntries_eq_ok hscan
  dsimp only at h
  split at h
  · simp [reportFor] at h
  · next hempty =>
    obtain ⟨hnone, horder⟩ := List.append_eq_nil_iff.mp
      (List.isEmpty_iff.mp (by simpa using hempty))
    constructor
    · intro entry hentry hfile
      have hsubset := herrors entry hentry hfile
      rw [hnone] at hsubset
      exact List.subset_nil.mp hsubset
    · rw [hnames] at horder
      exact horder

/-! ### The order of the names -/

theorem compare_eq_lt_iff {p q : RelPath} :
  compare p q = .lt ↔ p.map String.toList < q.map String.toList
  := by
  induction p generalizing q with
  | nil => cases q <;> simp
  | cons a p ih =>
    cases q with
    | nil => simp
    | cons b q =>
      rw [List.compare_cons_cons, Ordering.then_eq_lt, ih, List.map_cons, List.map_cons,
        List.cons_lt_cons_iff, String.toList_inj]
      have hlt : compare a b = .lt ↔ a < b := compareOfLessAndEq_eq_lt
      rw [hlt, Std.LawfulEqCmp.compare_eq_iff_eq, String.lt_iff]

/-- In a list that is in order, a relation holds from earlier to later elements exactly if it
holds of all elements that are in order. -/
theorem pairwise_iff_of_sorted {α : Type} {lt R : α → α → Prop} {l : List α}
    (hl : l.Pairwise lt) (hasymm : ∀ a b, lt a b → ¬ lt b a) :
  l.Pairwise R ↔ ∀ a ∈ l, ∀ b ∈ l, lt a b → R a b
  := by
  constructor
  · intro h
    induction l with
    | nil =>
      intro a ha
      cases ha
    | cons x l ih =>
      obtain ⟨hx, hl⟩ := List.pairwise_cons.mp hl
      obtain ⟨hRx, hR⟩ := List.pairwise_cons.mp h
      intro a ha b hb hab
      obtain rfl | ha' := List.mem_cons.mp ha
      · obtain rfl | hb' := List.mem_cons.mp hb
        · exact absurd hab (hasymm _ _ hab)
        · exact hRx b hb'
      · obtain rfl | hb' := List.mem_cons.mp hb
        · exact absurd (hx a ha') (hasymm _ _ hab)
        · exact ih hl hR a ha' b hb' hab
  · intro h
    apply hl.imp_of_mem
    intro a b ha hb hab
    exact h a ha b hb hab

/-- The files of a bundle that an archive has as files. -/
def IsEntry (bundle : Dir Content) (p : RelPath) : Prop :=
  (bundle.get p).isSome = true ∧ isDirectoryName (relForPath p) = false

theorem entryErrors_zipEntry (file : RelPath × Content) :
  entryErrors (zipEntry file) = []
  := by
  simp [entryErrors, compressionErrors, timeErrors, modeErrors, zipEntry, zipFixedTime,
    isZipTimeNormalized]

theorem orderErrors_eq_nil {zipPath : String} {names : List String} :
  orderErrors zipPath names = [] ↔ names.Pairwise (· ≤ ·)
  := by
  have hsorted : names = names.insertionSort (· ≤ ·) ↔ names.Pairwise (· ≤ ·) := by
    constructor
    · intro h
      rw [h]
      apply List.pairwise_insertionSort
    · intro h
      exact h.insertionSort_eq.symm
  rw [← hsorted, orderErrors]
  split
  · next h => simp [h]
  · next h => simpa using h

theorem mem_listFiles_root {bundle : Dir Content} {p : RelPath} :
  (∃ bytes, (p, bytes) ∈ bundle.listFiles []) ↔ (bundle.get p).isSome = true
  := by
  simp [Dir.mem_listFiles, Dir.under, Option.isSome_iff_exists]

/-- The names of the entries of a bundle are ordered like the paths of its files. -/
def NamesFollowPaths (bundle : Dir Content) : Prop :=
  ∀ p q, IsEntry bundle p → IsEntry bundle q → compare p q = .lt → relForPath p ≤ relForPath q

/-- Of the checks of an archive only that of the order can fail, and it does not fail exactly if
the names of the entries are ordered like the paths. -/
theorem isDeterministic_zipEntries_iff (zipPath : String) (bundle : Dir Content) :
  IsDeterministic zipPath (zipEntries bundle) ↔ NamesFollowPaths bundle
  := by
  have hnames : entryNames (zipEntries bundle) = ((bundle.listFiles []).filter
      fun file => !isDirectoryName (relForPath file.1)).map fun file => relForPath file.1 := by
    rw [entryNames, zipEntries, List.map_map, List.filter_map]
    rfl
  have hordered : ((bundle.listFiles []).filter
      fun file => !isDirectoryName (relForPath file.1)).Pairwise
      fun a b => compare a.1 b.1 = .lt :=
    (Std.ExtTreeMap.ordered_keys_toList.filter _).filter _
  have hasymm : ∀ a b : RelPath × Content, compare a.1 b.1 = .lt → ¬ compare b.1 a.1 = .lt := by
    intro a b hab
    exact Std.OrientedCmp.not_lt_of_lt hab
  have horder : orderErrors zipPath (entryNames (zipEntries bundle)) = []
      ↔ NamesFollowPaths bundle := by
    rw [NamesFollowPaths, orderErrors_eq_nil, hnames, List.pairwise_map, pairwise_iff_of_sorted hordered hasymm]
    constructor
    · intro h p q hp hq
      obtain ⟨bytes, hbytes⟩ := mem_listFiles_root.mpr hp.1
      obtain ⟨bytes', hbytes'⟩ := mem_listFiles_root.mpr hq.1
      exact h (p, bytes) (List.mem_filter.mpr ⟨hbytes, by simp [hp.2]⟩) (q, bytes')
        (List.mem_filter.mpr ⟨hbytes', by simp [hq.2]⟩)
    · intro h a ha b hb
      obtain ⟨ha, hafile⟩ := List.mem_filter.mp ha
      obtain ⟨hb, hbfile⟩ := List.mem_filter.mp hb
      exact h a.1 b.1 ⟨mem_listFiles_root.mp ⟨a.2, ha⟩, by simpa using hafile⟩
        ⟨mem_listFiles_root.mp ⟨b.2, hb⟩, by simpa using hbfile⟩
  rw [← horder]
  constructor
  · intro h
    exact h.order
  · intro h
    refine ⟨?_, h⟩
    intro entry hentry _
    obtain ⟨file, -, rfl⟩ := List.mem_map.mp hentry
    exact entryErrors_zipEntry file

/-! ### Names without backslashes -/

/-- The file names of a bundle are names without a backslash. -/
def HasPlainNames (bundle : Dir Content) : Prop :=
  ∀ p, (bundle.get p).isSome = true → ∀ name ∈ p, IsName name ∧ '\\' ∉ name.toList

theorem toList_renderPath (p : RelPath) :
  (renderPath p).toList = ['/'].intercalate (p.map String.toList)
  := by
  rw [renderPath, String.toList_intercalate]
  rfl

theorem mem_toList_renderPath {p : RelPath} {c : Char} (h : c ∈ (renderPath p).toList) :
  c = '/' ∨ ∃ name ∈ p, c ∈ name.toList
  := by
  induction p with
  | nil => simp [renderPath] at h
  | cons name p ih =>
    rw [toList_renderPath, List.map_cons, PathOrder.intercalate_cons, List.mem_append] at h
    obtain h | h := h
    · right
      exact ⟨name, List.mem_cons_self .., h⟩
    · cases p with
      | nil => cases h
      | cons name' p =>
        rw [List.map_cons, PathOrder.tail, List.mem_cons] at h
        obtain rfl | h := h
        · left
          rfl
        · rw [← List.map_cons, ← toList_renderPath] at h
          obtain hslash | ⟨name'', hname, hc⟩ := ih h
          · left
            exact hslash
          · right
            exact ⟨name'', List.mem_cons_of_mem _ hname, hc⟩

theorem relForPath_eq_renderPath {p : RelPath} (h : ∀ name ∈ p, '\\' ∉ name.toList) :
  relForPath p = renderPath p
  := by
  apply String.toList_inj.mp
  rw [relForPath, String.toList_ofList]
  have hsame : ∀ c ∈ (renderPath p).toList, (if c = '\\' then '/' else c) = c := by
    intro c hc
    rw [if_neg]
    rintro rfl
    obtain hslash | ⟨name, hname, hmem⟩ := mem_toList_renderPath hc
    · exact absurd hslash (by decide)
    · exact h name hname hmem
  rw [List.map_congr_left hsame, List.map_id']

/-- A path of names does not end with a separator. -/
theorem isDirectoryName_renderPath {p : RelPath} (h : ∀ name ∈ p, IsName name) :
  isDirectoryName (renderPath p) = false
  := by
  rw [isDirectoryName, decide_eq_false_iff_not]
  induction p with
  | nil => decide
  | cons name p ih =>
    have hname := h name (List.mem_cons_self ..)
    rw [toList_renderPath, List.map_cons, PathOrder.intercalate_cons]
    cases p with
    | nil =>
      rw [List.map_nil, PathOrder.tail, List.append_nil]
      intro hlast
      exact hname.no_slash (List.mem_of_getLast? hlast)
    | cons name' p =>
      have hrest := ih fun n hn => h n (List.mem_cons_of_mem _ hn)
      have hne : (renderPath (name' :: p)).toList ≠ [] := by
        have hname' := h name' (by simp)
        rw [toList_renderPath, List.map_cons, PathOrder.intercalate_cons]
        simp [hname'.nonempty]
      rw [List.map_cons, PathOrder.tail, ← List.map_cons, ← toList_renderPath]
      rw [List.getLast?_append_of_ne_nil _ (List.cons_ne_nil _ _)]
      rw [← List.singleton_append, List.getLast?_append_of_ne_nil _ hne]
      exact hrest

/-- What the checks of the archive of a bundle come to. In terms of the file names, no directory of
the bundle may have a sibling whose name goes on after that of the directory with a character
below the slash. -/
theorem isDeterministic_zipEntries (zipPath : String) (bundle : Dir Content) :
  (IsDeterministic zipPath (zipEntries bundle) ↔ NamesFollowPaths bundle)
    ∧ (HasPlainNames bundle →
        (NamesFollowPaths bundle
          ↔ ∀ p q, (bundle.get p).isSome = true → (bundle.get q).isSome = true →
              ¬ PathOrder.Clashes '/' (p.map String.toList) (q.map String.toList)))
  := by
  use isDeterministic_zipEntries_iff zipPath bundle
  intro hplain
  have hentry : ∀ p, (bundle.get p).isSome = true →
      relForPath p = renderPath p ∧ IsEntry bundle p := by
    intro p hp
    have heq := relForPath_eq_renderPath fun name hname => (hplain p hp name hname).2
    use heq, hp
    rw [heq]
    exact isDirectoryName_renderPath fun name hname => (hplain p hp name hname).1
  have hslash : ∀ q, (bundle.get q).isSome = true → ∀ b ∈ q.map String.toList, '/' ∉ b := by
    intro q hq b hb
    obtain ⟨name, hname, rfl⟩ := List.mem_map.mp hb
    exact (hplain q hq name hname).1.no_slash
  constructor
  · intro h p q hp hq hclash
    have hlt := PathOrder.lt_of_clashes hclash
    have hle := h p q (hentry p hp).2 (hentry q hq).2 (compare_eq_lt_iff.mpr hlt)
    have hgt := (PathOrder.intercalate_lt_iff (hslash q hq) hlt).mpr hclash
    rw [← toList_renderPath, ← toList_renderPath, ← String.lt_iff] at hgt
    rw [(hentry p hp).1, (hentry q hq).1] at hle
    exact absurd hgt (not_lt.mpr hle)
  · intro h p q hp hq hlt
    rw [(hentry p hp.1).1, (hentry q hq.1).1]
    apply not_lt.mp
    intro hgt
    rw [String.lt_iff, toList_renderPath, toList_renderPath,
      PathOrder.intercalate_lt_iff (hslash q hq.1) (compare_eq_lt_iff.mp hlt)] at hgt
    exact h p q hp.1 hq.1 hgt

/-! ### Two names that are out of order -/

namespace Sample

open KnowledgeCore.Sample (ext host)

def zipOptions : ExportOptions where
  includeVectors := true
  asZip := true

/-- A vault whose vector index has a directory, and a file whose name starts like it. -/
def vectorVault : Dir Content :=
  (uuidVault.write ["index", "vectors", "lancedb", "data"] (.text "rows")).write
    ["index", "vectors", "lancedb-v1"] (.text "old")

/-- What the verifier says of the archive of a bundle. -/
def archiveVerdict (bundle : Dir Content) : AppResult Verdict :=
  verifyBundle ext validatorFor true (.ofDir "/export.zip" Dir.empty) "/tmp/verify"
    (.archive ((zipEntries bundle).map .ok))

end Sample

/-- The archive of an export of a vault fails the check of the order, and is refused. -/
theorem zipEntries_lancedb_not_deterministic :
  ∃ bundle report,
    exportBundle KnowledgeCore.Sample.ext KnowledgeCore.Sample.host Sample.vectorVault
      Sample.zipOptions = .ok bundle
    ∧ ¬ IsDeterministic "/export.zip" (zipEntries bundle)
    ∧ Sample.archiveVerdict bundle = .ok (21, report)
  := by
  obtain ⟨bundle, hexport, hp⟩ := exists_of_any
    (x := exportBundle KnowledgeCore.Sample.ext KnowledgeCore.Sample.host Sample.vectorVault
      Sample.zipOptions)
    (p := fun bundle => !(orderErrors "/export.zip" (entryNames (zipEntries bundle))).isEmpty
      && (Sample.archiveVerdict bundle).toOption.any fun verdict => verdict.1 == 21)
    (by decide +kernel)
  obtain ⟨horder, hverdict⟩ := Bool.and_eq_true _ _ ▸ hp
  obtain ⟨⟨code, report⟩, hverdict, hcode⟩ := exists_of_any hverdict
  obtain rfl : code = 21 := beq_iff_eq.mp hcode
  use bundle, report, hexport
  refine ⟨?_, hverdict⟩
  intro h
  rw [h.order] at horder
  cases horder

end Verifier

end KnowledgeCore
