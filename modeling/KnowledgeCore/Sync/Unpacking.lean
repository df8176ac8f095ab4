import KnowledgeCore.Sync.Frame

/-!
# Unpacking archives

The archive of a snapshot comes from the target, with entry names that anyone who can write there
may choose. It is unpacked into a directory file by file. The pull checks it against limits before
it writes the first file, the merge preview does not.
-/

namespace KnowledgeCore

namespace Sync

/-! ### Unpacking file by file -/

/-- What the archive library tells of an entry before it reads it. -/
structure ZipEntryHeader where
  name : String
  size : Nat

/-- An archive that the library has opened: its entries by their index, and what reading the entry
of a name gives. -/
structure ZipArchive where
  byIndex : List (Except String ZipEntryHeader)
  byName : String → Except String Content

/-- What the archive library makes of a byte string. -/
abbrev ZipReader := Content → Except String ZipArchive

/-- What the file system does while an archive is unpacked: which directories and files it does
not create, and of which files it writes only a part. -/
structure UnpackMoment where
  refuses : String → Bool
  cutsOff : String → Option Content

/-- A file that has been written, and what it holds. -/
abbrev WrittenFile := String × Content

def isDirectoryEntry (name : String) : Bool :=
  name.toList.getLast? = some '/'

/-- Check an entry against the limits, given how many came before. -/
def checkEntry (limits : SyncSnapshotResourceLimits) (count : Nat) (file : ZipEntryHeader) :
  AppResult Unit
  :=
  if count + 1 > limits.maxEntries then
    .error (resourceLimitExceeded "sync snapshot zip exceeds configured entry limit"
      [("entries", .int (count + 1)), ("max_entries", .int limits.maxEntries)])
  else if file.size > limits.maxEntryBytes then
    .error (resourceLimitExceeded "sync snapshot zip entry exceeds configured byte limit"
      [("entry", .str file.name), ("bytes", .int file.size),
        ("max_entry_bytes", .int limits.maxEntryBytes)])
  else
    .ok ()

/-- Check an entry if there are limits. -/
def checkLimits (limits : Option SyncSnapshotResourceLimits) (count : Nat)
    (file : ZipEntryHeader) : AppResult Unit
  :=
  match limits with
  | some limits => checkEntry limits count file
  | none => .ok ()

/-- The names of the files of an archive, checked against the limits if there are any. -/
def entryNames (limits : Option SyncSnapshotResourceLimits) :
    (index count : Nat) → List (Except String ZipEntryHeader) → AppResult (List String)
  | _, _, [] => .ok []
  | index, _, .error error :: _ =>
    .error (targetInvalid "failed reading zip entry during sync snapshot unpack"
      [("error", .str error), ("index", .int index)])
  | index, count, .ok file :: rest =>
    if isDirectoryEntry file.name then
      entryNames limits (index + 1) count rest
    else do
      checkLimits limits count file
      let names ← entryNames limits (index + 1) (count + 1) rest
      .ok (file.name :: names)

/-- Write the files of the given names. The second part is what has been written, whether or not
all of it could be. -/
def writeFiles (moment : UnpackMoment) (zip : ZipArchive) (outputDir : String) :
    List String → AppResult Unit × List WrittenFile
  | [] => (.ok (), [])
  | name :: rest =>
    match safeZipRelativePath name with
    | .error e => (.error e, [])
    | .ok rel =>
      match zip.byName name with
      | .error error =>
        (.error (targetInvalid "failed opening zip entry by name during sync snapshot unpack"
          [("error", .str error), ("name", .str name)]), [])
      | .ok content =>
        let outPath := PathBuf.join outputDir (Export.renderPath rel)
        if moment.refuses outPath then
          (.error (targetInvalid "failed creating zip unpack file"
            [("error", .str "No space left on device"), ("path", .str outPath)]), [])
        else
          match moment.cutsOff outPath with
          | some part =>
            (.error (targetInvalid "failed writing zip unpack file"
              [("error", .str "No space left on device"), ("path", .str outPath)]),
              [(outPath, part)])
          | none =>
            let (result, written) := writeFiles moment zip outputDir rest
            (result, (outPath, content) :: written)

/-- Check the size of an archive. -/
def checkArchiveBytes (ext : Externals) (archive : Content) :
    Option SyncSnapshotResourceLimits → AppResult Unit
  | some limits =>
    if ext.byteLen archive > limits.maxArchiveBytes then
      .error (resourceLimitExceeded "sync snapshot archive exceeds configured byte limit"
        [("bytes", .int (ext.byteLen archive)),
          ("max_archive_bytes", .int limits.maxArchiveBytes)])
    else
      .ok ()
  | none => .ok ()

def createOutputDir (moment : UnpackMoment) (outputDir : String) : AppResult Unit :=
  if moment.refuses outputDir then
    .error (targetInvalid "failed creating zip unpack directory"
      [("error", .str "No space left on device"), ("path", .str outputDir)])
  else
    .ok ()

/-- What happens before the first file is written: the archive, and the names of its files in
order. -/
def openSnapshotZip (ext : Externals) (reader : ZipReader) (moment : UnpackMoment)
    (archive : Content) (outputDir : String) (limits : Option SyncSnapshotResourceLimits) :
  AppResult (ZipArchive × List String)
  := do
  checkArchiveBytes ext archive limits
  createOutputDir moment outputDir
  let zip ← mapErr
    (fun error => targetInvalid "failed opening sync snapshot zip" [("error", .str error)])
    (reader archive)
  let names ← entryNames limits 0 0 zip.byIndex
  .ok (zip, names.insertionSort (· ≤ ·))

/-- `unpack_zip_snapshot_with_limits`, with the files that it leaves. -/
def unpackZipSnapshot (ext : Externals) (reader : ZipReader) (moment : UnpackMoment)
    (archive : Content) (outputDir : String) (limits : Option SyncSnapshotResourceLimits) :
  AppResult Unit × List WrittenFile
  :=
  match openSnapshotZip ext reader moment archive outputDir limits with
  | .error e => (.error e, [])
  | .ok (zip, names) => writeFiles moment zip outputDir names

/-! ### The directory that is unpacked -/

/-- How the library reads the archives it has written. -/
def plainReader (ext : Externals) : ZipReader
  | .zip entries => .ok {
      byIndex := entries.map fun entry => .ok { name := entry.1, size := ext.byteLen entry.2 }
      byName name :=
        match (entries.filter fun entry => entry.1 = name).getLast? with
        | some entry => .ok entry.2
        | none => .error "specified file not found in archive" }
  | _ => .error "invalid Zip archive"

/-- A file system that has room. -/
def untroubled : UnpackMoment where
  refuses _ := false
  cutsOff _ := none

section Plain

variable {ext : Externals}

/-- The check of the entries of an archive, if there are limits. -/
def checkAll (ext : Externals) (limits : Option SyncSnapshotResourceLimits) (count : Nat)
    (files : List (String × Content)) : AppResult Unit
  :=
  match limits with
  | some limits => checkEntries ext limits count files
  | none => .ok ()

theorem checkAll_cons (limits : Option SyncSnapshotResourceLimits) (count : Nat)
    (file : String × Content) (files : List (String × Content)) :
  checkAll ext limits count (file :: files)
    = checkLimits limits count { name := file.1, size := ext.byteLen file.2 } >>= fun _ =>
      checkAll ext limits (count + 1) files
  := by
  cases limits with
  | none => rfl
  | some limits =>
    simp only [checkAll, checkEntries, checkLimits, checkEntry]
    split
    · rfl
    · split <;> rfl

theorem entryNames_plain (limits : Option SyncSnapshotResourceLimits) (index count : Nat)
    (entries : List (String × Content)) :
  entryNames limits index count
      (entries.map fun entry => .ok { name := entry.1, size := ext.byteLen entry.2 })
    = checkAll ext limits count (entries.filter fun entry => entry.1.toList.getLast? ≠ some '/')
      >>= fun _ =>
        .ok ((entries.filter fun entry => entry.1.toList.getLast? ≠ some '/').map Prod.fst)
  := by
  induction entries generalizing index count with
  | nil => cases limits <;> rfl
  | cons entry rest ih =>
    rw [List.map_cons, entryNames]
    by_cases hdir : entry.1.toList.getLast? = some '/'
    · have hskip : isDirectoryEntry entry.1 = true := decide_eq_true hdir
      rw [if_pos hskip, ih, List.filter_cons_of_neg (by simpa using hdir)]
    · have hkeep : ¬ isDirectoryEntry entry.1 = true := by
        rw [isDirectoryEntry, decide_eq_true_eq]
        exact hdir
      rw [if_neg hkeep, ih, List.filter_cons_of_pos (by simpa using hdir), checkAll_cons]
      cases checkLimits limits count { name := entry.1, size := ext.byteLen entry.2 } with
      | error e => rfl
      | ok _ =>
        rw [AppResult.ok_bind, AppResult.ok_bind]
        cases checkAll ext limits (count + 1)
            (rest.filter fun entry => entry.1.toList.getLast? ≠ some '/') <;> rfl

/-- The files are written one by one, as far as their names are those of paths. -/
theorem writeFiles_plain {entries : List (String × Content)} {zip : ZipArchive}
    (hreads : ∀ entry ∈ entries, ∃ content, zip.byName entry.1 = .ok content)
    (outputDir : String) (d : Dir Content) :
  (writeFiles untroubled zip outputDir (entries.map Prod.fst)).1
    = (writeEntries d entries).map fun _ => ()
  := by
  induction entries generalizing d with
  | nil => rfl
  | cons entry rest ih =>
    obtain ⟨content, hcontent⟩ := hreads entry List.mem_cons_self
    have hrest := ih fun entry' hmem => hreads entry' (List.mem_cons_of_mem entry hmem)
    rw [List.map_cons, writeFiles, writeEntries]
    cases safeZipRelativePath entry.1 with
    | error e => rfl
    | ok rel =>
      rw [hcontent, AppResult.ok_bind, ← hrest (d.write rel entry.2)]
      rfl

theorem exists_byName {entries : List (String × Content)} {entry : String × Content}
    (hmem : entry ∈ entries) {zip : ZipArchive}
    (h : plainReader ext (.zip entries) = .ok zip) :
  ∃ content, zip.byName entry.1 = .ok content
  := by
  cases h
  have hne : (entries.filter fun e => e.1 = entry.1) ≠ [] := by
    apply List.ne_nil_of_mem
    rw [List.mem_filter]
    exact ⟨hmem, by simp⟩
  dsimp only
  rw [List.getLast?_eq_some_getLast hne]
  exact ⟨_, rfl⟩

theorem unpackZipSnapshotWithLimits_zip (entries : List (String × Content))
    (limits : Option SyncSnapshotResourceLimits) :
  unpackZipSnapshotWithLimits ext (.zip entries) limits
    = checkArchiveBytes ext (.zip entries) limits >>= fun _ =>
      checkAll ext limits 0 (entries.filter fun entry => entry.1.toList.getLast? ≠ some '/')
      >>= fun _ => writeEntries Dir.empty
        ((entries.filter fun entry => entry.1.toList.getLast? ≠ some '/').insertionSort
          fun a b => a.1 ≤ b.1)
  := by
  cases limits with
  | none => rfl
  | some limits =>
    rw [unpackZipSnapshotWithLimits, checkArchiveBytes]
    dsimp only
    split <;> rfl

/-- An archive that the library has written is unpacked as it is when a site unpacks it. -/
theorem unpackZipSnapshot_plain (entries : List (String × Content)) (outputDir : String)
    (limits : Option SyncSnapshotResourceLimits) :
  (unpackZipSnapshot ext (plainReader ext) untroubled (.zip entries) outputDir limits).1
    = (unpackZipSnapshotWithLimits ext (.zip entries) limits).map fun _ => ()
  := by
  rw [unpackZipSnapshotWithLimits_zip, unpackZipSnapshot, openSnapshotZip]
  cases checkArchiveBytes ext (.zip entries) limits with
  | error e => rfl
  | ok _ =>
    cases hzip : plainReader ext (.zip entries) with
    | error e => cases hzip
    | ok zip =>
      have hindex : zip.byIndex
          = entries.map fun entry => .ok { name := entry.1, size := ext.byteLen entry.2 } := by
        cases hzip
        rfl
      have hcreate : createOutputDir untroubled outputDir = .ok () := rfl
      simp only [AppResult.ok_bind, hcreate, mapErr_ok, hindex, entryNames_plain]
      cases checkAll ext limits 0
          (entries.filter fun entry => entry.1.toList.getLast? ≠ some '/') with
      | error e => rfl
      | ok _ =>
        have hsort := List.map_insertionSort (r := fun a b : String × Content => a.1 ≤ b.1)
          (s := (· ≤ ·)) Prod.fst
          (entries.filter fun entry => entry.1.toList.getLast? ≠ some '/') fun _ _ _ _ => Iff.rfl
        simp only [AppResult.ok_bind]
        rw [← hsort]
        apply writeFiles_plain
        intro entry hmem
        apply exists_byName _ hzip
        have hmem' := (List.mem_insertionSort _).mp hmem
        exact (List.mem_filter.mp hmem').1

end Plain

/-! ### Where the files are -/

theorem splitPath_eq_pieces (piece l : List Char) :
  Export.splitPath piece l = PathBuf.pieces piece l
  := by
  induction l generalizing piece with
  | nil => rfl
  | cons c l ih => rw [Export.splitPath, PathBuf.pieces, ih, ih]

/-- The path of an entry leads down through names. -/
theorem safeZipRelativePath_eq_ok {name : String} {rel : RelPath}
    (h : safeZipRelativePath name = .ok rel) :
  rel ≠ [] ∧ ∀ part ∈ rel, PathBuf.IsPlain part
  := by
  rw [safeZipRelativePath] at h
  split at h
  · cases h
  · next hplain =>
    split at h
    · cases h
    · next hne =>
      cases h
      simp only [not_or, Bool.not_eq_false, List.all_eq_true, plainComponent,
        decide_eq_true_eq] at hplain
      constructor
      · simpa using hne
      · intro part hpart
        have hnotParent := hplain.2.2 part hpart
        rw [Export.relPath] at hpart
        obtain ⟨piece, hpiece, rfl⟩ := List.mem_map.mp hpart
        obtain ⟨hmem, hkept⟩ := List.mem_filter.mp hpiece
        rw [splitPath_eq_pieces] at hmem
        rw [decide_eq_true_eq] at hkept
        constructor
        · intro hempty
          apply hkept.1
          rw [← String.toList_ofList (l := piece), hempty]
          rfl
        · intro hdot
          apply hkept.2
          rw [← String.toList_ofList (l := piece), hdot]
          rfl
        · exact hnotParent
        · rw [String.toList_ofList]
          apply PathBuf.slash_notMem_pieces _ hmem
          simp

section Unpacking

variable {ext : Externals} {reader : ZipReader} {moment : UnpackMoment} {zip : ZipArchive}
  {archive : Content} {outputDir : String}

theorem writeFiles_confined (names : List String) :
  ∀ file ∈ (writeFiles moment zip outputDir names).2, PathBuf.StrictlyBelow outputDir file.1
  := by
  induction names with
  | nil => simp [writeFiles]
  | cons name rest ih =>
    rw [writeFiles]
    split
    · simp
    · next rel hrel =>
      obtain ⟨hne, hplain⟩ := safeZipRelativePath_eq_ok hrel
      have hbelow := PathBuf.strictlyBelow_join outputDir hne hplain
      split
      · simp
      · dsimp only
        split
        · simp
        · split
          · intro file hfile
            obtain rfl := List.mem_singleton.mp hfile
            exact hbelow
          · intro file hfile
            rcases List.mem_cons.mp hfile with rfl | hfile
            · exact hbelow
            · exact ih file hfile

/-- Every file that is written lies strictly below the directory. -/
theorem unpackZipSnapshot_confined (ext : Externals) (reader : ZipReader) (moment : UnpackMoment)
    (archive : Content) (outputDir : String) (limits : Option SyncSnapshotResourceLimits) :
  ∀ file ∈ (unpackZipSnapshot ext reader moment archive outputDir limits).2,
    PathBuf.StrictlyBelow outputDir file.1
  := by
  rw [unpackZipSnapshot]
  split
  · simp
  · apply writeFiles_confined

/-! ### What exceeds the limits -/

/-- The headers of the entries that are files. -/
def filesOf : List (Except String ZipEntryHeader) → List ZipEntryHeader
  | [] => []
  | .error _ :: rest => filesOf rest
  | .ok file :: rest =>
    if isDirectoryEntry file.name then filesOf rest else file :: filesOf rest

/-- An archive of too many bytes, of too many files, or with a file of too many bytes. -/
def Exceeds (ext : Externals) (reader : ZipReader) (limits : SyncSnapshotResourceLimits)
    (archive : Content) : Prop
  :=
  ext.byteLen archive > limits.maxArchiveBytes
    ∨ ∃ zip, reader archive = .ok zip
      ∧ ((filesOf zip.byIndex).length > limits.maxEntries
        ∨ ∃ file ∈ filesOf zip.byIndex, file.size > limits.maxEntryBytes)

theorem checkEntry_eq_ok {limits : SyncSnapshotResourceLimits} {count : Nat}
    {file : ZipEntryHeader} {u : Unit} :
  checkEntry limits count file = .ok u
    ↔ count + 1 ≤ limits.maxEntries ∧ file.size ≤ limits.maxEntryBytes
  := by
  rw [checkEntry]
  split
  · simp
    omega
  · split
    · simp
      omega
    · simp
      omega

/-- The files that follow a number of others are within the limits. -/
structure Within (limits : SyncSnapshotResourceLimits) (count : Nat)
    (files : List ZipEntryHeader) : Prop where
  entries : files ≠ [] → count + files.length ≤ limits.maxEntries
  bytes : ∀ file ∈ files, file.size ≤ limits.maxEntryBytes

/-- Names are only returned for an archive that can be read and is within the limits. -/
theorem entryNames_eq_ok {limits : Option SyncSnapshotResourceLimits} {index count : Nat}
    {entries : List (Except String ZipEntryHeader)} {names : List String}
    (h : entryNames limits index count entries = .ok names) :
  (∀ error, .error error ∉ entries) ∧ names = (filesOf entries).map ZipEntryHeader.name
    ∧ ∀ l ∈ limits, Within l count (filesOf entries)
  := by
  induction entries generalizing index count names with
  | nil =>
    cases h
    refine ⟨by simp, rfl, ?_⟩
    intro l _
    exact ⟨fun hne => absurd rfl hne, by simp [filesOf]⟩
  | cons entry rest ih =>
    cases entry with
    | error error => cases h
    | ok file =>
      rw [entryNames] at h
      rw [filesOf]
      split at h
      · next hdir =>
        obtain ⟨hread, hnames, hwithin⟩ := ih h
        rw [if_pos hdir]
        exact ⟨by simpa using hread, hnames, hwithin⟩
      · next hdir =>
        simp only [AppResult.bind_eq_ok] at h
        obtain ⟨_, hcheck, names', hnames', h⟩ := h
        cases h
        obtain ⟨hread, rfl, hwithin⟩ := ih hnames'
        rw [if_neg hdir]
        refine ⟨by simpa using hread, rfl, ?_⟩
        intro l hl
        obtain ⟨hentries, hbytes⟩ := hwithin l hl
        cases hl
        obtain ⟨hcount, hsize⟩ := checkEntry_eq_ok.mp hcheck
        constructor
        · intro _
          rw [List.length_cons]
          cases hrest : filesOf rest with
          | nil => simpa using hcount
          | cons file' files =>
            rw [hrest] at hentries
            have hlength := hentries (List.cons_ne_nil _ _)
            rw [List.length_cons] at hlength
            rw [List.length_cons]
            omega
        · intro file' hmem
          cases hmem with
          | head => exact hsize
          | tail _ hmem => exact hbytes file' hmem

/-- Without limits, names are returned for every archive that can be read. -/
theorem entryNames_none {index count : Nat} {entries : List (Except String ZipEntryHeader)}
    (h : ∀ error, .error error ∉ entries) :
  entryNames none index count entries = .ok ((filesOf entries).map ZipEntryHeader.name)
  := by
  induction entries generalizing index count with
  | nil => rfl
  | cons entry rest ih =>
    have hrest : ∀ error, .error error ∉ rest := by
      intro error hmem
      exact h error (List.mem_cons_of_mem _ hmem)
    cases entry with
    | error error => exact absurd List.mem_cons_self (h error)
    | ok file =>
      rw [entryNames, filesOf]
      split
      · exact ih hrest
      · rw [ih hrest]
        rfl

/-- An archive that exceeds the limits it is checked against is refused before a file is
written. -/
theorem unpackZipSnapshot_refuses {limits : SyncSnapshotResourceLimits}
    (h : Exceeds ext reader limits archive) :
  ∃ e, unpackZipSnapshot ext reader moment archive outputDir (some limits) = (.error e, [])
  := by
  have hopen : ∃ e, openSnapshotZip ext reader moment archive outputDir (some limits)
      = .error e := by
    cases hresult : openSnapshotZip ext reader moment archive outputDir (some limits) with
    | error e => exact ⟨e, rfl⟩
    | ok opened =>
      exfalso
      simp only [openSnapshotZip, AppResult.bind_eq_ok, mapErr_eq_ok] at hresult
      obtain ⟨_, hbytes, _, -, zip, hzip, names, hnames, -⟩ := hresult
      obtain ⟨-, -, hwithin⟩ := entryNames_eq_ok hnames
      obtain ⟨hentries, hsizes⟩ := hwithin limits rfl
      rcases h with hlarge | ⟨zip', hzip', hmany | ⟨file, hfile, hlarge⟩⟩
      · rw [checkArchiveBytes, if_pos hlarge] at hbytes
        cases hbytes
      · rw [hzip] at hzip'
        cases hzip'
        have hne : filesOf zip.byIndex ≠ [] := by
          intro hnil
          rw [hnil] at hmany
          exact absurd hmany (Nat.not_lt_zero _)
        have hle := hentries hne
        omega
      · rw [hzip] at hzip'
        cases hzip'
        have hle := hsizes file hfile
        omega
  obtain ⟨e, he⟩ := hopen
  use e
  rw [unpackZipSnapshot, he]

/-! ### What stops before a file is written -/

/-- Nothing can be written under a name. -/
def NotWritable (moment : UnpackMoment) (zip : ZipArchive) (outputDir name : String) : Prop :=
  (∃ e, safeZipRelativePath name = .error e) ∨ (∃ error, zip.byName name = .error error)
    ∨ ∃ rel, safeZipRelativePath name = .ok rel
      ∧ moment.refuses (PathBuf.join outputDir (Export.renderPath rel)) = true

/-- Without limits, unpacking stops before the first file: the directory cannot be created, the
bytes are no archive, an entry cannot be read, or the first name is one that nothing can be
written under. -/
def StopsBeforeWriting (reader : ZipReader) (moment : UnpackMoment) (archive : Content)
    (outputDir : String) : Prop
  :=
  moment.refuses outputDir = true ∨ (∃ error, reader archive = .error error)
    ∨ ∃ zip, reader archive = .ok zip ∧ ((∃ error, .error error ∈ zip.byIndex)
      ∨ ∃ name rest, ((filesOf zip.byIndex).map ZipEntryHeader.name).insertionSort (· ≤ ·)
          = name :: rest ∧ NotWritable moment zip outputDir name)

theorem writeFiles_stops {names : List String} :
  (∃ e, writeFiles moment zip outputDir names = (.error e, []))
    ↔ ∃ name rest, names = name :: rest ∧ NotWritable moment zip outputDir name
  := by
  cases names with
  | nil => simp [writeFiles]
  | cons name rest =>
    rw [writeFiles]
    constructor
    · rintro ⟨e, h⟩
      use name, rest, rfl
      split at h
      · next e hrisky => exact Or.inl ⟨e, hrisky⟩
      · next rel hrel =>
        split at h
        · next error hread => exact Or.inr (Or.inl ⟨error, hread⟩)
        · dsimp only at h
          split at h
          · next hrefused => exact Or.inr (Or.inr ⟨rel, hrel, hrefused⟩)
          · split at h
            · cases h
            · exact absurd (congrArg Prod.snd h) (List.cons_ne_nil _ _)
    · rintro ⟨name', rest', hcons, hfails⟩
      cases hcons
      rcases hfails with ⟨e, hrisky⟩ | ⟨error, hread⟩ | ⟨rel, hrel, hrefused⟩
      · rw [hrisky]
        exact ⟨e, rfl⟩
      · rw [hread]
        cases safeZipRelativePath name with
        | error e => exact ⟨e, rfl⟩
        | ok rel => exact ⟨_, rfl⟩
      · rw [hrel]
        cases zip.byName name with
        | error error => exact ⟨_, rfl⟩
        | ok content =>
          dsimp only
          rw [if_pos hrefused]
          exact ⟨_, rfl⟩

theorem unpackZipSnapshot_stops :
  (∃ e, unpackZipSnapshot ext reader moment archive outputDir none = (.error e, []))
    ↔ StopsBeforeWriting reader moment archive outputDir
  := by
  rw [unpackZipSnapshot, openSnapshotZip, createOutputDir, StopsBeforeWriting]
  have hbytes : checkArchiveBytes ext archive none = .ok () := rfl
  rw [hbytes, AppResult.ok_bind]
  by_cases hrefused : moment.refuses outputDir = true
  · simp [hrefused]
  · rw [if_neg hrefused, AppResult.ok_bind, or_iff_right hrefused]
    cases hzip : reader archive with
    | error error => simp
    | ok zip =>
      rw [mapErr_ok, AppResult.ok_bind]
      by_cases hread : ∃ error, .error error ∈ zip.byIndex
      · obtain ⟨error, hmem⟩ := hread
        have hnames : ∃ e, entryNames none 0 0 zip.byIndex = .error e := by
          cases hresult : entryNames none 0 0 zip.byIndex with
          | error e => exact ⟨e, rfl⟩
          | ok names => exact absurd hmem ((entryNames_eq_ok hresult).1 error)
        obtain ⟨e, he⟩ := hnames
        rw [he, AppResult.error_bind]
        constructor
        · intro _
          right
          exact ⟨zip, rfl, Or.inl ⟨error, hmem⟩⟩
        · intro _
          exact ⟨e, rfl⟩
      · rw [entryNames_none (not_exists.mp hread), AppResult.ok_bind]
        dsimp only
        rw [writeFiles_stops]
        constructor
        · intro h
          right
          exact ⟨zip, rfl, Or.inr h⟩
        · rintro (⟨error, he⟩ | ⟨zip', hzip', hmem | h⟩)
          · cases he
          · cases hzip'
            exact absurd hmem hread
          · cases hzip'
            exact h

/-! ### The flows -/

/-- The places where the archive of a snapshot is unpacked: in the pull, under its lock, and in the
merge preview, for the snapshot of the head and for the one both sides started from. -/
inductive UnpackFlow
  | pull
  | previewRemote
  | previewBase
deriving DecidableEq

/-- The limits that a flow unpacks with. -/
def UnpackFlow.limits : UnpackFlow → Option SyncSnapshotResourceLimits
  | pull => some syncSnapshotLimits
  | previewRemote => none
  | previewBase => none

/-- What is asked of unpacking in a flow: it writes below the directory only, and refuses an
archive that exceeds the limits before it writes a file. -/
structure UnpacksSafely (ext : Externals) (reader : ZipReader) (moment : UnpackMoment)
    (archive : Content) (outputDir : String) (flow : UnpackFlow) : Prop where
  confined : ∀ file ∈ (unpackZipSnapshot ext reader moment archive outputDir flow.limits).2,
    PathBuf.StrictlyBelow outputDir file.1
  bounded : Exceeds ext reader syncSnapshotLimits archive →
    ∃ e, unpackZipSnapshot ext reader moment archive outputDir flow.limits = (.error e, [])

end Unpacking

/-! ### The programs of the flows -/

/-- An operation that, if it unpacks an archive, does so with the limits of one of the flows. -/
def UnpacksAs (flows : List UnpackFlow) (o : Op) : Prop :=
  ∀ archive limits, o = .unpackZip archive limits → ∃ flow ∈ flows, limits = flow.limits

section Programs

open Prog (AllOps)

variable {ext : Externals} {host : Host} {target : String} {nowMs : Int64}
  {flows : List UnpackFlow}

theorem UnpacksAs.mono {flows' : List UnpackFlow} {o : Op} (h : UnpacksAs flows o)
    (hsub : ∀ flow ∈ flows, flow ∈ flows') :
  UnpacksAs flows' o
  := by
  intro archive limits ho
  obtain ⟨flow, hflow, hlimits⟩ := h archive limits ho
  exact ⟨flow, hsub flow hflow, hlimits⟩

theorem buildLocalSnapshot_unpacks : (buildLocalSnapshot ext).AllOps (UnpacksAs flows) := by
  unfold buildLocalSnapshot
  repeat' first | apply AllOps.bind | intro _
  all_goals simp [exportBundle, UnpacksAs]

theorem acceptHeadS3_unpacks (strictAuth : Bool) (trust : SyncTrustV1) :
  (acceptHeadS3 ext target strictAuth trust).AllOps (UnpacksAs flows)
  := by
  unfold acceptHeadS3 readHeadS3 checkRemoteTrust checkStrictAuth
  repeat' first | apply AllOps.bind | intro _ | split
  all_goals simp [s3Read, readDb, UnpacksAs]

theorem extractChangeSetFromS3Snapshot_unpacks (flow : UnpackFlow) (hflow : flow.limits = none)
    (hmem : flow ∈ flows) (id : String) :
  (extractChangeSetFromS3Snapshot target id).AllOps (UnpacksAs flows)
  := by
  unfold extractChangeSetFromS3Snapshot
  repeat' first | apply AllOps.bind | intro _
  · simp [s3Read, UnpacksAs]
  · simp
  · rw [unpackZip, Prog.allOps_op]
    constructor
    · rintro archive limits ho
      cases ho
      exact ⟨flow, hmem, hflow.symm⟩
    · simp
  · simp

/-- The merge preview unpacks the snapshot of the head and the one both sides started from. -/
theorem syncMergePreviewS3Target_unpacks (policy : Option String) :
  (syncMergePreviewS3Target ext host target policy nowMs).AllOps
    (UnpacksAs [.previewRemote, .previewBase])
  := by
  unfold syncMergePreviewS3Target readHeadS3 checkRemoteTrust baseChangeSet
  repeat' first
    | apply buildLocalSnapshot_unpacks
    | exact extractChangeSetFromS3Snapshot_unpacks .previewRemote rfl (by simp) _
    | apply AllOps.bind
    | intro _
    | split
  all_goals simp [ensureSyncTables, vaultOpen, readState, s3Read, readDb, UnpacksAs]

theorem resolveConflictS3_unpacks (mode : Option SyncAutoMergeMode) (plan : S3PullPlan)
    (head : SyncHeadV1) :
  (resolveConflictS3 ext host target nowMs mode plan head).AllOps
    (UnpacksAs [.pull, .previewRemote, .previewBase])
  := by
  have hpreview : (syncMergePreviewS3Target ext host target none nowMs).AllOps
      (UnpacksAs [.pull, .previewRemote, .previewBase]) := by
    apply (syncMergePreviewS3Target_unpacks none).mono
    intro o ho
    apply ho.mono
    intro flow hflow
    apply List.mem_cons_of_mem _ hflow
  unfold resolveConflictS3 createConflictArtifactS3
  repeat' first
    | exact hpreview
    | apply AllOps.bind
    | intro _
    | split
  all_goals simp [s3Write, UnpacksAs]

theorem finishPull_unpacks (source : Source) (head : SyncHeadV1) (bundleRelpath : String) :
  (finishPull source head bundleRelpath nowMs).AllOps (UnpacksAs flows)
  := by
  have hreplace (top : TopDir) : (replaceTop source top).AllOps (UnpacksAs flows) := by
    unfold replaceTop
    repeat' first | apply AllOps.bind | intro _ | split
    all_goals simp [sourceHas, topKind, removeTop, createTop, copyTop, UnpacksAs]
  have happly : (applySnapshotToVault source).AllOps (UnpacksAs flows) := by
    unfold applySnapshotToVault
    apply AllOps.bind
    · simp [validateLimits, UnpacksAs]
    intro _
    apply AllOps.forM
    intro top _
    apply hreplace
  unfold finishPull recordSync
  repeat' first | exact happly | apply AllOps.bind | intro _
  all_goals simp [openDb, writeState, writeSnapshotLog, UnpacksAs]

theorem fetchS3Snapshot_unpacks (mode : Option SyncAutoMergeMode) (strictAuth : Bool)
    (plan : S3PullPlan) :
  (fetchS3Snapshot ext host target nowMs mode strictAuth plan).AllOps
    (UnpacksAs [.pull, .previewRemote, .previewBase])
  := by
  unfold fetchS3Snapshot
  repeat' first
    | apply acceptHeadS3_unpacks
    | apply resolveConflictS3_unpacks
    | apply AllOps.bind
    | intro _
  · simp [s3Read, UnpacksAs]
  · simp
  · rw [unpackZip, Prog.allOps_op]
    constructor
    · rintro archive limits ho
      cases ho
      exact ⟨.pull, List.mem_cons_self, rfl⟩
    · simp
  · simp

theorem prepareS3Pull_unpacks (mode : Option SyncAutoMergeMode) (strictAuth : Bool) :
  (prepareS3Pull ext host target nowMs mode strictAuth).AllOps
    (UnpacksAs [.pull, .previewRemote, .previewBase])
  := by
  unfold prepareS3Pull
  repeat' first
    | apply buildLocalSnapshot_unpacks
    | apply acceptHeadS3_unpacks
    | apply resolveConflictS3_unpacks
    | apply AllOps.bind
    | intro _
  all_goals simp [ensureSyncTables, mainDbPath, vaultOpen, readState, UnpacksAs]

/-- The pull unpacks the snapshot of the head, and what the merge preview does at a conflict. -/
theorem syncPullS3Target_unpacks (mode : Option SyncAutoMergeMode) (strictAuth : Bool) :
  (syncPullS3Target ext host target nowMs mode strictAuth).AllOps
    (UnpacksAs [.pull, .previewRemote, .previewBase])
  := by
  have hlocks (o : Op) (ho : o.Locks) : UnpacksAs [.pull, .previewRemote, .previewBase] o := by
    rintro archive limits rfl
    exact ho.elim
  unfold syncPullS3Target
  apply AllOps.bind
  · apply prepareS3Pull_unpacks
  intro plan
  unfold withS3Lock
  apply AllOps.bind
  · exact (acquireS3Lock_locks _ _).mono hlocks
  intro lock
  apply AllOps.bind
  · apply AllOps.attempt
    unfold applyS3Pull
    apply AllOps.bind
    · apply fetchS3Snapshot_unpacks
    intro fetched
    apply finishPull_unpacks
  intro result
  apply AllOps.bind
  · apply AllOps.attempt
    exact (releaseS3Lock_locks _).mono hlocks
  intro releaseResult
  simp

end Programs

/-- Where every byte string has three hundred mebibytes. -/
def Sample.largeExt : Externals :=
  { Sample.ext with byteLen := fun _ => 300 * MIB }

/-- The archive of a vault with a database that is larger than an entry may be. -/
def Sample.oversized : Content :=
  .zip [("db/knowledge.sqlite", .sqlite { db := Db.empty, key := none, layout := 0 })]

end Sync

end KnowledgeCore
