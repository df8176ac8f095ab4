import KnowledgeCore.Objects.AtRest

/-!
# The files of the inbox

A file that is taken out of the inbox is kept among the processed ones, under the name it had and
the start of the id of its document. The id is looked up under the path of the file, and the
extension is put in place of whatever the new name has after its last dot.
-/

namespace KnowledgeCore

namespace Ingest

variable {ext : Externals} {host : Host} {moment : Moment} {filePath sourceKind : String}
  {m : Machine}

/-! ### Names -/

/-- The id of the document with some bytes. -/
def docIdOf (ext : Externals) (bytes : List UInt8) : String :=
  blake3HexPrefixed ext (.raw bytes)

/-- The eight characters of the id of a document that the name of its file carries. -/
def idPrefix (docId : String) : String :=
  String.ofList ((docId.toList.drop 7).take 8)

def stemOf (filePath : String) : String := (PathBuf.fileStem filePath).getD "file"

def extensionOf (filePath : String) : String := (PathBuf.extension filePath).getD ""

/-- The name of a processed file as the contract of the inbox has it. -/
def contractName (stem start extension : String) : String :=
  stem ++ "__" ++ start ++ if extension = "" then "" else "." ++ extension

/-- The name of a file carries the start of the id of the document with its bytes. -/
def CarriesId (ext : Externals) (name : String) (bytes : List UInt8) : Prop :=
  (idPrefix (docIdOf ext bytes)).toList <:+: name.toList

theorem carriesId_contractName (stem extension : String) (bytes : List UInt8) :
  CarriesId ext (contractName stem (idPrefix (docIdOf ext bytes)) extension) bytes
  := by
  rw [CarriesId, contractName, String.toList_append, String.toList_append]
  apply List.infix_append

theorem notMem_idPrefix {c : Char} (hc : ∀ n < 16, CanonJson.hexDigit n ≠ c)
    (bytes : List UInt8) :
  c ∉ (idPrefix (docIdOf ext bytes)).toList
  := by
  have hdrop : (docIdOf ext bytes).toList.drop 7
      = (Hex.bytesToHex (ext.blake3 (.raw bytes)).toList).toList := by
    rw [docIdOf, blake3HexPrefixed, String.toList_append]
    rfl
  rw [idPrefix, String.toList_ofList, hdrop, Hex.bytesToHex, String.toList_ofList]
  intro hmem
  obtain ⟨n, hn, heq⟩ := Hex.isLowerHex_of_mem_digits (List.mem_of_mem_take hmem)
  apply hc n hn heq.symm

/-- The name is the one of the contract, if there is no extension to put in place of something
else. -/
theorem processedName_eq_contractName {bytes : List UInt8}
    (h : extensionOf filePath = "" ∨ (PathBuf.splitName (stemOf filePath)).2 = none) :
  processedName filePath (docIdOf ext bytes)
    = contractName (stemOf filePath) (idPrefix (docIdOf ext bytes)) (extensionOf filePath)
  := by
  have hname : processedName filePath (docIdOf ext bytes)
      = if extensionOf filePath = "" then
          stemOf filePath ++ "__" ++ idPrefix (docIdOf ext bytes)
        else
          PathBuf.withExtension (stemOf filePath ++ "__" ++ idPrefix (docIdOf ext bytes))
            (extensionOf filePath) := by
    rw [processedName, extensionOf]
    split
    next hnone => rw [hnone]; rfl
    next hempty => rw [hempty]; rfl
    next extension hne hsome =>
      rw [hsome, Option.getD_some, if_neg]
      · rfl
      · rintro rfl
        exact hne rfl
  rw [hname, contractName]
  split
  case isTrue => rw [String.append_empty]
  case isFalse hne =>
    have hrest : '.' ∉ ("__" ++ idPrefix (docIdOf ext bytes)).toList := by
      rw [String.toList_append, List.mem_append, not_or]
      use by simp, notMem_idPrefix (by decide) bytes
    have hsplit := PathBuf.splitName_append hrest (h.resolve_left hne)
    rw [← String.append_assoc] at hsplit
    rw [PathBuf.withExtension, hsplit, String.ofList_toList, String.append_assoc]

theorem slash_notMem_contractName (filePath : String) (bytes : List UInt8) :
  '/' ∉ (contractName (stemOf filePath) (idPrefix (docIdOf ext bytes))
    (extensionOf filePath)).toList
  := by
  have hstem : '/' ∉ (stemOf filePath).toList := by
    rw [stemOf]
    cases h : PathBuf.fileStem filePath with
    | none => simp
    | some stem => apply PathBuf.slash_notMem_fileStem h
  have hextension : '/' ∉ (extensionOf filePath).toList := by
    rw [extensionOf]
    cases h : PathBuf.extension filePath with
    | none => simp
    | some extension => apply PathBuf.slash_notMem_extension h
  rw [contractName]
  have hend : '/' ∉ (if extensionOf filePath = "" then "" else "." ++ extensionOf filePath
      : String).toList := by
    split
    · simp
    · rw [String.toList_append, List.mem_append, not_or]
      use by simp
  simp only [String.toList_append, List.mem_append, not_or]
  use ⟨⟨hstem, by decide⟩, notMem_idPrefix (by decide) bytes⟩

/-! ### The processed files -/

/-- A processed file. -/
def processedFile (host : Host) (name : String) : String :=
  PathBuf.join (PathBuf.join host.vaultPath "Inbox/processed") name

theorem head?_ne_of_notMem {name : String} (h : '/' ∉ name.toList) :
  name.toList.head? ≠ some '/'
  := by
  intro hhead
  apply h
  apply List.mem_of_head? hhead

theorem processedFile_inj {name name' : String} (h : '/' ∉ name.toList)
    (h' : '/' ∉ name'.toList) :
  processedFile host name = processedFile host name' ↔ name = name'
  := by
  rw [processedFile, processedFile, PathBuf.join_of_relative (head?_ne_of_notMem h),
    PathBuf.join_of_relative (head?_ne_of_notMem h'), String.append_right_inj]

/-- Ingesting a file leaves the processed files alone. -/
theorem getElem?_processedFile_ingestOne {name : String} (h : '/' ∉ name.toList) :
  (ingestOne ext host moment sourceKind filePath m).2.files[processedFile host name]?
    = m.files[processedFile host name]?
  := by
  by_cases hready : ∃ bytes, Ready ext host filePath m bytes
  · obtain ⟨bytes, hready⟩ := hready
    obtain ⟨path, hpath, hobject⟩ := exists_objectPath ext host.vaultPath bytes
    have hne : path ≠ processedFile host name := by
      rintro rfl
      apply not_isObjectPath_join host.vaultPath (head?_ne_of_notMem h) hobject
    rw [getElem?_files_ingestOne hready hpath, if_neg hne, Option.or_none]
  · rw [files_ingestOne_of_not_ready (not_exists.mp hready)]

theorem getElem?_renameFile {files : Files} {source target path : String} {bytes : List UInt8}
    (h : files[source]? = some bytes) :
  (renameFile files source target)[path]?
    = if target = path then some bytes else if source = path then none else files[path]?
  := by
  simp only [renameFile, h, Std.ExtTreeMap.getElem?_insert, Std.ExtTreeMap.getElem?_erase,
    Std.LawfulEqCmp.compare_eq_iff_eq]

/-! ### Where a document came from -/

/-- The source that has just been noted is the last one under its path, if it was not noted
before, or was the last one before. -/
theorem lastDocIdOf_insertDocSource {db : Db} {docId : String}
    (h : ⟨docId, filePath⟩ ∉ db.docSources ∨ lastDocIdOf db filePath = .ok docId) :
  lastDocIdOf (insertDocSource db docId (some filePath)) filePath = .ok docId
  := by
  rw [insertDocSource]
  split
  case isTrue hmem => apply h.resolve_left (not_not.mpr hmem)
  case isFalse =>
    rw [lastDocIdOf, List.reverse_append]
    simp

theorem lastDocIdOf_congr {db db' : Db} (h : db'.docSources = db.docSources) :
  lastDocIdOf db' filePath = lastDocIdOf db filePath
  := by
  rw [lastDocIdOf, lastDocIdOf, h]

theorem docSources_insertDocSource_congr {db db' : Db} {docId : String}
    {sourcePath : Option String} (h : db'.docSources = db.docSources) :
  (insertDocSource db' docId sourcePath).docSources
    = (insertDocSource db docId sourcePath).docSources
  := by
  cases sourcePath with
  | none => apply h
  | some sourcePath =>
    rw [insertDocSource, insertDocSource, h]
    split
    · apply h
    · rfl

theorem userVersion_insertDocSource (db : Db) (docId : String) (sourcePath : Option String) :
  (insertDocSource db docId sourcePath).userVersion = db.userVersion
  := by
  cases sourcePath with
  | none => rfl
  | some sourcePath =>
    rw [insertDocSource]
    split <;> rfl

/-- After a file has been ingested, the source of its document is noted in the database that is
opened. -/
theorem ingestOne_eq_ok {doc : IngestedDoc} {after : Machine}
    (h : ingestOne ext host moment sourceKind filePath m = (.ok doc, after)) :
  ∃ config file bytes file', openVault ext host m.vault = .ok (config, file)
    ∧ m.files[filePath]? = some bytes
    ∧ openVault ext host after.vault = .ok (config, file')
    ∧ lastDocIdOf file'.db filePath
      = lastDocIdOf (insertDocSource file.db (docIdOf ext bytes) (some filePath)) filePath
  := by
  rw [ingestOne] at h
  split at h
  case h_1 => cases h
  case h_2 config file hopen =>
    split at h
    case h_1 => cases h
    case h_2 bytes hreads =>
      simp only [ingestBytesWithLimits] at h
      cases hlimits : validateIngestBytesLimits bytes.length with
      | error e =>
        rw [hlimits] at h
        cases h
      | ok u =>
        simp only [hlimits, ingestBytes] at h
        obtain ⟨objects, hdb⟩ := (ObjectStore.new (objectsDir host.vaultPath)).db_putBytes ext
          bytes (moment.stops filePath) ⟨m.files, file.db⟩
        obtain ⟨path, hpath, -⟩ := exists_objectPath ext host.vaultPath bytes
        rcases hput : (ObjectStore.new (objectsDir host.vaultPath)).putBytes ext bytes
          (moment.stops filePath) ⟨m.files, file.db⟩ with ⟨e | hash, disk⟩
        · rw [hput] at h
          cases h
        · obtain ⟨hhash, -⟩ := ObjectStore.putBytes_eq_ok hpath hput
          rw [hput] at h hdb
          have hversion := congrArg Db.userVersion hdb
          have hsources := congrArg Db.docSources hdb
          obtain rfl := congrArg Prod.snd h
          refine ⟨config, file, bytes, _, hopen, hreads, openVault_closed hopen ?_, ?_⟩
          · rw [userVersion_insertDocSource]
            exact hversion
          · apply lastDocIdOf_congr
            rw [Externals.commit_db, hhash]
            apply docSources_insertDocSource_congr
            exact hsources

/-! ### One call -/

/-- What a call that goes through does: the file that was in the inbox is kept under the id of
the last source of its path. -/
theorem ingestInboxOnce_eq_ok
    (h : (ingestInboxOnce ext host moment filePath sourceKind m).1 = .ok ()) :
  ∃ config file bytes docId, openVault ext host m.vault = .ok (config, file)
    ∧ m.files[filePath]? = some bytes
    ∧ lastDocIdOf (insertDocSource file.db (docIdOf ext bytes) (some filePath)) filePath
      = .ok docId
    ∧ ∀ name, '/' ∉ name.toList →
      (ingestInboxOnce ext host moment filePath sourceKind m).2.files[processedFile host name]?
        = if processedPath host filePath docId = processedFile host name then some bytes
          else if filePath = processedFile host name then none
          else m.files[processedFile host name]?
  := by
  rw [ingestInboxOnce] at h ⊢
  rcases hone : ingestOne ext host moment sourceKind filePath m with ⟨e | doc, after⟩
  · rw [hone] at h
    cases h
  · obtain ⟨config, file, bytes, file', hopen, hreads, hreopen, hlast⟩ := ingestOne_eq_ok hone
    have hfiles : ∀ name, '/' ∉ name.toList →
        (ingestOne ext host moment sourceKind filePath m).2.files[processedFile host name]?
          = m.files[processedFile host name]? :=
      fun _ hname => getElem?_processedFile_ingestOne hname
    have hkeeps : Keeps m.files (ingestOne ext host moment sourceKind filePath m).2.files :=
      keeps_ingestOne
    rw [hone] at h hfiles hkeeps
    simp only [moveProcessed, hreopen] at h ⊢
    cases hdocId : lastDocIdOf file'.db filePath with
    | error e =>
      rw [hdocId] at h
      cases h
    | ok docId =>
      use config, file, bytes, docId, hopen, hreads, hlast ▸ hdocId
      cases hmove : moment.canMove with
      | false => simp [hdocId, hmove] at h
      | true =>
        intro name hname
        simp only [Bool.true_eq_false, if_false]
        rw [getElem?_renameFile (hkeeps filePath bytes hreads), hfiles name hname]

/-- A call that fails leaves the processed files alone. -/
theorem ingestInboxOnce_eq_error {e : AppError}
    (h : (ingestInboxOnce ext host moment filePath sourceKind m).1 = .error e) {name : String}
    (hname : '/' ∉ name.toList) :
  (ingestInboxOnce ext host moment filePath sourceKind m).2.files[processedFile host name]?
    = m.files[processedFile host name]?
  := by
  have hfiles :
      (ingestOne ext host moment sourceKind filePath m).2.files[processedFile host name]?
        = m.files[processedFile host name]? := getElem?_processedFile_ingestOne hname
  rw [ingestInboxOnce] at h ⊢
  rcases hone : ingestOne ext host moment sourceKind filePath m with ⟨e' | doc, after⟩
  · rw [hone] at hfiles
    exact hfiles
  · rw [hone] at h hfiles
    simp only [moveProcessed] at h ⊢
    split at h
    · exact hfiles
    · split at h
      · exact hfiles
      · split at h
        next hmove =>
          rw [if_pos hmove]
          exact hfiles
        next => cases h

/-- The name of a file is kept, its path has not been used for other documents since its own was
noted, and no processed file with other bytes has the name that the contract gives it. -/
structure Tidy (ext : Externals) (host : Host) (filePath : String) (m : Machine) : Prop where
  name : extensionOf filePath = "" ∨ (PathBuf.splitName (stemOf filePath)).2 = none
  source : ∀ config file bytes, openVault ext host m.vault = .ok (config, file) →
    m.files[filePath]? = some bytes →
      ⟨docIdOf ext bytes, filePath⟩ ∉ file.db.docSources
        ∨ lastDocIdOf file.db filePath = .ok (docIdOf ext bytes)
  free : ∀ bytes other, m.files[filePath]? = some bytes →
    m.files[processedFile host (contractName (stemOf filePath)
      (idPrefix (docIdOf ext bytes)) (extensionOf filePath))]? = some other → other = bytes

/-- Where a tidy call leaves the file. -/
theorem Tidy.ingestInboxOnce (h : Tidy ext host filePath m)
    (hok : (ingestInboxOnce ext host moment filePath sourceKind m).1 = .ok ()) :
  ∃ bytes target, m.files[filePath]? = some bytes ∧ CarriesId ext target bytes
    ∧ (∀ other, m.files[processedFile host target]? = some other → other = bytes)
    ∧ ∀ name, '/' ∉ name.toList →
      (Ingest.ingestInboxOnce ext host moment filePath sourceKind m).2.files[
          processedFile host name]?
        = if target = name then some bytes
          else if filePath = processedFile host name then none
          else m.files[processedFile host name]?
  := by
  obtain ⟨config, file, bytes, docId, hopen, hreads, hlast, hfiles⟩ := ingestInboxOnce_eq_ok hok
  rw [lastDocIdOf_insertDocSource (h.source config file bytes hopen hreads)] at hlast
  cases hlast
  use bytes, contractName (stemOf filePath) (idPrefix (docIdOf ext bytes)) (extensionOf filePath)
  use hreads, carriesId_contractName _ _ _, fun other => h.free bytes other hreads
  intro name hname
  have htarget : processedPath host filePath (docIdOf ext bytes)
      = processedFile host (contractName (stemOf filePath) (idPrefix (docIdOf ext bytes))
        (extensionOf filePath)) := by
    rw [processedPath, processedName_eq_contractName h.name, processedFile]
  rw [hfiles name hname, htarget]
  simp only [processedFile_inj (slash_notMem_contractName filePath bytes) hname]

/-! ### Runs -/

/-- The machines that are reached from one without processed files, by calls that are tidy when
they go through, and by changes of everything but the processed files. -/
inductive Reached (ext : Externals) (host : Host) : Machine → Prop
  | start (m : Machine)
      (h : ∀ name, '/' ∉ name.toList → m.files[processedFile host name]? = none) :
    Reached ext host m
  | call (moment : Moment) (filePath sourceKind : String) (m : Machine)
      (hm : Reached ext host m)
      (h : (ingestInboxOnce ext host moment filePath sourceKind m).1 = .ok () →
        Tidy ext host filePath m) :
    Reached ext host (ingestInboxOnce ext host moment filePath sourceKind m).2
  | other (m after : Machine) (hm : Reached ext host m)
      (h : ∀ name, '/' ∉ name.toList →
        after.files[processedFile host name]? = m.files[processedFile host name]?) :
    Reached ext host after

theorem Reached.carriesId (h : Reached ext host m) {name : String} {bytes : List UInt8}
    (hname : '/' ∉ name.toList) (hbytes : m.files[processedFile host name]? = some bytes) :
  CarriesId ext name bytes
  := by
  induction h generalizing name bytes with
  | start m hnone =>
    rw [hnone name hname] at hbytes
    cases hbytes
  | call moment filePath sourceKind m hm htidy ih =>
    cases hresult : (ingestInboxOnce ext host moment filePath sourceKind m).1 with
    | error e =>
      rw [ingestInboxOnce_eq_error hresult hname] at hbytes
      apply ih hname hbytes
    | ok u =>
      obtain ⟨bytes', target, -, hcarries, -, hfiles⟩ := (htidy hresult).ingestInboxOnce hresult
      rw [hfiles name hname] at hbytes
      split at hbytes
      case isTrue htarget =>
        cases hbytes
        rw [← htarget]
        apply hcarries
      case isFalse =>
        split at hbytes
        case isTrue => cases hbytes
        case isFalse => apply ih hname hbytes
  | other m after hm hsame ih =>
    rw [hsame name hname] at hbytes
    apply ih hname hbytes

/-- While the calls are tidy, every processed file carries the id of the document with its bytes,
and no call replaces a processed file by other bytes. -/
theorem processed_of_reached (ext : Externals) (host : Host) (m : Machine)
    (h : Reached ext host m) :
  (∀ name bytes, '/' ∉ name.toList → m.files[processedFile host name]? = some bytes →
      CarriesId ext name bytes)
    ∧ ∀ moment filePath sourceKind,
      ((ingestInboxOnce ext host moment filePath sourceKind m).1 = .ok () →
        Tidy ext host filePath m) →
      ∀ name bytes bytes', '/' ∉ name.toList →
        m.files[processedFile host name]? = some bytes →
        (ingestInboxOnce ext host moment filePath sourceKind m).2.files[
          processedFile host name]? = some bytes' → bytes' = bytes
  := by
  constructor
  · intro name bytes hname hbytes
    apply h.carriesId hname hbytes
  · intro moment filePath sourceKind htidy name bytes bytes' hname hbytes hbytes'
    cases hresult : (ingestInboxOnce ext host moment filePath sourceKind m).1 with
    | error e =>
      rw [ingestInboxOnce_eq_error hresult hname, hbytes] at hbytes'
      cases hbytes'
      rfl
    | ok u =>
      obtain ⟨moved, target, -, -, hfree, hfiles⟩ := (htidy hresult).ingestInboxOnce hresult
      rw [hfiles name hname] at hbytes'
      split at hbytes'
      case isTrue htarget =>
        cases hbytes'
        rw [← htarget] at hbytes
        apply (hfree bytes hbytes).symm
      case isFalse =>
        split at hbytes'
        case isTrue => cases hbytes'
        case isFalse =>
          rw [hbytes] at hbytes'
          cases hbytes'
          rfl

/-! ### Names with dots -/

def Sample.inboxHost : Host := ⟨"/vault", fun _ => none, none⟩

/-- A vault with files in its inbox. -/
def Sample.inboxMachine (files : Files) : Machine where
  vault := Sample.encryptedMachine.vault
  files

def Sample.dottedFiles : Files :=
  ((∅ : Files).insert "/vault/Inbox/a.b.txt" [1]).insert "/vault/Inbox/a.c.txt" [2]

def Sample.noteFiles : Files := (∅ : Files).insert "/vault/Inbox/note.txt" [1]

/-- Take the two files out of the inbox. -/
def Sample.firstMove : AppResult Unit × Machine :=
  ingestInboxOnce Sample.ext Sample.inboxHost Sample.takeNote.moment "/vault/Inbox/a.b.txt"
    "notes" (Sample.inboxMachine Sample.dottedFiles)

def Sample.secondMove : AppResult Unit × Machine :=
  ingestInboxOnce Sample.ext Sample.inboxHost Sample.takeNote.moment "/vault/Inbox/a.c.txt"
    "notes" Sample.firstMove.2

/-- Two files whose names differ between dots: neither of them is kept under its id, and the
second replaces the first. -/
theorem dotted_names_collide :
  Sample.firstMove.1.isOk = true ∧ Sample.secondMove.1.isOk = true
    ∧ Sample.firstMove.2.files[processedFile Sample.inboxHost "a.txt"]? = some [1]
    ∧ ¬ CarriesId Sample.ext "a.txt" [1]
    ∧ Sample.secondMove.2.files[processedFile Sample.inboxHost "a.txt"]? = some [2]
  := by
  rw [CarriesId]
  decide +kernel

def Sample.noteMove : AppResult Unit × Machine :=
  ingestInboxOnce Sample.ext Sample.inboxHost Sample.takeNote.moment "/vault/Inbox/note.txt"
    "notes" (Sample.inboxMachine Sample.noteFiles)

theorem Sample.tidy_note :
  Tidy Sample.ext Sample.inboxHost "/vault/Inbox/note.txt" (Sample.inboxMachine Sample.noteFiles)
  := by
  constructor
  · decide +kernel
  · intro config file bytes hopen _
    have hsources : (openVault Sample.ext Sample.inboxHost
        (Sample.inboxMachine Sample.noteFiles).vault).toOption.any
          (fun opened => opened.2.db.docSources.isEmpty) = true := by decide +kernel
    obtain ⟨opened, hopened, hnil⟩ := exists_of_any hsources
    cases hopen.symm.trans hopened
    left
    rw [List.isEmpty_iff.mp hnil]
    apply List.not_mem_nil
  · intro bytes other hbytes hother
    have hreads : (Sample.inboxMachine Sample.noteFiles).files["/vault/Inbox/note.txt"]?
        = some [1] := by decide +kernel
    cases hreads.symm.trans hbytes
    have hnone : (Sample.inboxMachine Sample.noteFiles).files[processedFile Sample.inboxHost
        (contractName (stemOf "/vault/Inbox/note.txt") (idPrefix (docIdOf Sample.ext [1]))
          (extensionOf "/vault/Inbox/note.txt"))]? = none := by decide +kernel
    rw [hnone] at hother
    cases hother

theorem Sample.reached_note :
  Reached Sample.ext Sample.inboxHost Sample.noteMove.2
  := by
  apply Reached.call
  · apply Reached.start
    intro name hname
    have hne : "/vault/Inbox/note.txt" ≠ processedFile Sample.inboxHost name := by
      rw [processedFile, PathBuf.join_of_relative (head?_ne_of_notMem hname)]
      have hdir : PathBuf.withSeparator (PathBuf.join Sample.inboxHost.vaultPath
          "Inbox/processed") = "/vault/Inbox/processed/" := by decide +kernel
      rw [hdir]
      intro hsame
      have hlists := congrArg (fun s => s.toList.take 15) hsame
      simp at hlists
    simp [Sample.inboxMachine, Sample.noteFiles, hne]
  · intro _
    apply Sample.tidy_note

theorem processed_of_reached_note :
  ∃ name, Sample.noteMove.2.files[processedFile Sample.inboxHost name]? = some [1]
    ∧ CarriesId Sample.ext name [1]
  := by
  have hbytes : Sample.noteMove.2.files[processedFile Sample.inboxHost
      (contractName "note" (idPrefix (docIdOf Sample.ext [1])) "txt")]? = some [1] := by
    decide +kernel
  use contractName "note" (idPrefix (docIdOf Sample.ext [1])) "txt", hbytes
  apply (processed_of_reached _ _ _ Sample.reached_note).1 _ _ _ hbytes
  decide +kernel

end Ingest

end KnowledgeCore
