import KnowledgeCore.Objects.Locator
import KnowledgeCore.Objects.References

/-!
# Collecting garbage

A file of the object store that no row records is removed by `kc gc`. Whatever is ingested and
extracted in between, and wherever it fails, a recorded object keeps its row and its file. A file
that was cut off is taken for the object by the next call that puts its bytes, so that after a
failure the garbage has to be collected first: then every recorded object is read back as bytes
that have its hash.
-/

namespace KnowledgeCore

namespace Collecting

open Ingest (openVault opened objectsDir)
open ObjectStore (ReadsMatch)

/-! ### The collection -/

/-- The order in which a directory is walked. -/
structure Walk where
  order : List String → List String
  perm : ∀ l, (order l).Perm l

def gcError (message : String) (details : List (String × Json)) : AppError where
  code := "KC_DB_INTEGRITY_FAILED"
  category := "gc"
  message := message
  details := .obj details

/-- Whether a path leads below a directory. -/
def IsBelow (dir path : String) : Bool :=
  (PathBuf.withSeparator dir).toList.isPrefixOf path.toList

/-- The name a walk gives the entry at a path. -/
def entryName (path : String) : String :=
  (PathBuf.fileName path).getD path

/-- Remove the files whose names are not among the hashes, one after the other, and count them. -/
def removeOrphans (canRemove : String → Bool) (existing : Table ObjectRow) :
    List String → Nat → Files → AppResult Nat × Files
  | [], removed, files => (.ok removed, files)
  | path :: rest, removed, files =>
    if existing.contains (entryName path) then
      removeOrphans canRemove existing rest removed files
    else if canRemove path then
      removeOrphans canRemove existing rest (removed + 1) (files.erase path)
    else
      (.error (gcError "failed removing orphan object file"
        [("error", .str "Permission denied"), ("path", .str path)]), files)

/-- Remove what is below the directory of the objects and not among the hashes. -/
def collectFiles (walk : Walk) (canRemove : String → Bool) (objectsDir : String)
    (existing : Table ObjectRow) (files : Files) : AppResult Nat × Files :=
  removeOrphans canRemove existing (walk.order (files.keys.filter (IsBelow objectsDir))) 0 files

def runGc (ext : Externals) (host : Host) (walk : Walk) (canRemove : String → Bool)
    (m : Machine) : AppResult Nat × Machine
  :=
  match openVault ext host m.vault with
  | .error e => (.error e, m)
  | .ok (vault, file) =>
    let (removed, files) :=
      collectFiles walk canRemove (objectsDir host.vaultPath) file.db.objects m.files
    (removed, { opened m vault file with files })

variable {ext : Externals} {store : ObjectStore} {walk : Walk} {canRemove : String → Bool}
  {objects existing : Table ObjectRow} {files after : Files} {hash path : String}

/-- What is recorded is kept, and so is what is not walked over. -/
theorem getElem?_removeOrphans {paths : List String} {removed : Nat}
    (h : path ∉ paths ∨ entryName path ∈ existing) :
  (removeOrphans canRemove existing paths removed files).2[path]? = files[path]?
  := by
  induction paths generalizing removed files with
  | nil => rfl
  | cons first rest ih =>
    have hrest : path ∉ rest ∨ entryName path ∈ existing :=
      h.imp_left fun hnot hmem => hnot (List.mem_cons_of_mem first hmem)
    rw [removeOrphans]
    split_ifs with hexists hcan
    · exact ih hrest
    · rw [ih hrest, Std.ExtTreeMap.getElem?_erase, if_neg]
      intro hsame
      obtain rfl : first = path := Std.LawfulEqCmp.compare_eq_iff_eq.mp hsame
      obtain hnot | hmem := h
      · exact hnot List.mem_cons_self
      · exact hexists (Std.ExtTreeMap.contains_iff_mem.mpr hmem)
    · rfl

/-- Nothing is added. -/
theorem mem_of_mem_removeOrphans {paths : List String} {removed : Nat}
    (h : path ∈ (removeOrphans canRemove existing paths removed files).2) :
  path ∈ files
  := by
  induction paths generalizing removed files with
  | nil => exact h
  | cons first rest ih =>
    rw [removeOrphans] at h
    split_ifs at h
    · exact ih h
    · exact (Std.ExtTreeMap.mem_erase.mp (ih h)).2
    · exact h

/-- A collection that goes through leaves nothing that it has walked over and is not recorded. -/
theorem notMem_removeOrphans {paths : List String} {removed count : Nat}
    (h : (removeOrphans canRemove existing paths removed files).1 = .ok count)
    (hmem : path ∈ paths) (hname : entryName path ∉ existing) :
  path ∉ (removeOrphans canRemove existing paths removed files).2
  := by
  induction paths generalizing removed files with
  | nil => cases hmem
  | cons first rest ih =>
    rw [removeOrphans] at h ⊢
    split_ifs at h ⊢ with hexists hcan
    · apply ih h
      obtain rfl | hmem := List.mem_cons.mp hmem
      · exact absurd (Std.ExtTreeMap.contains_iff_mem.mp hexists) hname
      · exact hmem
    · obtain rfl | hmem := List.mem_cons.mp hmem
      · intro hleft
        have hsame := (Std.ExtTreeMap.mem_erase.mp (mem_of_mem_removeOrphans hleft)).1
        exact hsame (Std.LawfulEqCmp.compare_eq_iff_eq.mpr rfl)
      · exact ih h hmem

/-- The count is that of the files that are gone. -/
theorem size_removeOrphans {paths : List String} {removed count : Nat}
    (h : (removeOrphans canRemove existing paths removed files).1 = .ok count)
    (hnodup : paths.Nodup) (hpaths : ∀ path ∈ paths, path ∈ files) :
  count + (removeOrphans canRemove existing paths removed files).2.size = removed + files.size
  := by
  induction paths generalizing removed files with
  | nil =>
    cases h
    rfl
  | cons first rest ih =>
    obtain ⟨hfirst, hrest⟩ := List.nodup_cons.mp hnodup
    rw [removeOrphans] at h ⊢
    split_ifs at h ⊢ with hexists hcan
    · apply ih h hrest
      intro path hpath
      apply hpaths path (List.mem_cons_of_mem first hpath)
    · have hmem := hpaths first List.mem_cons_self
      rw [ih h hrest, Std.ExtTreeMap.size_erase,
        if_pos (Std.ExtTreeMap.contains_iff_mem.mpr hmem)]
      · have hpos : 0 < files.size := by
          apply Nat.pos_of_ne_zero
          intro hzero
          rw [Std.ExtTreeMap.eq_empty_iff_size_eq_zero.mpr hzero] at hmem
          exact Std.ExtTreeMap.not_mem_empty hmem
        omega
      · intro path hpath
        rw [Std.ExtTreeMap.mem_erase]
        constructor
        · intro hsame
          obtain rfl : first = path := Std.LawfulEqCmp.compare_eq_iff_eq.mp hsame
          exact hfirst hpath
        · apply hpaths path (List.mem_cons_of_mem first hpath)

/-- Nothing fails when every file can be removed. -/
theorem exists_removeOrphans (hcan : ∀ path, canRemove path = true) (paths : List String)
    (removed : Nat) (files : Files) :
  ∃ count, (removeOrphans canRemove existing paths removed files).1 = .ok count
  := by
  induction paths generalizing removed files with
  | nil => exact ⟨removed, rfl⟩
  | cons first rest ih =>
    rw [removeOrphans]
    split_ifs with hexists hfirst
    · apply ih
    · apply ih
    · exact absurd (hcan first) hfirst

/-! ### Where the objects are -/

theorem isPlain_hash (ext : Externals) (bytes : Content) :
  PathBuf.IsPlain (blake3HexPrefixed ext bytes)
  := by
  have hlength := ObjectStore.length_blake3HexPrefixed ext bytes
  have hne {name : String} (hname : name.toList.length ≠ 71) :
      blake3HexPrefixed ext bytes ≠ name := by
    rintro rfl
    exact hname hlength
  constructor
  · apply hne
    decide
  · apply hne
    decide
  · apply hne
    decide
  · rw [blake3HexPrefixed, String.toList_append, List.mem_append]
    rintro (hstart | hdigits)
    · simp at hstart
    · rw [Hex.bytesToHex, String.toList_ofList] at hdigits
      obtain ⟨n, hn, heq⟩ := Hex.isLowerHex_of_mem_digits hdigits
      have hslash : ∀ n < 16, CanonJson.hexDigit n ≠ '/' := by decide
      exact hslash n hn heq.symm

/-- The file of an object is named by its hash, and lies below the directory of the objects. -/
theorem entryName_filePathForHash {bytes : List UInt8}
    (h : store.filePathForHash (blake3HexPrefixed ext (.raw bytes)) = .ok path) :
  entryName path = blake3HexPrefixed ext (.raw bytes)
    ∧ IsBelow store.objectsDir path = true
  := by
  obtain ⟨dir, hdir⟩ := store.exists_filePathForHash ext (.raw bytes)
  rw [h, Except.ok.injEq] at hdir
  have hplain := isPlain_hash ext (.raw bytes)
  have hlist : path.toList = (PathBuf.withSeparator store.objectsDir ++ dir).toList
      ++ '/' :: (blake3HexPrefixed ext (.raw bytes)).toList := by
    rw [hdir]
    simp [String.toList_append]
  constructor
  · have hlast : (PathBuf.components path).getLast?
        = some (blake3HexPrefixed ext (.raw bytes)) := by
      rw [PathBuf.components_eq, hlist, PathBuf.named_append_slash, hplain.named_eq,
        ← List.append_assoc, List.getLast?_concat]
    have hroot : blake3HexPrefixed ext (.raw bytes) ≠ "/" := by
      intro hroot
      apply hplain.no_slash
      simp [hroot]
    rw [entryName, PathBuf.fileName, hlast, Option.filter_some, if_pos, Option.getD_some]
    simpa using ⟨hroot, hplain.not_parent⟩
  · rw [IsBelow, List.isPrefixOf_iff_prefix, hlist, String.toList_append, List.append_assoc]
    apply List.prefix_append

/-- A collection keeps the file of what is recorded. -/
theorem getElem?_collectFiles
    (h : IsBelow store.objectsDir path = false ∨ entryName path ∈ existing) :
  (collectFiles walk canRemove store.objectsDir existing files).2[path]? = files[path]?
  := by
  apply getElem?_removeOrphans
  apply h.imp_left
  intro hoff hmem
  have hwalked := (walk.perm _).mem_iff.mp hmem
  rw [List.mem_filter, hoff] at hwalked
  cases hwalked.2

/-- What a collection that goes through leaves below the directory is recorded. -/
theorem recorded_of_collectFiles {count : Nat}
    (h : (collectFiles walk canRemove store.objectsDir existing files).1 = .ok count)
    (hbelow : IsBelow store.objectsDir path = true)
    (hleft : path ∈ (collectFiles walk canRemove store.objectsDir existing files).2) :
  entryName path ∈ existing
  := by
  by_contra hname
  apply notMem_removeOrphans h _ hname hleft
  apply (walk.perm _).mem_iff.mpr
  rw [List.mem_filter, Std.ExtTreeMap.mem_keys]
  exact ⟨mem_of_mem_removeOrphans hleft, hbelow⟩

/-! ### Calls -/

/-- What is called on a store: something is ingested or extracted, or the garbage is collected. -/
inductive StoreCall
  | put (call : References.Call)
  | collect (walk : Walk) (canRemove : String → Bool)

def StoreCall.run (ext : Externals) (store : ObjectStore) (disk : OwnerDisk) :
    StoreCall → AppResult Unit × OwnerDisk
  | .put call => call.run ext store disk
  | .collect walk canRemove =>
    let (removed, files) :=
      collectFiles walk canRemove store.objectsDir disk.db.objects disk.files
    (removed.map fun _ => (), { disk with files })

/-- The disk after calls, whatever fails. -/
def runEach (ext : Externals) (store : ObjectStore) (calls : List StoreCall) (disk : OwnerDisk) :
  OwnerDisk
  :=
  calls.foldl (fun disk call => (call.run ext store disk).2) disk

/-- What a call on the store does to the files and to the rows of the objects, and whether it
goes through: it leaves them, it leaves a part of a new file, or it finds or writes the whole file
and makes sure of the row. -/
inductive Effect (ext : Externals) (store : ObjectStore) (bytes : List UInt8) (files : Files)
    (objects : Table ObjectRow) : Bool → Files → Table ObjectRow → Prop
  | refused : Effect ext store bytes files objects false files objects
  | torn {path : String} {part : List UInt8}
    (hpath : store.filePathForHash (blake3HexPrefixed ext (.raw bytes)) = .ok path)
    (hnew : path ∉ files) :
    Effect ext store bytes files objects false (files.insert path part) objects
  | found {path : String} {through : Bool}
    (hpath : store.filePathForHash (blake3HexPrefixed ext (.raw bytes)) = .ok path)
    (hfound : path ∈ files) :
    Effect ext store bytes files objects through files
      (objects.insertIfNew (blake3HexPrefixed ext (.raw bytes))
        { bytes := Int64.ofNat bytes.length })
  | stored {path : String} {content : List UInt8} {through : Bool}
    (hpath : store.filePathForHash (blake3HexPrefixed ext (.raw bytes)) = .ok path)
    (hnew : path ∉ files)
    (hcontent : store.maybeEncryptBytes ext (blake3HexPrefixed ext (.raw bytes)) bytes
      = .ok content) :
    Effect ext store bytes files objects through (files.insert path content)
      (objects.insertIfNew (blake3HexPrefixed ext (.raw bytes))
        { bytes := Int64.ofNat bytes.length })

/-- When the bytes are put, the rest of a call may fail. -/
theorem Effect.put {bytes : List UInt8} {rows : Table ObjectRow} (through : Bool)
    (h : Effect ext store bytes files objects true after rows) :
  Effect ext store bytes files objects through after rows
  := by
  cases h with
  | found hpath hfound => exact .found hpath hfound
  | stored hpath hnew hcontent => exact .stored hpath hnew hcontent

theorem effect_putBytes (bytes : List UInt8) (stop : Option Nat) (disk : Disk) :
  Effect ext store bytes disk.files disk.db.objects (store.putBytes ext bytes stop disk).1.isOk
    (store.putBytes ext bytes stop disk).2.files (store.putBytes ext bytes stop disk).2.db.objects
  := by
  obtain ⟨dir, hpath⟩ := store.exists_filePathForHash ext (.raw bytes)
  simp only [ObjectStore.putBytes, hpath]
  rw [ObjectStore.ensureFile]
  by_cases hmem : disk.files.contains (PathBuf.withSeparator store.objectsDir ++ dir ++ "/"
      ++ blake3HexPrefixed ext (.raw bytes)) = true
  · rw [if_pos hmem]
    exact .found hpath (Std.ExtTreeMap.contains_iff_mem.mp hmem)
  · rw [if_neg hmem]
    rw [Std.ExtTreeMap.contains_iff_mem] at hmem
    cases hcontent : store.maybeEncryptBytes ext (blake3HexPrefixed ext (.raw bytes)) bytes with
    | error e => apply Effect.refused
    | ok content =>
      cases stop with
      | none => exact .stored hpath hmem hcontent
      | some n => exact .torn hpath hmem

/-- A call that ingests or extracts has an effect on its bytes. -/
theorem effect_run (call : References.Call) (disk : OwnerDisk) :
  Effect ext store call.payload disk.files disk.db.objects (call.run ext store disk).1.isOk
    (call.run ext store disk).2.files (call.run ext store disk).2.db.objects
  := by
  cases call with
  | ingest req nowMs fault stop =>
    rw [References.Call.run, References.ingestBytes]
    cases happend : appendEvent ext fault nowMs "ingest.bytes" (References.ingestPayload req)
        disk.db.events with
    | error e => apply Effect.refused
    | ok appended =>
      have heffect : Effect ext store req.bytes disk.files disk.db.objects _ _ _ :=
        effect_putBytes req.bytes stop ⟨disk.files, disk.db.toDb⟩
      simp only [Ingest.ingestBytes]
      rcases hresult : store.putBytes ext req.bytes stop ⟨disk.files, disk.db.toDb⟩
        with ⟨e | hash, put⟩
      · rw [hresult] at heffect
        exact heffect
      · rw [hresult] at heffect
        simp only [References.objects_insertDocSource]
        apply heffect.put
  | persist artifact createdEventId stop fault =>
    have heffect : Effect ext store artifact.canonicalBytes disk.files disk.db.objects _ _ _ :=
      effect_putBytes artifact.canonicalBytes stop ⟨disk.files, disk.db.toDb⟩
    simp only [References.Call.run, persistCanonicalText]
    split_ifs with hhash
    · apply Effect.refused
    · rcases hresult : store.putBytes ext artifact.canonicalBytes stop
        ⟨disk.files, disk.db.toDb⟩ with ⟨e | hash, put⟩
      · rw [hresult] at heffect
        exact heffect
      · rw [hresult] at heffect
        cases fault with
        | none => apply heffect.put
        | some error => apply heffect.put

/-! ### What stays -/

/-- Every object that is recorded has its file, under the hash of some bytes. -/
def Backed (ext : Externals) (store : ObjectStore) (files : Files) (objects : Table ObjectRow) :
  Prop
  :=
  ∀ hash ∈ objects, ∃ bytes path, hash = blake3HexPrefixed ext (.raw bytes)
    ∧ store.filePathForHash hash = .ok path ∧ path ∈ files

/-- What is recorded keeps its row and its file. -/
structure Keeps (store : ObjectStore) (files : Files) (objects : Table ObjectRow) (after : Files)
    (rows : Table ObjectRow) : Prop where
  row : ∀ hash ∈ objects, rows[hash]? = objects[hash]?
  file : ∀ hash ∈ objects, store.rawBytes hash after = store.rawBytes hash files

/-- What a collection leaves: of the files below the directory those that are recorded, and all
the others. It counts what is gone. -/
structure Collected (objectsDir : String) (objects : Table ObjectRow) (files : Files)
    (count : Nat) (after : Files) : Prop where
  below : ∀ path, IsBelow objectsDir path = true →
    (path ∈ after ↔ path ∈ files ∧ entryName path ∈ objects)
  same : ∀ path ∈ after, after[path]? = files[path]?
  beside : ∀ path, IsBelow objectsDir path = false → after[path]? = files[path]?
  counted : count + after.size = files.size

theorem collected_collectFiles {count : Nat}
    (h : collectFiles walk canRemove store.objectsDir objects files = (.ok count, after)) :
  Collected store.objectsDir objects files count after
  := by
  have hok : (collectFiles walk canRemove store.objectsDir objects files).1 = .ok count := by
    rw [h]
  have hafter : (collectFiles walk canRemove store.objectsDir objects files).2 = after := by
    rw [h]
  constructor
  · intro path hbelow
    rw [← hafter]
    constructor
    · intro hleft
      exact ⟨mem_of_mem_removeOrphans hleft, recorded_of_collectFiles hok hbelow hleft⟩
    · rintro ⟨hmem, hname⟩
      rw [Std.ExtTreeMap.mem_iff_isSome_getElem?, getElem?_collectFiles (.inr hname),
        ← Std.ExtTreeMap.mem_iff_isSome_getElem?]
      exact hmem
  · intro path hleft
    rw [← hafter] at hleft ⊢
    apply getElem?_collectFiles
    cases hbelow : IsBelow store.objectsDir path with
    | false => exact .inl rfl
    | true => exact .inr (recorded_of_collectFiles hok hbelow hleft)
  · intro path hbeside
    rw [← hafter]
    apply getElem?_collectFiles (.inl hbeside)
  · rw [← hafter, ← Nat.zero_add files.size]
    apply size_removeOrphans hok
    · apply (walk.perm _).nodup_iff.mpr
      apply List.Nodup.filter
      apply Std.ExtTreeMap.nodup_keys
    · intro path hpath
      have hwalked := (walk.perm _).mem_iff.mp hpath
      exact Std.ExtTreeMap.mem_keys.mp (List.mem_filter.mp hwalked).1

/-- The command collects the objects of the database that it has opened. -/
theorem collected_runGc {host : Host} {m m' : Machine} {count : Nat}
    (h : runGc ext host walk canRemove m = (.ok count, m')) :
  ∃ vault file, openVault ext host m.vault = .ok (vault, file)
    ∧ m'.vault = (opened m vault file).vault
    ∧ Collected (objectsDir host.vaultPath) file.db.objects m.files count m'.files
  := by
  rw [runGc] at h
  rcases hopen : openVault ext host m.vault with e | ⟨vault, file⟩
  · rw [hopen] at h
    cases h
  · rw [hopen] at h
    rcases hcollect : collectFiles walk canRemove (objectsDir host.vaultPath) file.db.objects
      m.files with ⟨removed, after⟩
    simp only [hcollect, Prod.mk.injEq] at h
    obtain ⟨rfl, rfl⟩ := h
    have hcollected : Collected (ObjectStore.new (objectsDir host.vaultPath)).objectsDir
        file.db.objects m.files count after :=
      collected_collectFiles hcollect
    exact ⟨vault, file, rfl, rfl, hcollected⟩

theorem Keeps.trans {between last : Files} {later rows : Table ObjectRow}
    (h : Keeps store files objects between later) (h' : Keeps store between later last rows) :
  Keeps store files objects last rows
  := by
  have hlater (hash : String) (hmem : hash ∈ objects) : hash ∈ later := by
    rw [Std.ExtTreeMap.mem_iff_isSome_getElem?, h.row hash hmem,
      ← Std.ExtTreeMap.mem_iff_isSome_getElem?]
    exact hmem
  constructor
  · intro hash hmem
    rw [h'.row hash (hlater hash hmem), h.row hash hmem]
  · intro hash hmem
    rw [h'.file hash (hlater hash hmem), h.file hash hmem]

theorem mem_insertIfNew_self_or {row : ObjectRow} {hash' : String}
    (h : hash' ∈ objects.insertIfNew hash row) :
  hash' = hash ∨ hash' ∈ objects
  := by
  rw [Std.ExtTreeMap.mem_insertIfNew, Std.LawfulEqCmp.compare_eq_iff_eq] at h
  exact h.imp_left Eq.symm

theorem getElem?_insertIfNew_of_mem {row : ObjectRow} {hash' : String} (h : hash' ∈ objects) :
  (objects.insertIfNew hash row)[hash']? = objects[hash']?
  := by
  rw [Std.ExtTreeMap.getElem?_insertIfNew, if_neg]
  rintro ⟨hsame, hnot⟩
  obtain rfl : hash = hash' := Std.LawfulEqCmp.compare_eq_iff_eq.mp hsame
  exact hnot h

theorem Effect.keeps {bytes : List UInt8} {through : Bool} {rows : Table ObjectRow}
    (h : Effect ext store bytes files objects through after rows)
    (hbacked : Backed ext store files objects) :
  Keeps store files objects after rows
  := by
  have hfile {path : String} (content : List UInt8) (hnew : path ∉ files) (hash : String)
      (hmem : hash ∈ objects) :
      store.rawBytes hash (files.insert path content) = store.rawBytes hash files := by
    obtain ⟨_, path', -, hpath', hmem'⟩ := hbacked hash hmem
    have hne : path ≠ path' := by
      rintro rfl
      exact hnew hmem'
    rw [ObjectStore.rawBytes, hpath', AppResult.ok_bind, Std.ExtTreeMap.getElem?_insert, if_neg,
      ObjectStore.rawBytes, hpath', AppResult.ok_bind]
    intro hsame
    exact hne (Std.LawfulEqCmp.compare_eq_iff_eq.mp hsame)
  cases h with
  | refused =>
    constructor
    · intro hash hmem
      rfl
    · intro hash hmem
      rfl
  | torn hpath hnew =>
    constructor
    · intro hash hmem
      rfl
    · apply hfile _ hnew
  | found hpath hfound =>
    constructor
    · intro hash hmem
      apply getElem?_insertIfNew_of_mem hmem
    · intro hash hmem
      rfl
  | stored hpath hnew hcontent =>
    constructor
    · intro hash hmem
      apply getElem?_insertIfNew_of_mem hmem
    · apply hfile _ hnew

theorem Effect.backed {bytes : List UInt8} {through : Bool} {rows : Table ObjectRow}
    (h : Effect ext store bytes files objects through after rows)
    (hbacked : Backed ext store files objects) :
  Backed ext store after rows
  := by
  have hgrows {path : String} (content : List UInt8) :
      Backed ext store (files.insert path content) objects := by
    intro hash hmem
    obtain ⟨bytes, path', hhash, hpath', hmem'⟩ := hbacked hash hmem
    use bytes, path', hhash, hpath'
    apply Std.ExtTreeMap.mem_insert.mpr
    exact .inr hmem'
  cases h with
  | refused => exact hbacked
  | torn hpath hnew => apply hgrows
  | found hpath hfound =>
    intro hash hmem
    obtain rfl | hold := mem_insertIfNew_self_or hmem
    · exact ⟨bytes, _, rfl, hpath, hfound⟩
    · apply hbacked hash hold
  | stored hpath hnew hcontent =>
    intro hash hmem
    obtain rfl | hold := mem_insertIfNew_self_or hmem
    · exact ⟨bytes, _, rfl, hpath, Std.ExtTreeMap.mem_insert_self⟩
    · apply hgrows _ hash hold

/-- What is recorded has the file it had before a collection. -/
theorem getElem?_collectFiles_of_backed (hbacked : Backed ext store files objects)
    (hmem : hash ∈ objects) (hpath : store.filePathForHash hash = .ok path) :
  (collectFiles walk canRemove store.objectsDir objects files).2[path]? = files[path]?
  := by
  obtain ⟨bytes, _, rfl, -⟩ := hbacked hash hmem
  apply getElem?_collectFiles
  right
  rw [(entryName_filePathForHash hpath).1]
  exact hmem

theorem keeps_collectFiles (hbacked : Backed ext store files objects) :
  Keeps store files objects
    (collectFiles walk canRemove store.objectsDir objects files).2 objects
  := by
  constructor
  · intro hash hmem
    rfl
  · intro hash hmem
    obtain ⟨_, path, -, hpath, -⟩ := hbacked hash hmem
    rw [ObjectStore.rawBytes, hpath, AppResult.ok_bind,
      getElem?_collectFiles_of_backed hbacked hmem hpath, ObjectStore.rawBytes, hpath,
      AppResult.ok_bind]

theorem backed_collectFiles (hbacked : Backed ext store files objects) :
  Backed ext store (collectFiles walk canRemove store.objectsDir objects files).2 objects
  := by
  intro hash hmem
  obtain ⟨bytes, path, hhash, hpath, hfile⟩ := hbacked hash hmem
  use bytes, path, hhash, hpath
  rw [Std.ExtTreeMap.mem_iff_isSome_getElem?,
    getElem?_collectFiles_of_backed hbacked hmem hpath,
    ← Std.ExtTreeMap.mem_iff_isSome_getElem?]
  exact hfile

/-- What one call leaves. -/
theorem StoreCall.keeps {disk : OwnerDisk} (call : StoreCall)
    (hbacked : Backed ext store disk.files disk.db.objects) :
  Backed ext store (call.run ext store disk).2.files (call.run ext store disk).2.db.objects
    ∧ Keeps store disk.files disk.db.objects (call.run ext store disk).2.files
      (call.run ext store disk).2.db.objects
  := by
  cases call with
  | put call =>
    have heffect : Effect ext store call.payload _ _ _ _ _ := effect_run call disk
    exact ⟨heffect.backed hbacked, heffect.keeps hbacked⟩
  | collect walk canRemove =>
    exact ⟨backed_collectFiles hbacked, keeps_collectFiles hbacked⟩

theorem keeps_runEach (calls : List StoreCall) {disk : OwnerDisk}
    (hbacked : Backed ext store disk.files disk.db.objects) :
  Backed ext store (runEach ext store calls disk).files (runEach ext store calls disk).db.objects
    ∧ Keeps store disk.files disk.db.objects (runEach ext store calls disk).files
      (runEach ext store calls disk).db.objects
  := by
  induction calls generalizing disk with
  | nil =>
    use hbacked
    constructor
    · intro hash hmem
      rfl
    · intro hash hmem
      rfl
  | cons call rest ih =>
    obtain ⟨hnext, hkeeps⟩ := call.keeps hbacked
    obtain ⟨hlast, hrest⟩ := ih hnext
    exact ⟨hlast, hkeeps.trans hrest⟩

namespace Sample

/-- Ingest a byte string, or as much of it as is written. -/
def ingest (bytes : List UInt8) (stop : Option Nat) : StoreCall :=
  .put (.ingest {
    bytes
    mime := "text/plain"
    sourceKind := "notes"
    effectiveTsMs := 1
    sourcePath := none } 5 none stop)

def collectAll : StoreCall := .collect ⟨id, List.Perm.refl⟩ fun _ => true

/-- A file is cut off, what is left of it is collected, and it is ingested again. -/
def again : List StoreCall := [ingest [4, 5, 6] (some 2), collectAll, ingest [4, 5, 6] none]

/-- A vault with one object. -/
def oneObject : OwnerDisk :=
  runEach KnowledgeCore.Sample.ext ObjectStore.Sample.plainStore [ingest [1, 2, 3] none]
    References.Sample.emptyDisk

end Sample

/-- What a put has sealed is read as what was put. -/
theorem holdsBytes_of_stored (haead : ext.AeadInverse) {bytes content : List UInt8}
    (hpath : store.filePathForHash (blake3HexPrefixed ext (.raw bytes)) = .ok path)
    (hcontent : store.maybeEncryptBytes ext (blake3HexPrefixed ext (.raw bytes)) bytes
      = .ok content)
    (hfile : files[path]? = some content) :
  References.HoldsBytes ext store files (blake3HexPrefixed ext (.raw bytes)) bytes
  := by
  rw [References.HoldsBytes]
  obtain ⟨hnone, rfl⟩ | ⟨enc, ciphertext, henc, hseal, rfl⟩ :=
    ObjectStore.maybeEncryptBytes_eq_ok.mp hcontent
  · rw [hnone]
    rw [ObjectStore.rawBytes, hpath, AppResult.ok_bind, hfile, okOrElse_some]
  · rw [henc]
    apply (ObjectStore.getBytes_eq_ok hpath).mpr
    use ObjectStore.sealedPayload
      (ObjectStore.deterministicNonce ext (blake3HexPrefixed ext (.raw bytes)) enc.keyReference)
      ciphertext, hfile
    apply (ObjectStore.maybeDecryptBytes_eq_ok rfl).mpr
    exact ⟨enc, ciphertext, henc, rfl, (haead _ _ _ _).mp hseal⟩

/-- The file of a hash holds bytes that have it. -/
def Holds (ext : Externals) (store : ObjectStore) (files : Files) (hash : String) : Prop :=
  ∃ bytes, blake3HexPrefixed ext (.raw bytes) = hash
    ∧ References.HoldsBytes ext store files hash bytes

theorem Holds.of_same (h : Holds ext store files hash)
    (hsame : store.rawBytes hash after = store.rawBytes hash files) :
  Holds ext store after hash
  := by
  obtain ⟨bytes, hhash, hholds⟩ := h
  use bytes, hhash
  rw [References.HoldsBytes] at hholds ⊢
  rw [ObjectStore.getBytes, hsame]
  exact hholds

/-- What is read under the hash has it. -/
theorem Holds.readsMatch (h : Holds ext store files hash) :
  ReadsMatch ext store files hash
  := by
  obtain ⟨bytes, hhash, hholds⟩ := h
  intro read hread
  rw [← hhash]
  rw [References.HoldsBytes] at hholds
  cases henc : store.encryption with
  | none =>
    rw [henc] at hholds
    rw [ObjectStore.getBytes, hholds, AppResult.ok_bind] at hread
    cases hlooks : isEncryptedPayload bytes with
    | false =>
      rw [ObjectStore.maybeDecryptBytes_plain hlooks, Except.ok.injEq] at hread
      rw [hread]
    | true =>
      obtain ⟨enc, _, hsome, -⟩ := (ObjectStore.maybeDecryptBytes_eq_ok hlooks).mp hread
      rw [henc] at hsome
      cases hsome
  | some enc =>
    rw [henc] at hholds
    rw [hholds, Except.ok.injEq] at hread
    rw [hread]

/-- Every recorded object has a file that holds it, and unless a call has failed since garbage was
last collected so has every object that has a file. -/
structure Sound (ext : Externals) (store : ObjectStore) (failed : Bool) (files : Files)
    (objects : Table ObjectRow) : Prop where
  backed : Backed ext store files objects
  recorded : ∀ hash ∈ objects, Holds ext store files hash
  present : failed = false → ∀ bytes path,
    store.filePathForHash (blake3HexPrefixed ext (.raw bytes)) = .ok path → path ∈ files →
    Holds ext store files (blake3HexPrefixed ext (.raw bytes))

/-- Whether a call has failed. -/
def failedIn {α : Type} (result : AppResult α) : Bool := !result.isOk

/-- After a call that has failed, garbage is collected until that goes through. -/
def Careful (ext : Externals) (store : ObjectStore) : Bool → List StoreCall → OwnerDisk → Prop
  | _, [], _ => True
  | failed, call :: rest, disk =>
    (failed = true → ∃ walk canRemove, call = .collect walk canRemove)
      ∧ Careful ext store (failedIn (call.run ext store disk).1) rest (call.run ext store disk).2

/-- Putting into a store in which no call has failed leaves a sound store. -/
theorem Effect.sound (haead : ext.AeadInverse) {bytes : List UInt8} {through : Bool}
    {rows : Table ObjectRow} (h : Effect ext store bytes files objects through after rows)
    (hsound : Sound ext store false files objects) :
  Sound ext store (!through) after rows
  := by
  have hkeeps := h.keeps hsound.backed
  have hold (hash : String) (hmem : hash ∈ objects) : Holds ext store after hash :=
    (hsound.recorded hash hmem).of_same (hkeeps.file hash hmem)
  constructor
  · exact h.backed hsound.backed
  · cases h with
    | refused => exact hold
    | torn hpath hnew => exact hold
    | found hpath hfound =>
      intro hash hmem
      obtain rfl | hmem := mem_insertIfNew_self_or hmem
      · apply hsound.present rfl bytes _ hpath hfound
      · apply hold hash hmem
    | stored hpath hnew hcontent =>
      intro hash hmem
      obtain rfl | hmem := mem_insertIfNew_self_or hmem
      · use bytes, rfl
        apply holdsBytes_of_stored haead hpath hcontent
        apply Std.ExtTreeMap.getElem?_insert_self
      · apply hold hash hmem
  · intro hthrough bytes' path' hpath' hmem'
    rw [Bool.not_eq_false'] at hthrough
    subst hthrough
    cases h with
    | found hpath hfound => apply hsound.present rfl bytes' path' hpath' hmem'
    | @stored path content _ hpath hnew hcontent =>
      by_cases hsame : path = path'
      · subst hsame
        rw [← ObjectStore.filePathForHash_inj hpath hpath']
        use bytes, rfl
        apply holdsBytes_of_stored haead hpath hcontent
        apply Std.ExtTreeMap.getElem?_insert_self
      · have hother : (files.insert path content)[path']? = files[path']? := by
          rw [Std.ExtTreeMap.getElem?_insert, if_neg]
          intro heq
          exact hsame (Std.LawfulEqCmp.compare_eq_iff_eq.mp heq)
        rw [Std.ExtTreeMap.mem_iff_isSome_getElem?, hother,
          ← Std.ExtTreeMap.mem_iff_isSome_getElem?] at hmem'
        apply (hsound.present rfl bytes' path' hpath' hmem').of_same
        rw [ObjectStore.rawBytes, hpath', AppResult.ok_bind, hother, ObjectStore.rawBytes,
          hpath', AppResult.ok_bind]

/-- Collecting makes a store sound. What has been cut off is not recorded, and goes. -/
theorem Sound.collect {failed : Bool} (hsound : Sound ext store failed files objects)
    (walk : Walk) (canRemove : String → Bool) :
  Sound ext store
    (failedIn (collectFiles walk canRemove store.objectsDir objects files).1)
    (collectFiles walk canRemove store.objectsDir objects files).2 objects
  := by
  have hkeeps : Keeps store files objects
      (collectFiles walk canRemove store.objectsDir objects files).2 objects :=
    keeps_collectFiles hsound.backed
  have hold (hash : String) (hmem : hash ∈ objects) : Holds ext store _ hash :=
    (hsound.recorded hash hmem).of_same (hkeeps.file hash hmem)
  constructor
  · apply backed_collectFiles hsound.backed
  · exact hold
  · intro hok bytes path hpath hleft
    rcases hresult : (collectFiles walk canRemove store.objectsDir objects files).1 with e | count
    · rw [hresult] at hok
      cases hok
    · obtain ⟨hname, hbelow⟩ := entryName_filePathForHash hpath
      have hmem := recorded_of_collectFiles hresult hbelow hleft
      rw [hname] at hmem
      apply hold _ hmem

theorem StoreCall.sound (haead : ext.AeadInverse) {failed : Bool} {disk : OwnerDisk}
    (call : StoreCall) (hsound : Sound ext store failed disk.files disk.db.objects)
    (hcareful : failed = true → ∃ walk canRemove, call = .collect walk canRemove) :
  Sound ext store (failedIn (call.run ext store disk).1) (call.run ext store disk).2.files
    (call.run ext store disk).2.db.objects
  := by
  cases call with
  | put call =>
    cases failed with
    | false =>
      have heffect : Effect ext store call.payload _ _ _ _ _ := effect_run call disk
      exact heffect.sound haead hsound
    | true =>
      obtain ⟨walk, canRemove, hcall⟩ := hcareful rfl
      cases hcall
  | collect walk canRemove =>
    have hcollect := hsound.collect walk canRemove
    rw [StoreCall.run]
    rcases hresult : collectFiles walk canRemove store.objectsDir disk.db.objects disk.files
      with ⟨e | count, after⟩
    · rw [hresult] at hcollect
      exact hcollect
    · rw [hresult] at hcollect
      exact hcollect

theorem sound_runEach (haead : ext.AeadInverse) (calls : List StoreCall) {failed : Bool}
    {disk : OwnerDisk} (hsound : Sound ext store failed disk.files disk.db.objects)
    (hcareful : Careful ext store failed calls disk) :
  ∃ failed', Sound ext store failed' (runEach ext store calls disk).files
    (runEach ext store calls disk).db.objects
  := by
  induction calls generalizing failed disk with
  | nil => exact ⟨failed, hsound⟩
  | cons call rest ih =>
    obtain ⟨hcall, hrest⟩ := hcareful
    exact ih (call.sound haead hsound hcall) hrest

end Collecting

end KnowledgeCore
