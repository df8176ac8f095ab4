import Std.Data.ExtTreeMap
import Mathlib.Data.List.Basic

/-!
# Directories

A directory tree holds files under relative paths, and besides the directories that the
files imply, directories of its own, possibly empty. The operations are those a program
performs through the file system: look up, list in order, create, write, remove, copy.
-/

/-- A relative path, as the list of its components. -/
abbrev RelPath := List String

/-- A map from relative paths, listed in the order of the paths. -/
abbrev PathMap (α : Type) := Std.ExtTreeMap RelPath α

/-- A directory: its files, and the directories that exist whether or not they hold any. -/
structure Dir (α : Type) where
  files : PathMap α
  dirs : PathMap Unit

namespace Dir

variable {α : Type}

/-- Whether `q` is `p` or lies below it. -/
def under (p q : RelPath) : Bool :=
  p.isPrefixOf q

/-- The empty directory. -/
def empty : Dir α where
  files := ∅
  dirs := ∅

/-- The directory with the given files. -/
def ofFiles (l : List (RelPath × α)) : Dir α where
  files := l.foldl (fun m e => m.insert e.1 e.2) ∅
  dirs := ∅

/-- The content of the file at `p`. -/
def get (d : Dir α) (p : RelPath) : Option α :=
  d.files[p]?

/-- The files at or below `p` with their contents, in the order of their paths. -/
def listFiles (d : Dir α) (p : RelPath) : List (RelPath × α) :=
  d.files.toList.filter (fun e => under p e.1)

/-- Whether there is a file or a directory at `p`. -/
def contains (d : Dir α) (p : RelPath) : Bool :=
  !(d.listFiles p).isEmpty || d.dirs.toList.any (fun e => under p e.1)

/-- Whether what is at `p` is a file. -/
def isFile (d : Dir α) (p : RelPath) : Bool :=
  d.files.contains p

/-- Write a file. -/
def write (d : Dir α) (p : RelPath) (c : α) : Dir α :=
  { d with files := d.files.insert p c }

/-- Create the directory `p` and those above it. -/
def createDirAll (d : Dir α) (p : RelPath) : Dir α :=
  { d with dirs := d.dirs.insert p () }

/-- Remove whatever is at `p` or below it. -/
def removeAll (d : Dir α) (p : RelPath) : Dir α where
  files := d.files.filter (fun q _ => !under p q)
  dirs := d.dirs.filter (fun q _ => !under p q)

/-- Copy the files of `src` at or below `p`, in the order of their paths, to the same paths
of `dst`. -/
def copyTree (src : Dir α) (p : RelPath) (dst : Dir α) : Dir α :=
  (src.listFiles p).foldl (fun d e => d.write e.1 e.2) dst

/-! ### Looking up after an operation -/

@[simp] theorem get_empty (p : RelPath) :
  (empty : Dir α).get p = none
  := by
  simp [get, empty]

@[simp] theorem get_write (d : Dir α) (p q : RelPath) (c : α) :
  (d.write p c).get q = if p = q then some c else d.get q
  := by
  simp [get, write, Std.ExtTreeMap.getElem?_insert]

@[simp] theorem get_createDirAll (d : Dir α) (p q : RelPath) :
  (d.createDirAll p).get q = d.get q
  := rfl

@[simp] theorem get_removeAll (d : Dir α) (p q : RelPath) :
  (d.removeAll p).get q = if under p q then none else d.get q
  := by
  simp only [get, removeAll, Std.ExtTreeMap.getElem?_filter']
  cases d.files[q]? <;> cases under p q <;> rfl

theorem mem_listFiles {d : Dir α} {p q : RelPath} {c : α} :
  (q, c) ∈ d.listFiles p ↔ under p q = true ∧ d.get q = some c
  := by
  simp [listFiles, get, Std.ExtTreeMap.mem_toList_iff_getElem?_eq_some, and_comm]

/-- Directories with the same files below a path list the same files there. -/
theorem listFiles_congr {d d' : Dir α} {p : RelPath}
    (h : ∀ q, under p q = true → d.get q = d'.get q) :
  d.listFiles p = d'.listFiles p
  := by
  have hfilter (e : Dir α) : e.listFiles p = (e.files.filter fun q _ => under p q).toList := by
    rw [listFiles, Std.ExtTreeMap.toList_filter]
  rw [hfilter, hfilter]
  congr 1
  apply Std.ExtTreeMap.ext_getElem?
  intro q
  simp only [Std.ExtTreeMap.getElem?_filter']
  cases hu : under p q with
  | false => simp
  | true =>
    have := h q hu
    simp only [get] at this
    rw [this]

/-- Where there is a file below a path, there is something at the path. -/
theorem contains_of_get {d : Dir α} {p q : RelPath} {c : α} (hu : under p q = true)
    (hc : d.get q = some c) :
  d.contains p = true
  := by
  have hmem := mem_listFiles.mpr ⟨hu, hc⟩
  cases hl : d.listFiles p with
  | nil =>
    rw [hl] at hmem
    cases hmem
  | cons e l => simp [contains, hl]

/-- No path is listed twice. -/
theorem nodup_listFiles (d : Dir α) (p : RelPath) :
  ((d.listFiles p).map Prod.fst).Nodup
  := by
  have h : d.files.toList.Pairwise (fun a b => ¬ compare a.1 b.1 = .eq) :=
    Std.ExtTreeMap.distinct_keys_toList
  rw [List.Nodup, List.pairwise_map]
  apply (h.filter _).imp
  intro a b hab heq
  apply hab
  rw [heq]
  apply Std.ReflCmp.compare_self

theorem get_foldl_write {l : List (RelPath × α)} (hl : (l.map Prod.fst).Nodup) (d : Dir α)
    (q : RelPath) :
  (l.foldl (fun d e => d.write e.1 e.2) d).get q = (l.lookup q).or (d.get q)
  := by
  induction l generalizing d with
  | nil => simp
  | cons e l ih =>
    obtain ⟨p, c⟩ := e
    obtain ⟨hp, hl⟩ := List.nodup_cons.mp hl
    rw [List.foldl_cons, ih hl, get_write, List.lookup_cons]
    by_cases hpq : p = q
    · subst hpq
      have : l.lookup p = none := by
        rw [List.lookup_eq_none_iff]
        intro x hx
        have : x.1 ≠ p := by
          rintro rfl
          apply hp
          apply List.mem_map_of_mem hx
        simpa using this.symm
      simp [this]
    · have : (q == p) = false := by simpa using fun h => hpq h.symm
      simp [hpq, this]

/-- Writing elsewhere leaves a file alone. -/
theorem get_foldl_write_of_not_mem {l : List (RelPath × α)} {q : RelPath}
    (h : q ∉ l.map Prod.fst) (d : Dir α) :
  (l.foldl (fun d e => d.write e.1 e.2) d).get q = d.get q
  := by
  induction l generalizing d with
  | nil => rfl
  | cons e l ih =>
    simp only [List.map_cons, List.mem_cons, not_or] at h
    rw [List.foldl_cons, ih h.2, get_write, if_neg (Ne.symm h.1)]

/-- After several writes, a file that is always written the same has what was written. -/
theorem get_foldl_write_of_mem {l : List (RelPath × α)} {q : RelPath} {c : α}
    (hmem : q ∈ l.map Prod.fst) (hc : ∀ e ∈ l, e.1 = q → e.2 = c) (d : Dir α) :
  (l.foldl (fun d e => d.write e.1 e.2) d).get q = some c
  := by
  induction l generalizing d with
  | nil => cases hmem
  | cons e l ih =>
    rw [List.foldl_cons]
    by_cases hl : q ∈ l.map Prod.fst
    · exact ih hl (fun e he => hc e (by simp [he])) _
    · obtain rfl : q = e.1 := by simpa [hl] using hmem
      rw [get_foldl_write_of_not_mem hl, get_write, if_pos rfl, hc e (by simp) rfl]

/-- Writing removes no file. -/
theorem isSome_get_foldl_write {l : List (RelPath × α)} {d : Dir α} {q : RelPath}
    (h : q ∈ l.map Prod.fst ∨ (d.get q).isSome = true) :
  ((l.foldl (fun d e => d.write e.1 e.2) d).get q).isSome = true
  := by
  induction l generalizing d with
  | nil => simpa using h
  | cons e l ih =>
    rw [List.foldl_cons]
    apply ih
    rw [get_write]
    simp only [List.map_cons, List.mem_cons] at h
    by_cases hq : e.1 = q
    · simp [hq]
    · rw [if_neg hq]
      rcases h with (rfl | h) | h
      · exact absurd rfl hq
      · left
        exact h
      · right
        exact h

theorem lookup_listFiles (d : Dir α) (p q : RelPath) :
  (d.listFiles p).lookup q = if under p q then d.get q else none
  := by
  cases h : (d.listFiles p).lookup q with
  | none =>
    rw [List.lookup_eq_none_iff] at h
    cases hu : under p q with
    | false => simp
    | true =>
      cases hg : d.get q with
      | none => simp
      | some c =>
        have := h (q, c) (mem_listFiles.mpr ⟨hu, hg⟩)
        simp at this
  | some c =>
    have hmem : (q, c) ∈ d.listFiles p := by
      rw [List.lookup_eq_some_iff] at h
      obtain ⟨l₁, l₂, h, -⟩ := h
      simp [h]
    obtain ⟨hu, hg⟩ := mem_listFiles.mp hmem
    simp [hu, hg]

/-- After a copy, a path at or below `p` that `src` has holds what `src` holds there, and
every other path what it held before. -/
theorem get_copyTree (src : Dir α) (p : RelPath) (dst : Dir α) (q : RelPath) :
  (copyTree src p dst).get q = if under p q then (src.get q).or (dst.get q) else dst.get q
  := by
  rw [copyTree, get_foldl_write (nodup_listFiles src p), lookup_listFiles]
  cases under p q <;> simp

theorem dirs_foldl_write (l : List (RelPath × α)) (d : Dir α) :
  (l.foldl (fun d e => d.write e.1 e.2) d).dirs = d.dirs
  := by
  induction l generalizing d with
  | nil => rfl
  | cons e l ih => rw [List.foldl_cons, ih, write]

@[simp] theorem dirs_copyTree (src : Dir α) (p : RelPath) (dst : Dir α) :
  (copyTree src p dst).dirs = dst.dirs
  := by
  apply dirs_foldl_write

/-- Two directories with the same files and the same directories are equal. -/
theorem ext_get {d d' : Dir α} (hf : ∀ p, d.get p = d'.get p) (hd : d.dirs = d'.dirs) :
  d = d'
  := by
  cases d
  cases d'
  congr
  apply Std.ExtTreeMap.ext_getElem?
  apply hf

end Dir
