import Mathlib.Data.List.Basic

/-!
# Paths as strings

A path as a program builds it: a string whose components are separated by slashes. A path that
starts with a slash is absolute. The operations are those of the paths of a systems language:
join, take the components, and take the name of the file apart.
-/

namespace PathBuf

/-- A path with a separator at its end, unless it is empty. -/
def withSeparator (base : String) : String :=
  if base.isEmpty ∨ base.toList.getLast? = some '/' then base else base ++ "/"

/-- A path below another. An absolute path replaces it. -/
def join (base rel : String) : String :=
  if rel.toList.head? = some '/' then rel else withSeparator base ++ rel

/-- What stands between the slashes, given the characters before the first slash so far. -/
def pieces (piece : List Char) : List Char → List (List Char)
  | [] => [piece.reverse]
  | c :: rest =>
    if c = '/' then piece.reverse :: pieces [] rest else pieces (c :: piece) rest

/-- The components of a path. The root is one of its own. -/
def components (path : String) : List String :=
  (if path.toList.head? = some '/' then ["/"] else [])
    ++ ((pieces [] path.toList).filter (fun piece => piece ≠ [] ∧ piece ≠ ['.'])).map
      String.ofList

/-- The last component of a path, if it is a name. -/
def fileName (path : String) : Option String :=
  (components path).getLast?.filter fun name => name ≠ "/" ∧ name ≠ ".."

/-- The characters of a name before and after its last dot. A dot that starts the name does not
count. -/
def splitName (name : String) : List Char × Option (List Char) :=
  let after := (name.toList.reverse.takeWhile (· ≠ '.')).reverse
  match name.toList.reverse.dropWhile (· ≠ '.') with
  | [] | [_] => (name.toList, none)
  | _ :: before => (before.reverse, some after)

/-- The name of the file without its extension. -/
def fileStem (path : String) : Option String :=
  (fileName path).map fun name => String.ofList (splitName name).1

/-- The extension of the name of the file. -/
def extension (path : String) : Option String :=
  (fileName path).bind fun name => (splitName name).2.map String.ofList

/-- A file name with another extension. -/
def withExtension (name ext : String) : String :=
  String.ofList (splitName name).1 ++ "." ++ ext

/-! ### Names have no slash -/

theorem slash_notMem_pieces {piece l p : List Char} (hpiece : '/' ∉ piece)
    (hp : p ∈ pieces piece l) :
  '/' ∉ p
  := by
  induction l generalizing piece with
  | nil =>
    obtain rfl := List.mem_singleton.mp hp
    simpa using hpiece
  | cons c l ih =>
    rw [pieces] at hp
    split at hp
    · rcases List.mem_cons.mp hp with rfl | hp
      · simpa using hpiece
      · apply ih _ hp
        simp
    · next hc =>
      apply ih _ hp
      simpa [Ne.symm hc] using hpiece

theorem slash_notMem_fileName {path name : String} (h : fileName path = some name) :
  '/' ∉ name.toList
  := by
  obtain ⟨hlast, hname⟩ := Option.filter_eq_some_iff.mp h
  have hmem := List.mem_of_getLast? hlast
  rw [components, List.mem_append] at hmem
  rcases hmem with hroot | hpiece
  · split at hroot
    · obtain rfl := List.mem_singleton.mp hroot
      simp at hname
    · cases hroot
  · obtain ⟨p, hp, rfl⟩ := List.mem_map.mp hpiece
    rw [String.toList_ofList]
    apply slash_notMem_pieces _ (List.mem_filter.mp hp).1
    simp

/-- What stands before the last dot of a name begins the name. -/
theorem splitName_starts (name : String) : (splitName name).1 <+: name.toList
  := by
  have hsuffix := List.dropWhile_suffix (l := name.toList.reverse) (· ≠ '.')
  rw [splitName]
  generalize name.toList.reverse.dropWhile (· ≠ '.') = dotted at hsuffix
  match dotted with
  | [] => apply List.prefix_rfl
  | [_] => apply List.prefix_rfl
  | dot :: c :: before =>
    have hstarts := List.reverse_prefix.mpr ((List.suffix_cons dot _).trans hsuffix)
    rw [List.reverse_reverse] at hstarts
    apply hstarts

/-- What follows without a dot does not give a name an extension. -/
theorem splitName_append {stem rest : String} (hrest : '.' ∉ rest.toList)
    (h : (splitName stem).2 = none) :
  splitName (stem ++ rest) = ((stem ++ rest).toList, none)
  := by
  have hdrop : (stem ++ rest).toList.reverse.dropWhile (· ≠ '.')
      = stem.toList.reverse.dropWhile (· ≠ '.') := by
    rw [String.toList_append, List.reverse_append, List.dropWhile_append_of_pos]
    intro c hc
    rw [List.mem_reverse] at hc
    rw [decide_eq_true_eq]
    rintro rfl
    exact hrest hc
  rw [splitName] at h ⊢
  rw [hdrop]
  generalize stem.toList.reverse.dropWhile (· ≠ '.') = dotted at h
  match dotted with
  | [] => rfl
  | [_] => rfl
  | _ :: _ :: _ => cases h

/-- What follows a last dot is the extension, unless the dot starts the name. -/
theorem splitName_dotted (stem : List Char) {ext : String} (hstem : stem ≠ [])
    (hext : '.' ∉ ext.toList) :
  splitName (String.ofList stem ++ "." ++ ext) = (stem, some ext.toList)
  := by
  have hreverse : (String.ofList stem ++ "." ++ ext).toList.reverse
      = ext.toList.reverse ++ '.' :: stem.reverse := by
    simp [String.toList_append]
  have hplain (c : Char) (hc : c ∈ ext.toList.reverse) : decide (c ≠ '.') = true := by
    rw [decide_eq_true_eq]
    rintro rfl
    exact hext (List.mem_reverse.mp hc)
  rw [splitName, hreverse, List.dropWhile_append_of_pos hplain,
    List.takeWhile_append_of_pos hplain]
  simp [hstem]

/-- An extension of two parts is never the one a name has. -/
theorem withExtension_ne (name first second : String) (hsecond : '.' ∉ second.toList) :
  withExtension name (first ++ "." ++ second) ≠ name
  := by
  intro h
  have hname : name
      = String.ofList ((splitName name).1 ++ '.' :: first.toList) ++ "." ++ second := by
    conv_lhs => rw [← h]
    simp [withExtension, ← String.toList_inj, String.toList_append]
  have hsplit := splitName_dotted ((splitName name).1 ++ '.' :: first.toList)
    (by simp) hsecond
  rw [← hname] at hsplit
  have hlength := congrArg (fun split => split.1.length) hsplit
  simp at hlength

theorem slash_notMem_extension {path ext : String} (h : extension path = some ext) :
  '/' ∉ ext.toList
  := by
  obtain ⟨name, hname, hext⟩ := Option.bind_eq_some_iff.mp h
  obtain ⟨after, hafter, rfl⟩ := Option.map_eq_some_iff.mp hext
  rw [String.toList_ofList]
  intro hslash
  apply slash_notMem_fileName hname
  rw [splitName] at hafter
  split at hafter
  · cases hafter
  · cases hafter
  · cases hafter
    rw [List.mem_reverse] at hslash
    apply List.mem_reverse.mp ((List.takeWhile_prefix _).subset hslash)

theorem slash_notMem_fileStem {path stem : String} (h : fileStem path = some stem) :
  '/' ∉ stem.toList
  := by
  obtain ⟨name, hname, rfl⟩ := Option.map_eq_some_iff.mp h
  rw [String.toList_ofList]
  intro hslash
  exact slash_notMem_fileName hname ((splitName_starts name).subset hslash)

/-- Another extension does not make a name absolute. -/
theorem head?_withExtension {name ext : String} (h : name.toList.head? ≠ some '/') :
  (withExtension name ext).toList.head? ≠ some '/'
  := by
  rw [withExtension, String.toList_append, String.toList_append, String.toList_ofList]
  cases hstem : (splitName name).1 with
  | nil => simp
  | cons c stem =>
    obtain ⟨rest, hname⟩ := splitName_starts name
    rw [← hname, hstem] at h
    simpa using h

/-! ### Joining -/

theorem join_of_relative {base rel : String} (h : rel.toList.head? ≠ some '/') :
  join base rel = withSeparator base ++ rel
  := by
  rw [join, if_neg h]

/-- A path ends with what was joined to it. -/
theorem exists_join (base rel : String) :
  ∃ pre, join base rel = pre ++ rel
  := by
  rw [join]
  split
  · use ""
    simp
  · use withSeparator base

theorem withSeparator_eq {base : String} (hbase : base ≠ "")
    (hlast : base.toList.getLast? ≠ some '/') :
  withSeparator base = base ++ "/"
  := by
  rw [withSeparator, if_neg]
  rintro (hempty | hslash)
  · exact hbase (String.isEmpty_iff.mp hempty)
  · exact hlast hslash

/-! ### Paths below a directory -/

/-- A component that leads one directory down. -/
structure IsPlain (name : String) : Prop where
  nonempty : name ≠ ""
  not_dot : name ≠ "."
  not_parent : name ≠ ".."
  no_slash : '/' ∉ name.toList

/-- A path that goes on from a directory through names. -/
def StrictlyBelow (dir path : String) : Prop :=
  ∃ names, names ≠ [] ∧ (∀ name ∈ names, IsPlain name)
    ∧ components path = components dir ++ names

/-- The components that are named between the slashes. -/
def named (l : List Char) : List String :=
  ((pieces [] l).filter (fun piece => piece ≠ [] ∧ piece ≠ ['.'])).map String.ofList

theorem components_eq (path : String) :
  components path = (if path.toList.head? = some '/' then ["/"] else []) ++ named path.toList
  := rfl

theorem pieces_append_slash (piece l rest : List Char) :
  pieces piece (l ++ '/' :: rest) = pieces piece l ++ pieces [] rest
  := by
  induction l generalizing piece with
  | nil => simp [pieces]
  | cons c l ih =>
    rw [List.cons_append, pieces, pieces]
    split
    · rw [ih, List.cons_append]
    · rw [ih]

theorem pieces_of_notMem {piece l : List Char} (h : '/' ∉ l) :
  pieces piece l = [piece.reverse ++ l]
  := by
  induction l generalizing piece with
  | nil => simp [pieces]
  | cons c l ih =>
    simp only [List.mem_cons, not_or] at h
    rw [pieces, if_neg (Ne.symm h.1), ih h.2]
    simp

theorem named_append_slash (l rest : List Char) :
  named (l ++ '/' :: rest) = named l ++ named rest
  := by
  rw [named, named, named, pieces_append_slash, List.filter_append, List.map_append]

@[simp] theorem named_nil : named [] = [] := rfl

theorem IsPlain.named_eq {name : String} (h : IsPlain name) :
  named name.toList = [name]
  := by
  have hne : name.toList ≠ [] := by
    intro hnil
    exact h.nonempty (String.toList_inj.mp hnil)
  have hdot : name.toList ≠ ['.'] := by
    intro hdot
    exact h.not_dot (String.toList_inj.mp hdot)
  rw [named, pieces_of_notMem h.no_slash]
  simp [hne, hdot]

theorem IsPlain.head?_ne {name : String} (h : IsPlain name) :
  name.toList.head? ≠ some '/'
  := by
  intro hhead
  apply h.no_slash
  apply List.mem_of_head? hhead

theorem named_intercalate {names : List String} (h : ∀ name ∈ names, IsPlain name) :
  named ("/".intercalate names).toList = names
  := by
  induction names with
  | nil => rfl
  | cons name rest ih =>
    have hname := h name List.mem_cons_self
    cases rest with
    | nil => rw [String.intercalate_singleton, hname.named_eq]
    | cons next rest =>
      have hrest := ih fun n hn => h n (List.mem_cons_of_mem name hn)
      have hslash : (name ++ "/" ++ "/".intercalate (next :: rest)).toList
          = name.toList ++ '/' :: ("/".intercalate (next :: rest)).toList := by
        simp [String.toList_append]
      rw [String.intercalate_cons_cons, hslash, named_append_slash, hname.named_eq, hrest]
      rfl

/-- A start that is longer than a dot stands at the start of the first component. -/
theorem exists_named_cons {start : List Char} (l : List Char) (hslash : '/' ∉ start)
    (hlong : 2 ≤ start.length) :
  ∃ more rest, named (start ++ l) = String.ofList (start ++ more) :: rest
  := by
  have hpiece (more : List Char) (h : '/' ∉ more) :
      named (start ++ more) = [String.ofList (start ++ more)] := by
    have hne : start ++ more ≠ [] := by
      intro hnil
      simp [(List.append_eq_nil_iff.mp hnil).1] at hlong
    have hdot : start ++ more ≠ ['.'] := by
      intro hdot
      have hlength := congrArg List.length hdot
      simp only [List.length_append, List.length_singleton] at hlength
      omega
    have hnotMem : '/' ∉ start ++ more := by
      rw [List.mem_append, not_or]
      use hslash
    rw [named, pieces_of_notMem hnotMem]
    simp [hne, hdot]
  by_cases hmem : '/' ∈ l
  · obtain ⟨more, rest, rfl, hmore⟩ := List.eq_append_cons_of_mem hmem
    use more, named rest
    rw [← List.append_assoc, named_append_slash, hpiece more hmore]
    rfl
  · use l, []
    apply hpiece l hmem

theorem slash_notMem_named {l : List Char} {name : String} (h : name ∈ named l) :
  '/' ∉ name.toList
  := by
  obtain ⟨p, hp, rfl⟩ := List.mem_map.mp h
  rw [String.toList_ofList]
  apply slash_notMem_pieces _ (List.mem_filter.mp hp).1
  simp

theorem head?_intercalate_ne {names : List String} (h : ∀ name ∈ names, IsPlain name) :
  ("/".intercalate names).toList.head? ≠ some '/'
  := by
  cases names with
  | nil => simp
  | cons name rest =>
    have hname := h name List.mem_cons_self
    cases rest with
    | nil =>
      rw [String.intercalate_singleton]
      exact hname.head?_ne
    | cons next rest =>
      have hne : name.toList ≠ [] := by
        intro hnil
        exact hname.nonempty (String.toList_inj.mp hnil)
      rw [String.intercalate_cons_cons, String.toList_append, String.toList_append,
        List.append_assoc, List.head?_append_of_ne_nil _ hne]
      exact hname.head?_ne

/-- A path that is joined to a directory goes on from there, unless it is absolute. -/
theorem components_join_relative (dir : String) {rel : String}
    (hhead : rel.toList.head? ≠ some '/') :
  components (join dir rel) = components dir ++ named rel.toList
  := by
  rw [join_of_relative hhead, components_eq, components_eq, withSeparator]
  split
  · next hends =>
    rcases hends with hempty | hlast
    · obtain rfl := String.isEmpty_iff.mp hempty
      rw [String.empty_append, if_neg hhead]
      rfl
    · obtain ⟨start, hdir⟩ := List.getLast?_eq_some_iff.mp hlast
      have hdir' : named dir.toList = named start := by
        rw [hdir, named_append_slash, named_nil, List.append_nil]
      have hjoin : (dir ++ rel).toList = start ++ '/' :: rel.toList := by
        rw [String.toList_append, hdir, List.append_assoc]
        rfl
      have hroot : (start ++ '/' :: rel.toList).head? = dir.toList.head? := by
        rw [hdir]
        cases start <;> rfl
      rw [hjoin, hroot, named_append_slash, hdir', List.append_assoc]
  · next hends =>
    have hne : dir.toList ≠ [] := by
      intro hnil
      have hempty : dir = "" := String.toList_inj.mp hnil
      apply hends
      left
      rw [hempty]
      rfl
    have hjoin : (dir ++ "/" ++ rel).toList = dir.toList ++ '/' :: rel.toList := by
      rw [String.toList_append, String.toList_append, List.append_assoc]
      rfl
    rw [hjoin, List.head?_append_of_ne_nil _ hne, named_append_slash, List.append_assoc]

/-- What is joined to a directory goes on from there. -/
theorem components_join {names : List String} (dir : String)
    (h : ∀ name ∈ names, IsPlain name) :
  components (join dir ("/".intercalate names)) = components dir ++ names
  := by
  rw [components_join_relative dir (head?_intercalate_ne h), named_intercalate h]

/-- What is joined to a directory through names lies strictly below it. -/
theorem strictlyBelow_join {names : List String} (dir : String) (hne : names ≠ [])
    (h : ∀ name ∈ names, IsPlain name) :
  StrictlyBelow dir (join dir ("/".intercalate names))
  := ⟨names, hne, h, components_join dir h⟩

end PathBuf
