import KnowledgeCore.ObjectStore

/-!
# The paths of objects

The path of an object is made from its hash: a directory named by the first two bytes of the
digest, and a file named by the hash. That both lie below the directory of the objects holds of
the hashes the program makes. Of other strings only the start and the length are looked at.
-/

namespace KnowledgeCore

open PathBuf (IsPlain components join named)

/-! ### The paths -/

/-- `file_path_for_hash`, where no result means that the program stops at the index. -/
def ObjectStore.filePath (store : ObjectStore) (objectHash : String) : Option (AppResult String) :=
  if "blake3:".toList.isPrefixOf objectHash.toList = false ∨ objectHash.utf8ByteSize < 9 then
    some (.error (objectStoreError "KC_HASH_INVALID_FORMAT" "invalid object hash format"
      [("object_hash", .str objectHash)]))
  else
    (Export.firstTwoBytes (objectHash.toList.drop 7)).map fun dir =>
      .ok (join (join store.objectsDir dir) objectHash)

/-- The path an export reads an object from and the one it writes it to, where no result means
that the program stops at the index. -/
def Export.objectPaths (objectsDir bundleDir hash : String) :
    Option (AppResult (String × String)) :=
  if "blake3:".toList.isPrefixOf hash.toList = false then
    some (.error (exportFailed "invalid object hash" (.obj [("hash", .str hash)])))
  else
    (firstTwoBytes (hash.toList.drop 7)).map fun dir =>
      .ok (join (join objectsDir dir) hash, join bundleDir (objectRel dir hash))

/-- Where the program does not stop, the object is sought at this path. -/
theorem ObjectStore.filePathForHash_of_filePath {store : ObjectStore} {hash : String}
    {r : AppResult String} (h : store.filePath hash = some r) :
  store.filePathForHash hash = r
  := by
  rw [filePath] at h
  rw [filePathForHash]
  split_ifs at h ⊢
  · exact Option.some_inj.mp h
  · obtain ⟨dir, hdir, rfl⟩ := Option.map_eq_some_iff.mp h
    rw [hdir]
    rfl

theorem Export.objectPrefix_of_objectPaths {objectsDir bundleDir hash : String}
    {r : AppResult (String × String)} (h : objectPaths objectsDir bundleDir hash = some r) :
  (objectPrefix hash).map
      (fun dir => (join (join objectsDir dir) hash, join bundleDir (objectRel dir hash))) = r
  := by
  rw [objectPaths] at h
  rw [objectPrefix]
  split_ifs at h ⊢
  · exact Option.some_inj.mp h
  · obtain ⟨dir, hdir, rfl⟩ := Option.map_eq_some_iff.mp h
    rw [hdir]
    rfl

/-! ### Paths that stay inside -/

/-- `char::is_ascii_hexdigit` -/
def isAsciiHexdigit (c : Char) : Bool :=
  Hex.isLowerHex c || ('A' ≤ c && c ≤ 'F')

/-- Two hexadecimal digits. -/
def IsHexPair (name : String) : Prop :=
  ∃ c d, isAsciiHexdigit c = true ∧ isAsciiHexdigit d = true ∧ name = String.ofList [c, d]

/-- A path of a file in a hexadecimal directory of a directory. -/
def HoldsObject (dir path : String) : Prop :=
  ∃ sub name, IsHexPair sub ∧ IsPlain name ∧ components path = components dir ++ [sub, name]

/-- The program does not stop, and ends with an error or with a result that is good. -/
def Returns {α : Type} (good : α → Prop) (called : Option (AppResult α)) : Prop :=
  ∃ r, called = some r ∧ ∀ a, r = .ok a → good a

/-- A hash whose digest starts with two hexadecimal digits, and which is one component. -/
def Addressed (hash : String) : Prop :=
  ∃ c d rest, hash.toList = "blake3:".toList ++ c :: d :: rest ∧ isAsciiHexdigit c = true
    ∧ isAsciiHexdigit d = true ∧ (components hash).length = 1

/-- A hash whose digest starts with a slash, and so replaces the directory of the objects, which
lies on the way that the hash goes on from the root. -/
def LeadsBack (dir hash : String) : Prop :=
  ∃ d rest sub name, hash.toList = "blake3:/".toList ++ d :: rest ∧ d.utf8Size = 1
    ∧ IsHexPair sub ∧ IsPlain name
    ∧ "/" :: (named [d] ++ named hash.toList) = components dir ++ [sub, name]

/-! ### Hexadecimal directories -/

theorem toNat_le_of_isAsciiHexdigit {c : Char} (h : isAsciiHexdigit c = true) :
  c.toNat ≤ 102
  := by
  have hle {a b : Char} (hab : a ≤ b) : a.toNat ≤ b.toNat := hab
  rw [isAsciiHexdigit, Bool.or_eq_true, Hex.isLowerHex, Hex.digitValue] at h
  rcases h with hlower | hupper
  · split_ifs at hlower with hdigit hletter
    · apply (hle hdigit.2).trans
      decide
    · exact hle hletter.2
    · cases hlower
  · rw [Bool.and_eq_true, decide_eq_true_eq, decide_eq_true_eq] at hupper
    apply (hle hupper.2).trans
    decide

theorem utf8Size_of_isAsciiHexdigit {c : Char} (h : isAsciiHexdigit c = true) :
  c.utf8Size = 1
  := by
  have hle : c.toNat ≤ 127 := (toNat_le_of_isAsciiHexdigit h).trans (by decide)
  rw [Char.utf8Size]
  exact if_pos hle

theorem ne_slash_of_isAsciiHexdigit {c : Char} (h : isAsciiHexdigit c = true) :
  c ≠ '/'
  := by
  rintro rfl
  revert h
  decide

theorem IsHexPair.length {sub : String} (h : IsHexPair sub) :
  sub.toList.length = 2
  := by
  obtain ⟨c, d, -, -, rfl⟩ := h
  rw [String.toList_ofList]
  rfl

theorem IsHexPair.plain {sub : String} (h : IsHexPair sub) :
  IsPlain sub
  := by
  obtain ⟨c, d, hc, hd, rfl⟩ := h
  constructor
  · intro hempty
    simpa using congrArg String.toList hempty
  · intro hdot
    simpa using congrArg String.toList hdot
  · intro hparent
    have hdot : c = '.' := by simpa using congrArg (fun s => s.toList.head?) hparent
    rw [hdot] at hc
    revert hc
    decide
  · have hc' := (ne_slash_of_isAsciiHexdigit hc).symm
    have hd' := (ne_slash_of_isAsciiHexdigit hd).symm
    simp [hc', hd']

/-! ### The components of a path -/

theorem Export.firstTwoBytes_cases {l : List Char} {dir : String}
    (h : firstTwoBytes l = some dir) :
  (∃ c, c.utf8Size = 2 ∧ dir = String.ofList [c]) ∨ ∃ c d rest, l = c :: d :: rest
    ∧ c.utf8Size = 1 ∧ d.utf8Size = 1 ∧ dir = String.ofList [c, d]
  := by
  match l with
  | [] => cases h
  | [c] =>
    rw [firstTwoBytes] at h
    split_ifs at h with hwide
    left
    use c, hwide
    exact (Option.some_inj.mp h).symm
  | c :: d :: rest =>
    rw [firstTwoBytes] at h
    split_ifs at h with hwide hpair
    · left
      use c, hwide
      exact (Option.some_inj.mp h).symm
    · right
      use c, d, rest, rfl, hpair.1, hpair.2
      exact (Option.some_inj.mp h).symm

/-- A single character names at most one component. -/
theorem named_singleton (c : Char) :
  named [c] = [] ∨ named [c] = [String.ofList [c]]
  := by
  by_cases hslash : c = '/'
  · left
    rw [hslash]
    rfl
  · by_cases hdot : c = '.'
    · left
      rw [hdot]
      rfl
    · right
      rw [named, PathBuf.pieces_of_notMem (by simpa using Ne.symm hslash)]
      simp [hdot]

/-- Two characters name a component of two characters only without a slash. -/
theorem named_pair (c d : Char) :
  named [c, d] = [String.ofList [c, d]] ∨ ∃ e, named [c, d] = named [e]
  := by
  by_cases hc : c = '/'
  · right
    use d
    rw [hc]
    apply PathBuf.named_append_slash []
  · by_cases hd : d = '/'
    · right
      use c
      rw [hd]
      have hsplit := PathBuf.named_append_slash [c] []
      rwa [PathBuf.named_nil, List.append_nil] at hsplit
    · left
      rw [named, PathBuf.pieces_of_notMem (by simp [Ne.symm hc, Ne.symm hd])]
      simp

/-- What an object is named below its directory, whatever that is. -/
theorem names_iff {hash dir : String} {digits : List Char}
    (hhash : hash.toList = "blake3:".toList ++ digits)
    (hdir : Export.firstTwoBytes digits = some dir) :
  (∃ sub name, IsHexPair sub ∧ IsPlain name ∧ named dir.toList ++ named hash.toList = [sub, name])
    ↔ Addressed hash
  := by
  have hslash : '/' ∉ "blake3:".toList := by decide
  obtain ⟨more, rest, hnamed⟩ := PathBuf.exists_named_cons digits hslash (by decide)
  have hcomponents : components hash = named hash.toList := by
    rw [PathBuf.components_eq, hhash, if_neg (by simp), List.nil_append]
  rw [← hhash] at hnamed
  constructor
  · rintro ⟨sub, name, hsub, -, heq⟩
    -- The directory is a component of its own, as neither a single character nor the hash is
    -- of the right length.
    have hshort (c : Char) : named [c] ++ named hash.toList ≠ [sub, name] := by
      intro h
      have hlength := hsub.length
      obtain hnone | hone := named_singleton c
      · rw [hnone, List.nil_append, hnamed] at h
        rw [← (List.cons.inj h).1] at hlength
        simp at hlength
      · rw [hone] at h
        rw [← (List.cons.inj h).1] at hlength
        simp at hlength
    obtain ⟨c, -, rfl⟩ | ⟨c, d, after, rfl, -, -, rfl⟩ := Export.firstTwoBytes_cases hdir
    · rw [String.toList_ofList] at heq
      exact absurd heq (hshort c)
    · rw [String.toList_ofList] at heq
      obtain hpair | ⟨e, hsingle⟩ := named_pair c d
      · rw [hpair] at heq
        obtain ⟨hfirst, hname⟩ := List.cons.inj heq
        obtain ⟨c', d', hc, hd, rfl⟩ := hsub
        obtain ⟨rfl, rfl⟩ : c = c' ∧ d = d' := by simpa using hfirst
        use c, d, after, hhash, hc, hd
        rw [hcomponents]
        exact congrArg List.length hname
      · rw [hsingle] at heq
        exact absurd heq (hshort e)
  · rintro ⟨c, d, after, hdigits, hc, hd, hone⟩
    rw [hhash, List.append_cancel_left_eq] at hdigits
    rw [hdigits, Export.firstTwoBytes, utf8Size_of_isAsciiHexdigit hc,
      utf8Size_of_isAsciiHexdigit hd] at hdir
    have hsub : IsHexPair dir := ⟨c, d, hc, hd, (Option.some_inj.mp hdir).symm⟩
    rw [hcomponents, hnamed] at hone
    have hname : named hash.toList = [String.ofList ("blake3:".toList ++ more)] := by
      rw [hnamed, List.eq_nil_of_length_eq_zero (Nat.succ.inj hone)]
    use dir, String.ofList ("blake3:".toList ++ more), hsub
    constructor
    · constructor
      · intro h
        simpa using congrArg String.toList h
      · intro h
        simpa using congrArg String.toList h
      · intro h
        simpa using congrArg String.toList h
      · apply PathBuf.slash_notMem_named
        rw [hname]
        exact List.mem_singleton_self _
    · rw [hsub.plain.named_eq, hname]
      rfl

/-! ### Where the paths lead -/

theorem Addressed.boundary {hash : String} (h : Addressed hash) :
  ∃ dir, Export.firstTwoBytes (hash.toList.drop 7) = some dir
  := by
  obtain ⟨c, d, rest, hhash, hc, hd, -⟩ := h
  use String.ofList [c, d]
  rw [hhash]
  change Export.firstTwoBytes (c :: d :: rest) = _
  rw [Export.firstTwoBytes, utf8Size_of_isAsciiHexdigit hc, utf8Size_of_isAsciiHexdigit hd]
  rfl

/-- The path of an object in a directory of two bytes, as seen from the root. -/
theorem holdsObject_iff {base hash dir : String} {digits : List Char}
    (hhash : hash.toList = "blake3:".toList ++ digits)
    (hdir : Export.firstTwoBytes digits = some dir) :
  HoldsObject base (join (join base dir) hash) ↔ Addressed hash ∨ LeadsBack base hash
  := by
  have hrelative : hash.toList.head? ≠ some '/' := by
    rw [hhash]
    simp
  have hpath := PathBuf.components_join_relative (join base dir) hrelative
  by_cases hroot : dir.toList.head? = some '/'
  · -- The directory is the root, or one below it, whatever it is joined to.
    obtain ⟨c, hwide, rfl⟩ | ⟨c, d, rest, rfl, -, hd, rfl⟩ := Export.firstTwoBytes_cases hdir
    · obtain rfl : c = '/' := by simpa using hroot
      cases hwide
    · obtain rfl : c = '/' := by simpa using hroot
      have hsplit := PathBuf.named_append_slash [] [d]
      rw [PathBuf.named_nil, List.nil_append, List.nil_append] at hsplit
      have hdirectory : components (join base (String.ofList ['/', d])) = "/" :: named [d] := by
        rw [join, if_pos hroot, PathBuf.components_eq, if_pos hroot, String.toList_ofList, hsplit]
        rfl
      have haddressed : ¬ Addressed hash := by
        rintro ⟨c, d, rest, hdigits, hc, -, -⟩
        rw [hhash, List.append_cancel_left_eq] at hdigits
        exact ne_slash_of_isAsciiHexdigit hc (List.cons.inj hdigits).1.symm
      rw [HoldsObject, hpath, hdirectory, or_iff_right haddressed]
      constructor
      · rintro ⟨sub, name, hsub, hname, heq⟩
        use d, rest, sub, name, hhash, hd, hsub, hname
        exact heq
      · rintro ⟨d', rest', sub, name, hdigits, -, hsub, hname, heq⟩
        obtain ⟨rfl, -⟩ : d = d' ∧ rest = rest' := by simpa [hhash] using hdigits
        use sub, name, hsub, hname
        exact heq
  · have hback : ¬ LeadsBack base hash := by
      rintro ⟨d, rest, -, -, hslash, hd, -⟩
      obtain rfl : digits = '/' :: d :: rest := by simpa [hhash] using hslash
      rw [Export.firstTwoBytes, hd] at hdir
      obtain rfl : String.ofList ['/', d] = dir := Option.some_inj.mp hdir
      apply hroot
      simp
    rw [PathBuf.components_join_relative base hroot, List.append_assoc] at hpath
    rw [HoldsObject, hpath, ← names_iff hhash hdir, or_iff_left hback]
    simp only [List.append_cancel_left_eq]

theorem LeadsBack.boundary {base hash : String} (h : LeadsBack base hash) :
  ∃ dir, Export.firstTwoBytes (hash.toList.drop 7) = some dir
  := by
  obtain ⟨d, rest, -, -, hhash, hd, -⟩ := h
  use String.ofList ['/', d]
  rw [hhash]
  change Export.firstTwoBytes ('/' :: d :: rest) = _
  rw [Export.firstTwoBytes, hd]
  rfl

/-- The path of an export lies in the bundle only under an address. -/
theorem holdsObject_bundle_iff {bundleDir hash dir : String} {digits : List Char}
    (hhash : hash.toList = "blake3:".toList ++ digits)
    (hdir : Export.firstTwoBytes digits = some dir) :
  HoldsObject (join bundleDir "store/objects") (join bundleDir (Export.objectRel dir hash))
    ↔ Addressed hash
  := by
  have hrel : (Export.objectRel dir hash).toList
      = "store/objects".toList ++ '/' :: (dir.toList ++ '/' :: hash.toList) := by
    simp [Export.objectRel, String.toList_append]
  have hrelative : (Export.objectRel dir hash).toList.head? ≠ some '/' := by
    rw [hrel]
    simp
  have hdirectory : "store/objects".toList.head? ≠ some '/' := by decide
  have hpath := PathBuf.components_join_relative bundleDir hrelative
  have hbase := PathBuf.components_join_relative bundleDir hdirectory
  rw [hrel, PathBuf.named_append_slash, PathBuf.named_append_slash, ← List.append_assoc] at hpath
  rw [HoldsObject, hpath, hbase, ← names_iff hhash hdir]
  simp only [List.append_cancel_left_eq]

/-! ### Hashes that stay inside -/

section Returns

variable {α : Type} {good : α → Prop}

theorem returns_error (e : AppError) :
  Returns good (some (.error e))
  := by
  use .error e, rfl
  rintro a ⟨⟩

theorem returns_map_iff {dir? : Option String} {f : String → α} :
  Returns good (dir?.map fun dir => .ok (f dir)) ↔ ∃ dir, dir? = some dir ∧ good (f dir)
  := by
  constructor
  · rintro ⟨r, hr, hgood⟩
    obtain ⟨dir, hdir, rfl⟩ := Option.map_eq_some_iff.mp hr
    use dir, hdir
    exact hgood _ rfl
  · rintro ⟨dir, rfl, hgood⟩
    use .ok (f dir), rfl
    rintro a ⟨⟩
    exact hgood

end Returns

/-- A hash that passes the check of hashes is an address. -/
theorem addressed_of_validated {hash : String} (h : validateBlake3Prefixed hash = .ok ()) :
  Addressed hash
  := by
  rw [validateBlake3Prefixed] at h
  split_ifs at h with hmissing hdigits
  obtain ⟨digits, hhash⟩ := List.isPrefixOf_iff_prefix.mp (Bool.of_not_eq_false hmissing)
  have hdrop : hash.toList.drop 7 = digits := by
    rw [← hhash]
    rfl
  rw [hdrop, List.all_eq_true] at hdigits
  have hhex {c : Char} (hc : c ∈ digits) : isAsciiHexdigit c = true := by
    rw [isAsciiHexdigit, hdigits.2 c hc, Bool.true_or]
  have hslash : '/' ∉ hash.toList := by
    rw [← hhash, List.mem_append, not_or]
    use by decide
    intro hmem
    exact ne_slash_of_isAsciiHexdigit (hhex hmem) rfl
  cases digits with
  | nil => cases hdigits.1
  | cons c digits =>
  cases digits with
  | nil => cases hdigits.1
  | cons d rest =>
    use c, d, rest, hhash.symm, hhex List.mem_cons_self,
      hhex (List.mem_cons_of_mem c List.mem_cons_self)
    rw [PathBuf.components_eq, named, PathBuf.pieces_of_notMem hslash, ← hhash]
    rfl

/-- The path of an object lies in the directory of the objects, or is refused, exactly for the
hashes that are malformed, are addresses, or lead back there from the root. An export reads and
writes inside exactly for those without the prefix and for addresses. -/
theorem objectPaths_stayInside_iff (store : ObjectStore) (bundleDir hash : String) :
  (Returns (HoldsObject store.objectsDir) (store.filePath hash)
    ↔ "blake3:".toList.isPrefixOf hash.toList = false ∨ hash.utf8ByteSize < 9 ∨ Addressed hash
      ∨ LeadsBack store.objectsDir hash)
  ∧ (Returns (fun paths => HoldsObject store.objectsDir paths.1
        ∧ HoldsObject (join bundleDir "store/objects") paths.2)
      (Export.objectPaths store.objectsDir bundleDir hash)
    ↔ "blake3:".toList.isPrefixOf hash.toList = false ∨ Addressed hash)
  := by
  by_cases hmissing : "blake3:".toList.isPrefixOf hash.toList = false
  · rw [ObjectStore.filePath, if_pos (.inl hmissing), Export.objectPaths, if_pos hmissing]
    use iff_of_true (returns_error _) (.inl hmissing)
    exact iff_of_true (returns_error _) (.inl hmissing)
  obtain ⟨digits, hhash⟩ := List.isPrefixOf_iff_prefix.mp (Bool.of_not_eq_false hmissing)
  have hdrop : hash.toList.drop 7 = digits := by
    rw [← hhash]
    rfl
  rw [or_iff_right hmissing, or_iff_right hmissing]
  constructor
  · by_cases hshort : hash.utf8ByteSize < 9
    · rw [ObjectStore.filePath, if_pos (.inr hshort)]
      exact iff_of_true (returns_error _) (.inl hshort)
    · rw [ObjectStore.filePath, if_neg (not_or.mpr ⟨hmissing, hshort⟩), returns_map_iff,
        or_iff_right hshort, hdrop]
      constructor
      · rintro ⟨dir, hdir, hholds⟩
        exact (holdsObject_iff hhash.symm hdir).mp hholds
      · intro h
        obtain ⟨dir, hdir⟩ := h.elim Addressed.boundary LeadsBack.boundary
        rw [hdrop] at hdir
        use dir, hdir
        exact (holdsObject_iff hhash.symm hdir).mpr h
  · rw [Export.objectPaths, if_neg hmissing, returns_map_iff, hdrop]
    constructor
    · rintro ⟨dir, hdir, -, hholds⟩
      exact (holdsObject_bundle_iff hhash.symm hdir).mp hholds
    · intro h
      obtain ⟨dir, hdir⟩ := h.boundary
      rw [hdrop] at hdir
      use dir, hdir, (holdsObject_iff hhash.symm hdir).mpr (.inl h)
      exact (holdsObject_bundle_iff hhash.symm hdir).mpr h

theorem eq_some_ok {α : Type} {called : Option (AppResult α)} {a : α}
    (h : called.bind Except.toOption = some a) :
  called = some (.ok a)
  := by
  obtain ⟨r, rfl, hr⟩ := Option.bind_eq_some_iff.mp h
  cases r with
  | error e => cases hr
  | ok b => rw [Option.some_inj.mp hr]

/-- A digest of two dots names a file beside the directory of the objects, one that starts with a
slash names a file anywhere, and one that starts with a wide character stops the program. -/
theorem crafted_hashes_leave :
  let store := ObjectStore.new "vault/store/objects"
  store.filePath "blake3:.." = some (.ok "vault/store/objects/../blake3:..")
    ∧ ¬ HoldsObject store.objectsDir "vault/store/objects/../blake3:.."
    ∧ store.filePath "blake3:/e/x" = some (.ok "/e/blake3:/e/x")
    ∧ ¬ HoldsObject store.objectsDir "/e/blake3:/e/x"
    ∧ store.filePath "blake3:€" = none
    ∧ Export.objectPaths store.objectsDir "bundle" "blake3:" = none
  := by
  have hstore : components "vault/store/objects" = ["vault", "store", "objects"] := by
    decide +kernel
  refine ⟨eq_some_ok (by decide +kernel), ?_, eq_some_ok (by decide +kernel), ?_, ?_, ?_⟩
  · rintro ⟨sub, name, ⟨c, d, hc, -, rfl⟩, -, heq⟩
    have hpath : components "vault/store/objects/../blake3:.."
        = ["vault", "store", "objects"] ++ ["..", "blake3:.."] := by decide +kernel
    change components _ = components "vault/store/objects" ++ _ at heq
    rw [hpath, hstore, List.append_cancel_left_eq] at heq
    obtain ⟨rfl, -⟩ : '.' = c ∧ '.' = d := by
      simpa using congrArg String.toList (List.cons.inj heq).1
    revert hc
    decide
  · rintro ⟨sub, name, -, -, heq⟩
    have hpath : components "/e/blake3:/e/x" = ["/", "e", "blake3:", "e", "x"] := by
      decide +kernel
    change components _ = components "vault/store/objects" ++ _ at heq
    rw [hpath, hstore] at heq
    have hroot := (List.cons.inj heq).1
    revert hroot
    decide
  · rfl
  · rfl

end KnowledgeCore
