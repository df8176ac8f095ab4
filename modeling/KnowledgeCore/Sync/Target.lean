import Mathlib.Data.List.Infix
import KnowledgeCore.Lib.Trim
import KnowledgeCore.SyncAuth

/-!
# The address of a target

A target is a directory or a place in a bucket, and is addressed by a text: with the scheme of
the one or of the other, or as a bare path. The display of a directory is its path without a
scheme, so a path that reads like a scheme is not read again as the path it is.
-/

namespace KnowledgeCore

inductive SyncTargetUri
  | filePath (path : String)
  | s3 (bucket keyPrefix : String)
deriving DecidableEq

namespace SyncTargetUri

/-- Whether a text occurs in another. -/
def occursIn (needle text : String) : Bool :=
  text.toList.tails.any needle.toList.isPrefixOf

/-- `str::strip_prefix` -/
def stripPrefix (start s : String) : Option String :=
  (List.dropPrefix? s.toList start.toList).map String.ofList

def trimSlashes (s : List Char) : String :=
  String.ofList (Trim.both (· == '/') s)

def parse (raw : String) : AppResult SyncTargetUri :=
  if isBlank raw then
    .error (syncError "KC_SYNC_TARGET_INVALID" "sync target path is required"
      (.obj [("target", .str raw)]))
  else
    match stripPrefix "s3://" raw with
    | some rest =>
      let bucket := trim (String.ofList (rest.toList.takeWhile (· ≠ '/')))
      let keyPrefix := trimSlashes ((rest.toList.dropWhile (· ≠ '/')).drop 1)
      if bucket.isEmpty then
        .error (syncError "KC_SYNC_TARGET_INVALID" "s3 target missing bucket"
          (.obj [("target", .str raw)]))
      else
        .ok (.s3 bucket keyPrefix)
    | none =>
      match stripPrefix "file://" raw with
      | some rest =>
        if isBlank rest then
          .error (syncError "KC_SYNC_TARGET_INVALID" "file target missing path"
            (.obj [("target", .str raw)]))
        else
          .ok (.filePath rest)
      | none =>
        if occursIn "://" raw then
          .error (syncError "KC_SYNC_TARGET_UNSUPPORTED" "unsupported sync target scheme"
            (.obj [("target", .str raw)]))
        else
          .ok (.filePath raw)

def display : SyncTargetUri → String
  | .filePath path => path
  | .s3 bucket keyPrefix =>
    if keyPrefix.isEmpty then "s3://" ++ bucket else "s3://" ++ bucket ++ "/" ++ keyPrefix

/-! ### The parts of an address -/

theorem stripPrefix_eq_some {start s rest : String} :
  stripPrefix start s = some rest ↔ s = start ++ rest
  := by
  rw [stripPrefix, Option.map_eq_some_iff, ← String.toList_inj, String.toList_append]
  constructor
  · rintro ⟨l, hdrop, rfl⟩
    obtain ⟨start', hs, hstart⟩ := List.dropPrefix?_eq_some_iff.mp hdrop
    rw [hs, eq_of_beq hstart, String.toList_ofList]
  · intro h
    use rest.toList
    constructor
    · rw [List.dropPrefix?_eq_some_iff]
      use start.toList, h
      apply beq_self_eq_true
    · apply String.ofList_toList

theorem stripPrefix_eq_none {start s : String} :
  stripPrefix start s = none ↔ ∀ rest, s ≠ start ++ rest
  := by
  rw [Option.eq_none_iff_forall_ne_some]
  simp only [ne_eq, stripPrefix_eq_some]

theorem occursIn_iff {needle text : String} :
  occursIn needle text = true ↔ needle.toList <:+: text.toList
  := by
  simp only [occursIn, List.any_eq_true, List.mem_tails, List.isPrefixOf_iff_prefix]
  constructor
  · rintro ⟨tail, htail, hneedle⟩
    exact hneedle.isInfix.trans htail.isInfix
  · rintro ⟨before, after, h⟩
    use needle.toList ++ after
    constructor
    · use before
      rw [← h, List.append_assoc]
    · use after

theorem stripPrefix_append (start rest : String) :
  stripPrefix start (start ++ rest) = some rest
  := stripPrefix_eq_some.mpr rfl

theorem occursIn_append {needle start : String} (rest : String)
    (h : needle.toList <:+: start.toList) :
  occursIn needle (start ++ rest) = true
  := by
  rw [occursIn_iff, String.toList_append]
  exact h.trans (List.prefix_append _ _).isInfix

theorem isBlank_append {start : String} (rest : String)
    (h : (start.toList.any fun c => !isWhitespace c) = true) :
  isBlank (start ++ rest) = false
  := by
  obtain ⟨c, hc, hsolid⟩ := List.any_eq_true.mp h
  rw [Bool.not_eq_true'] at hsolid
  rw [isBlank_eq_false_iff]
  use c
  rw [String.toList_append]
  use List.mem_append_left _ hc

/-! ### What an address is taken for -/

/-- The bucket that stands before the first slash. -/
def bucketOf (rest : String) : String :=
  trim (String.ofList (rest.toList.takeWhile (· ≠ '/')))

/-- The prefix that stands behind the first slash. -/
def keyPrefixOf (rest : String) : String :=
  trimSlashes ((rest.toList.dropWhile (· ≠ '/')).drop 1)

theorem parse_s3 {rest : String} (hbucket : (bucketOf rest).isEmpty = false) :
  parse ("s3://" ++ rest) = .ok (.s3 (bucketOf rest) (keyPrefixOf rest))
  := by
  have hfilled : isBlank ("s3://" ++ rest) = false := isBlank_append rest (by decide)
  rw [bucketOf] at hbucket
  rw [parse, if_neg (by simp [hfilled]), stripPrefix_append]
  dsimp only
  rw [if_neg (Bool.eq_false_iff.mp hbucket)]
  rfl

theorem parse_s3_error {rest : String} (hbucket : (bucketOf rest).isEmpty = true)
    (target : SyncTargetUri) :
  parse ("s3://" ++ rest) ≠ .ok target
  := by
  have hfilled : isBlank ("s3://" ++ rest) = false := isBlank_append rest (by decide)
  rw [bucketOf] at hbucket
  rw [parse, if_neg (by simp [hfilled]), stripPrefix_append]
  dsimp only
  rw [if_pos hbucket]
  rintro ⟨⟩

theorem parse_file (rest : String) :
  (parse ("file://" ++ rest)).toOption = if isBlank rest then none else some (.filePath rest)
  := by
  have hfilled : isBlank ("file://" ++ rest) = false := isBlank_append rest (by decide)
  have hscheme : stripPrefix "s3://" ("file://" ++ rest) = none := by
    rw [stripPrefix_eq_none]
    intro other h
    simpa using congrArg (fun s => s.toList.head?) h
  rw [parse, if_neg (by simp [hfilled]), hscheme, stripPrefix_append]
  dsimp only
  split <;> rfl

/-- A path is read as itself unless it is blank or reads like a scheme. -/
theorem parse_eq_filePath_iff (path : String) :
  parse path = .ok (.filePath path) ↔ isBlank path = false ∧ occursIn "://" path = false
  := by
  by_cases hs3 : ∃ rest, path = "s3://" ++ rest
  · obtain ⟨rest, rfl⟩ := hs3
    apply iff_of_false
    · cases hbucket : (bucketOf rest).isEmpty with
      | true => apply parse_s3_error hbucket
      | false =>
        rw [parse_s3 hbucket]
        rintro ⟨⟩
    · rw [occursIn_append rest (by decide)]
      rintro ⟨-, ⟨⟩⟩
  by_cases hfile : ∃ rest, path = "file://" ++ rest
  · obtain ⟨rest, rfl⟩ := hfile
    apply iff_of_false
    · intro h
      have hoption := parse_file rest
      rw [h] at hoption
      split at hoption
      · cases hoption
      · have hsame := congrArg String.length
          (SyncTargetUri.filePath.inj (Option.some_inj.mp hoption))
        simp [String.length_append] at hsame
    · rw [occursIn_append rest (by decide)]
      rintro ⟨-, ⟨⟩⟩
  rw [not_exists] at hs3 hfile
  rw [parse, stripPrefix_eq_none.mpr hs3, stripPrefix_eq_none.mpr hfile]
  dsimp only
  cases isBlank path <;> cases occursIn "://" path <;> simp

/-! ### The display of a target -/

/-- A directory that was addressed with its scheme, and whose path reads like another. -/
def HidesScheme (raw : String) : Prop :=
  ∃ path, raw = "file://" ++ path ∧ occursIn "://" path = true

theorem trim_trim (s : String) :
  trim (trim s) = trim s
  := by
  have htrim (l : List Char) :
      trim (String.ofList l) = String.ofList (Trim.both isWhitespace l) := by
    rw [trim, String.toList_ofList]
    rfl
  rw [← String.ofList_toList (s := s), htrim, htrim, Trim.both_both]

/-- A place in a bucket is read back from its display. -/
theorem parse_display_s3 {rest : String} (hbucket : (bucketOf rest).isEmpty = false) :
  parse (display (.s3 (bucketOf rest) (keyPrefixOf rest)))
    = .ok (.s3 (bucketOf rest) (keyPrefixOf rest))
  := by
  have hplain : ∀ c ∈ (bucketOf rest).toList, decide (c ≠ '/') = true := by
    intro c hc
    have hmem : c ∈ (String.ofList (rest.toList.takeWhile (· ≠ '/'))).toList := by
      apply Trim.mem_of_mem_both (p := isWhitespace)
      rw [bucketOf, trim, String.toList_ofList] at hc
      exact hc
    rw [String.toList_ofList] at hmem
    exact List.mem_takeWhile_imp (p := fun d => decide (d ≠ '/')) hmem
  have htrimmed : trim (bucketOf rest) = bucketOf rest := trim_trim _
  have hkey : trimSlashes (keyPrefixOf rest).toList = keyPrefixOf rest := by
    rw [keyPrefixOf, trimSlashes, trimSlashes, String.toList_ofList, Trim.both_both]
  rw [display]
  split
  · next hempty =>
    have hbucket' : bucketOf (bucketOf rest) = bucketOf rest := by
      rw [bucketOf, List.takeWhile_eq_self_iff.mpr hplain, String.ofList_toList, htrimmed]
    have hnone : keyPrefixOf (bucketOf rest) = keyPrefixOf rest := by
      rw [String.isEmpty_iff.mp hempty, keyPrefixOf, List.dropWhile_eq_nil_iff.mpr hplain]
      rfl
    have hfilled : (bucketOf (bucketOf rest)).isEmpty = false := by
      rw [hbucket', hbucket]
    rw [parse_s3 hfilled, hbucket', hnone]
  · have hsplit : (bucketOf rest ++ "/" ++ keyPrefixOf rest).toList
        = (bucketOf rest).toList ++ '/' :: (keyPrefixOf rest).toList := by
      simp [String.toList_append]
    have hbucket' : bucketOf (bucketOf rest ++ "/" ++ keyPrefixOf rest) = bucketOf rest := by
      rw [bucketOf, hsplit, List.takeWhile_append_of_pos hplain,
        List.takeWhile_cons_of_neg (by decide), List.append_nil, String.ofList_toList, htrimmed]
    have hkey' : keyPrefixOf (bucketOf rest ++ "/" ++ keyPrefixOf rest) = keyPrefixOf rest := by
      rw [keyPrefixOf, hsplit, List.dropWhile_append_of_pos hplain,
        List.dropWhile_cons_of_neg (by decide), List.drop_succ_cons, List.drop_zero, hkey]
    have hfilled : (bucketOf (bucketOf rest ++ "/" ++ keyPrefixOf rest)).isEmpty = false := by
      rw [hbucket', hbucket]
    have hwhole : "s3://" ++ bucketOf rest ++ "/" ++ keyPrefixOf rest
        = "s3://" ++ (bucketOf rest ++ "/" ++ keyPrefixOf rest) := by
      rw [String.append_assoc, String.append_assoc, String.append_assoc]
    rw [hwhole, parse_s3 hfilled, hbucket', hkey']

/-- An accepted address is read back from the display of its target exactly when it does not hide
a scheme. -/
theorem parse_display_iff {raw : String} {target : SyncTargetUri} (h : parse raw = .ok target) :
  parse target.display = .ok target ↔ ¬ HidesScheme raw
  := by
  by_cases hs3 : ∃ rest, raw = "s3://" ++ rest
  · obtain ⟨rest, rfl⟩ := hs3
    cases hbucket : (bucketOf rest).isEmpty with
    | true => exact absurd h (parse_s3_error hbucket target)
    | false =>
      rw [parse_s3 hbucket] at h
      obtain rfl := Except.ok.inj h
      apply iff_of_true (parse_display_s3 hbucket)
      rintro ⟨path, hpath, -⟩
      simpa using congrArg (fun s => s.toList.head?) hpath
  by_cases hfile : ∃ rest, raw = "file://" ++ rest
  · obtain ⟨rest, rfl⟩ := hfile
    have hoption := parse_file rest
    rw [h] at hoption
    split at hoption
    · cases hoption
    · next hfilled =>
      obtain rfl := Option.some_inj.mp hoption
      rw [display, parse_eq_filePath_iff, and_iff_right (Bool.eq_false_of_not_eq_true hfilled),
        ← Bool.not_eq_true, not_iff_not]
      constructor
      · intro hscheme
        use rest
      · rintro ⟨path, hpath, hscheme⟩
        obtain rfl := (String.append_right_inj "file://").mp hpath
        exact hscheme
  rw [not_exists] at hs3 hfile
  have htarget : target = .filePath raw := by
    rw [parse, stripPrefix_eq_none.mpr hs3, stripPrefix_eq_none.mpr hfile] at h
    dsimp only at h
    split_ifs at h
    exact (Except.ok.inj h).symm
  rw [htarget] at h ⊢
  apply iff_of_true h
  rintro ⟨path, hpath, -⟩
  exact hfile path hpath

/-- A place in a bucket, however many slashes are around its prefix. -/
theorem parse_display_slashes :
  parse (display (.s3 "team" "vaults/a")) = .ok (.s3 "team" "vaults/a")
  := by
  have hparse : parse "s3:// team //vaults/a/" = .ok (.s3 "team" "vaults/a") :=
    ok_of_toOption (by decide +kernel)
  apply (parse_display_iff hparse).mpr
  rintro ⟨path, hpath, -⟩
  simpa using congrArg (fun s => s.toList.head?) hpath

/-- A directory that is named like a bucket is displayed as the bucket. -/
theorem hidden_scheme_changes :
  parse "file://s3://team" = .ok (.filePath "s3://team")
    ∧ parse (display (.filePath "s3://team")) = .ok (.s3 "team" "")
  := ⟨ok_of_toOption (by decide +kernel), ok_of_toOption (by decide +kernel)⟩

end SyncTargetUri

end KnowledgeCore
