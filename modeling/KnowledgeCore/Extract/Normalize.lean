import Mathlib.Data.List.DropRight
import KnowledgeCore.Hashing
import KnowledgeCore.Lib.TextLines

/-!
# The normal form of a text

The text of a document is normalized before it is hashed: its line ends become line feeds, what
is blank at the end of a line goes, and of the line feeds at its end one stays. All that is left
of a text are its lines, up to what is blank at their ends.
-/

namespace KnowledgeCore

namespace Extract

open TextLines (IsLine LineEnd join lines pieces)

/-! ### The passes -/

/-- `replace("\r\n", "\n")` -/
def replaceCrLf : List Char → List Char
  | [] => []
  | '\r' :: '\n' :: rest => '\n' :: replaceCrLf rest
  | c :: rest => c :: replaceCrLf rest

/-- `replace('\r', "\n")` -/
def replaceCr (l : List Char) : List Char :=
  l.map fun c => if c = '\r' then '\n' else c

/-- `str::trim_end` -/
def trimEnd (l : List Char) : List Char :=
  l.rdropWhile isWhitespace

/-- While a text ends with two line feeds, remove one. The text is given from its end. -/
def popNewlines : List Char → List Char
  | '\n' :: '\n' :: rest => popNewlines ('\n' :: rest)
  | l => l

def normalizeTextV1 (input : String) : String :=
  let normalizedLineEndings := replaceCr (replaceCrLf input.toList)
  let trimmedPerLine := join ((lines normalizedLineEndings).map trimEnd)
  let out := (popNewlines trimmedPerLine.reverse).reverse
  String.ofList (if out.getLast? = some '\n' then out else out ++ ['\n'])

/-! ### What the passes leave -/

/-- Whichever they are, the line ends of a text separate the same pieces. -/
theorem pieces_replaceCr (l : List Char) :
  pieces (replaceCr (replaceCrLf l)) = pieces l
  := by
  induction l using TextLines.text_induction with
  | nil => rfl
  | lf rest ih =>
    rw [pieces, ← ih]
    rfl
  | crlf rest ih =>
    rw [pieces, ← ih]
    rfl
  | cr rest hnext ih =>
    have hreplace : replaceCrLf ('\r' :: rest) = '\r' :: replaceCrLf rest := by
      rw [replaceCrLf]
      rintro rest' - rfl
      exact hnext rfl
    rw [TextLines.pieces_cr hnext, ← ih, hreplace]
    rfl
  | other c rest hlf hcr ih =>
    have hreplace : replaceCrLf (c :: rest) = c :: replaceCrLf rest := by
      rw [replaceCrLf]
      intro _ heq
      exact absurd heq hcr
    have hsame : replaceCr (replaceCrLf (c :: rest)) = c :: replaceCr (replaceCrLf rest) := by
      rw [hreplace, replaceCr, List.map_cons, if_neg hcr, replaceCr]
    rw [hsame, TextLines.pieces_cons _ hlf hcr, TextLines.pieces_cons _ hlf hcr, ih]

theorem cr_notMem_replaceCr (l : List Char) :
  '\r' ∉ replaceCr l
  := by
  intro hmem
  obtain ⟨c, -, heq⟩ := List.mem_map.mp hmem
  split_ifs at heq with hcr
  · cases heq
  · exact hcr heq

theorem popNewlines_eq (l : List Char) :
  (if (popNewlines l).head? = some '\n' then popNewlines l else '\n' :: popNewlines l)
    = '\n' :: l.dropWhile (· == '\n')
  := by
  fun_induction popNewlines l with
  | case1 rest ih => rw [ih]; rfl
  | case2 l h =>
    cases l with
    | nil => rfl
    | cons c l =>
      by_cases hc : c = '\n'
      · subst hc
        rw [if_pos (List.head?_cons), List.dropWhile_cons_of_pos (by decide)]
        cases l with
        | nil => rfl
        | cons d l =>
          rw [List.dropWhile_cons_of_neg]
          intro hd
          exact h l (by rw [eq_of_beq hd])
      · rw [if_neg (by simpa using hc), List.dropWhile_cons_of_neg (by simpa using hc)]

/-- What is joined of a text and of its lines differs in the line feeds at the end. -/
theorem rdropWhile_join_lines {l : List Char} (h : '\r' ∉ l) :
  (join ((lines l).map trimEnd)).rdropWhile (· == '\n')
    = (join ((pieces l).map trimEnd)).rdropWhile (· == '\n')
  := by
  obtain heq | heq := TextLines.pieces_eq_lines h
  · rw [heq]
  · cases hlines : lines l with
    | nil =>
      rw [heq, hlines]
      rfl
    | cons line rest =>
      have hne : (line :: rest).map trimEnd ≠ [] := by simp
      have hblank : [([] : List Char)].map trimEnd = [[]] := rfl
      rw [heq, hlines, List.map_append, hblank, TextLines.join_concat_nil hne,
        List.rdropWhile_concat_pos _ _ _ (by decide)]

/-- A normalized text is made from the pieces of the text, trimmed. -/
theorem normalizeTextV1_eq (input : String) :
  normalizeTextV1 input
    = String.ofList ((join ((pieces input.toList).map trimEnd)).rdropWhile (· == '\n') ++ ['\n'])
  := by
  have hpop := popNewlines_eq
    (join ((lines (replaceCr (replaceCrLf input.toList))).map trimEnd)).reverse
  have hreversed := congrArg List.reverse hpop
  rw [List.reverse_cons] at hreversed
  rw [← pieces_replaceCr, ← rdropWhile_join_lines (cr_notMem_replaceCr _), normalizeTextV1,
    List.getLast?_reverse, List.rdropWhile, ← hreversed]
  apply congrArg String.ofList
  split
  · rfl
  · rw [List.reverse_cons]

/-! ### The lines that are left -/

/-- The pieces of a text, trimmed at their ends. -/
def trimmedPieces (input : String) : List (List Char) :=
  (pieces input.toList).map trimEnd

theorem isLine_of_mem_trimmedPieces {input : String} {line : List Char}
    (h : line ∈ trimmedPieces input) :
  IsLine line
  := by
  obtain ⟨piece, hpiece, rfl⟩ := List.mem_map.mp h
  have hstart : trimEnd piece <+: piece := List.rdropWhile_prefix _ _
  obtain ⟨hlf, hcr⟩ := TextLines.isLine_of_mem_pieces hpiece
  exact ⟨fun h => hlf (hstart.subset h), fun h => hcr (hstart.subset h)⟩

/-- A normalized text before its last line feed. -/
def normalBody (input : String) : List Char :=
  (join (trimmedPieces input)).rdropWhile (· == '\n')

theorem toList_normalizeTextV1 (input : String) :
  (normalizeTextV1 input).toList = normalBody input ++ ['\n']
  := by
  rw [normalizeTextV1_eq, String.toList_ofList]
  rfl

theorem cr_notMem_normalBody (input : String) :
  '\r' ∉ normalBody input
  := by
  intro hmem
  apply TextLines.notMem_join (by decide) fun line hline => (isLine_of_mem_trimmedPieces hline).2
  exact (List.rdropWhile_prefix _ _).subset hmem

/-- The pieces before the last line feed are the trimmed pieces, less empty ones at the end. -/
theorem exists_trimmedPieces (input : String) :
  ∃ n, trimmedPieces input = pieces (normalBody input) ++ List.replicate n []
  := by
  have htidy : ∀ line ∈ trimmedPieces input, TextLines.Tidy (· == '\n') line := by
    intro line hline
    have hplain (c : Char) (hc : c ∈ line) : (c == '\n') = false := by
      rw [beq_eq_false_iff_ne]
      rintro rfl
      exact (isLine_of_mem_trimmedPieces hline).1 hc
    exact ⟨fun c hc => hplain c (List.mem_of_mem_head? hc),
      fun c hc => hplain c (List.mem_of_mem_getLast? hc)⟩
  have hbody : normalBody input = join ((trimmedPieces input).rdropWhile List.isEmpty) :=
    TextLines.rdropWhile_join rfl htidy
  have hsplit : (trimmedPieces input).rdropWhile List.isEmpty
      ++ (trimmedPieces input).rtakeWhile List.isEmpty = trimmedPieces input :=
    List.rdropWhile_append_rtakeWhile
  have hempty : (trimmedPieces input).rtakeWhile List.isEmpty
      = List.replicate ((trimmedPieces input).rtakeWhile List.isEmpty).length [] := by
    rw [List.eq_replicate_iff]
    use rfl
    intro line hline
    exact List.isEmpty_iff.mp (List.mem_rtakeWhile_imp hline)
  by_cases hnil : (trimmedPieces input).rdropWhile List.isEmpty = []
  · rw [hnil, List.nil_append] at hsplit
    have hne : trimmedPieces input ≠ [] := by
      simpa [trimmedPieces] using TextLines.pieces_ne_nil input.toList
    obtain ⟨n, hn⟩ := Nat.exists_eq_succ_of_ne_zero
      (List.length_eq_zero_iff.not.mpr (hsplit.symm ▸ hne))
    use n
    rw [hbody, hnil, ← hsplit, hempty, hn]
    rfl
  · use ((trimmedPieces input).rtakeWhile List.isEmpty).length
    rw [hbody]
    unfold join
    rw [TextLines.pieces_intercalate .lf hnil, ← hempty, hsplit]
    intro line hline
    apply isLine_of_mem_trimmedPieces
    exact (List.rdropWhile_prefix _ _).subset hline

/-- The lines of a normalized text are the trimmed pieces, less empty ones at the end. -/
theorem exists_lines_normalizeTextV1 (input : String) :
  ∃ n, trimmedPieces input = lines (normalizeTextV1 input).toList ++ List.replicate n []
  := by
  obtain ⟨n, hn⟩ := exists_trimmedPieces input
  use n
  rw [toList_normalizeTextV1, TextLines.lines_append_lf (cr_notMem_normalBody input), hn]

/-! ### The normal form -/

/-- A text as it is after normalization: its lines are trimmed at their ends, no character of it
is a carriage return, and it ends with a line feed behind something else. -/
structure IsNormal (text : List Char) : Prop where
  no_cr : '\r' ∉ text
  trimmed : ∀ piece ∈ pieces text, trimEnd piece = piece
  one_newline : ∃ body, text = body ++ ['\n'] ∧ body.getLast? ≠ some '\n'

/-- A normal text is its own normal form. -/
theorem IsNormal.normalizeTextV1_eq_self {text : String} (h : IsNormal text.toList) :
  normalizeTextV1 text = text
  := by
  obtain ⟨body, hbody, hlast⟩ := h.one_newline
  have hmap : (pieces text.toList).map trimEnd = pieces text.toList := by
    conv_rhs => rw [← List.map_id (pieces text.toList)]
    exact List.map_congr_left h.trimmed
  have hkept : body.rdropWhile (· == '\n') = body := by
    rw [List.rdropWhile_eq_self_iff]
    intro hne hnewline
    apply hlast
    rw [List.getLast?_eq_getLast_of_ne_nil hne, eq_of_beq hnewline]
  rw [normalizeTextV1_eq, hmap, TextLines.join_pieces h.no_cr, hbody,
    List.rdropWhile_concat_pos _ _ _ (by decide), hkept, ← hbody, String.ofList_toList]

theorem isNormal_normalizeTextV1 (input : String) :
  IsNormal (normalizeTextV1 input).toList
  := by
  have hcr := cr_notMem_normalBody input
  rw [toList_normalizeTextV1]
  constructor
  · rw [List.mem_append, not_or]
    use hcr
    decide
  · intro piece hmem
    rw [TextLines.pieces_append_lf [] hcr] at hmem
    obtain hmem | hmem := List.mem_append.mp hmem
    · obtain ⟨n, hn⟩ := exists_trimmedPieces input
      have htrimmed : piece ∈ trimmedPieces input := by
        rw [hn]
        exact List.mem_append_left _ hmem
      obtain ⟨line, -, rfl⟩ := List.mem_map.mp htrimmed
      exact List.rdropWhile_idempotent _ _
    · obtain rfl := List.mem_singleton.mp hmem
      rfl
  · use normalBody input, rfl
    intro hlast
    have hne : normalBody input ≠ [] := by
      intro hnil
      rw [hnil] at hlast
      cases hlast
    rw [List.getLast?_eq_getLast_of_ne_nil hne, Option.some_inj] at hlast
    apply List.rdropWhile_last_not (· == '\n') (join (trimmedPieces input)) hne
    exact beq_iff_eq.mpr hlast

/-- A text whose lines end otherwise, or end in other blanks, has the same normal form. -/
theorem normalizeTextV1_congr {input input' : String}
    (h : (pieces input.toList).map trimEnd = (pieces input'.toList).map trimEnd) :
  normalizeTextV1 input = normalizeTextV1 input'
  := by
  rw [normalizeTextV1_eq, normalizeTextV1_eq, h]

/-- Normalizing gives a normal form that depends on the trimmed lines of a text alone, and so
neither on which line ends it has nor on what is blank at the ends of its lines. -/
theorem normalizeTextV1_normalForm :
  (∀ input, normalizeTextV1 (normalizeTextV1 input) = normalizeTextV1 input)
    ∧ (∀ input, IsNormal (normalizeTextV1 input).toList)
    ∧ (∀ stop stop' l, LineEnd stop → LineEnd stop' → (∀ line ∈ l, IsLine line) →
      normalizeTextV1 (String.ofList (stop.intercalate l))
        = normalizeTextV1 (String.ofList (stop'.intercalate l)))
    ∧ ∀ input input', (pieces input.toList).map trimEnd = (pieces input'.toList).map trimEnd →
      normalizeTextV1 input = normalizeTextV1 input'
  := by
  refine ⟨fun input => (isNormal_normalizeTextV1 input).normalizeTextV1_eq_self,
    isNormal_normalizeTextV1, ?_, fun input input' => normalizeTextV1_congr⟩
  intro stop stop' l hstop hstop' hlines
  by_cases hne : l = []
  · rw [hne, List.intercalate_nil, List.intercalate_nil]
  · apply normalizeTextV1_congr
    rw [String.toList_ofList, String.toList_ofList, TextLines.pieces_intercalate hstop hne hlines,
      TextLines.pieces_intercalate hstop' hne hlines]

end Extract

end KnowledgeCore
