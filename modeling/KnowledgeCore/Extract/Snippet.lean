import KnowledgeCore.Extract.Html
import KnowledgeCore.Extract.Normalize

/-!
# Snippets

A snippet shows lines of a text without the markers of pages and headings, which it recognizes by
their shape. The markers are put into the text by the extractors, so each character of a text is
followed here from the marker or the document it comes from.
-/

namespace KnowledgeCore

namespace Extract

open TextLines (join lines pieces piecesBy)

/-! ### The rendering -/

/-- `PAGE:[0-9]{4}` -/
def isPageBody : List Char → Bool
  | ['P', 'A', 'G', 'E', ':', a, b, c, d] => a.isDigit && b.isDigit && c.isDigit && d.isDigit
  | _ => false

/-- `H[1-6]:.*` -/
def isHeadingBody : List Char → Bool
  | 'H' :: d :: ':' :: rest => isLevel d && rest.all (· != '\n')
  | _ => false

/-- `^\[\[(PAGE:[0-9]{4}|H[1-6]:.*)\]\]$` -/
def isMarker : List Char → Bool
  | '[' :: '[' :: rest =>
    match rest.reverse with
    | ']' :: ']' :: body => isPageBody body.reverse || isHeadingBody body.reverse
    | _ => false
  | _ => false

/-- `str::trim` -/
def trimLine (line : List Char) : List Char :=
  Trim.both isWhitespace line

/-- The lines that are shown. Of blank lines behind one another the first stays. -/
def displayLines (prevBlank : Bool) : List (List Char) → List (List Char)
  | [] => []
  | line :: rest =>
    let trimmed := trimLine line
    if isMarker trimmed then displayLines prevBlank rest
    else if trimmed.isEmpty then
      if prevBlank then displayLines prevBlank rest else [] :: displayLines true rest
    else trimmed :: displayLines false rest

def renderSnippetDisplayOnly (text : String) : String :=
  String.ofList (trimLine (join (displayLines false (lines text.toList))))

/-! ### Texts with the characters of markers followed -/

/-- The characters of a text, each with whether it is of a marker. -/
abbrev Traced := List (Char × Bool)

def ofDocument (l : List Char) : Traced := l.map fun c => (c, false)

def ofMarker (l : List Char) : Traced := l.map fun c => (c, true)

/-- The characters alone. -/
def Traced.text (traced : Traced) : List Char := traced.map Prod.fst

/-! ### What a snippet shows -/

/-- The lines that are neither blank nor of the shape of a marker, trimmed. -/
def shown (l : List (List Char)) : List (List Char) :=
  (l.map trimLine).filter fun line => !isMarker line && !line.isEmpty

theorem filter_displayLines (prevBlank : Bool) (l : List (List Char)) :
  (displayLines prevBlank l).filter (!·.isEmpty) = shown l
  := by
  induction l generalizing prevBlank with
  | nil => rfl
  | cons line rest ih =>
    rw [displayLines, shown, List.map_cons, List.filter_cons, ← shown]
    cases hmarker : isMarker (trimLine line) with
    | true => exact ih prevBlank
    | false =>
      cases hempty : (trimLine line).isEmpty with
      | true =>
        cases prevBlank with
        | true => exact ih true
        | false => exact ih true
      | false =>
        rw [if_neg Bool.false_ne_true, if_neg Bool.false_ne_true, List.filter_cons, hempty, ih]
        rfl

/-- A line that is shown is trimmed, and is part of a line. -/
theorem mem_displayLines {prevBlank : Bool} {l : List (List Char)} {shown : List Char}
    (h : shown ∈ displayLines prevBlank l) :
  shown = [] ∨ ∃ line ∈ l, shown = trimLine line
  := by
  induction l generalizing prevBlank with
  | nil => cases h
  | cons line rest ih =>
    have hrest {prev : Bool} (hmem : shown ∈ displayLines prev rest) :
        shown = [] ∨ ∃ other ∈ line :: rest, shown = trimLine other := by
      apply (ih hmem).imp_right
      rintro ⟨other, hother, heq⟩
      use other, List.mem_cons_of_mem line hother
    rw [displayLines] at h
    split_ifs at h
    · exact hrest h
    · exact hrest h
    · obtain rfl | h := List.mem_cons.mp h
      · exact .inl rfl
      · exact hrest h
    · obtain rfl | h := List.mem_cons.mp h
      · right
        use line, List.mem_cons_self
      · exact hrest h

theorem tidy_trimLine (line : List Char) :
  TextLines.Tidy isWhitespace (trimLine line)
  := ⟨fun _ => Trim.head?_both, fun _ => Trim.getLast?_both⟩

theorem isLine_trimLine {line : List Char} (h : TextLines.IsLine line) :
  TextLines.IsLine (trimLine line)
  := ⟨fun hmem => h.1 (Trim.mem_of_mem_both hmem), fun hmem => h.2 (Trim.mem_of_mem_both hmem)⟩

/-- The lines of a snippet of whole lines are those that are shown. -/
theorem filter_lines_renderSnippet {l : List (List Char)} (h : ∀ line ∈ l, TextLines.IsLine line) :
  (lines (renderSnippetDisplayOnly (String.ofList (join l))).toList).filter (!·.isEmpty) = shown l
  := by
  have hempty (f : List (List Char) → List (List Char))
      (hf : ∀ rest, f (rest ++ [[]]) = f rest) {rest : List (List Char)}
      (hrest : ∀ line ∈ rest, TextLines.IsLine line) : f (lines (join rest)) = f rest := by
    obtain heq | heq := TextLines.eq_lines_join hrest
    · rw [← heq]
    · conv_rhs => rw [heq, hf]
  have hmem : ∀ line ∈ lines (join l), TextLines.IsLine line := by
    intro line hline
    apply h line
    obtain heq | heq := TextLines.eq_lines_join h
    · rwa [heq]
    · rw [heq]
      exact List.mem_append_left _ hline
  have hdisplayed : ∀ line ∈ displayLines false (lines (join l)),
      TextLines.IsLine line ∧ TextLines.Tidy isWhitespace line := by
    intro line hline
    obtain rfl | ⟨other, hother, rfl⟩ := mem_displayLines hline
    · use TextLines.isLine_nil
      constructor <;> rintro c ⟨⟩
    · use isLine_trimLine (hmem other hother)
      exact tidy_trimLine other
  have htrim : trimLine (join (displayLines false (lines (join l))))
      = join (Trim.both List.isEmpty (displayLines false (lines (join l)))) := by
    rw [trimLine, Trim.both, TextLines.dropWhile_join rfl fun line h => (hdisplayed line h).2,
      TextLines.rdropWhile_join rfl, Trim.both]
    intro line hline
    exact (hdisplayed line ((List.dropWhile_suffix _).subset hline)).2
  rw [renderSnippetDisplayOnly, String.toList_ofList, String.toList_ofList, htrim,
    hempty (fun rest => rest.filter (!·.isEmpty)) _ fun line hline =>
      (hdisplayed line (Trim.mem_of_mem_both hline)).1,
    Trim.filter_both, filter_displayLines, hempty shown _ h]
  · intro rest
    rw [shown, List.map_append, List.filter_append]
    exact List.append_nil _
  · intro rest
    rw [List.filter_append]
    exact List.append_nil _

/-! ### Markers in the text -/

/-- The lines of a text, followed. -/
def tracedLines (traced : Traced) : List Traced :=
  piecesBy Prod.fst traced

/-- A line has a part of a marker. -/
def HoldsMarker (line : Traced) : Prop :=
  ∃ c ∈ line, c.2 = true

instance (line : Traced) : Decidable (HoldsMarker line) :=
  List.decidableBEx (fun c : Char × Bool => c.2 = true) line

/-- The lines that a snippet is to show: those without a part of a marker that are neither blank
nor of the shape of a marker. -/
def others (l : List Traced) : List (List Char) :=
  shown ((l.filter fun line => !decide (HoldsMarker line)).map Traced.text)

/-- A number of lines of a text from a line on. -/
def wholeLines (text : String) (start count : Nat) : String :=
  String.ofList (join (((lines text.toList).drop start).take count))

/-- Every snippet of whole lines of the canonical text shows all that it is to show, in order, and
nothing else. -/
def ShowsOthers (text : String) (traced : Traced) : Prop :=
  ∀ start count,
    (lines (renderSnippetDisplayOnly
        (wholeLines (normalizeTextV1 text) start count)).toList).filter (!·.isEmpty)
      = others (((tracedLines traced).drop start).take count)

/-- Every line with a part of a marker has the shape of a marker, or is blank. -/
def MarkersRecognized (traced : Traced) : Prop :=
  ∀ line ∈ tracedLines traced, HoldsMarker line →
    isMarker (trimLine line.text) = true ∨ trimLine line.text = []

instance (traced : Traced) : Decidable (MarkersRecognized traced) :=
  List.decidableBAll (fun line => HoldsMarker line →
    isMarker (trimLine line.text) = true ∨ trimLine line.text = []) (tracedLines traced)

theorem trimLine_trimEnd (line : List Char) :
  trimLine (trimEnd line) = trimLine line
  := Trim.both_rdropWhile

theorem shown_map_trimEnd (l : List (List Char)) :
  shown (l.map trimEnd) = shown l
  := by
  rw [shown, List.map_map, shown]
  apply congrArg (List.filter _)
  apply List.map_congr_left
  intro line _
  exact trimLine_trimEnd line

theorem shown_append (l m : List (List Char)) :
  shown (l ++ m) = shown l ++ shown m
  := by
  rw [shown, List.map_append, List.filter_append, shown, shown]

/-- What a snippet of whole lines shows are the lines of the text that is not normalized. -/
theorem filter_lines_wholeLines {text : String} {traced : Traced} (htext : traced.text = text.toList)
    (start count : Nat) :
  (lines (renderSnippetDisplayOnly
      (wholeLines (normalizeTextV1 text) start count)).toList).filter (!·.isEmpty)
    = shown ((((tracedLines traced).drop start).take count).map Traced.text)
  := by
  obtain ⟨n, hn⟩ := exists_lines_normalizeTextV1 text
  have hpieces : (tracedLines traced).map Traced.text = pieces text.toList := by
    rw [← htext]
    exact TextLines.map_piecesBy Prod.fst traced
  have hline : ∀ line ∈ ((lines (normalizeTextV1 text).toList).drop start).take count,
      TextLines.IsLine line := by
    intro line hmem
    apply isLine_of_mem_trimmedPieces
    rw [hn]
    exact List.mem_append_left _ (List.mem_of_mem_drop (List.mem_of_mem_take hmem))
  have hrest (i j : Nat) : shown (((List.replicate n ([] : List Char)).drop i).take j) = [] := by
    rw [shown, List.filter_eq_nil_iff]
    intro line hmem
    obtain ⟨other, hother, rfl⟩ := List.mem_map.mp hmem
    rw [List.eq_of_mem_replicate (List.mem_of_mem_drop (List.mem_of_mem_take hother))]
    decide
  have htrimmed : (pieces text.toList).map trimEnd = trimmedPieces text := rfl
  rw [wholeLines, filter_lines_renderSnippet hline, List.map_take, List.map_drop, hpieces,
    ← shown_map_trimEnd (((pieces text.toList).drop start).take count), List.map_take,
    List.map_drop, htrimmed, hn, List.drop_append, List.take_append, shown_append, hrest, List.append_nil]

/-- Snippets show what they are to show exactly when the markers are recognized. -/
theorem showsOthers_iff {text : String} {traced : Traced} (htext : traced.text = text.toList) :
  ShowsOthers text traced ↔ MarkersRecognized traced
  := by
  constructor
  · intro h line hmem hmarker
    obtain ⟨start, hstart, hget⟩ := List.getElem_of_mem hmem
    have hone := h start 1
    have hother : others [line] = [] := by
      rw [others, List.filter_cons_of_neg (by simp [hmarker])]
      rfl
    rw [filter_lines_wholeLines htext, List.drop_eq_getElem_cons hstart, hget, List.take_succ_cons,
      List.take_zero, hother, List.map_singleton, shown, List.map_singleton,
      List.filter_eq_nil_iff] at hone
    have hhidden := hone _ (List.mem_singleton_self _)
    rw [Bool.and_eq_true, Bool.not_eq_true', Bool.not_eq_true', not_and_or, Bool.not_eq_false,
      Bool.not_eq_false, List.isEmpty_iff] at hhidden
    exact hhidden
  · intro h start count
    rw [filter_lines_wholeLines htext, others]
    have hmem : ∀ line ∈ ((tracedLines traced).drop start).take count, line ∈ tracedLines traced :=
      fun line hline => List.mem_of_mem_drop (List.mem_of_mem_take hline)
    generalize ((tracedLines traced).drop start).take count = l at hmem
    induction l with
    | nil => rfl
    | cons line rest ih =>
      have hrest := ih fun other hother => hmem other (List.mem_cons_of_mem line hother)
      by_cases hmarker : HoldsMarker line
      · -- A line with a marker is not shown, as it has its shape or is blank.
        have hhidden : shown [line.text] = [] := by
          rw [shown, List.map_singleton, List.filter_eq_nil_iff]
          intro trimmed htrimmed
          obtain rfl := List.mem_singleton.mp htrimmed
          obtain hshape | hblank := h line (hmem line List.mem_cons_self) hmarker
          · simp [hshape]
          · simp [hblank]
        rw [List.filter_cons_of_neg (by simp [hmarker]), List.map_cons, ← List.singleton_append,
          shown_append, hhidden, List.nil_append, hrest]
      · rw [List.filter_cons_of_pos (by simp [hmarker]), List.map_cons, List.map_cons,
          ← List.singleton_append, shown_append, hrest, ← shown_append, List.singleton_append]

end Extract

end KnowledgeCore
