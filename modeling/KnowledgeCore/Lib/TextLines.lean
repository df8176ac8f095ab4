import Mathlib.Data.List.DropRight

/-!
# The lines of a text

A text is taken apart at its line ends: a line feed, a carriage return, or the one behind the
other. What stands between them are its pieces, of which there is one more than line ends. The
lines that a reader gets are the pieces between line feeds, without an empty last one.
-/

namespace TextLines

/-- An element in front of the first of several pieces. -/
def extend {α : Type*} (c : α) : List (List α) → List (List α)
  | [] => [[c]]
  | piece :: rest => (c :: piece) :: rest

/-- What stands between the line ends of a text. -/
def pieces : List Char → List (List Char)
  | [] => [[]]
  | '\n' :: rest => [] :: pieces rest
  | '\r' :: '\n' :: rest => [] :: pieces rest
  | '\r' :: rest => [] :: pieces rest
  | c :: rest => extend c (pieces rest)

/-- The lines of a text. A line feed ends a line, with the carriage return before it. -/
def lines : List Char → List (List Char)
  | [] => []
  | '\n' :: rest => [] :: lines rest
  | '\r' :: '\n' :: rest => [] :: lines rest
  | c :: rest => extend c (lines rest)

/-- The pieces, each behind a line feed except for the first. -/
def join (l : List (List Char)) : List Char :=
  ['\n'].intercalate l

/-- A list of characters without a line end. -/
def IsLine (l : List Char) : Prop :=
  '\n' ∉ l ∧ '\r' ∉ l

/-- A line end. -/
inductive LineEnd : List Char → Prop
  | lf : LineEnd ['\n']
  | crlf : LineEnd ['\r', '\n']
  | cr : LineEnd ['\r']

theorem IsLine.tail {c : Char} {l : List Char} (h : IsLine (c :: l)) :
  IsLine l
  := by
  obtain ⟨hlf, hcr⟩ := h
  constructor
  · intro hmem
    exact hlf (List.mem_cons_of_mem c hmem)
  · intro hmem
    exact hcr (List.mem_cons_of_mem c hmem)

theorem IsLine.head_ne {c : Char} {l : List Char} (h : IsLine (c :: l)) :
  c ≠ '\n' ∧ c ≠ '\r'
  := by
  constructor
  · rintro rfl
    exact h.1 List.mem_cons_self
  · rintro rfl
    exact h.2 List.mem_cons_self

@[simp] theorem isLine_nil : IsLine [] := ⟨List.not_mem_nil, List.not_mem_nil⟩

/-- A text is empty, or starts with a line end or with another character. -/
@[elab_as_elim] theorem text_induction {P : List Char → Prop} (nil : P [])
    (lf : ∀ rest, P rest → P ('\n' :: rest))
    (crlf : ∀ rest, P rest → P ('\r' :: '\n' :: rest))
    (cr : ∀ rest, rest.head? ≠ some '\n' → P rest → P ('\r' :: rest))
    (other : ∀ c rest, c ≠ '\n' → c ≠ '\r' → P rest → P (c :: rest)) (l : List Char) :
  P l
  := by
  induction l using pieces.induct with
  | case1 => exact nil
  | case2 rest ih => exact lf rest ih
  | case3 rest ih => exact crlf rest ih
  | case4 rest hnext ih =>
    apply cr rest _ ih
    intro hhead
    cases rest with
    | nil => cases hhead
    | cons d rest =>
      obtain rfl := Option.some_inj.mp hhead
      exact hnext rest rfl
  | case5 c rest hlf hcrlf hcr ih => exact other c rest hlf hcr ih

/-! ### Pieces -/

theorem pieces_cons {c : Char} (l : List Char) (hlf : c ≠ '\n') (hcr : c ≠ '\r') :
  pieces (c :: l) = extend c (pieces l)
  := by
  rw [pieces]
  · exact hlf
  · intro _ h
    exact absurd h hcr
  · exact hcr

theorem pieces_cr {l : List Char} (h : l.head? ≠ some '\n') :
  pieces ('\r' :: l) = [] :: pieces l
  := by
  rw [pieces]
  rintro rest rfl
  exact h rfl

theorem extend_ne_nil (c : Char) (l : List (List Char)) :
  extend c l ≠ []
  := by
  cases l <;> simp [extend]

theorem pieces_ne_nil (l : List Char) :
  pieces l ≠ []
  := by
  induction l using text_induction with
  | nil => simp [pieces]
  | lf rest => simp [pieces]
  | crlf rest => simp [pieces]
  | cr rest hnext => simp [pieces_cr hnext]
  | other c rest hlf hcr =>
    rw [pieces_cons rest hlf hcr]
    apply extend_ne_nil

theorem exists_pieces (l : List Char) :
  ∃ piece rest, pieces l = piece :: rest
  := List.exists_cons_of_ne_nil (pieces_ne_nil l)

/-- What stands between two line ends has none. -/
theorem isLine_of_mem_pieces {l piece : List Char} (h : piece ∈ pieces l) :
  IsLine piece
  := by
  have hstart {rest : List Char} {piece : List Char}
      (ih : ∀ {piece}, piece ∈ pieces rest → IsLine piece) (hmem : piece ∈ [] :: pieces rest) :
      IsLine piece := by
    obtain rfl | hmem := List.mem_cons.mp hmem
    · exact isLine_nil
    · exact ih hmem
  induction l using text_induction generalizing piece with
  | nil =>
    obtain rfl := List.mem_singleton.mp h
    exact isLine_nil
  | lf rest ih => exact hstart ih h
  | crlf rest ih => exact hstart ih h
  | cr rest hnext ih =>
    rw [pieces_cr hnext] at h
    exact hstart ih h
  | other c rest hlf hcr ih =>
    obtain ⟨first, more, hpieces⟩ := exists_pieces rest
    rw [pieces_cons rest hlf hcr, hpieces, extend] at h
    rw [hpieces] at ih
    obtain rfl | hmore := List.mem_cons.mp h
    · obtain ⟨hfirst, hfirst'⟩ := ih List.mem_cons_self
      simp [IsLine, hlf.symm, hcr.symm, hfirst, hfirst']
    · exact ih (List.mem_cons_of_mem first hmore)

/-- A line is the only piece of itself. -/
theorem pieces_of_isLine {l : List Char} (h : IsLine l) :
  pieces l = [l]
  := by
  induction l with
  | nil => rfl
  | cons c l ih =>
    rw [pieces_cons l h.head_ne.1 h.head_ne.2, ih h.tail]
    rfl

/-- A line that is ended is a piece, unless its end goes on. -/
theorem pieces_append {line stop : List Char} (rest : List Char) (hline : IsLine line)
    (hstop : LineEnd stop) (hnext : stop = ['\r'] → rest.head? ≠ some '\n') :
  pieces (line ++ stop ++ rest) = line :: pieces rest
  := by
  induction line with
  | nil =>
    cases hstop with
    | lf => rfl
    | crlf => rfl
    | cr => exact pieces_cr (hnext rfl)
  | cons c line ih =>
    rw [List.cons_append, List.cons_append, pieces_cons _ hline.head_ne.1 hline.head_ne.2,
      ih hline.tail]
    rfl

/-- The pieces of lines that are joined by one line end are the lines. -/
theorem pieces_intercalate {stop : List Char} (hstop : LineEnd stop) {l : List (List Char)}
    (hne : l ≠ []) (hlines : ∀ line ∈ l, IsLine line) :
  pieces (stop.intercalate l) = l
  := by
  induction l with
  | nil => exact absurd rfl hne
  | cons line rest ih =>
    have hline := hlines line List.mem_cons_self
    cases rest with
    | nil => rw [List.intercalate_singleton, pieces_of_isLine hline]
    | cons next rest =>
      have hrest : ∀ line ∈ next :: rest, IsLine line :=
        fun line hmem => hlines line (List.mem_cons_of_mem _ hmem)
      rw [List.intercalate_cons_cons, pieces_append _ hline hstop, ih (List.cons_ne_nil _ _) hrest]
      rintro rfl
      have hnext := hrest next List.mem_cons_self
      cases next with
      | nil => cases rest <;> simp [List.intercalate]
      | cons c next => cases rest <;> simp [List.intercalate, hnext.head_ne.1]

/-- The pieces before and behind a line feed are those of the parts, unless the line feed
belongs to a carriage return. -/
theorem pieces_append_lf {l : List Char} (rest : List Char) (h : '\r' ∉ l) :
  pieces (l ++ '\n' :: rest) = pieces l ++ pieces rest
  := by
  induction l with
  | nil => rfl
  | cons c l ih =>
    have hcr : c ≠ '\r' := by
      rintro rfl
      exact h List.mem_cons_self
    have hrest := ih fun hmem => h (List.mem_cons_of_mem c hmem)
    by_cases hlf : c = '\n'
    · rw [hlf, List.cons_append, pieces, hrest, pieces]
      rfl
    · obtain ⟨first, more, hpieces⟩ := exists_pieces l
      rw [List.cons_append, pieces_cons _ hlf hcr, hrest, pieces_cons _ hlf hcr, hpieces]
      rfl

theorem join_cons_cons (c : Char) (piece : List Char) (rest : List (List Char)) :
  join ((c :: piece) :: rest) = c :: join (piece :: rest)
  := by
  cases rest <;> rfl

/-- A text without carriage returns is its pieces, joined. -/
theorem join_pieces {l : List Char} (h : '\r' ∉ l) :
  join (pieces l) = l
  := by
  induction l with
  | nil => rfl
  | cons c l ih =>
    have hcr : c ≠ '\r' := by
      rintro rfl
      exact h List.mem_cons_self
    have hrest := ih fun hmem => h (List.mem_cons_of_mem c hmem)
    obtain ⟨first, more, hpieces⟩ := exists_pieces l
    by_cases hlf : c = '\n'
    · rw [hlf, pieces, join, List.intercalate_cons_of_ne_nil (pieces_ne_nil l)]
      rw [join] at hrest
      rw [hrest]
      rfl
    · rw [pieces_cons _ hlf hcr, hpieces, extend]
      rw [hpieces] at hrest
      rw [join_cons_cons, hrest]

/-! ### Lines -/

/-- The lines of a text without carriage returns are its pieces, less an empty one at the end. -/
theorem pieces_eq_lines {l : List Char} (h : '\r' ∉ l) :
  pieces l = lines l ∨ pieces l = lines l ++ [[]]
  := by
  induction l with
  | nil => exact .inr rfl
  | cons c l ih =>
    have hcr : c ≠ '\r' := by
      rintro rfl
      exact h List.mem_cons_self
    have hrest := ih fun hmem => h (List.mem_cons_of_mem c hmem)
    by_cases hlf : c = '\n'
    · rw [hlf, pieces, lines]
      apply hrest.imp
      · intro heq
        rw [heq]
      · intro heq
        rw [heq]
        rfl
    · have hlines : lines (c :: l) = extend c (lines l) := by
        rw [lines]
        · exact hlf
        · intro _ heq
          exact absurd heq hcr
      rw [pieces_cons _ hlf hcr, hlines]
      cases hcases : lines l with
      | nil =>
        rw [hcases] at hrest
        obtain hnil | hone := hrest
        · exact absurd hnil (pieces_ne_nil l)
        · left
          rw [hone]
          rfl
      | cons line more =>
        rw [hcases] at hrest
        apply hrest.imp
        · intro heq
          rw [heq]
        · intro heq
          rw [heq]
          rfl

/-- Behind a line feed no line goes on. -/
theorem lines_append_lf {l : List Char} (h : '\r' ∉ l) :
  lines (l ++ ['\n']) = pieces l
  := by
  induction l with
  | nil => rfl
  | cons c l ih =>
    have hcr : c ≠ '\r' := by
      rintro rfl
      exact h List.mem_cons_self
    have hrest := ih fun hmem => h (List.mem_cons_of_mem c hmem)
    by_cases hlf : c = '\n'
    · rw [hlf, List.cons_append, lines, hrest, pieces]
    · rw [List.cons_append, lines, hrest, pieces_cons _ hlf hcr]
      · exact hlf
      · intro _ heq
        exact absurd heq hcr

theorem join_concat_nil {l : List (List Char)} (h : l ≠ []) :
  join (l ++ [[]]) = join l ++ ['\n']
  := by
  induction l with
  | nil => exact absurd rfl h
  | cons line rest ih =>
    cases rest with
    | nil => simp [join, List.intercalate]
    | cons next rest =>
      have hrest := ih (List.cons_ne_nil next rest)
      have hcons : join (line :: next :: rest) = line ++ ['\n'] ++ join (next :: rest) :=
        List.intercalate_cons_cons
      rw [hcons, List.append_assoc, ← hrest]
      exact List.intercalate_cons_cons

theorem notMem_join {c : Char} {l : List (List Char)} (hc : c ≠ '\n') (h : ∀ line ∈ l, c ∉ line) :
  c ∉ join l
  := by
  induction l with
  | nil => exact List.not_mem_nil
  | cons line rest ih =>
    have hline := h line List.mem_cons_self
    have hrest := ih fun line hmem => h line (List.mem_cons_of_mem _ hmem)
    cases rest with
    | nil => rwa [join, List.intercalate_singleton]
    | cons next rest =>
      rw [join] at hrest ⊢
      rw [List.intercalate_cons_cons, List.mem_append, List.mem_append, List.mem_singleton]
      rintro ((hmem | heq) | hmem)
      · exact hline hmem
      · exact hc heq
      · exact hrest hmem

/-- Lines that are joined are read again, up to an empty one at the end. -/
theorem eq_lines_join {l : List (List Char)} (h : ∀ line ∈ l, IsLine line) :
  l = lines (join l) ∨ l = lines (join l) ++ [[]]
  := by
  by_cases hne : l = []
  · rw [hne]
    exact .inl rfl
  · have hcr : '\r' ∉ join l := notMem_join (by decide) fun line hmem => (h line hmem).2
    have hpieces : pieces (join l) = l := pieces_intercalate .lf hne h
    have hlines := pieces_eq_lines hcr
    rwa [hpieces] at hlines

/-! ### Lines and blanks at the ends -/

section Blanks

variable {blank : Char → Bool} {l : List (List Char)}

/-- A line that neither starts nor ends with a blank. -/
def Tidy (blank : Char → Bool) (line : List Char) : Prop :=
  (∀ c ∈ line.head?, blank c = false) ∧ ∀ c ∈ line.getLast?, blank c = false

theorem join_cons (line : List Char) (h : l ≠ []) :
  join (line :: l) = line ++ '\n' :: join l
  := by
  rw [join, List.intercalate_cons_of_ne_nil h, List.append_assoc]
  rfl

theorem join_concat (line : List Char) (h : l ≠ []) :
  join (l ++ [line]) = join l ++ '\n' :: line
  := by
  induction l with
  | nil => exact absurd rfl h
  | cons first rest ih =>
    cases rest with
    | nil => simp [join, List.intercalate]
    | cons next rest =>
      have hrest := ih (List.cons_ne_nil next rest)
      rw [List.cons_append, join_cons _ (by simp), hrest, join_cons _ (List.cons_ne_nil next rest),
        List.append_assoc]
      rfl

/-- Dropping the blanks at the start of tidy lines drops the empty ones. -/
theorem dropWhile_join (hnewline : blank '\n' = true) (h : ∀ line ∈ l, Tidy blank line) :
  (join l).dropWhile blank = join (l.dropWhile List.isEmpty)
  := by
  induction l with
  | nil => rfl
  | cons line rest ih =>
    have hrest := ih fun line hmem => h line (List.mem_cons_of_mem _ hmem)
    cases line with
    | nil =>
      rw [List.dropWhile_cons_of_pos (by rfl), ← hrest]
      cases rest with
      | nil => rfl
      | cons next rest =>
        rw [join_cons [] (List.cons_ne_nil next rest), List.nil_append,
          List.dropWhile_cons_of_pos hnewline]
    | cons c line =>
      have hc := (h _ List.mem_cons_self).1 c rfl
      rw [List.dropWhile_cons_of_neg (by simp), join_cons_cons,
        List.dropWhile_cons_of_neg (by simp [hc])]

/-- Dropping the blanks at the end of tidy lines drops the empty ones. -/
theorem rdropWhile_join (hnewline : blank '\n' = true) (h : ∀ line ∈ l, Tidy blank line) :
  (join l).rdropWhile blank = join (l.rdropWhile List.isEmpty)
  := by
  induction l using List.reverseRecOn with
  | nil => rfl
  | append_singleton rest line ih =>
    have hrest := ih fun line hmem => h line (List.mem_append_left _ hmem)
    have hline := h line (List.mem_append_right _ (List.mem_singleton_self line))
    by_cases hempty : line = []
    · subst hempty
      rw [List.rdropWhile_concat_pos _ _ _ (by rfl), ← hrest]
      by_cases hnil : rest = []
      · rw [hnil]
        rfl
      · rw [join_concat_nil hnil, List.rdropWhile_concat_pos _ _ _ hnewline]
    · have hlast : ¬ blank (line.getLast hempty) = true := by
        rw [hline.2 _ (List.getLast?_eq_getLast_of_ne_nil hempty)]
        exact Bool.false_ne_true
      rw [List.rdropWhile_concat_neg _ _ _ (by simpa using hempty)]
      have hsplit : ∃ start, join (rest ++ [line])
          = start ++ line.dropLast ++ [line.getLast hempty] := by
        by_cases hnil : rest = []
        · use []
          rw [hnil, List.nil_append, List.nil_append, List.dropLast_append_getLast]
          exact List.intercalate_singleton
        · use join rest ++ ['\n']
          rw [join_concat line hnil, List.append_assoc, List.append_assoc,
            List.dropLast_append_getLast]
          rfl
      obtain ⟨start, hstart⟩ := hsplit
      rw [hstart, List.rdropWhile_concat_neg _ _ _ hlast]

end Blanks

/-! ### Lines of what carries more than characters -/

section Values

variable {α : Type*} {value : α → Char}

/-- What stands between the line ends of a list whose elements carry characters. -/
def piecesBy (value : α → Char) : List α → List (List α)
  | [] => [[]]
  | a :: rest =>
    if value a = '\n' then [] :: piecesBy value rest
    else if value a = '\r' then
      if rest.head?.map value = some '\n' then piecesBy value rest else [] :: piecesBy value rest
    else extend a (piecesBy value rest)

/-- They are those of the characters. -/
theorem map_piecesBy (value : α → Char) (l : List α) :
  (piecesBy value l).map (List.map value) = pieces (l.map value)
  := by
  induction l with
  | nil => rfl
  | cons a rest ih =>
    have hhead : (rest.map value).head? = rest.head?.map value := List.head?_map
    rw [List.map_cons, piecesBy]
    split_ifs with hlf hcr hnext
    · rw [hlf, List.map_cons, ih, pieces]
      rfl
    · cases rest with
      | nil => cases hnext
      | cons b rest =>
        rw [List.head?_cons, Option.map_some, Option.some_inj] at hnext
        rw [List.map_cons, hnext] at ih ⊢
        rw [ih, hcr]
        rfl
    · rw [← hhead] at hnext
      rw [hcr, List.map_cons, ih, pieces_cr hnext]
      rfl
    · rw [pieces_cons _ hlf hcr, ← ih]
      cases piecesBy value rest <;> rfl

theorem piecesBy_ne_nil (value : α → Char) (l : List α) :
  piecesBy value l ≠ []
  := by
  intro h
  have hmap := map_piecesBy value l
  rw [h] at hmap
  exact pieces_ne_nil _ hmap.symm

theorem extend_append {β : Type*} (b : β) {l : List (List β)} (h : l ≠ []) (m : List (List β)) :
  extend b (l ++ m) = extend b l ++ m
  := by
  obtain ⟨first, more, rfl⟩ := List.exists_cons_of_ne_nil h
  rfl

/-- The pieces before and behind a line feed are those of the parts, unless a carriage return
stands before it. -/
theorem piecesBy_append_lf {l : List α} {a : α} (rest : List α) (ha : value a = '\n')
    (h : ∀ b ∈ l.getLast?, value b ≠ '\r') :
  piecesBy value (l ++ a :: rest) = piecesBy value l ++ piecesBy value rest
  := by
  have hstart : piecesBy value (a :: rest) = [] :: piecesBy value rest := by
    rw [piecesBy, if_pos ha]
  induction l with
  | nil => exact hstart
  | cons b l ih =>
    by_cases hnil : l = []
    · subst hnil
      have hb : value b ≠ '\r' := h b rfl
      have hone : piecesBy value [b] = if value b = '\n' then [[], []] else [[b]] := by
        rw [piecesBy, if_neg hb]
        rfl
      rw [List.singleton_append, piecesBy, if_neg hb, hstart, hone]
      split_ifs <;> rfl
    · have hrest := ih fun c hc => h c (by rwa [List.getLast?_cons_of_ne_nil hnil])
      have hhead : (l ++ a :: rest).head? = l.head? := List.head?_append_of_ne_nil l hnil
      rw [List.cons_append, piecesBy, piecesBy, hhead, hrest,
        extend_append b (piecesBy_ne_nil value l)]
      split_ifs <;> rfl

/-- What follows a list that does not start with a line feed goes on with its last piece. -/
theorem exists_piecesBy_append (l : List α) {m : List α} (h : ∀ a ∈ m.head?, value a ≠ '\n') :
  ∃ start last, piecesBy value l = start ++ [last] ∧ IsLine (last.map value)
    ∧ piecesBy value (l ++ m) = start ++ piecesBy value (last ++ m)
  := by
  induction l with
  | nil =>
    use [], []
    exact ⟨rfl, isLine_nil, rfl⟩
  | cons a l ih =>
    obtain ⟨start, last, hstart, hlast, happend⟩ := ih
    have hnext : (l ++ m).head?.map value = some '\n' ↔ l.head?.map value = some '\n' := by
      cases l with
      | nil =>
        rw [List.nil_append, Option.map_eq_some_iff]
        constructor
        · rintro ⟨b, hb, heq⟩
          exact absurd heq (h b hb)
        · rintro ⟨⟩
      | cons b l => rfl
    rw [List.cons_append, piecesBy, piecesBy, happend, hstart]
    simp only [hnext]
    split_ifs with hlf hcr hskip
    · use [] :: start, last
      exact ⟨rfl, hlast, rfl⟩
    · use start, last
    · use [] :: start, last
      exact ⟨rfl, hlast, rfl⟩
    · cases start with
      | nil =>
        use [], a :: last
        rw [List.cons_append, List.nil_append, piecesBy, if_neg hlf, if_neg hcr]
        refine ⟨rfl, ⟨?_, ?_⟩, rfl⟩
        · rw [List.map_cons, List.mem_cons]
          rintro (heq | hmem)
          · exact hlf heq.symm
          · exact hlast.1 hmem
        · rw [List.map_cons, List.mem_cons]
          rintro (heq | hmem)
          · exact hcr heq.symm
          · exact hlast.2 hmem
      | cons piece start =>
        use (a :: piece) :: start, last
        exact ⟨rfl, hlast, rfl⟩

/-- The pieces have no elements of their own. -/
theorem mem_of_mem_piecesBy {l piece : List α} (h : piece ∈ piecesBy value l) :
  piece ⊆ l
  := by
  have hstart {rest : List α} {piece : List α}
      (ih : ∀ {piece}, piece ∈ piecesBy value rest → piece ⊆ rest)
      (hmem : piece ∈ [] :: piecesBy value rest) : piece ⊆ rest := by
    obtain rfl | hmem := List.mem_cons.mp hmem
    · exact List.nil_subset rest
    · exact ih hmem
  induction l generalizing piece with
  | nil =>
    obtain rfl := List.mem_singleton.mp h
    exact List.nil_subset []
  | cons a rest ih =>
    rw [piecesBy] at h
    split_ifs at h
    · exact List.subset_cons_of_subset a (hstart ih h)
    · exact List.subset_cons_of_subset a (ih h)
    · exact List.subset_cons_of_subset a (hstart ih h)
    · obtain ⟨first, more, hpieces⟩ := List.exists_cons_of_ne_nil (piecesBy_ne_nil value rest)
      rw [hpieces] at ih h
      obtain rfl | h := List.mem_cons.mp h
      · exact List.cons_subset_cons a (ih List.mem_cons_self)
      · exact List.subset_cons_of_subset a (ih (List.mem_cons_of_mem first h))

/-- A line goes on with what follows. -/
theorem piecesBy_line_append {l : List α} (h : IsLine (l.map value)) (m : List α) :
  ∃ first rest, piecesBy value m = first :: rest ∧ piecesBy value (l ++ m) = (l ++ first) :: rest
  := by
  induction l with
  | nil =>
    obtain ⟨first, rest, hpieces⟩ := List.exists_cons_of_ne_nil (piecesBy_ne_nil value m)
    exact ⟨first, rest, hpieces, hpieces⟩
  | cons a l ih =>
    rw [List.map_cons] at h
    obtain ⟨first, rest, hpieces, happend⟩ := ih h.tail
    use first, rest, hpieces
    rw [List.cons_append, piecesBy, if_neg h.head_ne.1, if_neg h.head_ne.2, happend]
    rfl

/-- A line is the only piece of itself. -/
theorem piecesBy_of_isLine {l : List α} (h : IsLine (l.map value)) :
  piecesBy value l = [l]
  := by
  induction l with
  | nil => rfl
  | cons a rest ih =>
    rw [List.map_cons] at h
    rw [piecesBy, if_neg h.head_ne.1, if_neg h.head_ne.2, ih h.tail]
    rfl

end Values

end TextLines
