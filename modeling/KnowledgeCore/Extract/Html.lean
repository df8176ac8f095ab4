import KnowledgeCore.Hashing
import KnowledgeCore.JsonText
import KnowledgeCore.Lib.Replace
import KnowledgeCore.Lib.Spans
import KnowledgeCore.Lib.Trim

/-!
# The headings of a document

A document is made plain by removing its tags. Before that the headings are found, and each is
replaced by a marker and its text at the place where it is found first. What is to come out is
the text between the headings without its tags, and each heading as its marker and its text.
-/

namespace KnowledgeCore

namespace Extract

/-! ### Markers -/

def headingMarker (level : Nat) (title : String) : String :=
  "[[H" ++ toString level ++ ":" ++ trim title ++ "]]"

/-! ### Tags and headings -/

/-- `(?is)<[^>]+>`, replaced by nothing. -/
def stripTags (l : List Char) : List Char :=
  Spans.strip (· == '<') (· == '>') l

def isH (c : Char) : Bool :=
  c == 'h' || c == 'H'

def isLevel (c : Char) : Bool :=
  '1' ≤ c && c ≤ '6'

/-- `</h[1-6]>` -/
def startsWithClosing : List Char → Bool
  | '<' :: '/' :: h :: d :: '>' :: _ => isH h && isLevel d
  | _ => false

/-- What stands before the first closing tag of a heading. -/
def untilClosing : List Char → Option (List Char)
  | [] => none
  | c :: rest =>
    if startsWithClosing (c :: rest) then some [] else (untilClosing rest).map (c :: ·)

/-- A heading: all of it, its level, and what stands between its tags. -/
structure Heading where
  full : List Char
  level : Nat
  raw : List Char
deriving DecidableEq

/-- `(?is)<h([1-6])[^>]*>(.*?)</h[1-6]>` at the start of a text. -/
def matchHeading : List Char → Option Heading
  | '<' :: h :: d :: rest =>
    if isH h && isLevel d then
      let attributes := rest.takeWhile (· ≠ '>')
      (untilClosing (rest.drop (attributes.length + 1))).map fun raw => {
        full := ('<' :: h :: d :: rest).take (3 + attributes.length + 1 + raw.length + 5)
        level := d.toNat - '0'.toNat
        raw }
    else none
  | _ => none

/-- The text before the first heading, and each heading with the text behind it. The characters
of a heading that was found are skipped. -/
def document : Nat → List Char → List Char × List (Heading × List Char)
  | _, [] => ([], [])
  | skip + 1, _ :: rest => document skip rest
  | 0, c :: rest =>
    match matchHeading (c :: rest) with
    | some heading =>
      let (gap, sections) := document (heading.full.length - 1) rest
      ([], (heading, gap) :: sections)
    | none =>
      let (gap, sections) := document 0 rest
      (c :: gap, sections)

/-- The headings of a document, from the first on. -/
def headings (input : List Char) : List Heading :=
  (document 0 input).2.map Prod.fst

/-- The marker of a heading, with the line feed behind it. -/
def Heading.marker (heading : Heading) : List Char :=
  (headingMarker heading.level (String.ofList (stripTags heading.raw))).toList ++ ['\n']

def canonicalizeHtml (input : String) : String :=
  let withMarkers := (headings input.toList).foldl
    (fun text heading => Replace.first id heading.full (heading.marker ++ heading.raw) text)
    input.toList
  String.ofList (stripTags withMarkers)

/-! ### What is to come out -/

/-- The parts of a document with markers in place of the tags of its headings. -/
def markedParts (document : List Char × List (Heading × List Char)) : List (List Char) :=
  document.1 :: document.2.flatMap fun (heading, gap) => [heading.marker, heading.raw, gap]

/-- The text before the first heading without its tags, and for each heading its marker, its text
without its tags, and the text behind it without its tags. -/
def marked (document : List Char × List (Heading × List Char)) : List Char :=
  stripTags document.1 ++ document.2.flatMap fun (heading, gap) =>
    heading.marker ++ stripTags heading.raw ++ stripTags gap

/-- Behind what is marked already, each heading is found first where it is. -/
def FoundInPlace (before : List Char) : List (Heading × List Char) → Prop
  | [] => True
  | (heading, gap) :: rest =>
    (∀ p < before.length, ¬ heading.full <+: (before ++ (heading.full ++ (gap
        ++ rest.flatMap fun (next, gap) => next.full ++ gap))).drop p)
      ∧ FoundInPlace (before ++ (heading.marker ++ heading.raw ++ gap)) rest

/-- Every heading is found first where it is, when its turn comes. -/
def HeadingsInPlace (input : String) : Prop :=
  FoundInPlace (document 0 input.toList).1 (document 0 input.toList).2

/-- No bracket is left open in a part of the document that one in a later part closes. -/
def BracketsApart (input : String) : Prop :=
  Spans.Apart (· == '<') (· == '>') (markedParts (document 0 input.toList))

/-! ### The parts of a document -/

theorem matchHeading_starts {l : List Char} {heading : Heading} (h : matchHeading l = some heading) :
  heading.full <+: l ∧ heading.full ≠ []
  := by
  match l with
  | [] => cases h
  | [_] => simp [matchHeading] at h
  | [_, _] => simp [matchHeading] at h
  | c :: d :: e :: rest =>
    by_cases hc : c = '<'
    · subst hc
      rw [matchHeading] at h
      split_ifs at h
      obtain ⟨raw, -, rfl⟩ := Option.map_eq_some_iff.mp h
      constructor
      · apply List.take_prefix
      · simp
    · simp [matchHeading, hc] at h

/-- A document is its parts. -/
theorem document_flatten (skip : Nat) (l : List Char) :
  (document skip l).1 ++ (document skip l).2.flatMap (fun (heading, gap) => heading.full ++ gap)
    = l.drop skip
  := by
  induction l generalizing skip with
  | nil => cases skip <;> rfl
  | cons c rest ih =>
    cases skip with
    | succ skip => exact ih skip
    | zero =>
      rw [document]
      split
      · next heading hheading =>
        obtain ⟨⟨after, hafter⟩, hne⟩ := matchHeading_starts hheading
        obtain ⟨d, tail, hfull⟩ := List.exists_cons_of_ne_nil hne
        rw [hfull, List.cons_append, List.cons.injEq] at hafter
        have hskip : heading.full.length - 1 = tail.length := by
          rw [hfull]
          rfl
        have hrest := ih tail.length
        rw [← hafter.2, List.drop_left] at hrest
        rw [hskip, ← hafter.2, List.drop_zero, List.nil_append, List.flatMap_cons,
          List.append_assoc, hrest, hfull, hafter.1]
        rfl
      · exact congrArg (c :: ·) (ih 0)

section Values

variable {α : Type*} (value : α → Char) (plain : Char → α)

/-- Headings that are found in place are replaced where they are, whatever their characters
carry. -/
theorem foldl_first (hplain : ∀ c, value (plain c) = c) {new : Heading → List α}
    (hnew : ∀ heading, (new heading).map value = heading.marker ++ heading.raw) {before : List α}
    {sections : List (Heading × List Char)} (hfull : ∀ s ∈ sections, s.1.full ≠ [])
    (h : FoundInPlace (before.map value) sections) :
  (sections.map Prod.fst).foldl
      (fun text heading => Replace.first value heading.full (new heading) text)
      (before ++ (sections.flatMap fun (heading, gap) => heading.full ++ gap).map plain)
    = before ++ sections.flatMap fun (heading, gap) => new heading ++ gap.map plain
  := by
  have hmap (l : List Char) : (l.map plain).map value = l := by
    simp [Function.comp_def, hplain]
  induction sections generalizing before with
  | nil => rfl
  | cons head rest ih =>
    obtain ⟨heading, gap⟩ := head
    obtain ⟨hfirst, hrest⟩ := h
    let behind := (gap ++ rest.flatMap fun (next, gap) => next.full ++ gap).map plain
    have hreplaced : Replace.first value heading.full (new heading)
        (before ++ (heading.full.map plain ++ behind)) = before ++ (new heading ++ behind) := by
      apply Replace.first_append _ (hmap heading.full)
      · rw [ne_eq, List.map_eq_nil_iff]
        exact hfull _ List.mem_cons_self
      · intro p hp
        have hnot := hfirst p (by rwa [List.length_map])
        rwa [List.map_drop, List.map_append, List.map_append, hmap, hmap]
    have hnext : (rest.map Prod.fst).foldl
        (fun text heading => Replace.first value heading.full (new heading) text)
        (before ++ (new heading ++ behind))
        = before ++ (new heading ++ gap.map plain)
          ++ rest.flatMap fun (heading, gap) => new heading ++ gap.map plain := by
      rw [← ih fun s hs => hfull s (List.mem_cons_of_mem _ hs)]
      · simp only [behind, List.map_append, List.append_assoc]
      · rwa [List.map_append, List.map_append, hmap, hnew]
    rw [List.map_cons, List.foldl_cons, List.flatMap_cons, List.flatMap_cons, List.append_assoc,
      List.map_append, hreplaced, hnext, List.append_assoc]

end Values

theorem full_ne_nil_of_mem {l : List Char} {skip : Nat} {found : Heading × List Char}
    (h : found ∈ (document skip l).2) :
  found.1.full ≠ []
  := by
  induction l generalizing skip with
  | nil => cases skip <;> cases h
  | cons c rest ih =>
    cases skip with
    | succ skip => exact ih h
    | zero =>
      rw [document] at h
      split at h
      · next heading hheading =>
        obtain rfl | h := List.mem_cons.mp h
        · exact (matchHeading_starts hheading).2
        · exact ih h
      · exact ih h

/-! ### Markers have no tags -/

theorem bracket_disjoint (c : Char) (h : (c == '>') = true) : (c == '<') = false := by
  obtain rfl := eq_of_beq h
  rfl

/-- Removing tags leaves a marker as it is. -/
theorem stripTags_marker (heading : Heading) :
  stripTags heading.marker = heading.marker
  := by
  let start := ("[[H" ++ toString heading.level ++ ":").toList
  let title := Trim.both isWhitespace (stripTags heading.raw)
  let stop := "]]\n".toList
  have hmarker : heading.marker = start ++ (title ++ stop) := by
    have htrim : (trim (String.ofList (stripTags heading.raw))).toList = title := by
      rw [trim, String.toList_ofList, String.toList_ofList]
      rfl
    simp [Heading.marker, headingMarker, String.toList_append, htrim, start, stop]
  have hplain (c : Char) (hc : c.isDigit = false) (hother : c ∉ "[[H:".toList) : c ∉ start := by
    intro hmem
    simp only [start, String.toList_append, List.mem_append] at hmem
    obtain (hmem | hmem) | hmem := hmem
    · exact hother (List.mem_append_left [':'] hmem)
    · exact CanonJson.notMem_repr hc heading.level hmem
    · exact hother (List.mem_append_right "[[H".toList hmem)
  have hopen : ∀ c ∈ start, (c == '<') = false := by
    intro c hc
    rw [beq_eq_false_iff_ne]
    rintro rfl
    exact hplain '<' rfl (by decide) hc
  have hclose : ∀ c ∈ start, (c == '>') = false := by
    intro c hc
    rw [beq_eq_false_iff_ne]
    rintro rfl
    exact hplain '>' rfl (by decide) hc
  have hstop : ∀ c ∈ stop, (c == '>') = false := by simp [stop]
  have htitle : stripTags title = title := by
    apply Spans.strip_eq_self
    intro hspan
    exact Spans.not_hasSpan_strip bracket_disjoint (hspan.of_infix (Trim.both_isInfix _ _))
  have hbefore : ¬ Spans.Crosses (· == '<') (· == '>') start (title ++ stop) :=
    Spans.not_crosses_of_not_open hopen
  have hbehind : ¬ Spans.Crosses (· == '<') (· == '>') title stop :=
    Spans.not_crosses_of_not_close hstop
  rw [hmarker, stripTags, Spans.strip_append hbefore, Spans.strip_of_open hclose,
    Spans.strip_append hbehind, Spans.strip_of_open hstop]
  exact congrArg (fun t => start ++ (t ++ stop)) htitle

theorem flatten_markedParts (document : List Char × List (Heading × List Char)) :
  (markedParts document).flatten
    = document.1 ++ document.2.flatMap fun (heading, gap) => heading.marker ++ heading.raw ++ gap
  := by
  obtain ⟨lead, sections⟩ := document
  rw [markedParts, List.flatten_cons]
  apply congrArg (lead ++ ·)
  induction sections with
  | nil => rfl
  | cons head rest ih => simp [ih]

/-- What is to come out are the parts without their tags. -/
theorem marked_eq (document : List Char × List (Heading × List Char)) :
  marked document = ((markedParts document).map stripTags).flatten
  := by
  obtain ⟨lead, sections⟩ := document
  rw [marked, markedParts, List.map_cons, List.flatten_cons]
  apply congrArg (stripTags lead ++ ·)
  induction sections with
  | nil => rfl
  | cons head rest ih => simpa [stripTags_marker] using ih

/-- What comes out of a document whose headings are found in place is what is to come out exactly
when no bracket is left open in one part and closed in a later one. -/
theorem canonicalizeHtml_marked_iff (input : String) (h : HeadingsInPlace input) :
  canonicalizeHtml input = String.ofList (marked (document 0 input.toList)) ↔ BracketsApart input
  := by
  have hwhole := document_flatten 0 input.toList
  rw [List.drop_zero] at hwhole
  have hmarked : (headings input.toList).foldl
      (fun text heading => Replace.first id heading.full (heading.marker ++ heading.raw) text)
      input.toList = (markedParts (document 0 input.toList)).flatten := by
    have hfold := foldl_first id id (fun _ => rfl)
      (fun heading => List.map_id (heading.marker ++ heading.raw)) (fun s hs => full_ne_nil_of_mem hs) (by rwa [List.map_id])
    simp only [List.map_id, hwhole] at hfold
    rw [headings, hfold, flatten_markedParts]
  rw [canonicalizeHtml, hmarked, marked_eq, BracketsApart, ← Spans.strip_flatten_iff bracket_disjoint]
  constructor
  · intro heq
    exact String.ofList_injective heq
  · intro heq
    exact congrArg String.ofList heq

theorem document_heading :
  document 0 "<h1>One</h1><p>two</p>".toList = ([],
    [({ full := "<h1>One</h1>".toList, level := 1, raw := "One".toList }, "<p>two</p>".toList)])
  := by decide +kernel

theorem headingsInPlace_heading :
  HeadingsInPlace "<h1>One</h1><p>two</p>"
  := by
  rw [HeadingsInPlace, document_heading]
  use fun p hp => absurd hp (Nat.not_lt_zero p)
  trivial

theorem bracketsApart_heading :
  BracketsApart "<h1>One</h1><p>two</p>"
  := by
  rw [BracketsApart, document_heading]
  refine ⟨?_, ?_, ?_, ?_, trivial⟩
  · exact Spans.not_crosses_of_not_open (by simp)
  · exact Spans.not_crosses_of_not_open (Spans.any_eq_false.mp (by decide +kernel))
  · exact Spans.not_crosses_of_not_open (by simp)
  · exact Spans.not_crosses_of_not_close (by simp)

/-- A heading before a paragraph, with nothing left open. -/
theorem canonicalizeHtml_heading :
  canonicalizeHtml "<h1>One</h1><p>two</p>"
    = String.ofList (marked (document 0 "<h1>One</h1><p>two</p>".toList))
  := (canonicalizeHtml_marked_iff _ headingsInPlace_heading).mpr bracketsApart_heading

/-- A bracket in a title takes the end of its marker with it, up to the next tag. -/
theorem bracket_breaks_marker :
  canonicalizeHtml "<h1>a < b</h1><p>c</p>" = "[[H1:a c"
    ∧ String.ofList (marked (document 0 "<h1>a < b</h1><p>c</p>".toList))
      = "[[H1:a < b]]\na < bc"
  := by
  constructor <;> decide +kernel

end Extract

end KnowledgeCore
