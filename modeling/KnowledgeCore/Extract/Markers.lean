import KnowledgeCore.Extract.Snippet

/-!
# Markers in snippets

The extractors put a marker before the text of a page and before a heading. A snippet hides the
markers that stand on lines of their own and have the shape it knows: those of the first 9999
pages, and those of headings that start a line and have no line end in their title.
-/

namespace KnowledgeCore

namespace Extract

open TextLines (IsLine pieces)

/-! ### The pages of a document -/

/-- `format!("[[PAGE:{:04}]]", page)` -/
def pageMarker (page : Nat) : String :=
  let digits := (toString page).toList
  "[[PAGE:" ++ String.ofList (List.replicate (4 - digits.length) '0' ++ digits) ++ "]]"

/-- The text of the next page behind what was read, behind its marker. -/
def appendPage (output : List Char) (page : Nat) (pageText : String) : List Char :=
  let separated := if output.isEmpty then output else output ++ ['\n']
  let marked := separated ++ (pageMarker page).toList
  if (trim pageText).isEmpty then marked else marked ++ '\n' :: (trim pageText).toList

/-- The texts of the pages from a number on, each behind its marker. -/
def appendPages (output : List Char) (page : Nat) : List String → List Char
  | [] => output
  | pageText :: rest => appendPages (appendPage output page pageText) (page + 1) rest

def OCR_MAX_PAGES : Nat := 100

/-- The text of a PDF: of its pages as the library reads them, of a body that is none, of its
pages as images, or as it is given in their place. -/
inductive PdfText
  | pdfium (pages : List String)
  | decoded (body : String)
  | ocr (pages : List String) (limit : pages.length ≤ OCR_MAX_PAGES)
  | fake (text : String)

def PdfText.text : PdfText → String
  | .pdfium pages =>
    let output := appendPages [] 1 pages
    if output.isEmpty then pageMarker 1 ++ "\n" else String.ofList output
  | .decoded body => pageMarker 1 ++ "\n" ++ body
  | .ocr pages _ => String.ofList (appendPages [] 1 pages)
  | .fake text => text

/-! ### Pages, followed -/

def traceMarker (output : Traced) (page : Nat) : Traced :=
  (if output.isEmpty then output else output ++ ofDocument ['\n'])
    ++ ofMarker (pageMarker page).toList

def tracePage (output : Traced) (page : Nat) (pageText : String) : Traced :=
  if (trim pageText).isEmpty then traceMarker output page
  else traceMarker output page ++ ofDocument ('\n' :: (trim pageText).toList)

def tracePages (output : Traced) (page : Nat) : List String → Traced
  | [] => output
  | pageText :: rest => tracePages (tracePage output page pageText) (page + 1) rest

/-- The text of a PDF, followed. -/
def PdfText.traced : PdfText → Traced
  | .pdfium pages =>
    let output := tracePages [] 1 pages
    if output.isEmpty then ofMarker (pageMarker 1).toList ++ ofDocument ['\n'] else output
  | .decoded body => ofMarker (pageMarker 1).toList ++ ofDocument ('\n' :: body.toList)
  | .ocr pages _ => tracePages [] 1 pages
  | .fake text => ofDocument text.toList

@[simp] theorem text_append (l m : Traced) : Traced.text (l ++ m) = l.text ++ m.text := by
  simp [Traced.text]

@[simp] theorem text_ofDocument (l : List Char) : (ofDocument l).text = l := by
  simp [Traced.text, ofDocument, Function.comp_def]

@[simp] theorem text_ofMarker (l : List Char) : (ofMarker l).text = l := by
  simp [Traced.text, ofMarker, Function.comp_def]

theorem text_tracePage (output : Traced) (page : Nat) (pageText : String) :
  (tracePage output page pageText).text = appendPage output.text page pageText
  := by
  have hempty : output.text.isEmpty = output.isEmpty := List.isEmpty_map
  rw [tracePage, traceMarker, appendPage, hempty]
  split_ifs <;> simp

theorem text_tracePages (output : Traced) (page : Nat) (pages : List String) :
  (tracePages output page pages).text = appendPages output.text page pages
  := by
  induction pages generalizing output page with
  | nil => rfl
  | cons pageText rest ih => rw [tracePages, ih, text_tracePage, appendPages]

theorem text_traced (pdf : PdfText) :
  pdf.traced.text = pdf.text.toList
  := by
  have hpages (pages : List String) :
      (tracePages [] 1 pages).text = appendPages [] 1 pages := text_tracePages [] 1 pages
  cases pdf with
  | pdfium pages =>
    have hempty : (appendPages [] 1 pages).isEmpty = (tracePages [] 1 pages).isEmpty := by
      rw [← hpages]
      exact List.isEmpty_map
    rw [PdfText.traced, PdfText.text, hempty]
    split_ifs
    · simp
    · rw [hpages, String.toList_ofList]
  | decoded body => simp [PdfText.traced, PdfText.text]
  | ocr pages limit => rw [PdfText.traced, PdfText.text, hpages, String.toList_ofList]
  | fake text => exact text_ofDocument text.toList

/-! ### Markers of pages -/

theorem isMarker_brackets (body : List Char) :
  isMarker ('[' :: '[' :: (body ++ [']', ']'])) = (isPageBody body || isHeadingBody body)
  := by
  rw [isMarker, List.reverse_append]
  exact congrArg₂ (fun b c => isPageBody b || isHeadingBody c) body.reverse_reverse
    body.reverse_reverse

theorem trimLine_brackets (body : List Char) :
  trimLine ('[' :: '[' :: (body ++ [']', ']'])) = '[' :: '[' :: (body ++ [']', ']'])
  := by
  apply Trim.both_eq_self
  · rintro c ⟨⟩
    decide
  · intro c hc
    have hlast : ('[' :: '[' :: (body ++ [']', ']'])).getLast? = some ']' := by
      rw [← List.cons_append, ← List.cons_append]
      exact List.getLast?_append_of_ne_nil _ (List.cons_ne_nil _ _)
    rw [hlast] at hc
    obtain rfl := Option.mem_some_iff.mp hc
    decide

theorem isPageBody_append (l : List Char) :
  isPageBody ("PAGE:".toList ++ l) = (decide (l.length = 4) && l.all Char.isDigit)
  := by
  match l with
  | [] => rfl
  | [_] => rfl
  | [_, _] => rfl
  | [_, _, _] => rfl
  | [a, b, c, d] => simp [isPageBody, Bool.and_assoc]
  | a :: b :: c :: d :: e :: rest => simp [isPageBody]

theorem toList_pageMarker (page : Nat) :
  let digits := (toString page).toList
  (pageMarker page).toList = '[' :: '[' ::
    (("PAGE:".toList ++ (List.replicate (4 - digits.length) '0' ++ digits)) ++ [']', ']'])
  := by simp [pageMarker]

/-- The marker of a page has the shape that a snippet hides if four digits are enough. -/
theorem isMarker_pageMarker (page : Nat) :
  isMarker (trimLine (pageMarker page).toList) = decide (page ≤ 9999)
  := by
  let digits := (toString page).toList
  let padded := List.replicate (4 - digits.length) '0' ++ digits
  have hdigits : padded.all Char.isDigit = true := by
    rw [List.all_append, Bool.and_eq_true]
    constructor
    · rw [List.all_eq_true]
      intro c hc
      rw [List.eq_of_mem_replicate hc]
      rfl
    · rw [List.all_eq_true]
      intro c hc
      apply Nat.isDigit_of_mem_toDigits (b := 10) (n := page) (by decide) (by decide)
      rwa [← Nat.toList_repr]
  have hlength : padded.length = 4 ↔ page ≤ 9999 := by
    have hle : digits.length ≤ 4 ↔ page < 10 ^ 4 := by
      rw [← Nat.length_toDigits_le_iff (b := 10) (by decide) (by decide), ← Nat.toList_repr]
      rfl
    rw [List.length_append, List.length_replicate]
    omega
  have hheading : isHeadingBody ("PAGE:".toList ++ padded) = false := rfl
  rw [toList_pageMarker, trimLine_brackets, isMarker_brackets, isPageBody_append, hdigits, hheading,
    Bool.and_true, Bool.or_false]
  exact decide_eq_decide.mpr hlength

theorem isLine_pageMarker (page : Nat) :
  IsLine (pageMarker page).toList
  := by
  have hother (c : Char) (hc : c.isDigit = false) (hc' : c ∉ "[[PAGE:]]".toList) :
      c ∉ (pageMarker page).toList := by
    simp only [pageMarker, String.toList_append, String.toList_ofList, List.mem_append]
    rintro ((hmem | hmem | hmem) | hmem)
    · exact hc' (List.mem_append_left [']', ']'] hmem)
    · rw [List.eq_of_mem_replicate hmem] at hc
      cases hc
    · exact CanonJson.notMem_repr hc page hmem
    · exact hc' (List.mem_append_right "[[PAGE:".toList hmem)
  exact ⟨hother '\n' rfl (by decide), hother '\r' rfl (by decide)⟩

/-! ### Lines that are apart -/

theorem markersRecognized_append_lf {l : Traced} (rest : Traced) (mark : Bool)
    (h : ∀ c ∈ l.getLast?, c.1 ≠ '\r') :
  MarkersRecognized (l ++ ('\n', mark) :: rest) ↔ MarkersRecognized l ∧ MarkersRecognized rest
  := by
  rw [MarkersRecognized, tracedLines, TextLines.piecesBy_append_lf rest rfl h,
    List.forall_mem_append]
  rfl

theorem markersRecognized_ofDocument (l : List Char) :
  MarkersRecognized (ofDocument l)
  := by
  rintro line hline ⟨c, hc, hmark⟩
  obtain ⟨d, -, rfl⟩ := List.mem_map.mp (TextLines.mem_of_mem_piecesBy hline hc)
  cases hmark

theorem markersRecognized_pageMarker (page : Nat) :
  MarkersRecognized (ofMarker (pageMarker page).toList) ↔ page ≤ 9999
  := by
  have hlines : tracedLines (ofMarker (pageMarker page).toList)
      = [ofMarker (pageMarker page).toList] := by
    apply TextLines.piecesBy_of_isLine
    rw [← Traced.text, text_ofMarker]
    exact isLine_pageMarker page
  have hholds : HoldsMarker (ofMarker (pageMarker page).toList) :=
    ⟨('[', true), by simp [ofMarker, pageMarker], rfl⟩
  have hne : trimLine (pageMarker page).toList ≠ [] := by
    rw [toList_pageMarker, trimLine_brackets]
    exact List.cons_ne_nil _ _
  rw [MarkersRecognized, hlines, List.forall_mem_singleton, text_ofMarker, isMarker_pageMarker,
    decide_eq_true_iff]
  constructor
  · intro h
    exact (h hholds).resolve_right hne
  · intro h _
    exact .inl h

/-! ### Pages are recognized -/

/-- The text behind a marker is trimmed. -/
theorem last_ne_of_trim {text : String} {c : Char} (h : c ∈ (trim text).toList.getLast?) :
  c ≠ '\r'
  := by
  rintro rfl
  have hblank : isWhitespace '\r' = false := by
    apply Trim.getLast?_both (l := text.toList)
    rwa [trim, String.toList_ofList] at h
  exact absurd hblank (by decide)

theorem last_ofMarker_pageMarker (page : Nat) :
  ∀ c ∈ (ofMarker (pageMarker page).toList).getLast?, c.1 ≠ '\r'
  := by
  intro c hc
  rw [ofMarker, List.getLast?_map] at hc
  obtain ⟨d, hd, rfl⟩ := Option.map_eq_some_iff.mp hc
  rintro heq
  exact (isLine_pageMarker page).2 (heq ▸ List.mem_of_mem_getLast? hd)

theorem last_traceMarker (output : Traced) (page : Nat) :
  ∀ c ∈ (traceMarker output page).getLast?, c.1 ≠ '\r'
  := by
  intro c hc
  have hne : ofMarker (pageMarker page).toList ≠ [] := by
    rw [toList_pageMarker]
    exact List.cons_ne_nil _ _
  rw [traceMarker, List.getLast?_append_of_ne_nil _ hne] at hc
  exact last_ofMarker_pageMarker page c hc

theorem last_tracePage (output : Traced) (page : Nat) (pageText : String) :
  ∀ c ∈ (tracePage output page pageText).getLast?, c.1 ≠ '\r'
  := by
  intro c hc
  rw [tracePage] at hc
  split_ifs at hc with hblank
  · exact last_traceMarker output page c hc
  · have hne : (trim pageText).toList ≠ [] := by
      rwa [String.isEmpty_iff, ← String.toList_eq_nil_iff] at hblank
    have hlast : (ofDocument ('\n' :: (trim pageText).toList)).getLast?
        = (trim pageText).toList.getLast?.map fun c => (c, false) := by
      rw [ofDocument, List.getLast?_map, List.getLast?_cons_of_ne_nil hne]
    rw [List.getLast?_append_of_ne_nil _ (by simp [ofDocument]), hlast] at hc
    obtain ⟨d, hd, rfl⟩ := Option.map_eq_some_iff.mp hc
    exact last_ne_of_trim hd

theorem markersRecognized_traceMarker {output : Traced} (page : Nat)
    (h : ∀ c ∈ output.getLast?, c.1 ≠ '\r') :
  MarkersRecognized (traceMarker output page) ↔ MarkersRecognized output ∧ page ≤ 9999
  := by
  rw [traceMarker]
  split_ifs with hempty
  · rw [List.isEmpty_iff.mp hempty, List.nil_append, markersRecognized_pageMarker]
    exact (and_iff_right (markersRecognized_ofDocument [])).symm
  · have hcons (rest : Traced) : ofDocument ['\n'] ++ rest = ('\n', false) :: rest := rfl
    rw [List.append_assoc, hcons, markersRecognized_append_lf _ false h,
      markersRecognized_pageMarker]

theorem markersRecognized_tracePage {output : Traced} (page : Nat) (pageText : String)
    (h : ∀ c ∈ output.getLast?, c.1 ≠ '\r') :
  MarkersRecognized (tracePage output page pageText) ↔ MarkersRecognized output ∧ page ≤ 9999
  := by
  rw [tracePage, ← markersRecognized_traceMarker page h]
  split_ifs with hblank
  · rfl
  · apply (markersRecognized_append_lf (ofDocument (trim pageText).toList) false
      (last_traceMarker output page)).trans
    exact and_iff_left (markersRecognized_ofDocument _)

theorem markersRecognized_tracePages {output : Traced} (page : Nat) (pages : List String)
    (h : ∀ c ∈ output.getLast?, c.1 ≠ '\r') :
  MarkersRecognized (tracePages output page pages)
    ↔ MarkersRecognized output ∧ (pages = [] ∨ page + pages.length ≤ 10000)
  := by
  induction pages generalizing output page with
  | nil => simp [tracePages]
  | cons pageText rest ih =>
    rw [tracePages, ih (page + 1) (last_tracePage output page pageText),
      markersRecognized_tracePage page pageText h, List.length_cons]
    have hpages : page ≤ 9999 ∧ (rest = [] ∨ page + 1 + rest.length ≤ 10000)
        ↔ pageText :: rest = [] ∨ page + (rest.length + 1) ≤ 10000 := by
      rw [or_iff_right (List.cons_ne_nil pageText rest), ← List.length_eq_zero_iff]
      omega
    rw [and_assoc, hpages]

/-! ### PDFs -/

/-- The number of pages that a PDF is read from. -/
def PdfText.pageCount : PdfText → Nat
  | .pdfium pages => pages.length
  | .decoded _ => 1
  | .ocr pages _ => pages.length
  | .fake _ => 0

/-- The markers of the pages are recognized if there are at most 9999. -/
theorem markersRecognized_traced (pdf : PdfText) :
  MarkersRecognized pdf.traced ↔ pdf.pageCount ≤ 9999
  := by
  have hpages (pages : List String) :
      MarkersRecognized (tracePages [] 1 pages) ↔ pages.length ≤ 9999 := by
    have hnil : MarkersRecognized [] := markersRecognized_ofDocument []
    rw [markersRecognized_tracePages 1 pages (by rintro c ⟨⟩), and_iff_right hnil,
      ← List.length_eq_zero_iff]
    omega
  have hfirst (body : List Char) :
      MarkersRecognized (ofMarker (pageMarker 1).toList ++ ofDocument ('\n' :: body)) := by
    apply (markersRecognized_append_lf (ofDocument body) false (last_ofMarker_pageMarker 1)).mpr
    use (markersRecognized_pageMarker 1).mpr (by decide)
    exact markersRecognized_ofDocument body
  cases pdf with
  | pdfium pages =>
    rw [PdfText.traced, PdfText.pageCount, ← hpages]
    split_ifs with hempty
    · rw [List.isEmpty_iff.mp hempty]
      exact iff_of_true (hfirst []) (markersRecognized_ofDocument [])
    · rfl
  | decoded body => exact iff_of_true (hfirst body.toList) (by simp [PdfText.pageCount])
  | ocr pages limit => exact hpages pages
  | fake text => exact iff_of_true (markersRecognized_ofDocument text.toList) (Nat.zero_le _)

/-! ### Headings, followed -/

/-- The marker of a heading, with the line feed behind it. -/
def Heading.tracedMarker (heading : Heading) : Traced :=
  ofMarker (headingMarker heading.level (String.ofList (stripTags heading.raw))).toList
    ++ ofDocument ['\n']

/-- `(?is)<[^>]+>`, replaced by nothing. -/
def Traced.stripTags (traced : Traced) : Traced :=
  Spans.strip (fun c => c.1 == '<') (fun c => c.1 == '>') traced

/-- The text of a document with markers at its headings, followed. -/
def tracedHtml (input : List Char) : Traced :=
  let withMarkers := (headings input).foldl
    (fun text heading => Replace.first Prod.fst heading.full
      (heading.tracedMarker ++ ofDocument heading.raw) text)
    (ofDocument input)
  Traced.stripTags withMarkers

@[simp] theorem text_tracedMarker (heading : Heading) :
  heading.tracedMarker.text = heading.marker
  := by rw [Heading.tracedMarker, text_append, text_ofMarker, text_ofDocument, Heading.marker]

/-- Removing tags does not depend on what is followed. -/
theorem text_stripTags (traced : Traced) :
  traced.stripTags.text = Extract.stripTags traced.text
  := @Spans.map_strip _ _ (· == '<') (· == '>') Prod.fst traced

/-- Followed or not, the text is the same. -/
theorem text_tracedHtml (input : String) :
  (tracedHtml input.toList).text = (canonicalizeHtml input).toList
  := by
  have hfold (found : List Heading) (traced : Traced) :
      Traced.text (found.foldl (fun text heading => Replace.first Prod.fst heading.full
          (heading.tracedMarker ++ ofDocument heading.raw) text) traced)
        = found.foldl (fun text heading =>
            Replace.first id heading.full (heading.marker ++ heading.raw) text) traced.text := by
    induction found generalizing traced with
    | nil => rfl
    | cons heading found ih =>
      rw [List.foldl_cons, List.foldl_cons, ih, Traced.text, Replace.map_first, ← Traced.text,
        ← Traced.text, text_append, text_tracedMarker, text_ofDocument]
  rw [tracedHtml, text_stripTags, hfold, text_ofDocument, canonicalizeHtml, String.toList_ofList]

/-! ### What is to come out, followed -/

/-- What is to come out of a document, followed. -/
def tracedMarked (document : List Char × List (Heading × List Char)) : Traced :=
  ofDocument (stripTags document.1) ++ document.2.flatMap fun (heading, gap) =>
    heading.tracedMarker ++ ofDocument (stripTags heading.raw ++ stripTags gap)

/-- The parts of a document with markers in place of the tags of its headings, followed. -/
def tracedParts (document : List Char × List (Heading × List Char)) : List Traced :=
  ofDocument document.1 :: document.2.flatMap fun (heading, gap) =>
    [heading.tracedMarker, ofDocument heading.raw, ofDocument gap]

@[simp] theorem ofDocument_append (l m : List Char) :
  ofDocument (l ++ m) = ofDocument l ++ ofDocument m
  := List.map_append

theorem stripTags_ofDocument (l : List Char) :
  (ofDocument l).stripTags = ofDocument (stripTags l)
  := (@Spans.map_strip _ _ (fun c : Char × Bool => c.1 == '<') (fun c => c.1 == '>')
    (fun c => (c, false)) l).symm

theorem stripTags_tracedMarker (heading : Heading) :
  heading.tracedMarker.stripTags = heading.tracedMarker
  := by
  apply Spans.strip_eq_self
  intro hspan
  have hmarker : Spans.HasSpan (· == '<') (· == '>') heading.tracedMarker.text :=
    @Spans.HasSpan.map _ _ _ (· == '<') (· == '>') Prod.fst hspan
  rw [text_tracedMarker, ← stripTags_marker] at hmarker
  exact Spans.not_hasSpan_strip bracket_disjoint hmarker

theorem map_tracedParts (document : List Char × List (Heading × List Char)) :
  (tracedParts document).map Traced.text = markedParts document
  := by
  obtain ⟨lead, sections⟩ := document
  rw [tracedParts, List.map_cons, text_ofDocument, markedParts, List.map_flatMap]
  simp

theorem flatten_tracedParts (document : List Char × List (Heading × List Char)) :
  (tracedParts document).flatten
    = ofDocument document.1 ++ document.2.flatMap fun (heading, gap) =>
      heading.tracedMarker ++ ofDocument heading.raw ++ ofDocument gap
  := by
  obtain ⟨lead, sections⟩ := document
  rw [tracedParts, List.flatten_cons]
  apply congrArg (ofDocument lead ++ ·)
  induction sections with
  | nil => rfl
  | cons head rest ih => simp [ih]

theorem tracedMarked_eq (document : List Char × List (Heading × List Char)) :
  tracedMarked document = ((tracedParts document).map Traced.stripTags).flatten
  := by
  obtain ⟨lead, sections⟩ := document
  rw [tracedMarked, tracedParts, List.map_cons, List.flatten_cons, stripTags_ofDocument]
  apply congrArg (ofDocument (stripTags lead) ++ ·)
  induction sections with
  | nil => rfl
  | cons head rest ih => simpa [stripTags_tracedMarker, stripTags_ofDocument] using ih

/-- What comes out of a document whose headings are found in place and in which no bracket is
left open is what is to come out. -/
theorem tracedHtml_eq {input : String} (hplace : HeadingsInPlace input)
    (hapart : BracketsApart input) :
  tracedHtml input.toList = tracedMarked (document 0 input.toList)
  := by
  have hwhole := document_flatten 0 input.toList
  rw [List.drop_zero] at hwhole
  have hfold : (headings input.toList).foldl (fun text heading =>
        Replace.first Prod.fst heading.full (heading.tracedMarker ++ ofDocument heading.raw) text)
        (ofDocument input.toList)
      = (tracedParts (document 0 input.toList)).flatten := by
    have hnew (heading : Heading) :
        (heading.tracedMarker ++ ofDocument heading.raw).text = heading.marker ++ heading.raw := by
      simp
    have hfound : FoundInPlace (ofDocument (document 0 input.toList).1).text
        (document 0 input.toList).2 := by
      rwa [text_ofDocument]
    have hreplaced := foldl_first Prod.fst (fun c => (c, false)) (fun _ => rfl) hnew
      (fun s hs => full_ne_nil_of_mem hs) hfound
    rw [← ofDocument, ← ofDocument_append, hwhole] at hreplaced
    rw [headings, hreplaced, flatten_tracedParts]
    rfl
  have hparts : Spans.Apart (fun c => c.1 == '<') (fun c => c.1 == '>')
      (tracedParts (document 0 input.toList)) := by
    apply @Spans.Apart.of_map _ _ (· == '<') (· == '>') Prod.fst
    rwa [BracketsApart, ← map_tracedParts] at hapart
  have hclose (c : Char × Bool) (h : (c.1 == '>') = true) : (c.1 == '<') = false :=
    bracket_disjoint c.1 h
  rw [tracedHtml, hfold, tracedMarked_eq]
  exact (Spans.strip_flatten_iff hclose _).mpr hparts

/-! ### Headings are recognized -/

/-- The marker of a heading. -/
def Heading.markerText (heading : Heading) : List Char :=
  (headingMarker heading.level (String.ofList (stripTags heading.raw))).toList

/-- The lines of a marker, the first with what stands before it, have the shape of a marker or are
blank. -/
def StandsOut (before marker : List Char) : Prop :=
  ∀ line ∈ pieces ((pieces before).getLastD [] ++ marker),
    isMarker (trimLine line) = true ∨ trimLine line = []

/-- The markers of a document stand out, each behind the text since the one before it. -/
def MarkersStandOut (before : List Char) : List (Heading × List Char) → Prop
  | [] => True
  | (heading, gap) :: rest =>
    StandsOut before heading.markerText
      ∧ MarkersStandOut (stripTags heading.raw ++ stripTags gap) rest

theorem not_holdsMarker_of_subset {l : List Char} {line : Traced} (h : line ⊆ ofDocument l) :
  ¬ HoldsMarker line
  := by
  rintro ⟨c, hc, hmark⟩
  obtain ⟨d, -, rfl⟩ := List.mem_map.mp (h hc)
  cases hmark

theorem holdsMarker_of_subset {l : List Char} {line : Traced} (h : line ⊆ ofMarker l) :
  line = [] ∨ HoldsMarker line
  := by
  cases line with
  | nil => exact .inl rfl
  | cons c line =>
    obtain ⟨d, -, rfl⟩ := List.mem_map.mp (h List.mem_cons_self)
    exact .inr ⟨(d, true), List.mem_cons_self, rfl⟩

/-- The lines of a marker are those that have a part of it, and the blank ones in its title. -/
theorem markersRecognized_ofMarker (before tail : List Char) :
  MarkersRecognized (ofDocument before ++ ofMarker ('[' :: tail)) ↔ StandsOut before ('[' :: tail)
  := by
  have hhead : ∀ c ∈ (ofMarker ('[' :: tail)).head?, c.1 ≠ '\n' := by
    rintro c ⟨⟩
    decide
  obtain ⟨start, last, hbefore, hlast, happend⟩ :=
    TextLines.exists_piecesBy_append (ofDocument before) hhead
  obtain ⟨first, rest, hmarker, hline⟩ :=
    TextLines.piecesBy_line_append hlast (ofMarker ('[' :: tail))
  have hlines : tracedLines (ofDocument before ++ ofMarker ('[' :: tail))
      = start ++ (last ++ first) :: rest := by
    rw [tracedLines, happend, hline]
  have hpieces : pieces ((pieces before).getLastD [] ++ '[' :: tail)
      = ((last ++ first) :: rest).map Traced.text := by
    have hend : (pieces before).getLastD [] = Traced.text last := by
      have hmap : (tracedLines (ofDocument before)).map Traced.text
          = pieces (ofDocument before).text := TextLines.map_piecesBy Prod.fst (ofDocument before)
      rw [tracedLines, hbefore, text_ofDocument] at hmap
      rw [← hmap, List.map_append, List.map_singleton, List.getLastD_concat]
    have hmap : (tracedLines (last ++ ofMarker ('[' :: tail))).map Traced.text
        = pieces (Traced.text (last ++ ofMarker ('[' :: tail))) :=
      TextLines.map_piecesBy Prod.fst (last ++ ofMarker ('[' :: tail))
    rw [hend, ← hline, ← tracedLines, hmap, text_append, text_ofMarker]
  have hstart : ∀ line ∈ start, ¬ HoldsMarker line := by
    intro line hmem
    apply not_holdsMarker_of_subset
    apply TextLines.mem_of_mem_piecesBy
    rw [hbefore]
    exact List.mem_append_left _ hmem
  have hfirst : HoldsMarker (last ++ first) := by
    have hextend : TextLines.extend ('[', true) (TextLines.piecesBy Prod.fst (ofMarker tail))
        = first :: rest := hmarker
    obtain ⟨piece, more, hcons⟩ := List.exists_cons_of_ne_nil
      (TextLines.piecesBy_ne_nil Prod.fst (ofMarker tail))
    rw [hcons, TextLines.extend, List.cons.injEq] at hextend
    rw [← hextend.1]
    exact ⟨('[', true), List.mem_append_right _ List.mem_cons_self, rfl⟩
  have hrest : ∀ line ∈ rest, line = [] ∨ HoldsMarker line := by
    intro line hmem
    apply holdsMarker_of_subset
    apply TextLines.mem_of_mem_piecesBy
    rw [hmarker]
    exact List.mem_cons_of_mem first hmem
  rw [MarkersRecognized, StandsOut, hlines, hpieces, List.forall_mem_map]
  constructor
  · intro h line hmem
    obtain rfl | hmem' := List.mem_cons.mp hmem
    · exact h _ (List.mem_append_right _ hmem) hfirst
    · obtain rfl | hholds := hrest line hmem'
      · exact .inr rfl
      · exact h line (List.mem_append_right _ hmem) hholds
  · intro h line hmem hholds
    obtain hmem | hmem := List.mem_append.mp hmem
    · exact absurd hholds (hstart line hmem)
    · exact h line hmem

theorem exists_markerText (heading : Heading) :
  ∃ body, heading.markerText = '[' :: '[' :: (body ++ [']', ']'])
  := by
  use ("H" ++ toString heading.level ++ ":"
    ++ trim (String.ofList (stripTags heading.raw))).toList
  simp [Heading.markerText, headingMarker]

theorem markersRecognized_sections (before : List Char) (sections : List (Heading × List Char)) :
  MarkersRecognized (ofDocument before ++ sections.flatMap fun (heading, gap) =>
      heading.tracedMarker ++ ofDocument (stripTags heading.raw ++ stripTags gap))
    ↔ MarkersStandOut before sections
  := by
  induction sections generalizing before with
  | nil =>
    rw [List.flatMap_nil, List.append_nil]
    exact iff_of_true (markersRecognized_ofDocument before) trivial
  | cons head rest ih =>
    obtain ⟨heading, gap⟩ := head
    obtain ⟨body, hbody⟩ := exists_markerText heading
    have hlast : ∀ c ∈ (ofDocument before ++ ofMarker heading.markerText).getLast?,
        c.1 ≠ '\r' := by
      intro c hc
      have hne : ofMarker heading.markerText ≠ [] := by
        rw [hbody]
        exact List.cons_ne_nil _ _
      rw [List.getLast?_append_of_ne_nil _ hne, hbody, ofMarker, List.getLast?_map,
        ← List.cons_append, ← List.cons_append,
        List.getLast?_append_of_ne_nil _ (List.cons_ne_nil _ _)] at hc
      obtain rfl := Option.some_inj.mp hc
      decide
    have hcons : ofDocument before ++ ((heading, gap) :: rest).flatMap (fun (heading, gap) =>
          heading.tracedMarker ++ ofDocument (stripTags heading.raw ++ stripTags gap))
        = (ofDocument before ++ ofMarker heading.markerText) ++ ('\n', false) ::
          (ofDocument (stripTags heading.raw ++ stripTags gap) ++ rest.flatMap
            fun (heading, gap) =>
              heading.tracedMarker ++ ofDocument (stripTags heading.raw ++ stripTags gap)) := by
      simp [Heading.tracedMarker, Heading.markerText, ofDocument]
    rw [hcons, markersRecognized_append_lf _ false hlast, ih, MarkersStandOut, hbody,
      markersRecognized_ofMarker]

/-- A marker behind nothing but blanks on its line stands out if its title has no line end. -/
theorem standsOut_of_isLine {before : List Char} {heading : Heading}
    (hlevel : 1 ≤ heading.level ∧ heading.level ≤ 6)
    (hblank : ∀ c ∈ (pieces before).getLastD [], isWhitespace c = true)
    (htitle : IsLine heading.markerText) :
  StandsOut before heading.markerText
  := by
  let title := (trim (String.ofList (stripTags heading.raw))).toList
  have hlast : IsLine ((pieces before).getLastD []) := by
    obtain hnil | ⟨start, last, heq⟩ := (pieces before).eq_nil_or_concat
    · exact absurd hnil (TextLines.pieces_ne_nil before)
    · rw [List.concat_eq_append] at heq
      rw [heq, List.getLastD_concat]
      apply TextLines.isLine_of_mem_pieces (l := before)
      rw [heq]
      exact List.mem_append_right _ (List.mem_singleton_self last)
  have hline : IsLine ((pieces before).getLastD [] ++ heading.markerText) := by
    constructor
    · rw [List.mem_append, not_or]
      use hlast.1, htitle.1
    · rw [List.mem_append, not_or]
      use hlast.2, htitle.2
  obtain ⟨d, hd, hmarker⟩ : ∃ d, isLevel d = true ∧ heading.markerText
      = '[' :: '[' :: (('H' :: d :: ':' :: title) ++ [']', ']']) := by
    have hdigit : ∀ level < 7, 1 ≤ level → isLevel (Nat.digitChar level) = true := by decide
    use Nat.digitChar heading.level, hdigit _ (Nat.lt_succ_of_le hlevel.2) hlevel.1
    have hdigits : Nat.toDigits 10 heading.level = [Nat.digitChar heading.level] :=
      Nat.toDigits_of_lt_base (Nat.lt_of_le_of_lt hlevel.2 (by decide))
    simp [Heading.markerText, headingMarker, title, hdigits]
  have hbody : title.all (· != '\n') = true := by
    rw [List.all_eq_true]
    intro c hc
    rw [bne_iff_ne]
    rintro rfl
    apply htitle.1
    rw [hmarker]
    simp [hc]
  intro line hmem
  rw [TextLines.pieces_of_isLine hline, List.mem_singleton] at hmem
  left
  rw [hmem, trimLine, Trim.both_append_left hblank, ← trimLine, hmarker, trimLine_brackets,
    isMarker_brackets, isHeadingBody, hd, hbody]
  exact Bool.or_true _

/-- A PDF's snippets are right exactly when it has at most 9999 pages. Those of an HTML document
are right exactly when every line with a part of a marker has its shape or is blank: where its
headings are found in place and its brackets are closed, when every marker, behind what stands
before it on its line, does so. -/
theorem snippets_showOthers_iff (pdf : PdfText) (input : String) :
  (ShowsOthers pdf.text pdf.traced ↔ pdf.pageCount ≤ 9999)
    ∧ (ShowsOthers (canonicalizeHtml input) (tracedHtml input.toList)
      ↔ MarkersRecognized (tracedHtml input.toList))
    ∧ (HeadingsInPlace input → BracketsApart input →
      (ShowsOthers (canonicalizeHtml input) (tracedHtml input.toList)
        ↔ MarkersStandOut (stripTags (document 0 input.toList).1) (document 0 input.toList).2))
  := by
  refine ⟨?_, ?_, ?_⟩
  · rw [showsOthers_iff (text_traced pdf), markersRecognized_traced]
  · exact showsOthers_iff (text_tracedHtml input)
  · intro hplace hapart
    rw [showsOthers_iff (text_tracedHtml input), tracedHtml_eq hplace hapart, tracedMarked]
    exact markersRecognized_sections _ _

/-- The heading starts a line. -/
theorem showsOthers_heading :
  ShowsOthers (canonicalizeHtml "<h1>One</h1><p>two</p>")
    (tracedHtml "<h1>One</h1><p>two</p>".toList)
  := by
  apply ((snippets_showOthers_iff (PdfText.pdfium []) "<h1>One</h1><p>two</p>").2.2
    headingsInPlace_heading bracketsApart_heading).mpr
  rw [document_heading]
  refine ⟨standsOut_of_isLine ?_ ?_ ?_, trivial⟩
  · decide
  · exact List.all_eq_true.mp (by decide +kernel)
  · constructor <;> decide +kernel

/-- The marker of page 10000 has five digits, and that of a heading behind text on its line is
part of a line. -/
theorem markers_shown :
  ¬ ShowsOthers (PdfText.pdfium (List.replicate 10000 "")).text
      (PdfText.pdfium (List.replicate 10000 "")).traced
    ∧ ¬ ShowsOthers (canonicalizeHtml "<p>Hello</p><h2>Child</h2>")
      (tracedHtml "<p>Hello</p><h2>Child</h2>".toList)
  := by
  constructor
  · rw [showsOthers_iff (text_traced _), markersRecognized_traced, PdfText.pageCount,
      List.length_replicate]
    decide
  · rw [showsOthers_iff (text_tracedHtml _)]
    decide +kernel

end Extract

end KnowledgeCore
