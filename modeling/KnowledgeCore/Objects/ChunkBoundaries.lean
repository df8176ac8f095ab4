import KnowledgeCore.Objects.ChunkRanges

/-!
# The boundaries of chunks

What a text is to be split at: the chunks of marked-up text at its headings, blank lines and
sentence ends, and those of a PDF outside the lines that mark its pages. The chunks that the
loops make end where their sizes say, whatever the text.
-/

namespace KnowledgeCore

namespace Chunking

/-! ### The structure of a text -/

def IsLineStart (text : List Char) (p : Nat) : Prop :=
  p = 0 ∨ text[p - 1]? = some '\n'

def lineAt (text : List Char) (p : Nat) : List Char :=
  (text.drop p).takeWhile (· ≠ '\n')

/-- A line such as `[[H1:Title]]`. -/
def isHeadingMarker : List Char → Bool
  | '[' :: '[' :: 'H' :: level :: ':' :: rest =>
    '1' ≤ level && level ≤ '6' && [']', ']'].isSuffixOf rest
  | _ => false

/-- A line such as `[[PAGE:0001]]`. -/
def isPageMarker : List Char → Bool
  | '[' :: '[' :: 'P' :: 'A' :: 'G' :: 'E' :: ':' :: rest =>
    let page := rest.takeWhile Char.isDigit
    4 ≤ page.length && rest.drop page.length = [']', ']']
  | _ => false

/-- A heading starts here. -/
def IsHeading (text : List Char) (p : Nat) : Prop :=
  IsLineStart text p ∧ isHeadingMarker (lineAt text p) = true

/-- A blank line ends here. -/
def IsBlankLine (text : List Char) (p : Nat) : Prop :=
  0 < p ∧ IsLineStart text (p - 1) ∧ text[p - 1]? = some '\n'

/-- A sentence ends here. -/
def IsSentenceEnd (text : List Char) (p : Nat) : Prop :=
  (∃ c ∈ text[p - 1]?, c ∈ ['.', '!', '?']) ∧ 0 < p ∧ ∀ c ∈ text[p]?, c.isWhitespace = true

/-- The boundaries that are preferred to sentence ends. -/
def IsPreferred (text : List Char) (p : Nat) : Prop :=
  IsHeading text p ∨ IsBlankLine text p

/-- The position is strictly within a line that marks a page. -/
def InsideMarker (text : List Char) (p : Nat) : Prop :=
  ∃ q, IsLineStart text q ∧ isPageMarker (lineAt text q) = true ∧ q < p
    ∧ p < q + (lineAt text q).length

/-! ### The rules -/

/-- A position is the latest one after a start and within a limit that is so. -/
def Latest (P : Nat → Prop) (start limit end_ : Nat) : Prop :=
  start < end_ ∧ end_ ≤ limit ∧ P end_ ∧ ∀ p, end_ < p → p ≤ limit → ¬ P p

/-- No position after a start and within a limit is so. -/
def Nowhere (P : Nat → Prop) (start limit : Nat) : Prop :=
  ∀ p, start < p → p ≤ limit → ¬ P p

/-- A chunk ends at the latest preferred boundary that it can reach, or at the latest sentence
end if there is no such boundary, and is cut at the limit only if there is neither. -/
def SplitsWell (text : List Char) (start limit end_ : Nat) : Prop :=
  Latest (IsPreferred text) start limit end_
    ∨ Nowhere (IsPreferred text) start limit ∧ Latest (IsSentenceEnd text) start limit end_
    ∨ Nowhere (IsPreferred text) start limit ∧ Nowhere (IsSentenceEnd text) start limit
      ∧ end_ = limit

def IsMarkup (mime : String) : Prop :=
  mime = "text/markdown" ∨ mime = "text/html"

/-- The chunks of marked-up text are split by the rules. -/
def SplitsMarkup (ext : Externals) (docId text mime : String) (cfg : ChunkingConfigV1) : Prop :=
  ∃ steps chunks, chunkDocument ext docId text mime cfg steps = .ok (some chunks)
    ∧ InOrder text.length chunks
    ∧ ∀ start end_ : Nat, ((start : Int), (end_ : Int)) ∈ (chunks.map ChunkRecord.bounds).dropLast →
        SplitsWell text.toList start (start + cfg.mdHtml.greatest) end_

/-- The chunks of a PDF start and end outside the lines that mark its pages. -/
def RespectsMarkers (ext : Externals) (docId text : String) (cfg : ChunkingConfigV1) : Prop :=
  ∃ steps chunks, chunkDocument ext docId text "application/pdf" cfg steps = .ok (some chunks)
    ∧ InOrder text.length chunks
    ∧ ∀ start end_ : Nat, ((start : Int), (end_ : Int)) ∈ chunks.map ChunkRecord.bounds →
        ¬ InsideMarker text.toList start ∧ ¬ InsideMarker text.toList end_

/-- The chunks of a text follow the rules for its type. -/
structure FollowsRules (ext : Externals) (docId text mime : String) (cfg : ChunkingConfigV1) :
    Prop where
  markup : IsMarkup mime → SplitsMarkup ext docId text mime cfg
  pdf : mime = "application/pdf" → cfg.pdf.respectMarkers = true →
    RespectsMarkers ext docId text cfg

/-! ### Where the sizes cut a text -/

/-- A cut at the limit is where the rules would split. -/
def CutsWell (text : List Char) (start limit : Nat) : Prop :=
  IsPreferred text limit
    ∨ (∀ p, start < p → p < limit → ¬ IsPreferred text p)
      ∧ (IsSentenceEnd text limit ∨ ∀ p, start < p → p < limit → ¬ IsSentenceEnd text p)

/-- The multiples of the greatest size, as far as a chunk of the least size is left, are good
places to cut. -/
def MdHtmlChunkCfg.CutsWell (cfg : MdHtmlChunkCfg) (text : String) : Prop :=
  ∀ k, (k + 1) * cfg.greatest + cfg.least ≤ text.length →
    Chunking.CutsWell text.toList (k * cfg.greatest) ((k + 1) * cfg.greatest)

/-- The windows that end within the text, and those that come after them, leave the lines that
mark pages alone. -/
def PdfChunkCfg.MissesMarkers (cfg : PdfChunkCfg) (text : String) : Prop :=
  ∀ k, k * cfg.stride + cfg.window < text.length →
    ¬ InsideMarker text.toList (k * cfg.stride + cfg.window)
      ∧ ¬ InsideMarker text.toList ((k + 1) * cfg.stride)

theorem latest_limit {P : Nat → Prop} {start limit : Nat} (hlt : start < limit) :
  Latest P start limit limit ↔ P limit
  := by
  constructor
  · rintro ⟨-, -, h, -⟩
    exact h
  · intro h
    refine ⟨hlt, le_refl _, h, ?_⟩
    intro p hp hp'
    omega

theorem nowhere_iff {P : Nat → Prop} {start limit : Nat} (hlt : start < limit) :
  Nowhere P start limit ↔ (∀ p, start < p → p < limit → ¬ P p) ∧ ¬ P limit
  := by
  constructor
  · intro h
    use fun p hp hp' => h p hp hp'.le
    exact h limit hlt (le_refl _)
  · rintro ⟨hinside, hlimit⟩ p hp hp'
    obtain rfl | hp' := Nat.eq_or_lt_of_le hp'
    · exact hlimit
    · exact hinside p hp hp'

/-- A chunk that is cut at the limit is split well if the limit is a good place to cut. -/
theorem splitsWell_limit {text : List Char} {start limit : Nat} (hlt : start < limit) :
  SplitsWell text start limit limit ↔ CutsWell text start limit
  := by
  simp only [SplitsWell, CutsWell, latest_limit hlt, nowhere_iff hlt, and_true]
  tauto

theorem lineAt_length_le {text : List Char} {q : Nat} (hq : q ≤ text.length) :
  q + (lineAt text q).length ≤ text.length
  := by
  have hle : (lineAt text q).length ≤ (text.drop q).length := (List.takeWhile_prefix _).length_le
  rw [List.length_drop] at hle
  omega

theorem not_insideMarker_zero (text : List Char) : ¬ InsideMarker text 0 := by
  rintro ⟨q, -, -, hlt, -⟩
  omega

theorem not_insideMarker_length (text : List Char) : ¬ InsideMarker text text.length := by
  rintro ⟨q, -, -, hlt, hlt'⟩
  have := lineAt_length_le hlt.le
  omega

/-! ### Which texts are split by the rules -/

variable {ext : Externals} {docId text mime : String} {cfg : ChunkingConfigV1}

/-- The chunks before the last one are those between the multiples of the greatest size. -/
theorem splitsWell_iff_of_run {cfg : MdHtmlChunkCfg} {chunks : List ChunkRecord}
    (hrun : Strides.Run (text.length - cfg.greatest - cfg.least + 1) cfg.greatest cfg.greatest
      text.length 0 (chunks.map ChunkRecord.bounds)) :
  (∀ start end_ : Nat, ((start : Int), (end_ : Int)) ∈ (chunks.map ChunkRecord.bounds).dropLast →
      SplitsWell text.toList start (start + cfg.greatest) end_)
    ↔ cfg.CutsWell text
  := by
  have hone := cfg.one_le_least
  have hle := cfg.least_le_greatest
  simp only [hrun.mem_dropLast (by omega), Int.zero_add, Prod.mk.injEq]
  constructor
  · intro h k hk
    rw [Nat.succ_mul] at hk ⊢
    rw [← splitsWell_limit (by omega)]
    apply h
    use k
    push_cast
    omega
  · rintro h start end_ ⟨k, hk, hstart, hend⟩
    have hmul : ((k * cfg.greatest : Nat) : Int) = k * cfg.greatest := by
      push_cast
      rfl
    obtain rfl : start = k * cfg.greatest := by omega
    obtain rfl : end_ = k * cfg.greatest + cfg.greatest := by omega
    have hgood := h k (by rw [Nat.succ_mul]; omega)
    rw [Nat.succ_mul] at hgood
    exact (splitsWell_limit (by omega)).mpr hgood

/-- The chunks of marked-up text are split by the rules exactly if the sizes go with its length
and cut it at good places. -/
theorem splitsMarkup_iff (hv : cfg.v = 1) (hlen : text.length < 2 ^ 63)
    (hmime : mime ≠ "application/pdf") :
  SplitsMarkup ext docId text mime cfg
    ↔ text.length = 0 ∨ cfg.Fits mime text.length ∧ cfg.mdHtml.CutsWell text
  := by
  obtain hempty | hpos := Nat.eq_zero_or_pos text.length
  · apply iff_of_true _ (Or.inl hempty)
    use 0, [], by rw [chunkDocument_eq_ok hv hlen, if_pos hempty]
    exact ⟨⟨by simp, List.Pairwise.nil⟩, by simp⟩
  have hone := cfg.mdHtml.one_le_least
  have hle := cfg.mdHtml.least_le_greatest
  constructor
  · rintro ⟨steps, chunks, h, horder, hsplits⟩
    right
    have hfits := fits_of_inOrder hv hlen hpos h horder
    use hfits
    rw [ChunkingConfigV1.Fits, if_neg hmime] at hfits
    obtain ⟨steps', chunks', h', hrun⟩ := chunkDocument_text hv hlen hpos hmime hfits
    rw [← chunkDocument_unique hv hlen h h'] at hrun
    exact (splitsWell_iff_of_run hrun).mp hsplits
  · rintro (hempty | ⟨hfits, hgood⟩)
    · omega
    rw [ChunkingConfigV1.Fits, if_neg hmime] at hfits
    obtain ⟨steps, chunks, h, hrun⟩ := chunkDocument_text hv hlen hpos hmime hfits
    use steps, chunks, h
    constructor
    · apply inOrder_of_run hpos _ _ _ hrun <;> omega
    · exact (splitsWell_iff_of_run hrun).mpr hgood

/-- The windows other than the last one end where the sizes say, and the others than the first
one start a stride after one of these. -/
theorem not_insideMarker_iff_of_run {cfg : PdfChunkCfg} {chunks : List ChunkRecord}
    (hrun : Strides.Run (text.length - cfg.window) cfg.window cfg.stride text.length 0
      (chunks.map ChunkRecord.bounds)) :
  (∀ start end_ : Nat, ((start : Int), (end_ : Int)) ∈ chunks.map ChunkRecord.bounds →
      ¬ InsideMarker text.toList start ∧ ¬ InsideMarker text.toList end_)
    ↔ cfg.MissesMarkers text
  := by
  have hone := cfg.one_le_stride
  have hmul (k : Nat) : (k : Int) * cfg.stride = (k * cfg.stride : Nat) := by
    push_cast
    rfl
  simp only [hrun.mem_iff (by omega), Int.zero_add, Prod.mk.injEq, hmul]
  constructor
  · intro h k hk
    constructor
    · have hrange := h (k * cfg.stride) (k * cfg.stride + cfg.window)
        ⟨k, ?_, rfl, by rw [if_pos (by omega)]; push_cast; rfl⟩
      · exact hrange.2
      · cases k with
        | zero => exact Or.inl rfl
        | succ k =>
          right
          rw [Nat.succ_mul] at hk
          rw [Nat.add_sub_cancel]
          omega
    · have hnext : ∃ end_ : Nat, (end_ : Int)
          = if ((k + 1) * cfg.stride : Nat) < (text.length : Int) - cfg.window then
              (((k + 1) * cfg.stride : Nat) : Int) + cfg.window else text.length := by
        split
        · exact ⟨(k + 1) * cfg.stride + cfg.window, by push_cast; rfl⟩
        · exact ⟨text.length, rfl⟩
      obtain ⟨end_, hend⟩ := hnext
      exact (h _ end_ ⟨k + 1, Or.inr (by rw [Nat.add_sub_cancel]; omega), rfl, hend⟩).1
  · rintro h start end_ ⟨k, hk, hstart, hend⟩
    rw [Int.natCast_inj] at hstart
    subst hstart
    constructor
    · cases k with
      | zero =>
        rw [Nat.zero_mul]
        apply not_insideMarker_zero
      | succ k =>
        obtain hk | hk := hk
        · cases hk
        · rw [Nat.add_sub_cancel] at hk
          exact (h k (by omega)).2
    · split at hend
      · next hin =>
        obtain rfl : end_ = k * cfg.stride + cfg.window := by omega
        exact (h k (by omega)).1
      · obtain rfl : end_ = text.length := by omega
        rw [← String.length_toList]
        apply not_insideMarker_length

/-- The chunks of a PDF respect its markers exactly if the sizes go with its length and the
windows miss the markers. -/
theorem respectsMarkers_iff (hv : cfg.v = 1) (hlen : text.length < 2 ^ 63) :
  RespectsMarkers ext docId text cfg
    ↔ text.length = 0 ∨ cfg.pdf.Fits text.length ∧ cfg.pdf.MissesMarkers text
  := by
  obtain hempty | hpos := Nat.eq_zero_or_pos text.length
  · apply iff_of_true _ (Or.inl hempty)
    use 0, [], by rw [chunkDocument_eq_ok hv hlen, if_pos hempty]
    exact ⟨⟨by simp, List.Pairwise.nil⟩, by simp⟩
  have hone := cfg.pdf.one_le_stride
  have hle := cfg.pdf.stride_le_window
  constructor
  · rintro ⟨steps, chunks, h, horder, hmisses⟩
    right
    have hfits := fits_of_inOrder hv hlen hpos h horder
    rw [ChunkingConfigV1.Fits, if_pos rfl] at hfits
    use hfits
    obtain ⟨steps', chunks', h', hrun⟩ := chunkDocument_pdf hv hlen hpos hfits
    rw [← chunkDocument_unique hv hlen h h'] at hrun
    exact (not_insideMarker_iff_of_run hrun).mp hmisses
  · rintro (hempty | ⟨hfits, hmisses⟩)
    · omega
    obtain ⟨steps, chunks, h, hrun⟩ := chunkDocument_pdf hv hlen hpos hfits
    use steps, chunks, h
    constructor
    · apply inOrder_of_run hpos _ _ _ hrun <;> omega
    · exact (not_insideMarker_iff_of_run hrun).mpr hmisses

/-- The chunks of a text follow the rules for its type exactly if the sizes go with its length
and cut it at good places. -/
theorem chunkDocument_followsRules_iff (ext : Externals) (docId text mime : String)
    (cfg : ChunkingConfigV1) (hv : cfg.v = 1) (hlen : text.length < 2 ^ 63) :
  FollowsRules ext docId text mime cfg
    ↔ (IsMarkup mime → text.length = 0 ∨ cfg.Fits mime text.length ∧ cfg.mdHtml.CutsWell text)
      ∧ (mime = "application/pdf" → cfg.pdf.respectMarkers = true →
          text.length = 0 ∨ cfg.pdf.Fits text.length ∧ cfg.pdf.MissesMarkers text)
  := by
  have hmime (hmarkup : IsMarkup mime) : mime ≠ "application/pdf" := by
    obtain rfl | rfl := hmarkup <;> decide
  constructor
  · rintro ⟨hmarkup, hpdf⟩
    constructor
    · intro h
      exact (splitsMarkup_iff hv hlen (hmime h)).mp (hmarkup h)
    · intro h hrespect
      exact (respectsMarkers_iff hv hlen).mp (hpdf h hrespect)
  · rintro ⟨hmarkup, hpdf⟩
    constructor
    · intro h
      exact (splitsMarkup_iff hv hlen (hmime h)).mpr (hmarkup h)
    · intro h hrespect
      exact (respectsMarkers_iff hv hlen).mpr (hpdf h hrespect)

/-- A text of one chunk follows the rules. -/
theorem chunkDocument_followsRules_default :
  FollowsRules Sample.ext "blake3:01" "A text of a few words." "text/markdown"
    defaultChunkingConfigV1
  := by
  apply (chunkDocument_followsRules_iff Sample.ext "blake3:01" "A text of a few words."
    "text/markdown" defaultChunkingConfigV1 rfl (by decide)).mpr
  have hlength : "A text of a few words.".length = 22 := by decide
  have hgreatest : defaultChunkingConfigV1.mdHtml.greatest = 1200 := by decide
  constructor
  · intro _
    right
    constructor
    · rw [ChunkingConfigV1.Fits, if_neg (by decide), hgreatest]
      left
      decide
    · intro k hk
      rw [hgreatest, hlength] at hk
      omega
  · intro hpdf
    exact absurd hpdf (by decide)

/-- Chunks of six characters, and windows of four. -/
def Sample.shortConfig : ChunkingConfigV1 where
  v := 1
  mdHtml := { maxChars := 6, minChars := 1 }
  pdf := { windowChars := 4, overlapChars := 1, respectMarkers := true }

/-- A chunk of marked-up text ends within a word though a sentence ended before, and one of a PDF
ends within the marker of a page. -/
theorem short_chunks_cut_words :
  ¬ FollowsRules Sample.ext "blake3:01" "Aa. Bb cc" "text/markdown" Sample.shortConfig
    ∧ ¬ FollowsRules Sample.ext "blake3:01" "[[PAGE:0001]]\nWords." "application/pdf"
      Sample.shortConfig
  := by
  constructor
  · intro h
    obtain hempty | ⟨-, hgood⟩ := (splitsMarkup_iff rfl (by decide) (by decide)).mp
      (h.markup (Or.inl rfl))
    · revert hempty
      decide
    have hcut : CutsWell "Aa. Bb cc".toList 0 6 := hgood 0 (by decide)
    have hpreferred : ¬ IsPreferred "Aa. Bb cc".toList 6 := by
      simp [IsPreferred, IsHeading, IsBlankLine, IsLineStart]
    have hsentence : IsSentenceEnd "Aa. Bb cc".toList 3 := by
      simp [IsSentenceEnd, Char.isWhitespace]
    obtain h | ⟨-, h | h⟩ := hcut
    · exact hpreferred h
    · revert h
      simp [IsSentenceEnd]
    · exact h 3 (by decide) (by decide) hsentence
  · intro h
    obtain hempty | ⟨-, hmisses⟩ := (respectsMarkers_iff rfl (by decide)).mp (h.pdf rfl rfl)
    · revert hempty
      decide
    apply (hmisses 0 (by decide)).1
    refine ⟨0, Or.inl rfl, by decide, by decide, by decide⟩

end Chunking

end KnowledgeCore
