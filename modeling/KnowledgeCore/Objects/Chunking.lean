import KnowledgeCore.Lib.Signed
import KnowledgeCore.Lib.Tiling
import KnowledgeCore.Objects.Locator

/-!
# Chunking

A canonical text is cut into chunks, which are ranges of its characters. The chunks of a PDF are
windows that overlap. Those of any other text follow each other, and a remainder that is too
short for a chunk of its own belongs to the last one.
-/

namespace KnowledgeCore

namespace Chunking

open Signed

structure MdHtmlChunkCfg where
  maxChars : UInt64
  minChars : UInt64

structure PdfChunkCfg where
  windowChars : UInt64
  overlapChars : UInt64
  respectMarkers : Bool

structure ChunkingConfigV1 where
  v : Int64
  mdHtml : MdHtmlChunkCfg
  pdf : PdfChunkCfg

structure ChunkRecord where
  chunkId : String
  docId : String
  ordinal : Int64
  startChar : Int64
  endChar : Int64
  chunkingConfigHash : String
deriving DecidableEq

def defaultChunkingConfigV1 : ChunkingConfigV1 where
  v := 1
  mdHtml := { maxChars := 1200, minChars := 350 }
  pdf := { windowChars := 1400, overlapChars := 200, respectMarkers := true }

def ChunkingConfigV1.toJson (cfg : ChunkingConfigV1) : Json :=
  .obj [("v", .int cfg.v.toInt),
    ("md_html", .obj [("max_chars", .int cfg.mdHtml.maxChars.toNat),
      ("min_chars", .int cfg.mdHtml.minChars.toNat)]),
    ("pdf", .obj [("window_chars", .int cfg.pdf.windowChars.toNat),
      ("overlap_chars", .int cfg.pdf.overlapChars.toNat),
      ("respect_markers", .bool cfg.pdf.respectMarkers)])]

/-- The manifest of an export names the hash of the default configuration. -/
example : defaultChunkingConfigV1.toJson = Export.defaultChunkingConfigV1 := rfl

def hashChunkingConfig (ext : Externals) (cfg : ChunkingConfigV1) : AppResult String := do
  let text ← Content.ofCanonical cfg.toJson
  .ok (blake3HexPrefixed ext text)

theorem hashChunkingConfig_eq (ext : Externals) (cfg : ChunkingConfigV1) :
  hashChunkingConfig ext cfg = .ok (blake3HexPrefixed ext (.json cfg.toJson 0))
  := by
  have hfloat : CanonJson.hasFloat cfg.toJson = false := by
    simp [ChunkingConfigV1.toJson, CanonJson.hasFloat, CanonJson.membersHaveFloat]
  rw [hashChunkingConfig, Content.ofCanonical_of_not_hasFloat hfloat]
  rfl

def buildChunkId (ext : Externals) (docId cfgHash : String) (ordinal start end_ : Int64) :
  String
  :=
  blake3HexPrefixed ext (.text ("kc.chunk.v1\n" ++ docId ++ "\n" ++ cfgHash ++ "\n"
    ++ toString ordinal.toInt ++ "\n" ++ toString start.toInt ++ ":" ++ toString end_.toInt))

/-- The chunk of a range. -/
def chunkRecord (ext : Externals) (docId cfgHash : String) (ordinal start end_ : Int64) :
  ChunkRecord
  where
  chunkId := buildChunkId ext docId cfgHash ordinal start end_
  docId := docId
  ordinal := ordinal
  startChar := start
  endChar := end_
  chunkingConfigHash := cfgHash

/-- How a loop goes through a text: where a chunk that starts at a position ends, and where the
next one starts. -/
structure Pace where
  endOf : Int64 → Int64
  next : (start end_ : Int64) → Int64

/-- The loop over the chunks of a text, from a start on, or nothing when it makes more steps
than it may. -/
def chunksFrom (record : (ordinal start end_ : Int64) → ChunkRecord) (pace : Pace)
    (total : Int64) : Nat → (start ordinal : Int64) → Option (List ChunkRecord)
  | 0, start, _ => if start < total then none else some []
  | steps + 1, start, ordinal =>
    if start < total then
      let end_ := pace.endOf start
      let chunk := record ordinal start end_
      if end_ = total then
        some [chunk]
      else
        (chunksFrom record pace total steps (pace.next start end_) (ordinal + 1)).map (chunk :: ·)
    else
      some []

/-! ### The loops -/

def pdfWindow (cfg : PdfChunkCfg) : Int64 :=
  (max cfg.windowChars 1).toInt64

def saturatingSub (a b : UInt64) : UInt64 :=
  if a < b then 0 else a - b

/-- The overlap of the windows, which is smaller than a window. -/
def pdfOverlap (cfg : PdfChunkCfg) : Int64 :=
  (min cfg.overlapChars (saturatingSub cfg.windowChars 1)).toInt64

/-- The windows of a PDF. -/
def pdfPace (cfg : PdfChunkCfg) (total : Int64) : Pace where
  endOf start := min (start + pdfWindow cfg) total
  next start _ := start + max (pdfWindow cfg - pdfOverlap cfg) 1

def textMax (cfg : MdHtmlChunkCfg) : Int64 :=
  (max cfg.maxChars 1).toInt64

/-- The least size of a chunk, which is no larger than the greatest one. -/
def textMin (cfg : MdHtmlChunkCfg) : Int64 :=
  (max (min cfg.minChars cfg.maxChars) 1).toInt64

/-- The chunks of any other text. The last of them takes a short remainder along. -/
def textPace (cfg : MdHtmlChunkCfg) (total : Int64) : Pace where
  endOf start :=
    let end_ := min (start + textMax cfg) total
    if total - end_ < textMin cfg ∧ end_ ≠ total then total else end_
  next _ end_ := end_

/-- The chunks of a text, if there are no more steps to make than allowed. -/
def chunkDocument (ext : Externals) (docId canonicalText mime : String) (cfg : ChunkingConfigV1)
    (steps : Nat) : AppResult (Option (List ChunkRecord))
  :=
  if cfg.v ≠ 1 then
    .error {
      code := "KC_CHUNK_CONFIG_INVALID"
      category := "chunking"
      message := "unsupported chunking config version"
      details := .obj [("expected", .int 1), ("actual", .int cfg.v.toInt)] }
  else do
    let cfgHash ← hashChunkingConfig ext cfg
    let total := Int64.ofNat canonicalText.length
    let record := chunkRecord ext docId cfgHash
    if total = 0 then
      .ok (some [])
    else if mime = "application/pdf" then
      .ok (chunksFrom record (pdfPace cfg.pdf total) total steps 0 0)
    else
      .ok (chunksFrom record (textPace cfg.mdHtml total) total steps 0 0)

/-! ### Sizes -/

theorem toNat_saturatingSub (a b : UInt64) :
  (saturatingSub a b).toNat = a.toNat - b.toNat
  := by
  rw [saturatingSub]
  split
  · next hlt =>
    rw [UInt64.lt_iff_toNat_lt] at hlt
    rw [Nat.sub_eq_zero_of_le (Nat.le_of_lt hlt)]
    rfl
  · next hle =>
    rw [UInt64.lt_iff_toNat_lt] at hle
    apply UInt64.toNat_sub_of_le
    rw [UInt64.le_iff_toNat_le]
    omega

/-- The sizes of a configuration are numbers of 63 bits. -/
structure ChunkingConfigV1.Small (cfg : ChunkingConfigV1) : Prop where
  maxChars : cfg.mdHtml.maxChars.toNat < 2 ^ 63
  minChars : cfg.mdHtml.minChars.toNat < 2 ^ 63
  windowChars : cfg.pdf.windowChars.toNat < 2 ^ 63
  overlapChars : cfg.pdf.overlapChars.toNat < 2 ^ 63

/-- The window of a configuration, which is not empty. -/
def PdfChunkCfg.window (cfg : PdfChunkCfg) : Nat :=
  max cfg.windowChars.toNat 1

/-- The overlap of a configuration, which leaves something of a window. -/
def PdfChunkCfg.overlap (cfg : PdfChunkCfg) : Nat :=
  min cfg.overlapChars.toNat (cfg.windowChars.toNat - 1)

theorem PdfChunkCfg.overlap_lt_window (cfg : PdfChunkCfg) : cfg.overlap < cfg.window := by
  rw [PdfChunkCfg.overlap, PdfChunkCfg.window]
  omega

/-- The greatest size of a chunk, which is not zero. -/
def MdHtmlChunkCfg.greatest (cfg : MdHtmlChunkCfg) : Nat :=
  max cfg.maxChars.toNat 1

/-- The least size of a chunk, between one and the greatest size. -/
def MdHtmlChunkCfg.least (cfg : MdHtmlChunkCfg) : Nat :=
  max (min cfg.minChars.toNat cfg.maxChars.toNat) 1

theorem MdHtmlChunkCfg.one_le_least (cfg : MdHtmlChunkCfg) : 1 ≤ cfg.least := by
  apply le_max_right

theorem MdHtmlChunkCfg.least_le_greatest (cfg : MdHtmlChunkCfg) : cfg.least ≤ cfg.greatest := by
  rw [MdHtmlChunkCfg.least, MdHtmlChunkCfg.greatest]
  omega

section Sizes

variable {cfg : ChunkingConfigV1} (h : cfg.Small)

include h

theorem pdfWindow_eq :
  (pdfWindow cfg.pdf).toInt = cfg.pdf.window
  := by
  have hsmall := h.windowChars
  apply toInt_toInt64
  · apply toNat_max
  · rw [PdfChunkCfg.window]
    omega

theorem pdfOverlap_eq :
  (pdfOverlap cfg.pdf).toInt = cfg.pdf.overlap
  := by
  have hsmall := h.overlapChars
  apply toInt_toInt64
  · rw [toNat_min, toNat_saturatingSub]
    rfl
  · rw [PdfChunkCfg.overlap]
    omega

theorem textMax_eq :
  (textMax cfg.mdHtml).toInt = cfg.mdHtml.greatest
  := by
  have hsmall := h.maxChars
  apply toInt_toInt64
  · apply toNat_max
  · rw [MdHtmlChunkCfg.greatest]
    omega

theorem textMin_eq :
  (textMin cfg.mdHtml).toInt = cfg.mdHtml.least
  := by
  have hsmall := h.minChars
  apply toInt_toInt64
  · rw [toNat_max, toNat_min]
    rfl
  · rw [MdHtmlChunkCfg.least]
    omega

end Sizes

/-! ### The loops come to an end -/

/-- The range of a chunk. -/
def ChunkRecord.bounds (chunk : ChunkRecord) : Int × Int :=
  (chunk.startChar.toInt, chunk.endChar.toInt)

/-- The chunks are of a document, and numbered in order. -/
structure Numbered (docId : String) (first : Int) (chunks : List ChunkRecord) : Prop where
  docId : ∀ chunk ∈ chunks, chunk.docId = docId
  ordinal : ∀ (i : Nat) (chunk : ChunkRecord), chunks[i]? = some chunk →
    chunk.ordinal.toInt = first + i

theorem Numbered.cons {ext : Externals} {docId cfgHash : String} {ordinal start end_ : Int64}
    {chunks : List ChunkRecord} (h : Numbered docId (ordinal.toInt + 1) chunks) :
  Numbered docId ordinal.toInt (chunkRecord ext docId cfgHash ordinal start end_ :: chunks)
  := by
  constructor
  · intro chunk hmem
    cases hmem with
    | head => rfl
    | tail _ hmem => exact h.docId chunk hmem
  · intro i chunk hget
    cases i with
    | zero =>
      cases hget
      simp [chunkRecord]
    | succ i =>
      rw [List.getElem?_cons_succ] at hget
      rw [h.ordinal i chunk hget]
      omega

theorem numbered_nil (docId : String) (first : Int) : Numbered docId first [] := by
  constructor <;> simp

/-- A loop that gets on with every chunk comes to an end. What holds of the last chunk, and of
the chunks from one on if it holds of those from the next one on, holds of all the chunks. -/
theorem chunksFrom_run {record : Int64 → Int64 → Int64 → ChunkRecord} {pace : Pace}
    {total : Int64} {P : Int64 → Int64 → Prop} {Q : Int64 → Int64 → List ChunkRecord → Prop}
    (hlt : ∀ start ordinal, P start ordinal → start.toInt < total.toInt)
    (hlast : ∀ start ordinal, P start ordinal → pace.endOf start = total →
      Q start ordinal [record ordinal start total])
    (hstep : ∀ start ordinal, P start ordinal → pace.endOf start ≠ total →
      start.toInt < (pace.next start (pace.endOf start)).toInt
        ∧ P (pace.next start (pace.endOf start)) (ordinal + 1)
        ∧ ∀ rest, Q (pace.next start (pace.endOf start)) (ordinal + 1) rest →
          Q start ordinal (record ordinal start (pace.endOf start) :: rest))
    (steps : Nat) (start ordinal : Int64) (h : P start ordinal)
    (henough : total.toInt - start.toInt ≤ steps) :
  ∃ chunks, chunksFrom record pace total steps start ordinal = some chunks
    ∧ Q start ordinal chunks
  := by
  induction steps generalizing start ordinal with
  | zero =>
    have hstart := hlt start ordinal h
    exfalso
    omega
  | succ steps ih =>
    have hstart := hlt start ordinal h
    rw [chunksFrom, if_pos (Int64.lt_iff_toInt_lt.mpr hstart)]
    dsimp only
    split
    · next hend =>
      rw [hend]
      exact ⟨_, rfl, hlast start ordinal h hend⟩
    · next hend =>
      obtain ⟨hprogress, hnext, hcons⟩ := hstep start ordinal h hend
      obtain ⟨rest, hrest, hq⟩ := ih _ _ hnext (by omega)
      rw [hrest]
      exact ⟨_, rfl, hcons rest hq⟩

/-! ### Chunks that follow each other -/

/-- What is asked of the chunks of a text that is not a PDF: they tile the text, and their sizes
are within bounds. -/
structure Partitions (start total greatest least : Int) (chunks : List ChunkRecord) : Prop where
  tiles : Tiling.Tiles start (chunks.map ChunkRecord.bounds) total
  le : ∀ chunk ∈ chunks, chunk.endChar.toInt - chunk.startChar.toInt ≤ greatest + least - 1
  ge : ∀ chunk ∈ chunks, min least total ≤ chunk.endChar.toInt - chunk.startChar.toInt

theorem partitions_nil (total greatest least : Int) :
  Partitions total total greatest least []
  := by
  constructor
  · rfl
  · simp
  · simp

theorem Partitions.cons {ext : Externals} {docId cfgHash : String} {ordinal start end_ : Int64}
    {total greatest least : Int} {chunks : List ChunkRecord}
    (h : Partitions end_.toInt total greatest least chunks) (hlt : start.toInt < end_.toInt)
    (hle : end_.toInt - start.toInt ≤ greatest + least - 1)
    (hge : min least total ≤ end_.toInt - start.toInt) :
  Partitions start.toInt total greatest least
    (chunkRecord ext docId cfgHash ordinal start end_ :: chunks)
  := by
  constructor
  · exact ⟨rfl, hlt, h.tiles⟩
  · intro chunk hmem
    cases hmem with
    | head => exact hle
    | tail _ hmem => exact h.le chunk hmem
  · intro chunk hmem
    cases hmem with
    | head => exact hge
    | tail _ hmem => exact h.ge chunk hmem

section Text

variable {cfg : MdHtmlChunkCfg} {total : Int64} {greatest least : Nat}

/-- A chunk ends after the greatest size, or at the end of the text if little is left. -/
theorem textPace_endOf (hmax : (textMax cfg).toInt = greatest) (hmin : (textMin cfg).toInt = least)
    (hleast : 1 ≤ least) (hle : least ≤ greatest) {start : Int64} (hstart : 0 ≤ start.toInt)
    (hlt : start.toInt < total.toInt) :
  ((textPace cfg total).endOf start).toInt
    = if total.toInt < start.toInt + greatest + least then total.toInt
      else start.toInt + greatest
  := by
  have htotal := total.toInt_lt
  have hgreatest := (textMax cfg).toInt_lt
  rw [hmax] at hgreatest
  by_cases hover : start.toInt + greatest < 2 ^ 63
  · have hadd : (start + textMax cfg).toInt = start.toInt + greatest := by
      rw [toInt_add] <;> omega
    have hcut : (min (start + textMax cfg) total).toInt
        = min (start.toInt + greatest) total.toInt := by
      rw [toInt_min, hadd]
    have hleft : (total - min (start + textMax cfg) total).toInt
        = total.toInt - min (start.toInt + greatest) total.toInt := by
      rw [toInt_sub, hcut] <;> omega
    dsimp only [textPace]
    simp only [Int64.lt_iff_toInt_lt, hleft, hmin, ← Int64.toInt_inj, ne_eq, hcut,
      apply_ite Int64.toInt]
    grind
  · -- The sum wraps around, and the difference wraps back.
    have hadd : (start + textMax cfg).toInt = start.toInt + greatest - 2 ^ 64 := by
      rw [Int64.toInt_add, hmax, ← Int.sub_bmod_right _ (2 ^ 64)]
      apply Int.bmod_eq_of_le <;> omega
    have hcut : min (start + textMax cfg) total = start + textMax cfg := by
      rw [← Int64.toInt_inj, toInt_min, hadd]
      omega
    have hleft : (total - (start + textMax cfg)).toInt
        = total.toInt - (start.toInt + greatest) := by
      have hback : total.toInt - (start.toInt + greatest - 2 ^ 64)
          = total.toInt - (start.toInt + greatest) + (2 ^ 64 : Nat) := by omega
      rw [Int64.toInt_sub, hadd, hback, Int.add_bmod_right]
      apply Int.bmod_eq_of_le <;> omega
    have hne : start + textMax cfg ≠ total := by
      intro heq
      rw [← Int64.toInt_inj, hadd] at heq
      omega
    dsimp only [textPace]
    simp only [hcut, Int64.lt_iff_toInt_lt, hleft, hmin]
    rw [if_pos ⟨by omega, hne⟩, if_pos (by omega)]

theorem partitions_chunksFrom (ext : Externals) (docId cfgHash : String)
    (hmax : (textMax cfg).toInt = greatest) (hmin : (textMin cfg).toInt = least)
    (hleast : 1 ≤ least) (hle : least ≤ greatest) (hpos : 0 < total.toInt) {steps : Nat}
    (henough : total.toInt ≤ steps) :
  ∃ chunks, chunksFrom (chunkRecord ext docId cfgHash) (textPace cfg total) total steps 0 0
      = some chunks
    ∧ Numbered docId 0 chunks ∧ Partitions 0 total.toInt greatest least chunks
  := by
  apply chunksFrom_run
    (P := fun start ordinal => 0 ≤ ordinal.toInt ∧ ordinal.toInt ≤ start.toInt
      ∧ start.toInt < total.toInt ∧ (start.toInt = 0 ∨ start.toInt + least ≤ total.toInt))
    (Q := fun start ordinal chunks => Numbered docId ordinal.toInt chunks
      ∧ Partitions start.toInt total.toInt greatest least chunks)
  · rintro start ordinal ⟨-, -, hlt, -⟩
    exact hlt
  · rintro start ordinal ⟨hordinal, hstart, hlt, hleft⟩ hend
    have hendOf := textPace_endOf hmax hmin hleast hle (le_trans hordinal hstart) hlt
    rw [hend] at hendOf
    constructor
    · exact (numbered_nil docId _).cons
    · apply (partitions_nil _ _ _).cons hlt <;> grind
  · rintro start ordinal ⟨hordinal, hstart, hlt, hleft⟩ hend
    have hendOf := textPace_endOf hmax hmin hleast hle (le_trans hordinal hstart) hlt
    have htotal := total.toInt_lt
    have hne : ((textPace cfg total).endOf start).toInt ≠ total.toInt := by
      intro heq
      apply hend (Int64.toInt_inj.mp heq)
    have hnext : (ordinal + 1).toInt = ordinal.toInt + 1 := toInt_succ (by omega)
    have hroom : ¬ total.toInt < start.toInt + greatest + least := by
      intro hshort
      rw [if_pos hshort] at hendOf
      exact hne hendOf
    rw [if_neg hroom] at hendOf
    have hpace : (textPace cfg total).next start ((textPace cfg total).endOf start)
        = (textPace cfg total).endOf start := rfl
    rw [hpace, hnext]
    refine ⟨by omega, ⟨by omega, by omega, by omega, by omega⟩, ?_⟩
    rintro rest ⟨hnumbered, hrest⟩
    constructor
    · exact hnumbered.cons
    · apply hrest.cons <;> omega
  · exact ⟨le_refl _, le_refl _, hpos, Or.inl rfl⟩
  · have hzero : (0 : Int64).toInt = 0 := rfl
    omega

end Text

/-! ### Windows -/

/-- What is asked of the chunks of a PDF: windows at equal distances, from the start of the text to
its end, that skip no character. -/
structure Windows (start total window overlap : Int) (chunks : List ChunkRecord) : Prop where
  first : ∀ chunk ∈ chunks.head?, chunk.startChar.toInt = start
  last : ∀ chunk ∈ chunks.getLast?, chunk.endChar.toInt = total
  le : ∀ chunk ∈ chunks, chunk.endChar.toInt - chunk.startChar.toInt ≤ window
  apart : chunks.IsChain fun chunk next =>
    next.startChar.toInt - chunk.startChar.toInt = window - overlap
  covers : ∀ i, start ≤ i → i < total →
    ∃ chunk ∈ chunks, chunk.startChar.toInt ≤ i ∧ i < chunk.endChar.toInt

section Pdf

variable {ext : Externals} {docId cfgHash : String} {ordinal start end_ : Int64}
  {cfg : PdfChunkCfg} {total : Int64} {window overlap : Nat}

theorem windows_nil : Windows 0 0 window overlap [] := by
  constructor
  · simp
  · simp
  · simp
  · simp
  · intro i hlo hhi
    omega

theorem windows_singleton {total : Int} (hend : end_.toInt = total)
    (hle : total - start.toInt ≤ window) :
  Windows start.toInt total window overlap [chunkRecord ext docId cfgHash ordinal start end_]
  := by
  subst hend
  constructor
  · simp [chunkRecord]
  · simp [chunkRecord]
  · simpa [chunkRecord] using hle
  · simp
  · intro i hlo hhi
    exact ⟨_, List.mem_singleton_self _, hlo, hhi⟩

theorem Windows.cons {total next : Int} {chunks : List ChunkRecord}
    (h : Windows next total window overlap chunks) (hlt : next < total)
    (hend : end_.toInt = start.toInt + window) (hnext : next = start.toInt + (window - overlap)) :
  Windows start.toInt total window overlap
    (chunkRecord ext docId cfgHash ordinal start end_ :: chunks)
  := by
  have hchunks : chunks ≠ [] := by
    obtain ⟨chunk, hmem, -⟩ := h.covers next (le_refl _) hlt
    exact List.ne_nil_of_mem hmem
  constructor
  · simp [chunkRecord]
  · rw [List.getLast?_cons_of_ne_nil hchunks]
    exact h.last
  · intro chunk hmem
    cases hmem with
    | head =>
      dsimp only [chunkRecord]
      omega
    | tail _ hmem => exact h.le chunk hmem
  · obtain ⟨chunk, rest, rfl⟩ := List.exists_cons_of_ne_nil hchunks
    apply List.IsChain.cons_cons
    · rw [h.first chunk rfl]
      dsimp only [chunkRecord]
      omega
    · exact h.apart
  · intro i hlo hhi
    rcases lt_or_ge i end_.toInt with hin | hout
    · exact ⟨_, List.mem_cons_self, hlo, hin⟩
    · obtain ⟨chunk, hmem, hi⟩ := h.covers i (by omega) hhi
      exact ⟨chunk, List.mem_cons_of_mem _ hmem, hi⟩

theorem pdfPace_endOf (hwindow : (pdfWindow cfg).toInt = window) (hstart : 0 ≤ start.toInt)
    (hsum : start.toInt + window < 2 ^ 63) :
  ((pdfPace cfg total).endOf start).toInt = min (start.toInt + window) total.toInt
  := by
  have hadd : (start + pdfWindow cfg).toInt = start.toInt + window := by
    rw [toInt_add] <;> omega
  dsimp only [pdfPace]
  rw [toInt_min, hadd]

theorem pdfPace_next (hwindow : (pdfWindow cfg).toInt = window)
    (hoverlap : (pdfOverlap cfg).toInt = overlap) (hlt : overlap < window)
    (hstart : 0 ≤ start.toInt) (hsum : start.toInt + window < 2 ^ 63) :
  ((pdfPace cfg total).next start end_).toInt = start.toInt + (window - overlap)
  := by
  have hsub : (pdfWindow cfg - pdfOverlap cfg).toInt = window - overlap := by
    rw [toInt_sub] <;> omega
  have hstep : (max (pdfWindow cfg - pdfOverlap cfg) 1).toInt = window - overlap := by
    have hone : (1 : Int64).toInt = 1 := rfl
    rw [toInt_max, hsub, hone]
    omega
  dsimp only [pdfPace]
  rw [toInt_add, hstep] <;> omega

theorem windows_chunksFrom (ext : Externals) (docId cfgHash : String)
    (hwindow : (pdfWindow cfg).toInt = window) (hoverlap : (pdfOverlap cfg).toInt = overlap)
    (hlt : overlap < window) (hpos : 0 < total.toInt)
    (hfits : window < total.toInt → total.toInt + window < 2 ^ 63) {steps : Nat}
    (henough : total.toInt ≤ steps) :
  ∃ chunks, chunksFrom (chunkRecord ext docId cfgHash) (pdfPace cfg total) total steps 0 0
      = some chunks
    ∧ Numbered docId 0 chunks ∧ Windows 0 total.toInt window overlap chunks
  := by
  have hzero : (0 : Int64).toInt = 0 := rfl
  have hsmall := (pdfWindow cfg).toInt_lt
  apply chunksFrom_run
    (P := fun start ordinal => 0 ≤ ordinal.toInt ∧ ordinal.toInt ≤ start.toInt
      ∧ start.toInt < total.toInt ∧ start.toInt + window < 2 ^ 63)
    (Q := fun start ordinal chunks => Numbered docId ordinal.toInt chunks
      ∧ Windows start.toInt total.toInt window overlap chunks)
  · rintro start ordinal ⟨-, -, hstart, -⟩
    exact hstart
  · rintro start ordinal ⟨hordinal, hstart, hin, hsum⟩ hend
    have hendOf : ((pdfPace cfg total).endOf start).toInt
        = min (start.toInt + window) total.toInt :=
      pdfPace_endOf hwindow (le_trans hordinal hstart) hsum
    rw [hend] at hendOf
    use (numbered_nil docId _).cons
    apply windows_singleton rfl
    omega
  · rintro start ordinal ⟨hordinal, hstart, hin, hsum⟩ hend
    have hendOf : ((pdfPace cfg total).endOf start).toInt
        = min (start.toInt + window) total.toInt :=
      pdfPace_endOf hwindow (le_trans hordinal hstart) hsum
    have hnext : ((pdfPace cfg total).next start ((pdfPace cfg total).endOf start)).toInt
        = start.toInt + (window - overlap) :=
      pdfPace_next hwindow hoverlap hlt (le_trans hordinal hstart) hsum
    have hne : ((pdfPace cfg total).endOf start).toInt ≠ total.toInt := by
      intro heq
      apply hend (Int64.toInt_inj.mp heq)
    have hinside : start.toInt + window < total.toInt := by omega
    have hroom := hfits (by omega)
    rw [hnext, toInt_succ (by omega)]
    refine ⟨by omega, ⟨by omega, by omega, by omega, by omega⟩, ?_⟩
    rintro rest ⟨hnumbered, hwindows⟩
    use hnumbered.cons
    apply hwindows.cons
    · omega
    · omega
    · rfl
  · exact ⟨le_refl _, le_refl _, hpos, by omega⟩
  · omega

end Pdf

/-! ### The text of the chunks -/

/-- The locator of a chunk. -/
def locatorOf (canonicalHash : String) (chunk : ChunkRecord) : LocatorV1 where
  v := 1
  docId := chunk.docId
  canonicalHash := canonicalHash
  range := { start := chunk.startChar, end_ := chunk.endChar }

/-- The canonical text of a document is in the store. -/
def IsStored (ext : Externals) (db : Db) (store : ObjectStore) (files : Files)
    (docId canonicalHash text : String) : Prop
  :=
  ∃ row bytes, db.canonicalText[docId]? = some row ∧ row.canonicalHash = canonicalHash
    ∧ store.getBytes ext row.canonicalObjectHash files = .ok bytes
    ∧ String.fromUTF8? ⟨bytes.toArray⟩ = some text

/-- Wherever the text is stored, the chunks are resolved to parts that make it up. -/
def ResolvesToText (ext : Externals) (docId text : String) (chunks : List ChunkRecord) : Prop :=
  ∀ db store files canonicalHash, IsStored ext db store files docId canonicalHash text →
    ∃ parts, chunks.mapM
        (fun chunk => Locator.resolveLocatorStrict ext db store files
          (locatorOf canonicalHash chunk)) = .ok parts
      ∧ String.join parts = text

theorem slice_eq {text : String} (range : LocatorRange) (hlen : text.length < 2 ^ 63)
    (hstart : 0 ≤ range.start.toInt) (hlt : range.start.toInt < range.end_.toInt)
    (hend : range.end_.toInt ≤ text.length) :
  Locator.slice text range
    = .ok (String.ofList (Tiling.part text.toList (range.start.toInt, range.end_.toInt)))
  := by
  have htotal : (Int64.ofNat text.length).toInt = text.length := Int64.toInt_ofNat_of_lt hlen
  have hzero : (0 : Int64).toInt = 0 := rfl
  have hsub : (range.end_ - range.start).toInt = range.end_.toInt - range.start.toInt := by
    rw [toInt_sub] <;> omega
  have hbounds : ¬ (range.start < 0 ∨ range.end_ < range.start
      ∨ range.end_ > Int64.ofNat text.length) := by
    simp only [gt_iff_lt, Int64.lt_iff_toInt_lt, htotal, hzero]
    omega
  rw [Locator.slice]
  rw [if_neg hbounds, hsub, Tiling.part]

theorem mapM_eq_ok {α β : Type} {f : α → AppResult β} {g : α → β} {l : List α}
    (h : ∀ a ∈ l, f a = .ok (g a)) :
  l.mapM f = .ok (l.map g)
  := by
  induction l with
  | nil => rfl
  | cons a rest ih =>
    rw [List.mapM_cons, h a List.mem_cons_self, AppResult.ok_bind,
      ih fun b hb => h b (List.mem_cons_of_mem a hb), AppResult.ok_bind]
    rfl

/-- The parts along a tiling make up the text. -/
theorem resolvesToText_of_tiles {ext : Externals} {docId text : String}
    {chunks : List ChunkRecord} (hlen : text.length < 2 ^ 63)
    (hdoc : ∀ chunk ∈ chunks, chunk.docId = docId)
    (h : Tiling.Tiles 0 (chunks.map ChunkRecord.bounds) text.length) :
  ResolvesToText ext docId text chunks
  := by
  rintro db store files canonicalHash ⟨row, bytes, hrow, hhash, hbytes, htext⟩
  have hresolve (chunk : ChunkRecord) (hmem : chunk ∈ chunks) :
      Locator.resolveLocatorStrict ext db store files (locatorOf canonicalHash chunk)
        = .ok (String.ofList (Tiling.part text.toList chunk.bounds)) := by
    obtain ⟨hlo, hlt, hhi⟩ := h.bounds chunk.bounds (List.mem_map_of_mem hmem)
    apply Locator.resolveLocatorStrict_eq_ok.mpr
    refine ⟨rfl, row, bytes, text, ?_, hhash, hbytes, htext, ?_⟩
    · rw [locatorOf, hdoc chunk hmem]
      exact hrow
    · exact slice_eq (locatorOf canonicalHash chunk).range hlen hlo hlt hhi
  use chunks.map fun chunk => String.ofList (Tiling.part text.toList chunk.bounds)
  constructor
  · apply mapM_eq_ok hresolve
  · have hflatten := h.flatten_parts text.toList (le_refl 0)
    have hall : Tiling.part text.toList (0, text.length) = text.toList := Tiling.part_all _
    rw [hall, List.map_map] at hflatten
    rw [← String.toList_inj, String.toList_join, List.flatMap_map]
    simpa [List.flatMap_def, Function.comp_def] using hflatten

/-! ### The chunks cover the text -/

/-- What is asked of the chunks of a text. -/
structure Covers (ext : Externals) (docId text mime : String) (cfg : ChunkingConfigV1)
    (chunks : List ChunkRecord) : Prop where
  numbered : Numbered docId 0 chunks
  partitions : mime ≠ "application/pdf" →
    Partitions 0 text.length cfg.mdHtml.greatest cfg.mdHtml.least chunks
      ∧ ResolvesToText ext docId text chunks
  windows : mime = "application/pdf" →
    Windows 0 text.length cfg.pdf.window cfg.pdf.overlap chunks

/-- The text is cut into chunks that cover it, in no more steps than it has characters. -/
def CutsExactly (ext : Externals) (docId text mime : String) (cfg : ChunkingConfigV1) : Prop :=
  ∀ steps, text.length ≤ steps →
    ∃ chunks, chunkDocument ext docId text mime cfg steps = .ok (some chunks)
      ∧ Covers ext docId text mime cfg chunks

/-- A text is cut into chunks that cover it, if it is not longer than texts can be and the
positions in it can be added to a window. -/
theorem chunkDocument_covers (ext : Externals) (docId text mime : String)
    (cfg : ChunkingConfigV1) (hv : cfg.v = 1) (hsmall : cfg.Small) (hlen : text.length < 2 ^ 63)
    (hfits : mime = "application/pdf" → cfg.pdf.window < text.length →
      text.length + cfg.pdf.window < 2 ^ 63) :
  CutsExactly ext docId text mime cfg
  := by
  intro steps henough
  have htotal : (Int64.ofNat text.length).toInt = text.length := Int64.toInt_ofNat_of_lt hlen
  rw [chunkDocument, if_neg (not_not.mpr hv), hashChunkingConfig_eq]
  dsimp only [AppResult.ok_bind]
  by_cases hempty : text.length = 0
  · have hzero : Int64.ofNat text.length = 0 := by
      rw [hempty]
      rfl
    have htiles : Partitions 0 text.length cfg.mdHtml.greatest cfg.mdHtml.least [] := by
      rw [hempty]
      apply partitions_nil
    have hnumbered := numbered_nil docId 0
    rw [if_pos hzero]
    use [], rfl, hnumbered
    · intro _
      exact ⟨htiles, resolvesToText_of_tiles hlen hnumbered.docId htiles.tiles⟩
    · intro _
      rw [hempty]
      apply windows_nil
  · have hne : Int64.ofNat text.length ≠ 0 := by
      intro hzero
      rw [hzero] at htotal
      apply hempty (Int.natCast_eq_zero.mp htotal.symm)
    have hpos : 0 < (Int64.ofNat text.length).toInt := by omega
    have henough' : (Int64.ofNat text.length).toInt ≤ steps := by omega
    rw [if_neg hne]
    split
    · next hpdf =>
      obtain ⟨chunks, hchunks, hnumbered, hwindows⟩ := windows_chunksFrom ext docId
        (blake3HexPrefixed ext (.json cfg.toJson 0)) (pdfWindow_eq hsmall) (pdfOverlap_eq hsmall)
        cfg.pdf.overlap_lt_window hpos (by rw [htotal]; exact_mod_cast hfits hpdf) henough'
      rw [htotal] at hwindows
      use chunks, by rw [hchunks], hnumbered
      · intro hother
        exact absurd hpdf hother
      · intro _
        exact hwindows
    · next hother =>
      obtain ⟨chunks, hchunks, hnumbered, hpart⟩ := partitions_chunksFrom ext docId
        (blake3HexPrefixed ext (.json cfg.toJson 0)) (textMax_eq hsmall) (textMin_eq hsmall)
        cfg.mdHtml.one_le_least cfg.mdHtml.least_le_greatest hpos henough'
      rw [htotal] at hpart
      use chunks, by rw [hchunks], hnumbered
      · intro _
        exact ⟨hpart, resolvesToText_of_tiles hlen hnumbered.docId hpart.tiles⟩
      · intro hpdf
        exact absurd hpdf hother

theorem default_small : defaultChunkingConfigV1.Small := by
  constructor <;> decide

/-- The default windows cover a short text. -/
theorem chunkDocument_covers_default :
  CutsExactly Sample.ext "blake3:01" "A text of a few words." "application/pdf"
    defaultChunkingConfigV1
  := by
  apply chunkDocument_covers
  · rfl
  · apply default_small
  · decide
  · intro _ _
    decide

/-- Windows of a quarter of the positions there are. -/
def Sample.quarterConfig : ChunkingConfigV1 where
  v := 1
  mdHtml := { maxChars := 1200, minChars := 350 }
  pdf := { windowChars := 4611686018427387904, overlapChars := 0, respectMarkers := true }

/-- A text of a length. -/
def Sample.textOf (n : Nat) : String :=
  String.ofList (List.replicate n 'a')

theorem Sample.length_textOf (n : Nat) : (Sample.textOf n).length = n := by
  rw [Sample.textOf, String.length_ofList, List.length_replicate]

/-- A text that is one character longer than such a window. -/
def Sample.longText : String :=
  Sample.textOf (2 ^ 62 + 1)

/-- The positions at which the windows start, one after the other and again. -/
def Sample.quarters : List Int64 :=
  [0, 4611686018427387904, -9223372036854775808, -4611686018427387904]

theorem chunksFrom_quarters (ext : Externals) (docId cfgHash : String) (steps : Nat)
    (start ordinal : Int64) (h : start ∈ Sample.quarters) :
  chunksFrom (chunkRecord ext docId cfgHash) (pdfPace Sample.quarterConfig.pdf 4611686018427387905)
    4611686018427387905 steps start ordinal = none
  := by
  have hstep : ∀ s ∈ Sample.quarters, s < 4611686018427387905
      ∧ (pdfPace Sample.quarterConfig.pdf 4611686018427387905).endOf s ≠ 4611686018427387905
      ∧ (pdfPace Sample.quarterConfig.pdf 4611686018427387905).next s 0 ∈ Sample.quarters := by
    -- case by case, as a search through all positions would not end
    intro s hs
    simp only [Sample.quarters, List.mem_cons, List.not_mem_nil, or_false] at hs
    rcases hs with rfl | rfl | rfl | rfl <;> decide +kernel
  obtain ⟨hlt, hne, hnext⟩ := hstep start h
  induction steps generalizing start ordinal with
  | zero => rw [chunksFrom, if_pos hlt]
  | succ steps ih =>
    rw [chunksFrom, if_pos hlt]
    dsimp only
    rw [if_neg hne]
    obtain ⟨hlt', hne', hnext'⟩ := hstep _ hnext
    apply Option.map_eq_none_iff.mpr
    exact ih _ _ hnext hlt' hne' hnext'

/-- The position after the second window is more than a position can be, and the loop goes on. -/
theorem quarter_windows_never_end :
  Sample.quarterConfig.v = 1 ∧ Sample.quarterConfig.Small ∧ Sample.longText.length < 2 ^ 63
    ∧ ¬ CutsExactly Sample.ext "blake3:01" Sample.longText "application/pdf"
      Sample.quarterConfig
  := by
  have hlength : Sample.longText.length = 2 ^ 62 + 1 := Sample.length_textOf _
  use rfl, by constructor <;> decide, by rw [hlength]; decide
  intro hcuts
  obtain ⟨chunks, hchunks, -⟩ := hcuts _ (le_refl _)
  have htotal : Int64.ofNat (2 ^ 62 + 1) = 4611686018427387905 := by decide +kernel
  rw [chunkDocument, if_neg (by decide), hashChunkingConfig_eq, hlength, htotal] at hchunks
  dsimp only [AppResult.ok_bind] at hchunks
  rw [if_neg (by decide), if_pos rfl, chunksFrom_quarters _ _ _ _ _ _ (by decide)] at hchunks
  cases hchunks

end Chunking

end KnowledgeCore
