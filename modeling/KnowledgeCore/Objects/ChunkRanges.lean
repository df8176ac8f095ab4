import KnowledgeCore.Lib.Strides
import KnowledgeCore.Objects.Chunking

/-!
# The ranges of chunks

Which configurations cut every text into ranges of it that are not empty and start one after the
other. The sizes of a configuration are unsigned and the positions in a text are signed, so that
large sizes become negative ones.
-/

namespace KnowledgeCore

namespace Chunking

open Signed

/-! ### Results of the loop -/

section Loop

variable {record : Int64 → Int64 → Int64 → ChunkRecord} {pace : Pace} {total : Int64}

/-- What the loop makes from a start on is a chunk, and what it makes from the next start on. -/
theorem chunksFrom_eq_some {steps : Nat} {start ordinal : Int64} {chunks : List ChunkRecord}
    (hlt : start < total)
    (h : chunksFrom record pace total steps start ordinal = some chunks) :
  ∃ rest, chunks = record ordinal start (pace.endOf start) :: rest
    ∧ (pace.endOf start = total ∧ rest = []
      ∨ pace.endOf start ≠ total ∧ ∃ fewer, fewer < steps
        ∧ chunksFrom record pace total fewer (pace.next start (pace.endOf start)) (ordinal + 1)
          = some rest)
  := by
  cases steps with
  | zero =>
    rw [chunksFrom, if_pos hlt] at h
    cases h
  | succ steps =>
    rw [chunksFrom, if_pos hlt] at h
    dsimp only at h
    split at h
    · next hend =>
      cases h
      exact ⟨[], rfl, Or.inl ⟨hend, rfl⟩⟩
    · next hend =>
      obtain ⟨rest, hrest, rfl⟩ := Option.map_eq_some_iff.mp h
      exact ⟨rest, rfl, Or.inr ⟨hend, steps, Nat.lt_succ_self steps, hrest⟩⟩

theorem chunksFrom_of_not_lt {steps : Nat} {start ordinal : Int64} (h : ¬ start < total) :
  chunksFrom record pace total steps start ordinal = some []
  := by
  cases steps <;> rw [chunksFrom, if_neg h]

/-- The loop makes the same chunks, however many steps more it may make. -/
theorem chunksFrom_unique {steps steps' : Nat} {start ordinal : Int64}
    {chunks chunks' : List ChunkRecord}
    (h : chunksFrom record pace total steps start ordinal = some chunks)
    (h' : chunksFrom record pace total steps' start ordinal = some chunks') :
  chunks = chunks'
  := by
  induction steps using Nat.strong_induction_on generalizing steps' start ordinal chunks chunks' with
  | h steps ih =>
    by_cases hlt : start < total
    · obtain ⟨rest, rfl, hrest⟩ := chunksFrom_eq_some hlt h
      obtain ⟨rest', rfl, hrest'⟩ := chunksFrom_eq_some hlt h'
      congr 1
      obtain ⟨hend, rfl⟩ | ⟨hne, fewer, hfewer, hrest⟩ := hrest
      · obtain ⟨-, rfl⟩ | ⟨hne, -⟩ := hrest'
        · rfl
        · exact absurd hend hne
      · obtain ⟨hend, -⟩ | ⟨-, fewer', -, hrest'⟩ := hrest'
        · exact absurd hend hne
        · exact ih fewer hfewer hrest hrest'
    · rw [chunksFrom_of_not_lt hlt] at h h'
      rw [← Option.some_inj, ← h, h']

end Loop

/-- How the loop over a text goes through it. -/
def paceOf (mime : String) (cfg : ChunkingConfigV1) (total : Int64) : Pace :=
  if mime = "application/pdf" then pdfPace cfg.pdf total else textPace cfg.mdHtml total

variable {ext : Externals} {docId text mime : String} {cfg : ChunkingConfigV1}

theorem chunkDocument_eq_ok (hv : cfg.v = 1) (hlen : text.length < 2 ^ 63) {steps : Nat}
    {chunks : List ChunkRecord} :
  chunkDocument ext docId text mime cfg steps = .ok (some chunks)
    ↔ if text.length = 0 then chunks = [] else
      chunksFrom (chunkRecord ext docId (blake3HexPrefixed ext (.json cfg.toJson 0)))
        (paceOf mime cfg (Int64.ofNat text.length)) (Int64.ofNat text.length) steps 0 0
        = some chunks
  := by
  have htotal : (Int64.ofNat text.length).toInt = text.length := Int64.toInt_ofNat_of_lt hlen
  have hzero : Int64.ofNat text.length = 0 ↔ text.length = 0 := by
    have hzero : (0 : Int64).toInt = 0 := rfl
    rw [← Int64.toInt_inj, htotal, hzero]
    omega
  rw [chunkDocument, if_neg (not_not.mpr hv), hashChunkingConfig_eq]
  dsimp only [AppResult.ok_bind]
  simp only [hzero, paceOf]
  split
  · simp [eq_comm]
  · split <;> simp

theorem chunkDocument_unique (hv : cfg.v = 1) (hlen : text.length < 2 ^ 63) {steps steps' : Nat}
    {chunks chunks' : List ChunkRecord}
    (h : chunkDocument ext docId text mime cfg steps = .ok (some chunks))
    (h' : chunkDocument ext docId text mime cfg steps' = .ok (some chunks')) :
  chunks = chunks'
  := by
  rw [chunkDocument_eq_ok hv hlen] at h h'
  split at h
  · next hempty =>
    rw [if_pos hempty] at h'
    rw [h, h']
  · next hne =>
    rw [if_neg hne] at h'
    exact chunksFrom_unique h h'

/-! ### Sizes and positions -/

/-- The distance between the starts of two windows. -/
def PdfChunkCfg.stride (cfg : PdfChunkCfg) : Nat :=
  cfg.window - cfg.overlap

theorem PdfChunkCfg.one_le_stride (cfg : PdfChunkCfg) : 1 ≤ cfg.stride := by
  have := cfg.overlap_lt_window
  rw [PdfChunkCfg.stride]
  omega

theorem PdfChunkCfg.stride_le_window (cfg : PdfChunkCfg) : cfg.stride ≤ cfg.window := by
  apply Nat.sub_le

/-- Every window that the loop comes to ends at a position there is. -/
def PdfChunkCfg.Fits (cfg : PdfChunkCfg) (total : Nat) : Prop :=
  cfg.window < 2 ^ 63
    ∧ ∀ k, k * cfg.stride + cfg.window < total → (k + 1) * cfg.stride + cfg.window < 2 ^ 63

/-- The first chunk takes the whole text along, though the greatest size is not a position. -/
def MdHtmlChunkCfg.TakesAll (cfg : MdHtmlChunkCfg) (total : Nat) : Prop :=
  cfg.least < 2 ^ 63 ∧ cfg.greatest ≤ total + 2 ^ 63
    ∨ total + 2 ^ 64 < cfg.least + cfg.greatest
      ∧ (cfg.least < 2 ^ 63 ↔ total + 2 ^ 63 < cfg.greatest)

/-- The sizes of a configuration go with the length of a text. -/
def ChunkingConfigV1.Fits (cfg : ChunkingConfigV1) (mime : String) (total : Nat) : Prop :=
  if mime = "application/pdf" then
    cfg.pdf.Fits total
  else
    cfg.mdHtml.greatest < 2 ^ 63 ∨ cfg.mdHtml.TakesAll total

theorem pdfWindow_of_lt {cfg : PdfChunkCfg} (h : cfg.window < 2 ^ 63) :
  (pdfWindow cfg).toInt = cfg.window
  := by
  apply toInt_toInt64 _ h
  apply toNat_max

theorem pdfOverlap_of_lt {cfg : PdfChunkCfg} (h : cfg.overlap < 2 ^ 63) :
  (pdfOverlap cfg).toInt = cfg.overlap
  := by
  apply toInt_toInt64 _ h
  rw [toNat_min, toNat_saturatingSub]
  rfl

theorem textMax_of_lt {cfg : MdHtmlChunkCfg} (h : cfg.greatest < 2 ^ 63) :
  (textMax cfg).toInt = cfg.greatest
  := by
  apply toInt_toInt64 _ h
  apply toNat_max

theorem toNat_textMin (cfg : MdHtmlChunkCfg) :
  (max (min cfg.minChars cfg.maxChars) 1).toNat = cfg.least
  := by
  rw [toNat_max, toNat_min]
  rfl

theorem textMin_of_lt {cfg : MdHtmlChunkCfg} (h : cfg.least < 2 ^ 63) :
  (textMin cfg).toInt = cfg.least
  := by
  apply toInt_toInt64 (toNat_textMin cfg) h

theorem MdHtmlChunkCfg.greatest_lt (cfg : MdHtmlChunkCfg) : cfg.greatest < 2 ^ 64 := by
  have := cfg.maxChars.toNat_lt
  rw [MdHtmlChunkCfg.greatest]
  omega

/-! ### Sizes that fit -/

section Fits

variable {total : Int64} {n steps : Nat} (htotal : total.toInt = n) (hpos : 0 < n)
  (henough : n ≤ steps)

include htotal hpos henough

/-- The windows of a PDF, when all of them end at positions there are. -/
theorem run_pdfPace {cfg : PdfChunkCfg} (h : cfg.Fits n) (cfgHash : String) :
  ∃ chunks, chunksFrom (chunkRecord ext docId cfgHash) (pdfPace cfg total) total steps 0 0
      = some chunks
    ∧ Strides.Run (n - cfg.window) cfg.window cfg.stride n 0 (chunks.map ChunkRecord.bounds)
  := by
  obtain ⟨hsmall, hnext⟩ := h
  have hlt := cfg.overlap_lt_window
  have hwindow := pdfWindow_of_lt hsmall
  have hoverlap : (pdfOverlap cfg).toInt = cfg.overlap := pdfOverlap_of_lt (by omega)
  have hstride : (cfg.stride : Int) = cfg.window - cfg.overlap := by
    rw [PdfChunkCfg.stride]
    omega
  have hzero : (0 : Int64).toInt = 0 := rfl
  apply chunksFrom_run
    (P := fun start _ => ∃ k : Nat, start.toInt = (k * cfg.stride : Nat) ∧ start.toInt < n
      ∧ start.toInt + cfg.window < 2 ^ 63)
    (Q := fun start _ chunks => Strides.Run (n - cfg.window) cfg.window cfg.stride n start.toInt
      (chunks.map ChunkRecord.bounds))
  · rintro start - ⟨k, -, hin, -⟩
    rwa [htotal]
  · rintro start - ⟨k, hstart, hin, hsum⟩ hend
    have hendOf : ((pdfPace cfg total).endOf start).toInt = min (start.toInt + cfg.window) n := by
      rw [pdfPace_endOf hwindow (by omega) hsum, htotal]
    rw [hend, htotal] at hendOf
    simp only [List.map_cons, List.map_nil, ChunkRecord.bounds, chunkRecord, htotal]
    apply Strides.Run.last
    omega
  · rintro start - ⟨k, hstart, hin, hsum⟩ hend
    have hendOf : ((pdfPace cfg total).endOf start).toInt = min (start.toInt + cfg.window) n := by
      rw [pdfPace_endOf hwindow (by omega) hsum, htotal]
    have hinside : start.toInt + cfg.window < n := by
      by_contra hover
      apply hend
      rw [← Int64.toInt_inj, hendOf, htotal]
      omega
    have hnextOf : ((pdfPace cfg total).next start ((pdfPace cfg total).endOf start)).toInt
        = start.toInt + cfg.stride := by
      rw [hstride]
      exact pdfPace_next hwindow hoverlap hlt (by omega) hsum
    have hroom := hnext k (by omega)
    have hone := cfg.one_le_stride
    have hle := cfg.stride_le_window
    rw [Nat.succ_mul] at hroom
    rw [hnextOf]
    refine ⟨by omega, ⟨k + 1, ?_, by omega, by omega⟩, ?_⟩
    · rw [Nat.succ_mul]
      omega
    · intro rest hrest
      simp only [List.map_cons, ChunkRecord.bounds, chunkRecord, hendOf]
      rw [min_eq_left hinside.le]
      apply Strides.Run.next _ hrest
      omega
  · exact ⟨0, by simp [hzero], by omega, by omega⟩
  · omega

/-- The chunks of any other text, when the greatest size is a position. -/
theorem run_textPace {cfg : MdHtmlChunkCfg} (h : cfg.greatest < 2 ^ 63) (cfgHash : String) :
  ∃ chunks, chunksFrom (chunkRecord ext docId cfgHash) (textPace cfg total) total steps 0 0
      = some chunks
    ∧ Strides.Run (n - cfg.greatest - cfg.least + 1) cfg.greatest cfg.greatest n 0
        (chunks.map ChunkRecord.bounds)
  := by
  have hmax := textMax_of_lt h
  have hle := cfg.least_le_greatest
  have hleast := cfg.one_le_least
  have hmin : (textMin cfg).toInt = cfg.least := textMin_of_lt (by omega)
  have hzero : (0 : Int64).toInt = 0 := rfl
  apply chunksFrom_run
    (P := fun start _ => 0 ≤ start.toInt ∧ start.toInt < n)
    (Q := fun start _ chunks => Strides.Run (n - cfg.greatest - cfg.least + 1) cfg.greatest
      cfg.greatest n start.toInt (chunks.map ChunkRecord.bounds))
  · rintro start - ⟨-, hin⟩
    rwa [htotal]
  · rintro start - ⟨hstart, hin⟩ hend
    have hlt : start.toInt < total.toInt := by omega
    have hendOf := textPace_endOf hmax hmin hleast hle hstart hlt
    rw [hend, htotal] at hendOf
    simp only [List.map_cons, List.map_nil, ChunkRecord.bounds, chunkRecord, htotal]
    apply Strides.Run.last
    grind
  · rintro start - ⟨hstart, hin⟩ hend
    have hlt : start.toInt < total.toInt := by omega
    have hendOf := textPace_endOf hmax hmin hleast hle hstart hlt
    have hroom : ¬ total.toInt < start.toInt + cfg.greatest + cfg.least := by
      intro hshort
      rw [if_pos hshort] at hendOf
      exact hend (Int64.toInt_inj.mp hendOf)
    rw [if_neg hroom] at hendOf
    have hnextOf : (textPace cfg total).next start ((textPace cfg total).endOf start)
        = (textPace cfg total).endOf start := rfl
    rw [hnextOf, hendOf]
    refine ⟨by omega, ⟨by omega, by omega⟩, ?_⟩
    intro rest hrest
    simp only [List.map_cons, ChunkRecord.bounds, chunkRecord, hendOf]
    apply Strides.Run.next _ hrest
    omega
  · exact ⟨le_refl _, by omega⟩
  · omega

end Fits

/-! ### Sizes that do not fit -/

theorem pdfPace_endOf_neg {cfg : PdfChunkCfg} {total start : Int64}
    (h : (start + pdfWindow cfg).toInt < 0) :
  ((pdfPace cfg total).endOf start).toInt < 0
  := by
  dsimp only [pdfPace]
  rw [toInt_min]
  omega

section Overflow

variable {total : Int64} {n : Nat} (htotal : total.toInt = n)

include htotal

/-- The loop comes to the window whose end is not a position. -/
theorem exists_neg_of_overflow {cfg : PdfChunkCfg} {cfgHash : String}
    (hsmall : cfg.window < 2 ^ 63) {k : Nat} (hover : 2 ^ 63 ≤ k * cfg.stride + cfg.window)
    (hinside : ∀ j, j < k → j * cfg.stride + cfg.window < n) (left : Nat) {j steps : Nat}
    (hj : j + left = k) {start ordinal : Int64} (hstart : start.toInt = (j * cfg.stride : Nat))
    (hlt : start.toInt < n) {chunks : List ChunkRecord}
    (h : chunksFrom (chunkRecord ext docId cfgHash) (pdfPace cfg total) total steps start ordinal
      = some chunks) :
  ∃ chunk ∈ chunks, chunk.endChar.toInt < 0
  := by
  have hwindow := pdfWindow_of_lt hsmall
  have hn := total.toInt_lt
  induction left generalizing j steps start ordinal chunks with
  | zero =>
    rw [Nat.add_zero] at hj
    subst hj
    obtain ⟨rest, rfl, -⟩ := chunksFrom_eq_some (by rwa [Int64.lt_iff_toInt_lt, htotal]) h
    refine ⟨_, List.mem_cons_self, pdfPace_endOf_neg ?_⟩
    have hwindow' := (pdfWindow cfg).toInt_lt
    rw [toInt_add_of_le (by omega)]
    omega
  | succ left ih =>
    have hin := hinside j (by omega)
    have hsum : start.toInt + cfg.window < 2 ^ 63 := by omega
    have hendOf : ((pdfPace cfg total).endOf start).toInt = start.toInt + cfg.window := by
      rw [pdfPace_endOf hwindow (by omega) hsum, htotal]
      omega
    have hne : (pdfPace cfg total).endOf start ≠ total := by
      rw [ne_eq, ← Int64.toInt_inj, hendOf, htotal]
      omega
    obtain ⟨rest, rfl, ⟨hend, -⟩ | ⟨-, fewer, -, hfewer⟩⟩ :=
      chunksFrom_eq_some (by rwa [Int64.lt_iff_toInt_lt, htotal]) h
    · exact absurd hend hne
    · have hnext : ((pdfPace cfg total).next start ((pdfPace cfg total).endOf start)).toInt
          = ((j + 1) * cfg.stride : Nat) := by
        have hlt := cfg.overlap_lt_window
        rw [pdfPace_next hwindow (pdfOverlap_of_lt (by omega)) hlt (by omega) hsum, Nat.succ_mul,
          PdfChunkCfg.stride, hstart, PdfChunkCfg.stride]
        omega
      have hle := cfg.stride_le_window
      have hlt' : ((pdfPace cfg total).next start ((pdfPace cfg total).endOf start)).toInt < n := by
        rw [hnext, Nat.succ_mul]
        omega
      obtain ⟨chunk, hmem, hneg⟩ := ih (by omega) hnext hlt' hfewer
      exact ⟨chunk, List.mem_cons_of_mem _ hmem, hneg⟩

theorem exists_neg_of_not_fits {cfg : PdfChunkCfg} (hpos : 0 < n) (hfits : ¬ cfg.Fits n)
    {cfgHash : String} {steps : Nat} {chunks : List ChunkRecord}
    (h : chunksFrom (chunkRecord ext docId cfgHash) (pdfPace cfg total) total steps 0 0
      = some chunks) :
  ∃ chunk ∈ chunks, chunk.endChar.toInt < 0
  := by
  have hzero : (0 : Int64).toInt = 0 := rfl
  by_cases hsmall : cfg.window < 2 ^ 63
  · obtain ⟨k, hin, hover⟩ : ∃ k, k * cfg.stride + cfg.window < n
        ∧ 2 ^ 63 ≤ (k + 1) * cfg.stride + cfg.window := by
      by_contra hnone
      apply hfits
      use hsmall
      intro k hin
      by_contra hover
      exact hnone ⟨k, hin, by omega⟩
    apply exists_neg_of_overflow htotal hsmall hover _ (k + 1) (Nat.zero_add _) _ _ h
    · intro j hj
      have := Nat.mul_le_mul_right cfg.stride (Nat.le_of_lt_succ hj)
      omega
    · simp [hzero]
    · omega
  · -- the window itself is negative
    obtain ⟨rest, rfl, -⟩ := chunksFrom_eq_some (by rw [Int64.lt_iff_toInt_lt]; omega) h
    refine ⟨_, List.mem_cons_self, pdfPace_endOf_neg ?_⟩
    have hwindow : (pdfWindow cfg).toInt = cfg.window - 2 ^ 64 :=
      toInt_toInt64_of_le (toNat_max _ _) (Nat.le_of_not_lt hsmall)
    have hbits : cfg.window < 2 ^ 64 := by
      have := cfg.windowChars.toNat_lt
      rw [PdfChunkCfg.window]
      omega
    rw [Int64.zero_add, hwindow]
    omega

/-- What is left of the text after a first chunk of a negative size. -/
theorem toInt_sub_textMax {cfg : MdHtmlChunkCfg} (hwide : 2 ^ 63 ≤ cfg.greatest) :
  (total - textMax cfg).toInt
    = if n + 2 ^ 63 < cfg.greatest then (n : Int) + 2 ^ 64 - cfg.greatest
      else (n : Int) - cfg.greatest
  := by
  have hlt := cfg.greatest_lt
  have hn := total.toInt_lt
  have hmax : (textMax cfg).toInt = cfg.greatest - 2 ^ 64 :=
    toInt_toInt64_of_le (toNat_max _ _) hwide
  rw [htotal] at hn
  rw [Int64.toInt_sub, hmax, htotal]
  split
  · rw [Int.bmod_eq_of_le] <;> omega
  · have hback : n - (cfg.greatest - 2 ^ 64 : Int) = n - cfg.greatest + (2 ^ 64 : Nat) := by omega
    rw [hback, Int.add_bmod_right, Int.bmod_eq_of_le] <;> omega

theorem textPace_takesAll_iff {cfg : MdHtmlChunkCfg} (hwide : 2 ^ 63 ≤ cfg.greatest) :
  total - textMax cfg < textMin cfg ↔ cfg.TakesAll n
  := by
  have hlt := cfg.greatest_lt
  have hle := cfg.least_le_greatest
  have hmin : (textMin cfg).toInt
      = if cfg.least < 2 ^ 63 then (cfg.least : Int) else cfg.least - 2 ^ 64 := by
    split
    · next hsmall => exact textMin_of_lt hsmall
    · next hlarge => exact toInt_toInt64_of_le (toNat_textMin cfg) (Nat.le_of_not_lt hlarge)
  have hone := cfg.one_le_least
  have hn := total.toInt_lt
  rw [htotal] at hn
  rw [Int64.lt_iff_toInt_lt, toInt_sub_textMax htotal hwide, hmin, MdHtmlChunkCfg.TakesAll]
  split_ifs <;> omega

/-- The first chunk of a negative size ends before the text, or takes all of it. -/
theorem textPace_endOf_zero {cfg : MdHtmlChunkCfg} (hwide : 2 ^ 63 ≤ cfg.greatest) :
  cfg.TakesAll n ∧ (textPace cfg total).endOf 0 = total
    ∨ ¬ cfg.TakesAll n ∧ ((textPace cfg total).endOf 0).toInt < 0
  := by
  have hlt := cfg.greatest_lt
  have hmax : (textMax cfg).toInt = cfg.greatest - 2 ^ 64 :=
    toInt_toInt64_of_le (toNat_max _ _) hwide
  have hcut : min (0 + textMax cfg) total = textMax cfg := by
    rw [Int64.zero_add, ← Int64.toInt_inj, toInt_min]
    omega
  have hne : textMax cfg ≠ total := by
    rw [ne_eq, ← Int64.toInt_inj]
    omega
  dsimp only [textPace]
  rw [hcut]
  have htakes := textPace_takesAll_iff htotal hwide
  by_cases h : cfg.TakesAll n
  · left
    exact ⟨h, if_pos ⟨htakes.mpr h, hne⟩⟩
  · right
    rw [if_neg (fun hboth => h (htakes.mp hboth.1)), hmax]
    exact ⟨h, by omega⟩

end Overflow

/-! ### Which texts are cut into ranges -/

/-- The chunks are ranges of a text that are not empty and start one after the other. -/
def InOrder (total : Nat) (chunks : List ChunkRecord) : Prop :=
  Strides.Increasing 0 total (chunks.map ChunkRecord.bounds)

theorem inOrder_of_run {n : Nat} {limit len stride : Int} {chunks : List ChunkRecord}
    (hpos : 0 < n) (hstride : 0 < stride) (hle : stride ≤ len) (hlimit : limit + len ≤ n)
    (h : Strides.Run limit len stride n 0 (chunks.map ChunkRecord.bounds)) :
  InOrder n chunks
  := by
  apply h.increasing hstride hle hlimit
  omega

theorem InOrder.end_pos {total : Nat} {chunks : List ChunkRecord} (h : InOrder total chunks) :
  ∀ chunk ∈ chunks, ¬ chunk.endChar.toInt < 0
  := by
  intro chunk hmem
  obtain ⟨hlo, hlt, -⟩ := h.bounds chunk.bounds (List.mem_map_of_mem hmem)
  simp only [ChunkRecord.bounds] at hlo hlt
  omega

/-- Chunks in order are made of a text that is not empty only with sizes that go with it. -/
theorem fits_of_inOrder (hv : cfg.v = 1) (hlen : text.length < 2 ^ 63) (hpos : 0 < text.length)
    {steps : Nat} {chunks : List ChunkRecord}
    (h : chunkDocument ext docId text mime cfg steps = .ok (some chunks))
    (horder : InOrder text.length chunks) :
  cfg.Fits mime text.length
  := by
  have htotal : (Int64.ofNat text.length).toInt = text.length := Int64.toInt_ofNat_of_lt hlen
  have hzero : (0 : Int64).toInt = 0 := rfl
  rw [chunkDocument_eq_ok hv hlen, if_neg (Nat.ne_of_gt hpos), paceOf] at h
  rw [ChunkingConfigV1.Fits]
  by_cases hpdf : mime = "application/pdf"
  · rw [if_pos hpdf] at h ⊢
    by_contra hfits
    obtain ⟨chunk, hmem, hneg⟩ := exists_neg_of_not_fits htotal hpos hfits h
    exact horder.end_pos chunk hmem hneg
  · rw [if_neg hpdf] at h ⊢
    by_cases hsmall : cfg.mdHtml.greatest < 2 ^ 63
    · left
      exact hsmall
    · right
      obtain ⟨htakes, -⟩ | ⟨-, hneg⟩ := textPace_endOf_zero htotal (Nat.le_of_not_lt hsmall)
      · exact htakes
      · obtain ⟨rest, rfl, -⟩ := chunksFrom_eq_some (by rw [Int64.lt_iff_toInt_lt]; omega) h
        have hend := horder.end_pos _ List.mem_cons_self
        rw [chunkRecord] at hend
        exact absurd hneg hend

/-- The chunks of a PDF are windows at equal distances. -/
theorem chunkDocument_pdf (hv : cfg.v = 1) (hlen : text.length < 2 ^ 63)
    (hpos : 0 < text.length) (hfits : cfg.pdf.Fits text.length) :
  ∃ steps chunks, chunkDocument ext docId text "application/pdf" cfg steps = .ok (some chunks)
    ∧ Strides.Run (text.length - cfg.pdf.window) cfg.pdf.window cfg.pdf.stride text.length 0
        (chunks.map ChunkRecord.bounds)
  := by
  have htotal : (Int64.ofNat text.length).toInt = text.length := Int64.toInt_ofNat_of_lt hlen
  obtain ⟨chunks, hchunks, hrun⟩ := @run_pdfPace ext docId _ _ _ htotal hpos (le_refl _) _ hfits
    (blake3HexPrefixed ext (.json cfg.toJson 0))
  use text.length, chunks
  rw [chunkDocument_eq_ok hv hlen, if_neg (Nat.ne_of_gt hpos), paceOf, if_pos rfl]
  exact ⟨hchunks, hrun⟩

/-- The chunks of any other text follow each other. -/
theorem chunkDocument_text (hv : cfg.v = 1) (hlen : text.length < 2 ^ 63)
    (hpos : 0 < text.length) (hmime : mime ≠ "application/pdf")
    (hfits : cfg.mdHtml.greatest < 2 ^ 63 ∨ cfg.mdHtml.TakesAll text.length) :
  ∃ steps chunks, chunkDocument ext docId text mime cfg steps = .ok (some chunks)
    ∧ Strides.Run (text.length - cfg.mdHtml.greatest - cfg.mdHtml.least + 1) cfg.mdHtml.greatest
        cfg.mdHtml.greatest text.length 0 (chunks.map ChunkRecord.bounds)
  := by
  have htotal : (Int64.ofNat text.length).toInt = text.length := Int64.toInt_ofNat_of_lt hlen
  have hzero : (0 : Int64).toInt = 0 := rfl
  simp only [chunkDocument_eq_ok hv hlen, if_neg (Nat.ne_of_gt hpos), paceOf, if_neg hmime]
  by_cases hsmall : cfg.mdHtml.greatest < 2 ^ 63
  · use text.length
    exact run_textPace htotal hpos (le_refl _) hsmall _
  · obtain ⟨-, hend⟩ | ⟨hnot, -⟩ := textPace_endOf_zero htotal (Nat.le_of_not_lt hsmall)
    · have hlt : 0 < Int64.ofNat text.length := by
        rw [Int64.lt_iff_toInt_lt]
        omega
      use 1
      rw [chunksFrom, if_pos hlt]
      dsimp only
      rw [if_pos hend, hend]
      refine ⟨_, rfl, ?_⟩
      simp only [List.map_cons, List.map_nil, ChunkRecord.bounds, chunkRecord, htotal, hzero]
      apply Strides.Run.last
      omega
    · obtain hsmall' | htakes := hfits
      · exact absurd hsmall' hsmall
      · exact absurd htakes hnot

/-- A text is cut into chunks in order exactly if the sizes go with its length. -/
theorem chunkDocument_inOrder_iff (ext : Externals) (docId text mime : String)
    (cfg : ChunkingConfigV1) (hv : cfg.v = 1) (hlen : text.length < 2 ^ 63) :
  (∃ steps chunks, chunkDocument ext docId text mime cfg steps = .ok (some chunks)
      ∧ InOrder text.length chunks)
    ↔ text.length = 0 ∨ cfg.Fits mime text.length
  := by
  obtain hempty | hpos := Nat.eq_zero_or_pos text.length
  · apply iff_of_true _ (Or.inl hempty)
    use 0, [], by rw [chunkDocument_eq_ok hv hlen, if_pos hempty]
    exact ⟨by simp, List.Pairwise.nil⟩
  · constructor
    · rintro ⟨steps, chunks, h, horder⟩
      right
      exact fits_of_inOrder hv hlen hpos h horder
    · rintro (hempty | hfits)
      · omega
      rw [ChunkingConfigV1.Fits] at hfits
      split at hfits
      · next hpdf =>
        subst hpdf
        have hone := cfg.pdf.one_le_stride
        have hle := cfg.pdf.stride_le_window
        obtain ⟨steps, chunks, hchunks, hrun⟩ := chunkDocument_pdf hv hlen hpos hfits
        use steps, chunks, hchunks
        apply inOrder_of_run hpos _ _ _ hrun <;> omega
      · next hmime =>
        have hone := cfg.mdHtml.one_le_least
        have hle := cfg.mdHtml.least_le_greatest
        obtain ⟨steps, chunks, hchunks, hrun⟩ := chunkDocument_text hv hlen hpos hmime hfits
        use steps, chunks, hchunks
        apply inOrder_of_run hpos _ _ _ hrun <;> omega

theorem Sample.default_fits : defaultChunkingConfigV1.Fits "application/pdf" 22 := by
  rw [ChunkingConfigV1.Fits, if_pos rfl]
  have hwindow : defaultChunkingConfigV1.pdf.window = 1400 := rfl
  rw [PdfChunkCfg.Fits, hwindow]
  use by decide
  intro k hk
  omega

/-- The default windows of a short text. -/
theorem chunkDocument_inOrder_default :
  ∃ steps chunks, chunkDocument Sample.ext "blake3:01" "A text of a few words."
      "application/pdf" defaultChunkingConfigV1 steps = .ok (some chunks)
    ∧ InOrder "A text of a few words.".length chunks
  := (chunkDocument_inOrder_iff Sample.ext "blake3:01" "A text of a few words." "application/pdf"
    defaultChunkingConfigV1 rfl (by decide)).mpr (Or.inr Sample.default_fits)

/-- The largest size there is, which is the position before the first one. -/
def Sample.largestConfig : ChunkingConfigV1 where
  v := 1
  mdHtml := { maxChars := 18446744073709551615, minChars := 1 }
  pdf := { windowChars := 1400, overlapChars := 200, respectMarkers := true }

/-- The first chunk of a text would end before it starts. -/
theorem largest_chunks_not_inOrder :
  Sample.largestConfig.v = 1
    ∧ ¬ ∃ steps chunks, chunkDocument Sample.ext "blake3:01" "abc" "text/markdown"
        Sample.largestConfig steps = .ok (some chunks) ∧ InOrder "abc".length chunks
  := by
  use rfl
  rintro ⟨steps, chunks, h, horder⟩
  have hlength : "abc".length = 3 := rfl
  have hgreatest : Sample.largestConfig.mdHtml.greatest = 18446744073709551615 := by decide
  have hleast : Sample.largestConfig.mdHtml.least = 1 := by decide
  have hfits := fits_of_inOrder rfl (by decide) (by decide) h horder
  rw [ChunkingConfigV1.Fits, if_neg (by decide), MdHtmlChunkCfg.TakesAll, hgreatest, hleast,
    hlength] at hfits
  omega

end Chunking

end KnowledgeCore
