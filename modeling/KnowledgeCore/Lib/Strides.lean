import Mathlib.Data.List.Pairwise
import Mathlib.Tactic.Linarith
import Mathlib.Tactic.Ring

/-!
# Strides

Ranges of one length that start at equal distances, as a loop makes them that goes on until the
start of a range has come to a limit. The last of the ranges goes to the end.
-/

namespace Strides

variable {limit len stride total : Int}

/-- The ranges a loop makes from a start on. -/
inductive Run (limit len stride total : Int) : Int → List (Int × Int) → Prop
  | last {start : Int} (h : limit ≤ start) : Run limit len stride total start [(start, total)]
  | next {start : Int} {ranges : List (Int × Int)} (h : start < limit)
      (rest : Run limit len stride total (start + stride) ranges) :
    Run limit len stride total start ((start, start + len) :: ranges)

theorem Run.ne_nil {start : Int} {ranges : List (Int × Int)}
    (h : Run limit len stride total start ranges) :
  ranges ≠ []
  := by
  cases h <;> apply List.cons_ne_nil

/-- Ranges that lie within bounds, are not empty, and start one after the other. -/
structure Increasing (lo hi : Int) (ranges : List (Int × Int)) : Prop where
  bounds : ∀ r ∈ ranges, lo ≤ r.1 ∧ r.1 < r.2 ∧ r.2 ≤ hi
  pairwise : ranges.Pairwise fun r later => r.1 < later.1

theorem Run.increasing (hstride : 0 < stride) (hle : stride ≤ len) (hlimit : limit + len ≤ total)
    {start : Int} {ranges : List (Int × Int)} (h : Run limit len stride total start ranges)
    (hstart : start < total) :
  Increasing start total ranges
  := by
  induction h with
  | last h =>
    constructor
    · simpa using hstart
    · apply List.pairwise_singleton
  | @next start ranges h rest ih =>
    obtain ⟨hbounds, hpairwise⟩ := ih (by omega)
    constructor
    · rw [List.forall_mem_cons]
      constructor
      · dsimp only
        omega
      · intro r hr
        have := hbounds r hr
        omega
    · apply List.Pairwise.cons _ hpairwise
      intro r hr
      have := hbounds r hr
      dsimp only
      omega

/-- The ranges before the last one are those that start before the limit. -/
theorem Run.mem_dropLast (hstride : 0 < stride) {start : Int} {ranges : List (Int × Int)}
    (h : Run limit len stride total start ranges) (r : Int × Int) :
  r ∈ ranges.dropLast
    ↔ ∃ k : Nat, start + k * stride < limit ∧ r = (start + k * stride, start + k * stride + len)
  := by
  induction h with
  | @last start h =>
    constructor
    · intro hr
      cases hr
    · rintro ⟨k, hk, -⟩
      have : 0 ≤ k * stride := Int.mul_nonneg (Int.natCast_nonneg k) hstride.le
      omega
  | @next start ranges h rest ih =>
    rw [List.dropLast_cons_of_ne_nil rest.ne_nil, List.mem_cons, ih]
    -- the first range is the one at no distance, the others are one stride further
    have hmove (k : Nat) : start + stride + k * stride = start + (k + 1 : Nat) * stride := by
      push_cast
      ring
    constructor
    · rintro (rfl | ⟨k, hk, rfl⟩)
      · exact ⟨0, by simpa using h, by simp⟩
      · exact ⟨k + 1, by rwa [← hmove], by rw [hmove]⟩
    · rintro ⟨k, hk, rfl⟩
      cases k with
      | zero =>
        left
        simp
      | succ k =>
        right
        exact ⟨k, by rwa [hmove], by rw [hmove]⟩

/-- The ranges start at the strides that are reached from within the limit, and the one at the
limit goes to the end. -/
theorem Run.mem_iff (hstride : 0 < stride) {start : Int} {ranges : List (Int × Int)}
    (h : Run limit len stride total start ranges) (r : Int × Int) :
  r ∈ ranges
    ↔ ∃ k : Nat, (k = 0 ∨ start + (k - 1 : Nat) * stride < limit)
      ∧ r = (start + k * stride,
          if start + k * stride < limit then start + k * stride + len else total)
  := by
  induction h with
  | @last start h =>
    rw [List.mem_singleton]
    constructor
    · rintro rfl
      exact ⟨0, Or.inl rfl, by simp [h]⟩
    · rintro ⟨k, rfl | hk, rfl⟩
      · simp [h]
      · have : 0 ≤ (k - 1 : Nat) * stride := Int.mul_nonneg (Int.natCast_nonneg _) hstride.le
        omega
  | @next start ranges h rest ih =>
    rw [List.mem_cons, ih]
    have hmove (k : Nat) : start + stride + k * stride = start + (k + 1 : Nat) * stride := by
      push_cast
      ring
    constructor
    · rintro (rfl | ⟨k, hk, rfl⟩)
      · exact ⟨0, Or.inl rfl, by simp [h]⟩
      · refine ⟨k + 1, Or.inr ?_, by rw [hmove]⟩
        obtain rfl | hk := hk
        · simpa using h
        · cases k with
          | zero => simpa using h
          | succ k => rwa [hmove] at hk
    · rintro ⟨k, hk, rfl⟩
      cases k with
      | zero =>
        left
        simp [h]
      | succ k =>
        right
        refine ⟨k, ?_, by rw [hmove]⟩
        cases k with
        | zero => exact Or.inl rfl
        | succ k =>
          right
          rw [hmove]
          simpa using hk

end Strides
