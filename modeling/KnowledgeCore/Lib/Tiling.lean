import Mathlib.Data.Int.Order.Basic
import Mathlib.Order.Defs.LinearOrder

/-!
# Tilings

Ranges of positions tile what lies between two positions when each of them starts where the last
one ended. The parts of a list that are cut out along a tiling make up the list.
-/

namespace Tiling

variable {α : Type}

/-- The ranges are not empty, the first one starts at a position, each of the others starts where
the one before it ends, and the last one ends at another position. -/
def Tiles [LT α] (lo : α) : List (α × α) → α → Prop
  | [], hi => lo = hi
  | r :: rest, hi => r.1 = lo ∧ lo < r.2 ∧ Tiles r.2 rest hi

theorem Tiles.le [Preorder α] {lo hi : α} {rs : List (α × α)} (h : Tiles lo rs hi) :
  lo ≤ hi
  := by
  induction rs generalizing lo with
  | nil => exact le_of_eq h
  | cons r rest ih =>
    obtain ⟨-, hlt, hrest⟩ := h
    apply le_trans (le_of_lt hlt) (ih hrest)

/-- No range of a tiling leaves it. -/
theorem Tiles.bounds [Preorder α] {lo hi : α} {rs : List (α × α)} (h : Tiles lo rs hi) :
  ∀ r ∈ rs, lo ≤ r.1 ∧ r.1 < r.2 ∧ r.2 ≤ hi
  := by
  induction rs generalizing lo with
  | nil => simp
  | cons r rest ih =>
    obtain ⟨rfl, hlt, hrest⟩ := h
    intro r' hr'
    cases hr' with
    | head => exact ⟨le_refl _, hlt, hrest.le⟩
    | tail _ hr' =>
      obtain ⟨hlo, hbounds⟩ := ih hrest r' hr'
      exact ⟨le_trans (le_of_lt hlt) hlo, hbounds⟩

/-! ### The parts of a list -/

/-- The part of a list in a range. -/
def part (l : List α) (r : Int × Int) : List α :=
  (l.drop r.1.toNat).take (r.2 - r.1).toNat

/-- The part up to a later position goes on where the part up to an earlier one ends. -/
theorem part_append (l : List α) {a b c : Int} (ha : 0 ≤ a) (hab : a ≤ b) (hbc : b ≤ c) :
  part l (a, b) ++ part l (b, c) = part l (a, c)
  := by
  have hlen : (c - a).toNat = (b - a).toNat + (c - b).toNat := by omega
  have hstart : b.toNat = a.toNat + (b - a).toNat := by omega
  rw [part, part, part, hlen, List.take_add, List.drop_drop, ← hstart]

/-- The parts of a list along a tiling make up the list between its ends. -/
theorem Tiles.flatten_parts (l : List α) {lo hi : Int} {rs : List (Int × Int)}
    (h : Tiles lo rs hi) (hlo : 0 ≤ lo) :
  (rs.map (part l)).flatten = part l (lo, hi)
  := by
  induction rs generalizing lo with
  | nil =>
    cases h
    simp [part]
  | cons r rest ih =>
    obtain ⟨start, stop⟩ := r
    obtain ⟨rfl, hlt, hrest⟩ := h
    dsimp only at hlt hrest
    rw [List.map_cons, List.flatten_cons, ih hrest (by omega)]
    apply part_append l hlo (le_of_lt hlt) hrest.le

theorem part_all (l : List α) :
  part l (0, l.length) = l
  := by
  simp [part]

end Tiling
