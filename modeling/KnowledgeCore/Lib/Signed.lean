import Mathlib.Algebra.GroupWithZero.Nat
import Mathlib.Algebra.Ring.Int.Defs
import Mathlib.Data.Int.Order.Basic
import Mathlib.Data.Nat.Basic
import Mathlib.Order.Defs.LinearOrder

/-!
# Signed words

What sums, differences and casts of words of 64 bits stand for. A sum that is too large is
less by the number of words.
-/

namespace Signed

/-! ### Casts -/

theorem toInt_toInt64 {n : UInt64} {k : Nat} (hn : n.toNat = k) (hk : k < 2 ^ 63) :
  n.toInt64.toInt = k
  := by
  have hbits : n.toInt64.toInt = n.toBitVec.toInt := rfl
  rw [hbits, BitVec.toInt_eq_toNat_of_lt]
  · rw [UInt64.toNat_toBitVec, hn]
  · rw [UInt64.toNat_toBitVec]
    omega

theorem toInt_toInt64_of_le {n : UInt64} {k : Nat} (hn : n.toNat = k) (hk : 2 ^ 63 ≤ k) :
  n.toInt64.toInt = k - 2 ^ 64
  := by
  have hbits : n.toInt64.toInt = n.toBitVec.toInt := rfl
  have hlt : n.toNat < 2 ^ 64 := n.toNat_lt
  have hwords : ((2 ^ 64 : Nat) : Int) = 2 ^ 64 := rfl
  rw [hbits, BitVec.toInt_eq_toNat_cond, UInt64.toNat_toBitVec, hn, if_neg (by omega), hwords]

/-! ### Sums -/

theorem toInt_add {a b : Int64} (hlo : -2 ^ 63 ≤ a.toInt + b.toInt)
    (hhi : a.toInt + b.toInt < 2 ^ 63) :
  (a + b).toInt = a.toInt + b.toInt
  := by
  rw [Int64.toInt_add]
  apply Int.bmod_eq_of_le <;> omega

theorem toInt_add_of_le {a b : Int64} (h : 2 ^ 63 ≤ a.toInt + b.toInt) :
  (a + b).toInt = a.toInt + b.toInt - 2 ^ 64
  := by
  have ha := a.toInt_lt
  have hb := b.toInt_lt
  rw [Int64.toInt_add, ← Int.sub_bmod_right _ (2 ^ 64)]
  apply Int.bmod_eq_of_le <;> omega

theorem toInt_sub {a b : Int64} (hlo : -2 ^ 63 ≤ a.toInt - b.toInt)
    (hhi : a.toInt - b.toInt < 2 ^ 63) :
  (a - b).toInt = a.toInt - b.toInt
  := by
  rw [Int64.toInt_sub]
  apply Int.bmod_eq_of_le <;> omega

theorem toInt_succ {a : Int64} (h : a.toInt < 2 ^ 63 - 1) :
  (a + 1).toInt = a.toInt + 1
  := by
  have hone : (1 : Int64).toInt = 1 := rfl
  have hlo := a.le_toInt
  rw [toInt_add, hone] <;> omega

/-! ### Bounds -/

theorem toInt_min (a b : Int64) :
  (min a b).toInt = min a.toInt b.toInt
  := by
  have hmin : min a b = if a ≤ b then a else b := rfl
  rw [hmin, min_def]
  simp only [Int64.le_iff_toInt_le]
  split <;> rfl

theorem toInt_max (a b : Int64) :
  (max a b).toInt = max a.toInt b.toInt
  := by
  have hmax : max a b = if a ≤ b then b else a := rfl
  rw [hmax, max_def]
  simp only [Int64.le_iff_toInt_le]
  split <;> rfl

theorem toNat_min (a b : UInt64) :
  (min a b).toNat = min a.toNat b.toNat
  := by
  have hmin : min a b = if a ≤ b then a else b := rfl
  rw [hmin, min_def]
  simp only [UInt64.le_iff_toNat_le]
  split <;> rfl

theorem toNat_max (a b : UInt64) :
  (max a b).toNat = max a.toNat b.toNat
  := by
  have hmax : max a b = if a ≤ b then b else a := rfl
  rw [hmax, max_def]
  simp only [UInt64.le_iff_toNat_le]
  split <;> rfl

end Signed
