import Mathlib.Data.List.Basic

/-!
# Gathering under keys

What a list holds under a key is combined in the order of the list. Where values may be combined in
any order, or there is one of them at most in each part of the list, the combination does not
depend on the order of the parts.
-/

namespace Gathering

variable {K V : Type}

/-- The combination of values, if there is one. -/
def combine (add : V → V → V) : List V → Option V
  | [] => none
  | v :: vs => some (vs.foldl add v)

theorem combine_concat (add : V → V → V) (vs : List V) (v : V) :
  combine add (vs ++ [v]) = some ((combine add vs).elim v fun old => add old v)
  := by
  cases vs with
  | nil => rfl
  | cons w vs => simp [combine]

theorem combine_isSome {add : V → V → V} {vs : List V} :
  (combine add vs).isSome = true ↔ vs ≠ []
  := by
  cases vs <;> simp [combine]

/-- An operation for which the order of what is combined does not matter. -/
def Commutes (add : V → V → V) : Prop :=
  (∀ a b, add a b = add b a) ∧ ∀ a b c, add (add a b) c = add (add a c) b

theorem combine_perm {add : V → V → V} (hadd : Commutes add) {vs ws : List V} (h : vs.Perm ws) :
  combine add vs = combine add ws
  := by
  induction h with
  | nil => rfl
  | cons v hperm _ => rw [combine, combine, hperm.foldl_eq' fun a _ b _ c => hadd.2 c a b]
  | swap v w vs => simp [combine, hadd.1 w v]
  | trans _ _ ih ih' => exact ih.trans ih'

variable [DecidableEq K]

/-- The values under a key, in the order of the list. -/
def valuesOf (l : List (K × V)) (key : K) : List V :=
  l.filterMap fun e => if e.1 = key then some e.2 else none

@[simp] theorem valuesOf_append (l l' : List (K × V)) (key : K) :
  valuesOf (l ++ l') key = valuesOf l key ++ valuesOf l' key
  := List.filterMap_append

@[simp] theorem valuesOf_cons (key : K) (v : V) (l : List (K × V)) (key' : K) :
  valuesOf ((key, v) :: l) key' = if key = key' then v :: valuesOf l key' else valuesOf l key'
  := by
  rw [valuesOf, List.filterMap_cons]
  split_ifs <;> rfl

@[simp] theorem valuesOf_nil (key : K) :
  valuesOf ([] : List (K × V)) key = []
  := rfl

theorem valuesOf_eq_nil {l : List (K × V)} {key : K} :
  valuesOf l key = [] ↔ key ∉ l.map Prod.fst
  := by
  induction l with
  | nil => simp
  | cons e l ih =>
    rw [valuesOf_cons, List.map_cons, List.mem_cons, not_or, ← ih]
    split_ifs with hkey
    · simp [hkey]
    · simp [Ne.symm hkey]

theorem valuesOf_perm {l l' : List (K × V)} (h : l.Perm l') (key : K) :
  (valuesOf l key).Perm (valuesOf l' key)
  := h.filterMap _

/-- Where every key is there once, the order of the list does not matter. -/
theorem valuesOf_eq_of_perm {l l' : List (K × V)} (hnodup : (l.map Prod.fst).Nodup)
    (h : l.Perm l') (key : K) :
  valuesOf l key = valuesOf l' key
  := by
  have hone : (valuesOf l key).length ≤ 1 := by
    clear h
    induction l with
    | nil => simp
    | cons e l ih =>
      rw [List.map_cons, List.nodup_cons] at hnodup
      rw [valuesOf_cons]
      split_ifs with hkey
      · rw [valuesOf_eq_nil.mpr (hkey ▸ hnodup.1)]
        exact Nat.le_refl 1
      · exact ih hnodup.2
  have hperm := valuesOf_perm h key
  cases hvalues : valuesOf l key with
  | nil =>
    rw [hvalues] at hperm
    exact hperm.nil_eq
  | cons v vs =>
    rw [hvalues, List.length_cons] at hone
    obtain rfl : vs = [] := List.length_eq_zero_iff.mp (by omega)
    rw [hvalues] at hperm
    exact hperm.singleton_eq

end Gathering
