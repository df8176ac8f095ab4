import Mathlib.Data.List.Basic

/-!
# Replacing the first occurrence

The first occurrence of a pattern in a list is replaced by another list. The elements of the list
may carry more than what is compared with the pattern.
-/

namespace Replace

variable {α β : Type*} [DecidableEq β]

/-- Replace the first occurrence of a pattern, which is not empty. -/
def first (value : α → β) (pattern : List β) (new : List α) : List α → List α
  | [] => []
  | a :: rest =>
    if pattern <+: (a :: rest).map value then new ++ (a :: rest).drop pattern.length
    else a :: first value pattern new rest

variable {value : α → β} {pattern : List β}

/-- What stands before the first occurrence and behind it stays. -/
theorem first_append {before here after : List α} (new : List α) (hhere : here.map value = pattern)
    (hne : here ≠ [])
    (h : ∀ p < before.length, ¬ pattern <+: ((before ++ (here ++ after)).drop p).map value) :
  first value pattern new (before ++ (here ++ after)) = before ++ (new ++ after)
  := by
  induction before with
  | nil =>
    cases here with
    | nil => exact absurd rfl hne
    | cons a here =>
      have hprefix : pattern <+: (a :: (here ++ after)).map value := by
        rw [← hhere, ← List.cons_append, List.map_append]
        exact List.prefix_append _ _
      rw [List.nil_append, List.cons_append, first, if_pos hprefix, ← hhere, List.length_map,
        ← List.cons_append, List.drop_left]
      rfl
  | cons a before ih =>
    have hfirst := h 0 (Nat.succ_pos _)
    rw [List.drop_zero, List.cons_append] at hfirst
    rw [List.cons_append, first, if_neg hfirst, ih]
    · rfl
    · intro p hp
      exact h (p + 1) (Nat.succ_lt_succ hp)

/-- What is replaced does not depend on what the elements carry besides. -/
theorem map_first (new l : List α) :
  (first value pattern new l).map value = first id pattern (new.map value) (l.map value)
  := by
  induction l with
  | nil => rfl
  | cons a l ih =>
    rw [List.map_cons, first, first, List.map_id, ← List.map_cons]
    split_ifs
    · rw [List.map_append, List.map_drop]
    · rw [List.map_cons, ih]

end Replace
