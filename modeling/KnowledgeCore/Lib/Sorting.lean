import Mathlib.Data.List.Sort
import Mathlib.Order.RelIso.Set

/-!
# Sorting by a key

A list is sorted by a key of its elements. What the sorted list is does not depend on the order of
the list, when no two elements of the list have the same key.
-/

namespace Sorting

variable {α β : Type}

/-- The order of the keys compares any two elements. -/
theorem total_key [LinearOrder β] (key : α → β) :
  Std.Total fun a b => key a ≤ key b
  := inferInstanceAs (Std.Total (Order.Preimage key (· ≤ ·)))

/-- The order of the keys is transitive. -/
theorem isTrans_key [LinearOrder β] (key : α → β) :
  IsTrans α fun a b => key a ≤ key b
  := inferInstanceAs (IsTrans α (Order.Preimage key (· ≤ ·)))

/-- Lists with the same elements are sorted alike when only equal elements are of the same rank. -/
theorem insertionSort_eq_of_perm {r : α → α → Prop} [DecidableRel r] [Std.Total r] [IsTrans α r]
    {l l' : List α} (hperm : l.Perm l') (hantisymm : ∀ a ∈ l, ∀ b ∈ l, r a b → r b a → a = b) :
  l.insertionSort r = l'.insertionSort r
  := by
  have hsort := List.perm_insertionSort r
  apply ((hsort l).trans (hperm.trans (hsort l').symm)).eq_of_pairwise
  · intro a b ha hb
    apply hantisymm a ((hsort l).subset ha) b (hperm.symm.subset ((hsort l').subset hb))
  · apply List.pairwise_insertionSort
  · apply List.pairwise_insertionSort

end Sorting
