import Mathlib.Data.List.DropRight

/-!
# Trimming

The elements at both ends of a list that satisfy a condition are dropped. What is dropped may be
added again, and what was trimmed is not trimmed further.
-/

namespace Trim

variable {α : Type*} {p : α → Bool} {l pad : List α}

/-- Drop the elements at both ends that satisfy a condition. -/
def both (p : α → Bool) (l : List α) : List α :=
  (l.dropWhile p).rdropWhile p

theorem rdropWhile_append_of_pos (h : ∀ a ∈ pad, p a = true) :
  (l ++ pad).rdropWhile p = l.rdropWhile p
  := by
  rw [List.rdropWhile, List.reverse_append, List.dropWhile_append_of_pos, List.rdropWhile]
  intro a ha
  exact h a (List.mem_reverse.mp ha)

/-- What is added in front and is trimmed changes nothing. -/
theorem both_append_left (h : ∀ a ∈ pad, p a = true) :
  both p (pad ++ l) = both p l
  := by
  rw [both, List.dropWhile_append_of_pos h, both]

/-- What is added behind and is trimmed changes nothing. -/
theorem both_append_right (h : ∀ a ∈ pad, p a = true) :
  both p (l ++ pad) = both p l
  := by
  rw [both, List.dropWhile_append, both]
  split
  · next hempty =>
    rw [List.isEmpty_iff.mp hempty, List.dropWhile_eq_nil_iff.mpr h]
  · apply rdropWhile_append_of_pos h

/-- What is trimmed at its end is trimmed like the whole. -/
theorem both_rdropWhile :
  both p (l.rdropWhile p) = both p l
  := by
  have hend : ∀ a ∈ l.rtakeWhile p, p a = true := fun a => List.mem_rtakeWhile_imp
  conv_rhs => rw [← List.rdropWhile_append_rtakeWhile (p := p) (l := l)]
  rw [both_append_right hend]

theorem both_isInfix (p : α → Bool) (l : List α) :
  both p l <:+: l
  := (List.rdropWhile_prefix p _).isInfix.trans (List.dropWhile_suffix p).isInfix

theorem mem_of_mem_both {a : α} (h : a ∈ both p l) :
  a ∈ l
  := (both_isInfix p l).subset h

/-- A list is trimmed already if neither its first nor its last element satisfies the
condition. -/
theorem both_eq_self (hhead : ∀ a ∈ l.head?, p a = false) (hlast : ∀ a ∈ l.getLast?, p a = false) :
  both p l = l
  := by
  have hdrop : l.dropWhile p = l := by
    cases l with
    | nil => rfl
    | cons a l => rw [List.dropWhile_cons_of_neg (by simp [hhead a rfl])]
  rw [both, hdrop, List.rdropWhile_eq_self_iff]
  intro hne
  rw [hlast _ (List.getLast?_eq_getLast_of_ne_nil hne)]
  exact Bool.false_ne_true

/-- The first element of a trimmed list does not satisfy the condition. -/
theorem head?_both {a : α} (h : a ∈ (both p l).head?) :
  p a = false
  := by
  obtain ⟨rest, hrest⟩ := List.rdropWhile_prefix p (l.dropWhile p)
  have hne : l.dropWhile p ≠ [] := by
    intro hnil
    rw [both, hnil] at h
    cases h
  have hhead : a = (l.dropWhile p).head hne := by
    have hfirst : a ∈ (l.dropWhile p).head? := by
      rw [← hrest, List.head?_append_of_ne_nil]
      · exact h
      · intro hnil
        rw [both, hnil] at h
        cases h
    rw [List.head?_eq_some_head hne] at hfirst
    exact (Option.some_inj.mp hfirst).symm
  rw [hhead]
  exact Bool.eq_false_iff.mpr (List.head_dropWhile_not p hne ▸ Bool.false_ne_true)

/-- The last element of a trimmed list does not satisfy the condition. -/
theorem getLast?_both {a : α} (h : a ∈ (both p l).getLast?) :
  p a = false
  := by
  have hne : both p l ≠ [] := by
    intro hnil
    rw [hnil] at h
    cases h
  rw [List.getLast?_eq_getLast_of_ne_nil hne, Option.mem_some] at h
  rw [← h]
  exact Bool.eq_false_iff.mpr (List.rdropWhile_last_not p _ hne)

/-- What does not satisfy the condition stays. -/
theorem filter_both (p : α → Bool) (l : List α) :
  (both p l).filter (fun a => !p a) = l.filter fun a => !p a
  := by
  have hnone {dropped : List α} (h : ∀ a ∈ dropped, p a = true) :
      dropped.filter (fun a => !p a) = [] := by
    rw [List.filter_eq_nil_iff]
    intro a ha
    simp [h a ha]
  have hstart : (l.takeWhile p).filter (fun a => !p a) = [] :=
    hnone fun a => List.mem_takeWhile_imp
  have hend : ((l.dropWhile p).rtakeWhile p).filter (fun a => !p a) = [] :=
    hnone fun a => List.mem_rtakeWhile_imp
  conv_rhs => rw [← List.takeWhile_append_dropWhile (p := p) (l := l), List.filter_append, hstart,
    List.nil_append, ← List.rdropWhile_append_rtakeWhile (p := p) (l := l.dropWhile p),
    List.filter_append, hend, List.append_nil]
  rfl

@[simp] theorem both_both :
  both p (both p l) = both p l
  := both_eq_self (fun _ => head?_both) fun _ => getLast?_both

end Trim
