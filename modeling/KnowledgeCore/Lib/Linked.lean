import Mathlib.Data.List.Forall2
import Mathlib.Data.List.Induction

/-!
# Linked entries

A log in which every entry names the hash of the entry before it, and the first one names a
given start. Such a log grows at its end, and when the hashes tell entries apart the hash of the
last entry determines all of them.
-/

namespace Linked

variable {α η : Type}

/-- Every entry names the hash of the one before it, the first one names `start`. -/
def FromStart (hash : α → η) (prev : α → Option η) : Option η → List α → Prop
  | _, [] => True
  | start, a :: rest => prev a = start ∧ FromStart hash prev (some (hash a)) rest

/-- What the next entry of a log names. -/
def next (hash : α → η) (start : Option η) (l : List α) : Option η :=
  (l.getLast?.map hash).or start

variable {hash : α → η} {prev : α → Option η} {start : Option η}

@[simp] theorem next_nil :
  next hash start [] = start
  := rfl

@[simp] theorem next_concat (l : List α) (a : α) :
  next hash start (l ++ [a]) = some (hash a)
  := by
  rw [next, List.getLast?_concat]
  rfl

theorem next_cons (a : α) (l : List α) :
  next hash start (a :: l) = next hash (some (hash a)) l
  := by
  induction l using List.reverseRecOn with
  | nil => rfl
  | append_singleton l b =>
    rw [next_concat, ← List.cons_append, next_concat]

/-- A log can be extended exactly by an entry that names the hash of its last one. -/
theorem fromStart_concat {l : List α} {a : α} :
  FromStart hash prev start (l ++ [a])
    ↔ FromStart hash prev start l ∧ prev a = next hash start l
  := by
  induction l generalizing start with
  | nil => simp [FromStart]
  | cons b l ih => rw [List.cons_append, FromStart, FromStart, ih, next_cons, and_assoc]

/-- An entry names the start or the hash of an entry. -/
theorem FromStart.prev_of_mem {l : List α} {a : α} (h : FromStart hash prev start l)
    (ha : a ∈ l) :
  prev a = start ∨ ∃ b ∈ l, prev a = some (hash b)
  := by
  induction l generalizing start with
  | nil => cases ha
  | cons b l ih =>
    rcases List.mem_cons.mp ha with rfl | ha
    · left
      exact h.1
    · right
      rcases ih h.2 ha with hprev | ⟨c, hc, hprev⟩
      · use b, List.mem_cons_self
      · use c, List.mem_cons_of_mem _ hc

/-- When the hashes tell the entries of two logs apart, and what they name, equal hashes of the
last entries make the logs agree from their starts to their ends. -/
theorem forall₂_of_next_eq {R : α → α → Prop} {l l' : List α}
    (h : FromStart hash prev none l) (h' : FromStart hash prev none l')
    (hcommits : ∀ a ∈ l, ∀ b ∈ l', hash a = hash b → R a b ∧ prev a = prev b)
    (hnext : next hash none l = next hash none l') :
  List.Forall₂ R l l'
  := by
  induction l using List.reverseRecOn generalizing l' with
  | nil =>
    induction l' using List.reverseRecOn with
    | nil => apply List.Forall₂.nil
    | append_singleton l' b => simp at hnext
  | append_singleton l a ih =>
    induction l' using List.reverseRecOn with
    | nil => simp at hnext
    | append_singleton l' b =>
      rw [fromStart_concat] at h h'
      rw [next_concat, next_concat, Option.some_inj] at hnext
      obtain ⟨hR, hprev⟩ := hcommits a (by simp) b (by simp) hnext
      apply List.rel_append
      · apply ih h.1 h'.1
        · intro c hc d hd
          apply hcommits c (List.mem_append_left _ hc) d (List.mem_append_left _ hd)
        · rw [← h.2, ← h'.2, hprev]
      · apply List.Forall₂.cons hR List.Forall₂.nil

end Linked
