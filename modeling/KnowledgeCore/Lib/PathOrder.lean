import Mathlib.Data.List.Basic
import Mathlib.Order.Lattice

/-!
# Two orders of paths

A path is a list of names, and its text has a separator between any two names. Paths can be
ordered name by name, or by their texts. The orders differ only where a name goes on, after the
name of a directory, with a character below the separator.
-/

namespace PathOrder

variable {α : Type} [LinearOrder α] {sep : α}

/-- Whether a name is another one, and goes on with a character below the separator. -/
def Continues (sep : α) (name longer : List α) : Prop :=
  ∃ c rest, longer = name ++ c :: rest ∧ c < sep

/-- Whether, at the first place where two paths differ, the first one goes on below a directory
whose name the second one continues. -/
def Clashes (sep : α) : List (List α) → List (List α) → Prop
  | a :: rest, b :: tail => (rest ≠ [] ∧ Continues sep a b) ∨ (a = b ∧ Clashes sep rest tail)
  | _, _ => False

theorem append_lt_append_iff {l r r' : List α} :
  l ++ r < l ++ r' ↔ r < r'
  := by
  induction l with
  | nil => rfl
  | cons x l ih =>
    rw [List.cons_append, List.cons_append, List.cons_lt_cons_iff, ih]
    simp

/-- Of two words in order, the second one with something added comes before the first one with
something added only if it is longer, and what is beyond comes before what was added. -/
theorem append_lt_append_of_lt {a b r t : List α} (h : a < b) :
  b ++ t < a ++ r ↔ ∃ c rest, b = a ++ c :: rest ∧ c :: rest ++ t < r
  := by
  induction a generalizing b with
  | nil =>
    cases b with
    | nil => cases h
    | cons c b =>
      constructor
      · intro hlt
        exact ⟨c, b, rfl, hlt⟩
      · rintro ⟨c', rest, heq, hlt⟩
        cases heq
        exact hlt
  | cons x a ih =>
    cases b with
    | nil => cases h
    | cons y b =>
      rw [List.cons_lt_cons_iff] at h
      rw [List.cons_append, List.cons_append, List.cons_lt_cons_iff]
      obtain hlt | ⟨rfl, hlt⟩ := h
      · constructor
        · rintro (hgt | ⟨rfl, -⟩)
          · exact absurd hlt hgt.asymm
          · exact absurd hlt (lt_irrefl _)
        · rintro ⟨c, rest, heq, -⟩
          cases heq
          exact absurd hlt (lt_irrefl _)
      · simp only [lt_irrefl, false_or, true_and, ih hlt, List.cons_append, List.cons.injEq]

/-- What follows the first name of a path in its text. -/
def tail (sep : α) : List (List α) → List α
  | [] => []
  | a :: rest => sep :: [sep].intercalate (a :: rest)

omit [LinearOrder α] in
theorem intercalate_cons (a : List α) (rest : List (List α)) :
  [sep].intercalate (a :: rest) = a ++ tail sep rest
  := by
  cases rest with
  | nil => simp [tail]
  | cons b rest => simp [tail, List.intercalate_cons_cons]

/-- The orders differ exactly at paths that clash. -/
theorem intercalate_lt_iff {p q : List (List α)} (hq : ∀ b ∈ q, sep ∉ b) (h : p < q) :
  [sep].intercalate q < [sep].intercalate p ↔ Clashes sep p q
  := by
  induction p generalizing q with
  | nil => simp [Clashes]
  | cons a rest ih =>
    cases q with
    | nil => cases h
    | cons b others =>
      have hb := hq b (List.mem_cons_self ..)
      rw [intercalate_cons, intercalate_cons, Clashes]
      rw [List.cons_lt_cons_iff] at h
      obtain hlt | ⟨rfl, hlt⟩ := h
      · rw [append_lt_append_of_lt hlt]
        have hne : a ≠ b := by
          rintro rfl
          exact List.lt_irrefl _ hlt
        simp only [hne, false_and, or_false]
        cases rest with
        | nil => simp [tail]
        | cons a' rest =>
          simp only [tail, ne_eq, List.cons_ne_nil, not_false_eq_true, true_and]
          apply exists_congr
          intro c
          apply exists_congr
          intro s
          apply and_congr_right
          rintro rfl
          rw [List.cons_append, List.cons_lt_cons_iff]
          have hc : c ≠ sep := by
            rintro rfl
            apply hb
            simp
          simp [hc]
      · have hself : ¬ Continues sep a a := by
          rintro ⟨c, s, heq, -⟩
          simp at heq
        simp only [append_lt_append_iff, hself, and_false, false_or, true_and]
        cases rest with
        | nil =>
          simp [tail, Clashes]
        | cons a' rest =>
          cases others with
          | nil => cases hlt
          | cons b' others =>
            rw [tail, tail, List.cons_lt_cons_iff,
              ih (fun b hb => hq b (List.mem_cons_of_mem _ hb)) hlt]
            simp

/-- Paths that clash are in order name by name. -/
theorem lt_of_clashes {p q : List (List α)} (h : Clashes sep p q) :
  p < q
  := by
  induction p generalizing q with
  | nil => cases h
  | cons a rest ih =>
    cases q with
    | nil => cases h
    | cons b others =>
      rw [List.cons_lt_cons_iff]
      obtain ⟨-, c, s, rfl, -⟩ | ⟨rfl, hclash⟩ := h
      · left
        have hlt := (append_lt_append_iff (l := a)).mpr (List.nil_lt_cons c s)
        rwa [List.append_nil] at hlt
      · right
        exact ⟨rfl, ih hclash⟩

end PathOrder
