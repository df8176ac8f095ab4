import Mathlib.Data.List.Basic
import Mathlib.Logic.Relation

/-!
# Successions

A history of retirements, each of them with a successor or without one. When nobody retires
twice and nobody succeeds who has retired before, the successions from anybody end in one place,
and they never come back to where they started.
-/

namespace Succession

variable {α : Type}

/-- Who retired, and by whom they were succeeded, in the order in which it happened. -/
abbrev History (α : Type) := List (α × Option α)

/-- Who has retired is not named again, and nobody succeeds themselves. -/
structure WellGrown (l : History α) : Prop where
  pairwise : l.Pairwise fun earlier later => later.1 ≠ earlier.1 ∧ later.2 ≠ some earlier.1
  irrefl : ∀ e ∈ l, e.2 ≠ some e.1

/-- `b` succeeded `a`. -/
def Succeeds (l : History α) (a b : α) : Prop :=
  (a, some b) ∈ l

/-- Nobody succeeded `a`: it has not retired, or it has without a successor. -/
def Final (l : History α) (a : α) : Prop :=
  (∀ s, (a, s) ∉ l) ∨ (a, none) ∈ l

theorem wellGrown_nil :
  WellGrown ([] : History α)
  := by
  constructor
  · apply List.Pairwise.nil
  · simp

theorem wellGrown_cons {a : α} {s : Option α} {l : History α} :
  WellGrown ((a, s) :: l)
    ↔ s ≠ some a ∧ (∀ e ∈ l, e.1 ≠ a ∧ e.2 ≠ some a) ∧ WellGrown l
  := by
  constructor
  · rintro ⟨hpairwise, hirrefl⟩
    rw [List.pairwise_cons] at hpairwise
    rw [List.forall_mem_cons] at hirrefl
    use hirrefl.1, hpairwise.1, hpairwise.2, hirrefl.2
  · rintro ⟨hne, hrest, hpairwise, hirrefl⟩
    constructor
    · apply List.Pairwise.cons hrest hpairwise
    · rw [List.forall_mem_cons]
      use hne

/-- A history goes on with somebody who has not retired, and a successor who has not either. -/
theorem wellGrown_concat {a : α} {s : Option α} {l : History α} :
  WellGrown (l ++ [(a, s)])
    ↔ WellGrown l ∧ s ≠ some a ∧ ∀ e ∈ l, a ≠ e.1 ∧ s ≠ some e.1
  := by
  induction l with
  | nil => simp [wellGrown_cons, wellGrown_nil]
  | cons e l ih =>
    obtain ⟨b, t⟩ := e
    rw [List.cons_append, wellGrown_cons, wellGrown_cons, ih, List.forall_mem_append,
      List.forall_mem_singleton, List.forall_mem_cons]
    tauto

/-- What follows a retirement does not concern who retired. -/
theorem WellGrown.notMem_of_cons {a : α} {s : Option α} {l : History α}
    (h : WellGrown ((a, s) :: l)) :
  ∀ t, (a, t) ∉ l
  := by
  intro t ht
  obtain ⟨-, hrest, -⟩ := wellGrown_cons.mp h
  apply (hrest _ ht).1 rfl

/-- Nobody retires twice. -/
theorem WellGrown.eq_of_mem {l : History α} (h : WellGrown l) {a : α} {s t : Option α}
    (hs : (a, s) ∈ l) (ht : (a, t) ∈ l) :
  s = t
  := by
  induction l with
  | nil => cases hs
  | cons e l ih =>
    obtain ⟨c, u⟩ := e
    obtain ⟨-, -, hl⟩ := wellGrown_cons.mp h
    rcases List.mem_cons.mp hs with heq | hs' <;> rcases List.mem_cons.mp ht with heq' | ht'
    · cases heq
      cases heq'
      rfl
    · cases heq
      exact absurd ht' (h.notMem_of_cons t)
    · cases heq'
      exact absurd hs' (h.notMem_of_cons s)
    · apply ih hl hs' ht'

theorem WellGrown.nodup {l : History α} (h : WellGrown l) :
  (l.map Prod.fst).Nodup
  := by
  apply List.pairwise_map.mpr
  apply h.pairwise.imp
  intro e e' hne
  apply hne.1.symm

theorem WellGrown.final_iff {l : History α} (h : WellGrown l) {a : α} :
  Final l a ↔ ∀ b, ¬ Succeeds l a b
  := by
  constructor
  · rintro (hnone | hnone) b hb
    · apply hnone _ hb
    · cases h.eq_of_mem hnone hb
  · intro hb
    by_cases hs : ∃ s, (a, s) ∈ l
    · obtain ⟨s, hs⟩ := hs
      cases s with
      | none =>
        right
        exact hs
      | some b => exact absurd hs (hb b)
    · left
      intro s hs'
      apply hs ⟨s, hs'⟩

/-! ### Where successions end -/

variable [DecidableEq α]

/-- Where the successions from `d` end. -/
def finish : History α → α → α
  | [], d => d
  | (a, s) :: rest, d => finish rest (if d = a then s.getD a else d)

/-- How many retirements there are on the way from `d`. -/
def depth : History α → α → Nat
  | [], _ => 0
  | (a, s) :: rest, d => if d = a then depth rest (s.getD a) + 1 else depth rest d

theorem finish_append (l l' : History α) (d : α) :
  finish (l ++ l') d = finish l' (finish l d)
  := by
  induction l generalizing d with
  | nil => rfl
  | cons e l ih => apply ih

theorem depth_append (l l' : History α) (d : α) :
  depth (l ++ l') d = depth l d + depth l' (finish l d)
  := by
  induction l generalizing d with
  | nil => rw [List.nil_append, depth, finish, Nat.zero_add]
  | cons e l ih =>
    obtain ⟨a, s⟩ := e
    rw [List.cons_append, depth, depth, finish]
    split
    · rw [ih]
      omega
    · rw [ih]

/-- One more retirement lengthens the ways that ended with who retires. -/
theorem depth_concat (l : History α) (a : α) (s : Option α) (d : α) :
  depth (l ++ [(a, s)]) d = depth l d + if finish l d = a then 1 else 0
  := by
  rw [depth_append, depth]
  simp only [depth, Nat.zero_add]

theorem finish_of_notMem {l : History α} {d : α} (h : ∀ s, (d, s) ∉ l) :
  finish l d = d
  := by
  induction l with
  | nil => rfl
  | cons e l ih =>
    obtain ⟨a, s⟩ := e
    have hne : d ≠ a := by
      rintro rfl
      apply h s List.mem_cons_self
    rw [finish, if_neg hne]
    apply ih
    intro s' hs'
    apply h s' (List.mem_cons_of_mem _ hs')

theorem depth_of_notMem {l : History α} {d : α} (h : ∀ s, (d, s) ∉ l) :
  depth l d = 0
  := by
  induction l with
  | nil => rfl
  | cons e l ih =>
    obtain ⟨a, s⟩ := e
    have hne : d ≠ a := by
      rintro rfl
      apply h s List.mem_cons_self
    rw [depth, if_neg hne]
    apply ih
    intro s' hs'
    apply h s' (List.mem_cons_of_mem _ hs')

/-- Who is succeeded is followed where the successor is. -/
theorem WellGrown.finish_of_mem {l : History α} (h : WellGrown l) {a : α} {s : Option α}
    (ha : (a, s) ∈ l) :
  finish l a = finish l (s.getD a)
  := by
  induction l with
  | nil => cases ha
  | cons e l ih =>
    obtain ⟨b, t⟩ := e
    obtain ⟨hne, hrest, hl⟩ := wellGrown_cons.mp h
    rcases List.mem_cons.mp ha with heq | ha
    · cases heq
      cases s with
      | none => rfl
      | some c =>
        have hc : c ≠ a := fun hca => hne (congrArg some hca)
        rw [finish, finish, if_pos rfl, Option.getD_some, if_neg hc]
    · have hab := (hrest _ ha).1
      have hsb : s.getD a ≠ b := by
        cases s with
        | none => exact hab
        | some c =>
          intro hcb
          apply (hrest _ ha).2 (congrArg some hcb)
      rw [finish, finish, if_neg hab, if_neg hsb]
      apply ih hl ha

theorem WellGrown.finish_of_none {l : History α} (h : WellGrown l) {a : α}
    (ha : (a, none) ∈ l) :
  finish l a = a
  := by
  induction l with
  | nil => cases ha
  | cons e l ih =>
    obtain ⟨b, t⟩ := e
    obtain ⟨-, hrest, hl⟩ := wellGrown_cons.mp h
    rcases List.mem_cons.mp ha with heq | ha
    · cases heq
      rw [finish, if_pos rfl, Option.getD_none]
      apply finish_of_notMem h.notMem_of_cons
    · rw [finish, if_neg (hrest _ ha).1]
      apply ih hl ha

/-- Each succession is one step on the way. -/
theorem WellGrown.depth_of_mem {l : History α} (h : WellGrown l) {a b : α}
    (ha : (a, some b) ∈ l) :
  depth l a = depth l b + 1
  := by
  induction l with
  | nil => cases ha
  | cons e l ih =>
    obtain ⟨c, t⟩ := e
    obtain ⟨hne, hrest, hl⟩ := wellGrown_cons.mp h
    rcases List.mem_cons.mp ha with heq | ha
    · cases heq
      have hba : b ≠ a := fun hba => hne (congrArg some hba)
      rw [depth, depth, if_pos rfl, if_neg hba, Option.getD_some]
    · have hac := (hrest _ ha).1
      have hbc : b ≠ c := fun hbc => (hrest _ ha).2 (congrArg some hbc)
      rw [depth, depth, if_neg hac, if_neg hbc]
      apply ih hl ha

/-- Who retires without a successor is the end of the way. -/
theorem WellGrown.depth_of_none {l : History α} (h : WellGrown l) {a : α}
    (ha : (a, none) ∈ l) :
  depth l a = 1
  := by
  induction l with
  | nil => cases ha
  | cons e l ih =>
    obtain ⟨b, t⟩ := e
    obtain ⟨hne, hrest, hl⟩ := wellGrown_cons.mp h
    rcases List.mem_cons.mp ha with heq | ha
    · cases heq
      rw [depth, if_pos rfl, Option.getD_none, depth_of_notMem h.notMem_of_cons]
    · rw [depth, if_neg (hrest _ ha).1]
      apply ih hl ha

theorem WellGrown.depth_pos {l : History α} (h : WellGrown l) {a : α} {s : Option α}
    (ha : (a, s) ∈ l) :
  0 < depth l a
  := by
  induction l with
  | nil => cases ha
  | cons e l ih =>
    obtain ⟨c, t⟩ := e
    obtain ⟨-, hrest, hl⟩ := wellGrown_cons.mp h
    rcases List.mem_cons.mp ha with heq | ha
    · cases heq
      rw [depth, if_pos rfl]
      omega
    · rw [depth, if_neg (hrest _ ha).1]
      apply ih hl ha

/-- Successions never come back. -/
theorem WellGrown.acyclic {l : History α} (h : WellGrown l) (a : α) :
  ¬ Relation.TransGen (Succeeds l) a a
  := by
  have hlt {a b : α} (hab : Relation.TransGen (Succeeds l) a b) : depth l b < depth l a := by
    induction hab with
    | single hab =>
      rw [h.depth_of_mem hab]
      omega
    | tail _ hbc ih =>
      rw [h.depth_of_mem hbc] at ih
      omega
  intro ha
  have := hlt ha
  omega

/-- The successions from anybody end in exactly one place. -/
theorem WellGrown.existsUnique_final {l : History α} (h : WellGrown l) (a : α) :
  Relation.ReflTransGen (Succeeds l) a (finish l a) ∧ Final l (finish l a)
    ∧ ∀ b, Relation.ReflTransGen (Succeeds l) a b → Final l b → b = finish l a
  := by
  induction hn : depth l a using Nat.strongRecOn generalizing a with
  | ind n ih =>
    by_cases hs : ∃ b, (a, some b) ∈ l
    · obtain ⟨b, hb⟩ := hs
      have hdepth := h.depth_of_mem hb
      obtain ⟨hreach, hfinal, hunique⟩ := ih (depth l b) (by omega) b rfl
      have hfinish : finish l a = finish l b := h.finish_of_mem hb
      rw [hfinish]
      use .head hb hreach, hfinal
      intro c hc hcfinal
      rcases Relation.ReflTransGen.cases_head hc with rfl | ⟨d, hd, hdc⟩
      · exact absurd hb (h.final_iff.mp hcfinal b)
      · cases h.eq_of_mem hb hd
        apply hunique c hdc hcfinal
    · have hfinal : Final l a := h.final_iff.mpr fun b hb => hs ⟨b, hb⟩
      have hfinish : finish l a = a := by
        rcases hfinal with hnone | hnone
        · apply finish_of_notMem hnone
        · apply h.finish_of_none hnone
      rw [hfinish]
      use .refl, hfinal
      intro b hb _
      rcases Relation.ReflTransGen.cases_head hb with rfl | ⟨d, hd, -⟩
      · rfl
      · exact absurd hd (h.final_iff.mp hfinal d)

end Succession
