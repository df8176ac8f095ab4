import Mathlib.Data.List.Basic

/-!
# Joined fields

Fields are written one after the other with a separator between them, and nothing marks the
separators that a field has itself. A field is admitted when something in it is solid, which the
separator is not. Such fields can be told from what they are joined to exactly when no separator
in them may also be read as one between two admitted fields.
-/

namespace Joined

variable {α : Type} {sep : α} {solid : α → Prop}

/-- The fields with a separator between any two of them. -/
def join (sep : α) : List (List α) → List α
  | [] => []
  | [f] => f
  | f :: g :: rest => f ++ sep :: join sep (g :: rest)

theorem join_cons_cons (f g : List α) (rest : List (List α)) :
  join sep (f :: g :: rest) = f ++ sep :: join sep (g :: rest)
  := rfl

theorem join_cons_of_ne_nil (f : List α) {rest : List (List α)} (h : rest ≠ []) :
  join sep (f :: rest) = f ++ sep :: join sep rest
  := by
  cases rest with
  | nil => contradiction
  | cons g rest => rfl

/-- What stands before a separator can be read as a part of the first field. -/
theorem join_append_cons (u v : List α) (rest : List (List α)) :
  join sep ((u ++ sep :: v) :: rest) = u ++ sep :: join sep (v :: rest)
  := by
  cases rest with
  | nil => rfl
  | cons g rest => rw [join_cons_cons, join_cons_cons, List.append_assoc, List.cons_append]

/-- What the fields have to have. -/
def Filled (solid : α → Prop) (f : List α) : Prop :=
  ∃ a ∈ f, solid a

instance [DecidablePred solid] (f : List α) : Decidable (Filled solid f) :=
  inferInstanceAs (Decidable (∃ a ∈ f, solid a))

theorem Filled.append_right {u : List α} (h : Filled solid u) (v : List α) :
  Filled solid (u ++ v)
  := by
  obtain ⟨a, ha, hsolid⟩ := h
  exact ⟨a, List.mem_append_left v ha, hsolid⟩

theorem Filled.append_left {v : List α} (h : Filled solid v) (u : List α) :
  Filled solid (u ++ v)
  := by
  obtain ⟨a, ha, hsolid⟩ := h
  exact ⟨a, List.mem_append_right u ha, hsolid⟩

/-- Around a separator that is not solid one of the sides is filled. -/
theorem filled_of_append_cons (hsep : ¬ solid sep) {u v : List α}
    (h : Filled solid (u ++ sep :: v)) :
  Filled solid u ∨ Filled solid v
  := by
  obtain ⟨a, ha, hsolid⟩ := h
  rw [List.mem_append, List.mem_cons] at ha
  obtain ha | rfl | ha := ha
  · left
    use a
  · contradiction
  · right
    use a

/-- No separator in the fields can be read as one between them: where a field has one, what is
before it cannot be a field if others come after, and what is after it cannot be a field if others
come before, as `left` says of the first of the fields. -/
def Tight (sep : α) (solid : α → Prop) : Bool → List (List α) → Prop
  | _, [] => True
  | left, f :: rest =>
    (∀ u v, f = u ++ sep :: v → (rest ≠ [] → ¬ Filled solid u) ∧ (left = true → ¬ Filled solid v))
      ∧ Tight sep solid true rest

/-! ### Tight fields are read back -/

/-- Two ways to read the same text before a separator: as the same, or one of them goes past the
separator at which the other ends. -/
theorem append_cons_cases {f g x y : List α} (h : f ++ sep :: x = g ++ sep :: y) :
  (f = g ∧ x = y) ∨ (∃ w, f = g ++ sep :: w ∧ y = w ++ sep :: x)
    ∨ ∃ w, g = f ++ sep :: w ∧ x = w ++ sep :: y
  := by
  obtain ⟨w, hg, hx⟩ | ⟨w, hf, hy⟩ := List.append_eq_append_iff.mp h
  · cases w with
    | nil =>
      injection hx with _ hx
      left
      use (hg.trans (List.append_nil f)).symm
    | cons a w =>
      injection hx with ha hx
      subst ha
      right
      right
      use w, hg, hx
  · cases w with
    | nil =>
      injection hy with _ hy
      left
      use hf.trans (List.append_nil g), hy.symm
    | cons a w =>
      injection hy with ha hy
      subst ha
      right
      left
      use w, hf, hy

theorem filled_join {f : List α} (h : Filled solid f) (rest : List (List α)) :
  Filled solid (join sep (f :: rest))
  := by
  cases rest with
  | nil => apply h
  | cons g rest => apply h.append_right

theorem ne_nil_of_length_eq {fs gs : List (List α)} (h : gs.length = fs.length) (hfs : fs ≠ []) :
  gs ≠ []
  := by
  rw [← List.length_pos_iff, h, List.length_pos_iff]
  apply hfs

/-- A tight field with others before it has no part before a separator and a part after it that
both others follow. -/
theorem Tight.ne_of_rest (hsep : ¬ solid sep) {f : List α} {rest : List (List α)}
    (htight : Tight sep solid true (f :: rest)) (hrest : rest ≠ []) (hf : Filled solid f)
    (u v : List α) :
  f ≠ u ++ sep :: v
  := by
  intro heq
  obtain ⟨hu, hv⟩ := htight.1 u v heq
  rw [heq] at hf
  obtain hf | hf := filled_of_append_cons hsep hf
  · apply hu hrest hf
  · apply hv rfl hf

/-- A field between others is tight when no separator is in it. -/
theorem tight_cons_iff (hsep : ¬ solid sep) {f : List α} {rest : List (List α)}
    (hrest : rest ≠ []) (hf : Filled solid f) :
  Tight sep solid true (f :: rest) ↔ sep ∉ f ∧ Tight sep solid true rest
  := by
  constructor
  · intro h
    use ?_, h.2
    intro hmem
    obtain ⟨u, v, huv⟩ := List.append_of_mem hmem
    apply h.ne_of_rest hsep hrest hf u v huv
  · rintro ⟨hmem, hrest⟩
    use ?_, hrest
    rintro u v rfl
    simp at hmem

/-- Tight fields with others before them are not read as more fields than they are. -/
theorem Tight.join_ne (hsep : ¬ solid sep) {fs : List (List α)} (htight : Tight sep solid true fs)
    (hne : fs ≠ []) (hfs : ∀ f ∈ fs, Filled solid f) {g : List α} {gs : List (List α)}
    (hgs : ∀ f ∈ gs, Filled solid f) (hlength : fs.length ≤ gs.length) :
  join sep fs ≠ join sep (g :: gs)
  := by
  induction fs generalizing g gs with
  | nil => contradiction
  | cons f rest ih =>
    intro heq
    cases gs with
    | nil => cases hlength
    | cons g' gs =>
      rw [List.forall_mem_cons] at hfs
      rw [join_cons_cons] at heq
      by_cases hrest : rest = []
      · -- The only field has a separator before something filled.
        subst hrest
        apply (htight.1 g _ heq).2 rfl
        apply filled_join (hgs g' List.mem_cons_self)
      · have hlonger : rest.length ≤ gs.length := Nat.le_of_succ_le_succ hlength
        rw [join_cons_of_ne_nil f hrest] at heq
        obtain ⟨-, heq⟩ | ⟨w, hf, -⟩ | ⟨w, -, heq⟩ := append_cons_cases heq
        · apply ih htight.2 hrest hfs.2 (List.forall_mem_cons.mp hgs).2 hlonger heq
        · apply htight.ne_of_rest hsep hrest hfs.1 g w hf
        · -- What is read in its place is longer, and the next ones are read from its end.
          apply ih htight.2 hrest hfs.2 (g := w) hgs (Nat.le_succ_of_le hlonger)
          rw [heq, join_cons_cons]

/-- Tight fields are the only ones of their number that are joined to what they are. -/
theorem Tight.eq_of_join (hsep : ¬ solid sep) {left : Bool} {fs gs : List (List α)}
    (htight : Tight sep solid left fs) (hfs : ∀ f ∈ fs, Filled solid f)
    (hgs : ∀ f ∈ gs, Filled solid f) (hlength : gs.length = fs.length)
    (heq : join sep gs = join sep fs) :
  gs = fs
  := by
  induction fs generalizing left gs with
  | nil => apply List.length_eq_zero_iff.mp hlength
  | cons f rest ih =>
    cases gs with
    | nil => cases hlength
    | cons g gs =>
      rw [List.forall_mem_cons] at hfs hgs
      have hlength' : gs.length = rest.length := Nat.succ.inj hlength
      by_cases hrest : rest = []
      · subst hrest
        rw [List.length_eq_zero_iff.mp hlength'] at heq ⊢
        rw [show g = f from heq]
      · have hgs' : gs ≠ [] := ne_nil_of_length_eq hlength' hrest
        rw [join_cons_of_ne_nil f hrest, join_cons_of_ne_nil g hgs'] at heq
        obtain ⟨rfl, htail⟩ | ⟨w, -, heq⟩ | ⟨w, hf, -⟩ := append_cons_cases heq
        · rw [ih htight.2 hfs.2 hgs.2 hlength' htail]
        · rw [← join_cons_of_ne_nil w hgs'] at heq
          have hne := htight.2.join_ne hsep hrest hfs.2 (g := w) hgs.2
            (Nat.le_of_eq hlength'.symm)
          contradiction
        · have := (htight.1 g w hf).1 hrest hgs.1
          contradiction

/-! ### Fields that are not tight are read in another way -/

/-- A separator in the fields that can be read as one between them gives other fields, or, when
there are fields before them, as many with something before. -/
theorem exists_join_of_not_tight {left : Bool} {fs : List (List α)}
    (h : ¬ Tight sep solid left fs) (hfs : ∀ f ∈ fs, Filled solid f) :
  (∃ gs, gs ≠ fs ∧ gs.length = fs.length ∧ (∀ f ∈ gs, Filled solid f) ∧ join sep gs = join sep fs)
    ∨ left = true ∧ ∃ u gs, gs ≠ [] ∧ gs.length = fs.length ∧ (∀ f ∈ gs, Filled solid f)
      ∧ join sep fs = u ++ sep :: join sep gs
  := by
  induction fs generalizing left with
  | nil =>
    rw [Tight] at h
    contradiction
  | cons f rest ih =>
    rw [List.forall_mem_cons] at hfs
    by_cases hrest : Tight sep solid true rest
    · have hf : ∃ u v, f = u ++ sep :: v
          ∧ ((rest ≠ [] ∧ Filled solid u) ∨ (left = true ∧ Filled solid v)) := by
        by_contra hno
        apply h
        use ?_, hrest
        intro u v heq
        constructor
        · intro hne hu
          exact hno ⟨u, v, heq, Or.inl ⟨hne, hu⟩⟩
        · intro hleft hv
          exact hno ⟨u, v, heq, Or.inr ⟨hleft, hv⟩⟩
      obtain ⟨u, v, rfl, ⟨hne, hu⟩ | ⟨hleft, hv⟩⟩ := hf
      · -- The part after the separator goes to the next field.
        left
        obtain ⟨g, rest, rfl⟩ := List.exists_cons_of_ne_nil hne
        rw [List.forall_mem_cons] at hfs
        use u :: (v ++ sep :: g) :: rest
        constructor
        · intro heq
          have hlength := congrArg List.length (List.head_eq_of_cons_eq heq)
          simp at hlength
        · use rfl
          constructor
          · rw [List.forall_mem_cons, List.forall_mem_cons]
            use hu, (hfs.2.1.append_left [sep]).append_left v
            apply hfs.2.2
          · rw [join_cons_cons, join_append_cons, join_append_cons, join_cons_cons]
      · -- The part before the separator is left over.
        right
        use hleft, u, v :: rest, List.cons_ne_nil _ _, rfl
        constructor
        · rw [List.forall_mem_cons]
          use hv, hfs.2
        · apply join_append_cons
    · left
      obtain ⟨gs, hne, hlength, hgs, heq⟩ | ⟨-, u, gs, hne, hlength, hgs, heq⟩ := ih hrest hfs.2
      · have hgs' : gs ≠ [] := by
          rintro rfl
          apply hne (List.length_eq_zero_iff.mp hlength.symm).symm
        have hrest' : rest ≠ [] := ne_nil_of_length_eq hlength.symm hgs'
        use f :: gs
        constructor
        · intro h
          apply hne (List.tail_eq_of_cons_eq h)
        · use congrArg Nat.succ hlength, List.forall_mem_cons.mpr ⟨hfs.1, hgs⟩
          rw [join_cons_of_ne_nil f hgs', join_cons_of_ne_nil f hrest', heq]
      · -- The field takes the part that is left over.
        have hrest' : rest ≠ [] := ne_nil_of_length_eq hlength.symm hne
        use (f ++ sep :: u) :: gs
        constructor
        · intro h
          have hlength' := congrArg List.length (List.head_eq_of_cons_eq h)
          simp at hlength'
        · use congrArg Nat.succ hlength,
            List.forall_mem_cons.mpr ⟨hfs.1.append_right _, hgs⟩
          rw [join_append_cons, join_cons_of_ne_nil u hne, join_cons_of_ne_nil f hrest', heq]

/-- Among as many fields, all filled, those that are tight are the ones that can be told from what
they are joined to. -/
theorem tight_iff (hsep : ¬ solid sep) {fs : List (List α)} (hfs : ∀ f ∈ fs, Filled solid f) :
  Tight sep solid false fs
    ↔ ∀ gs : List (List α), gs.length = fs.length → (∀ f ∈ gs, Filled solid f) →
      join sep gs = join sep fs → gs = fs
  := by
  constructor
  · intro htight gs hlength hgs heq
    apply htight.eq_of_join hsep hfs hgs hlength heq
  · intro hread
    by_contra hloose
    obtain ⟨gs, hne, hlength, hgs, heq⟩ | ⟨⟨⟩, -⟩ := exists_join_of_not_tight hloose hfs
    apply hne
    apply hread gs hlength hgs heq

end Joined
