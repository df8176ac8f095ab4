import Mathlib.Data.List.Forall2

/-!
# Scans with a limit

A scan goes through a list until it has found as many items as there is room for. A step looks at
one element of the list, and finds an item, finds none, or fails. A scan that does not fail has
found the first items that there are, in the order of the list.
-/

namespace Scan

variable {ε ε' α β γ δ : Type} {step : α → Except ε (Option β)} {step' : α → Except ε' (Option γ)}

/-- The items that are found as long as there is room. -/
def scan (step : α → Except ε (Option β)) : Nat → List α → Except ε (List β)
  | 0, _ => .ok []
  | _ + 1, [] => .ok []
  | room + 1, a :: rest =>
    match step a with
    | .error e => .error e
    | .ok none => scan step (room + 1) rest
    | .ok (some b) => (scan step room rest).map (b :: ·)

@[simp] theorem scan_nil (step : α → Except ε (Option β)) (room : Nat) :
  scan step room [] = .ok []
  := by
  cases room <;> rfl

theorem scan_cons_error {room : Nat} {a : α} {rest : List α} {e : ε} (h : step a = .error e) :
  scan step (room + 1) (a :: rest) = .error e
  := by
  rw [scan, h]

theorem scan_cons_none {room : Nat} {a : α} {rest : List α} (h : step a = .ok none) :
  scan step (room + 1) (a :: rest) = scan step (room + 1) rest
  := by
  rw [scan, h]

theorem scan_cons_some {room : Nat} {a : α} {b : β} {rest : List α}
    (h : step a = .ok (some b)) :
  scan step (room + 1) (a :: rest) = (scan step room rest).map (b :: ·)
  := by
  rw [scan, h]

theorem map_map (f : β → γ) (g : γ → δ) (x : Except ε β) :
  (x.map f).map g = x.map fun b => g (f b)
  := by
  cases x <;> rfl

theorem map_eq_ok {f : β → γ} {x : Except ε β} {c : γ} :
  x.map f = .ok c ↔ ∃ b, x = .ok b ∧ f b = c
  := by
  cases x <;> simp [Except.map]

theorem map_eq_error {f : β → γ} {x : Except ε β} {e : ε} :
  x.map f = .error e ↔ x = .error e
  := by
  cases x <;> simp [Except.map]

/-- What is found comes from the first elements that have an item, each from its own. -/
theorem forall₂_scan {p : α → Bool} {room : Nat} {l : List α} {out : List β}
    (hstep : ∀ a ∈ l, ∀ found, step a = .ok found → found.isSome = p a)
    (h : scan step room l = .ok out) :
  List.Forall₂ (fun a b => step a = .ok (some b)) ((l.filter p).take room) out
  := by
  induction l generalizing room out with
  | nil =>
    rw [scan_nil] at h
    cases h
    rw [List.filter_nil, List.take_nil]
    apply List.Forall₂.nil
  | cons a rest ih =>
    obtain ⟨ha, hrest⟩ := List.forall_mem_cons.mp hstep
    obtain _ | room := room
    · cases h
      rw [List.take_zero]
      apply List.Forall₂.nil
    match hfound : step a with
    | .error e =>
      rw [scan_cons_error hfound] at h
      cases h
    | .ok none =>
      rw [scan_cons_none hfound] at h
      rw [List.filter_cons_of_neg]
      · apply ih hrest h
      · rw [← ha none hfound]
        apply Bool.false_ne_true
    | .ok (some b) =>
      rw [scan_cons_some hfound] at h
      obtain ⟨out', hscan, rfl⟩ := map_eq_ok.mp h
      rw [List.filter_cons_of_pos (ha (some b) hfound).symm, List.take_succ_cons]
      exact List.Forall₂.cons hfound (ih hrest hscan)

/-- No more is found than there is room for. -/
theorem length_scan_le {room : Nat} {l : List α} {out : List β} (h : scan step room l = .ok out) :
  out.length ≤ room
  := by
  induction l generalizing room out with
  | nil =>
    rw [scan_nil] at h
    cases h
    apply Nat.zero_le
  | cons a rest ih =>
    obtain _ | room := room
    · cases h
      apply Nat.le_refl
    match hfound : step a with
    | .error e =>
      rw [scan_cons_error hfound] at h
      cases h
    | .ok none =>
      rw [scan_cons_none hfound] at h
      apply ih h
    | .ok (some b) =>
      rw [scan_cons_some hfound] at h
      obtain ⟨out', hscan, rfl⟩ := map_eq_ok.mp h
      apply Nat.succ_le_succ (ih hscan)

/-- A scan only fails where one of its steps does. -/
theorem exists_of_scan_eq_error {room : Nat} {l : List α} {e : ε}
    (h : scan step room l = .error e) :
  ∃ a ∈ l, step a = .error e
  := by
  induction l generalizing room with
  | nil =>
    rw [scan_nil] at h
    cases h
  | cons a rest ih =>
    obtain _ | room := room
    · cases h
    rw [List.exists_mem_cons_iff]
    match hfound : step a with
    | .error e' =>
      rw [scan_cons_error hfound] at h
      left
      apply congrArg Except.error (Except.error.inj h)
    | .ok none =>
      rw [scan_cons_none hfound] at h
      right
      apply ih h
    | .ok (some b) =>
      rw [scan_cons_some hfound] at h
      right
      apply ih (map_eq_error.mp h)

/-- A scan whose steps follow those of another one follows it. -/
theorem scan_simulates {R : β → γ → Prop} {room : Nat} {l : List α} {out : List β}
    (hstep : ∀ a ∈ l, ∀ found, step a = .ok found →
      ∃ found', step' a = .ok found' ∧ Option.Rel R found found')
    (h : scan step room l = .ok out) :
  ∃ out', scan step' room l = .ok out' ∧ List.Forall₂ R out out'
  := by
  induction l generalizing room out with
  | nil =>
    rw [scan_nil] at h
    cases h
    use [], scan_nil step' room
    apply List.Forall₂.nil
  | cons a rest ih =>
    obtain ⟨ha, hrest⟩ := List.forall_mem_cons.mp hstep
    obtain _ | room := room
    · cases h
      use [], rfl
      apply List.Forall₂.nil
    match hfound : step a with
    | .error e =>
      rw [scan_cons_error hfound] at h
      cases h
    | .ok none =>
      rw [scan_cons_none hfound] at h
      obtain ⟨_, hfound', ⟨⟩⟩ := ha none hfound
      rw [scan_cons_none hfound']
      apply ih hrest h
    | .ok (some b) =>
      rw [scan_cons_some hfound] at h
      obtain ⟨_, hfound', ⟨hb⟩⟩ := ha (some b) hfound
      rw [scan_cons_some hfound']
      obtain ⟨out', hscan, rfl⟩ := map_eq_ok.mp h
      obtain ⟨out'', hscan', hout⟩ := ih hrest hscan
      rw [hscan']
      exact ⟨_, rfl, List.Forall₂.cons hb hout⟩

/-! ### Where a scan fails -/

/-- An element that fails comes as long as there is room for what is found before it. -/
def Blocked (fails : α → Prop) (p : α → Bool) (room : Nat) (l : List α) : Prop :=
  ∃ before a after, l = before ++ a :: after ∧ fails a ∧ (before.filter p).length < room

theorem not_blocked_nil {fails : α → Prop} {p : α → Bool} {room : Nat} :
  ¬ Blocked fails p room []
  := by
  rintro ⟨before, a, after, h, -⟩
  cases before <;> cases h

/-- A scan fails exactly where an element that fails comes as long as there is room. -/
theorem scan_fails_iff {p : α → Bool} {room : Nat} {l : List α}
    (hstep : ∀ a ∈ l, ∀ found, step a = .ok found → found.isSome = p a) :
  (∃ e, scan step room l = .error e) ↔ Blocked (fun a => ∃ e, step a = .error e) p room l
  := by
  induction l generalizing room with
  | nil =>
    rw [scan_nil]
    apply iff_of_false _ not_blocked_nil
    rintro ⟨e, ⟨⟩⟩
  | cons a rest ih =>
    obtain ⟨ha, hrest⟩ := List.forall_mem_cons.mp hstep
    obtain _ | room := room
    · constructor
      · rintro ⟨e, ⟨⟩⟩
      · rintro ⟨before, b, after, -, -, hroom⟩
        exact absurd hroom (Nat.not_lt_zero _)
    -- An element that does not fail leaves the rest of the list, and of the room.
    have hskip {found : Option β} {left : Nat} (hfound : step a = .ok found)
        (hleft : ∀ before : List α,
          ((a :: before).filter p).length < room + 1 ↔ (before.filter p).length < left) :
        Blocked (fun a => ∃ e, step a = .error e) p (room + 1) (a :: rest)
          ↔ Blocked (fun a => ∃ e, step a = .error e) p left rest := by
      constructor
      · rintro ⟨_ | ⟨_, before⟩, b, after, hl, hfails, hroom⟩
        · obtain ⟨rfl, rfl⟩ := List.cons.inj hl
          rw [hfound] at hfails
          obtain ⟨e, ⟨⟩⟩ := hfails
        · obtain ⟨rfl, rfl⟩ := List.cons.inj hl
          exact ⟨before, b, after, rfl, hfails, (hleft before).mp hroom⟩
      · rintro ⟨before, b, after, rfl, hfails, hroom⟩
        exact ⟨a :: before, b, after, rfl, hfails, (hleft before).mpr hroom⟩
    match hfound : step a with
    | .error e =>
      rw [scan_cons_error hfound]
      constructor
      · intro _
        exact ⟨[], a, rest, rfl, ⟨e, hfound⟩, Nat.succ_pos room⟩
      · intro _
        exact ⟨e, rfl⟩
    | .ok none =>
      have hpa : p a = false := (ha none hfound).symm
      rw [scan_cons_none hfound, ih hrest, hskip hfound]
      intro before
      rw [List.filter_cons_of_neg (by simp [hpa])]
    | .ok (some b) =>
      have hpa : p a = true := (ha (some b) hfound).symm
      simp only [scan_cons_some hfound, map_eq_error]
      rw [ih hrest, hskip hfound]
      intro before
      rw [List.filter_cons_of_pos hpa, List.length_cons, Nat.add_lt_add_iff_right]

/-! ### Elements that differ by a key -/

section Keys

variable {κ : Type} [DecidableEq κ] {f : α → κ} {l m m' : List α}

/-- What is left of a list is told by the keys. -/
theorem eq_filter_of_sublist (h : m.Sublist l) (hdistinct : l.Pairwise fun a b => f a ≠ f b) :
  m = l.filter fun a => f a ∈ m.map f
  := by
  induction h with
  | slnil => rfl
  | cons a h ih =>
    obtain ⟨ha, hrest⟩ := List.pairwise_cons.mp hdistinct
    rw [List.filter_cons_of_neg, ← ih hrest]
    rw [decide_eq_true_iff, List.mem_map]
    rintro ⟨b, hb, heq⟩
    exact ha b (h.subset hb) heq.symm
  | cons_cons a h ih =>
    obtain ⟨ha, hrest⟩ := List.pairwise_cons.mp hdistinct
    rw [List.filter_cons_of_pos (by simp)]
    apply congrArg (a :: ·)
    conv_lhs => rw [ih hrest]
    apply List.filter_congr
    intro b hb
    rw [decide_eq_decide, List.map_cons, List.mem_cons, or_iff_right (ha b hb).symm]

/-- Two parts of a list with the same keys are the same. -/
theorem eq_of_keys (h : m.Sublist l) (h' : m'.Sublist l)
    (hdistinct : l.Pairwise fun a b => f a ≠ f b) (hkeys : ∀ k, k ∈ m.map f ↔ k ∈ m'.map f) :
  m = m'
  := by
  rw [eq_filter_of_sublist h hdistinct, eq_filter_of_sublist h' hdistinct]
  apply List.filter_congr
  intro a _
  rw [decide_eq_decide]
  exact hkeys (f a)

end Keys

theorem map_eq_of_forall₂ {κ : Type} {R : α → β → Prop} {f : α → κ} {g : β → κ} {l : List α}
    {out : List β} (h : List.Forall₂ R l out) (hR : ∀ a b, R a b → g b = f a) :
  out.map g = l.map f
  := by
  induction h with
  | nil => rfl
  | cons hab _ ih => rw [List.map_cons, List.map_cons, hR _ _ hab, ih]

/-- What two scans find in the same elements is the same if the steps agree. -/
theorem eq_of_forall₂ {R R' : α → β → Prop} {l : List α} {out out' : List β}
    (hagree : ∀ a b b', R a b → R' a b' → b = b') (h : List.Forall₂ R l out)
    (h' : List.Forall₂ R' l out') :
  out = out'
  := by
  induction h generalizing out' with
  | nil =>
    cases h'
    rfl
  | cons hab _ ih =>
    obtain _ | ⟨hab', hrest'⟩ := h'
    rw [hagree _ _ _ hab hab', ih hrest']

/-- Whether a scan goes through, and what is seen of what it finds. One that fails finds
nothing. -/
def outcome (view : List β → γ) : Except ε (List β) → Bool × γ
  | .ok out => (true, view out)
  | .error _ => (false, view [])

/-- Two scans of a list come to the same exactly when both fail, or none does and they find
something in the same elements. What they find tells the elements by a key. -/
theorem outcome_eq_iff {κ : Type} [DecidableEq κ] {step step' : α → Except ε (Option β)}
    {p p' : α → Bool} {f : α → κ} {g : β → κ} {view : List β → γ} {room : Nat} {l : List α}
    (hdistinct : l.Pairwise fun a b => f a ≠ f b)
    (hp : ∀ a found, step a = .ok found → found.isSome = p a)
    (hp' : ∀ a found, step' a = .ok found → found.isSome = p' a)
    (hkey : ∀ a b, step a = .ok (some b) → g b = f a)
    (hkey' : ∀ a b, step' a = .ok (some b) → g b = f a)
    (hagree : ∀ a b b', step a = .ok (some b) → step' a = .ok (some b') → b = b')
    (hview : ∀ out out', view out = view out' → ∀ k, k ∈ out.map g ↔ k ∈ out'.map g) :
  outcome view (scan step room l) = outcome view (scan step' room l) ↔
    Blocked (fun a => ∃ e, step a = .error e) p room l
        ∧ Blocked (fun a => ∃ e, step' a = .error e) p' room l
      ∨ ¬ Blocked (fun a => ∃ e, step a = .error e) p room l
        ∧ ¬ Blocked (fun a => ∃ e, step' a = .error e) p' room l
        ∧ (l.filter p).take room = (l.filter p').take room
  := by
  rw [← scan_fails_iff fun a _ => hp a, ← scan_fails_iff fun a _ => hp' a]
  cases hscan : scan step room l with
  | error e =>
    cases hscan' : scan step' room l with
    | error e' => simp [outcome]
    | ok out' => simp [outcome]
  | ok out =>
    cases hscan' : scan step' room l with
    | error e' => simp [outcome]
    | ok out' =>
      have hfound := forall₂_scan (fun a _ => hp a) hscan
      have hfound' := forall₂_scan (fun a _ => hp' a) hscan'
      have hsame : view out = view out' ↔ (l.filter p).take room = (l.filter p').take room := by
        constructor
        · intro h
          have hkeys := map_eq_of_forall₂ hfound hkey
          have hkeys' := map_eq_of_forall₂ hfound' hkey'
          apply eq_of_keys ((List.take_sublist room _).trans List.filter_sublist)
            ((List.take_sublist room _).trans List.filter_sublist) hdistinct
          rw [← hkeys, ← hkeys']
          exact hview out out' h
        · intro h
          rw [h] at hfound
          rw [eq_of_forall₂ hagree hfound hfound']
      simpa [outcome] using hsame

/-! ### Items of two kinds -/

/-- The items of the first kind. -/
def lefts (l : List (β ⊕ γ)) : List β :=
  l.filterMap Sum.getLeft?

/-- The items of the second kind. -/
def rights (l : List (β ⊕ γ)) : List γ :=
  l.filterMap Sum.getRight?

@[simp] theorem lefts_cons_inl (b : β) (l : List (β ⊕ γ)) :
  lefts (.inl b :: l) = b :: lefts l
  := rfl

@[simp] theorem lefts_cons_inr (c : γ) (l : List (β ⊕ γ)) :
  lefts (.inr c :: l) = lefts l
  := rfl

@[simp] theorem rights_cons_inl (b : β) (l : List (β ⊕ γ)) :
  rights (.inl b :: l) = rights l
  := rfl

@[simp] theorem rights_cons_inr (c : γ) (l : List (β ⊕ γ)) :
  rights (.inr c :: l) = c :: rights l
  := rfl

theorem lefts_cons (item : β ⊕ γ) (l : List (β ⊕ γ)) :
  lefts (item :: l) = lefts [item] ++ lefts l
  := List.filterMap_append (l := [item])

theorem rights_cons (item : β ⊕ γ) (l : List (β ⊕ γ)) :
  rights (item :: l) = rights [item] ++ rights l
  := List.filterMap_append (l := [item])

theorem length_lefts_add_length_rights (l : List (β ⊕ γ)) :
  (lefts l).length + (rights l).length = l.length
  := by
  induction l with
  | nil => rfl
  | cons item l ih =>
    obtain b | c := item
    · rw [lefts_cons_inl, rights_cons_inl, List.length_cons, List.length_cons, ← ih]
      omega
    · rw [lefts_cons_inr, rights_cons_inr, List.length_cons, List.length_cons, ← ih]
      omega

/-- The items of each kind come from the elements that have one of that kind. -/
theorem forall₂_lefts_rights {R : α → β ⊕ γ → Prop} {p : α → Bool} {l : List α}
    {items : List (β ⊕ γ)} (hp : ∀ a ∈ l, ∀ item, R a item → item.isLeft = p a)
    (h : List.Forall₂ R l items) :
  List.Forall₂ (fun a b => R a (.inl b)) (l.filter p) (lefts items)
    ∧ List.Forall₂ (fun a c => R a (.inr c)) (l.filter fun a => !p a) (rights items)
  := by
  induction h with
  | nil => exact ⟨.nil, .nil⟩
  | cons hitem _ ih =>
    obtain ⟨ha, hrest⟩ := List.forall_mem_cons.mp hp
    obtain ⟨ihlefts, ihrights⟩ := ih hrest
    rename_i a item l items _
    have hpa := ha item hitem
    obtain b | c := item
    · rw [List.filter_cons_of_pos hpa.symm, List.filter_cons_of_neg (by simp [← hpa])]
      exact ⟨.cons hitem ihlefts, ihrights⟩
    · rw [List.filter_cons_of_neg (by simp [← hpa]), List.filter_cons_of_pos (by simp [← hpa])]
      exact ⟨ihlefts, .cons hitem ihrights⟩

end Scan
