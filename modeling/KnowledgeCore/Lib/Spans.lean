import Mathlib.Data.List.Basic

/-!
# Spans between delimiters

A span is an opening element, then elements that do not close it, at least one, and then one that
does. The spans of a list are removed from the left. What is removed of two lists behind one
another is what is removed of each, unless a span starts in the one and ends in the other.
-/

namespace Spans

variable {α β : Type*} (isOpen isClose : α → Bool)

/-- What follows an opening element makes a span with it. -/
def closes : List α → Bool
  | [] => false
  | a :: rest => !isClose a && rest.any isClose

/-- Remove the spans of a list. In a span everything goes, up to the element that closes it. -/
def remove (inside : Bool) : List α → List α
  | [] => []
  | a :: rest =>
    if inside then remove (!isClose a) rest
    else if isOpen a && closes isClose rest then remove true rest
    else a :: remove false rest

/-- A list without its spans. -/
def strip (l : List α) : List α :=
  remove isOpen isClose false l

/-- A span that starts in one list and ends in the next. -/
def Crosses (l m : List α) : Prop :=
  ∃ before a after start c rest, l = before ++ a :: after ∧ m = start ++ c :: rest
    ∧ isOpen a = true ∧ isClose c = true ∧ (∀ b ∈ after, isClose b = false)
    ∧ (∀ b ∈ start, isClose b = false) ∧ after ++ start ≠ []

/-- A list has a span. -/
def HasSpan (l : List α) : Prop :=
  ∃ before a between c rest, l = before ++ a :: (between ++ c :: rest) ∧ isOpen a = true
    ∧ isClose c = true ∧ (∀ b ∈ between, isClose b = false) ∧ between ≠ []

/-- No span starts in one list and ends in one behind it. -/
def Apart : List (List α) → Prop
  | [] => True
  | l :: rest => ¬ Crosses isOpen isClose l rest.flatten ∧ Apart rest

variable {isOpen isClose} {l m : List α}

/-! ### The first element that closes -/

theorem exists_first {l : List α} (h : l.any isClose = true) :
  ∃ start c rest, l = start ++ c :: rest ∧ isClose c = true ∧ ∀ b ∈ start, isClose b = false
  := by
  cases hfind : l.find? isClose with
  | none =>
    obtain ⟨a, ha, hclose⟩ := List.any_eq_true.mp h
    exact absurd hclose (List.find?_eq_none.mp hfind a ha)
  | some c =>
    obtain ⟨hc, start, rest, hl, hstart⟩ := List.find?_eq_some_iff_append.mp hfind
    use start, c, rest, hl, hc
    intro b hb
    exact (Bool.not_eq_true' _).mp (hstart b hb)

theorem any_eq_false {l : List α} :
  l.any isClose = false ↔ ∀ b ∈ l, isClose b = false
  := by
  simp [List.any_eq_false]

theorem closes_iff {rest : List α} :
  closes isClose rest = true
    ↔ ∃ between c after, rest = between ++ c :: after ∧ isClose c = true
      ∧ (∀ b ∈ between, isClose b = false) ∧ between ≠ []
  := by
  cases rest with
  | nil => simp [closes]
  | cons a rest =>
    rw [closes, Bool.and_eq_true, Bool.not_eq_true']
    constructor
    · rintro ⟨ha, hany⟩
      obtain ⟨start, c, after, rfl, hc, hstart⟩ := exists_first hany
      use a :: start, c, after, rfl, hc
      constructor
      · intro b hb
        obtain rfl | hb := List.mem_cons.mp hb
        · exact ha
        · exact hstart b hb
      · apply List.cons_ne_nil
    · rintro ⟨between, c, after, heq, hc, hbetween, hne⟩
      cases between with
      | nil => exact absurd rfl hne
      | cons b between =>
        obtain ⟨rfl, rfl⟩ := List.cons.inj heq
        use hbetween a List.mem_cons_self
        rw [List.any_eq_true]
        use c, List.mem_append_right _ List.mem_cons_self

/-- In a span everything goes up to the element that closes it. -/
theorem remove_true {start rest : List α} {c : α} (hc : isClose c = true)
    (hstart : ∀ b ∈ start, isClose b = false) :
  remove isOpen isClose true (start ++ c :: rest) = strip isOpen isClose rest
  := by
  induction start with
  | nil =>
    rw [List.nil_append, remove, if_pos rfl, hc]
    rfl
  | cons b start ih =>
    rw [List.cons_append, remove, if_pos rfl, hstart b List.mem_cons_self]
    exact ih fun d hd => hstart d (List.mem_cons_of_mem b hd)

theorem remove_subset (inside : Bool) (l : List α) :
  remove isOpen isClose inside l ⊆ l
  := by
  induction l generalizing inside with
  | nil => exact List.Subset.refl _
  | cons a l ih =>
    rw [remove]
    split_ifs
    · exact List.subset_cons_of_subset a (ih _)
    · exact List.subset_cons_of_subset a (ih _)
    · exact List.cons_subset_cons a (ih _)

/-- Without an element that closes there are no spans. -/
theorem strip_of_open (h : ∀ b ∈ l, isClose b = false) :
  strip isOpen isClose l = l
  := by
  induction l with
  | nil => rfl
  | cons a l ih =>
    have hrest : ∀ b ∈ l, isClose b = false := fun b hb => h b (List.mem_cons_of_mem a hb)
    have hcloses : closes isClose l = false := by
      cases l with
      | nil => rfl
      | cons b l =>
        rw [closes, any_eq_false.mpr fun d hd => hrest d (List.mem_cons_of_mem b hd),
          Bool.and_false]
    rw [strip, remove, if_neg Bool.false_ne_true, hcloses, Bool.and_false,
      if_neg Bool.false_ne_true]
    exact congrArg (a :: ·) (ih hrest)

/-- What is removed does not depend on what the elements carry besides. -/
theorem map_strip {isOpen isClose : β → Bool} (value : α → β) (l : List α) :
  (strip (fun a => isOpen (value a)) (fun a => isClose (value a)) l).map value
    = strip isOpen isClose (l.map value)
  := by
  have hcloses (rest : List α) :
      closes isClose (rest.map value) = closes (fun a => isClose (value a)) rest := by
    cases rest with
    | nil => rfl
    | cons b rest =>
      rw [List.map_cons, closes, closes, List.any_map]
      rfl
  have hboth (inside : Bool) :
      (remove (fun a => isOpen (value a)) (fun a => isClose (value a)) inside l).map value
        = remove isOpen isClose inside (l.map value) := by
    induction l generalizing inside with
    | nil => rfl
    | cons a rest ih =>
      rw [List.map_cons, remove, remove, hcloses]
      split_ifs
      · exact ih _
      · exact ih _
      · rw [List.map_cons, ih]
  exact hboth false

/-! ### Two lists behind one another -/

theorem Crosses.cons {a : α} (h : Crosses isOpen isClose l m) :
  Crosses isOpen isClose (a :: l) m
  := by
  obtain ⟨before, b, after, start, c, rest, rfl, rfl, hrest⟩ := h
  use a :: before, b, after, start, c, rest, rfl, rfl

theorem Crosses.map {isOpen isClose : β → Bool} {value : α → β}
    (h : Crosses (fun a => isOpen (value a)) (fun a => isClose (value a)) l m) :
  Crosses isOpen isClose (l.map value) (m.map value)
  := by
  obtain ⟨before, a, after, start, c, rest, rfl, rfl, ha, hc, hafter, hstart, hne⟩ := h
  use before.map value, value a, after.map value, start.map value, value c, rest.map value
  refine ⟨by simp, by simp, ha, hc, ?_, ?_, ?_⟩
  · rwa [List.forall_mem_map]
  · rwa [List.forall_mem_map]
  · rwa [← List.map_append, ne_eq, List.map_eq_nil_iff]

theorem HasSpan.map {isOpen isClose : β → Bool} {value : α → β}
    (h : HasSpan (fun a => isOpen (value a)) (fun a => isClose (value a)) l) :
  HasSpan isOpen isClose (l.map value)
  := by
  obtain ⟨before, a, between, c, rest, rfl, ha, hc, hbetween, hne⟩ := h
  use before.map value, value a, between.map value, value c, rest.map value
  refine ⟨by simp, ha, hc, ?_, ?_⟩
  · rwa [List.forall_mem_map]
  · rwa [ne_eq, List.map_eq_nil_iff]

/-- Lists are apart if what their elements carry is. -/
theorem Apart.of_map {isOpen isClose : β → Bool} {value : α → β} {lists : List (List α)}
    (h : Apart isOpen isClose (lists.map (List.map value))) :
  Apart (fun a => isOpen (value a)) (fun a => isClose (value a)) lists
  := by
  induction lists with
  | nil => trivial
  | cons l rest ih =>
    obtain ⟨hfirst, hrest⟩ := h
    refine ⟨fun hcross => hfirst ?_, ih hrest⟩
    rw [← List.map_flatten]
    exact hcross.map

theorem not_crosses_of_not_open (h : ∀ a ∈ l, isOpen a = false) :
  ¬ Crosses isOpen isClose l m
  := by
  rintro ⟨before, a, after, -, -, -, rfl, -, ha, -⟩
  rw [h a (List.mem_append_right _ List.mem_cons_self)] at ha
  cases ha

theorem not_crosses_of_not_close (h : ∀ c ∈ m, isClose c = false) :
  ¬ Crosses isOpen isClose l m
  := by
  rintro ⟨-, -, -, start, c, rest, -, rfl, -, hc, -⟩
  rw [h c (List.mem_append_right _ List.mem_cons_self)] at hc
  cases hc

/-- What makes a span only across two lists has nothing in the first that closes it. -/
theorem crosses_of_closes (hclosed : closes isClose l = false)
    (hcloses : closes isClose (l ++ m) = true) :
  (∀ b ∈ l, isClose b = false) ∧ ∃ start c rest, m = start ++ c :: rest ∧ isClose c = true
    ∧ (∀ b ∈ start, isClose b = false) ∧ l ++ start ≠ []
  := by
  cases l with
  | nil =>
    obtain ⟨start, c, rest, hm, hc, hstart, hne⟩ := closes_iff.mp hcloses
    use fun b hb => absurd hb List.not_mem_nil, start, c, rest, hm, hc, hstart
    exact hne
  | cons b l =>
    rw [List.cons_append, closes, Bool.and_eq_true, List.any_append, Bool.or_eq_true] at hcloses
    rw [closes, hcloses.1, Bool.true_and] at hclosed
    obtain hany | hany := hcloses.2
    · rw [hany] at hclosed
      cases hclosed
    · obtain ⟨start, c, rest, hm, hc, hstart⟩ := exists_first hany
      constructor
      · intro d hd
        obtain rfl | hd := List.mem_cons.mp hd
        · exact (Bool.not_eq_true' _).mp hcloses.1
        · exact any_eq_false.mp hclosed d hd
      · use start, c, rest, hm, hc, hstart
        apply List.cons_ne_nil

theorem closes_append (h : closes isClose l = true) :
  closes isClose (l ++ m) = true
  := by
  cases l with
  | nil => cases h
  | cons b l =>
    rw [closes, Bool.and_eq_true] at h
    rw [List.cons_append, closes, List.any_append, h.1, h.2]
    rfl

theorem any_of_closes (h : closes isClose l = true) :
  l.any isClose = true
  := by
  cases l with
  | nil => cases h
  | cons b l =>
    rw [closes, Bool.and_eq_true] at h
    rw [List.any_cons, h.2, Bool.or_true]

/-- Where no span crosses, the spans of each list are removed. -/
theorem strip_append (h : ¬ Crosses isOpen isClose l m) :
  strip isOpen isClose (l ++ m) = strip isOpen isClose l ++ strip isOpen isClose m
  := by
  have hboth : strip isOpen isClose (l ++ m) = strip isOpen isClose l ++ strip isOpen isClose m
      ∧ (l.any isClose = true → remove isOpen isClose true (l ++ m)
        = remove isOpen isClose true l ++ strip isOpen isClose m) := by
    induction l with
    | nil =>
      use rfl
      intro hany
      cases hany
    | cons a l ih =>
      obtain ⟨houtside, hinside⟩ := ih fun hcross => h hcross.cons
      constructor
      · rw [strip, List.cons_append, remove, strip, remove, if_neg Bool.false_ne_true,
          if_neg Bool.false_ne_true]
        by_cases hspan : isOpen a = true ∧ closes isClose l = true
        · rw [hspan.1, hspan.2, closes_append hspan.2, Bool.and_self, if_pos rfl, if_pos rfl]
          exact hinside (any_of_closes hspan.2)
        · have hopen : (isOpen a && closes isClose (l ++ m)) = false := by
            by_contra hcloses
            rw [Bool.not_eq_false, Bool.and_eq_true] at hcloses
            have hclosed := Bool.eq_false_iff.mpr fun hl => hspan ⟨hcloses.1, hl⟩
            obtain ⟨hl, start, c, rest, hm, hc, hstart, hne⟩ :=
              crosses_of_closes hclosed hcloses.2
            apply h
            use [], a, l, start, c, rest, rfl, hm, hcloses.1, hc, hl, hstart
          rw [hopen, if_neg Bool.false_ne_true, if_neg]
          · exact congrArg (a :: ·) houtside
          · rwa [Bool.and_eq_true]
      · intro hany
        rw [List.cons_append, remove, if_pos rfl, remove, if_pos rfl]
        cases hclose : isClose a with
        | true => exact houtside
        | false =>
          rw [List.any_cons, hclose, Bool.false_or] at hany
          exact hinside hany
  exact hboth.1

/-! ### A span across two lists takes something away -/

section Lengths

variable (hdisjoint : ∀ a, isClose a = true → isOpen a = false)

include hdisjoint

/-- What follows the first element that closes is left as it is without what stands before. -/
theorem exists_strip {start rest : List α} {c : α} (hc : isClose c = true)
    (hstart : ∀ b ∈ start, isClose b = false) :
  ∃ kept, strip isOpen isClose (start ++ c :: rest) = kept ++ strip isOpen isClose rest
  := by
  induction start with
  | nil =>
    use [c]
    rw [List.nil_append, strip, remove, if_neg Bool.false_ne_true, hdisjoint c hc, Bool.false_and,
      if_neg Bool.false_ne_true]
    rfl
  | cons b start ih =>
    have hrest : ∀ d ∈ start, isClose d = false := fun d hd => hstart d (List.mem_cons_of_mem b hd)
    obtain ⟨kept, hkept⟩ := ih hrest
    rw [strip, List.cons_append, remove, if_neg Bool.false_ne_true]
    split_ifs
    · use []
      exact remove_true hc hrest
    · use b :: kept
      rw [List.cons_append]
      exact congrArg (b :: ·) hkept

/-- A span that crosses takes away more than the spans of each list. -/
theorem length_strip_append_lt (h : Crosses isOpen isClose l m) :
  (strip isOpen isClose (l ++ m)).length
    < (strip isOpen isClose l).length + (strip isOpen isClose m).length
  := by
  have hboth : (strip isOpen isClose (l ++ m)).length
        < (strip isOpen isClose l).length + (strip isOpen isClose m).length
      ∧ (l.any isClose = true → (remove isOpen isClose true (l ++ m)).length
        < (remove isOpen isClose true l).length + (strip isOpen isClose m).length) := by
    induction l with
    | nil =>
      obtain ⟨before, a, after, -, -, -, hl, -⟩ := h
      simp at hl
    | cons a l ih =>
      by_cases hfirst : isOpen a = true ∧ closes isClose l = false
          ∧ closes isClose (l ++ m) = true
      · -- The span starts here, and takes the rest of the list with it.
        obtain ⟨hopen, hclosed, hcloses⟩ := hfirst
        obtain ⟨hl, start, c, rest, rfl, hc, hstart, -⟩ := crosses_of_closes hclosed hcloses
        have hfree : ∀ b ∈ a :: l, isClose b = false := by
          intro b hb
          obtain rfl | hb := List.mem_cons.mp hb
          · by_contra hclose
            rw [hdisjoint b (Bool.not_eq_false _ |>.mp hclose)] at hopen
            cases hopen
          · exact hl b hb
        constructor
        · obtain ⟨kept, hkept⟩ : ∃ kept, strip isOpen isClose (start ++ c :: rest)
              = kept ++ strip isOpen isClose rest := exists_strip hdisjoint hc hstart
          have hbetween : ∀ b ∈ l ++ start, isClose b = false := by
            intro b hb
            exact (List.mem_append.mp hb).elim (hl b) (hstart b)
          have hwhole : strip isOpen isClose (a :: l ++ (start ++ c :: rest))
              = strip isOpen isClose rest := by
            rw [strip, List.cons_append, remove, if_neg Bool.false_ne_true, hopen, hcloses,
              Bool.and_self, if_pos rfl, ← List.append_assoc]
            exact remove_true hc hbetween
          rw [hwhole, strip_of_open hfree, hkept, List.length_append, List.length_cons]
          omega
        · intro hany
          rw [any_eq_false.mpr hfree] at hany
          cases hany
      · have hcross : Crosses isOpen isClose l m := by
          obtain ⟨before, b, after, start, c, rest, hl, hm, hb, hc, hafter, hstart, hne⟩ := h
          cases before with
          | nil =>
            obtain ⟨rfl, rfl⟩ := List.cons.inj hl
            refine absurd ⟨hb, ?_, ?_⟩ hfirst
            · rw [Bool.eq_false_iff]
              intro hcloses
              have hany := any_of_closes hcloses
              rw [any_eq_false.mpr hafter] at hany
              cases hany
            · rw [closes_iff]
              use l ++ start, c, rest
              rw [hm, List.append_assoc]
              use rfl, hc
              constructor
              · intro d hd
                exact (List.mem_append.mp hd).elim (hafter d) (hstart d)
              · exact hne
          | cons d before =>
            use before, b, after, start, c, rest, (List.cons.inj hl).2
        obtain ⟨houtside, hinside⟩ := ih hcross
        constructor
        · rw [strip, List.cons_append, remove, strip, remove, if_neg Bool.false_ne_true,
            if_neg Bool.false_ne_true]
          by_cases hspan : isOpen a = true ∧ closes isClose l = true
          · rw [hspan.1, hspan.2, closes_append hspan.2, Bool.and_self, if_pos rfl, if_pos rfl]
            exact hinside (any_of_closes hspan.2)
          · have hopen : ¬ (isOpen a && closes isClose (l ++ m)) = true := by
              rw [Bool.and_eq_true]
              rintro ⟨ha, hcloses⟩
              exact hfirst ⟨ha, Bool.eq_false_iff.mpr fun hl => hspan ⟨ha, hl⟩, hcloses⟩
            rw [if_neg hopen, if_neg (by rwa [Bool.and_eq_true]), List.length_cons,
              List.length_cons]
            rw [strip, strip] at houtside
            omega
        · intro hany
          rw [List.cons_append, remove, if_pos rfl, remove, if_pos rfl]
          cases hclose : isClose a with
          | true => exact houtside
          | false =>
            rw [List.any_cons, hclose, Bool.false_or] at hany
            exact hinside hany
  exact hboth.1

theorem length_strip_append_le :
  (strip isOpen isClose (l ++ m)).length
    ≤ (strip isOpen isClose l).length + (strip isOpen isClose m).length
  := by
  by_cases h : Crosses isOpen isClose l m
  · exact Nat.le_of_lt (length_strip_append_lt hdisjoint h)
  · exact Nat.le_of_eq (by rw [strip_append h, List.length_append])

theorem length_strip_flatten_le (lists : List (List α)) :
  (strip isOpen isClose lists.flatten).length
    ≤ (lists.map (strip isOpen isClose)).flatten.length
  := by
  induction lists with
  | nil => exact Nat.le_refl _
  | cons l lists ih =>
    rw [List.flatten_cons, List.map_cons, List.flatten_cons, List.length_append]
    have hle := length_strip_append_le hdisjoint (l := l) (m := lists.flatten)
    omega

/-- The spans of lists behind one another are those of each list exactly when none starts in one
and ends in another. -/
theorem strip_flatten_iff (lists : List (List α)) :
  strip isOpen isClose lists.flatten = (lists.map (strip isOpen isClose)).flatten
    ↔ Apart isOpen isClose lists
  := by
  induction lists with
  | nil => exact iff_of_true rfl trivial
  | cons l lists ih =>
    rw [List.flatten_cons, List.map_cons, List.flatten_cons, Apart, ← ih]
    constructor
    · intro heq
      have hlength := congrArg List.length heq
      have hrest := length_strip_flatten_le hdisjoint lists
      rw [List.length_append] at hlength
      have hcross : ¬ Crosses isOpen isClose l lists.flatten := by
        intro h
        have hlt := length_strip_append_lt hdisjoint h
        omega
      use hcross
      rw [strip_append hcross] at heq
      exact List.append_cancel_left heq
    · rintro ⟨hcross, heq⟩
      rw [strip_append hcross, heq]

end Lengths

/-! ### Lists without spans -/

theorem HasSpan.of_infix (h : HasSpan isOpen isClose l) (hl : l <:+: m) :
  HasSpan isOpen isClose m
  := by
  obtain ⟨before, a, between, c, rest, rfl, hspan⟩ := h
  obtain ⟨start, stop, rfl⟩ := hl
  use start ++ before, a, between, c, rest ++ stop
  constructor
  · simp
  · exact hspan

theorem strip_eq_self (h : ¬ HasSpan isOpen isClose l) :
  strip isOpen isClose l = l
  := by
  induction l with
  | nil => rfl
  | cons a l ih =>
    have hrest : ¬ HasSpan isOpen isClose l :=
      fun hspan => h (hspan.of_infix (List.suffix_cons a l).isInfix)
    rw [strip, remove, if_neg Bool.false_ne_true, if_neg]
    · exact congrArg (a :: ·) (ih hrest)
    · rw [Bool.and_eq_true, closes_iff]
      rintro ⟨ha, between, c, after, rfl, hc, hbetween, hne⟩
      exact h ⟨[], a, between, c, after, rfl, ha, hc, hbetween, hne⟩

/-- What is left of a list has no span. -/
theorem not_hasSpan_strip (hdisjoint : ∀ a, isClose a = true → isOpen a = false) :
  ¬ HasSpan isOpen isClose (strip isOpen isClose l)
  := by
  have hboth (inside : Bool) : ¬ HasSpan isOpen isClose (remove isOpen isClose inside l) := by
    induction l generalizing inside with
    | nil =>
      rintro ⟨before, a, between, c, rest, hl, -⟩
      simp [remove] at hl
    | cons a l ih =>
      rw [remove]
      split_ifs with hinside hspan
      · exact ih _
      · exact ih _
      · rintro ⟨before, b, between, c, rest, hl, hb, hc, hbetween, hne⟩
        cases before with
        | cons d before =>
          exact ih false ⟨before, b, between, c, rest, (List.cons.inj hl).2, hb, hc, hbetween, hne⟩
        | nil =>
          obtain ⟨rfl, hkept⟩ := List.cons.inj hl
          rw [hb, Bool.true_and] at hspan
          -- What closes the element is closed already, or does not come from the list.
          cases l with
          | nil => simp [remove] at hkept
          | cons d l =>
            cases hd : isClose d with
            | true =>
              rw [remove, if_neg Bool.false_ne_true, hdisjoint d hd, Bool.false_and,
                if_neg Bool.false_ne_true] at hkept
              cases between with
              | nil => exact hne rfl
              | cons e between =>
                obtain ⟨rfl, -⟩ := List.cons.inj hkept
                rw [hbetween d List.mem_cons_self] at hd
                cases hd
            | false =>
              rw [closes, hd, Bool.not_false, Bool.true_and, Bool.not_eq_true] at hspan
              have hmem : c ∈ d :: l := by
                apply remove_subset false
                rw [hkept]
                exact List.mem_append_right _ List.mem_cons_self
              obtain rfl | hmem := List.mem_cons.mp hmem
              · rw [hd] at hc
                cases hc
              · rw [any_eq_false.mp hspan c hmem] at hc
                cases hc
  exact hboth false

end Spans
