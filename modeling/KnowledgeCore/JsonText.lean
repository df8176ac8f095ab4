import Mathlib.Data.String.Basic
import Std.Data.String.ToInt
import KnowledgeCore.Json
import KnowledgeCore.Lib.Sorting

/-!
# Canonical text

The canonical text of a value is on one line. It is also the canonical text of the value that a
parser reads back from it, where the members of every object are in the order of their keys.
-/

namespace KnowledgeCore

/-! ### The order of the members -/

namespace Json

mutual

/-- The value with the members of every object in the order of their keys. -/
def normalise : Json → Json
  | .arr items => .arr (normaliseItems items)
  | .obj members => .obj ((normaliseMembers members).insertionSort fun a b => a.1 ≤ b.1)
  | j => j

def normaliseItems : List Json → List Json
  | [] => []
  | j :: rest => normalise j :: normaliseItems rest

def normaliseMembers : List (String × Json) → List (String × Json)
  | [] => []
  | (key, j) :: rest => (key, normalise j) :: normaliseMembers rest

end

end Json

namespace CanonJson

theorem writeMembers_cons_eq_ok {key : String} {j : Json} {rest : List (String × Json)}
    {texts : List (String × String)} :
  writeMembers ((key, j) :: rest) = .ok texts
    ↔ ∃ text, writeCanonical j = .ok text
        ∧ ∃ others, writeMembers rest = .ok others ∧ (key, text) :: others = texts
  := by
  rw [writeMembers, AppResult.bind_eq_ok]
  apply exists_congr
  intro text
  rw [AppResult.bind_eq_ok]
  simp only [Except.ok.injEq]

theorem writeItems_cons_eq_ok {j : Json} {rest : List Json} {texts : List String} :
  writeItems (j :: rest) = .ok texts
    ↔ ∃ text, writeCanonical j = .ok text
        ∧ ∃ others, writeItems rest = .ok others ∧ text :: others = texts
  := by
  rw [writeItems, AppResult.bind_eq_ok]
  apply exists_congr
  intro text
  rw [AppResult.bind_eq_ok]
  simp only [Except.ok.injEq]

/-- Members inserted by their keys are written where their texts are inserted. -/
theorem writeMembers_orderedInsert {key : String} {j : Json} {members : List (String × Json)}
    {text : String} {texts : List (String × String)}
    (hj : writeCanonical j = .ok text) (h : writeMembers members = .ok texts) :
  writeMembers (members.orderedInsert (fun a b => a.1 ≤ b.1) (key, j))
    = .ok (texts.orderedInsert (fun a b => a.1 ≤ b.1) (key, text))
  := by
  induction members generalizing texts with
  | nil =>
    cases h
    apply writeMembers_cons_eq_ok.mpr
    use text, hj, [], rfl
    rfl
  | cons m members ih =>
    obtain ⟨key', j'⟩ := m
    obtain ⟨text', hj', others, hothers, rfl⟩ := writeMembers_cons_eq_ok.mp h
    rw [List.orderedInsert_cons, List.orderedInsert_cons]
    by_cases hkey : key ≤ key'
    · rw [if_pos hkey, if_pos hkey]
      apply writeMembers_cons_eq_ok.mpr
      use text, hj, (key', text') :: others, h
    · rw [if_neg hkey, if_neg hkey]
      apply writeMembers_cons_eq_ok.mpr
      use text', hj', others.orderedInsert (fun a b => a.1 ≤ b.1) (key, text), ih hothers

theorem writeMembers_insertionSort {members : List (String × Json)}
    {texts : List (String × String)} (h : writeMembers members = .ok texts) :
  writeMembers (members.insertionSort fun a b => a.1 ≤ b.1) = .ok (sortMembers texts)
  := by
  induction members generalizing texts with
  | nil =>
    cases h
    rfl
  | cons m members ih =>
    obtain ⟨key, j⟩ := m
    obtain ⟨text, hj, others, hothers, rfl⟩ := writeMembers_cons_eq_ok.mp h
    apply writeMembers_orderedInsert hj (ih hothers)

theorem sortMembers_sortMembers (texts : List (String × String)) :
  sortMembers (sortMembers texts) = sortMembers texts
  := by
  have htotal := Sorting.total_key (Prod.fst : String × String → String)
  have htrans := Sorting.isTrans_key (Prod.fst : String × String → String)
  apply List.Pairwise.insertionSort_eq
  apply List.pairwise_insertionSort

mutual

/-- The value a parser reads back has the same canonical text. -/
theorem writeCanonical_normalise {j : Json} {text : String} (h : writeCanonical j = .ok text) :
  writeCanonical j.normalise = .ok text
  := by
  match j with
  | .null | .bool _ | .int _ | .float _ | .str _ => exact h
  | .arr items =>
    obtain ⟨texts, hitems, htext⟩ := AppResult.bind_eq_ok.mp h
    rw [Json.normalise, writeCanonical, writeItems_normaliseItems hitems]
    exact htext
  | .obj members =>
    obtain ⟨texts, hmembers, htext⟩ := AppResult.bind_eq_ok.mp h
    rw [Json.normalise, writeCanonical,
      writeMembers_insertionSort (writeMembers_normaliseMembers hmembers), AppResult.ok_bind,
      sortMembers_sortMembers]
    exact htext

theorem writeItems_normaliseItems {items : List Json} {texts : List String}
    (h : writeItems items = .ok texts) :
  writeItems (Json.normaliseItems items) = .ok texts
  := by
  match items with
  | [] => exact h
  | j :: rest =>
    obtain ⟨text, hj, others, hrest, rfl⟩ := writeItems_cons_eq_ok.mp h
    apply writeItems_cons_eq_ok.mpr
    use text, writeCanonical_normalise hj, others, writeItems_normaliseItems hrest

theorem writeMembers_normaliseMembers {members : List (String × Json)}
    {texts : List (String × String)} (h : writeMembers members = .ok texts) :
  writeMembers (Json.normaliseMembers members) = .ok texts
  := by
  match members with
  | [] => exact h
  | (key, j) :: rest =>
    obtain ⟨text, hj, others, hrest, rfl⟩ := writeMembers_cons_eq_ok.mp h
    apply writeMembers_cons_eq_ok.mpr
    use text, writeCanonical_normalise hj, others, writeMembers_normaliseMembers hrest

end

end CanonJson

/-- `serde_json::from_str` -/
abbrev JsonParser := String → Except String Json

/-- A parser reads a value back from its canonical text. -/
def ReadsBack (parse : JsonParser) (value : Json) : Prop :=
  ∀ text, CanonJson.toCanonicalBytes value = .ok text → parse text = .ok value.normalise

namespace CanonJson

/-! ### One line -/

/-- Texts are taken apart at the first separator. -/
theorem append_separator_inj {α : Type} {sep : α} {l l' r r' : List α} (hl : sep ∉ l)
    (hl' : sep ∉ l') :
  l ++ sep :: r = l' ++ sep :: r' ↔ l = l' ∧ r = r'
  := by
  induction l generalizing l' with
  | nil =>
    cases l' with
    | nil => simp
    | cons b l' =>
      have hb : sep ≠ b := fun h => hl' (h ▸ List.mem_cons_self)
      simp [hb]
  | cons a l ih =>
    have ha : a ≠ sep := fun h => hl (h ▸ List.mem_cons_self)
    cases l' with
    | nil => simp [ha]
    | cons b l' =>
      rw [List.cons_append, List.cons_append, List.cons.injEq, List.cons.injEq,
        ih (fun h => hl (List.mem_cons_of_mem _ h)) (fun h => hl' (List.mem_cons_of_mem _ h)),
        and_assoc]

/-- Texts are taken apart at the last separator. -/
theorem append_separator_inj_last {α : Type} {sep : α} {l l' r r' : List α} (hr : sep ∉ r)
    (hr' : sep ∉ r') :
  l ++ sep :: r = l' ++ sep :: r' ↔ l = l' ∧ r = r'
  := by
  rw [← List.reverse_inj]
  simp only [List.reverse_append, List.reverse_cons, List.append_assoc, List.singleton_append]
  rw [append_separator_inj (by simpa using hr) (by simpa using hr'), List.reverse_inj,
    List.reverse_inj, and_comm]

theorem notMem_repr {d : Char} (hdigit : d.isDigit = false) (n : Nat) :
  d ∉ n.repr.toList
  := by
  rw [Nat.toList_repr]
  intro h
  rw [Nat.isDigit_of_mem_toDigits (by decide) (by decide) h] at hdigit
  cases hdigit

/-- A number is written with digits and a minus sign. -/
theorem notMem_toString {d : Char} (hdigit : d.isDigit = false) (hminus : d ≠ '-') (n : Int) :
  d ∉ (toString n).toList
  := by
  cases n with
  | ofNat n => apply notMem_repr hdigit
  | negSucc n =>
    change d ∉ ("-" ++ (n + 1).repr).toList
    rw [String.toList_append, List.mem_append, not_or]
    use by simpa using hminus
    apply notMem_repr hdigit

theorem newline_notMem_toString (n : Int) :
  '\n' ∉ (toString n).toList
  := notMem_toString (by decide) (by decide) n

theorem newline_notMem_escapeChar (c : Char) :
  '\n' ∉ escapeChar c
  := by
  have hdigit : ∀ n < 16, hexDigit n ≠ '\n' := by decide
  rw [escapeChar]
  split_ifs with _ _ _ _ _ _ _ h
  any_goals decide
  · have hhigh := hdigit (c.toNat / 16) (by omega)
    have hlow := hdigit (c.toNat % 16) (by omega)
    simp [hhigh.symm, hlow.symm]
  · rw [List.mem_singleton]
    rintro rfl
    apply h
    decide

theorem newline_notMem_quote (s : String) :
  '\n' ∉ (quote s).toList
  := by
  simp only [quote, String.toList_append, String.toList_ofList, List.mem_append,
    List.mem_flatMap, not_or, not_exists, not_and]
  use ⟨by decide, fun c _ => newline_notMem_escapeChar c⟩
  decide

theorem newline_notMem_commaSeparated {texts : List String}
    (h : ∀ text ∈ texts, '\n' ∉ text.toList) :
  '\n' ∉ (commaSeparated texts).toList
  := by
  induction texts with
  | nil => decide
  | cons text texts ih =>
    have hrest := ih fun other hother => h other (List.mem_cons_of_mem _ hother)
    cases texts with
    | nil => apply h text List.mem_cons_self
    | cons other texts =>
      rw [commaSeparated]
      · simp only [String.toList_append, List.mem_append, not_or]
        use ⟨h text List.mem_cons_self, by decide⟩
      · rintro ⟨⟩

mutual

/-- There is no line break in a canonical text. -/
theorem newline_notMem_writeCanonical {j : Json} {text : String}
    (h : writeCanonical j = .ok text) :
  '\n' ∉ text.toList
  := by
  match j with
  | .null =>
    cases h
    decide
  | .bool b =>
    cases h
    cases b <;> decide
  | .int n =>
    cases h
    apply newline_notMem_toString
  | .float _ => cases h
  | .str s =>
    cases h
    apply newline_notMem_quote
  | .arr items =>
    obtain ⟨texts, hitems, htext⟩ := AppResult.bind_eq_ok.mp h
    cases htext
    simp only [String.toList_append, List.mem_append, not_or]
    use ⟨by decide, newline_notMem_commaSeparated (newline_notMem_writeItems hitems)⟩
    decide
  | .obj members =>
    obtain ⟨texts, hmembers, htext⟩ := AppResult.bind_eq_ok.mp h
    cases htext
    simp only [String.toList_append, List.mem_append, not_or]
    use ⟨by decide, newline_notMem_commaSeparated ?_⟩
    · decide
    · intro text htext
      obtain ⟨m, hm, rfl⟩ := List.mem_map.mp htext
      rw [sortMembers, List.mem_insertionSort] at hm
      simp only [String.toList_append, List.mem_append, not_or]
      use ⟨newline_notMem_quote m.1, by decide⟩, newline_notMem_writeMembers hmembers m hm

theorem newline_notMem_writeItems {items : List Json} {texts : List String}
    (h : writeItems items = .ok texts) :
  ∀ text ∈ texts, '\n' ∉ text.toList
  := by
  match items with
  | [] =>
    cases h
    simp
  | j :: rest =>
    obtain ⟨text, hj, others, hrest, rfl⟩ := writeItems_cons_eq_ok.mp h
    rw [List.forall_mem_cons]
    use newline_notMem_writeCanonical hj, newline_notMem_writeItems hrest

theorem newline_notMem_writeMembers {members : List (String × Json)}
    {texts : List (String × String)} (h : writeMembers members = .ok texts) :
  ∀ m ∈ texts, '\n' ∉ m.2.toList
  := by
  match members with
  | [] =>
    cases h
    simp
  | (key, j) :: rest =>
    obtain ⟨text, hj, others, hrest, rfl⟩ := writeMembers_cons_eq_ok.mp h
    rw [List.forall_mem_cons]
    use newline_notMem_writeCanonical hj, newline_notMem_writeMembers hrest

end

end CanonJson

end KnowledgeCore
