import KnowledgeCore.JsonParser
import KnowledgeCore.Lib.Sorting

/-!
# Canonical JSON is canonical

Two JSON values are the same when their arrays agree item by item and their objects agree as
unordered maps. The same values, and no others, have the same canonical text.
-/

namespace KnowledgeCore

namespace Json

/-! ### Values with distinct keys -/

mutual

/-- The members of every object in the value have distinct keys. -/
def DistinctKeys : Json → Prop
  | .arr items => DistinctKeysItems items
  | .obj members => (members.map Prod.fst).Nodup ∧ DistinctKeysMembers members
  | _ => True

def DistinctKeysItems : List Json → Prop
  | [] => True
  | j :: rest => DistinctKeys j ∧ DistinctKeysItems rest

def DistinctKeysMembers : List (String × Json) → Prop
  | [] => True
  | (_, j) :: rest => DistinctKeys j ∧ DistinctKeysMembers rest

end

/-- A value as `serde_json` holds it: an object is a map. -/
abbrev Value := { j : Json // j.DistinctKeys }

theorem DistinctKeysMembers.of_mem {members : List (String × Json)}
    (h : DistinctKeysMembers members) {m : String × Json} (hm : m ∈ members) :
  m.2.DistinctKeys
  := by
  induction members with
  | nil => cases hm
  | cons m' members ih =>
    obtain ⟨hj, hrest⟩ := h
    obtain rfl | hm := List.mem_cons.mp hm
    · exact hj
    · apply ih hrest hm

/-! ### The same value -/

mutual

/-- Equality of JSON values, with objects as unordered maps. -/
def Same : Json → Json → Prop
  | .null, .null => True
  | .bool b, .bool b' => b = b'
  | .int n, .int n' => n = n'
  | .float text, .float text' => text = text'
  | .str s, .str s' => s = s'
  | .arr items, .arr items' => SameItems items items'
  | .obj members, .obj members' =>
    members.length = members'.length ∧ SameMembers members members'
  | _, _ => False

def SameItems : List Json → List Json → Prop
  | [], [] => True
  | j :: rest, j' :: rest' => Same j j' ∧ SameItems rest rest'
  | _, _ => False

/-- Every member of the first object is in the second one, under its key. -/
def SameMembers : List (String × Json) → List (String × Json) → Prop
  | [], _ => True
  | (key, j) :: rest, members' =>
    (match members'.lookup key with
      | some j' => Same j j'
      | none => False) ∧ SameMembers rest members'

end

/-! ### Members in order -/

theorem map_fst_normaliseMembers (members : List (String × Json)) :
  (normaliseMembers members).map Prod.fst = members.map Prod.fst
  := by
  induction members with
  | nil => rfl
  | cons m members ih =>
    rw [normaliseMembers, List.map_cons, List.map_cons, ih]

theorem normaliseMembers_eq_map (members : List (String × Json)) :
  normaliseMembers members = members.map fun m => (m.1, m.2.normalise)
  := by
  induction members with
  | nil => rfl
  | cons m members ih => rw [normaliseMembers, List.map_cons, ih]

/-- Maps are listed alike in the order of their keys exactly when they have the same members. -/
theorem insertionSort_eq_iff_perm {members members' : List (String × Json)}
    (hnodup : (members.map Prod.fst).Nodup) :
  (members.insertionSort fun a b => a.1 ≤ b.1) = (members'.insertionSort fun a b => a.1 ≤ b.1)
    ↔ members.Perm members'
  := by
  have hsort := List.perm_insertionSort fun a b : String × Json => a.1 ≤ b.1
  constructor
  · intro h
    apply (hsort members).symm.trans
    rw [h]
    apply hsort
  · intro h
    have htotal := Sorting.total_key (Prod.fst : String × Json → String)
    have htrans := Sorting.isTrans_key (Prod.fst : String × Json → String)
    apply Sorting.insertionSort_eq_of_perm h
    intro m hm m' hm' hle hge
    apply List.inj_on_of_nodup_map hnodup hm hm'
    apply String.le_antisymm hle hge

theorem lookup_eq_some_of_mem {members : List (String × Json)}
    (hnodup : (members.map Prod.fst).Nodup) {key : String} {j : Json}
    (h : (key, j) ∈ members) :
  members.lookup key = some j
  := by
  induction members with
  | nil => cases h
  | cons m members ih =>
    obtain ⟨hkey, hrest⟩ := List.nodup_cons.mp hnodup
    rw [List.lookup_cons]
    obtain rfl | h := List.mem_cons.mp h
    · rw [beq_self_eq_true]
    · have hne : key ≠ m.1 := by
        rintro rfl
        apply hkey
        apply List.mem_map_of_mem (f := Prod.fst) h
      rw [beq_false_of_ne hne]
      apply ih hrest h

theorem mem_of_lookup_eq_some {members : List (String × Json)} {key : String} {j : Json}
    (h : members.lookup key = some j) :
  (key, j) ∈ members
  := by
  induction members with
  | nil => cases h
  | cons m members ih =>
    rw [List.lookup_cons] at h
    obtain heq | hne := eq_or_ne key m.1
    · subst heq
      rw [beq_self_eq_true] at h
      cases h
      apply List.mem_cons_self
    · rw [beq_false_of_ne hne] at h
      apply List.mem_cons_of_mem _ (ih h)

/-- Maps with as many members, every one of the first among those of the second, have the same
members. -/
theorem perm_of_subset_of_length {members members' : List (String × Json)}
    (hnodup : (members.map Prod.fst).Nodup) (hlength : members.length = members'.length)
    (h : members ⊆ members') :
  members.Perm members'
  := by
  apply List.Subperm.perm_of_length_le
  · apply List.subperm_of_subset (List.Nodup.of_map _ hnodup) h
  · rw [hlength]

/-! ### The same value has the same normal form -/

mutual

/-- Values are the same exactly when their members are alike once in the order of the keys. -/
theorem same_iff_normalise_eq {j j' : Json} (hj : j.DistinctKeys) (hj' : j'.DistinctKeys) :
  Same j j' ↔ j.normalise = j'.normalise
  := by
  match j with
  | .null | .bool _ | .int _ | .float _ | .str _ => cases j' <;> simp [Same, normalise]
  | .arr items =>
    cases j' with
    | arr items' =>
      rw [Same, normalise, normalise, Json.arr.injEq]
      apply sameItems_iff_normaliseItems_eq hj hj'
    | _ => simp [Same, normalise]
  | .obj members =>
    cases j' with
    | obj members' =>
      obtain ⟨hnodup, hmembers⟩ := hj
      obtain ⟨hnodup', hmembers'⟩ := hj'
      rw [← map_fst_normaliseMembers] at hnodup
      rw [Same, normalise, normalise, Json.obj.injEq, insertionSort_eq_iff_perm hnodup,
        sameMembers_iff_subset hmembers hmembers' hnodup']
      constructor
      · rintro ⟨hlength, h⟩
        apply perm_of_subset_of_length hnodup _ h
        rw [normaliseMembers_eq_map, normaliseMembers_eq_map, List.length_map, List.length_map,
          hlength]
      · intro h
        use ?_, h.subset
        have := h.length_eq
        rw [normaliseMembers_eq_map, normaliseMembers_eq_map, List.length_map,
          List.length_map] at this
        exact this
    | _ => simp [Same, normalise]

theorem sameItems_iff_normaliseItems_eq {items items' : List Json}
    (h : DistinctKeysItems items) (h' : DistinctKeysItems items') :
  SameItems items items' ↔ normaliseItems items = normaliseItems items'
  := by
  match items, items' with
  | [], [] => simp [SameItems, normaliseItems]
  | [], _ :: _ => simp [SameItems, normaliseItems]
  | _ :: _, [] => simp [SameItems, normaliseItems]
  | j :: rest, j' :: rest' =>
    rw [SameItems, normaliseItems, normaliseItems, List.cons.injEq,
      same_iff_normalise_eq h.1 h'.1, sameItems_iff_normaliseItems_eq h.2 h'.2]

theorem sameMembers_iff_subset {members members' : List (String × Json)}
    (h : DistinctKeysMembers members) (h' : DistinctKeysMembers members')
    (hnodup' : (members'.map Prod.fst).Nodup) :
  SameMembers members members' ↔ normaliseMembers members ⊆ normaliseMembers members'
  := by
  match members with
  | [] => simp [SameMembers, normaliseMembers]
  | (key, j) :: rest =>
    rw [SameMembers, normaliseMembers, List.cons_subset,
      sameMembers_iff_subset h.2 h' hnodup', normaliseMembers_eq_map members', List.mem_map]
    apply and_congr_left
    intro _
    constructor
    · intro hsame
      cases hlookup : members'.lookup key with
      | none =>
        rw [hlookup] at hsame
        cases hsame
      | some j' =>
        rw [hlookup] at hsame
        have hm' := mem_of_lookup_eq_some hlookup
        use (key, j'), hm'
        rw [(same_iff_normalise_eq h.1 (h'.of_mem hm')).mp hsame]
    · rintro ⟨m', hm', heq⟩
      obtain ⟨hkey, hnormalise⟩ := Prod.mk.inj heq
      subst hkey
      rw [lookup_eq_some_of_mem hnodup' hm']
      apply (same_iff_normalise_eq h.1 (h'.of_mem hm')).mpr hnormalise.symm

end

end Json

namespace CanonJson

open Json JsonText

/-- Accepted values have one canonical text exactly when they are the same value. -/
theorem canonicalBytes_eq_iff_same {a b : Value} {s t : String}
    (ha : toCanonicalBytes a.1 = .ok s) (hb : toCanonicalBytes b.1 = .ok t) :
  s = t ↔ Same a.1 b.1
  := by
  rw [same_iff_normalise_eq a.2 b.2]
  constructor
  · rintro rfl
    have hread := (readsBack_parse a.1 s ha).symm.trans (readsBack_parse b.1 s hb)
    apply Except.ok.inj hread
  · intro h
    have hnormal := writeCanonical_normalise ha
    rw [h, writeCanonical_normalise hb] at hnormal
    apply (Except.ok.inj hnormal).symm

/-- A value is accepted when there is no floating-point number in it, accepted values have one
text exactly when they are the same, and the text of a value is the text of what a parser reads
back from it. -/
theorem toCanonicalBytes_canonical (a : Value) :
  ((toCanonicalBytes a.1).isOk = true ↔ hasFloat a.1 = false)
    ∧ (∀ (b : Value) (s t : String),
        toCanonicalBytes a.1 = .ok s → toCanonicalBytes b.1 = .ok t → (s = t ↔ Same a.1 b.1))
    ∧ ∀ (parse : JsonParser) (s : String),
        ReadsBack parse a.1 → toCanonicalBytes a.1 = .ok s
          → ∃ j, parse s = .ok j ∧ toCanonicalBytes j = .ok s
  := by
  refine ⟨?_, ?_, ?_⟩
  · rw [toCanonicalBytes, writeCanonical_isOk, Bool.not_eq_true']
  · intro b s t ha hb
    apply canonicalBytes_eq_iff_same ha hb
  · intro parse s hparse ha
    use a.1.normalise, hparse s ha
    apply writeCanonical_normalise ha

/-- An object with a nested object and an escaped key. -/
def Sample.nested : Value :=
  ⟨.obj [("b\"", .obj [("y", .int (-2)), ("x", .null)]), ("a", .arr [.str "\n", .bool true])],
    by simp [DistinctKeys, DistinctKeysItems, DistinctKeysMembers]⟩

/-- The same object with its members in another order. -/
def Sample.reordered : Value :=
  ⟨.obj [("a", .arr [.str "\n", .bool true]), ("b\"", .obj [("x", .null), ("y", .int (-2))])],
    by simp [DistinctKeys, DistinctKeysItems, DistinctKeysMembers]⟩

theorem toCanonicalBytes_canonical_nested :
  ∃ s j, toCanonicalBytes Sample.nested.1 = .ok s ∧ toCanonicalBytes Sample.reordered.1 = .ok s
    ∧ Same Sample.nested.1 Sample.reordered.1 ∧ parse s = .ok j ∧ toCanonicalBytes j = .ok s
  := by
  obtain ⟨hok, hsame, hparse⟩ := toCanonicalBytes_canonical Sample.nested
  obtain ⟨s, hs⟩ := exists_of_isOk (hok.mpr rfl)
  obtain ⟨j, hj, htext⟩ := hparse parse s (readsBack_parse _) hs
  have ht : toCanonicalBytes Sample.reordered.1 = .ok s := by
    rw [← hs]
    rfl
  use s, j, hs, ht, (hsame Sample.reordered s s hs ht).mp rfl, hj, htext

end CanonJson

end KnowledgeCore
