import KnowledgeCore.Hashing
import KnowledgeCore.JsonText

/-!
# A parser of canonical text

The parser of the program is a parameter, which has to read back what the program writes. Here is
a parser that does: it reads every canonical text back, as the value it was written for.
-/

namespace KnowledgeCore

open CanonJson (escapeChar hexDigit quote commaSeparated writeCanonical writeItems writeMembers
  sortMembers hasFloat itemsHaveFloat membersHaveFloat)

/-! ### Writing without sorting -/

namespace Json

mutual

/-- The text of a value, with the members of objects as they stand. -/
def render : Json → String
  | .null => "null"
  | .bool b => if b then "true" else "false"
  | .int n => toString n
  | .float text => text
  | .str s => quote s
  | .arr items => "[" ++ commaSeparated (renderItems items) ++ "]"
  | .obj members =>
    "\x7b" ++ commaSeparated ((renderMembers members).map fun m => quote m.1 ++ ":" ++ m.2)
      ++ "\x7d"

def renderItems : List Json → List String
  | [] => []
  | j :: rest => render j :: renderItems rest

def renderMembers : List (String × Json) → List (String × String)
  | [] => []
  | (key, j) :: rest => (key, render j) :: renderMembers rest

end

theorem renderMembers_eq_map (members : List (String × Json)) :
  renderMembers members = members.map fun m => (m.1, render m.2)
  := by
  induction members with
  | nil => rfl
  | cons m members ih => rw [renderMembers, ih, List.map_cons]

mutual

/-- The canonical text of a value is the text of the value a parser reads back. -/
theorem render_normalise {j : Json} {text : String} (h : writeCanonical j = .ok text) :
  render j.normalise = text
  := by
  match j with
  | .null | .bool _ | .int _ | .str _ =>
    cases h
    rfl
  | .float _ => cases h
  | .arr items =>
    obtain ⟨texts, hitems, htext⟩ := AppResult.bind_eq_ok.mp h
    cases htext
    rw [normalise, render, renderItems_normaliseItems hitems]
  | .obj members =>
    obtain ⟨texts, hmembers, htext⟩ := AppResult.bind_eq_ok.mp h
    cases htext
    have hsort (members : List (String × Json)) :
        (members.insertionSort fun a b => a.1 ≤ b.1).map (fun m => (m.1, render m.2))
          = sortMembers (members.map fun m => (m.1, render m.2)) := by
      apply List.map_insertionSort
      intro a _ b _
      rfl
    rw [normalise, render, renderMembers_eq_map, hsort, ← renderMembers_eq_map,
      renderMembers_normaliseMembers hmembers]

theorem renderItems_normaliseItems {items : List Json} {texts : List String}
    (h : writeItems items = .ok texts) :
  renderItems (normaliseItems items) = texts
  := by
  match items with
  | [] =>
    cases h
    rfl
  | j :: rest =>
    obtain ⟨text, hj, others, hrest, rfl⟩ := CanonJson.writeItems_cons_eq_ok.mp h
    rw [normaliseItems, renderItems, render_normalise hj, renderItems_normaliseItems hrest]

theorem renderMembers_normaliseMembers {members : List (String × Json)}
    {texts : List (String × String)} (h : writeMembers members = .ok texts) :
  renderMembers (normaliseMembers members) = texts
  := by
  match members with
  | [] =>
    cases h
    rfl
  | (key, j) :: rest =>
    obtain ⟨text, hj, others, hrest, rfl⟩ := CanonJson.writeMembers_cons_eq_ok.mp h
    rw [normaliseMembers, renderMembers, render_normalise hj,
      renderMembers_normaliseMembers hrest]

end

end Json

/-! ### Reading -/

namespace JsonText

/-- The value of a hexadecimal digit. -/
def digitValue (c : Char) : Nat :=
  (Hex.digitValue c).getD 0

/-- What an escaped character stands for. -/
def unescape : Char → Char
  | 'b' => Char.ofNat 8
  | 't' => Char.ofNat 9
  | 'n' => Char.ofNat 10
  | 'f' => Char.ofNat 12
  | 'r' => Char.ofNat 13
  | c => c

/-- Read up to the closing quote. -/
def readChars : List Char → Option (List Char × List Char)
  | '"' :: rest => some ([], rest)
  | '\\' :: 'u' :: '0' :: '0' :: high :: low :: rest =>
    (readChars rest).map fun r =>
      (Char.ofNat (16 * digitValue high + digitValue low) :: r.1, r.2)
  | '\\' :: c :: rest => (readChars rest).map fun r => (unescape c :: r.1, r.2)
  | c :: rest => (readChars rest).map fun r => (c :: r.1, r.2)
  | [] => none

/-- Read the digits of a number. -/
def readNat (l : List Char) : Nat × List Char :=
  (Nat.ofDigitChars 10 (l.takeWhile Char.isDigit) 0, l.dropWhile Char.isDigit)

mutual

def readValue : Nat → List Char → Option (Json × List Char)
  | 0, _ => none
  | fuel + 1, l =>
    match l with
    | 'n' :: 'u' :: 'l' :: 'l' :: rest => some (.null, rest)
    | 't' :: 'r' :: 'u' :: 'e' :: rest => some (.bool true, rest)
    | 'f' :: 'a' :: 'l' :: 's' :: 'e' :: rest => some (.bool false, rest)
    | '"' :: rest => (readChars rest).map fun r => (.str (String.ofList r.1), r.2)
    | '[' :: ']' :: rest => some (.arr [], rest)
    | '[' :: rest =>
      (readValue fuel rest).bind fun r =>
        (readItems fuel r.2).map fun r' => (.arr (r.1 :: r'.1), r'.2)
    | '\x7b' :: '\x7d' :: rest => some (.obj [], rest)
    | '\x7b' :: rest =>
      (readMember fuel rest).bind fun r =>
        (readMembers fuel r.2).map fun r' => (.obj (r.1 :: r'.1), r'.2)
    | '-' :: rest => some (.int (-(readNat rest).1), (readNat rest).2)
    | c :: rest =>
      if c.isDigit then
        some (.int (readNat (c :: rest)).1, (readNat (c :: rest)).2)
      else
        none
    | [] => none

/-- Read the items after the first one. -/
def readItems : Nat → List Char → Option (List Json × List Char)
  | 0, _ => none
  | fuel + 1, l =>
    match l with
    | ']' :: rest => some ([], rest)
    | ',' :: rest =>
      (readValue fuel rest).bind fun r =>
        (readItems fuel r.2).map fun r' => (r.1 :: r'.1, r'.2)
    | _ => none

def readMember : Nat → List Char → Option ((String × Json) × List Char)
  | 0, _ => none
  | fuel + 1, l =>
    match l with
    | '"' :: rest =>
      (readChars rest).bind fun r =>
        match r.2 with
        | ':' :: rest =>
          (readValue fuel rest).map fun r' => ((String.ofList r.1, r'.1), r'.2)
        | _ => none
    | _ => none

/-- Read the members after the first one. -/
def readMembers : Nat → List Char → Option (List (String × Json) × List Char)
  | 0, _ => none
  | fuel + 1, l =>
    match l with
    | '\x7d' :: rest => some ([], rest)
    | ',' :: rest =>
      (readMember fuel rest).bind fun r =>
        (readMembers fuel r.2).map fun r' => (r.1 :: r'.1, r'.2)
    | _ => none

end

/-! ### What was written is read -/

theorem readChars_escapeChar (c : Char) (rest : List Char) :
  readChars (escapeChar c ++ rest) = (readChars rest).map fun r => (c :: r.1, r.2)
  := by
  have hcode {n : Nat} (h : c.toNat = n) : c = Char.ofNat n := by
    rw [← h, Char.ofNat_toNat]
  have hdigit : ∀ n < 16, digitValue (hexDigit n) = n := by decide
  rw [escapeChar]
  split_ifs with hquote hbackslash h8 h9 h10 h12 h13 hcontrol
  · rw [hquote]
    rfl
  · rw [hbackslash]
    rfl
  · rw [hcode h8]
    rfl
  · rw [hcode h9]
    rfl
  · rw [hcode h10]
    rfl
  · rw [hcode h12]
    rfl
  · rw [hcode h13]
    rfl
  · have hsplit : 16 * (c.toNat / 16) + c.toNat % 16 = c.toNat := by omega
    simp only [List.cons_append, List.nil_append, readChars]
    rw [hdigit _ (by omega), hdigit _ (by omega), hsplit, Char.ofNat_toNat]
  · rw [List.singleton_append, readChars.eq_def]
    split
    case h_1 heq => exact absurd (List.cons.inj heq).1 hquote
    case h_2 heq => exact absurd (List.cons.inj heq).1 hbackslash
    case h_3 heq => exact absurd (List.cons.inj heq).1 hbackslash
    case h_4 heq =>
      cases heq
      rfl
    case h_5 heq => cases heq

/-- A quoted string is read. -/
theorem readChars_flatMap (l rest : List Char) :
  readChars (l.flatMap escapeChar ++ '"' :: rest) = some (l, rest)
  := by
  induction l with
  | nil => rfl
  | cons c l ih =>
    rw [List.flatMap_cons, List.append_assoc, readChars_escapeChar, ih]
    rfl

/-- A number ends before what follows. -/
def EndsNumber (rest : List Char) : Prop :=
  ∀ c ∈ rest.head?, c.isDigit = false

/-- A number is read. -/
theorem readNat_repr (n : Nat) {rest : List Char} (h : EndsNumber rest) :
  readNat (n.repr.toList ++ rest) = (n, rest)
  := by
  have hdigits : ∀ c ∈ Nat.toDigits 10 n, c.isDigit = true := by
    intro c hc
    apply Nat.isDigit_of_mem_toDigits (by decide) (by decide) hc
  have hrest : rest.takeWhile Char.isDigit = [] ∧ rest.dropWhile Char.isDigit = rest := by
    cases rest with
    | nil => simp
    | cons c rest =>
      have hc : c.isDigit = false := h c rfl
      simp [hc]
  rw [readNat, Nat.toList_repr, List.takeWhile_append_of_pos hdigits,
    List.dropWhile_append_of_pos hdigits, hrest.1, hrest.2, List.append_nil,
    Nat.ofDigitChars_ten_toDigits]

mutual

/-- How deep the reader goes for a value. -/
def size : Json → Nat
  | .arr items => sizeItems items + 1
  | .obj members => sizeMembers members + 1
  | _ => 1

def sizeItems : List Json → Nat
  | [] => 1
  | j :: rest => size j + sizeItems rest + 1

def sizeMembers : List (String × Json) → Nat
  | [] => 1
  | (_, j) :: rest => size j + sizeMembers rest + 2

end

/-- The items after the first one as they are written. -/
def tail (texts : List String) : List Char :=
  texts.flatMap fun text => ',' :: text.toList

theorem toList_commaSeparated (text : String) (texts : List String) :
  (commaSeparated (text :: texts)).toList = text.toList ++ tail texts
  := by
  induction texts generalizing text with
  | nil => simp [commaSeparated, tail]
  | cons other texts ih =>
    rw [commaSeparated]
    · simp [ih, tail]
    · rintro ⟨⟩

theorem endsNumber_tail (texts : List String) {c : Char} (hc : c.isDigit = false)
    (rest : List Char) :
  EndsNumber (tail texts ++ c :: rest)
  := by
  cases texts with
  | nil =>
    intro d hd
    cases hd
    exact hc
  | cons text texts =>
    intro d hd
    cases hd
    rfl

theorem readValue_of_isDigit (fuel : Nat) {c : Char} (hc : c.isDigit = true) (l : List Char) :
  readValue (fuel + 1) (c :: l) = some (.int (readNat (c :: l)).1, (readNat (c :: l)).2)
  := by
  have hne : ∀ d, d.isDigit = false → c ≠ d := by
    rintro d hd rfl
    rw [hc] at hd
    cases hd
  rw [readValue, if_pos hc]
  all_goals
    intros
    subst_vars
    cases hc

theorem readValue_closing (fuel : Nat) (l : List Char) :
  readValue fuel (']' :: l) = none
  := by
  cases fuel <;> rfl

theorem readMember_quote {key : String} {j : Json} {fuel : Nat} {rest : List Char}
    (h : readValue fuel ((Json.render j).toList ++ rest) = some (j, rest)) :
  readMember (fuel + 1) ((quote key ++ ":" ++ Json.render j).toList ++ rest)
    = some ((key, j), rest)
  := by
  have htext : (quote key ++ ":" ++ Json.render j).toList ++ rest
      = '"' :: (key.toList.flatMap escapeChar ++ '"' :: ':'
          :: ((Json.render j).toList ++ rest)) := by
    simp [quote]
  rw [htext, readMember, readChars_flatMap, Option.bind_some]
  simp only [h, Option.map_some, String.ofList_toList]

mutual

/-- The text of a value without floating-point numbers is read back. -/
theorem readValue_render {j : Json} (hfloat : hasFloat j = false) {fuel : Nat}
    (hfuel : size j ≤ fuel) {rest : List Char} (hrest : EndsNumber rest) :
  readValue fuel ((Json.render j).toList ++ rest) = some (j, rest)
  := by
  match fuel, j with
  | 0, .null | 0, .bool _ | 0, .int _ | 0, .str _ | 0, .arr _ | 0, .obj _ =>
    simp [size] at hfuel
  | _, .float _ => cases hfloat
  | fuel + 1, .null => rfl
  | fuel + 1, .bool b => cases b <;> rfl
  | fuel + 1, .int (.ofNat n) =>
    have hread := readNat_repr n hrest
    change readValue (fuel + 1) (n.repr.toList ++ rest) = _
    obtain ⟨c, l, hl⟩ := List.exists_cons_of_ne_nil (l := n.repr.toList) (by simp)
    have hc : c.isDigit = true := by
      apply Nat.isDigit_of_mem_toDigits (b := 10) (n := n) (by decide) (by decide)
      rw [← Nat.toList_repr, hl]
      apply List.mem_cons_self
    rw [hl, List.cons_append] at hread ⊢
    rw [readValue_of_isDigit fuel hc, hread]
    rfl
  | fuel + 1, .int (.negSucc n) =>
    have htext : (Json.render (.int (.negSucc n))).toList ++ rest
        = '-' :: ((n + 1).repr.toList ++ rest) := by
      change ("-" ++ (n + 1).repr).toList ++ rest = _
      simp
    rw [htext, readValue, readNat_repr _ hrest]
    rfl
  | fuel + 1, .str s =>
    have htext : (Json.render (.str s)).toList ++ rest
        = '"' :: (s.toList.flatMap escapeChar ++ '"' :: rest) := by
      simp [Json.render, quote]
    rw [htext, readValue, readChars_flatMap, Option.map_some, String.ofList_toList]
  | fuel + 1, .arr [] => rfl
  | fuel + 1, .arr (j :: items) =>
    rw [hasFloat, itemsHaveFloat, Bool.or_eq_false_iff] at hfloat
    rw [size, sizeItems] at hfuel
    have hsize : size j ≤ fuel := by omega
    have hj := readValue_render hfloat.1 hsize
      (endsNumber_tail (Json.renderItems items) (c := ']') rfl rest)
    have hsizeItems : sizeItems items ≤ fuel := by omega
    have hitems := readItems_render hfloat.2 hsizeItems rest
    have htext : (Json.render (.arr (j :: items))).toList ++ rest
        = '[' :: ((Json.render j).toList ++ (tail (Json.renderItems items) ++ ']' :: rest)) := by
      simp [Json.render, Json.renderItems, toList_commaSeparated]
    rw [htext, readValue, hj, Option.bind_some, hitems, Option.map_some]
    -- a value does not start with the bracket that closes the array
    intro rest' hclosing
    rw [hclosing, readValue_closing] at hj
    cases hj
  | fuel + 1, .obj [] => rfl
  | fuel + 1, .obj ((key, j) :: members) =>
    rw [hasFloat, membersHaveFloat, Bool.or_eq_false_iff] at hfloat
    rw [size, sizeMembers] at hfuel
    obtain ⟨fuel, rfl⟩ : ∃ less, fuel = less + 1 := ⟨fuel - 1, by omega⟩
    have hsize : size j ≤ fuel := by omega
    have hj := readValue_render hfloat.1 hsize
      (endsNumber_tail ((Json.renderMembers members).map fun m => quote m.1 ++ ":" ++ m.2)
        (c := '\x7d') rfl rest)
    have hsizeMembers : sizeMembers members ≤ fuel + 1 := by omega
    have hmembers := readMembers_render hfloat.2 hsizeMembers rest
    have htext : (Json.render (.obj ((key, j) :: members))).toList ++ rest
        = '\x7b' :: ((quote key ++ ":" ++ Json.render j).toList
            ++ (tail ((Json.renderMembers members).map fun m => quote m.1 ++ ":" ++ m.2)
              ++ '\x7d' :: rest)) := by
      simp [Json.render, Json.renderMembers, toList_commaSeparated]
    rw [htext, readValue, readMember_quote hj, Option.bind_some, hmembers, Option.map_some]
    simp [quote]

theorem readItems_render {items : List Json} (hfloat : itemsHaveFloat items = false) {fuel : Nat}
    (hfuel : sizeItems items ≤ fuel) (rest : List Char) :
  readItems fuel (tail (Json.renderItems items) ++ ']' :: rest) = some (items, rest)
  := by
  match fuel, items with
  | 0, [] | 0, _ :: _ => simp [sizeItems] at hfuel
  | fuel + 1, [] => rfl
  | fuel + 1, j :: items =>
    rw [itemsHaveFloat, Bool.or_eq_false_iff] at hfloat
    rw [sizeItems] at hfuel
    have hsize : size j ≤ fuel := by omega
    have hj := readValue_render hfloat.1 hsize
      (endsNumber_tail (Json.renderItems items) (c := ']') rfl rest)
    have hsizeItems : sizeItems items ≤ fuel := by omega
    have hitems := readItems_render hfloat.2 hsizeItems rest
    have htext : tail (Json.renderItems (j :: items)) ++ ']' :: rest
        = ',' :: ((Json.render j).toList ++ (tail (Json.renderItems items) ++ ']' :: rest)) := by
      simp [Json.renderItems, tail]
    rw [htext, readItems, hj, Option.bind_some, hitems, Option.map_some]

theorem readMembers_render {members : List (String × Json)}
    (hfloat : membersHaveFloat members = false) {fuel : Nat}
    (hfuel : sizeMembers members ≤ fuel) (rest : List Char) :
  readMembers fuel (tail ((Json.renderMembers members).map fun m => quote m.1 ++ ":" ++ m.2)
      ++ '\x7d' :: rest) = some (members, rest)
  := by
  match fuel, members with
  | 0, [] | 0, _ :: _ => simp [sizeMembers] at hfuel
  | fuel + 1, [] => rfl
  | fuel + 1, (key, j) :: members =>
    rw [membersHaveFloat, Bool.or_eq_false_iff] at hfloat
    rw [sizeMembers] at hfuel
    obtain ⟨fuel, rfl⟩ : ∃ less, fuel = less + 1 := ⟨fuel - 1, by omega⟩
    have hsize : size j ≤ fuel := by omega
    have hj := readValue_render hfloat.1 hsize
      (endsNumber_tail ((Json.renderMembers members).map fun m => quote m.1 ++ ":" ++ m.2)
        (c := '\x7d') rfl rest)
    have hsizeMembers : sizeMembers members ≤ fuel + 1 := by omega
    have hmembers := readMembers_render hfloat.2 hsizeMembers rest
    have htext : tail ((Json.renderMembers ((key, j) :: members)).map
            fun m => quote m.1 ++ ":" ++ m.2) ++ '\x7d' :: rest
        = ',' :: ((quote key ++ ":" ++ Json.render j).toList
            ++ (tail ((Json.renderMembers members).map fun m => quote m.1 ++ ":" ++ m.2)
              ++ '\x7d' :: rest)) := by
      simp [Json.renderMembers, tail]
    rw [htext, readMembers, readMember_quote hj, Option.bind_some, hmembers, Option.map_some]

end

mutual

/-- A value is written with enough characters to be read. -/
theorem size_le_length {j : Json} (hfloat : hasFloat j = false) :
  size j ≤ 2 * (Json.render j).toList.length
  := by
  match j with
  | .null | .bool true | .bool false => decide
  | .int n =>
    have hne : (Json.render (.int n)).toList ≠ [] := by
      cases n <;> simp [Json.render, toString, Int.repr]
    have := List.length_pos_of_ne_nil hne
    simp only [size]
    omega
  | .float _ => cases hfloat
  | .str s =>
    simp only [size, Json.render, quote, String.toList_append, List.length_append]
    have hquote : "\"".toList.length = 1 := rfl
    omega
  | .arr [] => decide
  | .arr (j :: items) =>
    rw [hasFloat, itemsHaveFloat, Bool.or_eq_false_iff] at hfloat
    have hj := size_le_length hfloat.1
    have hitems := sizeItems_le_length hfloat.2
    simp only [size, sizeItems, Json.render, Json.renderItems, String.toList_append,
      toList_commaSeparated, List.length_append]
    have hopening : "[".toList.length = 1 := rfl
    have hclosing : "]".toList.length = 1 := rfl
    omega
  | .obj [] => decide
  | .obj ((key, j) :: members) =>
    rw [hasFloat, membersHaveFloat, Bool.or_eq_false_iff] at hfloat
    have hj := size_le_length hfloat.1
    have hmembers := sizeMembers_le_length hfloat.2
    simp only [size, sizeMembers, Json.render, Json.renderMembers, String.toList_append,
      List.map_cons, toList_commaSeparated, List.length_append]
    have hbrace : "\x7b".toList.length = 1 := rfl
    have hcolon : ":".toList.length = 1 := rfl
    omega

theorem sizeItems_le_length {items : List Json} (hfloat : itemsHaveFloat items = false) :
  sizeItems items ≤ 2 * (tail (Json.renderItems items)).length + 1
  := by
  match items with
  | [] => decide
  | j :: items =>
    rw [itemsHaveFloat, Bool.or_eq_false_iff] at hfloat
    have hj := size_le_length hfloat.1
    have hitems := sizeItems_le_length hfloat.2
    simp only [sizeItems, Json.renderItems, tail, List.flatMap_cons, List.length_append,
      List.length_cons] at hitems ⊢
    omega

theorem sizeMembers_le_length {members : List (String × Json)}
    (hfloat : membersHaveFloat members = false) :
  sizeMembers members
    ≤ 2 * (tail ((Json.renderMembers members).map fun m => quote m.1 ++ ":" ++ m.2)).length + 1
  := by
  match members with
  | [] => decide
  | (key, j) :: members =>
    rw [membersHaveFloat, Bool.or_eq_false_iff] at hfloat
    have hj := size_le_length hfloat.1
    have hmembers := sizeMembers_le_length hfloat.2
    simp only [sizeMembers, Json.renderMembers, tail, List.map_cons, List.flatMap_cons,
      List.length_append, List.length_cons, String.toList_append] at hmembers ⊢
    omega

end

/-- Read a text as one value. -/
def parse : JsonParser := fun text =>
  match readValue (2 * text.toList.length) text.toList with
  | some (j, []) => .ok j
  | _ => .error "expected value"

/-- The parser reads back what is written of any value. -/
theorem readsBack_parse (value : Json) :
  ReadsBack parse value
  := by
  intro text htext
  have hnormal := CanonJson.writeCanonical_normalise htext
  have hfloat : hasFloat value.normalise = false := by
    have hok := CanonJson.writeCanonical_isOk value.normalise
    rw [hnormal] at hok
    simpa [Except.isOk, Except.toBool] using hok
  have hrender := Json.render_normalise htext
  have hends : EndsNumber [] := by
    intro c hc
    cases hc
  have hread := readValue_render hfloat (size_le_length hfloat) hends
  rw [List.append_nil, hrender] at hread
  rw [parse, hread]

end JsonText

end KnowledgeCore
