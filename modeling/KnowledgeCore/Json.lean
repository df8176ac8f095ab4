import Mathlib.Algebra.Group.Int.Defs
import Mathlib.Algebra.Group.Nat.Defs
import Mathlib.Data.List.Sort

/-!
# JSON values, errors and canonical JSON

JSON values as `serde_json` represents them, the error type every operation of the program
fails with, and the canonical text of a value: no spaces, the keys of every object sorted,
no floating-point numbers.
-/

namespace KnowledgeCore

/-- A JSON value. A number is an integer, or a floating-point number given by its text. The
members of an object are listed with distinct keys. -/
inductive Json
  | null
  | bool (b : Bool)
  | int (n : Int)
  | float (text : String)
  | str (s : String)
  | arr (items : List Json)
  | obj (members : List (String × Json))
deriving Inhabited

namespace Json

/-- The member of an object under a key. -/
def get (j : Json) (key : String) : Option Json :=
  match j with
  | .obj members => members.lookup key
  | _ => none

def asStr : Json → Option String
  | .str s => some s
  | _ => none

def asArray : Json → Option (List Json)
  | .arr items => some items
  | _ => none

def asObject : Json → Option (List (String × Json))
  | .obj members => some members
  | _ => none

/-- An optional string, absent as `null`. -/
def ofOption : Option String → Json
  | some s => .str s
  | none => .null

/-! ### Reading a value into a structure -/

/-- What the reader of a field of type `α` makes of its value, or the reader's complaint. -/
abbrev Reader (α : Type) := Json → Except String α

def readString : Reader String
  | .str s => .ok s
  | _ => .error "invalid type: expected a string"

def readBool : Reader Bool
  | .bool b => .ok b
  | _ => .error "invalid type: expected a boolean"

def readI64 : Reader Int64
  | .int n =>
    if Int64.minValue.toInt ≤ n ∧ n ≤ Int64.maxValue.toInt then
      .ok (Int64.ofInt n)
    else
      .error "invalid value: expected i64"
  | _ => .error "invalid type: expected i64"

def readU32 : Reader Nat
  | .int n =>
    if 0 ≤ n ∧ n < 2 ^ 32 then
      .ok n.toNat
    else
      .error "invalid value: expected u32"
  | _ => .error "invalid type: expected u32"

/-- A value that may be `null`. -/
def readOption {α : Type} (read : Reader α) : Reader (Option α)
  | .null => .ok none
  | j => (read j).map some

/-- A field that has to be there. -/
def field {α : Type} (j : Json) (key : String) (read : Reader α) : Except String α :=
  match j.get key with
  | some v => read v
  | none => .error ("missing field " ++ key)

/-- A field with a default for when it is missing. -/
def fieldOr {α : Type} (j : Json) (key : String) (read : Reader α) (default : α) :
  Except String α
  :=
  match j.get key with
  | some v => read v
  | none => .ok default

/-- An object to read fields from. -/
def expectObject : Json → Except String Unit
  | .obj _ => .ok ()
  | _ => .error "invalid type: expected a map"

@[simp] theorem readString_str (s : String) :
  readString (.str s) = .ok s
  := rfl

@[simp] theorem readI64_toInt (n : Int64) :
  readI64 (.int n.toInt) = .ok n
  := by
  rw [readI64, if_pos ⟨n.minValue_le_toInt, n.toInt_le⟩, Int64.ofInt_toInt]

end Json

/-! ### Errors -/

/-- The error an operation fails with. -/
structure AppError where
  schemaVersion : Nat := 1
  code : String
  category : String
  message : String
  retryable : Bool := false
  details : Json := .obj []
deriving Inhabited

/-- The result of an operation that may fail. -/
abbrev AppResult (α : Type) := Except AppError α

/-- Turn the complaint of a library into an error of the program. -/
def mapErr {ε α : Type} (f : ε → AppError) : Except ε α → AppResult α
  | .ok a => .ok a
  | .error e => .error (f e)

/-- The value, or else the given error. -/
def okOrElse {α : Type} (e : AppError) : Option α → AppResult α
  | some a => .ok a
  | none => .error e

@[simp] theorem mapErr_ok {ε α : Type} (f : ε → AppError) (a : α) :
  mapErr f (.ok a) = .ok a
  := rfl

@[simp] theorem mapErr_error {ε α : Type} (f : ε → AppError) (e : ε) :
  mapErr f (.error e : Except ε α) = .error (f e)
  := rfl

@[simp] theorem okOrElse_some {α : Type} (e : AppError) (a : α) :
  okOrElse e (some a) = .ok a
  := rfl

@[simp] theorem okOrElse_none {α : Type} (e : AppError) :
  okOrElse e (none : Option α) = .error e
  := rfl

theorem mapErr_eq_ok {ε α : Type} {f : ε → AppError} {x : Except ε α} {a : α} :
  mapErr f x = .ok a ↔ x = .ok a
  := by
  cases x <;> simp

theorem okOrElse_eq_ok {α : Type} {e : AppError} {x : Option α} {a : α} :
  okOrElse e x = .ok a ↔ x = some a
  := by
  cases x <;> simp

theorem ok_of_toOption {α : Type} {x : AppResult α} {a : α} (h : x.toOption = some a) :
  x = .ok a
  := by
  cases x <;> cases h
  rfl

theorem exists_of_isOk {ε α : Type} {x : Except ε α} (h : x.isOk = true) :
  ∃ a, x = .ok a
  := by
  cases x with
  | error e => cases h
  | ok a => use a

theorem exists_of_any {ε α : Type} {x : Except ε α} {p : α → Bool}
    (h : x.toOption.any p = true) :
  ∃ a, x = .ok a ∧ p a = true
  := by
  cases x with
  | error e => cases h
  | ok a => use a, rfl, h

/-- What a computation that succeeds ends with. -/
theorem exists_run_of_any {ε α σ : Type} {x : Except ε α × σ} {p : α → Bool}
    (h : x.1.toOption.any p = true) :
  ∃ a s, x = (.ok a, s) ∧ p a = true
  := by
  obtain ⟨a, ha, hp⟩ := exists_of_any h
  use a, x.2, Prod.ext ha rfl, hp

theorem exists_run_of_isOk {ε α σ : Type} {x : Except ε α × σ} (h : x.1.isOk = true) :
  ∃ a s, x = (.ok a, s)
  := by
  obtain ⟨a, ha⟩ := exists_of_isOk h
  use a, x.2, Prod.ext ha rfl

/-- A sequence succeeds exactly when both its parts do. -/
theorem AppResult.bind_eq_ok {α β : Type} {x : AppResult α} {f : α → AppResult β} {b : β} :
  (x >>= f) = .ok b ↔ ∃ a, x = .ok a ∧ f a = .ok b
  := by
  cases x <;> simp [bind, Except.bind]

@[simp] theorem AppResult.ok_bind {α β : Type} (a : α) (f : α → AppResult β) :
  (Except.ok a >>= f) = f a
  := rfl

@[simp] theorem AppResult.error_bind {α β : Type} (e : AppError) (f : α → AppResult β) :
  ((Except.error e : AppResult α) >>= f) = .error e
  := rfl

/-! ### Canonical JSON -/

namespace CanonJson

/-- The digit of a number below sixteen, in lower case. -/
def hexDigit (n : Nat) : Char :=
  if n < 10 then Char.ofNat ('0'.toNat + n) else Char.ofNat ('a'.toNat + (n - 10))

/-- How a character is written inside a JSON string. -/
def escapeChar (c : Char) : List Char :=
  if c = '"' then ['\\', '"']
  else if c = '\\' then ['\\', '\\']
  else if c.toNat = 8 then ['\\', 'b']
  else if c.toNat = 9 then ['\\', 't']
  else if c.toNat = 10 then ['\\', 'n']
  else if c.toNat = 12 then ['\\', 'f']
  else if c.toNat = 13 then ['\\', 'r']
  else if c.toNat < 32 then
    ['\\', 'u', '0', '0', hexDigit (c.toNat / 16), hexDigit (c.toNat % 16)]
  else [c]

/-- A JSON string with its quotes. -/
def quote (s : String) : String :=
  "\"" ++ String.ofList (s.toList.flatMap escapeChar) ++ "\""

/-- The texts, separated by commas. -/
def commaSeparated : List String → String
  | [] => ""
  | [s] => s
  | s :: rest => s ++ "," ++ commaSeparated rest

/-- The error for a floating-point number. -/
def floatForbidden : AppError where
  code := "KC_CANON_JSON_FLOAT_FORBIDDEN"
  category := "canon_json"
  message := "floats are forbidden in canonical json"

/-- Order written members by their keys. -/
def sortMembers (l : List (String × String)) : List (String × String) :=
  l.insertionSort (fun a b => a.1 ≤ b.1)

mutual

/-- The canonical text of a value. -/
def writeCanonical : Json → AppResult String
  | .null => .ok "null"
  | .bool b => .ok (if b then "true" else "false")
  | .int n => .ok (toString n)
  | .float _ => .error floatForbidden
  | .str s => .ok (quote s)
  | .arr items => do
    let texts ← writeItems items
    .ok ("[" ++ commaSeparated texts ++ "]")
  | .obj members => do
    let texts ← writeMembers members
    let sorted := (sortMembers texts).map (fun m => quote m.1 ++ ":" ++ m.2)
    .ok ("\x7b" ++ commaSeparated sorted ++ "\x7d")

def writeItems : List Json → AppResult (List String)
  | [] => .ok []
  | j :: rest => do
    let text ← writeCanonical j
    let texts ← writeItems rest
    .ok (text :: texts)

def writeMembers : List (String × Json) → AppResult (List (String × String))
  | [] => .ok []
  | (key, j) :: rest => do
    let text ← writeCanonical j
    let texts ← writeMembers rest
    .ok ((key, text) :: texts)

end

/-- The canonical text of a value, whose bytes are what the program hashes and signs. -/
def toCanonicalBytes (value : Json) : AppResult String :=
  writeCanonical value

mutual

/-- Whether there is a floating-point number anywhere in a value. -/
def hasFloat : Json → Bool
  | .float _ => true
  | .arr items => itemsHaveFloat items
  | .obj members => membersHaveFloat members
  | _ => false

def itemsHaveFloat : List Json → Bool
  | [] => false
  | j :: rest => hasFloat j || itemsHaveFloat rest

def membersHaveFloat : List (String × Json) → Bool
  | [] => false
  | (_, j) :: rest => hasFloat j || membersHaveFloat rest

end

theorem membersHaveFloat_append (l l' : List (String × Json)) :
  membersHaveFloat (l ++ l') = (membersHaveFloat l || membersHaveFloat l')
  := by
  induction l with
  | nil => rfl
  | cons m l ih => rw [List.cons_append, membersHaveFloat, membersHaveFloat, ih, Bool.or_assoc]

theorem itemsHaveFloat_eq_false {items : List Json} :
  itemsHaveFloat items = false ↔ ∀ j ∈ items, hasFloat j = false
  := by
  induction items with
  | nil => simp [itemsHaveFloat]
  | cons j items ih => simp [itemsHaveFloat, ih]

mutual

/-- A value is refused exactly when there is a floating-point number in it. -/
theorem writeCanonical_isOk (j : Json) :
  (writeCanonical j).isOk = !hasFloat j
  := by
  match j with
  | .null | .bool _ | .int _ | .float _ | .str _ => rfl
  | .arr items =>
    have h := writeItems_isOk items
    simp only [writeCanonical, hasFloat, ← h]
    cases writeItems items <;> rfl
  | .obj members =>
    have h := writeMembers_isOk members
    simp only [writeCanonical, hasFloat, ← h]
    cases writeMembers members <;> rfl

theorem writeItems_isOk (items : List Json) :
  (writeItems items).isOk = !itemsHaveFloat items
  := by
  match items with
  | [] => rfl
  | j :: rest =>
    have h := writeCanonical_isOk j
    have h' := writeItems_isOk rest
    simp only [writeItems, itemsHaveFloat, Bool.not_or, ← h, ← h']
    cases writeCanonical j <;> cases writeItems rest <;> rfl

theorem writeMembers_isOk (members : List (String × Json)) :
  (writeMembers members).isOk = !membersHaveFloat members
  := by
  match members with
  | [] => rfl
  | (_, j) :: rest =>
    have h := writeCanonical_isOk j
    have h' := writeMembers_isOk rest
    simp only [writeMembers, membersHaveFloat, Bool.not_or, ← h, ← h']
    cases writeCanonical j <;> cases writeMembers rest <;> rfl

end

/-- A value without floating-point numbers has a canonical text. -/
theorem toCanonicalBytes_ok_of_not_hasFloat {j : Json} (h : hasFloat j = false) :
  ∃ text, toCanonicalBytes j = .ok text
  := by
  have := writeCanonical_isOk j
  rw [h] at this
  unfold toCanonicalBytes
  cases hw : writeCanonical j with
  | ok text => use text
  | error e => simp [hw, Except.isOk, Except.toBool] at this

example : toCanonicalBytes (.obj [("b", .int 2), ("a", .arr [.str "x", .null])])
  = .ok "\x7b\"a\":[\"x\",null],\"b\":2\x7d"
  := by rfl

end CanonJson

end KnowledgeCore
