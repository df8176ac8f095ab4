import KnowledgeCore.CanonJson

/-!
# The schema of a manifest

The verifier has a manifest checked against a JSON schema, by a package. Here are the keywords the
schema is written with, which values conform to them, and the schema itself.
-/

namespace KnowledgeCore

namespace Json

/-! ### Deciding whether two values are the same -/

mutual

/-- Whether `serde_json` finds two values equal. -/
def isSame : Json → Json → Bool
  | .null, .null => true
  | .bool b, .bool b' => b == b'
  | .int n, .int n' => n == n'
  | .float text, .float text' => text == text'
  | .str s, .str s' => s == s'
  | .arr items, .arr items' => itemsAreSame items items'
  | .obj members, .obj members' =>
    members.length == members'.length && membersAreSame members members'
  | _, _ => false

def itemsAreSame : List Json → List Json → Bool
  | [], [] => true
  | j :: rest, j' :: rest' => isSame j j' && itemsAreSame rest rest'
  | _, _ => false

def membersAreSame : List (String × Json) → List (String × Json) → Bool
  | [], _ => true
  | (key, j) :: rest, members' =>
    (match members'.lookup key with
      | some j' => isSame j j'
      | none => false) && membersAreSame rest members'

end

mutual

theorem isSame_iff (j j' : Json) :
  isSame j j' = true ↔ Same j j'
  := by
  match j with
  | .null | .bool _ | .int _ | .float _ | .str _ => cases j' <;> simp [isSame, Same]
  | .arr items =>
    cases j' with
    | arr items' => rw [isSame, Same, itemsAreSame_iff]
    | _ => simp [isSame, Same]
  | .obj members =>
    cases j' with
    | obj members' => rw [isSame, Same, Bool.and_eq_true, beq_iff_eq, membersAreSame_iff]
    | _ => simp [isSame, Same]

theorem itemsAreSame_iff (items items' : List Json) :
  itemsAreSame items items' = true ↔ SameItems items items'
  := by
  match items with
  | [] => cases items' <;> simp [itemsAreSame, SameItems]
  | j :: rest =>
    cases items' with
    | nil => simp [itemsAreSame, SameItems]
    | cons j' rest' =>
      rw [itemsAreSame, SameItems, Bool.and_eq_true, isSame_iff, itemsAreSame_iff]

theorem membersAreSame_iff (members members' : List (String × Json)) :
  membersAreSame members members' = true ↔ SameMembers members members'
  := by
  match members with
  | [] => simp [membersAreSame, SameMembers]
  | (key, j) :: rest =>
    rw [membersAreSame, SameMembers, Bool.and_eq_true, membersAreSame_iff]
    cases members'.lookup key with
    | none => simp
    | some j' => simp only [isSame_iff]

end

/-- How `serde_json` displays a value: the members of an object in the order of their keys. -/
def display (j : Json) : String :=
  j.normalise.render

def asBool : Json → Option Bool
  | .bool b => some b
  | _ => none

def asI64 : Json → Option Int64
  | .int n =>
    if Int64.minValue.toInt ≤ n ∧ n ≤ Int64.maxValue.toInt then some (Int64.ofInt n) else none
  | _ => none

def isI64 (j : Json) : Bool :=
  j.asI64.isSome

def isObject (j : Json) : Bool :=
  j.asObject.isSome

def isNull : Json → Bool
  | .null => true
  | _ => false

@[simp] theorem asI64_toInt (n : Int64) :
  asI64 (.int n.toInt) = some n
  := by
  rw [asI64, if_pos ⟨n.minValue_le_toInt, n.toInt_le⟩, Int64.ofInt_toInt]

end Json

namespace Verifier

/-! ### JSON Schema -/

/-- A `type` of the schema language. -/
inductive JsonType
  | null
  | boolean
  | integer
  | string
  | array
  | object

/-- Whether a value is of a type. A floating-point number is of none here. -/
def JsonType.has : JsonType → Json → Bool
  | .null, .null => true
  | .boolean, .bool _ => true
  | .integer, .int _ => true
  | .string, .str _ => true
  | .array, .arr _ => true
  | .object, .obj _ => true
  | _, _ => false

/-- A regular expression for whole strings, as the classes of the characters one by one. -/
abbrev Pattern := List (Char → Bool)

/-- Whether the characters are of the classes. -/
def Pattern.fits : Pattern → List Char → Bool
  | [], [] => true
  | cls :: classes, c :: l => cls c && Pattern.fits classes l
  | _, _ => false

@[simp] theorem Pattern.fits_nil : Pattern.fits [] [] = true := rfl
@[simp] theorem Pattern.fits_nil_cons (c : Char) (l : List Char) :
  Pattern.fits [] (c :: l) = false
  := rfl
@[simp] theorem Pattern.fits_cons_nil (cls : Char → Bool) (p : Pattern) :
  Pattern.fits (cls :: p) [] = false
  := rfl
@[simp] theorem Pattern.fits_cons (cls : Char → Bool) (p : Pattern) (c : Char) (l : List Char) :
  Pattern.fits (cls :: p) (c :: l) = (cls c && p.fits l)
  := rfl

/-- A keyword of a schema. The properties come with whether others are allowed besides them. -/
inductive Keyword
  | type (types : List JsonType)
  | const (value : Json)
  | enum (values : List Json)
  | minLength (n : Nat)
  | minimum (n : Int)
  | pattern (p : Pattern)
  | required (names : List String)
  | properties (members : List (String × List Keyword)) (additional : Bool)
  | items (schema : List Keyword)

/-- A schema, as its keywords. -/
abbrev Schema := List Keyword

mutual

/-- Whether a value conforms to a keyword. A keyword says nothing about values of other types
than its own. -/
def Keyword.accepts : Keyword → Json → Bool
  | .type types, j => types.any (fun t => t.has j)
  | .const value, j => j.isSame value
  | .enum values, j => values.any (fun value => j.isSame value)
  | .minLength n, .str s => n ≤ s.length
  | .minimum n, .int k => n ≤ k
  | .pattern p, .str s => p.fits s.toList
  | .required names, .obj members => names.all (fun name => (members.lookup name).isSome)
  | .properties properties additional, .obj members =>
    propertiesAccept properties members
      && (additional || members.all (fun m => (properties.map Prod.fst).contains m.1))
  | .items schema, .arr items => items.all (fun j => accepts schema j)
  | _, _ => true

/-- Whether a value conforms to a schema. -/
def accepts : List Keyword → Json → Bool
  | [], _ => true
  | keyword :: rest, j => keyword.accepts j && accepts rest j

def propertiesAccept : List (String × List Keyword) → List (String × Json) → Bool
  | [], _ => true
  | (name, schema) :: rest, members =>
    (match members.lookup name with
      | some j => accepts schema j
      | none => true) && propertiesAccept rest members

end

@[simp] theorem accepts_nil (j : Json) : accepts [] j = true := rfl
@[simp] theorem accepts_cons (keyword : Keyword) (rest : List Keyword) (j : Json) :
  accepts (keyword :: rest) j = (keyword.accepts j && accepts rest j)
  := rfl

@[simp] theorem accepts_type (types : List JsonType) (j : Json) :
  (Keyword.type types).accepts j = types.any (fun t => t.has j)
  := rfl
@[simp] theorem accepts_const (value j : Json) : (Keyword.const value).accepts j = j.isSame value
  := rfl
@[simp] theorem accepts_enum (values : List Json) (j : Json) :
  (Keyword.enum values).accepts j = values.any (fun value => j.isSame value)
  := rfl
@[simp] theorem accepts_minLength (n : Nat) (s : String) :
  (Keyword.minLength n).accepts (.str s) = decide (n ≤ s.length)
  := rfl
@[simp] theorem accepts_minimum (n k : Int) :
  (Keyword.minimum n).accepts (.int k) = decide (n ≤ k)
  := rfl
@[simp] theorem accepts_pattern (p : Pattern) (s : String) :
  (Keyword.pattern p).accepts (.str s) = p.fits s.toList
  := rfl
@[simp] theorem accepts_required (names : List String) (members : List (String × Json)) :
  (Keyword.required names).accepts (.obj members)
    = names.all (fun name => (members.lookup name).isSome)
  := rfl
@[simp] theorem accepts_properties (properties : List (String × Schema)) (additional : Bool)
    (members : List (String × Json)) :
  (Keyword.properties properties additional).accepts (.obj members)
    = (propertiesAccept properties members
      && (additional || members.all (fun m => (properties.map Prod.fst).contains m.1)))
  := rfl
@[simp] theorem accepts_items (schema : Schema) (items : List Json) :
  (Keyword.items schema).accepts (.arr items) = items.all (fun j => accepts schema j)
  := rfl

@[simp] theorem propertiesAccept_nil (members : List (String × Json)) :
  propertiesAccept [] members = true
  := rfl
@[simp] theorem propertiesAccept_cons (name : String) (schema : Schema)
    (rest : List (String × Schema)) (members : List (String × Json)) :
  propertiesAccept ((name, schema) :: rest) members
    = ((match members.lookup name with
        | some j => accepts schema j
        | none => true) && propertiesAccept rest members)
  := rfl

/-- What the validator reports of a value that does not conform. -/
structure SchemaError where
  instancePath : String
  schemaPath : String
  message : String

/-- `jsonschema::validator_for`: from a schema, what looks for an error in a value. -/
abbrev ValidatorFor := Schema → Except String (Json → Option SchemaError)

/-- The package compiles every schema, and finds no error in exactly the values that conform.
Nothing is said of values with floating-point numbers. -/
def Validates (validatorFor : ValidatorFor) : Prop :=
  ∀ schema, ∃ validate, validatorFor schema = .ok validate
    ∧ ∀ value, CanonJson.hasFloat value = false →
        (validate value = none ↔ accepts schema value = true)

/-- A validator that says nothing of the values that do not conform but where they start. -/
def Sample.validatorFor : ValidatorFor := fun schema =>
  .ok fun value =>
    if accepts schema value then none
    else some { instancePath := "", schemaPath := "", message := "does not conform" }

theorem Sample.validates : Validates Sample.validatorFor := by
  intro schema
  refine ⟨_, rfl, fun value _ => ?_⟩
  cases accepts schema value <;> simp

/-! ### The schema of the manifest -/

def Pattern.literal (s : String) : Pattern :=
  s.toList.map (fun c d => c == d)

/-- `[0-9a-fA-F]` -/
def isHexDigit (c : Char) : Bool :=
  Hex.isLowerHex c || ('A' ≤ c && c ≤ 'F')

/-- `^blake3:[0-9a-f]{64}$` -/
def blake3Pattern : Pattern :=
  .literal "blake3:" ++ List.replicate 64 Hex.isLowerHex

/-- `^[0-9a-fA-F]{8}-[0-9a-fA-F]{4}-[1-5][0-9a-fA-F]{3}-[89abAB][0-9a-fA-F]{3}-[0-9a-fA-F]{12}$` -/
def uuidPattern : Pattern :=
  List.replicate 8 isHexDigit ++ .literal "-" ++ List.replicate 4 isHexDigit ++ .literal "-"
    ++ [fun c => '1' ≤ c && c ≤ '5'] ++ List.replicate 3 isHexDigit ++ .literal "-"
    ++ [fun c => "89abAB".toList.contains c] ++ List.replicate 3 isHexDigit ++ .literal "-"
    ++ List.replicate 12 isHexDigit

def objectSchema (required : List String) (properties : List (String × Schema)) : Schema :=
  [.type [.object], .required required, .properties properties false]

theorem accepts_objectSchema (required : List String) (properties : List (String × Schema))
    (members : List (String × Json)) :
  accepts (objectSchema required properties) (.obj members)
    = (required.all (fun name => (members.lookup name).isSome)
      && propertiesAccept properties members
      && members.all (fun m => (properties.map Prod.fst).contains m.1))
  := by
  simp [objectSchema, JsonType.has, Bool.and_assoc]

def stringSchema : Schema := [.type [.string]]
def nonEmptySchema : Schema := [.type [.string], .minLength 1]
def booleanSchema : Schema := [.type [.boolean]]
def integerSchema : Schema := [.type [.integer]]
def hashSchema : Schema := [.type [.string], .pattern blake3Pattern]
def constSchema (s : String) : Schema := [.type [.string], .const (.str s)]

def encryptionSchema : Schema :=
  objectSchema ["enabled", "mode", "kdf"]
    [("enabled", booleanSchema),
      ("mode", stringSchema),
      ("key_reference", [.type [.string, .null]]),
      ("kdf", objectSchema ["algorithm", "memory_kib", "iterations", "parallelism", "salt_id"]
        [("algorithm", stringSchema),
          ("memory_kib", [.type [.integer], .minimum 1]),
          ("iterations", [.type [.integer], .minimum 1]),
          ("parallelism", [.type [.integer], .minimum 1]),
          ("salt_id", stringSchema)])]

def dbEncryptionSchema : Schema :=
  objectSchema ["enabled", "mode", "kdf"]
    [("enabled", booleanSchema),
      ("mode", stringSchema),
      ("key_reference", [.type [.string, .null]]),
      ("kdf", objectSchema ["algorithm"] [("algorithm", stringSchema)])]

def descriptorSchema : Schema :=
  objectSchema ["provider", "provider_ref", "key_id", "wrapped_at_ms"]
    [("provider", nonEmptySchema),
      ("provider_ref", nonEmptySchema),
      ("key_id", nonEmptySchema),
      ("wrapped_at_ms", integerSchema)]

def recoveryEscrowSchema : Schema :=
  objectSchema ["enabled", "provider", "updated_at_ms", "descriptor"]
    [("enabled", booleanSchema),
      ("provider", nonEmptySchema),
      ("providers", [.type [.array], .items nonEmptySchema]),
      ("updated_at_ms", [.type [.integer, .null]]),
      ("descriptor", [.type [.object, .null]]),
      ("escrow_descriptors", [.type [.array], .items descriptorSchema])]

def packagingSchema : Schema :=
  objectSchema ["format", "zip_policy"]
    [("format", [.type [.string], .enum [.str "folder", .str "zip"]]),
      ("zip_policy", objectSchema ["compression", "mtime", "file_mode"]
        [("compression", constSchema "stored"),
          ("mtime", constSchema "1980-01-01T00:00:00Z"),
          ("file_mode", constSchema "0644")])]

def objectEntrySchema : Schema :=
  objectSchema ["relative_path", "hash", "storage_hash", "encrypted", "bytes"]
    [("relative_path", stringSchema),
      ("hash", hashSchema),
      ("storage_hash", hashSchema),
      ("encrypted", booleanSchema),
      ("bytes", [.type [.integer], .minimum 0])]

/-- The schema of a manifest. The annotations in it, such as the `format` of the identifier, are
left out, since they refuse no value. -/
def manifestSchema : Schema :=
  objectSchema
    ["manifest_version", "vault_id", "schema_versions", "encryption", "db_encryption",
      "recovery_escrow", "packaging", "chunking_config_hash", "db", "objects"]
    [("manifest_version", [.const (.int 1)]),
      ("vault_id", [.type [.string], .pattern uuidPattern]),
      ("schema_versions", [.type [.object]]),
      ("encryption", encryptionSchema),
      ("db_encryption", dbEncryptionSchema),
      ("recovery_escrow", recoveryEscrowSchema),
      ("packaging", packagingSchema),
      ("toolchain_registry", [.type [.object]]),
      ("chunking_config_id", stringSchema),
      ("chunking_config_hash", hashSchema),
      ("embedding", [.type [.object]]),
      ("db", objectSchema ["relative_path", "hash"]
        [("relative_path", stringSchema), ("hash", hashSchema)]),
      ("objects", [.type [.array], .items objectEntrySchema]),
      ("indexes", [.type [.object]])]

end Verifier

end KnowledgeCore
