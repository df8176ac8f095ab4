import Mathlib.Data.List.TakeWhile
import KnowledgeCore.Db

/-!
# Byte strings, hashes and keys

What the program stores and hashes are byte strings. A byte string is represented by what
its reader decodes from it: a text, a JSON value in one of its layouts, a database file, an
archive. The hash function, the signature scheme and the other algorithms of the packages
the program uses are parameters.
-/

namespace KnowledgeCore

/-- A byte string. The first layout of a JSON value is its canonical text. -/
inductive Content
  | raw (bytes : List UInt8)
  | text (s : String)
  | json (value : Json) (layout : Nat)
  | sqlite (file : SqliteFile)
  | zip (entries : List (String × Content))

namespace Content

/-- What `serde_json` reads. -/
def parseJson : Content → Except String Json
  | .json value _ => .ok value
  | _ => .error "expected value"

/-- The file of canonical JSON for a value. -/
def ofCanonical (value : Json) : AppResult Content := do
  let _ ← CanonJson.toCanonicalBytes value
  .ok (.json value 0)

theorem ofCanonical_eq_ok {value : Json} {c : Content} (h : ofCanonical value = .ok c) :
  c = .json value 0
  := by
  rw [ofCanonical] at h
  cases hv : CanonJson.toCanonicalBytes value with
  | error e => simp [hv, bind, Except.bind] at h
  | ok text => simpa [hv, bind, Except.bind, eq_comm] using h

theorem ofCanonical_of_not_hasFloat {value : Json} (h : CanonJson.hasFloat value = false) :
  ofCanonical value = .ok (.json value 0)
  := by
  obtain ⟨text, ht⟩ := CanonJson.toCanonicalBytes_ok_of_not_hasFloat h
  simp [ofCanonical, ht, bind, Except.bind]

/-- The bytes of an encrypted object start with this. -/
def ENCRYPTED_MAGIC : List UInt8 := [75, 67, 69, 49]

/-- Whether a file of the object store is encrypted. -/
def isEncryptedPayload : Content → Bool
  | .raw bytes => ENCRYPTED_MAGIC.isPrefixOf bytes
  | .text s => ENCRYPTED_MAGIC.isPrefixOf s.toUTF8.data.toList
  | _ => false

end Content

/-- The algorithms of the packages the program uses, as functions. -/
structure Externals where
  /-- `blake3::hash` -/
  blake3 : Content → Vector UInt8 32
  /-- `Sha256::digest` -/
  sha256 : List UInt8 → Vector UInt8 32
  /-- `Argon2::hash_password_into`, with memory, iterations and parallelism -/
  argon2 : String → String → Nat → Nat → Nat → Except String (Vector UInt8 32)
  /-- The bytes of the verifying key of an Ed25519 signing key -/
  verifyingKey : Vector UInt8 32 → Vector UInt8 32
  /-- `SigningKey::sign` -/
  sign : Vector UInt8 32 → String → Vector UInt8 64
  /-- Whether `VerifyingKey::from_bytes` accepts the bytes -/
  isVerifyingKey : Vector UInt8 32 → Bool
  /-- `VerifyingKey::verify` -/
  verify : Vector UInt8 32 → String → Vector UInt8 64 → Bool
  /-- `XChaCha20Poly1305::encrypt`, with key, nonce and plaintext -/
  encrypt : Vector UInt8 32 → Vector UInt8 24 → List UInt8 → Option (List UInt8)
  /-- `XChaCha20Poly1305::decrypt`, with key, nonce and ciphertext -/
  decrypt : Vector UInt8 32 → Vector UInt8 24 → List UInt8 → Option (List UInt8)
  /-- The length of a byte string -/
  byteLen : Content → Nat
  /-- The layout of a database file after a transaction that leaves it with the tables -/
  relayout : SqliteFile → Db → Nat

/-- The file after a transaction that leaves it with the given tables. -/
def Externals.commit (ext : Externals) (file : SqliteFile) (db : Db) : SqliteFile :=
  { file with db := db, layout := ext.relayout file db }

@[simp] theorem Externals.commit_db (ext : Externals) (file : SqliteFile) (db : Db) :
  (ext.commit file db).db = db
  := rfl

@[simp] theorem Externals.commit_key (ext : Externals) (file : SqliteFile) (db : Db) :
  (ext.commit file db).key = file.key
  := rfl

/-! ### Hexadecimal -/

namespace Hex

open CanonJson (hexDigit)

/-- The value of a lower-case hexadecimal digit. -/
def digitValue (c : Char) : Option Nat :=
  if '0' ≤ c ∧ c ≤ '9' then some (c.toNat - '0'.toNat)
  else if 'a' ≤ c ∧ c ≤ 'f' then some (c.toNat - 'a'.toNat + 10)
  else none

def isLowerHex (c : Char) : Bool :=
  (digitValue c).isSome

/-- The two digits of a byte. -/
def byteDigits (b : UInt8) : List Char :=
  [hexDigit (b.toNat / 16), hexDigit (b.toNat % 16)]

def bytesToHex (bytes : List UInt8) : String :=
  String.ofList (bytes.flatMap byteDigits)

/-- The byte written by two digits. -/
def byteOf (high low : Char) : UInt8 :=
  UInt8.ofNat ((digitValue high).getD 0 * 16 + (digitValue low).getD 0)

/-- The bytes written by pairs of digits. -/
def bytesOf : List Char → List UInt8
  | high :: low :: rest => byteOf high low :: bytesOf rest
  | _ => []

/-- The error of a hexadecimal field of the wrong shape. -/
def invalidShape (category code field : String) (expected actual : Nat) : AppError where
  code := code
  category := category
  message := "hex value has invalid shape"
  details := .obj [("field", .str field), ("expected_hex_chars", .int expected),
    ("actual_hex_chars", .int actual)]

/-- Read `n` bytes written in lower-case hexadecimal. Each of the modules that does this has
its own error category. -/
def parseLowerHexFixed (category : String) (n : Nat) (value field code : String) :
  AppResult (Vector UInt8 n)
  :=
  if value.utf8ByteSize = n * 2 ∧ value.toList.all isLowerHex = true then
    .ok (Vector.ofFn fun idx =>
      byteOf (value.toList.getD (idx * 2) '0') (value.toList.getD (idx * 2 + 1) '0'))
  else
    .error (invalidShape category code field (n * 2) value.utf8ByteSize)

/-- Read any number of bytes written in lower-case hexadecimal. -/
def parseLowerHexVec (category value field code : String) : AppResult (List UInt8) :=
  if value.utf8ByteSize % 2 = 0 ∧ value.toList.all isLowerHex = true then
    .ok (bytesOf value.toList)
  else
    .error {
      code := code
      category := category
      message := "hex value has invalid shape"
      details := .obj [("field", .str field), ("actual_hex_chars", .int value.utf8ByteSize)] }

theorem digitValue_hexDigit (n : Nat) (h : n < 16) :
  digitValue (hexDigit n) = some n
  := by
  revert n
  decide

theorem utf8Size_hexDigit (n : Nat) (h : n < 16) :
  (hexDigit n).utf8Size = 1
  := by
  revert n
  decide

theorem byteOf_digits (b : UInt8) :
  byteOf (hexDigit (b.toNat / 16)) (hexDigit (b.toNat % 16)) = b
  := by
  have h := b.toNat_lt
  rw [byteOf, digitValue_hexDigit _ (by omega), digitValue_hexDigit _ (by omega)]
  apply UInt8.toNat_inj.mp
  simp only [Option.getD_some, UInt8.toNat_ofNat']
  omega

theorem bytesOf_digits (bytes : List UInt8) :
  bytesOf (bytes.flatMap byteDigits) = bytes
  := by
  induction bytes with
  | nil => rfl
  | cons b bytes ih =>
    simp only [List.flatMap_cons, byteDigits, List.cons_append, List.nil_append, bytesOf,
      byteOf_digits]
    rw [ih]

theorem isLowerHex_of_mem_digits {bytes : List UInt8} {c : Char}
    (h : c ∈ bytes.flatMap byteDigits) :
  ∃ n < 16, c = hexDigit n
  := by
  simp only [List.mem_flatMap, byteDigits, List.mem_cons, List.not_mem_nil, or_false] at h
  obtain ⟨b, -, rfl | rfl⟩ := h
  · use b.toNat / 16
    have := b.toNat_lt
    exact ⟨by omega, rfl⟩
  · use b.toNat % 16
    exact ⟨by omega, rfl⟩

theorem utf8ByteSize_ofList_eq_length {l : List Char} (h : ∀ c ∈ l, c.utf8Size = 1) :
  (String.ofList l).utf8ByteSize = l.length
  := by
  induction l with
  | nil => rfl
  | cons c l ih =>
    have hc : (String.ofList (c :: l)) = String.singleton c ++ String.ofList l := by
      rw [String.singleton_eq_ofList, ← String.ofList_append, List.singleton_append]
    rw [hc, String.utf8ByteSize_append, String.utf8ByteSize_singleton, h c (by simp),
      ih (fun c hc => h c (by simp [hc])), List.length_cons, Nat.add_comm]

theorem length_digits (bytes : List UInt8) :
  (bytes.flatMap byteDigits).length = bytes.length * 2
  := by
  induction bytes with
  | nil => rfl
  | cons b bytes ih =>
    rw [List.flatMap_cons, List.length_append, ih, List.length_cons]
    simp only [byteDigits, List.length_cons, List.length_nil]
    omega

theorem utf8ByteSize_bytesToHex (bytes : List UInt8) :
  (bytesToHex bytes).utf8ByteSize = bytes.length * 2
  := by
  rw [bytesToHex, utf8ByteSize_ofList_eq_length, length_digits]
  intro c hc
  obtain ⟨n, hn, rfl⟩ := isLowerHex_of_mem_digits hc
  apply utf8Size_hexDigit n hn

theorem all_isLowerHex_bytesToHex (bytes : List UInt8) :
  (bytesToHex bytes).toList.all isLowerHex = true
  := by
  rw [List.all_eq_true]
  intro c hc
  rw [bytesToHex, String.toList_ofList] at hc
  obtain ⟨k, hk, rfl⟩ := isLowerHex_of_mem_digits hc
  simp [isLowerHex, digitValue_hexDigit k hk]

/-- The digits of the byte at a position stand at twice that position. -/
theorem byteOf_getD_digits (bytes : List UInt8) (idx : Nat) (h : idx < bytes.length) :
  byteOf ((bytes.flatMap byteDigits).getD (idx * 2) '0')
      ((bytes.flatMap byteDigits).getD (idx * 2 + 1) '0')
    = bytes[idx]
  := by
  induction bytes generalizing idx with
  | nil => simp at h
  | cons b bytes ih =>
    cases idx with
    | zero => simp [byteDigits, byteOf_digits]
    | succ idx =>
      have hidx : (idx + 1) * 2 = idx * 2 + 1 + 1 := by omega
      simp only [List.flatMap_cons, byteDigits, List.cons_append, List.nil_append, hidx,
        List.getD_cons_succ, List.getElem_cons_succ]
      apply ih

/-- Reading what was written gives the bytes back. -/
@[simp] theorem parseLowerHexFixed_bytesToHex (category : String) {n : Nat}
    (bytes : Vector UInt8 n) (field code : String) :
  parseLowerHexFixed category n (bytesToHex bytes.toList) field code = .ok bytes
  := by
  have hsize : (bytesToHex bytes.toList).utf8ByteSize = n * 2 := by
    simp [utf8ByteSize_bytesToHex]
  rw [parseLowerHexFixed, if_pos ⟨hsize, all_isLowerHex_bytesToHex _⟩]
  congr 1
  ext i hi
  rw [Vector.getElem_ofFn, bytesToHex, String.toList_ofList,
    byteOf_getD_digits _ _ (by simpa using hi)]
  simp

/-- Reading what was written gives the bytes back. -/
@[simp] theorem parseLowerHexVec_bytesToHex (category : String) (bytes : List UInt8)
    (field code : String) :
  parseLowerHexVec category (bytesToHex bytes) field code = .ok bytes
  := by
  have heven : (bytesToHex bytes).utf8ByteSize % 2 = 0 := by
    rw [utf8ByteSize_bytesToHex]
    omega
  rw [parseLowerHexVec, if_pos ⟨heven, all_isLowerHex_bytesToHex bytes⟩, bytesToHex,
    String.toList_ofList, bytesOf_digits]

theorem bytesToHex_injective : Function.Injective bytesToHex := by
  intro a b h
  have := congrArg (fun s => bytesOf s.toList) h
  simpa [bytesToHex, bytesOf_digits] using this

end Hex

/-! ### Hashes -/

/-- The hash of a byte string in the form the program stores it. -/
def blake3HexPrefixed (ext : Externals) (bytes : Content) : String :=
  "blake3:" ++ Hex.bytesToHex (ext.blake3 bytes).toList

theorem blake3HexPrefixed_inj {ext : Externals} {a b : Content} :
  blake3HexPrefixed ext a = blake3HexPrefixed ext b ↔ ext.blake3 a = ext.blake3 b
  := by
  constructor
  · intro h
    have h := String.append_right_inj _ |>.mp h
    have h := Hex.bytesToHex_injective h
    apply Vector.toList_inj.mp h
  · intro h
    rw [blake3HexPrefixed, h, blake3HexPrefixed]

/-- Check that a string has the form of a hash. -/
def validateBlake3Prefixed (s : String) : AppResult Unit :=
  if "blake3:".toList.isPrefixOf s.toList = false then
    .error {
      code := "KC_HASH_INVALID_FORMAT"
      category := "hash"
      message := "hash must start with blake3:"
      details := .obj [("value", .str s)] }
  else if (s.toList.drop 7).length = 64 ∧ (s.toList.drop 7).all Hex.isLowerHex = true then
    .ok ()
  else
    .error {
      code := "KC_HASH_DECODE_FAILED"
      category := "hash"
      message := "invalid lowercase hex digest"
      details := .obj [("value", .str s)] }

theorem validateBlake3Prefixed_append {digits : String} (hlength : digits.length = 64)
    (hdigits : digits.toList.all Hex.isLowerHex = true) :
  validateBlake3Prefixed ("blake3:" ++ digits) = .ok ()
  := by
  have hdrop : ("blake3:".toList ++ digits.toList).drop 7 = digits.toList := rfl
  rw [validateBlake3Prefixed, String.toList_append,
    List.isPrefixOf_iff_prefix.mpr (List.prefix_append _ _), if_neg Bool.noConfusion, hdrop,
    if_pos]
  use hlength

theorem validateBlake3Prefixed_blake3HexPrefixed (ext : Externals) (bytes : Content) :
  validateBlake3Prefixed (blake3HexPrefixed ext bytes) = .ok ()
  := by
  apply validateBlake3Prefixed_append
  · rw [← String.length_toList, Hex.bytesToHex, String.toList_ofList, Hex.length_digits,
      Vector.length_toList]
  · apply Hex.all_isLowerHex_bytesToHex

/-! ### Keys -/

/-- Derive a key from a passphrase. -/
def deriveObjectStoreKey (ext : Externals) (passphrase saltId : String)
    (memoryKib iterations parallelism : Nat) :
  AppResult (Vector UInt8 32)
  :=
  if saltId.utf8ByteSize < 8 then
    .error {
      code := "KC_ENCRYPTION_KEY_INVALID"
      category := "encryption"
      message := "salt_id must be at least 8 bytes"
      details := .obj [("salt_id_len", .int saltId.utf8ByteSize)] }
  else
    mapErr (fun error => {
        code := "KC_ENCRYPTION_KEY_INVALID"
        category := "encryption"
        message := "failed deriving encryption key from passphrase"
        details := .obj [("error", .str error)] })
      (ext.argon2 passphrase saltId memoryKib iterations parallelism)

/-! ### Text -/

/-- The characters `str::trim` removes. -/
def isWhitespace (c : Char) : Bool :=
  c.toNat ∈ [9, 10, 11, 12, 13, 32, 0x85, 0xa0, 0x1680, 0x2000, 0x2001, 0x2002, 0x2003,
    0x2004, 0x2005, 0x2006, 0x2007, 0x2008, 0x2009, 0x200a, 0x2028, 0x2029, 0x202f, 0x205f,
    0x3000]

/-- Remove the whitespace at both ends. -/
def trim (s : String) : String :=
  String.ofList ((s.toList.dropWhile isWhitespace).reverse.dropWhile isWhitespace).reverse

/-- Whether there is nothing but whitespace. -/
def isBlank (s : String) : Bool :=
  (trim s).isEmpty

/-- A text is blank unless it has a character that is not whitespace. -/
theorem isBlank_eq_false_iff {s : String} :
  isBlank s = false ↔ ∃ c ∈ s.toList, isWhitespace c = false
  := by
  have hblank : isBlank s = true ↔ ∀ c ∈ s.toList, isWhitespace c = true := by
    rw [isBlank, trim, String.isEmpty_iff, String.ofList_eq_empty_iff, List.reverse_eq_nil_iff,
      List.dropWhile_eq_nil_iff]
    constructor
    · intro h
      apply List.dropWhile_eq_nil_iff.mp
      by_contra hne
      -- The first character that is kept is not whitespace.
      have hhead := List.head_dropWhile_not isWhitespace hne
      rw [h _ (List.mem_reverse.mpr (List.head_mem hne))] at hhead
      cases hhead
    · intro h c hc
      apply h c
      apply (List.dropWhile_sublist isWhitespace).mem (List.mem_reverse.mp hc)
  rw [← Bool.not_eq_true, hblank]
  simp

theorem trim_eq_self {s : String} (h : ∀ c ∈ s.toList, isWhitespace c = false) :
  trim s = s
  := by
  have drop : ∀ l : List Char, (∀ c ∈ l, isWhitespace c = false) →
      l.dropWhile isWhitespace = l := by
    intro l hl
    cases l with
    | nil => rfl
    | cons c l => rw [List.dropWhile_cons_of_neg (by simp [hl c])]
  rw [trim, drop _ h, drop, List.reverse_reverse, String.ofList_toList]
  intro c hc
  apply h c (List.mem_reverse.mp hc)

theorem isBlank_bytesToHex {bytes : List UInt8} (h : bytes ≠ []) :
  isBlank (Hex.bytesToHex bytes) = false
  := by
  have digit : ∀ n < 16, isWhitespace (CanonJson.hexDigit n) = false := by decide
  rw [isBlank, trim_eq_self]
  · rw [Hex.bytesToHex, String.isEmpty_eq_false_iff, ne_eq, String.ofList_eq_empty_iff,
      ← List.length_eq_zero_iff, Hex.length_digits]
    have := List.length_pos_of_ne_nil h
    omega
  · intro c hc
    rw [Hex.bytesToHex, String.toList_ofList] at hc
    obtain ⟨n, hn, rfl⟩ := Hex.isLowerHex_of_mem_digits hc
    apply digit n hn

end KnowledgeCore
