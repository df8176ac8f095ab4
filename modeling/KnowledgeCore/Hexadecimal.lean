import KnowledgeCore.Hashing
import KnowledgeCore.Lib.TextBytes

/-!
# Hexadecimal, byte by byte

A text is read as bytes by slicing it at every second byte and reading each slice as a number.
A slice may not exist, and a number may not be readable. That neither happens, and that the
bytes are those of the text, is what the check of its shape is for.
-/

namespace KnowledgeCore

namespace Hex

open CanonJson (hexDigit)

/-! ### Numbers -/

/-- `char::to_digit(16)` -/
def toDigit (c : Char) : Option Nat :=
  (digitValue c).or
    (if 'A' ≤ c ∧ c ≤ 'F' then some (c.toNat - 'A'.toNat + 10) else none)

/-- Go on reading a number that fits a byte. -/
def readDigits (result : Nat) : List Char → Except String UInt8
  | [] => .ok (UInt8.ofNat result)
  | c :: rest =>
    match toDigit c with
    | none => .error "invalid digit found in string"
    | some digit =>
      if result * 16 + digit < 256 then readDigits (result * 16 + digit) rest
      else .error "number too large to fit in target type"

/-- `u8::from_str_radix` with radix 16. A number may have a sign. -/
def fromStrRadix : List Char → Except String UInt8
  | [] => .error "cannot parse integer from empty string"
  | ['+'] => .error "invalid digit found in string"
  | '+' :: rest => readDigits 0 rest
  | l => readDigits 0 l

/-! ### The loop -/

/-- The error of two characters that are not a byte. -/
def invalidByte (category code field : String) (idx : Nat) (error : String) : AppError where
  code := code
  category := category
  message := "hex value contains invalid byte"
  details := .obj [("field", .str field), ("index", .int idx), ("error", .str error)]

/-- Read the byte at an index. Where there is no slice the program stops. -/
def readByte (category : String) (value : List Char) (field code : String) (idx : Nat) :
    Option (AppResult UInt8) :=
  let start := idx * 2
  (TextBytes.slice start (start + 2) value).map fun pair =>
    mapErr (invalidByte category code field idx) (fromStrRadix pair)

/-- Fill an array from an index on. -/
def fill {n : Nat} (read : Nat → Option (AppResult UInt8)) :
    Nat → Nat → Vector UInt8 n → Option (AppResult (Vector UInt8 n))
  | 0, _, out => some (.ok out)
  | steps + 1, idx, out =>
    match read idx with
    | none => none
    | some (.error e) => some (.error e)
    | some (.ok byte) => fill read steps (idx + 1) (out.setIfInBounds idx byte)

/-- `parse_lower_hex_fixed`, where no result means that the program stops at a slice. -/
def parseLowerHexSliced (category : String) (n : Nat) (value field code : String) :
    Option (AppResult (Vector UInt8 n)) :=
  if value.utf8ByteSize ≠ n * 2 ∨ value.toList.all isLowerHex = false then
    some (.error (invalidShape category code field (n * 2) value.utf8ByteSize))
  else
    fill (readByte category value.toList field code) n 0 (Vector.replicate n 0)

/-! ### Digits -/

/-- A lower-case digit is the digit of its value. -/
theorem exists_hexDigit {c : Char} (h : isLowerHex c = true) :
  ∃ k < 16, c = hexDigit k
  := by
  obtain ⟨k, hk⟩ := Option.isSome_iff_exists.mp h
  have hle {a b : Char} (hab : a ≤ b) : a.toNat ≤ b.toNat := hab
  rw [digitValue] at hk
  split_ifs at hk with hdigit hletter
  · have hlow := hle hdigit.1
    have hhigh := hle hdigit.2
    have hvalue := Option.some_inj.mp hk
    simp only [Char.reduceToNat] at hlow hhigh hvalue
    use k
    constructor
    · omega
    · rw [hexDigit, if_pos (by omega), ← hvalue]
      simp only [Char.reduceToNat]
      rw [Nat.add_sub_cancel' hlow, Char.ofNat_toNat]
  · have hlow := hle hletter.1
    have hhigh := hle hletter.2
    have hvalue := Option.some_inj.mp hk
    simp only [Char.reduceToNat] at hlow hhigh hvalue
    use k
    constructor
    · omega
    · rw [hexDigit, if_neg (by omega), ← hvalue, Nat.add_sub_cancel]
      simp only [Char.reduceToNat]
      rw [Nat.add_sub_cancel' hlow, Char.ofNat_toNat]

theorem utf8Size_of_isLowerHex {c : Char} (h : isLowerHex c = true) :
  c.utf8Size = 1
  := by
  obtain ⟨k, hk, rfl⟩ := exists_hexDigit h
  apply utf8Size_hexDigit k hk

theorem toDigit_hexDigit {k : Nat} (h : k < 16) :
  toDigit (hexDigit k) = some k
  := by
  rw [toDigit, digitValue_hexDigit k h, Option.some_or]

theorem hexDigit_ne_plus {k : Nat} (h : k < 16) :
  hexDigit k ≠ '+'
  := by
  revert k
  decide

/-- Two digits are read as the byte they write. -/
theorem fromStrRadix_pair {high low : Char} (hhigh : isLowerHex high = true)
    (hlow : isLowerHex low = true) :
  fromStrRadix [high, low] = .ok (byteOf high low)
  := by
  obtain ⟨i, hi, rfl⟩ := exists_hexDigit hhigh
  obtain ⟨j, hj, rfl⟩ := exists_hexDigit hlow
  have hread : fromStrRadix [hexDigit i, hexDigit j] = readDigits 0 [hexDigit i, hexDigit j] := by
    rw [fromStrRadix]
    · intro h
      cases h
    · intro h
      cases (List.cons.inj h).2
    · intro rest h
      exact hexDigit_ne_plus hi (List.cons.inj h).1
  rw [hread, readDigits, toDigit_hexDigit hi]
  dsimp only
  rw [if_pos (by omega), readDigits, toDigit_hexDigit hj]
  dsimp only
  rw [if_pos (by omega), readDigits, byteOf, digitValue_hexDigit i hi, digitValue_hexDigit j hj]
  simp

/-- The digits of the byte that two digits write are these digits. -/
theorem byteDigits_byteOf {high low : Char} (hhigh : isLowerHex high = true)
    (hlow : isLowerHex low = true) :
  byteDigits (byteOf high low) = [high, low]
  := by
  obtain ⟨i, hi, rfl⟩ := exists_hexDigit hhigh
  obtain ⟨j, hj, rfl⟩ := exists_hexDigit hlow
  have hbyte : (byteOf (hexDigit i) (hexDigit j)).toNat = i * 16 + j := by
    rw [byteOf, digitValue_hexDigit i hi, digitValue_hexDigit j hj, UInt8.toNat_ofNat']
    simp only [Option.getD_some]
    omega
  have hdiv : (i * 16 + j) / 16 = i := by omega
  have hmod : (i * 16 + j) % 16 = j := by omega
  rw [byteDigits, hbyte, hdiv, hmod]

/-! ### Reading stops nowhere -/

/-- Where every byte can be read the array is filled with the bytes, and what stands before stays
as it was. -/
theorem fill_eq {n : Nat} {read : Nat → Option (AppResult UInt8)} {byte : Nat → UInt8} {steps : Nat}
    {idx : Nat} (out : Vector UInt8 n)
    (hread : ∀ i, idx ≤ i → i < idx + steps → read i = some (.ok (byte i))) :
  ∃ filled : Vector UInt8 n, fill read steps idx out = some (.ok filled)
    ∧ ∀ i (hi : i < n), filled[i] = if idx ≤ i ∧ i < idx + steps then byte i else out[i]
  := by
  induction steps generalizing idx out with
  | zero =>
    use out, rfl
    intro i hi
    rw [if_neg]
    omega
  | succ steps ih =>
    have hfirst := hread idx (Nat.le_refl idx) (by omega)
    have hrest (i : Nat) (hlow : idx + 1 ≤ i) (hhigh : i < idx + 1 + steps) :
        read i = some (.ok (byte i)) := hread i (by omega) (by omega)
    obtain ⟨filled, hfill, hbytes⟩ := ih (out.setIfInBounds idx (byte idx)) hrest
    use filled
    constructor
    · rw [fill, hfirst]
      exact hfill
    · intro i hi
      rw [hbytes i hi, Vector.getElem_setIfInBounds]
      by_cases heq : idx = i
      · subst heq
        rw [if_neg (by omega), if_pos rfl, if_pos (by omega)]
      · rw [if_neg heq]
        apply if_congr _ rfl rfl
        omega

/-- A text of the right shape, taken apart. -/
theorem shape_iff {value : String} {n : Nat} :
  ¬ (value.utf8ByteSize ≠ n * 2 ∨ value.toList.all isLowerHex = false)
    ↔ value.toList.length = n * 2 ∧ ∀ c ∈ value.toList, isLowerHex c = true
  := by
  rw [not_or, not_not, Bool.not_eq_false, List.all_eq_true]
  apply and_congr_left
  intro hdigits
  have hsize := utf8ByteSize_ofList_eq_length fun c hc => utf8Size_of_isLowerHex (hdigits c hc)
  rw [String.ofList_toList] at hsize
  rw [hsize]

/-- A slice of a text of digits is read as the two digits that stand there. -/
theorem readByte_eq {value : List Char} {idx : Nat} (category field code : String)
    (hdigits : ∀ c ∈ value, isLowerHex c = true) (hidx : idx * 2 + 2 ≤ value.length) :
  readByte category value field code idx
    = some (.ok (byteOf (value.getD (idx * 2) '0') (value.getD (idx * 2 + 1) '0')))
  := by
  have hnarrow : TextBytes.Narrow value := fun c hc => utf8Size_of_isLowerHex (hdigits c hc)
  have hfirst : idx * 2 < value.length := by omega
  have hsecond : idx * 2 + 1 < value.length := by omega
  have hpair : (value.drop (idx * 2)).take (idx * 2 + 2 - idx * 2)
      = [value[idx * 2], value[idx * 2 + 1]] := by
    rw [Nat.add_sub_cancel_left, List.drop_eq_getElem_cons hfirst,
      List.drop_eq_getElem_cons hsecond]
    rfl
  have hget (i : Nat) (hi : i < value.length) : value.getD i '0' = value[i] := by
    rw [List.getD_eq_getElem?_getD, List.getElem?_eq_getElem hi, Option.getD_some]
  rw [readByte, TextBytes.slice_of_narrow hnarrow (Nat.le_add_right _ 2) hidx, Option.map_some, hpair,
    fromStrRadix_pair (hdigits _ (List.getElem_mem hfirst)) (hdigits _ (List.getElem_mem hsecond)),
    hget _ hfirst, hget _ hsecond]
  rfl

/-- Slicing never stops the program, and reads what the text says. -/
theorem parseLowerHexSliced_eq (category : String) (n : Nat) (value field code : String) :
  parseLowerHexSliced category n value field code
    = some (parseLowerHexFixed category n value field code)
  := by
  rw [parseLowerHexSliced, parseLowerHexFixed]
  by_cases hshape : value.utf8ByteSize ≠ n * 2 ∨ value.toList.all isLowerHex = false
  · rw [if_pos hshape, if_neg]
    rw [← Bool.not_eq_true] at hshape
    rwa [not_and_or]
  · have hfixed : value.utf8ByteSize = n * 2 ∧ value.toList.all isLowerHex = true := by
      rwa [not_or, not_not, Bool.not_eq_false] at hshape
    obtain ⟨hlength, hdigits⟩ := shape_iff.mp hshape
    rw [if_neg hshape, if_pos hfixed]
    obtain ⟨filled, hfill, hbytes⟩ := fill_eq (Vector.replicate n 0)
      fun i (_ : 0 ≤ i) (hi : i < 0 + n) =>
        readByte_eq category field code hdigits (show i * 2 + 2 ≤ value.toList.length by omega)
    rw [hfill]
    congr 2
    ext i hi
    rw [hbytes i hi, if_pos (by omega), Vector.getElem_ofFn]

/-- The digits of the bytes that a text of digits writes are the text. -/
theorem flatMap_byteDigits_ofFn {value : List Char} {n : Nat} (hlength : value.length = n * 2)
    (hdigits : ∀ c ∈ value, isLowerHex c = true) :
  (List.ofFn fun i : Fin n => byteOf (value.getD (i * 2) '0') (value.getD (i * 2 + 1) '0')).flatMap
      byteDigits
    = value
  := by
  induction n generalizing value with
  | zero => rw [List.eq_nil_of_length_eq_zero hlength, List.ofFn_zero, List.flatMap_nil]
  | succ n ih =>
    match value with
    | [] =>
      rw [List.length_nil] at hlength
      omega
    | [_] =>
      rw [List.length_singleton] at hlength
      omega
    | high :: low :: rest =>
      have hrest : rest.length = n * 2 := by
        simp only [List.length_cons] at hlength
        omega
      have hbytes := ih hrest fun c hc =>
        hdigits c (List.mem_cons_of_mem high (List.mem_cons_of_mem low hc))
      have hpair := byteDigits_byteOf (hdigits high List.mem_cons_self)
        (hdigits low (List.mem_cons_of_mem high List.mem_cons_self))
      have hindex (i : Fin n) : (i.succ : Nat) * 2 = (i * 2 + 1) + 1 := by
        rw [Fin.val_succ]
        omega
      rw [List.ofFn_succ, List.flatMap_cons]
      simp only [hindex, List.getD_cons_succ]
      rw [hbytes]
      change byteDigits (byteOf high low) ++ rest = _
      rw [hpair]
      rfl

/-- Bytes that were read are written as the text they were read from. -/
theorem bytesToHex_of_parseLowerHexFixed {category value field code : String} {n : Nat}
    {bytes : Vector UInt8 n} (h : parseLowerHexFixed category n value field code = .ok bytes) :
  bytesToHex bytes.toList = value
  := by
  rw [parseLowerHexFixed] at h
  split_ifs at h with hfixed
  obtain rfl := Except.ok.inj h
  have hshape : ¬ (value.utf8ByteSize ≠ n * 2 ∨ value.toList.all isLowerHex = false) := by
    rwa [not_or, not_not, Bool.not_eq_false]
  obtain ⟨hlength, hdigits⟩ := shape_iff.mp hshape
  rw [bytesToHex, Vector.toList_ofFn, flatMap_byteDigits_ofFn hlength hdigits,
    String.ofList_toList]

/-- Reading bytes and writing them undo each other, and reading any text ends with an error or
with the bytes that are written as that text. -/
theorem hexadecimal_inverse (category field code : String) (n : Nat) :
  (∀ bytes : Vector UInt8 n,
      parseLowerHexSliced category n (bytesToHex bytes.toList) field code = some (.ok bytes))
    ∧ ∀ value, ∃ r, parseLowerHexSliced category n value field code = some r
      ∧ ∀ bytes, r = .ok bytes → bytesToHex bytes.toList = value
  := by
  constructor
  · intro bytes
    rw [parseLowerHexSliced_eq, parseLowerHexFixed_bytesToHex]
  · intro value
    use parseLowerHexFixed category n value field code, parseLowerHexSliced_eq _ _ _ _ _
    intro bytes h
    apply bytesToHex_of_parseLowerHexFixed h

end Hex

end KnowledgeCore
