import Mathlib.Data.List.Basic

/-!
# Slices of a text by bytes

A text is sliced at byte positions. A position inside of a character, or behind the end, has no
slice. Where every character of a text is one byte long, the bytes are the characters.
-/

namespace TextBytes

/-- What follows a number of bytes. -/
def dropBytes : Nat → List Char → Option (List Char)
  | 0, l => some l
  | _ + 1, [] => none
  | n + 1, c :: l => if c.utf8Size ≤ n + 1 then dropBytes (n + 1 - c.utf8Size) l else none
termination_by structural _ l => l

/-- A number of bytes. -/
def takeBytes : Nat → List Char → Option (List Char)
  | 0, _ => some []
  | _ + 1, [] => none
  | n + 1, c :: l =>
    if c.utf8Size ≤ n + 1 then (takeBytes (n + 1 - c.utf8Size) l).map (c :: ·) else none
termination_by structural _ l => l

/-- The bytes from one position to another. -/
def slice (start stop : Nat) (l : List Char) : Option (List Char) :=
  if start ≤ stop then (dropBytes start l).bind (takeBytes (stop - start)) else none

/-- Every character is one byte long. -/
def Narrow (l : List Char) : Prop :=
  ∀ c ∈ l, c.utf8Size = 1

variable {l : List Char} {n start stop : Nat}

theorem Narrow.tail {c : Char} (h : Narrow (c :: l)) :
  Narrow l
  := fun d hd => h d (List.mem_cons_of_mem c hd)

theorem dropBytes_of_narrow (h : Narrow l) (hn : n ≤ l.length) :
  dropBytes n l = some (l.drop n)
  := by
  induction l generalizing n with
  | nil =>
    obtain rfl := Nat.le_zero.mp hn
    rfl
  | cons c l ih =>
    cases n with
    | zero => rfl
    | succ n =>
      have hc := h c List.mem_cons_self
      rw [dropBytes, hc, if_pos (Nat.le_add_left 1 n), Nat.add_sub_cancel,
        ih h.tail (Nat.le_of_succ_le_succ hn), List.drop_succ_cons]

theorem takeBytes_of_narrow (h : Narrow l) (hn : n ≤ l.length) :
  takeBytes n l = some (l.take n)
  := by
  induction l generalizing n with
  | nil =>
    obtain rfl := Nat.le_zero.mp hn
    rfl
  | cons c l ih =>
    cases n with
    | zero => rfl
    | succ n =>
      have hc := h c List.mem_cons_self
      rw [takeBytes, hc, if_pos (Nat.le_add_left 1 n), Nat.add_sub_cancel,
        ih h.tail (Nat.le_of_succ_le_succ hn), List.take_succ_cons]
      rfl

/-- The slices of a text of single bytes are those of its characters. -/
theorem slice_of_narrow (h : Narrow l) (hstart : start ≤ stop) (hstop : stop ≤ l.length) :
  slice start stop l = some ((l.drop start).take (stop - start))
  := by
  have hdrop : Narrow (l.drop start) := fun c hc => h c (List.mem_of_mem_drop hc)
  rw [slice, if_pos hstart, dropBytes_of_narrow h (Nat.le_trans hstart hstop), Option.bind_some,
    takeBytes_of_narrow hdrop]
  rw [List.length_drop]
  omega

end TextBytes
