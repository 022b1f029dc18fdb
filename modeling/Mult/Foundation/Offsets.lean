import Mathlib.Data.String.Basic

/-! Texts as their characters, addressed by byte offsets. -/

set_option autoImplicit false

namespace Mult.Foundation.Text
open String (utf8Len)

def charIndices (offset : Nat) : List Char → List (Nat × Char)
  | [] => []
  | c :: rest => (offset, c) :: charIndices (offset + c.utf8Size) rest

/-- What stands before an offset and what from there on; nothing where it is within a character or
behind the end. -/
def splitAtByte : List Char → Nat → Option (List Char × List Char)
  | text, 0 => some ([], text)
  | [], _ + 1 => none
  | c :: rest, offset + 1 =>
      if c.utf8Size ≤ offset + 1 then
        (splitAtByte rest (offset + 1 - c.utf8Size)).map fun parts => (c :: parts.1, parts.2)
      else none

/-- What stands between two offsets. -/
def slice (text : List Char) (start stop : Nat) : Option (List Char) :=
  if stop < start then none
  else do
    let (_, rest) ← splitAtByte text start
    let (middle, _) ← splitAtByte rest (stop - start)
    some middle

def insert (text : List Char) (offset : Nat) (c : Char) : Option (List Char) := do
  let (before, after) ← splitAtByte text offset
  some (before ++ c :: after)

def replaceRange (text : List Char) (start stop : Nat) (replacement : List Char) :
    Option (List Char) :=
  if stop < start then none
  else do
    let (before, rest) ← splitAtByte text start
    let (_, after) ← splitAtByte rest (stop - start)
    some (before ++ replacement ++ after)

def byteOffset (text : List Char) (index : Nat) : Nat :=
  ((charIndices 0 text)[index]?).elim (utf8Len text) Prod.fst

theorem splitAtByte_append (front back : List Char) :
    splitAtByte (front ++ back) (utf8Len front) = some (front, back) := by
  induction front with
  | nil => cases back <;> rfl
  | cons c rest ih =>
    have some : 0 < c.utf8Size := c.utf8Size_pos
    obtain ⟨size, whole⟩ : ∃ size, utf8Len (c :: rest) = size + 1 :=
      Nat.exists_eq_add_one.mpr (by rw [utf8Len]; omega)
    rw [whole, List.cons_append, splitAtByte, ← whole, utf8Len,
      if_pos (Nat.le_add_left ..), Nat.add_sub_cancel, ih]
    rfl

theorem charIndices_getElem? (text : List Char) (offset index : Nat) :
    ((charIndices offset text)[index]?).elim (offset + utf8Len text) Prod.fst =
      offset + utf8Len (text.take index) := by
  induction text generalizing offset index with
  | nil => rw [List.take_nil]; rfl
  | cons c rest ih =>
    cases index with
    | zero => rfl
    | succ index =>
      have next := ih (offset + c.utf8Size) index
      rw [charIndices, List.getElem?_cons_succ, List.take_succ_cons, utf8Len, utf8Len,
        Nat.add_comm (utf8Len rest), Nat.add_comm (utf8Len (rest.take index)), ← Nat.add_assoc,
        ← Nat.add_assoc]
      exact next

theorem byteOffset_eq (text : List Char) (index : Nat) :
    byteOffset text index = utf8Len (text.take index) := by
  have found := charIndices_getElem? text 0 index
  rw [Nat.zero_add, Nat.zero_add] at found
  exact found

theorem byteOffset_append (front back : List Char) :
    byteOffset (front ++ back) front.length = utf8Len front := by
  rw [byteOffset_eq, List.take_left]

theorem insert_append (front back : List Char) (c : Char) :
    insert (front ++ back) (utf8Len front) c = some (front ++ c :: back) := by
  rw [insert, splitAtByte_append]
  rfl

theorem slice_append (front middle back : List Char) :
    slice (front ++ (middle ++ back)) (utf8Len front) (utf8Len (front ++ middle)) =
      some middle := by
  rw [slice, String.utf8Len_append, if_neg (by omega), splitAtByte_append, Option.bind_eq_bind,
    Option.bind_some]
  dsimp only
  rw [Nat.add_sub_cancel_left, splitAtByte_append]
  rfl

theorem replaceRange_append (front middle back replacement : List Char) :
    replaceRange (front ++ (middle ++ back)) (utf8Len front) (utf8Len (front ++ middle))
      replacement = some (front ++ replacement ++ back) := by
  rw [replaceRange, String.utf8Len_append, if_neg (by omega), splitAtByte_append, Option.bind_eq_bind,
    Option.bind_some]
  dsimp only
  rw [Nat.add_sub_cancel_left, splitAtByte_append]
  rfl

end Mult.Foundation.Text
