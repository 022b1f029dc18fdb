import Mathlib.Data.List.DropRight

/-! Operations on texts, character by character. -/

set_option autoImplicit false

namespace Mult.Foundation.Text

/-- The characters with the Unicode property `White_Space`. -/
def isWhitespace (c : Char) : Bool :=
  (0x9 ≤ c.toNat && c.toNat ≤ 0xD) || (0x2000 ≤ c.toNat && c.toNat ≤ 0x200A) ||
    [0x20, 0x85, 0xA0, 0x1680, 0x2028, 0x2029, 0x202F, 0x205F, 0x3000].contains c.toNat

/-- The characters of the Unicode category `Cc`. -/
def isControl (c : Char) : Bool :=
  c.toNat ≤ 0x1F || (0x7F ≤ c.toNat && c.toNat ≤ 0x9F)

def trimMatches (unwanted : Char → Bool) (text : String) : String :=
  String.ofList ((text.toList.dropWhile unwanted).rdropWhile unwanted)

def trim (text : String) : String := trimMatches isWhitespace text

def replace (text : String) (replaced : Char) (replacement : String) : String :=
  String.ofList (text.toList.flatMap fun c => if c = replaced then replacement.toList else [c])

def stripStart (text start : String) : Option String :=
  (start.toList.isPrefixOf? text.toList).map String.ofList

/-- The pieces between the places at which the mark stands, from the start of the text on. What is
left of a mark that has been found is skipped. -/
def cutAt (mark : List Char) : (skipped : Nat) → List Char → List (List Char)
  | _, [] => [[]]
  | skipped + 1, _ :: rest => cutAt mark skipped rest
  | 0, c :: rest =>
      if mark.isPrefixOf (c :: rest) then [] :: cutAt mark (mark.length - 1) rest
      else
        match cutAt mark 0 rest with
        | [] => [[c]]
        | piece :: others => (c :: piece) :: others

def contains (text mark : String) : Bool :=
  text.toList.tails.any fun rest => mark.toList.isPrefixOf rest

/-- The text with the replacement wherever the mark stands. The mark is not empty. -/
def replaceMark (text mark replacement : String) : String :=
  String.ofList (replacement.toList.intercalate (cutAt mark.toList 0 text.toList))

theorem cutAt_absent {mark text : List Char}
    (absent : text.tails.any (fun rest => mark.isPrefixOf rest) = false) :
    cutAt mark 0 text = [text] := by
  induction text with
  | nil => rfl
  | cons c rest ih =>
    rw [List.tails, List.any_cons, Bool.or_eq_false_iff] at absent
    rw [cutAt, absent.1, ih absent.2]
    rfl

end Mult.Foundation.Text
