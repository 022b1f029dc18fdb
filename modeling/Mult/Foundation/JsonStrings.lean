import Mathlib.Data.List.Basic

/-! Strings as JSON writes them: what has to be escaped, and the escapes there are for it. -/

set_option autoImplicit false

namespace Mult.Foundation.Json

def hexDigit (c : Char) : Option Nat :=
  if '0' ≤ c ∧ c ≤ '9' then some (c.toNat - '0'.toNat)
  else if 'a' ≤ c ∧ c ≤ 'f' then some (c.toNat - 'a'.toNat + 10)
  else if 'A' ≤ c ∧ c ≤ 'F' then some (c.toNat - 'A'.toNat + 10)
  else none

def hexChar (digits : List Char) : Option Char := do
  let values ← digits.mapM hexDigit
  let code := values.foldl (fun sum digit => sum * 16 + digit) 0
  if code.isValidChar then some (Char.ofNat code) else none

/-- What a letter behind a backslash stands for. -/
def shortEscape (letter : Char) : Option Char :=
  if letter = '"' then some '"'
  else if letter = '\\' then some '\\'
  else if letter = 'b' then some '\x08'
  else if letter = 't' then some '\t'
  else if letter = 'n' then some '\n'
  else if letter = 'f' then some '\x0c'
  else if letter = 'r' then some '\r'
  else none

def readEscape : List Char → Option Char
  | ['\\', letter] => shortEscape letter
  | ['\\', 'u', first, second, third, fourth] => hexChar [first, second, third, fourth]
  | _ => none

def mustEscape (c : Char) : Bool := c = '"' || c = '\\' || c.toNat < 0x20

/-- A way to write strings that escapes what has to be escaped, and nothing else. -/
structure Writer where
  escape : Char → List Char
  plain : ∀ c, mustEscape c = false → escape c = [c]
  escaped : ∀ c, mustEscape c = true → readEscape (escape c) = some c

def Writer.write (writer : Writer) (text : List Char) : List Char :=
  '"' :: (text.flatMap writer.escape ++ ['"'])

def shortLetter (c : Char) : Option Char :=
  if c = '"' then some '"'
  else if c = '\\' then some '\\'
  else if c = '\x08' then some 'b'
  else if c = '\t' then some 't'
  else if c = '\n' then some 'n'
  else if c = '\x0c' then some 'f'
  else if c = '\r' then some 'r'
  else none

def hexLetter (value : Nat) : Char :=
  if value < 10 then Char.ofNat ('0'.toNat + value) else Char.ofNat ('a'.toNat + (value - 10))

def compactEscape (c : Char) : List Char :=
  match shortLetter c with
  | some letter => ['\\', letter]
  | none =>
      if c.toNat < 0x20 then ['\\', 'u', '0', '0', hexLetter (c.toNat / 16), hexLetter (c.toNat % 16)]
      else [c]

theorem compactEscape_control : ∀ code < 0x20,
    readEscape (compactEscape (Char.ofNat code)) = some (Char.ofNat code) := by
  decide

def Writer.compact : Writer where
  escape := compactEscape
  plain := by
    intro c common
    simp only [mustEscape, Bool.or_eq_false_iff, decide_eq_false_iff_not] at common
    obtain ⟨⟨quote, backslash⟩, printed⟩ := common
    have apart : ∀ control : Char, control.toNat < 0x20 → c ≠ control := by
      rintro control low rfl
      exact printed low
    have long : shortLetter c = none := by
      rw [shortLetter, if_neg quote, if_neg backslash, if_neg (apart _ (by decide)),
        if_neg (apart _ (by decide)), if_neg (apart _ (by decide)), if_neg (apart _ (by decide)),
        if_neg (apart _ (by decide))]
    rw [compactEscape, long]
    exact if_neg printed
  escaped := by
    intro c special
    simp only [mustEscape, Bool.or_eq_true, decide_eq_true_eq] at special
    rcases special with (rfl | rfl) | control
    · rfl
    · rfl
    · have known := compactEscape_control c.toNat control
      rwa [Char.ofNat_toNat] at known

end Mult.Foundation.Json
