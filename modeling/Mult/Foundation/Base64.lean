import Mathlib.Data.List.Basic

/-! Base64 with padding, read back. -/

set_option autoImplicit false

namespace Mult.Foundation.Base64

def alphabet : List Char :=
  "ABCDEFGHIJKLMNOPQRSTUVWXYZabcdefghijklmnopqrstuvwxyz0123456789+/".toList

def padding : Char := '='

def digit (value : Nat) : Char := alphabet[value]?.getD padding

def valueOf (c : Char) : Option Nat := alphabet.findIdx? (· = c)

/-- The bytes of a group of four characters, of which the last two may be padding. What is left over
of the digits before it must be zero. -/
def decodeGroup (a b c d : Char) (last : Bool) : Option (List UInt8) := do
  let first ← valueOf a
  let second ← valueOf b
  if last ∧ c = padding ∧ d = padding then
    if second % 16 = 0 then some [UInt8.ofNat (first * 4 + second / 16)] else none
  else do
    let third ← valueOf c
    if last ∧ d = padding then
      if third % 4 = 0 then
        some [UInt8.ofNat (first * 4 + second / 16), UInt8.ofNat (second % 16 * 16 + third / 4)]
      else none
    else do
      let fourth ← valueOf d
      some [UInt8.ofNat (first * 4 + second / 16), UInt8.ofNat (second % 16 * 16 + third / 4),
        UInt8.ofNat (third % 4 * 64 + fourth)]

def decode : List Char → Option (List UInt8)
  | [] => some []
  | a :: b :: c :: d :: rest => do
    let bytes ← decodeGroup a b c d rest.isEmpty
    let others ← decode rest
    some (bytes ++ others)
  | _ => none

theorem digit_mem {value : Nat} (small : value < 64) : digit value ∈ alphabet := by
  have all : ∀ value : Fin 64, digit value.val ∈ alphabet := by decide +kernel
  exact all ⟨value, small⟩

theorem valueOf_digit {value : Nat} (small : value < 64) : valueOf (digit value) = some value := by
  have all : ∀ value : Fin 64, valueOf (digit value.val) = some value.val := by decide +kernel
  exact all ⟨value, small⟩

theorem padding_not_mem : padding ∉ alphabet := by decide

theorem digit_ne_padding {value : Nat} (small : value < 64) : digit value ≠ padding :=
  fun same => padding_not_mem (same ▸ digit_mem small)

section
variable {first second third fourth : Nat}

theorem decodeGroup_one (smallFirst : first < 64) (smallSecond : second < 64)
    (even : second % 16 = 0) :
    decodeGroup (digit first) (digit second) padding padding true =
      some [UInt8.ofNat (first * 4 + second / 16)] := by
  simp [decodeGroup, valueOf_digit smallFirst, valueOf_digit smallSecond, even]

theorem decodeGroup_two (smallFirst : first < 64) (smallSecond : second < 64)
    (smallThird : third < 64) (even : third % 4 = 0) :
    decodeGroup (digit first) (digit second) (digit third) padding true =
      some [UInt8.ofNat (first * 4 + second / 16),
        UInt8.ofNat (second % 16 * 16 + third / 4)] := by
  simp [decodeGroup, valueOf_digit smallFirst, valueOf_digit smallSecond, valueOf_digit smallThird,
    digit_ne_padding smallThird, even]

theorem decodeGroup_three (smallFirst : first < 64) (smallSecond : second < 64)
    (smallThird : third < 64) (smallFourth : fourth < 64) (last : Bool) :
    decodeGroup (digit first) (digit second) (digit third) (digit fourth) last =
      some [UInt8.ofNat (first * 4 + second / 16), UInt8.ofNat (second % 16 * 16 + third / 4),
        UInt8.ofNat (third % 4 * 64 + fourth)] := by
  simp [decodeGroup, valueOf_digit smallFirst, valueOf_digit smallSecond, valueOf_digit smallThird,
    valueOf_digit smallFourth, digit_ne_padding smallThird, digit_ne_padding smallFourth]

end

end Mult.Foundation.Base64
