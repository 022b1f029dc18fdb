import Mathlib

/-! Totals over a list when one of its entries changes. -/

set_option autoImplicit false

namespace Mult.Foundation

/-- The total weight of the entries. -/
def tally {Value : Type} (weigh : Value → Nat) (values : List Value) : Nat :=
  (values.map weigh).sum

variable {Value : Type} {weigh : Value → Nat}

theorem tally_append (first second : List Value) :
    tally weigh (first ++ second) = tally weigh first + tally weigh second := by
  simp [tally]

theorem tally_set {values : List Value} {position : Nat} {before : Value}
    (found : values[position]? = some before) (after : Value) :
    tally weigh (values.set position after) + weigh before = tally weigh values + weigh after := by
  induction values generalizing position with
  | nil => cases found
  | cons value values ih =>
    cases position with
    | zero =>
      cases found
      simp only [List.set_cons_zero, tally, List.map_cons, List.sum_cons]
      omega
    | succ position =>
      have rest := ih found
      simp only [List.set_cons_succ, tally, List.map_cons, List.sum_cons] at rest ⊢
      omega

theorem weigh_le_tally {values : List Value} {position : Nat} {value : Value}
    (found : values[position]? = some value) : weigh value ≤ tally weigh values :=
  List.le_sum_of_mem (List.mem_map_of_mem (List.mem_of_getElem? found))

theorem weigh_add_le_tally {values : List Value} {one two : Nat} {first second : Value}
    (here : values[one]? = some first) (there : values[two]? = some second) (apart : one ≠ two) :
    weigh first + weigh second ≤ tally weigh values := by
  induction values generalizing one two with
  | nil => cases here
  | cons value values ih =>
    cases one with
    | zero =>
      cases two with
      | zero => exact absurd rfl apart
      | succ two =>
        cases here
        have rest : weigh second ≤ tally weigh values := weigh_le_tally there
        simp only [tally, List.map_cons, List.sum_cons] at rest ⊢
        omega
    | succ one =>
      cases two with
      | zero =>
        cases there
        have rest : weigh first ≤ tally weigh values := weigh_le_tally here
        simp only [tally, List.map_cons, List.sum_cons] at rest ⊢
        omega
      | succ two =>
        have rest := ih here there (fun same => apart (congrArg _ same))
        simp only [tally, List.map_cons, List.sum_cons] at rest ⊢
        omega

end Mult.Foundation
