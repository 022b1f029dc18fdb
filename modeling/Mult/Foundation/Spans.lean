import Mathlib.Data.List.Range

/-! The integers from one to another, in order. -/

set_option autoImplicit false

namespace Mult.Foundation

/-- Those from `first` to `last`, both included. -/
def span (first last : Int) : List Int :=
  (List.range (last + 1 - first).toNat).map fun index : Nat => first + index

variable {first last : Int}

theorem mem_span {value : Int} : value ∈ span first last ↔ first ≤ value ∧ value ≤ last := by
  simp only [span, List.mem_map, List.mem_range]
  constructor
  · rintro ⟨index, below, rfl⟩
    omega
  · intro ⟨above, below⟩
    exact ⟨(value - first).toNat, by omega, by omega⟩

theorem span_nil (apart : last < first) : span first last = [] := by
  rw [span, show (last + 1 - first).toNat = 0 by omega]
  rfl

theorem span_singleton (first : Int) : span first first = [first] := by
  rw [span, show (first + 1 - first).toNat = 1 by omega]
  simp

theorem span_append (middle : Int) (start : first ≤ middle + 1) (stop : middle ≤ last) :
    span first last = span first middle ++ span (middle + 1) last := by
  have count : (last + 1 - first).toNat =
      (middle + 1 - first).toNat + (last + 1 - (middle + 1)).toNat := by omega
  rw [span, count, List.range_add, List.map_append, List.map_map, span, span]
  congr 1
  apply List.map_congr_left
  intro index _
  rw [Function.comp_apply]
  omega

theorem map_add_span (first last shift : Int) :
    (span first last).map (· + shift) = span (first + shift) (last + shift) := by
  rw [span, List.map_map, span, show last + shift + 1 - (first + shift) = last + 1 - first by omega]
  apply List.map_congr_left
  intro index _
  rw [Function.comp_apply]
  omega

theorem span_cons (ordered : first ≤ last) : span first last = first :: span (first + 1) last := by
  rw [span_append first (by omega) ordered, span_singleton]
  rfl

variable {A B : Type}

theorem flatMap_zipIdx (list : List A) (piece : A × Nat → List B) (start count : Nat)
    (within : start + count ≤ list.length) :
    ((list.zipIdx.drop start).take count).flatMap piece =
      (span start (start + count - 1)).flatMap fun index =>
        (list[index.toNat]?).elim [] fun entry => piece (entry, index.toNat) := by
  induction count generalizing start with
  | zero =>
    rw [span_nil (by omega)]
    rfl
  | succ count ih =>
    have here : start < list.zipIdx.length := by
      rw [List.length_zipIdx]
      omega
    have there : start < list.length := by omega
    have places : span start (start + (count + 1 : Nat) - 1) =
        (start : Int) :: span (start + 1 : Nat) ((start + 1 : Nat) + count - 1) := by
      rw [span_cons (by omega)]
      congr 2
      push_cast
      omega
    rw [List.drop_eq_getElem_cons here, List.take_succ_cons, List.flatMap_cons, ih (start + 1) (by omega),
      places, List.flatMap_cons, Int.toNat_natCast, List.getElem?_eq_getElem there,
      List.getElem_zipIdx, Nat.zero_add]
    rfl

end Mult.Foundation
