import Mathlib.Data.List.Basic

/-! A list cut into pieces of one size. -/

set_option autoImplicit false

namespace Mult.Foundation

variable {A : Type}

/-- Every piece has the size but the last, which is not empty and at most that long. -/
inductive Chunked (size : Nat) : List (List A) → Prop where
  | none : Chunked size []
  | last {piece : List A} : piece ≠ [] → piece.length ≤ size → Chunked size [piece]
  | more {piece : List A} {rest : List (List A)} : piece.length = size → rest ≠ [] →
      Chunked size rest → Chunked size (piece :: rest)

namespace Chunked

variable {size : Nat} {pieces others : List (List A)}

theorem nonempty (positive : 0 < size) (chunked : Chunked size pieces) :
    ∀ piece ∈ pieces, piece ≠ [] := by
  induction chunked with
  | none => exact fun _ listed => nomatch listed
  | last filled =>
    intro piece listed
    rw [List.mem_singleton.mp listed]
    exact filled
  | more full _ _ ih =>
    intro piece listed
    rcases List.mem_cons.mp listed with rfl | later
    · rw [← List.length_pos_iff, full]
      exact positive
    · exact ih piece later

theorem flatten_eq_nil (positive : 0 < size) (chunked : Chunked size pieces)
    (empty : pieces.flatten = []) : pieces = [] := by
  cases pieces with
  | nil => rfl
  | cons piece rest =>
    rw [List.flatten_cons, List.append_eq_nil_iff] at empty
    exact absurd empty.1 (chunked.nonempty positive piece (.head _))

theorem exact_dropLast (chunked : Chunked size pieces) :
    ∀ piece ∈ pieces.dropLast, piece.length = size := by
  induction chunked with
  | none => exact fun _ listed => nomatch listed
  | last => exact fun _ listed => nomatch listed
  | more full some _ ih =>
    intro piece listed
    rw [List.dropLast_cons_of_ne_nil some] at listed
    rcases List.mem_cons.mp listed with rfl | later
    · exact full
    · exact ih piece later

theorem count (positive : 0 < size) (chunked : Chunked size pieces) :
    pieces.length = (pieces.flatten.length + size - 1) / size := by
  induction chunked with
  | none =>
    simp only [List.flatten_nil, List.length_nil]
    rw [Nat.div_eq_of_lt (by omega)]
  | @last piece filled short =>
    have some : 0 < piece.length := List.length_pos_iff.mpr filled
    rw [List.flatten_singleton, List.length_singleton, eq_comm, Nat.div_eq_iff positive]
    omega
  | @more piece rest full _ _ ih =>
    have split : size + rest.flatten.length + size - 1 =
        rest.flatten.length + size - 1 + size := by
      omega
    rw [List.flatten_cons, List.length_append, List.length_cons, full, split,
      Nat.add_div_right _ positive, ih]

theorem unique (positive : 0 < size) (chunked : Chunked size pieces)
    (other : Chunked size others) (same : pieces.flatten = others.flatten) : pieces = others := by
  induction chunked generalizing others with
  | none => exact (other.flatten_eq_nil positive same.symm).symm
  | @last piece filled short =>
    cases other with
    | none => exact absurd (by simpa using same) filled
    | last => simpa using same
    | @more first rest full some later =>
      have lengths := congrArg List.length same
      simp only [List.flatten_cons, List.flatten_nil, List.append_nil, List.length_append]
        at lengths
      have none : rest.flatten = [] := List.length_eq_zero_iff.mp (by omega)
      exact absurd (later.flatten_eq_nil positive none) some
  | @more piece rest full some later ih =>
    cases other with
    | none => exact absurd ((Chunked.more full some later).flatten_eq_nil positive same) (by simp)
    | @last only filled short =>
      have lengths := congrArg List.length same
      simp only [List.flatten_cons, List.flatten_nil, List.append_nil, List.length_append]
        at lengths
      have none : rest.flatten = [] := List.length_eq_zero_iff.mp (by omega)
      exact absurd (later.flatten_eq_nil positive none) some
    | @more first behind full' _ later' =>
      rw [List.flatten_cons, List.flatten_cons] at same
      obtain ⟨heads, tails⟩ := List.append_inj same (full.trans full'.symm)
      rw [heads, ih later' tails]

theorem of_exact {unfinished : List A} (exact : ∀ piece ∈ pieces, piece.length = size)
    (room : unfinished.length < size) :
    Chunked size (if unfinished = [] then pieces else pieces ++ [unfinished]) := by
  have positive : 0 < size := by omega
  induction pieces with
  | nil =>
    split
    · exact .none
    · next filled => exact .last filled (by omega)
  | cons piece rest ih =>
    have full := exact piece (.head _)
    have some : piece ≠ [] := by
      rw [← List.length_pos_iff, full]
      exact positive
    have later := ih fun piece listed => exact piece (.tail _ listed)
    split
    · next empty =>
      rw [if_pos empty] at later
      cases rest with
      | nil => exact .last some (by omega)
      | cons => exact .more full (by simp) later
    · next filled =>
      rw [if_neg filled] at later
      exact .more full (by simp) later

end Chunked

end Mult.Foundation
