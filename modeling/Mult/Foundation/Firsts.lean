import Mathlib.Data.List.Basic

/-! Changing the first item of a list that matches. -/

set_option autoImplicit false

namespace Mult.Foundation

variable {A B : Type} (wanted : A → Bool) (change : A → A)

def modifyFirst : List A → List A
  | [] => []
  | item :: rest => if wanted item then change item :: rest else item :: modifyFirst rest

variable {wanted change} {items : List A} {item : A}

theorem modifyFirst_cons (item : A) (rest : List A) :
    modifyFirst wanted change (item :: rest) =
      if wanted item then change item :: rest else item :: modifyFirst wanted change rest := rfl

theorem mem_modifyFirst_of_mem (member : item ∈ items) :
    item ∈ modifyFirst wanted change items ∨
      wanted item = true ∧ change item ∈ modifyFirst wanted change items := by
  induction items with
  | nil => cases member
  | cons first rest ih =>
    rw [modifyFirst_cons]
    by_cases matched : wanted first = true
    · rw [if_pos matched]
      rcases List.mem_cons.mp member with same | later
      · exact .inr ⟨same ▸ matched, same ▸ List.mem_cons_self⟩
      · exact .inl (List.mem_cons_of_mem _ later)
    · rw [if_neg matched]
      rcases List.mem_cons.mp member with same | later
      · exact .inl (same ▸ List.mem_cons_self)
      · rcases ih later with stays | ⟨found, changed⟩
        · exact .inl (List.mem_cons_of_mem _ stays)
        · exact .inr ⟨found, List.mem_cons_of_mem _ changed⟩

theorem exists_mem_modifyFirst (member : item ∈ items) (matched : wanted item = true) :
    ∃ first ∈ items, wanted first = true ∧ change first ∈ modifyFirst wanted change items := by
  induction items with
  | nil => cases member
  | cons first rest ih =>
    rw [modifyFirst_cons]
    by_cases here : wanted first = true
    · rw [if_pos here]
      exact ⟨first, List.mem_cons_self, here, List.mem_cons_self⟩
    · rw [if_neg here]
      rcases List.mem_cons.mp member with same | later
      · exact absurd (same ▸ matched) here
      · obtain ⟨found, listed, wants, changed⟩ := ih later
        exact ⟨found, List.mem_cons_of_mem _ listed, wants, List.mem_cons_of_mem _ changed⟩

theorem find?_modifyFirst (still : ∀ item, wanted item = true → wanted (change item) = true) :
    (modifyFirst wanted change items).find? wanted = (items.find? wanted).map change := by
  induction items with
  | nil => rfl
  | cons first rest ih =>
    rw [modifyFirst_cons]
    by_cases here : wanted first = true
    · rw [if_pos here, List.find?_cons_of_pos here, List.find?_cons_of_pos (still first here)]
      rfl
    · rw [if_neg here, List.find?_cons_of_neg here, List.find?_cons_of_neg here, ih]

theorem find?_modifyFirst_of_disjoint {other : A → Bool}
    (disjoint : ∀ item, wanted item = true → other item = false ∧ other (change item) = false) :
    (modifyFirst wanted change items).find? other = items.find? other := by
  induction items with
  | nil => rfl
  | cons first rest ih =>
    rw [modifyFirst_cons]
    split
    · next here =>
      obtain ⟨was, becomes⟩ := disjoint first here
      rw [List.find?_cons_of_neg (by simp [becomes]), List.find?_cons_of_neg (by simp [was])]
    · rw [List.find?_cons, List.find?_cons, ih]

theorem modifyFirst_append (first second : List A) :
    modifyFirst wanted change (first ++ second) =
      if first.any wanted then modifyFirst wanted change first ++ second
      else first ++ modifyFirst wanted change second := by
  induction first with
  | nil => rfl
  | cons item rest ih =>
    rw [List.cons_append, modifyFirst_cons, modifyFirst_cons, List.any_cons]
    by_cases matched : wanted item = true
    · simp [matched]
    · rw [if_neg matched, if_neg matched, ih]
      simp only [Bool.not_eq_true] at matched
      simp only [matched, Bool.false_or]
      split <;> rfl

theorem flatMap_modifyFirst {W : Type} (view : W → List A) (set : List A → W → W)
    (view_set : ∀ part whole, view (set part whole) = part) (wholes : List W) :
    (modifyFirst (fun whole => (view whole).any wanted)
        (fun whole => set (modifyFirst wanted change (view whole)) whole) wholes).flatMap view =
      modifyFirst wanted change (wholes.flatMap view) := by
  induction wholes with
  | nil => rfl
  | cons whole rest ih =>
    rw [modifyFirst_cons, List.flatMap_cons, modifyFirst_append]
    split
    · rw [List.flatMap_cons, view_set]
    · rw [List.flatMap_cons, ih]

theorem map_modifyFirst (view : A → B) (same : ∀ item, view (change item) = view item)
    (items : List A) : (modifyFirst wanted change items).map view = items.map view := by
  induction items with
  | nil => rfl
  | cons item rest ih =>
    rw [modifyFirst_cons]
    split
    · rw [List.map_cons, List.map_cons, same]
    · rw [List.map_cons, List.map_cons, ih]

/-- An item after a change at one place was there before, or is what the change made of the item
at that place. -/
theorem mem_modify {place : Nat} (member : item ∈ items.modify place change) :
    item ∈ items ∨ ∃ earlier, items[place]? = some earlier ∧ item = change earlier := by
  obtain ⟨index, found⟩ := List.mem_iff_getElem?.mp member
  rw [List.getElem?_modify] at found
  obtain ⟨earlier, held, same⟩ := Option.map_eq_some_iff.mp found
  split at same
  · next here => exact .inr ⟨earlier, here ▸ held, same.symm⟩
  · exact .inl (same ▸ List.mem_of_getElem? held)

end Mult.Foundation
