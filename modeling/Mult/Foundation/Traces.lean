import Mathlib.Data.List.Basic

/-! What holds of every event of a trace, given what came before and after it. -/

set_option autoImplicit false

namespace Mult.Foundation

variable {Event : Type} {past before after : List Event} {event last : Event}

theorem snoc_split (split : past ++ [last] = before ++ event :: after) :
    (before = past ∧ event = last ∧ after = []) ∨
      ∃ between, past = before ++ event :: between ∧ after = between ++ [last] := by
  rcases List.eq_nil_or_concat after with rfl | ⟨between, final, rfl⟩
  · obtain ⟨rfl, same⟩ := List.append_inj' split rfl
    cases same
    exact .inl ⟨rfl, rfl, rfl⟩
  · have longer : past ++ [last] = (before ++ event :: between) ++ [final] := by
      simpa using split
    obtain ⟨same, ends⟩ := List.append_inj' longer rfl
    cases ends
    exact .inr ⟨between, same, List.concat_eq_append⟩

end Mult.Foundation
