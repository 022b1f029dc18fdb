import Mathlib

/-! Walks along the edges of a relation, given by the list of edges taken. -/

set_option autoImplicit false

namespace Mult.Foundation

variable {Place : Type} {edge : Place → Place → Prop}

/-- The edges, oldest first, lead from the first place to the last. -/
inductive Walk (edge : Place → Place → Prop) (first : Place) :
    List (Place × Place) → Place → Prop where
  | stay : Walk edge first [] first
  | move {taken : List (Place × Place)} {here there : Place} : Walk edge first taken here →
      edge here there → Walk edge first (taken ++ [(here, there)]) there

namespace Walk

variable {first here there : Place} {taken : List (Place × Place)}

theorem edges (walk : Walk edge first taken here) : ∀ step ∈ taken, edge step.1 step.2 := by
  induction walk with
  | stay => simp
  | move _ allowed ih =>
    intro step member
    rcases List.mem_append.mp member with earlier | last
    · exact ih step earlier
    · rw [List.mem_singleton.mp last]
      exact allowed

theorem moveTo [DecidableEq Place] (walk : Walk edge first taken here)
    (allowed : here ≠ there → edge here there) :
    Walk edge first (taken ++ if here = there then [] else [(here, there)]) there := by
  split
  · next same =>
    subst same
    rw [List.append_nil]
    exact walk
  · next apart => exact walk.move (allowed apart)

end Walk

end Mult.Foundation
