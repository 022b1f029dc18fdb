import Mathlib

/-! Tables of which only the earliest holder of a value keeps it.
-/

set_option autoImplicit false

namespace Mult.Foundation

variable {K V : Type} {before : K → K → Prop} {present : K → Prop} {table left : K → Option V}

/-- What is left of a table whose present keys keep the values no earlier one holds. -/
structure KeepsEarliest (before : K → K → Prop) (present : K → Prop) (table left : K → Option V) :
    Prop where
  within : ∀ key value, left key = some value → table key = some value ∧ present key
  distinct : ∀ first second value, left first = some value → left second = some value →
    first = second
  kept : ∀ key value, table key = some value → present key →
    (∀ earlier, present earlier → before earlier key → table earlier ≠ some value) →
    left key = some value

section
variable (founded : WellFounded before) [IsTrans K before]
  (keeps : KeepsEarliest before present table left)
include founded keeps

theorem KeepsEarliest.holder {key : K} {value : V} (held : table key = some value)
    (here : present key) :
    ∃ first, left first = some value ∧ (first = key ∨ before first key) := by
  induction key using founded.induction with
  | _ key ih =>
    by_cases again : ∃ earlier, present earlier ∧ before earlier key ∧
      table earlier = some value
    · obtain ⟨earlier, there, ahead, same⟩ := again
      obtain ⟨first, kept, upTo⟩ := ih earlier ahead same there
      refine ⟨first, kept, .inr ?_⟩
      rcases upTo with same | further
      · exact same ▸ ahead
      · exact IsTrans.trans _ _ _ further ahead
    · refine ⟨key, keeps.kept key value held here ?_, .inl rfl⟩
      intro earlier there ahead same
      exact again ⟨earlier, there, ahead, same⟩

theorem KeepsEarliest.dropped {key earlier : K} {value : V} (there : present earlier)
    (ahead : before earlier key) (held : table earlier = some value) :
    left key ≠ some value := by
  intro kept
  obtain ⟨first, holds, upTo⟩ := keeps.holder founded held there
  have same := keeps.distinct first key value holds kept
  subst same
  have before_self : before first first := by
    rcases upTo with equal | further
    · subst equal
      exact ahead
    · exact IsTrans.trans _ _ _ further ahead
  exact founded.irrefl.irrefl first before_self

end

/-- Some of the present keys are left nothing exactly where each of their values has an earlier
holder among the others. -/
theorem KeepsEarliest.none_iff {old new : K → Prop} (founded : WellFounded before)
    [IsTrans K before]
    (keeps : KeepsEarliest before (fun key => old key ∨ new key) table left) :
    (∀ key, new key → left key = none) ↔
      ∀ key value, new key → table key = some value →
        ∃ earlier, old earlier ∧ before earlier key ∧ table earlier = some value := by
  constructor
  · intro cleared key value fresh held
    obtain ⟨first, kept, upTo⟩ := keeps.holder founded held (.inr fresh)
    obtain ⟨holds, old | also⟩ := keeps.within first value kept
    · rcases upTo with same | ahead
      · subst same
        exact absurd kept (by simp [cleared first fresh])
      · exact ⟨first, old, ahead, holds⟩
    · exact absurd kept (by simp [cleared first also])
  · intro claimed key fresh
    rw [Option.eq_none_iff_forall_not_mem]
    intro value kept
    obtain ⟨earlier, there, ahead, held⟩ := claimed key value fresh (keeps.within key value kept).1
    exact keeps.dropped founded (.inl there) ahead held kept

end Mult.Foundation
