import Mult.Project.LoadRepair

/-! Which ids renumbering hands out: the lowest that no session of the kind has, as many as
there are ids to replace.
-/

set_option autoImplicit false

namespace Mult.Project
open Foundation Protocol Storage

/-- No id from one up to the hint is free. -/
def IdSet.FullBelow (used : IdSet) (hint : Nat) : Prop :=
  ∀ id, 1 ≤ id → id < hint → id ∈ used

theorem findAvailableId_lowest {used : IdSet} {hint max found : Nat} (full : used.FullBelow hint)
    (available : findAvailableId used hint max = some found) : used.FullBelow found := by
  have below : used.FullBelow (searchStart hint max) := by
    intro id from_one lower
    unfold searchStart at lower
    split at lower
    · exact full id from_one lower
    · omega
  unfold findAvailableId at available
  split at available
  · cases available
  · intro id from_one lower
    rcases Option.or_eq_some_iff.mp available with ahead | ⟨-, behind⟩
    · rcases Nat.lt_or_ge id (searchStart hint max) with before | after
      · exact below id from_one before
      · exact firstAvailableInRange_least ahead after lower
    · split at behind
      · exact firstAvailableInRange_least behind from_one lower
      · cases behind

theorem takeAvailableId_lowest {used after : IdSet} {hint max id next : Nat}
    (full : used.FullBelow hint) (taken : takeAvailableId used hint max = some (id, next, after)) :
    used.FullBelow id ∧ after.FullBelow next := by
  obtain ⟨found, available, same⟩ := Option.map_eq_some_iff.mp taken
  cases same
  have lowest := findAvailableId_lowest full available
  refine ⟨lowest, ?_⟩
  have onward : IdSet.FullBelow (used.insert id) (successor id max) := by
    intro lower from_one before
    rw [Numbering.mem_seen_insert]
    unfold successor at before
    split at before
    · omega
    · by_cases here : id = lower
      · exact .inl here
      · exact .inr (lowest lower from_one (by omega))
  cases again : findAvailableId (used.insert id) (successor id max) max with
  | none =>
    intro lower from_one before
    simp only [Option.getD_none] at before
    omega
  | some next => exact findAvailableId_lowest onward again

/-- Below an id that is new, every other is in use or new too. -/
def LowestFirst (used : Nat → Prop) (renumbered : List Nat) : Prop :=
  ∀ id ∈ renumbered, ¬ used id → ∀ lower, 1 ≤ lower → lower < id →
    used lower ∨ lower ∈ renumbered

theorem visit_renumber_lowest {valid : Nat → Bool} {max : Nat} {ids renumbered : List Nat}
    {numbering after : Numbering}
    (used : ∀ id ∈ ids, valid id = true → id ∈ numbering.used)
    (full : numbering.used.FullBelow numbering.next)
    (visited : visit (Numbering.renumber valid max) ids numbering = some (renumbered, after)) :
    LowestFirst (· ∈ numbering.used) renumbered := by
  induction ids generalizing numbering renumbered with
  | nil =>
    cases visited
    intro id member
    cases member
  | cons first rest ih =>
    simp only [visit, Option.bind_eq_some_iff, Option.map_eq_some_iff] at visited
    obtain ⟨⟨id, middle⟩, stepped, ⟨others, last⟩, passed, same⟩ := visited
    cases same
    unfold Numbering.renumber at stepped
    split at stepped
    · next stays =>
      cases stepped
      have later := @ih others { numbering with seen := numbering.seen.insert first }
        (fun other member => used other (List.mem_cons_of_mem _ member)) full passed
      -- A valid id is in use from the start, so a kept one is none that was handed out.
      have here := used first List.mem_cons_self (Bool.and_eq_true_iff.mp stays).1
      intro other member unused lower from_one before
      rcases List.mem_cons.mp member with same | behind
      · exact absurd (same ▸ here) unused
      · exact (later other behind unused lower from_one before).imp_right
          (List.mem_cons_of_mem _)
    · obtain ⟨⟨fresh, next, taken⟩, found, same⟩ := Option.map_eq_some_iff.mp stepped
      cases same
      obtain ⟨lowest, onward⟩ := takeAvailableId_lowest full found
      obtain ⟨-, grown⟩ := takeAvailableId_some found
      subst grown
      have later := ih (fun other member passes => Numbering.mem_seen_insert.mpr
        (.inr (used other (List.mem_cons_of_mem _ member) passes))) onward passed
      intro other member unused lower from_one before
      -- An id handed out here is the lowest free one; one handed out later is lowest among the
      -- rest.
      rcases List.mem_cons.mp member with same | behind
      · subst same
        exact .inl (lowest lower from_one before)
      · by_cases here : id = other
        · exact .inl (lowest lower from_one (here ▸ before))
        · rcases later other behind (fun held => (Numbering.mem_seen_insert.mp held).elim here
              unused) lower from_one before with held | new
          · rcases Numbering.mem_seen_insert.mp held with same | held
            · exact .inr (same ▸ List.mem_cons_self)
            · exact .inl held
          · exact .inr (List.mem_cons_of_mem _ new)

/-- How many ids are replaced: those that are invalid or repeat another. -/
def replacedCount (valid : Nat → Bool) (ids : List Nat) : Nat :=
  ids.length - (ids.filter valid).dedup.length

def freeBelow (valid : Nat → Bool) (ids : List Nat) (id : Nat) : List Nat :=
  (List.range id).filter fun lower => valid lower && !ids.contains lower

/-- One of the lowest free ids, of which there are as many as are replaced. -/
def HandedOut (valid : Nat → Bool) (ids : List Nat) (id : Nat) : Prop :=
  valid id = true ∧ id ∉ ids ∧ (freeBelow valid ids id).length < replacedCount valid ids

instance (valid : Nat → Bool) (ids : List Nat) (id : Nat) : Decidable (HandedOut valid ids id) :=
  inferInstanceAs (Decidable (_ ∧ _ ∧ _))

section
variable {valid : Nat → Bool} {ids renumbered : List Nat}

theorem mem_freeBelow {id lower : Nat} :
    lower ∈ freeBelow valid ids id ↔ lower < id ∧ valid lower = true ∧ lower ∉ ids := by
  simp [freeBelow]

theorem KeepsFirst.new_count (keeps : KeepsFirst valid ids renumbered) :
    (renumbered.filter fun id => !ids.contains id).length = replacedCount valid ids := by
  have old : (renumbered.filter ids.contains).Perm (ids.filter valid).dedup := by
    rw [List.perm_ext_iff_of_nodup (keeps.nodup.filter _) (List.nodup_dedup _)]
    intro id
    rw [List.mem_filter, List.mem_dedup, List.mem_filter, List.contains_iff_mem]
    constructor
    · rintro ⟨member, listed⟩
      exact ⟨listed, keeps.passes id member⟩
    · rintro ⟨listed, passes⟩
      exact ⟨keeps.mem listed passes, listed⟩
  have split := List.length_eq_length_filter_add (l := renumbered) ids.contains
  rw [old.length_eq, keeps.length] at split
  unfold replacedCount
  omega

theorem KeepsFirst.new_iff (keeps : KeepsFirst valid ids renumbered)
    (positive : ∀ id, valid id = true → 1 ≤ id) (lowest : LowestFirst (· ∈ ids) renumbered)
    {id : Nat} : (id ∈ renumbered ∧ id ∉ ids) ↔ HandedOut valid ids id := by
  let new := renumbered.filter fun id => !ids.contains id
  have mem_new : ∀ {id}, id ∈ new ↔ id ∈ renumbered ∧ id ∉ ids := by simp [new]
  have count : new.length = replacedCount valid ids := keeps.new_count
  have distinct : new.Nodup := keeps.nodup.filter _
  have free_nodup : (freeBelow valid ids id).Nodup := List.nodup_range.filter _
  constructor
  · rintro ⟨member, unlisted⟩
    refine ⟨keeps.passes id member, unlisted, ?_⟩
    have within : ∀ lower ∈ freeBelow valid ids id, lower ∈ new.erase id := by
      intro lower free
      obtain ⟨before, passes, unused⟩ := mem_freeBelow.mp free
      rw [List.Nodup.mem_erase_iff distinct, mem_new]
      refine ⟨Nat.ne_of_lt before, ?_, unused⟩
      exact (lowest id member unlisted lower (positive lower passes) before).resolve_left unused
    have few := (free_nodup.subperm within).length_le
    have here : id ∈ new := mem_new.mpr ⟨member, unlisted⟩
    have some := List.length_pos_of_mem here
    rw [List.length_erase_of_mem here] at few
    omega
  · rintro ⟨passes, unlisted, few⟩
    refine ⟨?_, unlisted⟩
    by_contra missing
    -- all new ids lie below one that is free and not new
    have within : ∀ other ∈ new, other ∈ freeBelow valid ids id := by
      intro other member
      obtain ⟨member, unused⟩ := mem_new.mp member
      refine mem_freeBelow.mpr ⟨?_, keeps.passes other member, unused⟩
      by_contra above
      rcases Nat.lt_or_eq_of_le (Nat.le_of_not_lt above) with before | same
      · exact (lowest other member unused id (positive id passes) before).elim unlisted missing
      · exact missing (same ▸ member)
    have many := (distinct.subperm within).length_le
    omega

end

end Mult.Project
