import Mult.Foundation.Ordered
import Mult.Protocol.Identifiers

/-! Free numeric ids: the search for one at or after a hint, and the hints themselves. -/

set_option autoImplicit false

namespace Mult.Project
open Foundation Protocol

def u64Max : Nat := u64Bound - 1

def runtimeTerminalIdFlag : Nat := 2 ^ 63
def maxDurableSessionId : Nat := runtimeTerminalIdFlag - 1

def isValidDurableSessionId (id : Nat) : Bool := 1 ≤ id ∧ id ≤ maxDurableSessionId

structure WorkspaceId where
  raw : Nat
  deriving DecidableEq, Repr

structure ChatId where
  raw : Nat
  deriving DecidableEq, Repr

structure TerminalId where
  raw : Nat
  deriving DecidableEq, Repr

instance : Ranked WorkspaceId := ⟨WorkspaceId.raw, fun a b same => by cases a; cases b; simp_all⟩
instance : Ranked ChatId := ⟨ChatId.raw, fun a b same => by cases a; cases b; simp_all⟩
instance : Ranked TerminalId := ⟨TerminalId.raw, fun a b same => by cases a; cases b; simp_all⟩

abbrev IdSet := BTreeSet Nat

/-- The ids of a set between two bounds, in order. -/
def IdSet.range (used : IdSet) (start last : Nat) : List Nat :=
  used.toList.filter fun id => start ≤ id ∧ id ≤ last

/-- The first number from the candidate on that an ordered list of larger ids leaves free. -/
def firstGap (last : Nat) : Nat → List Nat → Option Nat
  | candidate, [] => some candidate
  | candidate, id :: rest =>
      if id > candidate then some candidate
      else if id = candidate then
        if candidate = last then none else firstGap last (candidate + 1) rest
      else firstGap last candidate rest

def firstAvailableInRange (used : IdSet) (start last : Nat) : Option Nat :=
  firstGap last start (used.range start last)

def searchStart (hint max : Nat) : Nat := if 1 ≤ hint ∧ hint ≤ max then hint else 1

def findAvailableId (used : IdSet) (hint max : Nat) : Option Nat :=
  if max = 0 then none
  else
    let start := searchStart hint max
    (firstAvailableInRange used start max).or
      (if start > 1 then firstAvailableInRange used 1 (start - 1) else none)

def successor (id max : Nat) : Nat := if id = max then 1 else id + 1

/-- A free id at or after the hint, the next hint, and the ids in use from then on. -/
def takeAvailableId (used : IdSet) (hint max : Nat) : Option (Nat × Nat × IdSet) :=
  (findAvailableId used hint max).map fun id =>
    let used := used.insert id
    (id, (findAvailableId used (successor id max) max).getD 0, used)

def highestWithin (used : IdSet) (max : Nat) : Nat := (used.range 1 max).getLast?.getD 0

/-- Where there are no ids at all the source panics; the largest id is a constant of each caller. -/
def normalizedAllocatorHint (current : Nat) (used : IdSet) (max : Nat) : Nat :=
  let highest := highestWithin used max
  let start :=
    if highest < max ∧ (¬ (1 ≤ current ∧ current ≤ max) ∨ current ≤ highest) then highest + 1
    else if 1 ≤ current ∧ current ≤ max then current
    else 1
  (findAvailableId used start max).getD 0

/-! ## What a search finds -/

theorem IdSet.mem_range {used : IdSet} {start last id : Nat} :
    id ∈ used.range start last ↔ id ∈ used ∧ start ≤ id ∧ id ≤ last := by
  simp [IdSet.range]

theorem IdSet.range_sorted (used : IdSet) (start last : Nat) :
    (used.range start last).Pairwise (· < ·) := by
  have ordered := Std.ExtTreeSet.ordered_toList (t := used)
  simp only [Nat.compare_eq_lt] at ordered
  exact ordered.filter _

theorem firstGap_spec {last candidate : Nat} {ids : List Nat} (sorted : ids.Pairwise (· < ·))
    (within : ∀ id ∈ ids, candidate ≤ id ∧ id ≤ last) (below : candidate ≤ last) :
    match firstGap last candidate ids with
    | some found => candidate ≤ found ∧ found ≤ last ∧ found ∉ ids
    | none => ∀ id, candidate ≤ id → id ≤ last → id ∈ ids := by
  induction ids generalizing candidate with
  | nil => exact ⟨Nat.le_refl _, below, List.not_mem_nil⟩
  | cons first rest ih =>
    rw [List.pairwise_cons] at sorted
    obtain ⟨first_lt, sorted⟩ := sorted
    obtain ⟨from_candidate, first_le⟩ := within first List.mem_cons_self
    unfold firstGap
    by_cases ahead : first > candidate
    · rw [if_pos ahead]
      refine ⟨Nat.le_refl _, below, ?_⟩
      intro member
      rcases List.mem_cons.mp member with same | later
      · omega
      · have := first_lt _ later
        omega
    · have same : first = candidate := by omega
      rw [if_neg ahead, if_pos same]
      by_cases full : candidate = last
      · rw [if_pos full]
        intro id from_candidate id_le
        have : id = first := by omega
        simp [this]
      · rw [if_neg full]
        -- the rest lies behind the candidate, so the search goes on from the next one
        have next := @ih (candidate + 1) sorted (fun id member => by
          have := first_lt id member
          have := within id (List.mem_cons_of_mem _ member)
          omega) (by omega)
        split at next
        · next found _ =>
          obtain ⟨after, found_le, free⟩ := next
          refine ⟨by omega, found_le, ?_⟩
          rw [List.mem_cons]
          rintro (here | later)
          · omega
          · exact free later
        · intro id from_candidate id_le
          by_cases here : id = candidate
          · simp [here, same]
          · exact List.mem_cons_of_mem _ (next id (by omega) id_le)

theorem firstAvailableInRange_some {used : IdSet} {start last found : Nat} (below : start ≤ last)
    (available : firstAvailableInRange used start last = some found) :
    start ≤ found ∧ found ≤ last ∧ found ∉ used := by
  have spec := firstGap_spec (used.range_sorted start last)
    (fun id member => (IdSet.mem_range.mp member).2) below
  unfold firstAvailableInRange at available
  rw [available] at spec
  obtain ⟨after, found_le, free⟩ := spec
  exact ⟨after, found_le, fun member => free (IdSet.mem_range.mpr ⟨member, after, found_le⟩)⟩

theorem firstAvailableInRange_none {used : IdSet} {start last : Nat} (below : start ≤ last)
    (full : firstAvailableInRange used start last = none) {id : Nat} (after : start ≤ id)
    (id_le : id ≤ last) : id ∈ used := by
  have spec := firstGap_spec (used.range_sorted start last)
    (fun id member => (IdSet.mem_range.mp member).2) below
  unfold firstAvailableInRange at full
  rw [full] at spec
  exact (IdSet.mem_range.mp (spec id after id_le)).1

theorem firstGap_least {last candidate found : Nat} {ids : List Nat}
    (available : firstGap last candidate ids = some found) {id : Nat} (after : candidate ≤ id)
    (before : id < found) : id ∈ ids := by
  induction ids generalizing candidate with
  | nil =>
    cases available
    omega
  | cons first rest ih =>
    unfold firstGap at available
    split at available
    · cases available
      omega
    · split at available
      · next same =>
        split at available
        · cases available
        · by_cases here : id = candidate
          · rw [here, same]
            exact List.mem_cons_self
          · exact List.mem_cons_of_mem _ (ih available (by omega))
      · exact List.mem_cons_of_mem _ (ih available after)

theorem firstAvailableInRange_least {used : IdSet} {start last found : Nat}
    (available : firstAvailableInRange used start last = some found) {id : Nat} (after : start ≤ id)
    (before : id < found) : id ∈ used :=
  (IdSet.mem_range.mp (firstGap_least available after before)).1

theorem searchStart_within {hint max : Nat} (some : max ≠ 0) :
    1 ≤ searchStart hint max ∧ searchStart hint max ≤ max := by
  unfold searchStart
  split <;> omega

theorem findAvailableId_some {used : IdSet} {hint max found : Nat}
    (available : findAvailableId used hint max = some found) :
    1 ≤ found ∧ found ≤ max ∧ found ∉ used := by
  unfold findAvailableId at available
  split at available
  · cases available
  · next positive =>
    obtain ⟨from_one, to_max⟩ := @searchStart_within hint max positive
    rw [Option.or_eq_some_iff] at available
    rcases available with ahead | ⟨-, behind⟩
    · obtain ⟨after, found_le, free⟩ := firstAvailableInRange_some to_max ahead
      exact ⟨by omega, found_le, free⟩
    · split at behind
      · obtain ⟨after, found_le, free⟩ := firstAvailableInRange_some (by omega) behind
        exact ⟨after, by omega, free⟩
      · cases behind

theorem findAvailableId_none {used : IdSet} {hint max : Nat}
    (full : findAvailableId used hint max = none) {id : Nat} (from_one : 1 ≤ id)
    (to_max : id ≤ max) : id ∈ used := by
  unfold findAvailableId at full
  split at full
  · omega
  · next positive =>
    obtain ⟨start_from, start_to⟩ := @searchStart_within hint max positive
    rw [Option.or_eq_none_iff] at full
    obtain ⟨ahead, behind⟩ := full
    by_cases after : searchStart hint max ≤ id
    · exact firstAvailableInRange_none start_to ahead after to_max
    · rw [if_pos (by omega)] at behind
      exact firstAvailableInRange_none (by omega) behind from_one (by omega)

theorem findAvailableId_hint {used : IdSet} {hint max : Nat} (from_one : 1 ≤ hint)
    (to_max : hint ≤ max) (free : hint ∉ used) : findAvailableId used hint max = some hint := by
  have start : searchStart hint max = hint := if_pos ⟨from_one, to_max⟩
  unfold findAvailableId
  rw [if_neg (by omega), start]
  unfold firstAvailableInRange
  have first : firstGap max hint (used.range hint max) = some hint := by
    cases found : used.range hint max with
    | nil => rfl
    | cons id rest =>
      obtain ⟨member, after, -⟩ :=
        IdSet.mem_range.mp (show id ∈ used.range hint max by simp [found])
      have different : id ≠ hint := fun same => free (same ▸ member)
      unfold firstGap
      rw [if_pos (by omega)]
  dsimp only
  rw [first, Option.some_or]

theorem takeAvailableId_some {used after : IdSet} {hint max id next : Nat}
    (taken : takeAvailableId used hint max = some (id, next, after)) :
    (1 ≤ id ∧ id ≤ max ∧ id ∉ used) ∧ after = used.insert id := by
  obtain ⟨found, available, same⟩ := Option.map_eq_some_iff.mp taken
  cases same
  exact ⟨findAvailableId_some available, rfl⟩

theorem takeAvailableId_isSome {used : IdSet} {hint max : Nat} {taken : Finset Nat}
    (within : ∀ id ∈ used, id ∈ taken) (room : taken.card < max) :
    (takeAvailableId used hint max).isSome := by
  rw [takeAvailableId, Option.isSome_map, Option.isSome_iff_ne_none]
  intro full
  have covered : Finset.Icc 1 max ⊆ taken := by
    intro id member
    rw [Finset.mem_Icc] at member
    exact within id (findAvailableId_none full member.1 member.2)
  have counted := Finset.card_le_card covered
  rw [Nat.card_Icc] at counted
  omega

theorem le_highestWithin {used : IdSet} {max id : Nat} (member : id ∈ used) (from_one : 1 ≤ id)
    (to_max : id ≤ max) : id ≤ highestWithin used max := by
  have listed : id ∈ used.range 1 max := IdSet.mem_range.mpr ⟨member, from_one, to_max⟩
  have sorted := used.range_sorted 1 max
  unfold highestWithin
  cases found : (used.range 1 max).getLast? with
  | none =>
    rw [List.getLast?_eq_none_iff.mp found] at listed
    cases listed
  | some highest =>
    obtain ⟨front, split⟩ := List.getLast?_eq_some_iff.mp found
    rw [split] at listed sorted
    rcases List.mem_append.mp listed with before | last
    · exact Nat.le_of_lt ((List.pairwise_append.mp sorted).2.2 id before highest (by simp))
    · simp only [List.mem_singleton] at last
      exact Nat.le_of_eq last

/-- A normalized hint is free and, while the last id is, behind all ids in use; or it is zero
because every id is in use. -/
theorem normalizedAllocatorHint_spec (current : Nat) (used : IdSet) (max : Nat) :
    (1 ≤ normalizedAllocatorHint current used max ∧
      normalizedAllocatorHint current used max ≤ max ∧
      normalizedAllocatorHint current used max ∉ used ∧
      (highestWithin used max < max →
        highestWithin used max < normalizedAllocatorHint current used max)) ∨
    (normalizedAllocatorHint current used max = 0 ∧ ∀ id, 1 ≤ id → id ≤ max → id ∈ used) := by
  unfold normalizedAllocatorHint
  dsimp only
  generalize chosen : (if highestWithin used max < max ∧
    (¬ (1 ≤ current ∧ current ≤ max) ∨ current ≤ highestWithin used max)
      then highestWithin used max + 1
    else if 1 ≤ current ∧ current ≤ max then current else 1) = start
  cases found : findAvailableId used start max with
  | none =>
    right
    exact ⟨rfl, fun id from_one to_max => findAvailableId_none found from_one to_max⟩
  | some id =>
    left
    obtain ⟨from_one, to_max, free⟩ := findAvailableId_some found
    refine ⟨from_one, to_max, free, ?_⟩
    intro room
    -- below the last id the search starts behind the ids in use, and stops at once
    have ahead : highestWithin used max < start ∧ start ≤ max := by
      split at chosen
      · omega
      · split at chosen <;> omega
    have unused : start ∉ used := fun member => by
      have := le_highestWithin member (by omega) ahead.2
      omega
    rw [findAvailableId_hint (by omega) ahead.2 unused] at found
    cases found
    exact ahead.1

theorem normalizedAllocatorHint_idem (current : Nat) (used : IdSet) (max : Nat) :
    normalizedAllocatorHint (normalizedAllocatorHint current used max) used max =
      normalizedAllocatorHint current used max := by
  rcases normalizedAllocatorHint_spec current used max with
    ⟨from_one, to_max, free, ahead⟩ | ⟨zero, full⟩
  · generalize normalizedAllocatorHint current used max = hint at *
    have inside : 1 ≤ hint ∧ hint ≤ max := ⟨from_one, to_max⟩
    unfold normalizedAllocatorHint
    dsimp only
    rw [if_neg (by omega), if_pos inside, findAvailableId_hint from_one to_max free]
    rfl
  · rw [zero]
    unfold normalizedAllocatorHint
    dsimp only
    rw [Option.getD_eq_iff]
    right
    refine ⟨?_, rfl⟩
    rw [Option.eq_none_iff_forall_ne_some]
    intro id available
    obtain ⟨from_one, to_max, free⟩ := findAvailableId_some available
    exact free (full id from_one to_max)

/-- An id that can be given out. -/
def Free (used : IdSet) (max id : Nat) : Prop := 1 ≤ id ∧ id ≤ max ∧ id ∉ used

/-- The first free id at or after the hint, or where there is none the first one. -/
structure FirstFree (used : IdSet) (hint max id : Nat) : Prop where
  free : Free used max id
  ahead : (∃ other, Free used max other ∧ hint ≤ other) → hint ≤ id
  least : ∀ other, Free used max other → (hint ≤ id → hint ≤ other) → id ≤ other

theorem findAvailableId_first {used : IdSet} {hint max found : Nat}
    (available : findAvailableId used hint max = some found) : FirstFree used hint max found := by
  have free := findAvailableId_some available
  unfold findAvailableId at available
  split at available
  · cases available
  dsimp only at available
  rw [Option.or_eq_some_iff] at available
  by_cases within : 1 ≤ hint ∧ hint ≤ max
  · rw [searchStart, if_pos within] at available
    rcases available with ahead | ⟨full, behind⟩
    · have after := (firstAvailableInRange_some within.2 ahead).1
      refine ⟨free, fun _ => after, fun other unused later => ?_⟩
      by_contra less
      exact unused.2.2 (firstAvailableInRange_least ahead (later after) (by omega))
    · split at behind
      · have before := (firstAvailableInRange_some (by omega) behind).2.1
        refine ⟨free, ?_, fun other unused _ => ?_⟩
        · rintro ⟨other, unused, later⟩
          exact absurd (firstAvailableInRange_none within.2 full later unused.2.1) unused.2.2
        · by_contra less
          exact unused.2.2 (firstAvailableInRange_least behind unused.1 (by omega))
      · cases behind
  · rw [searchStart, if_neg within, if_neg (by omega), or_iff_left (fun none => nomatch none.2)]
      at available
    refine ⟨free, ?_, fun other unused _ => ?_⟩
    · rintro ⟨other, unused, later⟩
      have := unused.2.1
      omega
    · by_contra less
      exact unused.2.2 (firstAvailableInRange_least available unused.1 (by omega))

theorem findAvailableId_eq_none_iff {used : IdSet} {hint max : Nat} :
    findAvailableId used hint max = none ↔ ∀ id, ¬Free used max id := by
  refine ⟨fun full id free => free.2.2 (findAvailableId_none full free.1 free.2.1), fun none => ?_⟩
  rw [Option.eq_none_iff_forall_ne_some]
  exact fun id available => none id (findAvailableId_some available)

/-- What taking an id comes to: the first free one, and where the search for the next one is to
begin, which is zero only if none is left. -/
theorem takeAvailableId_complete (used : IdSet) (hint max : Nat) :
    (match takeAvailableId used hint max with
      | some (id, next, after) => FirstFree used hint max id ∧ after = used.insert id ∧
          (next ≠ 0 → Free after max next) ∧ (next = 0 ↔ ∀ other, ¬Free after max other)
      | none => ∀ id, ¬Free used max id) ∧
    ∀ current, normalizedAllocatorHint (normalizedAllocatorHint current used max) used max =
      normalizedAllocatorHint current used max := by
  refine ⟨?_, fun current => normalizedAllocatorHint_idem current used max⟩
  cases taken : takeAvailableId used hint max with
  | none => exact findAvailableId_eq_none_iff.mp (Option.map_eq_none_iff.mp taken)
  | some found =>
    obtain ⟨id, available, same⟩ := Option.map_eq_some_iff.mp taken
    subst same
    dsimp only
    refine ⟨findAvailableId_first available, rfl, ?_⟩
    cases upcoming : findAvailableId (used.insert id) (successor id max) max with
    | none => exact ⟨fun left => absurd rfl left, fun _ => findAvailableId_eq_none_iff.mp upcoming,
        fun _ => rfl⟩
    | some next =>
      have free := findAvailableId_some upcoming
      refine ⟨fun _ => free, fun zero => ?_, fun none => absurd free (none next)⟩
      have := free.1
      rw [Option.getD_some] at zero
      omega

end Mult.Project
