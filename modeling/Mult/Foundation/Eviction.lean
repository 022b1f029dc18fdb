import Mult.Foundation.Ranked

/-! Bounded retention in an ordered map: erase the smallest entries of a kind
until no more than a bound of them remain. Entries of other kinds are never touched.
-/

set_option autoImplicit false

namespace Mult.Foundation
open Std (TreeMap)

variable {K V : Type} [Ranked K] (kind : V → Bool)

def countWhere (entries : TreeMap K V) : Nat :=
  (entries.toList.filter fun entry => kind entry.2).length

def firstWhere (entries : TreeMap K V) : Option K :=
  entries.toList.findSome? fun entry => if kind entry.2 then some entry.1 else none

/-- The fuel bounds the number of erasures. -/
def evictWhere (bound : Nat) : Nat → TreeMap K V → TreeMap K V
  | 0, entries => entries
  | fuel + 1, entries =>
      if bound < countWhere kind entries then
        match firstWhere kind entries with
        | none => entries
        | some oldest => evictWhere bound fuel (entries.erase oldest)
      else entries

theorem countWhere_eq_size (entries : TreeMap K V) :
    countWhere kind entries = (entries.filter fun _ value => kind value).size := by
  rw [← Std.TreeMap.length_toList, Std.TreeMap.toList_filter]
  rfl

theorem countWhere_le_size (entries : TreeMap K V) : countWhere kind entries ≤ entries.size := by
  rw [countWhere_eq_size]
  exact Std.TreeMap.size_filter_le_size

theorem toList_nodup (entries : TreeMap K V) : entries.toList.Nodup := by
  refine (Std.TreeMap.distinct_keys_toList (t := entries)).imp fun distinct same => ?_
  subst same
  exact distinct Std.compare_self

theorem equiv_of_getElem? {left right : TreeMap K V}
    (agree : ∀ key : K, left[key]? = right[key]?) : left.Equiv right := by
  apply Std.TreeMap.Equiv.of_toList_perm
  rw [List.perm_ext_iff_of_nodup (toList_nodup left) (toList_nodup right)]
  rintro ⟨key, value⟩
  simp only [Std.TreeMap.mem_toList_iff_getElem?_eq_some, agree]

theorem filter_erase_equiv (entries : TreeMap K V) (key : K) :
    ((entries.erase key).filter fun _ value => kind value).Equiv
      ((entries.filter fun _ value => kind value).erase key) := by
  apply equiv_of_getElem?
  intro other
  by_cases same : key = other <;>
    simp [Std.TreeMap.getElem?_erase, same]

theorem countWhere_congr {left right : TreeMap K V}
    (agree : ∀ key : K, left[key]?.filter kind = right[key]?.filter kind) :
    countWhere kind left = countWhere kind right := by
  rw [countWhere_eq_size, countWhere_eq_size]
  apply Std.TreeMap.Equiv.size_eq
  apply equiv_of_getElem?
  intro key
  rw [Std.TreeMap.getElem?_filter', Std.TreeMap.getElem?_filter']
  exact agree key

theorem countWhere_erase_le (entries : TreeMap K V) (key : K) :
    countWhere kind (entries.erase key) ≤ countWhere kind entries := by
  rw [countWhere_eq_size, countWhere_eq_size, (filter_erase_equiv kind entries key).size_eq]
  exact Std.TreeMap.size_erase_le

theorem countWhere_erase {entries : TreeMap K V} {key : K} {value : V}
    (found : entries[key]? = some value) (selected : kind value = true) :
    countWhere kind (entries.erase key) + 1 = countWhere kind entries := by
  have kept : (entries.filter fun _ value => kind value)[key]? = some value := by
    rw [Std.TreeMap.getElem?_filter', found]
    simp [selected]
  have present : key ∈ entries.filter fun _ value => kind value :=
    Std.TreeMap.mem_iff_isSome_getElem?.mpr (by simp [kept])
  rw [countWhere_eq_size, countWhere_eq_size, (filter_erase_equiv kind entries key).size_eq,
    Std.TreeMap.size_erase, if_pos (Std.TreeMap.mem_iff_contains.mp present)]
  have nonempty : (entries.filter fun _ value => kind value).size ≠ 0 := by
    intro empty
    exact Std.TreeMap.not_mem_of_isEmpty (by simp [Std.TreeMap.isEmpty_eq_size_eq_zero, empty])
      present
  omega

theorem countWhere_erase_other {entries : TreeMap K V} {key : K}
    (refused : ∀ value, entries[key]? = some value → kind value = false) :
    countWhere kind (entries.erase key) = countWhere kind entries := by
  apply countWhere_congr
  intro other
  rw [Std.TreeMap.getElem?_erase]
  split
  · next same =>
    rw [← Std.LawfulEqCmp.compare_eq_iff_eq.mp same]
    cases found : entries[key]? with
    | none => rfl
    | some value => simp [Option.filter, refused value found]
  · rfl

theorem countWhere_le_erase (entries : TreeMap K V) (key : K) :
    countWhere kind entries ≤ countWhere kind (entries.erase key) + 1 := by
  by_cases counted : ∃ value, entries[key]? = some value ∧ kind value = true
  · obtain ⟨value, found, selected⟩ := counted
    exact le_of_eq (countWhere_erase kind found selected).symm
  · refine (le_of_eq (countWhere_erase_other kind fun value found => ?_).symm).trans (Nat.le_succ _)
    by_contra selected
    exact counted ⟨value, found, by simpa using selected⟩

theorem countWhere_insert {value : V} (selected : kind value = true) (entries : TreeMap K V)
    (key : K) :
    countWhere kind (entries.insert key value) = countWhere kind (entries.erase key) + 1 := by
  have found : (entries.insert key value)[key]? = some value := Std.TreeMap.getElem?_insert_self
  rw [← countWhere_erase kind found selected]
  congr 1
  apply countWhere_congr
  intro other
  by_cases same : key = other <;>
    simp [Std.TreeMap.getElem?_erase, Std.TreeMap.getElem?_insert, same]

theorem countWhere_map {update : K → V → V} (kept : ∀ key value,
    kind (update key value) = kind value) (entries : TreeMap K V) :
    countWhere kind (entries.map update) = countWhere kind entries := by
  unfold countWhere
  rw [Std.TreeMap.toList_map, List.filter_map, List.length_map]
  congr 2
  funext entry
  exact kept entry.1 entry.2

theorem firstWhere_eq_some {entries : TreeMap K V} {oldest : K}
    (found : firstWhere kind entries = some oldest) :
    ∃ value, entries[oldest]? = some value ∧ kind value = true ∧
      ∀ (key : K) (other : V), entries[key]? = some other → kind other = true →
        Ranked.rank oldest ≤ Ranked.rank key := by
  unfold firstWhere at found
  obtain ⟨before, ⟨key, value⟩, after, split, chosen, skipped⟩ :=
    List.findSome?_eq_some_iff.mp found
  have selected : kind value = true := by
    by_contra refused
    simp [refused] at chosen
  have same : key = oldest := by simpa [selected] using chosen
  subst same
  have ordered := Std.TreeMap.ordered_keys_toList (t := entries)
  rw [split] at ordered
  refine ⟨value, ?_, selected, ?_⟩
  · rw [← Std.TreeMap.mem_toList_iff_getElem?_eq_some, split]
    simp
  · intro other otherValue present ofKind
    rw [← Std.TreeMap.mem_toList_iff_getElem?_eq_some, split, List.mem_append,
      List.mem_cons] at present
    rcases present with earlier | same | later
    · have := skipped _ earlier
      simp [ofKind] at this
    · cases same; exact Nat.le_refl _
    · have tail := (List.pairwise_cons.mp (List.pairwise_append.mp ordered).2.1).1 _ later
      rw [compare_eq_compare_rank] at tail
      exact Nat.le_of_lt (Nat.compare_eq_lt.mp tail)

theorem firstWhere_eq_none {entries : TreeMap K V} (missing : firstWhere kind entries = none) :
    countWhere kind entries = 0 := by
  unfold firstWhere at missing
  rw [List.findSome?_eq_none_iff] at missing
  unfold countWhere
  rw [List.length_eq_zero_iff, List.filter_eq_nil_iff]
  intro entry member selected
  have := missing entry member
  simp [selected] at this

theorem evictWhere_of_le {bound : Nat} {entries : TreeMap K V}
    (small : countWhere kind entries ≤ bound) (fuel : Nat) :
    evictWhere kind bound fuel entries = entries := by
  cases fuel with
  | zero => rfl
  | succ fuel => simp [evictWhere, Nat.not_lt.mpr small]

theorem evictWhere_subset {bound fuel : Nat} {entries : TreeMap K V} {key : K} {value : V}
    (kept : (evictWhere kind bound fuel entries)[key]? = some value) :
    entries[key]? = some value := by
  induction fuel generalizing entries with
  | zero => exact kept
  | succ fuel ih =>
    simp only [evictWhere] at kept
    split at kept
    · split at kept
      · exact kept
      · have erased := ih kept
        rw [Std.TreeMap.getElem?_erase] at erased
        split at erased
        · cases erased
        · exact erased
    · exact kept

theorem evictWhere_keeps {bound fuel : Nat} {entries : TreeMap K V} {key : K} {value : V}
    (found : entries[key]? = some value) (other : kind value = false) :
    (evictWhere kind bound fuel entries)[key]? = some value := by
  induction fuel generalizing entries with
  | zero => exact found
  | succ fuel ih =>
    simp only [evictWhere]
    split
    · split
      · exact found
      · next oldest chosen =>
        apply ih
        obtain ⟨first, present, selected, -⟩ := firstWhere_eq_some kind chosen
        have different : oldest ≠ key := by
          intro same
          subst same
          rw [found] at present
          cases present
          simp [other] at selected
        simpa [Std.TreeMap.getElem?_erase, different] using found
    · exact found

theorem countWhere_evictWhere_le {bound fuel : Nat} {entries : TreeMap K V}
    (enough : countWhere kind entries ≤ bound + fuel) :
    countWhere kind (evictWhere kind bound fuel entries) ≤ bound := by
  induction fuel generalizing entries with
  | zero => exact enough
  | succ fuel ih =>
    simp only [evictWhere]
    split
    · split
      · next missing => rw [firstWhere_eq_none kind missing]; exact Nat.zero_le _
      · next oldest chosen =>
        apply ih
        obtain ⟨first, present, selected, -⟩ := firstWhere_eq_some kind chosen
        have := countWhere_erase kind present selected
        omega
    · next small => exact Nat.not_lt.mp small

theorem evictWhere_smallest {bound fuel : Nat} {entries : TreeMap K V} {key : K} {value : V}
    (found : entries[key]? = some value)
    (gone : (evictWhere kind bound fuel entries)[key]? = none) :
    kind value = true ∧ ∀ (other : K) (otherValue : V),
      (evictWhere kind bound fuel entries)[other]? = some otherValue → kind otherValue = true →
        Ranked.rank key < Ranked.rank other := by
  induction fuel generalizing entries with
  | zero => simp [evictWhere, found] at gone
  | succ fuel ih =>
    simp only [evictWhere] at gone ⊢
    split at gone
    · next many =>
      rw [if_pos many]
      split at gone
      · simp [found] at gone
      · next oldest chosen =>
        obtain ⟨first, present, selected, least⟩ := firstWhere_eq_some kind chosen
        by_cases same : oldest = key
        · subst same
          rw [found] at present
          cases present
          refine ⟨selected, fun other otherValue kept ofKind => ?_⟩
          have earlier := evictWhere_subset kind kept
          rw [Std.TreeMap.getElem?_erase] at earlier
          split at earlier
          · cases earlier
          · next distinct =>
            refine lt_of_le_of_ne (least other otherValue earlier ofKind) fun ranks => ?_
            exact distinct (by simp [Ranked.rank_injective ranks])
        · exact ih (by simpa [Std.TreeMap.getElem?_erase, same] using found) gone
    · simp [found] at gone

theorem evictWhere_one {bound fuel : Nat} {entries : TreeMap K V}
    (crowded : countWhere kind entries = bound + 1) (enough : 0 < fuel) :
    ∃ (oldest : K) (value : V), entries[oldest]? = some value ∧ kind value = true ∧
      (∀ (key : K) (other : V), entries[key]? = some other → kind other = true →
        Ranked.rank oldest ≤ Ranked.rank key) ∧
      countWhere kind (entries.erase oldest) = bound ∧
      evictWhere kind bound fuel entries = entries.erase oldest := by
  cases fuel with
  | zero => cases enough
  | succ fuel =>
    have many : bound < countWhere kind entries := by omega
    simp only [evictWhere, if_pos many]
    split
    · next missing =>
      have none := firstWhere_eq_none kind missing
      omega
    · next oldest chosen =>
      obtain ⟨value, present, selected, least⟩ := firstWhere_eq_some kind chosen
      have left := countWhere_erase kind present selected
      have fits : countWhere kind (entries.erase oldest) = bound := by omega
      exact ⟨oldest, value, present, selected, least, fits,
        evictWhere_of_le kind (le_of_eq fits) fuel⟩

end Mult.Foundation
