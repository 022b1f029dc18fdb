import Mathlib

/-! Ordered maps and sets with extensional equality: what their sizes say of the lists they
are collected from, and keeping the first entry of each value.
-/

set_option autoImplicit false

namespace Mult.Foundation
open Std (ExtTreeMap ExtTreeSet)

abbrev BTreeMap (K V : Type) [Ord K] := ExtTreeMap K V compare
abbrev BTreeSet (K : Type) [Ord K] := ExtTreeSet K compare

variable {K V : Type} [Ord K] [Std.TransOrd K] [Std.LawfulEqOrd K]

def BTreeMap.values (table : BTreeMap K V) : List V := table.toList.map Prod.snd

theorem toList_nodup_of_set (members : BTreeSet K) : members.toList.Nodup := by
  refine (ExtTreeSet.distinct_toList (t := members)).imp fun distinct same => ?_
  subst same
  exact distinct Std.compare_self

theorem toList_nodup_of_map (table : BTreeMap K V) : table.toList.Nodup := by
  refine (ExtTreeMap.distinct_keys_toList (t := table)).imp fun distinct same => ?_
  subst same
  exact distinct Std.compare_self

theorem keys_nodup (table : BTreeMap K V) : (table.toList.map Prod.fst).Nodup := by
  rw [List.nodup_iff_pairwise_ne, List.pairwise_map]
  refine (ExtTreeMap.distinct_keys_toList (t := table)).imp fun distinct same => ?_
  rw [same] at distinct
  exact distinct Std.compare_self

theorem mem_setOf {items : List K} {item : K} :
    item ∈ (ExtTreeSet.ofList items : BTreeSet K) ↔ item ∈ items := by
  classical
  rw [ExtTreeSet.mem_ofList, List.contains_iff_mem]

/-- A collected set is as long as the list exactly if nothing occurs twice in the list. -/
theorem size_setOf_eq_length_iff (items : List K) :
    (ExtTreeSet.ofList items : BTreeSet K).size = items.length ↔ items.Nodup := by
  classical
  have same : (ExtTreeSet.ofList items : BTreeSet K).toList.Perm items.dedup := by
    rw [List.perm_ext_iff_of_nodup (toList_nodup_of_set _) (List.nodup_dedup _)]
    intro item
    rw [ExtTreeSet.mem_toList, mem_setOf, List.mem_dedup]
  rw [← ExtTreeSet.length_toList, same.length_eq, ← List.dedup_eq_self]
  constructor
  · intro whole
    exact (List.dedup_sublist items).eq_of_length whole
  · intro whole
    rw [whole]

theorem mem_keys_iff {table : BTreeMap K V} {key : K} :
    key ∈ table.toList.map Prod.fst ↔ key ∈ table := by
  rw [ExtTreeMap.map_fst_toList_eq_keys, ExtTreeMap.mem_keys]

theorem mem_of_size_eq {items : List K} {table : BTreeMap K V}
    (sized : (ExtTreeSet.ofList items : BTreeSet K).size = table.size)
    (covered : ∀ item ∈ items, item ∈ table) {key : K} (member : key ∈ table) : key ∈ items := by
  have subset : (ExtTreeSet.ofList items : BTreeSet K).toList ⊆ table.toList.map Prod.fst := by
    intro item listed
    rw [ExtTreeSet.mem_toList, mem_setOf] at listed
    exact mem_keys_iff.mpr (covered item listed)
  have perm := (List.subperm_of_subset (toList_nodup_of_set _) subset).perm_of_length_le (by
    rw [List.length_map, ExtTreeMap.length_toList, ExtTreeSet.length_toList, sized])
  have listed := perm.mem_iff.mpr (mem_keys_iff.mpr member)
  rwa [ExtTreeSet.mem_toList, mem_setOf] at listed

theorem size_eq_of_mem_iff {items : List K} {table : BTreeMap K V}
    (same : ∀ key, key ∈ table ↔ key ∈ items) :
    (ExtTreeSet.ofList items : BTreeSet K).size = table.size := by
  have perm : (ExtTreeSet.ofList items : BTreeSet K).toList.Perm (table.toList.map Prod.fst) := by
    rw [List.perm_ext_iff_of_nodup (toList_nodup_of_set _) (keys_nodup _)]
    intro key
    rw [ExtTreeSet.mem_toList, mem_setOf, mem_keys_iff, same]
  rw [← ExtTreeSet.length_toList, perm.length_eq, List.length_map, ExtTreeMap.length_toList]

theorem values_nodup_iff {table : BTreeMap K V} :
    table.values.Nodup ↔ ∀ (first second : K) (value : V), table[first]? = some value →
      table[second]? = some value → first = second := by
  unfold BTreeMap.values
  constructor
  · intro nodup first second value found other
    rw [← ExtTreeMap.mem_toList_iff_getElem?_eq_some] at found other
    have same := List.inj_on_of_nodup_map nodup found other rfl
    exact congrArg Prod.fst same
  · intro distinct
    apply List.Nodup.map_on _ (toList_nodup_of_map _)
    rintro ⟨first, value⟩ found ⟨second, other⟩ also same
    rw [ExtTreeMap.mem_toList_iff_getElem?_eq_some] at found also
    have same : value = other := same
    subst same
    rw [distinct first second value found also]

theorem mem_values_iff {table : BTreeMap K V} {value : V} :
    value ∈ table.values ↔ ∃ key : K, table[key]? = some value := by
  simp only [BTreeMap.values, List.mem_map]
  constructor
  · rintro ⟨⟨key, found⟩, listed, rfl⟩
    exact ⟨key, ExtTreeMap.mem_toList_iff_getElem?_eq_some.mp listed⟩
  · rintro ⟨key, found⟩
    exact ⟨(key, value), ExtTreeMap.mem_toList_iff_getElem?_eq_some.mpr found, rfl⟩

omit [Std.LawfulEqOrd K] in
theorem length_values (table : BTreeMap K V) : table.values.length = table.size := by
  rw [BTreeMap.values, List.length_map, ExtTreeMap.length_toList]

/-! ## Keeping the first entry of each value -/

section Retaining

variable [Ord V] [Std.TransOrd V] [Std.LawfulEqOrd V] (wanted : K → Bool)

/-- The entries of a list are dropped from the table where the key is not wanted or the value
was already seen. -/
def retainUnseen : List (K × V) → BTreeMap K V → BTreeSet V → BTreeMap K V × BTreeSet V
  | [], table, seen => (table, seen)
  | (key, value) :: rest, table, seen =>
      if wanted key && !seen.contains value then retainUnseen rest table (seen.insert value)
      else retainUnseen rest (table.erase key) seen

/-- What is left of a table, and which values have been seen, after its entries in order. -/
structure Retained (entries : List (K × V)) (table : BTreeMap K V) (seen : BTreeSet V)
    (left : BTreeMap K V) (after : BTreeSet V) : Prop where
  others : ∀ key, (∀ value, (key, value) ∉ entries) → left[key]? = table[key]?
  within : ∀ (key : K) (value : V), left[key]? = some value → table[key]? = some value
  passed : ∀ (key : K) (value : V), (key, value) ∈ entries → left[key]? = some value →
    wanted key = true ∧ value ∉ seen
  counted : ∀ value, value ∈ after ↔
    value ∈ seen ∨ ∃ key, (key, value) ∈ entries ∧ left[key]? = some value
  distinct : ∀ (first second : K) (value : V), (first, value) ∈ entries →
    (second, value) ∈ entries → left[first]? = some value → left[second]? = some value →
      first = second
  kept : ∀ (front back : List (K × V)) (key : K) (value : V),
    entries = front ++ (key, value) :: back → wanted key = true → value ∉ seen →
    (∀ earlier ∈ front, wanted earlier.1 = true → earlier.2 ≠ value) → left[key]? = some value

variable {wanted} {key : K} {value : V} {rest : List (K × V)} {table left : BTreeMap K V}
  {seen after : BTreeSet V}

omit [Std.LawfulEqOrd K] [Std.LawfulEqOrd V] in
theorem Retained.nil (table : BTreeMap K V) (seen : BTreeSet V) :
    Retained wanted [] table seen table seen where
  others _ _ := rfl
  within _ _ found := found
  passed _ _ listed := absurd listed List.not_mem_nil
  counted value := by simp
  distinct _ _ _ listed := absurd listed List.not_mem_nil
  kept front back key value same := by cases front <;> cases same

omit [Std.LawfulEqOrd K] in
theorem Retained.keep (absent : ∀ other, (key, other) ∉ rest) (own : table[key]? = some value)
    (passes : wanted key = true) (unseen : value ∉ seen)
    (tail : Retained wanted rest table (seen.insert value) left after) :
    Retained wanted ((key, value) :: rest) table seen left after where
  others other missing := tail.others other fun found member =>
    missing found (List.mem_cons_of_mem _ member)
  within := tail.within
  passed other found member lookup := by
    rcases List.mem_cons.mp member with same | later
    · cases same
      exact ⟨passes, unseen⟩
    · obtain ⟨wanted, fresh⟩ := tail.passed other found later lookup
      exact ⟨wanted, fun earlier => fresh (by simp [earlier])⟩
  counted found := by
    rw [tail.counted, ExtTreeSet.mem_insert, Std.LawfulEqOrd.compare_eq_iff_eq]
    constructor
    · rintro ((same | earlier) | ⟨other, member, lookup⟩)
      · exact .inr ⟨key, by simp [same], same ▸ (tail.others key absent).trans own⟩
      · exact .inl earlier
      · exact .inr ⟨other, List.mem_cons_of_mem _ member, lookup⟩
    · rintro (earlier | ⟨other, member, lookup⟩)
      · exact .inl (.inr earlier)
      · rcases List.mem_cons.mp member with same | later
        · cases same
          exact .inl (.inl rfl)
        · exact .inr ⟨other, later, lookup⟩
  distinct first second found member also lookup other := by
    -- Further on the value is in the set of those seen, so that no later key keeps it.
    have alone : ∀ (key : K), (key, value) ∈ rest → left[key]? ≠ some value :=
      fun key member lookup => (tail.passed key value member lookup).2 (by simp)
    rcases List.mem_cons.mp member with same | later
    · cases same
      rcases List.mem_cons.mp also with same | later
      · cases same
        rfl
      · exact absurd other (alone second later)
    · rcases List.mem_cons.mp also with same | behind
      · cases same
        exact absurd lookup (alone first later)
      · exact tail.distinct first second found later behind lookup other
  kept front back other found same wanted fresh earlier := by
    cases front with
    | nil =>
      cases same
      exact (tail.others key absent).trans own
    | cons head front =>
      cases same
      have different : value ≠ found := earlier _ List.mem_cons_self passes
      refine tail.kept front back other found rfl wanted ?_ fun entry member =>
        earlier entry (List.mem_cons_of_mem _ member)
      rw [ExtTreeSet.mem_insert, Std.LawfulEqOrd.compare_eq_iff_eq]
      rintro (same | before)
      · exact different same
      · exact fresh before

omit [Std.LawfulEqOrd V] in
theorem Retained.drop (absent : ∀ other, (key, other) ∉ rest)
    (fails : ¬ (wanted key = true ∧ value ∉ seen))
    (tail : Retained wanted rest (table.erase key) seen left after) :
    Retained wanted ((key, value) :: rest) table seen left after := by
  have gone : left[key]? = none := by
    rw [tail.others key absent, ExtTreeMap.getElem?_erase_self]
  have later : ∀ {found : K} {held : V}, (found, held) ∈ (key, value) :: rest →
      left[found]? = some held → (found, held) ∈ rest := by
    intro found held member lookup
    rcases List.mem_cons.mp member with same | later
    · cases same
      rw [gone] at lookup
      cases lookup
    · exact later
  refine ⟨?_, ?_, ?_, ?_, ?_, ?_⟩
  · intro found missing
    have different : key ≠ found := fun same => missing value (by simp [same])
    rw [tail.others found fun held member => missing held (List.mem_cons_of_mem _ member),
      ExtTreeMap.getElem?_erase,
      if_neg (by simpa [Std.LawfulEqOrd.compare_eq_iff_eq] using different)]
  · intro found held lookup
    have lookup := tail.within found held lookup
    rw [ExtTreeMap.getElem?_erase] at lookup
    split at lookup
    · cases lookup
    · exact lookup
  · intro found held member lookup
    exact tail.passed found held (later member lookup) lookup
  · intro held
    rw [tail.counted]
    constructor
    · rintro (earlier | ⟨found, member, lookup⟩)
      · exact .inl earlier
      · exact .inr ⟨found, List.mem_cons_of_mem _ member, lookup⟩
    · rintro (earlier | ⟨found, member, lookup⟩)
      · exact .inl earlier
      · exact .inr ⟨found, later member lookup, lookup⟩
  · intro first second held member also lookup found
    exact tail.distinct first second held (later member lookup) (later also found) lookup found
  · intro front back found held same wanted fresh earlier
    cases front with
    | nil =>
      cases same
      exact absurd ⟨wanted, fresh⟩ fails
    | cons head front =>
      cases same
      exact tail.kept front back found held rfl wanted fresh fun entry member =>
        earlier entry (List.mem_cons_of_mem _ member)

theorem retainUnseen_spec {entries : List (K × V)} (nodup : (entries.map Prod.fst).Nodup)
    (listed : ∀ (key : K) (value : V), (key, value) ∈ entries → table[key]? = some value) :
    Retained wanted entries table seen (retainUnseen wanted entries table seen).1
      (retainUnseen wanted entries table seen).2 := by
  induction entries generalizing table seen with
  | nil => exact .nil table seen
  | cons entry rest ih =>
    obtain ⟨key, value⟩ := entry
    rw [List.map_cons, List.nodup_cons] at nodup
    obtain ⟨new, nodup⟩ := nodup
    have absent : ∀ other, (key, other) ∉ rest :=
      fun other member => new (List.mem_map.mpr ⟨_, member, rfl⟩)
    have behind : ∀ (found : K) (held : V), (found, held) ∈ rest → table[found]? = some held :=
      fun found held member => listed found held (List.mem_cons_of_mem _ member)
    unfold retainUnseen
    split
    · next passes =>
      rw [Bool.and_eq_true, Bool.not_eq_true', ← Bool.not_eq_true,
        ExtTreeSet.contains_iff_mem] at passes
      exact .keep absent (listed key value List.mem_cons_self) passes.1 passes.2
        (ih nodup behind)
    · next fails =>
      refine .drop absent (fun passes => fails ?_) (ih nodup ?_)
      · rw [Bool.and_eq_true, Bool.not_eq_true', ← Bool.not_eq_true, ExtTreeSet.contains_iff_mem]
        exact passes
      · intro found held member
        have different : key ≠ found := fun same => absent held (same ▸ member)
        rw [ExtTreeMap.getElem?_erase,
          if_neg (by simpa [Std.LawfulEqOrd.compare_eq_iff_eq] using different)]
        exact behind found held member

/-- What is left of a whole table once every entry has been passed over in key order. -/
structure Pruned (wanted : K → Bool) (table : BTreeMap K V) (seen : BTreeSet V)
    (left : BTreeMap K V) (after : BTreeSet V) : Prop where
  within : ∀ (key : K) (value : V), left[key]? = some value → table[key]? = some value
  passed : ∀ (key : K) (value : V), left[key]? = some value → wanted key = true ∧ value ∉ seen
  counted : ∀ value, value ∈ after ↔ value ∈ seen ∨ ∃ key : K, left[key]? = some value
  distinct : ∀ (first second : K) (value : V), left[first]? = some value →
    left[second]? = some value → first = second
  kept : ∀ (key : K) (value : V), table[key]? = some value → wanted key = true →
    value ∉ seen → (∀ earlier, compare earlier key = .lt → wanted earlier = true →
      table[earlier]? ≠ some value) → left[key]? = some value

variable (wanted) in
/-- `retain` over a whole table, with the values seen so far. -/
def BTreeMap.retainUnseen (table : BTreeMap K V) (seen : BTreeSet V) :
    BTreeMap K V × BTreeSet V :=
  Foundation.retainUnseen wanted table.toList table seen

theorem BTreeMap.retainUnseen_pruned (table : BTreeMap K V) (seen : BTreeSet V) :
    Pruned wanted table seen (table.retainUnseen wanted seen).1
      (table.retainUnseen wanted seen).2 := by
  have listed : ∀ (key : K) (value : V), (key, value) ∈ table.toList ↔
      table[key]? = some value := fun _ _ => ExtTreeMap.mem_toList_iff_getElem?_eq_some
  have spec := @retainUnseen_spec K V _ _ _ _ _ _ wanted table seen table.toList
    (keys_nodup table) fun key value => (listed key value).mp
  have found : ∀ {key : K} {value : V}, (table.retainUnseen wanted seen).1[key]? = some value →
      (key, value) ∈ table.toList :=
    fun lookup => (listed _ _).mpr (spec.within _ _ lookup)
  refine ⟨spec.within, fun key value lookup => spec.passed key value (found lookup) lookup,
    ?_, ?_, ?_⟩
  · intro value
    rw [BTreeMap.retainUnseen, spec.counted]
    constructor
    · rintro (earlier | ⟨key, -, lookup⟩)
      · exact .inl earlier
      · exact .inr ⟨key, lookup⟩
    · rintro (earlier | ⟨key, lookup⟩)
      · exact .inl earlier
      · exact .inr ⟨key, found lookup, lookup⟩
  · intro first second value lookup other
    exact spec.distinct first second value (found lookup) (found other) lookup other
  · intro key value lookup wanted fresh earlier
    obtain ⟨front, back, split⟩ := List.append_of_mem ((listed key value).mpr lookup)
    refine spec.kept front back key value split wanted fresh ?_
    rintro ⟨before, held⟩ member passes rfl
    have ordered := ExtTreeMap.ordered_keys_toList (t := table)
    rw [split, List.pairwise_append] at ordered
    refine earlier before (ordered.2.2 _ member _ List.mem_cons_self) passes ?_
    rw [← listed, split]
    exact List.mem_append_left _ member

omit [Std.LawfulEqOrd V] in
theorem Pruned.eq {wanted : K → Bool} (pruned : Pruned wanted table seen left after)
    (all : ∀ (key : K) (value : V), table[key]? = some value → wanted key = true ∧ value ∉ seen)
    (distinct : ∀ (first second : K) (value : V), table[first]? = some value →
      table[second]? = some value → first = second) : left = table := by
  apply ExtTreeMap.ext_getElem?
  intro key
  apply Option.ext
  intro value
  constructor
  · exact pruned.within key value
  · intro found
    obtain ⟨wanted, fresh⟩ := all key value found
    refine pruned.kept key value found wanted fresh ?_
    intro earlier before _ other
    rw [distinct earlier key value other found, Std.compare_self] at before
    cases before

end Retaining

end Mult.Foundation
