import Mathlib

/-! Keys ordered through an injective rank, so that ordered maps may use them. -/

set_option autoImplicit false

namespace Mult.Foundation

/-- A type whose values are told apart, and compared, by a natural number. -/
class Ranked (K : Type) where
  rank : K → Nat
  rank_injective : Function.Injective rank

variable {K : Type} [Ranked K]

instance instOrdRanked : Ord K := ⟨fun a b => compare (Ranked.rank a) (Ranked.rank b)⟩

theorem compare_eq_compare_rank (a b : K) :
    compare a b = compare (Ranked.rank a) (Ranked.rank b) := rfl

instance instTransOrdRanked : Std.TransOrd K := inferInstanceAs (Std.TransCmp (compareOn Ranked.rank))

instance instLawfulEqOrdRanked : Std.LawfulEqOrd K where
  eq_of_compare same := Ranked.rank_injective (by simpa [compare_eq_compare_rank] using same)
  compare_self := by simp

theorem getElem?_insert_cases {V : Type} {entries : Std.TreeMap K V} {key other : K}
    {value found : V} (lookup : (entries.insert key value)[other]? = some found) :
    (key = other ∧ value = found) ∨ (key ≠ other ∧ entries[other]? = some found) := by
  rw [Std.TreeMap.getElem?_insert] at lookup
  by_cases same : key = other
  · left
    simpa [same] using lookup
  · right
    simpa [same] using lookup

theorem mem_values {V : Type} {entries : Std.TreeMap K V} {key : K} {value : V}
    (found : entries[key]? = some value) : value ∈ entries.values := by
  have listed : entries.values = entries.toList.map Prod.snd := by
    simp only [Std.TreeMap.values, Std.DTreeMap.values, Std.TreeMap.toList,
      Std.DTreeMap.Const.toList, Std.DTreeMap.Internal.Impl.values_eq_map_snd,
      Std.DTreeMap.Internal.Impl.Const.toList_eq_toListModel_map, List.map_map]
    rfl
  rw [listed, List.mem_map]
  exact ⟨(key, value), Std.TreeMap.mem_toList_iff_getElem?_eq_some.mpr found, rfl⟩

theorem contains_eq_false_iff {V : Type} {entries : Std.TreeMap K V} {key : K} :
    entries.contains key = false ↔ entries[key]? = none := by
  rw [← Bool.not_eq_true, ← Std.TreeMap.mem_iff_contains]
  simp

theorem contains_eq_false_iff_notMem {members : Std.TreeSet K} {key : K} :
    members.contains key = false ↔ key ∉ members := by
  rw [← Bool.not_eq_true, ← Std.TreeSet.mem_iff_contains]

end Mult.Foundation
