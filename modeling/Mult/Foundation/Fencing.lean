import Mathlib

/-! Exclusive holds on resources, fenced by increasing tokens: whoever is granted a
resource displaces its holder, and no older token ever holds it again.
-/

set_option autoImplicit false

namespace Mult.Foundation

/-- What happens to the hold on a resource. -/
inductive Hold (Resource Holder : Type) where
  | grant (resource : Resource) (holder : Holder)
  | rebind (resource : Resource) (holder : Holder)
  | drop (resource : Resource)

namespace Hold

variable {Resource Holder : Type} [DecidableEq Resource]

/-- Who holds the resource after the event, if `held` did before it. -/
def after (resource : Resource) (held : Option Holder) : Hold Resource Holder → Option Holder
  | .grant other holder | .rebind other holder => if other = resource then some holder else held
  | .drop other => if other = resource then none else held

/-- The holder a log leaves a resource with. -/
def holding (log : List (Hold Resource Holder)) (resource : Resource) : Option Holder :=
  log.foldl (after resource) none

theorem holding_append (log more : List (Hold Resource Holder)) (resource : Resource) :
    holding (log ++ more) resource = more.foldl (after resource) (holding log resource) :=
  List.foldl_append

theorem holding_snoc (log : List (Hold Resource Holder)) (event : Hold Resource Holder)
    (resource : Resource) :
    holding (log ++ [event]) resource = event.after resource (holding log resource) := by
  rw [holding_append]
  rfl

def granted : Hold Resource Holder → Option (Resource × Holder)
  | .grant resource holder => some (resource, holder)
  | _ => none

def grants (log : List (Hold Resource Holder)) : List (Resource × Holder) := log.filterMap granted

omit [DecidableEq Resource] in
theorem grants_append (log more : List (Hold Resource Holder)) :
    grants (log ++ more) = grants log ++ grants more := List.filterMap_append ..

/-- Every grant takes a token above all granted before, and a rebind keeps the token. -/
inductive Fenced (token : Holder → Nat) : List (Hold Resource Holder) → Prop where
  | nil : Fenced token []
  | grant {log : List (Hold Resource Holder)} {resource : Resource} {holder : Holder} :
      Fenced token log → (∀ earlier ∈ grants log, token earlier.2 < token holder) →
      Fenced token (log ++ [.grant resource holder])
  | rebind {log : List (Hold Resource Holder)} {resource : Resource} {previous holder : Holder} :
      Fenced token log → holding log resource = some previous →
      token holder = token previous → Fenced token (log ++ [.rebind resource holder])
  | drop {log : List (Hold Resource Holder)} {resource : Resource} :
      Fenced token log → Fenced token (log ++ [.drop resource])

namespace Fenced

variable {token : Holder → Nat} {log : List (Hold Resource Holder)}

theorem increasing (fenced : Fenced token log) :
    (grants log).Pairwise fun earlier later => token earlier.2 < token later.2 := by
  induction fenced with
  | nil => exact .nil
  | grant _ above ih =>
    rw [grants_append, List.pairwise_append]
    refine ⟨ih, List.pairwise_singleton _ _, fun earlier member later same => ?_⟩
    obtain rfl := List.mem_singleton.mp same
    exact above earlier member
  | rebind _ _ _ ih => rw [grants_append]; exact (List.append_nil _).symm ▸ ih
  | drop _ ih => rw [grants_append]; exact (List.append_nil _).symm ▸ ih

/-- The token a resource is held under was granted for that resource. -/
theorem holding_granted (fenced : Fenced token log) {resource : Resource} {holder : Holder}
    (held : holding log resource = some holder) :
    ∃ first, (resource, first) ∈ grants log ∧ token first = token holder := by
  induction fenced generalizing holder with
  | nil => cases held
  | @grant log other fresh _ above ih =>
    rw [holding_snoc, after] at held
    rw [grants_append]
    split at held
    · next same =>
      subst same
      cases held
      exact ⟨fresh, by simp [grants, granted], rfl⟩
    · obtain ⟨first, member, same⟩ := ih held
      exact ⟨first, List.mem_append_left _ member, same⟩
  | @rebind log other previous bound _ holds kept ih =>
    rw [holding_snoc, after] at held
    rw [grants_append]
    split at held
    · next same =>
      subst same
      cases held
      obtain ⟨first, member, same⟩ := ih holds
      exact ⟨first, List.mem_append_left _ member, same.trans kept.symm⟩
    · obtain ⟨first, member, same⟩ := ih held
      exact ⟨first, List.mem_append_left _ member, same⟩
  | drop _ ih =>
    rw [holding_snoc, after] at held
    rw [grants_append]
    split at held
    · cases held
    · obtain ⟨first, member, same⟩ := ih held
      exact ⟨first, List.mem_append_left _ member, same⟩

theorem grant_unique (fenced : Fenced token log) {one two : Resource × Holder}
    (first : one ∈ grants log) (second : two ∈ grants log) (same : token one.2 = token two.2) :
    one = two := by
  by_contra different
  rcases List.pairwise_iff_getElem.mp fenced.increasing with increasing
  obtain ⟨i, inside, rfl⟩ := List.mem_iff_getElem.mp first
  obtain ⟨j, within, rfl⟩ := List.mem_iff_getElem.mp second
  rcases Nat.lt_trichotomy i j with before | here | behind
  · exact absurd same (Nat.ne_of_lt (increasing i j inside within before))
  · subst here; exact different rfl
  · exact absurd same (Nat.ne_of_gt (increasing j i within inside behind))

/-- No token holds two resources. -/
theorem holding_unique (fenced : Fenced token log) {one two : Resource} {first second : Holder}
    (held : holding log one = some first) (other : holding log two = some second)
    (same : token first = token second) : one = two := by
  obtain ⟨grantOne, memberOne, tokenOne⟩ := fenced.holding_granted held
  obtain ⟨grantTwo, memberTwo, tokenTwo⟩ := fenced.holding_granted other
  have equal := fenced.grant_unique memberOne memberTwo
    ((tokenOne.trans same).trans tokenTwo.symm)
  exact congrArg Prod.fst equal

/-- The token a resource is held under is at least any that was granted for it. -/
theorem latest (fenced : Fenced token log) {resource : Resource} {holder first : Holder}
    (held : holding log resource = some holder) (earlier : (resource, first) ∈ grants log) :
    token first ≤ token holder := by
  induction fenced generalizing holder with
  | nil => cases held
  | @grant log other fresh fenced above ih =>
    rw [holding_snoc, after] at held
    rw [grants_append, List.mem_append] at earlier
    split at held
    · next same =>
      cases held
      rcases earlier with earlier | latest
      · exact Nat.le_of_lt (above _ earlier)
      · cases List.mem_singleton.mp latest
        exact Nat.le_refl _
    · next different =>
      rcases earlier with earlier | latest
      · exact ih held earlier
      · cases List.mem_singleton.mp latest
        exact absurd rfl different
  | @rebind log other previous bound fenced holds kept ih =>
    rw [holding_snoc, after] at held
    rw [grants_append, List.mem_append] at earlier
    rcases earlier with earlier | none
    · split at held
      · next same =>
        subst same
        cases held
        exact kept ▸ ih holds earlier
      · exact ih held earlier
    · cases none
  | drop fenced ih =>
    rw [holding_snoc, after] at held
    rw [grants_append, List.mem_append] at earlier
    rcases earlier with earlier | none
    · split at held
      · cases held
      · exact ih held earlier
    · cases none

end Fenced

end Hold

end Mult.Foundation
