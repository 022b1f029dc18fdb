import Mathlib

/-! Computations that may fail: what it takes for one to succeed, and what it then yields.

Failing is `none`. Arithmetic on machine words and changes of lists by position fail where they
leave their range.
-/

set_option autoImplicit false

namespace Mult.Foundation

variable {A B : Type}

def Succeeds (result : Option A) (after : A → Prop) : Prop := ∃ value, result = some value ∧ after value

namespace Succeeds

variable {result : Option A} {after : A → Prop}

theorem of_eq {value : A} (same : result = some value) (holds : after value) :
    Succeeds result after := ⟨value, same, holds⟩

protected theorem pure {value : A} (holds : after value) : Succeeds (Pure.pure value) after :=
  ⟨value, rfl, holds⟩

protected theorem some {value : A} (holds : after value) : Succeeds (some value) after :=
  ⟨value, rfl, holds⟩

theorem imp {weaker : A → Prop} (succeeds : Succeeds result after)
    (follows : ∀ value, after value → weaker value) : Succeeds result weaker := by
  obtain ⟨value, same, holds⟩ := succeeds
  exact ⟨value, same, follows value holds⟩

protected theorem bind {rest : A → Option B} {last : B → Prop} (first : Succeeds result after)
    (onward : ∀ value, after value → Succeeds (rest value) last) :
    Succeeds (result >>= rest) last := by
  obtain ⟨value, same, holds⟩ := first
  rw [same]
  exact onward value holds

protected theorem map {change : A → B} {last : B → Prop} (first : Succeeds result after)
    (onward : ∀ value, after value → last (change value)) : Succeeds (result.map change) last := by
  obtain ⟨value, same, holds⟩ := first
  rw [same]
  exact ⟨change value, rfl, onward value holds⟩

theorem isSome (succeeds : Succeeds result after) : result.isSome := by
  obtain ⟨value, same, -⟩ := succeeds
  rw [same]
  rfl

theorem of_some {value : A} (succeeds : Succeeds result after) (same : result = some value) :
    after value := by
  obtain ⟨other, equal, holds⟩ := succeeds
  cases same.symm.trans equal
  exact holds

theorem foldlM {Item : Type} {step : A → Item → Option A} {items : List Item} {start : A}
    (initially : after start)
    (preserved : ∀ state item, item ∈ items → after state → Succeeds (step state item) after) :
    Succeeds (items.foldlM step start) after := by
  induction items generalizing start with
  | nil => exact Succeeds.pure initially
  | cons item rest ih =>
    rw [List.foldlM_cons]
    refine (preserved start item List.mem_cons_self initially).bind fun state held => ?_
    exact ih held fun state item member => preserved state item (List.mem_cons_of_mem _ member)

end Succeeds

/-- A step taken so many times. -/
def repeated (step : A → Option A) : Nat → A → Option A
  | 0, state => some state
  | count + 1, state => step state >>= repeated step count

theorem repeated_succ (step : A → Option A) (count : Nat) (state : A) :
    repeated step (count + 1) state = step state >>= repeated step count := rfl

theorem succeeds_repeated {step : A → Option A} {kept : A → Prop}
    (preserved : ∀ state, kept state → Succeeds (step state) kept) (count : Nat) {start : A}
    (initially : kept start) : Succeeds (repeated step count start) kept := by
  induction count generalizing start with
  | zero => exact .some initially
  | succ count ih =>
    rw [repeated_succ]
    exact (preserved start initially).bind fun state held => ih held

/-- As `succeeds_repeated`, for what depends on how many steps have been taken. -/
theorem succeeds_repeated_indexed {step : A → Option A} (kept : Nat → A → Prop) {total : Nat}
    (preserved : ∀ taken state, taken < total → kept taken state →
      Succeeds (step state) (kept (taken + 1))) {start : A} (initially : kept 0 start) :
    Succeeds (repeated step total start) (kept total) := by
  suffices ahead : ∀ count taken state, taken + count = total → kept taken state →
      Succeeds (repeated step count state) (kept total) from
    ahead total 0 start (Nat.zero_add total) initially
  intro count
  induction count with
  | zero =>
    rintro taken state rfl held
    exact .some held
  | succ count ih =>
    intro taken state sum held
    rw [repeated_succ]
    refine (preserved taken state (by omega) held).bind fun next held => ?_
    exact ih (taken + 1) next (by omega) held

/-- What 16 bits hold at most. -/
def wordMax : Nat := 65535

def addWord (left right : Nat) : Option Nat :=
  if left + right ≤ wordMax then some (left + right) else none

def subWord (left right : Nat) : Option Nat := if right ≤ left then some (left - right) else none

def saturatingAdd (left right : Nat) : Nat := min (left + right) wordMax

theorem addWord_of_le {left right : Nat} (fits : left + right ≤ wordMax) :
    addWord left right = some (left + right) := if_pos fits

theorem subWord_of_le {left right : Nat} (le : right ≤ left) :
    subWord left right = some (left - right) := if_pos le

def insertAt (items : List A) (index : Nat) (item : A) : Option (List A) :=
  if index ≤ items.length then some (items.insertIdx index item) else none

def removeAt (items : List A) (index : Nat) : Option (List A) :=
  if index < items.length then some (items.eraseIdx index) else none

def updateAt (items : List A) (index : Nat) (change : A → A) : Option (List A) :=
  if index < items.length then some (items.modify index change) else none

/-- Cut off or filled up to a length. -/
def resized (items : List A) (length : Nat) (item : A) : List A :=
  items.take length ++ List.replicate (length - items.length) item

theorem insertAt_of_le {items : List A} {index : Nat} (item : A) (le : index ≤ items.length) :
    insertAt items index item = some (items.insertIdx index item) := if_pos le

theorem removeAt_of_lt {items : List A} {index : Nat} (lt : index < items.length) :
    removeAt items index = some (items.eraseIdx index) := if_pos lt

theorem updateAt_of_lt {items : List A} {index : Nat} (change : A → A)
    (lt : index < items.length) : updateAt items index change = some (items.modify index change) :=
  if_pos lt

section
variable {items : List A} {index : Nat} {kept : A → Prop}

theorem succeeds_insertAt {item : A} (le : index ≤ items.length) (held : ∀ item ∈ items, kept item)
    (added : kept item) : Succeeds (insertAt items index item) fun next =>
      next.length = items.length + 1 ∧ ∀ item ∈ next, kept item := by
  refine .of_eq (insertAt_of_le item le) ⟨List.length_insertIdx_of_le_length le item, ?_⟩
  intro other member
  rcases (List.mem_insertIdx le).mp member with rfl | before
  · exact added
  · exact held other before

theorem succeeds_removeAt (lt : index < items.length) (held : ∀ item ∈ items, kept item) :
    Succeeds (removeAt items index) fun next =>
      next.length + 1 = items.length ∧ ∀ item ∈ next, kept item := by
  refine .of_eq (removeAt_of_lt lt) ⟨?_, fun item member => ?_⟩
  · rw [List.length_eraseIdx_of_lt lt]
    omega
  · exact held item (List.mem_of_mem_eraseIdx member)

end

theorem length_resized (items : List A) (length : Nat) (item : A) :
    (resized items length item).length = length := by
  rw [resized, List.length_append, List.length_take, List.length_replicate]
  omega

theorem getElem?_resized (items : List A) (length : Nat) (item : A) (index : Nat) :
    (resized items length item)[index]? =
      if index < length then some (items[index]?.getD item) else none := by
  rw [resized, List.getElem?_append, List.length_take, List.getElem?_take,
    List.getElem?_replicate]
  by_cases inside : index < length
  · by_cases there : index < items.length
    · rw [if_pos (by omega), if_pos inside, if_pos inside, List.getElem?_eq_getElem there]
      rfl
    · rw [if_neg (by omega), if_pos inside, if_pos (by omega),
        List.getElem?_eq_none (Nat.not_lt.mp there)]
      rfl
  · rw [if_neg (by omega), if_neg inside, if_neg (by omega)]

end Mult.Foundation
