import Mathlib

/-! Passing over a list with a state, one item after the other, and over parts of its items.
-/

set_option autoImplicit false

namespace Mult.Foundation

variable {S A State : Type}

/-- Every item is replaced in turn; the pass fails where an item does. -/
def visit (step : S → State → Option (S × State)) : List S → State → Option (List S × State)
  | [], state => some ([], state)
  | item :: rest, state =>
      (step item state).bind fun (item, state) =>
        (visit step rest state).map fun (rest, state) => (item :: rest, state)

theorem visit_nil (step : S → State → Option (S × State)) (state : State) :
    visit step [] state = some ([], state) := rfl

theorem visit_cons (step : S → State → Option (S × State)) (item : S) (rest : List S)
    (state : State) :
    visit step (item :: rest) state = (step item state).bind fun (item, state) =>
      (visit step rest state).map fun (rest, state) => (item :: rest, state) := rfl

/-- A part of a value that can be read and replaced. -/
structure Part (S A : Type) where
  get : S → A
  set : A → S → S
  get_set : ∀ value whole, get (set value whole) = value
  set_get : ∀ whole, set (get whole) whole = whole

def Part.through (part : Part S A) (step : A → State → Option (A × State)) (whole : S)
    (state : State) : Option (S × State) :=
  (step (part.get whole) state).map fun (value, state) => (part.set value whole, state)

theorem visit_append (step : S → State → Option (S × State)) (first second : List S)
    (state : State) :
    visit step (first ++ second) state = (visit step first state).bind fun (first, state) =>
      (visit step second state).map fun (second, state) => (first ++ second, state) := by
  induction first generalizing state with
  | nil => simp [visit_nil]
  | cons item rest ih =>
    simp only [List.cons_append, visit_cons]
    cases step item state with
    | none => rfl
    | some next =>
      simp only [Option.bind_some, ih]
      cases visit step rest next.2 with
      | none => rfl
      | some later =>
        simp only [Option.bind_some, Option.map_some]
        cases visit step second later.2 with
        | none => rfl
        | some last => rfl

theorem visit_through (part : Part S A) (step : A → State → Option (A × State))
    (items : List S) (state : State) :
    (visit (part.through step) items state).map (fun last => (last.1.map part.get, last.2)) =
      visit step (items.map part.get) state := by
  induction items generalizing state with
  | nil => rfl
  | cons item rest ih =>
    simp only [List.map_cons, visit_cons, Part.through]
    cases step (part.get item) state with
    | none => rfl
    | some next =>
      simp only [Option.map_some, Option.bind_some, ← ih]
      cases visit (part.through step) rest next.2 with
      | none => rfl
      | some last => simp only [Option.map_some, List.map_cons, part.get_set]

/-- A pass over lists within the items is a pass over all of them one behind the other. -/
theorem visit_within (inner : Part S (List A)) (step : A → State → Option (A × State))
    (items : List S) (state : State) :
    (visit (inner.through (visit step)) items state).map
        (fun last => (last.1.flatMap inner.get, last.2)) =
      visit step (items.flatMap inner.get) state := by
  induction items generalizing state with
  | nil => rfl
  | cons item rest ih =>
    rw [List.flatMap_cons, visit_append]
    simp only [visit_cons, Part.through]
    cases visit step (inner.get item) state with
    | none => rfl
    | some next =>
      simp only [Option.map_some, Option.bind_some, ← ih]
      cases visit (inner.through (visit step)) rest next.2 with
      | none => rfl
      | some last => simp only [Option.map_some, List.flatMap_cons, inner.get_set]

theorem visit_frame {step : S → State → Option (S × State)} {Same : Type} (view : S → Same)
    (frame : ∀ item state after next, step item state = some (after, next) →
      view after = view item) {items after : List S} {state next : State}
    (visited : visit step items state = some (after, next)) :
    after.map view = items.map view := by
  induction items generalizing after state with
  | nil =>
    cases visited
    rfl
  | cons item rest ih =>
    simp only [visit_cons, Option.bind_eq_some_iff, Option.map_eq_some_iff] at visited
    obtain ⟨⟨first, middle⟩, stepped, ⟨others, last⟩, passed, same⟩ := visited
    cases same
    rw [List.map_cons, List.map_cons, frame item state first middle stepped, ih passed]

theorem Part.through_frame (part : Part S A) {step : A → State → Option (A × State)}
    {Same : Type} {view : S → Same} (frame : ∀ value whole, view (part.set value whole) = view whole)
    (whole : S) (state : State) (after : S) (next : State)
    (stepped : part.through step whole state = some (after, next)) : view after = view whole := by
  obtain ⟨⟨value, _⟩, -, same⟩ := Option.map_eq_some_iff.mp stepped
  cases same
  exact frame value whole

def Reports (changed : State → Bool) (step : S → State → Option (S × State)) : Prop :=
  ∀ item state after next, step item state = some (after, next) → changed next = false →
    after = item ∧ changed state = false

theorem Reports.visit {changed : State → Bool} {step : S → State → Option (S × State)}
    (reports : Reports changed step) : Reports changed (visit step) := by
  intro items
  induction items with
  | nil =>
    intro state after next visited unchanged
    cases visited
    exact ⟨rfl, unchanged⟩
  | cons item rest ih =>
    intro state after next visited unchanged
    simp only [visit_cons, Option.bind_eq_some_iff, Option.map_eq_some_iff] at visited
    obtain ⟨⟨first, middle⟩, stepped, ⟨others, last⟩, passed, same⟩ := visited
    cases same
    obtain ⟨sameRest, untouched⟩ := ih middle others last passed unchanged
    obtain ⟨sameFirst, start⟩ := reports item state first middle stepped untouched
    exact ⟨by rw [sameFirst, sameRest], start⟩

theorem Reports.through {changed : State → Bool} {step : A → State → Option (A × State)}
    (reports : Reports changed step) (part : Part S A) :
    Reports changed (part.through step) := by
  intro whole state after next stepped unchanged
  obtain ⟨⟨value, last⟩, inner, same⟩ := Option.map_eq_some_iff.mp stepped
  cases same
  obtain ⟨sameValue, start⟩ := reports _ _ _ _ inner unchanged
  exact ⟨by rw [sameValue, part.set_get], start⟩

section OneItem

variable {view : S → List A} {items : List S} {index : Nat} {item : S}

theorem modify_split (change : S → S) (found : items[index]? = some item) :
    ∃ front back, items = front ++ item :: back ∧
      items.modify index change = front ++ change item :: back := by
  obtain ⟨inside, same⟩ := List.getElem?_eq_some_iff.mp found
  refine ⟨items.take index, items.drop (index + 1), ?_, ?_⟩
  · rw [← same, ← List.drop_eq_getElem_cons inside, List.take_append_drop]
  · rw [List.modify_eq_take_cons_drop inside, same]

theorem flatMap_modify_add {change : S → S} {value : A} (found : items[index]? = some item)
    (grown : (view (change item)).Perm (value :: view item)) :
    ((items.modify index change).flatMap view).Perm (value :: items.flatMap view) := by
  obtain ⟨front, back, split, changed⟩ := modify_split change found
  rw [changed, split, List.flatMap_append, List.flatMap_append, List.flatMap_cons,
    List.flatMap_cons]
  exact ((grown.append_right _).append_left _).trans List.perm_middle

theorem flatMap_modify_remove (view : S → List A) (change : S → S) {value : A} (found : items[index]? = some item)
    (shrunk : (view item).Perm (value :: view (change item))) :
    (items.flatMap view).Perm (value :: (items.modify index change).flatMap view) := by
  obtain ⟨front, back, split, changed⟩ := modify_split change found
  rw [changed, split, List.flatMap_append, List.flatMap_append, List.flatMap_cons,
    List.flatMap_cons]
  exact ((shrunk.append_right _).append_left _).trans List.perm_middle

theorem flatMap_eraseIdx (view : S → List A) (found : items[index]? = some item) :
    (items.flatMap view).Perm (view item ++ (items.eraseIdx index).flatMap view) := by
  obtain ⟨inside, same⟩ := List.getElem?_eq_some_iff.mp found
  have split : items = items.take index ++ item :: items.drop (index + 1) := by
    rw [← same, ← List.drop_eq_getElem_cons inside, List.take_append_drop]
  rw [List.eraseIdx_eq_take_drop_succ]
  conv_lhs => rw [split]
  rw [List.flatMap_append, List.flatMap_append, List.flatMap_cons]
  exact List.perm_append_comm_assoc _ _ _

theorem map_modify_frame {B : Type} (change : S → S) (shown : S → B)
    (frame : ∀ item, shown (change item) = shown item) (items : List S) (index : Nat) :
    (items.modify index change).map shown = items.map shown := by
  cases found : items[index]? with
  | none => rw [List.modify_eq_self (List.getElem?_eq_none_iff.mp found)]
  | some item =>
    obtain ⟨front, back, split, changed⟩ := modify_split change found
    rw [changed, split, List.map_append, List.map_append, List.map_cons, List.map_cons, frame]

end OneItem

end Mult.Foundation
