import Mathlib

/-! A stream handed over in parts: what is kept of it first, then what is new as it comes.

A receiver takes a part only where it joins what the receiver has already.
-/

set_option autoImplicit false

namespace Mult.Foundation

variable {Item : Type}

/-- What a receiver is sent. Positions count from the start of the stream. -/
inductive Portion (Item : Type) where
  | begins (first : Nat)
  | kept (position : Nat) (items : List Item)
  | ends (position : Nat)
  | comes (position : Nat) (items : List Item)
  | revoked
  deriving DecidableEq, Repr

/-- What a receiver has, with the position of the first item of it. A handover is broken off once
something new comes before its end. -/
inductive Receiver (Item : Type) where
  | idle
  | filling (first : Nat) (items : List Item)
  | broken
  | live (first : Nat) (items : List Item)
  deriving DecidableEq, Repr

def StandsAt (whole : List Item) (first : Nat) (items : List Item) : Prop :=
  ∃ before rest, whole = before ++ items ++ rest ∧ before.length = first

def EndsWith (whole : List Item) (first : Nat) (items : List Item) : Prop :=
  ∃ before, whole = before ++ items ∧ before.length = first

section
variable {whole items : List Item} {first : Nat}

theorem EndsWith.standsAt (ends : EndsWith whole first items) : StandsAt whole first items := by
  obtain ⟨before, rfl, sized⟩ := ends
  exact ⟨before, [], (List.append_nil _).symm, sized⟩

theorem EndsWith.length (ends : EndsWith whole first items) :
    whole.length = first + items.length := by
  obtain ⟨before, rfl, sized⟩ := ends
  rw [List.length_append, sized]

theorem EndsWith.append (ends : EndsWith whole first items) (more : List Item) :
    EndsWith (whole ++ more) first (items ++ more) := by
  obtain ⟨before, rfl, sized⟩ := ends
  exact ⟨before, List.append_assoc .., sized⟩

theorem EndsWith.drop (ends : EndsWith whole first items) {count : Nat}
    (within : count ≤ items.length) : EndsWith whole (first + count) (items.drop count) := by
  obtain ⟨before, rfl, sized⟩ := ends
  refine ⟨before ++ items.take count, ?_, ?_⟩
  · rw [List.append_assoc, List.take_append_drop]
  · rw [List.length_append, List.length_take_of_le within, sized]

theorem EndsWith.eq_drop (ends : EndsWith whole first items) : items = whole.drop first := by
  obtain ⟨before, rfl, rfl⟩ := ends
  rw [List.drop_left]

theorem StandsAt.append (stands : StandsAt whole first items) (more : List Item) :
    StandsAt (whole ++ more) first items := by
  obtain ⟨before, rest, rfl, sized⟩ := stands
  exact ⟨before, rest ++ more, List.append_assoc .., sized⟩

theorem StandsAt.left {more : List Item} (stands : StandsAt whole first (items ++ more)) :
    StandsAt whole first items := by
  obtain ⟨before, rest, rfl, sized⟩ := stands
  exact ⟨before, more ++ rest, by simp, sized⟩

end

namespace Receiver

/-- A part that does not join is refused, and so is a kept one outside of a handover. -/
def take : Receiver Item → Portion Item → Option (Receiver Item)
  | _, .begins first => some (.filling first [])
  | _, .revoked => some .idle
  | .filling first items, .kept position more =>
      if position = first + items.length then some (.filling first (items ++ more)) else none
  | .filling first items, .ends position =>
      if position = first + items.length then some (.live first items) else none
  | .live first items, .comes position more =>
      if position = first + items.length then some (.live first (items ++ more)) else none
  | .filling _ _, .comes _ _ | .idle, .comes _ _ | .broken, .comes _ _ => some .broken
  | _, _ => none

def takes (receiver : Receiver Item) (parts : List (Portion Item)) : Option (Receiver Item) :=
  parts.foldlM take receiver

variable {receiver next : Receiver Item} {parts rest : List (Portion Item)} {whole : List Item}

@[simp] theorem takes_nil : receiver.takes [] = some receiver := rfl

theorem takes_cons (part : Portion Item) :
    receiver.takes (part :: parts) = (receiver.take part).bind fun next => next.takes parts := rfl

theorem takes_append :
    receiver.takes (parts ++ rest) = (receiver.takes parts).bind fun next => next.takes rest :=
  List.foldlM_append ..

def Within (whole : List Item) : Receiver Item → Prop
  | .idle => True
  | .broken => False
  | .filling first items | .live first items => StandsAt whole first items

/-- The receiver is past the handover. -/
def Live : Receiver Item → Prop
  | .live _ _ => True
  | _ => False

/-- A receiver past the handover has all there is. -/
def CaughtUp (whole : List Item) : Receiver Item → Prop
  | .live first items => EndsWith whole first items
  | _ => True

theorem Within.append (within : receiver.Within whole) (more : List Item) :
    receiver.Within (whole ++ more) := by
  cases receiver with
  | idle => trivial
  | broken => exact within
  | filling first items => exact StandsAt.append within more
  | live first items => exact StandsAt.append within more

theorem take_comes (caught : receiver.CaughtUp whole) (more : List Item) :
    ∃ next, receiver.take (.comes whole.length more) = some next ∧
      next.CaughtUp (whole ++ more) ∧ (next = .broken ∨ next.Within (whole ++ more)) := by
  cases receiver with
  | idle | filling | broken => exact ⟨.broken, rfl, trivial, .inl rfl⟩
  | live first items =>
    have caught : EndsWith whole first items := caught
    refine ⟨.live first (items ++ more), if_pos caught.length, caught.append more, .inr ?_⟩
    exact (caught.append more).standsAt

def placed (position : Nat) : List (List Item) → List (Portion Item)
  | [] => []
  | chunk :: chunks => .kept position chunk :: placed (position + chunk.length) chunks

def handover (first : Nat) (chunks : List (List Item)) : List (Portion Item) :=
  .begins first :: placed first chunks ++ [.ends (first + chunks.flatten.length)]

/-- These parts complete a handover of the items. -/
inductive Awaits (first : Nat) (items : List Item) : Receiver Item → List (Portion Item) → Prop where
  | before {receiver : Receiver Item} {chunks : List (List Item)} : chunks.flatten = items →
      Awaits first items receiver (handover first chunks)
  | amid {taken : List Item} {chunks : List (List Item)} : taken ++ chunks.flatten = items →
      Awaits first items (.filling first taken)
        (placed (first + taken.length) chunks ++ [.ends (first + items.length)])
  | done : Awaits first items (.live first items) []

variable {first : Nat} {items : List Item}

/-- Each part of a handover is taken in its turn, what is taken is part of the stream, and whoever
is past the handover then has taken all of it. -/
theorem Awaits.take {part : Portion Item} (awaits : Awaits first items receiver (part :: parts)) :
    ∃ next, receiver.take part = some next ∧ Awaits first items next parts ∧
      (∀ whole, EndsWith whole first items → next.Within whole) ∧
      (next.Live → next = .live first items ∧ parts = []) := by
  generalize ahead : part :: parts = all at awaits
  cases awaits with
  | @before _ chunks whole =>
    obtain ⟨rfl, rfl⟩ := List.cons.inj ahead
    refine ⟨.filling first [], rfl, ?_, fun stream ends => ?_, False.elim⟩
    · have amid := @Awaits.amid _ first items [] chunks whole
      rwa [← whole] at amid ⊢
    · obtain ⟨before, rfl, sized⟩ := ends
      exact ⟨before, items, by simp, sized⟩
  | @amid taken chunks whole =>
    cases chunks with
    | nil =>
      obtain ⟨rfl, rfl⟩ := List.cons.inj ahead
      rw [List.flatten_nil, List.append_nil] at whole
      subst whole
      exact ⟨.live first taken, if_pos rfl, .done, fun stream ends => ends.standsAt,
        fun _ => ⟨rfl, rfl⟩⟩
    | cons chunk chunks =>
      obtain ⟨rfl, rfl⟩ := List.cons.inj ahead
      have joined : (taken ++ chunk) ++ chunks.flatten = items := by
        rw [List.append_assoc]
        exact whole
      refine ⟨.filling first (taken ++ chunk), if_pos rfl, ?_, fun stream ends => ?_, False.elim⟩
      · have amid := @Awaits.amid _ first items (taken ++ chunk) chunks joined
        rwa [List.length_append, ← Nat.add_assoc] at amid
      · have stands := ends.standsAt
        rw [← joined] at stands
        exact stands.left
  | done => cases ahead

theorem Awaits.finished (awaits : Awaits first items receiver []) :
    receiver = .live first items := by
  generalize left : ([] : List (Portion Item)) = all at awaits
  cases awaits with
  | before => cases left
  | amid => exact absurd left.symm (List.append_ne_nil_of_right_ne_nil _ (List.cons_ne_nil _ _))
  | done => rfl

theorem Awaits.takes (awaits : Awaits first items receiver parts) :
    receiver.takes parts = some (.live first items) := by
  induction parts generalizing receiver with
  | nil => rw [awaits.finished, takes_nil]
  | cons part rest ih =>
    obtain ⟨next, taken, left, -, -⟩ := awaits.take
    rw [takes_cons, taken, Option.bind_some, ih left]

/-- Whatever was sent first of it is taken, and leaves the receiver as the property says. -/
def Sound (property : Receiver Item → Prop) (parts : List (Portion Item)) : Prop :=
  ∀ front, front <+: parts → ∃ next, takes .idle front = some next ∧ property next

variable {property wider : Receiver Item → Prop}

theorem Sound.nil (idle : property .idle) : Sound property [] := by
  intro front inside
  rw [List.prefix_nil.mp inside]
  exact ⟨.idle, rfl, idle⟩

theorem Sound.mono (sound : Sound property parts)
    (weaker : ∀ receiver, property receiver → wider receiver) : Sound wider parts := by
  intro front inside
  obtain ⟨next, taken, held⟩ := sound front inside
  exact ⟨next, taken, weaker next held⟩

theorem Sound.snoc (sound : Sound property parts) {part : Portion Item}
    (reached : takes .idle parts = some receiver) (taken : receiver.take part = some next)
    (held : property next) : Sound property (parts ++ [part]) := by
  intro front inside
  rcases List.prefix_concat_iff.mp inside with rfl | earlier
  · refine ⟨next, ?_, held⟩
    rw [takes_append, reached, Option.bind_some, takes_cons, taken]
    rfl
  · exact sound front earlier

theorem Sound.all (sound : Sound property parts) :
    ∃ next, takes .idle parts = some next ∧ property next := sound parts (List.prefix_refl _)

end Receiver

end Mult.Foundation
