import Mathlib

/-! Machines whose steps report what they did, and the rules by which what one step
preserves holds of every run.
-/

set_option autoImplicit false

namespace Mult.Foundation

/-- A start state and a partial step; a step reports the events it is observed to cause. -/
structure Machine (State Action Event : Type) where
  start : State → Prop
  step : State → Action → Option (State × List Event)

namespace Machine

variable {State Action Event : Type} (machine : Machine State Action Event)

/-- The runs whose steps are all allowed, with the state they reach and all they reported. -/
inductive Run (allowed : State → Action → Prop) : State → List Event → Prop where
  | start {state : State} : machine.start state → Run allowed state []
  | step {state next : State} {past events : List Event} {action : Action} :
      Run allowed state past → allowed state action →
      machine.step state action = some (next, events) → Run allowed next (past ++ events)

abbrev Reaches (state : State) (past : List Event) : Prop :=
  machine.Run (fun _ _ => True) state past

def follow (allowed : State → Action → Prop)
    [∀ state action, Decidable (allowed state action)] (state : State) :
    List Action → Option (State × List Event)
  | [] => some (state, [])
  | action :: rest =>
      if allowed state action then
        (machine.step state action).bind fun (next, events) =>
          (follow allowed next rest).map fun (last, more) => (last, events ++ more)
      else none

variable {machine} {allowed : State → Action → Prop}

theorem Run.reaches {state : State} {past : List Event} (run : machine.Run allowed state past) :
    machine.Reaches state past := by
  induction run with
  | start initial => exact .start initial
  | step _ _ stepped ih => exact .step ih trivial stepped

theorem Run.mono {wider : State → Action → Prop} {state : State} {past : List Event}
    (run : machine.Run allowed state past)
    (within : ∀ state action, allowed state action → wider state action) :
    machine.Run wider state past := by
  induction run with
  | start initial => exact .start initial
  | step _ permitted stepped ih => exact .step ih (within _ _ permitted) stepped

/-- What holds at the start and is preserved by every allowed step holds in every run. -/
theorem Run.invariant {motive : State → List Event → Prop}
    (initially : ∀ state, machine.start state → motive state [])
    (preserved : ∀ (state next : State) (past events : List Event) (action : Action),
      machine.Run allowed state past → motive state past → allowed state action →
      machine.step state action = some (next, events) → motive next (past ++ events))
    {state : State} {past : List Event} (run : machine.Run allowed state past) :
    motive state past := by
  induction run with
  | start initial => exact initially _ initial
  | step earlier permitted stepped ih => exact preserved _ _ _ _ _ earlier ih permitted stepped

/-- As `Run.invariant`, for a property of states alone. -/
theorem Run.stateInvariant {motive : State → Prop}
    (initially : ∀ state, machine.start state → motive state)
    (preserved : ∀ (state next : State) (events : List Event) (action : Action),
      motive state → machine.step state action = some (next, events) → motive next)
    {state : State} {past : List Event} (run : machine.Run allowed state past) : motive state :=
  run.invariant (motive := fun state _ => motive state) initially
    fun _ _ _ _ _ _ held _ stepped => preserved _ _ _ _ held stepped

theorem Run.follow [∀ state action, Decidable (allowed state action)] {state last : State}
    {past more : List Event} (run : machine.Run allowed state past) {actions : List Action}
    (followed : machine.follow allowed state actions = some (last, more)) :
    machine.Run allowed last (past ++ more) := by
  induction actions generalizing state past more with
  | nil =>
    cases followed
    rw [List.append_nil]
    exact run
  | cons action rest ih =>
    simp only [Machine.follow] at followed
    split at followed
    · next permitted =>
      simp only [Option.bind_eq_some_iff, Option.map_eq_some_iff] at followed
      obtain ⟨⟨next, events⟩, stepped, ⟨reached, tail⟩, onward, same⟩ := followed
      cases same
      rw [← List.append_assoc]
      exact ih (run.step permitted stepped) onward
    · cases followed

def onward (machine : Machine State Action Event) (state : State) : Machine State Action Event :=
  { machine with start := fun first => first = state }

theorem Run.onward {state last : State} {past more : List Event}
    (run : machine.Run allowed state past) (later : (machine.onward state).Run allowed last more) :
    machine.Run allowed last (past ++ more) := by
  induction later with
  | start initial =>
    cases initial
    rw [List.append_nil]
    exact run
  | step _ permitted stepped ih =>
    rw [← List.append_assoc]
    exact ih.step permitted stepped

variable (machine)

theorem exists_run (allowed : State → Action → Prop)
    [∀ state action, Decidable (allowed state action)] {state : State}
    (initial : machine.start state) (actions : List Action) (test : State → List Event → Bool)
    (passed : (machine.follow allowed state actions).any (fun last => test last.1 last.2) = true) :
    ∃ last past, machine.Run allowed last past ∧ test last past = true := by
  obtain ⟨⟨last, past⟩, followed, tested⟩ := (Option.any_eq_true ..).mp passed
  exact ⟨last, past, (Run.start initial).follow followed, tested⟩

theorem exists_reaches {state : State} (initial : machine.start state) (actions : List Action)
    (test : State → List Event → Bool)
    (passed : (machine.follow (fun _ _ => True) state actions).any
      (fun last => test last.1 last.2) = true) :
    ∃ last past, machine.Reaches last past ∧ test last past = true :=
  machine.exists_run _ initial actions test passed

/-- As `exists_run`, for what comes after a state that is reached first. -/
theorem exists_onward (allowed : State → Action → Prop)
    [∀ state action, Decidable (allowed state action)] {state : State}
    (initial : machine.start state) (actions further : List Action)
    (test : State → List Event → State → List Event → Bool)
    (passed : (machine.follow (fun _ _ => True) state actions).any (fun middle =>
      ((machine.onward middle.1).follow allowed middle.1 further).any fun last =>
        test middle.1 middle.2 last.1 last.2) = true) :
    ∃ middle past last more, machine.Reaches middle past ∧
      (machine.onward middle).Run allowed last more ∧ test middle past last more = true := by
  obtain ⟨⟨middle, past⟩, followed, onward⟩ := (Option.any_eq_true ..).mp passed
  obtain ⟨⟨last, more⟩, continued, tested⟩ := (Option.any_eq_true ..).mp onward
  exact ⟨middle, past, last, more, (Run.start initial).follow followed,
    (Run.start rfl).follow continued, tested⟩

end Machine

end Mult.Foundation
