import Mult.Foundation.Programs

/-! Programs that end: what holds where they do, whether they succeed or fail. -/

set_option autoImplicit false

namespace Mult.Foundation

def Outcome.ofExcept {E A : Type} : Except E A → Outcome E A
  | .ok value => .ok value
  | .error failure => .error failure

namespace Program

variable {S E A B : Type}

/-- From a state that satisfies the condition the program ends, without waiting, and its result and
the state it leaves are as described. -/
def Ends (before : S → Prop) (program : Program S E A) (after : Except E A → S → Prop) : Prop :=
  ∀ state, before state → match program state with
    | (.ok value, next) => after (.ok value) next
    | (.error error, next) => after (.error error) next
    | (.waiting, _) => False

variable {before : S → Prop} {after : Except E A → S → Prop}

theorem Ends.pure {value : A} (holds : ∀ state, before state → after (.ok value) state) :
    Ends before (Pure.pure value : Program S E A) after := holds

theorem Ends.fail {error : E} (holds : ∀ state, before state → after (.error error) state) :
    Ends before (Program.fail error : Program S E A) after := holds

theorem Ends.bind {Q : Except E A → S → Prop} {last : Except E B → S → Prop}
    {first : Program S E A} {rest : A → Program S E B} (begins : Ends before first Q)
    (onward : ∀ value, Ends (Q (.ok value)) (rest value) last)
    (failed : ∀ error state, Q (.error error) state → last (.error error) state) :
    Ends before (first >>= rest) last := by
  intro state held
  have ended := begins state held
  change match Program.bind first rest state with
    | (.ok value, next) => last (.ok value) next
    | (.error error, next) => last (.error error) next
    | (.waiting, _) => False
  unfold Program.bind
  cases ran : first state with
  | mk outcome next =>
    rw [ran] at ended
    cases outcome with
    | ok value => exact onward value next ended
    | error error => exact failed error next ended
    | waiting => exact ended

theorem Ends.attempt {Q : Except E A → S → Prop} {last : Except E B → S → Prop}
    {program : Program S E A} {rest : Except E A → Program S E B} (ends : Ends before program Q)
    (onward : ∀ result, Ends (Q result) (rest result) last) :
    Ends before (program.attempt >>= rest) last := by
  intro state held
  have ended := ends state held
  change match Program.bind program.attempt rest state with
    | (.ok value, next) => last (.ok value) next
    | (.error error, next) => last (.error error) next
    | (.waiting, _) => False
  unfold Program.bind Program.attempt
  cases ran : program state with
  | mk outcome next =>
    rw [ran] at ended
    cases outcome with
    | ok value => exact onward (.ok value) next ended
    | error error => exact onward (.error error) next ended
    | waiting => exact ended

theorem Ends.weaken {condition : S → Prop} {stronger : Except E A → S → Prop}
    {program : Program S E A} (ends : Ends condition program stronger)
    (holds : ∀ state, before state → condition state)
    (weaker : ∀ result state, stronger result state → after result state) :
    Ends before program after := by
  intro state held
  have ended := ends state (holds state held)
  cases ran : program state with
  | mk outcome next =>
    rw [ran] at ended
    cases outcome with
    | ok value => exact weaker _ _ ended
    | error error => exact weaker _ _ ended
    | waiting => exact ended

theorem Ends.given {program : Program S E A} (condition : S → Prop)
    (holds : ∀ state, before state → condition state) (ends : Ends condition program after) :
    Ends before program after :=
  ends.weaken holds fun _ _ held => held

theorem Ends.and {also : Except E A → S → Prop} {program : Program S E A}
    (ends : Ends before program after) (other : Ends before program also) :
    Ends before program fun result state => after result state ∧ also result state := by
  intro state held
  have first := ends state held
  have second := other state held
  cases ran : program state with
  | mk outcome next =>
    rw [ran] at first second
    cases outcome with
    | ok value => exact ⟨first, second⟩
    | error error => exact ⟨first, second⟩
    | waiting => exact first

theorem Ends.knowing {fact : Prop} {program : Program S E A}
    (ends : fact → Ends before program after) :
    Ends (fun state => before state ∧ fact) program after :=
  fun state held => ends held.2 state held.1

theorem Ends.result {program : Program S E A} (ends : Ends before program after) {state : S}
    (held : before state) :
    ∃ result, (program state).1 = .ofExcept result ∧ after result (program state).2 := by
  have ended := ends state held
  cases ran : program state with
  | mk outcome next =>
    rw [ran] at ended
    cases outcome with
    | ok value => exact ⟨.ok value, rfl, ended⟩
    | error error => exact ⟨.error error, rfl, ended⟩
    | waiting => exact ended.elim

/-- A program whose errors are told in other terms. -/
def mapError {F : Type} (tell : E → F) (program : Program S E A) : Program S F A := fun state =>
  match program state with
  | (.ok value, next) => (.ok value, next)
  | (.error error, next) => (.error (tell error), next)
  | (.waiting, next) => (.waiting, next)

theorem Ends.mapError {F : Type} {tell : E → F} {program : Program S E A}
    {Q : Except F A → S → Prop}
    (ends : Ends before program fun result => Q (result.mapError tell)) :
    Ends before (program.mapError tell) Q := by
  intro state held
  have ended := ends state held
  unfold Program.mapError
  cases ran : program state with
  | mk outcome next =>
    rw [ran] at ended
    cases outcome with
    | ok value => exact ended
    | error error => exact ended
    | waiting => exact ended

end Program

end Mult.Foundation
