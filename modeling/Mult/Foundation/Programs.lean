import Mathlib.Logic.Basic

/-! Programs that change a state step by step, may fail, and may wait for something that has not
happened yet, and what they keep of it.
-/

set_option autoImplicit false

namespace Mult.Foundation

/-- How far a program has come. -/
inductive Outcome (E A : Type) where
  | ok (value : A)
  | error (error : E)
  | waiting
  deriving DecidableEq, Repr

def Program (S E A : Type) : Type := S → Outcome E A × S

namespace Program

variable {S E A B : Type}

def pure (value : A) : Program S E A := fun state => (.ok value, state)

/-- The second program goes on where the first has succeeded. -/
def bind (first : Program S E A) (rest : A → Program S E B) : Program S E B := fun state =>
  match first state with
  | (.ok value, next) => rest value next
  | (.error error, next) => (.error error, next)
  | (.waiting, next) => (.waiting, next)

instance : Monad (Program S E) where
  pure := pure
  bind := bind

def fail (error : E) : Program S E A := fun state => (.error error, state)

def wait : Program S E A := fun state => (.waiting, state)

def read (view : S → A) : Program S E A := fun state => (.ok (view state), state)

def update (change : S → S) : Program S E Unit := fun state => (.ok (), change state)

/-- A change of the state that also yields a value. -/
def perform (change : S → A × S) : Program S E A := fun state =>
  (.ok (change state).1, (change state).2)

/-- The result of a program that may fail, failure included. -/
def attempt (program : Program S E A) : Program S E (Except E A) := fun state =>
  match program state with
  | (.ok value, next) => (.ok (.ok value), next)
  | (.error error, next) => (.ok (.error error), next)
  | (.waiting, next) => (.waiting, next)

/-- The program keeps what holds of the state, and a value it yields is as described. -/
def Keeps (kept : S → Prop) (program : Program S E A) (yields : A → Prop) : Prop :=
  ∀ state, kept state →
    kept (program state).2 ∧ ∀ value, (program state).1 = .ok value → yields value

variable {kept : S → Prop} {yields : A → Prop}

theorem Keeps.pure {value : A} (known : yields value) :
    Keeps kept (Pure.pure value : Program S E A) yields := by
  intro state held
  refine ⟨held, ?_⟩
  rintro _ ⟨⟩
  exact known

theorem Keeps.fail (error : E) : Keeps kept (Program.fail error : Program S E A) yields :=
  fun _ held => ⟨held, fun _ other => nomatch other⟩

theorem Keeps.wait : Keeps kept (Program.wait : Program S E A) yields :=
  fun _ held => ⟨held, fun _ other => nomatch other⟩

theorem Keeps.bind {last : B → Prop} {first : Program S E A} {rest : A → Program S E B}
    (begins : Keeps kept first yields)
    (onward : ∀ value, yields value → Keeps kept (rest value) last) :
    Keeps kept (first >>= rest) last := by
  intro state held
  obtain ⟨still, known⟩ := begins state held
  change kept (Program.bind first rest state).2 ∧
    ∀ value, (Program.bind first rest state).1 = .ok value → last value
  unfold Program.bind
  cases ran : first state with
  | mk outcome next =>
    rw [ran] at still known
    cases outcome with
    | ok value => exact onward value (known value rfl) next still
    | error error => exact ⟨still, fun _ other => nomatch other⟩
    | waiting => exact ⟨still, fun _ other => nomatch other⟩

theorem Keeps.read {view : S → A} (known : ∀ state, kept state → yields (view state)) :
    Keeps kept (Program.read view : Program S E A) yields := by
  intro state held
  refine ⟨held, ?_⟩
  rintro _ ⟨⟩
  exact known state held

theorem Keeps.update {change : S → S} {yields : Unit → Prop} (known : yields ())
    (allowed : ∀ state, kept state → kept (change state)) :
    Keeps kept (Program.update change : Program S E Unit) yields :=
  fun state held => ⟨allowed state held, fun _ _ => known⟩

theorem Keeps.perform {change : S → A × S}
    (allowed : ∀ state, kept state → kept (change state).2 ∧ yields (change state).1) :
    Keeps kept (Program.perform change : Program S E A) yields := by
  intro state held
  refine ⟨(allowed state held).1, ?_⟩
  rintro _ ⟨⟩
  exact (allowed state held).2

theorem Keeps.attempt {program : Program S E A} (runs : Keeps kept program yields) :
    Keeps kept program.attempt fun result => ∀ value, result = .ok value → yields value := by
  intro state held
  obtain ⟨still, known⟩ := runs state held
  unfold Program.attempt
  cases ran : program state with
  | mk outcome next =>
    rw [ran] at still known
    cases outcome with
    | ok value =>
      refine ⟨still, ?_⟩
      rintro _ ⟨⟩ _ ⟨⟩
      exact known value rfl
    | error error =>
      refine ⟨still, ?_⟩
      rintro _ ⟨⟩ _ ⟨⟩
    | waiting => exact ⟨still, fun _ other => nomatch other⟩

theorem Keeps.afterUpdate {change : S → S} {rest : Unit → Program S E A}
    (runs : Keeps kept (rest ()) fun _ => True) {state : S} (held : kept (change state)) :
    kept ((Program.update change >>= rest) state).2 :=
  (runs (change state) held).1

theorem Keeps.andThen {last : B → Prop} {first : Program S E A} {rest : A → Program S E B}
    (begins : Keeps kept first yields) (onward : ∀ value, Keeps kept (rest value) last) :
    Keeps kept (first >>= rest) last :=
  begins.bind fun value _ => onward value

end Program

end Mult.Foundation
