import Mult.Client.Sizes

/-! When a pane is resized to the area it is shown in, and when that is not done again. -/

set_option autoImplicit false

namespace Mult.Client
open Foundation Protocol
open Foundation.Program (Keeps)
open Project (PtyKey)

/-- The bound on the rows is never cut short where it is taken as a number of sixteen bits. -/
theorem boundedScreenDimensions_eq (rows cols : Nat) :
    boundedScreenDimensions rows cols =
      let cols := min (max cols minScreenCols) maxScreenCols
      (max (min (min rows maxScreenRows) (maxScreenCells / cols)) minScreenRows, cols) := by
  unfold boundedScreenDimensions
  dsimp only
  generalize within : min (max cols minScreenCols) maxScreenCols = width
  have limits : 2 ≤ width ∧ width ≤ 1000 := by
    rw [← within, minScreenCols, maxScreenCols]
    omega
  rw [Prod.mk.injEq, maxScreenRows, maxScreenCells, minScreenRows]
  refine ⟨?_, rfl⟩
  have wide : 200 ≤ 200000 / width := (Nat.le_div_iff_mul_le (by omega)).mpr (by omega)
  rcases Nat.lt_or_ge width 4 with narrow | broad
  · have cases : width = 2 ∨ width = 3 := by omega
    rcases cases with rfl | rfl <;> omega
  · have few : 200000 / width ≤ 200000 / 4 := Nat.div_le_div_left broad (by omega)
    omega

theorem PtyDimensions.clamped_eq_iff (size : PtyDimensions) :
    size.clamped = size ↔ minScreenRows ≤ size.rows ∧ size.rows ≤ maxScreenRows ∧
      minScreenCols ≤ size.cols ∧ size.cols ≤ maxScreenCols ∧
      size.rows * size.cols ≤ maxScreenCells := by
  obtain ⟨rows, cols⟩ := size
  rw [PtyDimensions.clamped, boundedScreenDimensions_eq]
  simp only [PtyDimensions.mk.injEq, minScreenRows, maxScreenRows, minScreenCols, maxScreenCols,
    maxScreenCells]
  constructor
  · rintro ⟨height, width⟩
    rw [width] at height
    have few : rows ≤ 200000 / cols := by
      have wide : 200 ≤ 200000 / cols := (Nat.le_div_iff_mul_le (by omega)).mpr (by omega)
      omega
    exact ⟨by omega, by omega, by omega, by omega, (Nat.le_div_iff_mul_le (by omega)).mp few⟩
  · rintro ⟨tall, low, wide, narrow, cells⟩
    have width : min (max cols 2) 1000 = cols := by omega
    have few : rows ≤ 200000 / cols := (Nat.le_div_iff_mul_le (by omega)).mpr cells
    rw [width]
    exact ⟨by omega, rfl⟩

theorem PtyDimensions.clamped_clamped (size : PtyDimensions) :
    size.clamped.clamped = size.clamped := by
  rw [clamped_eq_iff, clamped, boundedScreenDimensions_eq]
  simp only [minScreenRows, maxScreenRows, minScreenCols, maxScreenCols, maxScreenCells]
  generalize within : min (max size.cols 2) 1000 = width
  have wide : 200 ≤ 200000 / width := (Nat.le_div_iff_mul_le (by omega)).mpr (by omega)
  refine ⟨by omega, by omega, by omega, by omega, ?_⟩
  exact (Nat.le_div_iff_mul_le (by omega)).mp (by omega)

/-- Whether resizing would change the screen; a pane without one counts as changed. -/
def ptyDimensionsChanged (runtime : PtyRuntime) (terminal : PtyKey) (size : PtyDimensions) : Bool :=
  match runtime.parser terminal with
  | some parser => parser.size ≠ size
  | none => true

variable {H : Type} (around : Surroundings) (fuel : Nat)

def resizeIfChanged (terminal : PtyKey) (size : PtyDimensions) : ClientProgram H Bool := do
  if !(← view fun runtime => ptyDimensionsChanged runtime terminal size) then pure false
  else do
    let _ ← (resize around fuel terminal size).attempt
    pure true

variable {terminal : PtyKey} {size : PtyDimensions} {right : PtyDimensions → Prop}
variable {world middle : World H}

variable {around fuel}

/-- The screen is given the size before anything is sent, and what is right of it and of the
daemon's answers stays right. -/
theorem sized_resize (asked : right size.clamped) (clamped : ∀ size, right size → right size.clamped)
    (answers : Answers terminal right world) :
    Sized terminal right (resize around fuel terminal size world).2 := by
  have resized : Sized terminal right
      { world with runtime := world.runtime.resizeParser terminal size.clamped } := by
    refine ⟨⟨answers.deferred, answers.coming⟩, ?_⟩
    rw [PtyRuntime.resizeParser, PtyRuntime.editPane]
    dsimp only
    rw [Function.update_self]
    exact PtyPane.hasSize_resize (clamped _ asked)
  unfold resize
  refine Keeps.afterUpdate ?_ resized
  refine (sized_look _).andThen fun attachment => ?_
  cases attachment with
  | none => exact .pure trivial
  | some pane =>
    refine (sized_ensureConnected around clamped fuel).andThen fun _ =>
      (sized_leaseForPane pane).andThen fun lease =>
        (sized_writeNonReplayable _ _ _).attempt.andThen fun result => ?_
    cases result with
    | ok done => exact .pure trivial
    | error error => exact (sized_pushEvent _).andThen fun _ => .fail error

theorem resizeIfChanged_of_unchanged
    (unchanged : ptyDimensionsChanged world.runtime terminal size = false) :
    resizeIfChanged around fuel terminal size world = (.ok false, world) := by
  unfold resizeIfChanged
  simp only [bind, Program.bind, view, Program.read, unchanged]
  rfl

theorem ptyDimensionsChanged_iff (screen : (world.runtime.panes terminal).HasSize right) :
    ∃ shown, right shown ∧ ptyDimensionsChanged world.runtime terminal size = decide (shown ≠ size) := by
  obtain ⟨parser, present, is⟩ := screen
  refine ⟨parser.size, is, ?_⟩
  rw [ptyDimensionsChanged, PtyRuntime.parser, present]

end Mult.Client
