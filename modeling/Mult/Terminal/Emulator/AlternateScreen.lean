import Mult.Terminal.Emulator.Resizing

/-! What a program does on the alternate screen leaves the normal one as it was. -/

set_option autoImplicit false

namespace Mult.Terminal.Emulator
open Foundation Protocol

def enterAction : Action := privateCsi [[1049]] 'h'

def leaveAction : Action := privateCsi [[1049]] 'l'

/-- What brings the normal screen back: a full reset, or the mode reset either way. -/
def Leaves : Action → Prop
  | .escDispatch intermediates final => intermediates = [] ∧ final = 0x63
  | .csiDispatch params intermediates final =>
      intermediates.head? = some questionMark ∧ final = 'l' ∧ ([47] ∈ params ∨ [1049] ∈ params)
  | _ => False

/-- The alternate screen is shown, and this is the normal one. -/
structure Away (main : Grid) (screen : Screen) : Prop where
  shown : screen.alternateScreen = true
  kept : screen.grid = main

/-- Whatever comes of it, the normal screen is as it was. -/
def Stays (main : Grid) (result : Option Screen) : Prop := ∀ next, result = some next → Away main next

namespace Away

variable {main : Grid} {screen : Screen} (away : Away main screen)

include away

theorem some {next : Screen} (shown : next.alternateScreen = screen.alternateScreen)
    (kept : next.grid = screen.grid) : Stays main (some next) := by
  rintro _ ⟨⟩
  exact ⟨shown.trans away.shown, kept.trans away.kept⟩

theorem withCurrent (grid : Grid) : Away main (screen.withCurrent grid) := by
  rw [Screen.withCurrent, if_pos away.shown]
  exact ⟨away.shown, away.kept⟩

theorem updateGrid (change : Grid → Option Grid) : Stays main (screen.updateGrid change) := by
  intro next updated
  obtain ⟨grid, -, rfl⟩ := Option.map_eq_some_iff.mp updated
  exact away.withCurrent grid

theorem enterAlternateGrid : Away main screen.enterAlternateGrid := by
  have scrolled := away.withCurrent (screen.current.setScrollback 0)
  exact ⟨rfl, scrolled.kept⟩

theorem clearMouseMode (mode : MouseProtocolMode) : Stays main (Option.some (screen.clearMouseMode mode)) := by
  rw [Screen.clearMouseMode]
  split <;> exact away.some rfl rfl

theorem clearMouseEncoding (encoding : MouseProtocolEncoding) :
    Stays main (Option.some (screen.clearMouseEncoding encoding)) := by
  rw [Screen.clearMouseEncoding]
  split <;> exact away.some rfl rfl

theorem ed (mode : Nat) : Stays main (screen.ed mode) := by
  unfold Screen.ed
  split
  case h_4 => exact away.some rfl rfl
  all_goals exact away.updateGrid _

theorem el (mode : Nat) : Stays main (screen.el mode) := by
  unfold Screen.el
  split
  case h_4 => exact away.some rfl rfl
  all_goals exact away.updateGrid _

theorem decset (param : List UInt16) : Stays main (screen.decset param) := by
  unfold Screen.decset
  split
  case h_2 => exact away.updateGrid _
  case h_5 =>
    rintro _ ⟨⟩
    exact away.enterAlternateGrid
  case h_11 =>
    intro next entered
    obtain ⟨cleared, -, entered⟩ := Option.bind_eq_some_iff.mp entered
    cases entered
    have saved := away.withCurrent screen.current.saveCursor
    exact enterAlternateGrid ⟨saved.shown, saved.kept⟩
  all_goals exact away.some rfl rfl

theorem decrst {param : List UInt16} (stays : param ≠ [47] ∧ param ≠ [1049]) :
    Stays main (screen.decrst param) := by
  unfold Screen.decrst
  split
  case h_2 => exact away.updateGrid _
  case h_3 => exact away.clearMouseMode _
  case h_5 => exact absurd rfl stays.1
  case h_6 => exact away.clearMouseMode _
  case h_7 => exact away.clearMouseMode _
  case h_8 => exact away.clearMouseMode _
  case h_9 => exact away.clearMouseEncoding _
  case h_10 => exact away.clearMouseEncoding _
  case h_11 => exact absurd rfl stays.2
  all_goals exact away.some rfl rfl

theorem execute (code : UInt8) : Stays main (screen.execute code) := by
  unfold Screen.execute
  split
  case h_7 => exact away.some rfl rfl
  all_goals exact away.updateGrid _

theorem escDispatch {final : UInt8} (stays : final ≠ 0x63) :
    Stays main (screen.escDispatch final) := by
  unfold Screen.escDispatch
  split
  case h_1 =>
    rintro _ ⟨⟩
    exact away.withCurrent _
  case h_2 =>
    rintro _ ⟨⟩
    exact away.withCurrent _
  case h_5 => exact away.updateGrid _
  case h_6 => exact absurd rfl stays
  all_goals exact away.some rfl rfl

end Away

theorem Stays.bind {main : Grid} {A : Type} {first : Option A} {rest : A → Option Screen}
    (stays : ∀ value, Stays main (rest value)) : Stays main (first >>= rest) := by
  intro next came
  obtain ⟨value, -, came⟩ := Option.bind_eq_some_iff.mp came
  exact stays value next came

theorem Away.foldlM {main : Grid} {A : Type} {step : Screen → A → Option Screen} {items : List A}
    {screen : Screen} (away : Away main screen)
    (stays : ∀ state item, item ∈ items → Away main state → Stays main (step state item)) :
    Stays main (items.foldlM step screen) := by
  induction items generalizing screen with
  | nil =>
    rintro _ ⟨⟩
    exact away
  | cons item rest ih =>
    intro next came
    rw [List.foldlM_cons] at came
    obtain ⟨middle, stepped, came⟩ := Option.bind_eq_some_iff.mp came
    exact ih (stays screen item List.mem_cons_self away middle stepped)
      (fun state item member => stays state item (List.mem_cons_of_mem _ member)) next came

namespace Away

variable {main : Grid} {screen : Screen} (away : Away main screen)

include away

theorem csiDispatch (params : List (List UInt16)) (final : Char) :
    Stays main (screen.csiDispatch params final) := by
  unfold Screen.csiDispatch
  dsimp only
  split
  case h_6 => exact .bind fun _ => away.updateGrid _
  case h_7 => exact .bind fun _ => .bind fun _ => away.updateGrid _
  case h_8 => exact away.ed _
  case h_9 => exact away.el _
  case h_16 => exact .bind fun _ => away.updateGrid _
  case h_17 => exact .bind fun _ => .bind fun _ => away.updateGrid _
  case h_18 => exact away.some rfl rfl
  all_goals exact away.updateGrid _

theorem privateDispatch {params : List (List UInt16)} {final : Char}
    (stays : final = 'l' → [47] ∉ params ∧ [1049] ∉ params) :
    Stays main (screen.privateDispatch params final) := by
  unfold Screen.privateDispatch
  split
  · exact away.ed _
  · exact away.el _
  · exact away.foldlM fun _ param _ held => held.decset param
  · refine away.foldlM fun _ param member held => held.decrst ⟨?_, ?_⟩
    · rintro rfl
      exact (stays rfl).1 member
    · rintro rfl
      exact (stays rfl).2 member
  · exact away.some rfl rfl

theorem perform (widths : CharWidths) {action : Action} (stays : ¬ Leaves action) :
    Stays main (screen.perform widths action) := by
  cases action with
  | print char => exact away.updateGrid fun grid => grid.text widths char
  | execute code => exact away.execute code
  | escDispatch intermediates final =>
    rw [Screen.perform]
    split
    · next plain => exact away.escDispatch fun reset => stays ⟨plain, reset⟩
    · exact away.some rfl rfl
  | csiDispatch params intermediates final =>
    rw [Screen.perform]
    split
    · exact away.csiDispatch params final
    · next first starts =>
      split
      · next mark =>
        refine away.privateDispatch fun reset => ⟨fun member => ?_, fun member => ?_⟩
        · exact stays ⟨starts.trans (congrArg Option.some mark), reset, .inl member⟩
        · exact stays ⟨starts.trans (congrArg Option.some mark), reset, .inr member⟩
      · exact away.some rfl rfl
  | oscDispatch params => exact away.some rfl rfl
  | hook params intermediates final => exact away.some rfl rfl

theorem performAll (widths : CharWidths) {actions : List Action}
    (stays : ∀ action ∈ actions, ¬ Leaves action) :
    Stays main (screen.performAll widths actions) :=
  away.foldlM fun _ action member held => held.perform widths (stays action member)

end Away

theorem enter_spec {size : Size} {screen : Screen} (sound : screen.Sound size)
    (normal : screen.alternateScreen = false) (widths : CharWidths) :
    Succeeds (screen.perform widths enterAction) fun next => next.Sound size ∧
      Away (screen.grid.saveCursor.setScrollback 0) next := by
  obtain ⟨next, entered, soundNext⟩ := sound.perform widths enterAction
  refine .of_eq entered ⟨soundNext, ?_⟩
  have saved : screen.saveCursor = { screen with grid := screen.grid.saveCursor } := by
    rw [Screen.saveCursor, Screen.withCurrent, Screen.current, normal]
    rfl
  have performs : screen.perform widths enterAction = screen.saveCursor.alternateGrid.clear.bind
      fun cleared => some { screen.saveCursor with
        alternateGrid := cleared : Screen }.enterAlternateGrid := by
    show ([[1049]] : List (List UInt16)).foldlM Screen.decset screen = _
    rw [List.foldlM_cons]
    exact bind_pure _
  rw [performs, saved] at entered
  obtain ⟨cleared, -, made⟩ := Option.bind_eq_some_iff.mp entered
  cases made
  refine ⟨rfl, ?_⟩
  simp only [Screen.enterAlternateGrid, Screen.setScrollback, Screen.withCurrent, Screen.current,
    normal, Bool.false_eq_true, ↓reduceIte]

theorem perform_leave (widths : CharWidths) (screen : Screen) :
    screen.performAll widths [leaveAction] = some screen.exitAlternateGrid.restoreCursor :=
  performAll_single rfl

/-- A program that goes to the alternate screen and back leaves the lines of the normal screen and
all that was scrolled out of it as they were, and its cursor where it was. -/
theorem alternate_screen_round_trip {size : Size} {screen : Screen} (sound : screen.Sound size)
    (normal : screen.alternateScreen = false) (widths : CharWidths) (actions : List Action)
    (stays : ∀ action ∈ actions, ¬ Leaves action) :
    Succeeds (screen.performAll widths (enterAction :: actions ++ [leaveAction])) fun next =>
      next.alternateScreen = false ∧
      next.grid = { screen.grid with
        savedPos := screen.grid.pos
        savedOriginMode := screen.grid.originMode
        scrollbackOffset := 0 } := by
  obtain ⟨entered, enters, soundEntered, away⟩ := enter_spec sound normal widths
  obtain ⟨last, performed, -⟩ := soundEntered.performAll widths actions
  have still := away.performAll widths stays last performed
  rw [performAll_append, performAll_cons, enters, Option.bind_some, performed, Option.bind_some,
    perform_leave]
  refine .some ⟨?_, ?_⟩
  · exact alternateScreen_withCurrent _
  · show (last.exitAlternateGrid.withCurrent last.exitAlternateGrid.current.restoreCursor).grid = _
    simp only [Screen.exitAlternateGrid, Screen.withCurrent, Screen.current, Bool.false_eq_true,
      ↓reduceIte, still.kept, Grid.restoreCursor, Grid.setScrollback, Grid.saveCursor,
      Nat.zero_min]

/-- Text on the alternate screen, between text on the normal one. -/
theorem alternate_screen_round_trip_text :
    ∃ screen next, ((Screen.new ⟨2, 2, by decide⟩ 1).bind fun start => start.performAll plainWidths
        [.print 'a']) = some screen ∧
      screen.performAll plainWidths (enterAction :: [.print 'b', .print 'c'] ++ [leaveAction]) =
        some next ∧
      next.grid = { screen.grid with
        savedPos := screen.grid.pos
        savedOriginMode := screen.grid.originMode
        scrollbackOffset := 0 } := by
  have small : Usable ⟨2, 2, by decide⟩ := ⟨by decide, by decide, by decide, by decide⟩
  have shown : ((Screen.new ⟨2, 2, by decide⟩ 1).bind fun start => start.performAll plainWidths
      [.print 'a']).map Screen.alternateScreen = Option.some false := by decide
  obtain ⟨screen, performed, sound⟩ := (Screen.sound_new small 1).bind fun start sound =>
    sound.performAll plainWidths [.print 'a']
  rw [Option.bind_eq_bind] at performed
  rw [performed, Option.map_some, Option.some_inj] at shown
  obtain ⟨next, performs, -, grid⟩ := alternate_screen_round_trip sound shown plainWidths
    [.print 'b', .print 'c'] (by
      intro action member leaves
      rcases List.mem_cons.mp member with rfl | rest
      · exact leaves
      · rw [List.mem_singleton.mp rest] at leaves
        exact leaves)
  exact ⟨screen, next, performed, performs, grid⟩

end Mult.Terminal.Emulator
