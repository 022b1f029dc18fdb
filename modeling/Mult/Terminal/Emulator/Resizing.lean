import Mult.Terminal.Emulator.Soundness

/-! Giving a screen another size: when the emulator still copes with all output behind that, and
when some output makes it fail.
-/

set_option autoImplicit false

namespace Mult.Terminal.Emulator
open Foundation Protocol

variable {old size : Size} {grid : Grid}

/-- The grid can be given the size: the saved cursor is inside, and no wide character would lose
its second half. -/
structure Fits (size : Size) (grid : Grid) : Prop where
  savedRow_lt : grid.savedPos.row < size.rows
  savedCol_le : grid.savedPos.col ≤ size.cols
  uncut : ∀ row ∈ grid.rows.take size.rows, wideAt row.cells (size.cols - 1) = false

/-! ## What a grid is like behind that -/

/-- What is known of a grid that was given a size, fitting or not. -/
structure Refitted (size : Size) (grid next : Grid) : Prop where
  usable : Usable size
  sized : next.size = size
  rows_eq : next.rows = resized (grid.rows.map (·.resize size.cols)) size.rows (.new size.cols)
  pos_eq : next.pos = ⟨min grid.pos.row (size.rows - 1), min grid.pos.col (size.cols - 1)⟩
  saved_eq : next.savedPos = grid.savedPos
  origin_eq : next.originMode = grid.originMode
  top_le : next.scrollTop ≤ next.scrollBottom
  bottom_pos : 0 < next.scrollBottom
  bottom_lt : next.scrollBottom < size.rows
  scrollback_eq : next.scrollback = grid.scrollback
  scrollbackLen_eq : next.scrollbackLen = grid.scrollbackLen
  offset_eq : next.scrollbackOffset = grid.scrollbackOffset

theorem map_wrap_resize (rows : List Row) (changed : Prop) [Decidable changed] (cols : Nat) :
    (if changed then rows.map (·.wrap false) else rows).map (·.resize cols) =
      rows.map (·.resize cols) := by
  split
  · rw [List.map_map]
    rfl
  · rfl

theorem Framed.setSize (framed : Framed old grid) (usable : Usable size) :
    Succeeds (grid.setSize size) (Refitted size grid) := by
  have rows := framed.one_le_rows
  have tall := usable.rows_ge
  have wide := usable.cols_ge
  have bottom := framed.bottom_pos
  rw [minScreenRows] at tall
  rw [minScreenCols] at wide
  rw [Grid.setSize, subWord_of_le (show 1 ≤ size.rows by omega), subWord_of_le rows]
  simp only [Option.bind_eq_bind, Option.bind_some, rowClampTop_eq, map_wrap_resize]
  rw [rowClampBottom_eq (by show 1 ≤ size.rows; omega)]
  simp only [Option.bind_some]
  rw [colClamp_eq (by show 1 ≤ size.cols; omega)]
  have clamped (top bottom : Nat) : (if bottom < top then 0 else top) ≤ bottom := by
    split <;> omega
  refine .some ?_
  constructor
  case usable => exact usable
  case sized => rfl
  case rows_eq => rfl
  case pos_eq => simp [Grid.moveCol, Grid.moveRow, topOf, bottomOf]
  case saved_eq => rfl
  case origin_eq => rfl
  case scrollback_eq => rfl
  case scrollbackLen_eq => rfl
  case offset_eq => rfl
  case top_le => exact clamped ..
  all_goals
    simp only [Grid.moveCol, Grid.moveRow]
    split <;> split <;> omega

namespace Refitted

variable {next : Grid} (refitted : Refitted size grid next)

include refitted

theorem filled : next.rows.length = size.rows := by
  rw [refitted.rows_eq, length_resized]

theorem rows_getElem? (row : Nat) : next.rows[row]? =
    if row < size.rows then
      some (((grid.rows[row]?).map (·.resize size.cols)).getD (.new size.cols))
    else none := by
  rw [refitted.rows_eq, getElem?_resized, List.getElem?_map]

theorem exists_row {row : Nat} (lt : row < size.rows) :
    ∃ found, next.rows[row]? = some found ∧ found.cells.length = size.cols := by
  refine ⟨_, (refitted.rows_getElem? row).trans (if_pos lt), ?_⟩
  cases grid.rows[row]? with
  | none => exact List.length_replicate
  | some found => exact length_resized ..

theorem sound (dormant : Dormant old grid) (fits : Fits size grid) : Sound size next := by
  have framed := dormant.framed
  have tall := refitted.usable.rows_ge
  have wide := refitted.usable.cols_ge
  rw [minScreenRows] at tall
  rw [minScreenCols] at wide
  refine
    { usable := refitted.usable
      sized := refitted.sized
      row_lt := by rw [refitted.pos_eq]; dsimp only; omega
      col_le := by rw [refitted.pos_eq]; dsimp only; omega
      savedRow_lt := by rw [refitted.saved_eq]; exact fits.savedRow_lt
      savedCol_le := by rw [refitted.saved_eq]; exact fits.savedCol_le
      top_le := refitted.top_le
      bottom_pos := refitted.bottom_pos
      bottom_lt := refitted.bottom_lt
      kept := by rw [refitted.scrollback_eq, refitted.scrollbackLen_eq]; exact framed.kept
      within := by rw [refitted.scrollback_eq, refitted.offset_eq]; exact framed.within
      history := by rw [refitted.scrollback_eq]; exact framed.history
      filled := refitted.filled
      whole := ?_ }
  intro row member
  rw [refitted.rows_eq, resized, ← List.map_take] at member
  rcases List.mem_append.mp member with kept | added
  · obtain ⟨before, there, rfl⟩ := List.mem_map.mp kept
    have whole : before.Whole old.cols := by
      rcases dormant with sound | ⟨-, empty⟩
      · exact sound.whole before (List.mem_of_mem_take there)
      · rw [empty, List.take_nil] at there
        exact absurd there List.not_mem_nil
    exact Row.whole_resize whole (fits.uncut before there) (by omega)
  · rw [List.eq_of_mem_replicate added]
    exact Row.whole_new _

end Refitted

/-! ## Output that makes a screen fail -/

/-- Whether the screen copes with whatever output comes. -/
def Safe (widths : CharWidths) (screen : Screen) : Prop :=
  ∀ actions, (screen.performAll widths actions).isSome

theorem performAll_cons (widths : CharWidths) (screen : Screen) (action : Action)
    (rest : List Action) : screen.performAll widths (action :: rest) =
      (screen.perform widths action).bind fun next => next.performAll widths rest :=
  List.foldlM_cons ..

theorem performAll_append (widths : CharWidths) (screen : Screen) (first rest : List Action) :
    screen.performAll widths (first ++ rest) =
      (screen.performAll widths first).bind fun next => next.performAll widths rest :=
  List.foldlM_append ..

theorem Screen.Sound.safe {widths : CharWidths} {screen : Screen} (sound : screen.Sound size) :
    Safe widths screen := fun actions => (sound.performAll widths actions).isSome

theorem Safe.onward {widths : CharWidths} {screen next : Screen} {actions : List Action}
    (safe : Safe widths screen) (performed : screen.performAll widths actions = some next) :
    Safe widths next := by
  intro further
  have whole := safe (actions ++ further)
  rw [performAll_append, performed] at whole
  exact whole

def restoreCursorAction : Action := .escDispatch [] 0x38

def csi (params : List (List UInt16)) (final : Char) : Action := .csiDispatch params [] final

def privateCsi (params : List (List UInt16)) (final : Char) : Action :=
  .csiDispatch params [questionMark] final

section
variable {widths : CharWidths} {screen : Screen}

@[simp] theorem current_withCurrent (grid : Grid) : (screen.withCurrent grid).current = grid := by
  by_cases alternate : screen.alternateScreen = true
  · simp [Screen.withCurrent, Screen.current, alternate]
  · simp [Screen.withCurrent, Screen.current, alternate]

@[simp] theorem hidden_withCurrent (grid : Grid) :
    (screen.withCurrent grid).hidden = screen.hidden := by
  by_cases alternate : screen.alternateScreen = true
  · simp [Screen.withCurrent, Screen.hidden, alternate]
  · simp [Screen.withCurrent, Screen.hidden, alternate]

@[simp] theorem alternateScreen_withCurrent (grid : Grid) :
    (screen.withCurrent grid).alternateScreen = screen.alternateScreen := by
  rw [Screen.withCurrent]
  split <;> rfl

theorem updateGrid_of_some {change : Grid → Option Grid} {grid : Grid}
    (changed : change screen.current = some grid) :
    screen.updateGrid change = some (screen.withCurrent grid) := by
  rw [Screen.updateGrid, changed]
  rfl

theorem updateGrid_of_none {change : Grid → Option Grid}
    (failed : change screen.current = none) : screen.updateGrid change = none := by
  rw [Screen.updateGrid, failed]
  rfl

theorem not_safe_of_failing {actions : List Action} {next : Screen} (action : Action)
    (reached : screen.performAll widths actions = some next)
    (fails : next.perform widths action = none) : ¬ Safe widths screen := by
  intro safe
  have failed := safe.onward reached [action]
  rw [performAll_cons, fails] at failed
  cases failed

theorem performAll_single {action : Action} {next : Screen}
    (performed : screen.perform widths action = some next) :
    screen.performAll widths [action] = some next := by
  rw [performAll_cons, performed]
  rfl

theorem perform_restoreCursor :
    screen.performAll widths [restoreCursorAction] = some screen.restoreCursor :=
  performAll_single rfl

theorem not_safe_of_savedRow (below : screen.current.rows.length ≤ screen.current.savedPos.row) :
    ¬ Safe widths screen := by
  refine not_safe_of_failing (csi [[0]] 'K') perform_restoreCursor
    (updateGrid_of_none ?_)
  rw [Screen.restoreCursor, current_withCurrent, Grid.eraseRowForward, Grid.currentRow,
    Grid.updateRow, Grid.restoreCursor, List.getElem?_eq_none below]
  rfl

/-- A cursor saved to the right of where text ends is out of its row once it is restored. -/
theorem not_safe_of_savedCol {row : Row}
    (there : screen.current.rows[screen.current.savedPos.row]? = some row)
    (filled : row.cells.length = screen.current.size.cols)
    (right : screen.current.size.cols < screen.current.savedPos.col) : ¬ Safe widths screen := by
  have inserts : screen.restoreCursor.perform widths (csi [[1]] '@') =
      screen.restoreCursor.updateGrid fun grid => grid.insertCells 1 := rfl
  refine not_safe_of_failing _ perform_restoreCursor (inserts.trans (updateGrid_of_none ?_))
  have beyond : ¬ screen.current.savedPos.col < screen.current.size.cols := right.not_gt
  have outside : insertAt row.cells screen.current.savedPos.col .blank = none :=
    if_neg (by rw [filled]; exact right.not_ge)
  rw [Screen.restoreCursor, current_withCurrent, Grid.insertCells, Grid.restoreCursor,
    if_neg beyond]
  simp only [Grid.currentRow, Grid.updateRow, there, Option.bind_eq_bind, Option.bind_some,
    Bool.false_eq_true, ↓reduceIte, repeated_succ, Row.insert, outside, Option.map_none,
    Option.bind_none]

theorem firstParam_word {number : Nat} (small : number ≤ wordMax) (before rest : List (List UInt16)) :
    firstParam (before ++ [.ofNat number] :: rest) before.length = number := by
  rw [wordMax] at small
  simp only [firstParam, List.getElem?_append_right (Nat.le_refl _), Nat.sub_self,
    List.getElem?_cons_zero, Option.bind_some, List.head?_cons, Option.elim_some]
  exact UInt16.toNat_ofNat_of_lt (show number < 65536 by omega)

theorem cup_eq {row col : Nat} (rowLe : row + 1 ≤ wordMax) (colLe : col + 1 ≤ wordMax) :
    screen.perform widths (csi [[.ofNat (row + 1)], [.ofNat (col + 1)]] 'H') =
      screen.updateGrid fun grid => grid.setPos ⟨row, col⟩ := by
  have first := firstParam_word rowLe [] [[.ofNat (col + 1)]]
  have second := firstParam_word colLe [[.ofNat (row + 1)]] []
  simp only [List.nil_append, List.length_nil] at first
  simp only [List.singleton_append, List.length_singleton] at second
  show screen.cup (canonicalizeParam _ 0 1) (canonicalizeParam _ 1 1) = _
  rw [canonicalizeParam, canonicalizeParam, first, second, if_neg (Nat.succ_ne_zero _),
    if_neg (Nat.succ_ne_zero _), Screen.cup, subWord_of_le (Nat.succ_pos _), Option.bind_eq_bind,
    Option.bind_some, subWord_of_le (Nat.succ_pos _)]
  rfl

/-- Erasing a wide character that has lost its second half reaches out of its row. -/
theorem erase_cut {row : Row} {cols : Nat} (filled : row.cells.length = cols)
    (wide : wideAt row.cells (cols - 1) = true) : row.erase (cols - 1) = none := by
  have positive : 0 < cols := by
    rcases Nat.eq_zero_or_pos cols with rfl | positive
    · rw [List.length_eq_zero_iff.mp filled] at wide
      cases wide
    · exact positive
  have inside : cols - 1 < row.cells.length := by omega
  have there := List.getElem?_eq_getElem inside
  have isWide := (Row.marksAt_some there).1
  have outside : ∀ next, addWord (cols - 1) 1 = some next → row.updateCell next .clear = none := by
    intro next sum
    rw [addWord] at sum
    split at sum
    · cases sum
      rw [Row.updateCell, updateAt, if_neg (by omega)]
      rfl
    · cases sum
  have unwiden : row.clearWide (cols - 1) = none := by
    simp only [Row.clearWide, there, Option.bind_eq_bind, Option.bind_some, isWide, wide,
      ↓reduceIte]
    cases sum : addWord (cols - 1) 1 with
    | none => rfl
    | some next => exact outside next sum
  simp only [Row.erase, there, Option.bind_eq_bind, Option.bind_some, unwiden, Option.bind_none]

theorem not_safe_of_cut (usable : Usable size) (sized : screen.current.size = size) {index : Nat}
    {row : Row} (lt : index < size.rows) (there : screen.current.rows[index]? = some row)
    (filled : row.cells.length = size.cols) (wide : wideAt row.cells (size.cols - 1) = true) :
    ¬ Safe widths screen := by
  have tall := usable.rows_le
  have wideLe := usable.cols_le
  have wideGe := usable.cols_ge
  rw [maxScreenRows] at tall
  rw [maxScreenCols] at wideLe
  rw [minScreenCols] at wideGe
  have oneRow : 1 ≤ screen.current.size.rows := by rw [sized]; omega
  have oneCol : 1 ≤ screen.current.size.cols := by rw [sized]; omega
  -- The cursor goes to the last column of that row, whatever rows it was confined to.
  have free : ∃ grid, { screen.current with originMode := false : Grid }.setPos ⟨0, 0⟩ =
      some grid ∧ grid.rows = screen.current.rows ∧ grid.size = screen.current.size ∧
        grid.originMode = false :=
    ⟨_, setPos_eq (by exact oneRow) (by exact oneCol) _, rfl, rfl, rfl⟩
  obtain ⟨unconfined, frees, rows, size', origin⟩ := free
  have sent : unconfined.setPos ⟨index, size.cols - 1⟩ =
      some { unconfined with pos := ⟨index, size.cols - 1⟩ } := by
    rw [setPos_eq (by rw [size']; exact oneRow) (by rw [size']; exact oneCol), origin, size',
      sized]
    simp only [Bool.false_eq_true, ↓reduceIte, topOf, bottomOf, size', sized, Nat.zero_le,
      Nat.max_eq_left, Nat.min_self]
    rw [Nat.min_eq_left (by omega)]
  have toOrigin : screen.perform widths (privateCsi [[6]] 'l') =
      some (screen.withCurrent unconfined) := by
    show ([[6]] : List (List UInt16)).foldlM Screen.decrst screen = _
    rw [List.foldlM_cons]
    have reset : screen.decrst [6] = screen.updateGrid fun grid => grid.setOriginMode false := rfl
    rw [reset, updateGrid_of_some frees]
    rfl
  have moved : (screen.withCurrent unconfined).perform widths
      (csi [[.ofNat (index + 1)], [.ofNat (size.cols - 1 + 1)]] 'H') =
      some ((screen.withCurrent unconfined).withCurrent
        { unconfined with pos := ⟨index, size.cols - 1⟩ }) := by
    rw [cup_eq (by rw [wordMax]; omega) (by rw [wordMax]; omega)]
    refine updateGrid_of_some ?_
    rw [current_withCurrent, sent]
  have reached : screen.performAll widths [privateCsi [[6]] 'l',
      csi [[.ofNat (index + 1)], [.ofNat (size.cols - 1 + 1)]] 'H'] =
      some ((screen.withCurrent unconfined).withCurrent
        { unconfined with pos := ⟨index, size.cols - 1⟩ }) := by
    rw [performAll_cons, toOrigin, Option.bind_some]
    exact performAll_single moved
  refine not_safe_of_failing (csi [[0]] 'K') reached (updateGrid_of_none ?_)
  · have one : size.cols - (size.cols - 1) = 1 := by omega
    rw [current_withCurrent, Grid.eraseRowForward, Grid.currentRow, Grid.updateRow, rows, there]
    simp only [Option.bind_eq_bind, Option.bind_some, Row.eraseAll, size', sized, one]
    rw [List.range'_one, List.foldlM_cons, erase_cut filled wide]
    rfl

end

/-- The mode that brings up the hidden grid. -/
def toggleAction (screen : Screen) : Action :=
  privateCsi [[47]] (if screen.alternateScreen then 'l' else 'h')

theorem toggle (widths : CharWidths) {screen : Screen} (rows : screen.hidden.rows ≠ []) :
    ∃ next, screen.performAll widths [toggleAction screen] = some next ∧
      next.current = screen.hidden := by
  by_cases alternate : screen.alternateScreen = true
  · refine ⟨screen.exitAlternateGrid, performAll_single ?_, ?_⟩
    · rw [toggleAction, if_pos alternate]
      rfl
    · simp [Screen.exitAlternateGrid, Screen.current, Screen.hidden, alternate]
  · refine ⟨screen.enterAlternateGrid, performAll_single ?_, ?_⟩
    · rw [toggleAction, if_neg alternate]
      rfl
    · simp only [Screen.hidden, alternate, Bool.false_eq_true, ↓reduceIte] at rows ⊢
      simp [Screen.enterAlternateGrid, Screen.setScrollback, Screen.withCurrent, Screen.current,
        alternate, Grid.allocateRows, rows]

theorem not_safe_of_misfit {widths : CharWidths} {screen : Screen} {before : Grid}
    (refitted : Refitted size before screen.current)
    (misfit : ¬ Fits size before) : ¬ Safe widths screen := by
  by_cases row : before.savedPos.row < size.rows
  · by_cases col : before.savedPos.col ≤ size.cols
    · have cut : ∃ row ∈ before.rows.take size.rows, wideAt row.cells (size.cols - 1) = true := by
        by_contra none
        push Not at none
        exact misfit ⟨row, col, fun row member => Bool.eq_false_iff.mpr (none row member)⟩
      obtain ⟨found, member, wide⟩ := cut
      obtain ⟨index, lt, rfl⟩ := List.mem_iff_getElem.mp member
      rw [List.length_take] at lt
      rw [List.getElem_take] at wide
      have there : screen.current.rows[index]? = some (before.rows[index].resize size.cols) := by
        rw [refitted.rows_getElem?, if_pos (by omega), List.getElem?_eq_getElem (by omega)]
        rfl
      refine not_safe_of_cut refitted.usable refitted.sized (by omega) there
        (length_resized ..) ?_
      have last : size.cols - 1 < size.cols := by
        have := refitted.usable.cols_ge
        rw [minScreenCols] at this
        omega
      rw [wideAt, Row.resize, marksAt_resized, if_pos last]
      exact wide
    · obtain ⟨found, there, filled⟩ := refitted.exists_row row
      rw [← refitted.saved_eq] at there col
      refine not_safe_of_savedCol there ?_ ?_
      · rw [refitted.sized, filled]
      · rw [refitted.sized]
        exact Nat.not_le.mp col
  · refine not_safe_of_savedRow ?_
    rw [refitted.filled, refitted.saved_eq]
    exact Nat.not_lt.mp row

theorem not_safe_of_hidden_misfit {widths : CharWidths} {screen : Screen} {before : Grid}
    (refitted : Refitted size before screen.hidden)
    (misfit : ¬ Fits size before) : ¬ Safe widths screen := by
  have rows : screen.hidden.rows ≠ [] := by
    intro empty
    have tall := refitted.usable.rows_ge
    have filled := refitted.filled
    rw [empty, List.length_nil] at filled
    rw [minScreenRows] at tall
    omega
  obtain ⟨toggled, performed, current⟩ := toggle widths rows
  rw [← current] at refitted
  exact fun safe => not_safe_of_misfit refitted misfit (safe.onward performed)

theorem Screen.Sound.setSize {screen : Screen} (sound : screen.Sound old) (usable : Usable size) :
    Succeeds (screen.setSize size) fun next =>
      Refitted size screen.current next.current ∧ Refitted size screen.hidden next.hidden ∧
      (Fits size screen.current → Fits size screen.hidden → next.Sound size) := by
  rw [Screen.setSize]
  refine (sound.main.toFramed.setSize usable).bind fun main refittedMain => ?_
  refine (sound.alternate.framed.setSize usable).bind fun alternate refittedAlternate => .some ?_
  have fine (fitsMain : Fits size screen.grid) (fitsAlternate : Fits size screen.alternateGrid) :
      Screen.Sound size { screen with grid := main, alternateGrid := alternate } := by
    have soundAlternate := refittedAlternate.sound sound.alternate fitsAlternate
    exact
      { main := refittedMain.sound (.inl sound.main) fitsMain
        alternate := .inl soundAlternate
        shown := fun _ => soundAlternate }
  by_cases alternateScreen : screen.alternateScreen = true
  · simp only [Screen.current, Screen.hidden, alternateScreen, ↓reduceIte]
    simp only [alternateScreen] at fine
    exact ⟨refittedAlternate, refittedMain, fun current hidden => fine hidden current⟩
  · rw [Bool.not_eq_true] at alternateScreen
    simp only [Screen.current, Screen.hidden, alternateScreen, Bool.false_eq_true, ↓reduceIte]
    simp only [alternateScreen] at fine
    exact ⟨refittedMain, refittedAlternate, fine⟩

end Mult.Terminal.Emulator
