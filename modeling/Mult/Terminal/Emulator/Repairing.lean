import Mult.Terminal.Emulator.Parser

/-! The repair that comes before a screen is made narrower, and what a resize does to the screen
that is shown.

The emulator cuts its rows off without a look at the wide characters there, so those which it would
cut are erased first, by output of the client's own.
-/

set_option autoImplicit false

namespace Mult.Terminal

/-- A row of another width: a wide character that is cut goes. -/
def Row.fitted (cols : Nat) (row : Row) : Row :=
  let kept := row.resize cols
  if wideAt row.cells (cols - 1) then { kept with cells := kept.cells.modify (cols - 1) .clear }
  else kept

end Mult.Terminal

namespace Mult.Terminal.Row
open Foundation

variable {row : Row} {length col index : Nat}

theorem getElem?_erased_lt (lt : index < col)
    (apart : index + 1 = col → halfAt row.cells col = false) :
    (row.erased col)[index]? = row.cells[index]? := by
  rw [erased, List.getElem?_modify]
  have parted : (row.parted col)[index]? = row.cells[index]? := by
    rw [parted]
    split
    · rw [List.getElem?_modify]
      simp [show col + 1 ≠ index by omega]
    · split
      · next half =>
        have still : index + 1 ≠ col := fun same => by
          rw [apart same] at half
          cases half
        rw [List.getElem?_modify]
        simp [show col - 1 ≠ index by omega]
      · rfl
  rw [parted]
  simp [show col ≠ index by omega]

theorem getElem?_erased_self (whole : Whole length row) :
    (row.erased col)[col]? = (row.cells[col]?).map Cell.clear := by
  have parted : (row.parted col)[col]? = row.cells[col]? := by
    rw [parted]
    split
    · rw [List.getElem?_modify]
      simp
    · split
      · next half =>
        have positive := whole.paired.half_pos half
        rw [List.getElem?_modify]
        simp [show col - 1 ≠ col by omega]
      · rfl
  rw [erased, List.getElem?_modify, parted]
  simp

/-- A row erased from a wide character on is the same in front of it. -/
structure Blanked (col : Nat) (row next : Row) : Prop where
  before : ∀ index, index < col → next.cells[index]? = row.cells[index]?
  cleared : next.cells[col]? = (row.cells[col]?).map Cell.clear

theorem Blanked.marks {next : Row} (blanked : Blanked col row next) :
    marksAt next.cells col = (false, false) := by
  rw [marksAt, blanked.cleared]
  cases row.cells[col]? with
  | none => rfl
  | some cell => exact Cell.marks_clear cell

theorem blanked_eraseAll (whole : Whole length row) (bounded : length ≤ wordMax)
    (wide : wideAt row.cells col = true) :
    Succeeds (row.eraseAll (List.range' col (length - col))) fun next =>
      Whole length next ∧ Blanked col row next := by
  have inside : col + 1 < length := whole.filled ▸ whole.paired.wide_lt wide
  have single := whole.paired.apart col wide
  obtain ⟨count, more⟩ : ∃ count, length - col = count + 1 := ⟨length - col - 1, by omega⟩
  rw [more, List.range'_succ, eraseAll, List.foldlM_cons]
  obtain ⟨wrapped, erases⟩ := erase_eq whole bounded (show col < length by omega)
  rw [erases, Option.bind_eq_bind, Option.bind_some]
  refine .foldlM ⟨⟨length_erased.trans whole.filled, paired_erased whole (by omega)⟩, ?_⟩ ?_
  · exact ⟨fun index lt => getElem?_erased_lt lt fun _ => single, getElem?_erased_self whole⟩
  · -- What is erased behind that is no half of anything in front.
    rintro next later member ⟨wholeNext, blanked⟩
    obtain ⟨above, below⟩ := List.mem_range'_1.mp member
    obtain ⟨wrapped, erases⟩ := erase_eq wholeNext bounded (show later < length by omega)
    have apart : ∀ index, index ≤ col → index + 1 = later → halfAt next.cells later = false := by
      intro index le same
      obtain rfl : index = col := by omega
      rw [← same, wholeNext.paired.behind, wideAt, blanked.marks]
    refine .of_eq erases
      ⟨⟨length_erased.trans wholeNext.filled, paired_erased wholeNext (by omega)⟩, ?_, ?_⟩
    · intro index lt
      exact (getElem?_erased_lt (by omega) (apart index lt.le)).trans (blanked.before index lt)
    · exact (getElem?_erased_lt (by omega) (apart col (Nat.le_refl _))).trans blanked.cleared

theorem Blanked.fitted {next : Row} (blanked : Blanked col row next) (whole : Whole length row)
    (wholeNext : Whole length next) (narrower : col + 1 < length)
    (wide : wideAt row.cells col = true) : next.resize (col + 1) = row.fitted (col + 1) := by
  have cells : (next.resize (col + 1)).cells =
      (row.resize (col + 1)).cells.modify col .clear := by
    refine List.ext_getElem? fun index => ?_
    rw [List.getElem?_modify, Row.resize, Row.resize, getElem?_resized, getElem?_resized]
    have sized := whole.filled
    have sizedNext := wholeNext.filled
    rcases Nat.lt_trichotomy index col with before | rfl | behind
    · rw [if_pos (by omega), blanked.before index before]
      simp [show col ≠ index by omega, show index < col + 1 by omega]
    · rw [if_pos (by omega), blanked.cleared, List.getElem?_eq_getElem (by omega)]
      simp
    · simp [show ¬ index < col + 1 by omega]
  rw [Row.fitted, Nat.add_sub_cancel, if_pos wide]
  exact congrArg₂ Row.mk cells rfl

theorem fitted_of_narrow {cols : Nat} (narrow : wideAt row.cells (cols - 1) = false) :
    row.fitted cols = row.resize cols := by
  rw [Row.fitted, if_neg (by rw [narrow]; exact Bool.false_ne_true)]

end Mult.Terminal.Row

namespace Mult.Terminal.Emulator
open Foundation Protocol

variable {old size : Size} {grid : Grid} {widths : CharWidths} {screen : Screen}

@[simp] theorem withCurrent_withCurrent (first second : Grid) :
    (screen.withCurrent first).withCurrent second = screen.withCurrent second := by
  by_cases alternate : screen.alternateScreen = true
  · simp [Screen.withCurrent, alternate]
  · simp [Screen.withCurrent, alternate]

@[simp] theorem withCurrent_current : screen.withCurrent screen.current = screen := by
  by_cases alternate : screen.alternateScreen = true
  · rw [Screen.withCurrent, Screen.current, if_pos alternate, if_pos alternate]
  · rw [Screen.withCurrent, Screen.current, if_neg alternate, if_neg alternate]

theorem updateGrid_withCurrent (grid : Grid) (change : Grid → Option Grid) :
    (screen.withCurrent grid).updateGrid change = (change grid).map screen.withCurrent := by
  rw [Screen.updateGrid, current_withCurrent]
  congr 1
  funext next
  exact withCurrent_withCurrent grid next

def eraseFrom (lastCol : Nat) (grid : Grid) (row : Nat) : Option Grid := do
  (← grid.setPos ⟨row, lastCol⟩).eraseRowForward

def repairGrid (split : List Nat) (lastCol : Nat) (grid : Grid) : Option Grid := do
  let grid ← grid.saveCursor.setOriginMode false
  some (← split.foldlM (eraseFrom lastCol) grid).restoreCursor

theorem performAll_eraseFrom {lastCol row : Nat} (colLe : lastCol + 1 ≤ wordMax)
    (rowLe : row + 1 ≤ wordMax) (grid : Grid) :
    (screen.withCurrent grid).performAll widths
        [csi [[.ofNat (row + 1)], [.ofNat (lastCol + 1)]] 'H', csi [[0]] 'K'] =
      (eraseFrom lastCol grid row).map screen.withCurrent := by
  rw [performAll_cons, cup_eq rowLe colLe, updateGrid_withCurrent, eraseFrom]
  cases grid.setPos ⟨row, lastCol⟩ with
  | none => rfl
  | some moved =>
    have erases : (screen.withCurrent moved).perform widths (csi [[0]] 'K') =
        (screen.withCurrent moved).updateGrid Grid.eraseRowForward := rfl
    simp only [Option.map_some, Option.bind_some, performAll_cons, erases,
      updateGrid_withCurrent, Option.bind_eq_bind]
    cases moved.eraseRowForward <;> rfl

theorem performAll_split {lastCol : Nat} (colLe : lastCol + 1 ≤ wordMax) {split : List Nat}
    (rowsLe : ∀ row ∈ split, row + 1 ≤ wordMax) (grid : Grid) :
    (screen.withCurrent grid).performAll widths
        (split.flatMap fun row =>
          [csi [[.ofNat (row + 1)], [.ofNat (lastCol + 1)]] 'H', csi [[0]] 'K']) =
      (split.foldlM (eraseFrom lastCol) grid).map screen.withCurrent := by
  induction split generalizing grid with
  | nil => rfl
  | cons row rest ih =>
    rw [List.flatMap_cons, performAll_append,
      performAll_eraseFrom colLe (rowsLe row List.mem_cons_self), List.foldlM_cons]
    cases eraseFrom lastCol grid row with
    | none => rfl
    | some next => exact ih (fun row member => rowsLe row (List.mem_cons_of_mem _ member)) next

theorem performAll_repairActions {lastCol : Nat} (colLe : lastCol + 1 ≤ wordMax)
    {split : List Nat} (rowsLe : ∀ row ∈ split, row + 1 ≤ wordMax) :
    screen.performAll widths (repairActions split lastCol) =
      screen.updateGrid (repairGrid split lastCol) := by
  have saves : screen.perform widths saveCursorAction =
      some (screen.withCurrent screen.current.saveCursor) := rfl
  have resets : ([[6]] : List (List UInt16)).foldlM Screen.decrst
      (screen.withCurrent screen.current.saveCursor) =
      (screen.current.saveCursor.setOriginMode false).map screen.withCurrent := by
    rw [← updateGrid_withCurrent screen.current.saveCursor fun grid => grid.setOriginMode false]
    rw [List.foldlM_cons]
    exact bind_pure _
  have resetsAction : (screen.withCurrent screen.current.saveCursor).perform widths
      (privateCsi [[6]] 'l') = _ := resets
  rw [repairActions, List.append_assoc, List.cons_append, List.cons_append,
    List.nil_append, performAll_cons, saves, Option.bind_some, performAll_cons, resetsAction,
    Screen.updateGrid, repairGrid]
  cases screen.current.saveCursor.setOriginMode false with
  | none => rfl
  | some free =>
    rw [Option.map_some, Option.bind_some, performAll_append, performAll_split colLe rowsLe,
      Option.bind_eq_bind, Option.bind_some]
    cases split.foldlM (eraseFrom lastCol) free with
    | none => rfl
    | some erased =>
      rw [Option.map_some, Option.bind_some, perform_restoreCursor, Screen.restoreCursor,
        current_withCurrent, withCurrent_withCurrent]
      rfl

/-! ## What the repair leaves of the grid -/

/-- Some of the rows erased from a column on, and nothing else but the cursor changed. -/
structure Mended (lastCol : Nat) (done : List Nat) (grid next : Grid) : Prop where
  same : next = { grid with pos := next.pos, rows := next.rows }
  erased : ∀ index ∈ done, ∀ row, grid.rows[index]? = some row →
    ∃ after, next.rows[index]? = some after ∧ Row.Blanked lastCol row after
  kept : ∀ index, index ∉ done → next.rows[index]? = grid.rows[index]?

namespace Mended

variable {lastCol row : Nat} {done : List Nat} {next : Grid}

theorem refl (lastCol : Nat) (grid : Grid) : Mended lastCol [] grid grid :=
  ⟨rfl, fun _ member => absurd member List.not_mem_nil, fun _ _ => rfl⟩

theorem eraseFrom (mended : Mended lastCol done grid next) (sound : Sound size next)
    (free : next.originMode = false) (rowLt : row < size.rows) (fresh : row ∉ done)
    (wide : ∀ found, grid.rows[row]? = some found → wideAt found.cells lastCol = true) :
    Succeeds (Emulator.eraseFrom lastCol next row) fun last =>
      Mended lastCol (done ++ [row]) grid last ∧ Sound size last ∧ last.originMode = false := by
  have rows := sound.one_le_rows
  have cols := sound.one_le_cols
  obtain ⟨found, there, whole⟩ := sound.exists_row row rowLt
  have original : grid.rows[row]? = some found := by rw [← mended.kept row fresh, there]
  have isWide := wide found original
  have inside := whole.filled ▸ whole.paired.wide_lt isWide
  have sent : next.setPos ⟨row, lastCol⟩ = some { next with pos := ⟨row, lastCol⟩ } := by
    rw [setPos_eq rows cols, free]
    simp only [Bool.false_eq_true, ↓reduceIte, topOf, bottomOf, sound.sized, Nat.zero_le,
      Nat.max_eq_left]
    rw [Nat.min_eq_left (by omega), Nat.min_eq_left (by omega)]
  obtain ⟨blank, erases, wholeBlank, blanked⟩ :=
    Row.blanked_eraseAll whole sound.usable.cols_word isWide
  have moved : Sound size { next with pos := ⟨row, lastCol⟩ } := sound.moved rowLt (by
    dsimp only
    omega)
  have erased : { next with pos := ⟨row, lastCol⟩ : Grid }.eraseRowForward =
      some { next with pos := ⟨row, lastCol⟩, rows := next.rows.set row blank } := by
    simp only [Grid.eraseRowForward, Grid.currentRow, Grid.updateRow, there, sound.sized,
      Option.bind_eq_bind, Option.bind_some, erases]
  have soundLast := moved.eraseRowForward.of_some erased
  have rowIn : row < next.rows.length := sound.filled ▸ rowLt
  refine @Succeeds.of_eq _ _ _ { next with pos := ⟨row, lastCol⟩, rows := next.rows.set row blank }
    ?_ ⟨⟨?_, ?_, ?_⟩, soundLast.1, free⟩
  · rw [Emulator.eraseFrom, sent, Option.bind_eq_bind, Option.bind_some, erased]
  · have same := mended.same
    rw [same]
  · intro index member before foundBefore
    dsimp only
    rcases List.mem_append.mp member with earlier | last
    · have apart : row ≠ index := fun equal => fresh (equal ▸ earlier)
      rw [List.getElem?_set_ne apart]
      exact mended.erased index earlier before foundBefore
    · obtain rfl := List.mem_singleton.mp last
      cases original.symm.trans foundBefore
      exact ⟨blank, List.getElem?_set_self rowIn, blanked⟩
  · intro index outside
    have apart : row ≠ index := fun equal =>
      outside (equal ▸ List.mem_append_right _ List.mem_cons_self)
    dsimp only
    rw [List.getElem?_set_ne apart]
    exact mended.kept index fun earlier => outside (List.mem_append_left _ earlier)

theorem foldlM (split : List Nat) (mended : Mended lastCol done grid next)
    (sound : Sound size next) (free : next.originMode = false)
    (apart : (done ++ split).Nodup) (rowsLt : ∀ row ∈ split, row < size.rows)
    (wide : ∀ row ∈ split, ∀ found, grid.rows[row]? = some found →
      wideAt found.cells lastCol = true) :
    Succeeds (split.foldlM (Emulator.eraseFrom lastCol) next) fun last =>
      Mended lastCol (done ++ split) grid last ∧ Sound size last := by
  induction split generalizing done next with
  | nil =>
    rw [List.append_nil]
    exact .pure ⟨mended, sound⟩
  | cons row rest ih =>
    have fresh : row ∉ done := fun earlier =>
      (List.nodup_append.mp apart).2.2 row earlier row List.mem_cons_self rfl
    rw [List.foldlM_cons]
    refine (mended.eraseFrom sound free (rowsLt row List.mem_cons_self) fresh
      (wide row List.mem_cons_self)).bind fun last held => ?_
    obtain ⟨mendedLast, soundLast, freeLast⟩ := held
    have onward := ih mendedLast soundLast freeLast
      (by rw [List.append_assoc]; exact apart)
      (fun row member => rowsLt row (List.mem_cons_of_mem _ member))
      fun row member => wide row (List.mem_cons_of_mem _ member)
    rwa [List.append_assoc] at onward

end Mended

theorem repairGrid_spec (sound : Sound size grid) (split : List Nat) (lastCol : Nat)
    (apart : split.Nodup) (rowsLt : ∀ row ∈ split, row < size.rows)
    (wide : ∀ row ∈ split, ∀ found, grid.rows[row]? = some found →
      wideAt found.cells lastCol = true) :
    Succeeds (repairGrid split lastCol grid) fun next => Sound size next ∧
      Mended lastCol split { grid with savedPos := grid.pos, savedOriginMode := grid.originMode }
        next ∧ next.pos = grid.pos := by
  have saved := sound.saveCursor
  have free : grid.saveCursor.setOriginMode false = some { grid.saveCursor with
      originMode := false
      pos := ⟨0, 0⟩ } := by
    rw [Grid.setOriginMode, setPos_eq (by exact sound.one_le_rows) (by exact sound.one_le_cols)]
    simp [topOf]
  have start : Sound size { grid.saveCursor with originMode := false, pos := ⟨0, 0⟩ } :=
    (saved.setOriginMode false).of_some free
  obtain ⟨last, folds, mended, soundLast⟩ :=
    Mended.foldlM split (Mended.refl lastCol _) start rfl (by rwa [List.nil_append]) rowsLt wide
  rw [List.nil_append] at mended
  have same := mended.same
  have restored : last.restoreCursor = { grid with
      savedPos := grid.pos
      savedOriginMode := grid.originMode
      rows := last.rows } := by
    rw [same]
    rfl
  refine @Succeeds.of_eq _ _ _ last.restoreCursor ?_ ⟨soundLast.restoreCursor, ⟨?_, ?_, ?_⟩, ?_⟩
  · rw [repairGrid, free, Option.bind_eq_bind, Option.bind_some, folds]
    rfl
  · rw [restored]
  · rw [restored]
    exact mended.erased
  · rw [restored]
    exact mended.kept
  · rw [restored]

/-! ## Resizing what is shown -/

/-- Where the saved cursor is once the repair is done. -/
def savedBehindRepair (screen : Screen) (size : Size) : Pos :=
  if (screen.setScrollback 0).splitRows (size.cols - 1) ≠ [] ∧
      size.cols < screen.current.size.cols then screen.current.pos
  else screen.current.savedPos

theorem cell_eq (screen : Screen) (row col : Nat) :
    (screen.setScrollback 0).cell row col =
      (screen.current.rows[row]?).bind fun row => row.cells[col]? := by
  have shown : (screen.current.setScrollback 0).visibleRows = screen.current.rows := by
    rw [Grid.visibleRows, Grid.setScrollback, Nat.zero_min, Nat.sub_zero, List.drop_length,
      List.take_nil, List.nil_append, Nat.sub_zero, List.take_length]
  rw [Screen.cell, Screen.setScrollback, current_withCurrent, shown]

theorem mem_splitRows (sound : Sound size screen.current) {lastCol index : Nat} {row : Row}
    (there : screen.current.rows[index]? = some row) :
    index ∈ (screen.setScrollback 0).splitRows lastCol ↔ wideAt row.cells lastCol = true := by
  have lt : index < screen.current.size.rows := by
    rw [sound.sized, ← sound.filled]
    exact (List.getElem?_eq_some_iff.mp there).1
  have sized : (screen.setScrollback 0).current.size = screen.current.size := by
    rw [Screen.setScrollback, current_withCurrent]
    rfl
  rw [Screen.splitRows, List.mem_filter, List.mem_range, sized, cell_eq, there,
    Option.bind_some, wideAt, marksAt]
  cases row.cells[lastCol]? with
  | none => simp
  | some cell => simp [lt, Cell.marks]

/-- What is left of the grid that is shown. -/
structure Repaired (screen : Screen) (size : Size) (grid : Grid) : Prop where
  same : grid = { screen.current with
    savedPos := savedBehindRepair screen size
    savedOriginMode := grid.savedOriginMode
    rows := grid.rows }
  filled : grid.rows.length = screen.current.rows.length
  rows : ∀ (index : Nat) (row : Row), screen.current.rows[index]? = some row →
    ∃ after : Row, grid.rows[index]? = some after ∧ wideAt after.cells (size.cols - 1) = false ∧
      after.resize size.cols = row.fitted size.cols

theorem repaired_of_narrow
    (saved : savedBehindRepair screen size = screen.current.savedPos)
    (narrow : ∀ row ∈ screen.current.rows, wideAt row.cells (size.cols - 1) = false) :
    Repaired screen size screen.current := by
  refine ⟨by rw [saved], rfl, fun index row there => ⟨row, there, ?_⟩⟩
  have unsplit := narrow row (List.mem_of_getElem? there)
  exact ⟨unsplit, (Row.fitted_of_narrow unsplit).symm⟩

/-- The repair leaves no wide character for the resize to cut, and else only the saved cursor
changed. -/
theorem repair_spec {vte : Vte} {parser : Parser vte} (sound : parser.screen.Sound old)
    (usable : Usable size) (takes : parser.TakesRepair size) :
    Succeeds (parser.repairWideCellsBeforeNarrowing widths size) fun next =>
      next.screen.Sound old ∧
        ∃ grid, next.screen = parser.screen.withCurrent grid ∧ Repaired parser.screen size grid := by
  obtain ⟨state, screen⟩ := parser
  have current := sound.current
  have small := usable.cols_le
  have tall := current.usable.rows_le
  rw [maxScreenCols] at small
  rw [maxScreenRows] at tall
  have positive := usable.cols_ge
  rw [minScreenCols] at positive
  rw [Parser.repairWideCellsBeforeNarrowing]
  split
  · next wider =>
    -- Nothing is repaired where the screen does not get narrower: a whole row has no wide character
    -- in a column from its last one on.
    refine .some ⟨sound, screen.current, withCurrent_current.symm, ?_⟩
    refine repaired_of_narrow (if_neg fun both => both.2.not_ge wider) ?_
    intro row member
    refine Bool.eq_false_iff.mpr fun wide => ?_
    have whole := current.whole row member
    have := whole.paired.wide_lt wide
    have := whole.filled
    dsimp only at wider
    rw [current.sized] at wider
    omega
  · next narrower =>
    dsimp only at narrower
    -- Scrolling back to where the view was undoes the scrolling to the bottom.
    have back : ∀ next : Grid, next.scrollback = screen.current.scrollback →
        (screen.withCurrent next).setScrollback screen.current.scrollbackOffset =
          screen.withCurrent { next with scrollbackOffset := screen.current.scrollbackOffset } := by
      intro next scrollback
      rw [Screen.setScrollback, current_withCurrent, withCurrent_withCurrent, Grid.setScrollback,
        scrollback, Nat.min_eq_left current.within]
    have viewed : screen.setScrollback 0 =
        screen.withCurrent (screen.current.setScrollback 0) := rfl
    dsimp only [Parser.setScrollback]
    split
    · next none =>
      -- No row is split, and the two moves of the view cancel.
      have restored : (screen.setScrollback 0).setScrollback screen.current.scrollbackOffset =
          screen := by
        rw [viewed, back (screen.current.setScrollback 0) rfl]
        exact withCurrent_current
      refine .some ⟨?_, screen.current, ?_, ?_⟩
      · dsimp only
        rw [restored]
        exact sound
      · dsimp only
        rw [restored, withCurrent_current]
      · refine repaired_of_narrow (if_neg fun both => both.1 none) fun row member => ?_
        obtain ⟨index, there⟩ := List.mem_iff_getElem?.mp member
        refine Bool.eq_false_iff.mpr fun wide => ?_
        have split := (mem_splitRows current there).mpr wide
        rw [none] at split
        exact absurd split List.not_mem_nil
    · next some =>
      -- Some rows are split: this is where the bytes of the repair go through the parser.
      have rowsLt : ∀ row ∈ (screen.setScrollback 0).splitRows (size.cols - 1),
          row < old.rows := by
        intro row member
        have inside := List.mem_range.mp (List.mem_filter.mp member).1
        rwa [Screen.setScrollback, current_withCurrent, Grid.setScrollback, current.sized]
          at inside
      obtain ⟨grid, repairs, soundGrid, mended, pos⟩ := repairGrid_spec
        (current.setScrollback 0) ((screen.setScrollback 0).splitRows (size.cols - 1))
        (size.cols - 1) (List.nodup_range.filter _) rowsLt fun row member found there =>
          (mem_splitRows current there).mp member
      have cut : Parser.cutRows ⟨state, screen⟩ size =
          (screen.setScrollback 0).splitRows (size.cols - 1) := if_neg narrower
      have read := takes (cut ▸ some)
      rw [cut] at read
      have performed : (screen.setScrollback 0).performAll widths (repairActions
          ((screen.setScrollback 0).splitRows (size.cols - 1)) (size.cols - 1)) =
          Option.some (screen.withCurrent grid) := by
        rw [performAll_repairActions (by rw [wordMax]; omega) fun row member => by
          have := rowsLt row member
          rw [wordMax]
          omega]
        rw [viewed] at repairs ⊢
        rw [updateGrid_withCurrent, repairs]
        rfl
      have same := mended.same
      have scrollback : grid.scrollback = screen.current.scrollback := by
        rw [same]
        rfl
      have saved : savedBehindRepair screen size = screen.current.pos :=
        if_pos ⟨some, Nat.not_le.mp narrower⟩
      rw [Parser.process_eq, read, performed, Option.map_some, Option.bind_eq_bind,
        Option.bind_some]
      dsimp only
      rw [back grid scrollback]
      refine .some ⟨sound.withCurrent { soundGrid with within := ?_ }, _, rfl, ?_,
        soundGrid.filled.trans current.filled.symm, ?_⟩
      · rw [scrollback]
        exact current.within
      · rw [saved]
        rw [pos] at same
        rw [same]
        rfl
      · intro index row there
        -- A split row lost the character that would be cut, and the others are as they were.
        by_cases split : index ∈ (screen.setScrollback 0).splitRows (size.cols - 1)
        · obtain ⟨after, found, blanked⟩ := mended.erased index split row there
          have wide := (mem_splitRows current there).mp split
          have marks := blanked.marks
          have whole := current.whole row (List.mem_of_getElem? there)
          have wholeAfter := soundGrid.whole after (List.mem_of_getElem? found)
          have last : size.cols - 1 + 1 = size.cols := by omega
          have cut := blanked.fitted whole wholeAfter (by
            rw [current.sized] at narrower
            omega) wide
          rw [last] at cut
          exact ⟨after, found, by rw [wideAt, marks], cut⟩
        · have narrow := Bool.eq_false_iff.mpr fun wide =>
            split ((mem_splitRows current there).mpr wide)
          exact ⟨row, (mended.kept index split).trans there, narrow,
            (Row.fitted_of_narrow narrow).symm⟩

theorem clampScrollback_eq (within : screen.current.scrollbackOffset ≤
    screen.current.scrollback.length) : screen.clampScrollback = screen := by
  rw [Screen.clampScrollback, Screen.setScrollback, Grid.setScrollback, Nat.min_eq_left within]
  exact withCurrent_current

theorem resizeParser_spec (widths : CharWidths) {vte : Vte} {parser : Parser vte}
    (sound : parser.screen.Sound old) (usable : Usable size) (takes : parser.TakesRepair size) :
    Succeeds (parser.resizeParser widths size) fun next =>
      ∃ grid, Repaired parser.screen size grid ∧ Refitted size grid next.screen.current ∧
        Refitted size parser.screen.hidden next.screen.hidden ∧
        (Fits size grid → Fits size parser.screen.hidden → next.screen.Sound size) := by
  refine (repair_spec sound usable takes).bind fun mended held => ?_
  obtain ⟨soundMended, grid, repairs, repaired⟩ := held
  obtain ⟨next, resizes, current, hidden, fine⟩ := soundMended.setSize usable
  have inside : next.current.scrollbackOffset ≤ next.current.scrollback.length := by
    rw [current.offset_eq, current.scrollback_eq]
    exact soundMended.current.within
  rw [repairs, current_withCurrent] at current fine
  rw [repairs, hidden_withCurrent] at hidden
  rw [hidden_withCurrent] at fine
  rw [Parser.setSize, resizes]
  refine .some ⟨grid, repaired, ?_⟩
  rw [Parser.clampScrollback, clampScrollback_eq inside]
  exact ⟨current, hidden, fine⟩

namespace Repaired

variable (repaired : Repaired screen size grid)

include repaired

theorem exists_row {index : Nat} {after : Row} (found : grid.rows[index]? = some after) :
    ∃ row, screen.current.rows[index]? = some row ∧
      wideAt after.cells (size.cols - 1) = false ∧
      after.resize size.cols = row.fitted size.cols := by
  have inside : index < screen.current.rows.length := by
    rw [← repaired.filled]
    exact (List.getElem?_eq_some_iff.mp found).1
  have there := List.getElem?_eq_getElem inside
  obtain ⟨same, found', narrow, cut⟩ := repaired.rows index _ there
  cases found.symm.trans found'
  exact ⟨_, there, narrow, cut⟩

theorem map_resize :
    grid.rows.map (·.resize size.cols) = screen.current.rows.map (·.fitted size.cols) := by
  refine List.ext_getElem? fun index => ?_
  rw [List.getElem?_map, List.getElem?_map]
  cases found : grid.rows[index]? with
  | none =>
    have outside : screen.current.rows.length ≤ index := by
      rw [← repaired.filled]
      exact List.getElem?_eq_none_iff.mp found
    rw [List.getElem?_eq_none outside]
    rfl
  | some after =>
    obtain ⟨row, there, -, cut⟩ := repaired.exists_row found
    rw [there]
    exact congrArg some cut

theorem fits_iff : Fits size grid ↔ (savedBehindRepair screen size).row < size.rows ∧
    (savedBehindRepair screen size).col ≤ size.cols := by
  have saved : grid.savedPos = savedBehindRepair screen size := by rw [repaired.same]
  rw [← saved]
  refine ⟨fun fits => ⟨fits.savedRow_lt, fits.savedCol_le⟩,
    fun inside => ⟨inside.1, inside.2, fun row member => ?_⟩⟩
  obtain ⟨index, found⟩ := List.mem_iff_getElem?.mp (List.mem_of_mem_take member)
  obtain ⟨-, -, narrow, -⟩ := repaired.exists_row found
  exact narrow

end Repaired

section
variable {vte : Vte} {parser : Parser vte}

/-- A resize leaves an emulator that copes with all output exactly if the saved cursors of both
screens are within the new size and the screen that is hidden has no wide character across its new
edge. -/
theorem resize_safe_iff (sound : parser.screen.Sound old) (usable : Usable size)
    (takes : parser.TakesRepair size) :
    ∃ next, parser.resizeParser widths size = some next ∧
      (Safe widths next.screen ↔
        ((savedBehindRepair parser.screen size).row < size.rows ∧
          (savedBehindRepair parser.screen size).col ≤ size.cols) ∧
        Fits size parser.screen.hidden) := by
  obtain ⟨next, resizes, grid, repaired, current, hidden, fine⟩ :=
    resizeParser_spec widths sound usable takes
  refine ⟨next, resizes, ?_⟩
  rw [← repaired.fits_iff]
  refine ⟨fun safe => ⟨?_, ?_⟩, fun fits => (fine fits.1 fits.2).safe⟩
  · by_contra misfit
    exact not_safe_of_misfit current misfit safe
  · by_contra misfit
    exact not_safe_of_hidden_misfit hidden misfit safe

/-- A resize cuts the lines that are shown off or fills them up, the wide characters that are cut
gone, and keeps the cursor inside and what was scrolled out. -/
theorem resize_shows (sound : parser.screen.Sound old) (usable : Usable size)
    (takes : parser.TakesRepair size) :
    ∃ next, parser.resizeParser widths size = some next ∧
      next.screen.current.rows =
        resized (parser.screen.current.rows.map (·.fitted size.cols)) size.rows (.new size.cols) ∧
      next.screen.current.pos = ⟨min parser.screen.current.pos.row (size.rows - 1),
        min parser.screen.current.pos.col (size.cols - 1)⟩ ∧
      next.screen.current.originMode = parser.screen.current.originMode ∧
      next.screen.current.scrollback = parser.screen.current.scrollback ∧
      next.screen.current.scrollbackOffset = parser.screen.current.scrollbackOffset ∧
      next.screen.hidden.rows =
        resized (parser.screen.hidden.rows.map (·.resize size.cols)) size.rows
          (.new size.cols) := by
  obtain ⟨next, resizes, grid, repaired, current, hidden, -⟩ :=
    resizeParser_spec widths sound usable takes
  have same := repaired.same
  refine ⟨next, resizes, ?_, ?_, ?_, ?_, ?_, hidden.rows_eq⟩
  · rw [current.rows_eq, repaired.map_resize]
  · rw [current.pos_eq, same]
  · rw [current.origin_eq, same]
  · rw [current.scrollback_eq, same]
  · rw [current.offset_eq, same]

end

/-! ## A wide character that the resize would cut -/

inductive SampleState where
  | ground
  | character (code left : Nat)
  | escape
  | csi (params : List UInt16) (intermediates : Bytes)
  deriving DecidableEq

/-- Text in UTF-8, control codes, and the control sequences without strings. -/
def sampleVte : Vte where
  State := SampleState
  start := .ground
  advance
    | .ground, byte =>
        if byte = escapeByte then (.escape, [])
        else if byte < 0x20 then (.ground, [.execute byte])
        else if byte < 0x80 then (.ground, [.print (.ofNat byte.toNat)])
        else if 0xf0 ≤ byte then (.character (byte.toNat - 0xf0) 3, [])
        else if 0xe0 ≤ byte then (.character (byte.toNat - 0xe0) 2, [])
        else (.character (byte.toNat - 0xc0) 1, [])
    | .character code left, byte =>
        if byte < 0x80 ∨ 0xc0 ≤ byte then (.ground, [.print (.ofNat 0xfffd)])
        else
          let code := 64 * code + (byte.toNat - 0x80)
          if left = 1 then (.ground, [.print (.ofNat code)]) else (.character code (left - 1), [])
    | .escape, byte =>
        if byte = 0x5b then (.csi [0] [], []) else (.ground, [.escDispatch [] byte])
    | .csi params intermediates, byte =>
        if byte = escapeByte then (.escape, [])
        else if 0x30 ≤ byte ∧ byte ≤ 0x39 then
          let number := 10 * params.getLastD 0 + (.ofNat byte.toNat - 0x30)
          (.csi (params.dropLast ++ [number]) intermediates, [])
        else if byte = 0x3b then (.csi (params ++ [0]) intermediates, [])
        else if byte < 0x40 then (.csi params (intermediates ++ [byte]), [])
        else (.ground, [.csiDispatch (params.map fun number => [number]) intermediates
          (.ofNat byte.toNat)])

instance : DecidableEq sampleVte.State := inferInstanceAs (DecidableEq SampleState)

/-- Characters from the Hangul Jamo on take up two columns. -/
def sampleWidth (char : Char) : Option (Fin 3) :=
  some (bif char.toNat.blt 0x1100 then ⟨1, Nat.succ_lt_succ (Nat.zero_lt_succ 1)⟩
    else ⟨2, Nat.lt_add_one 2⟩)

theorem sampleWidth_space : sampleWidth ' ' = some 1 := rfl

def sampleWidths : CharWidths := ⟨sampleWidth, sampleWidth_space⟩

def sampleSize : Size := ⟨2, 3, by decide⟩
def narrowSize : Size := ⟨2, 2, by decide⟩

theorem usable_sampleSize : Usable sampleSize := ⟨by decide, by decide, by decide, by decide⟩
theorem usable_narrowSize : Usable narrowSize := ⟨by decide, by decide, by decide, by decide⟩

/-- A letter and a wide character fill the line. -/
def straddling : Option (Parser sampleVte) := do
  (← Parser.new sampleVte sampleSize).process sampleWidths [0x61, 0xe4, 0xb8, 0xad]

theorem straddling_spec : ∃ parser, straddling = some parser ∧ parser.screen.Sound sampleSize ∧
    parser.TakesRepair narrowSize := by
  obtain ⟨screen, makes, sound⟩ := Screen.sound_new usable_sampleSize terminalScrollbackLines
  have starts : Parser.new sampleVte sampleSize = some ⟨sampleVte.start, screen⟩ := by
    rw [Parser.new, makes]
    rfl
  obtain ⟨parser, processes, held⟩ :=
    @Parser.sound_process _ _ ⟨sampleVte.start, screen⟩ sampleWidths sound [0x61, 0xe4, 0xb8, 0xad]
  have reaches : straddling = some parser := by
    rw [straddling, starts]
    exact processes
  have stands : straddling.map (fun parser => (parser.parser, parser.cutRows narrowSize)) =
      some (sampleVte.start, [0]) := by decide +kernel
  rw [reaches, Option.map_some, Option.some_inj, Prod.mk.injEq] at stands
  refine ⟨parser, reaches, held, fun _ => ?_⟩
  rw [stands.1, stands.2]
  decide +kernel

/-- The cursor behind the character is saved where the narrower screen does not reach. -/
theorem resize_safe_iff_straddling : ∃ parser next, straddling = some parser ∧
    parser.resizeParser sampleWidths narrowSize = some next ∧ ¬ Safe sampleWidths next.screen := by
  obtain ⟨parser, reaches, sound, takes⟩ := straddling_spec
  have saves : straddling.map (fun parser => savedBehindRepair parser.screen narrowSize) =
      some ⟨0, 3⟩ := by decide +kernel
  obtain ⟨next, resizes, safe⟩ : ∃ next, parser.resizeParser sampleWidths _ = some next ∧ _ :=
    resize_safe_iff sound usable_narrowSize takes
  refine ⟨parser, next, reaches, resizes, fun isSafe => ?_⟩
  have inside := (safe.mp isSafe).1.2
  rw [reaches, Option.map_some, Option.some_inj] at saves
  rw [saves] at inside
  exact absurd inside (by decide)

/-- The letter stays and the character is gone. -/
theorem resize_shows_straddling : ∃ parser next, straddling = some parser ∧
    parser.resizeParser sampleWidths narrowSize = some next ∧
    next.screen.current.rows.map (fun row => row.cells.map Cell.contents) = [[['a'], []], [[], []]] ∧
    next.screen.current.pos = ⟨0, 1⟩ := by
  obtain ⟨parser, reaches, sound, takes⟩ := straddling_spec
  have fitted : straddling.map (fun parser =>
      ((resized (parser.screen.current.rows.map (·.fitted 2)) 2 (.new 2)).map fun row =>
          row.cells.map Cell.contents, parser.screen.current.pos)) =
      some ([[['a'], []], [[], []]], ⟨0, 3⟩) := by decide +kernel
  obtain ⟨next, resizes, rows, pos, -⟩ :
      ∃ next, parser.resizeParser sampleWidths _ = some next ∧ _ :=
    resize_shows sound usable_narrowSize takes
  rw [reaches, Option.map_some, Option.some_inj, Prod.mk.injEq] at fitted
  refine ⟨parser, next, reaches, resizes, ?_, ?_⟩
  · rw [rows]
    exact fitted.1
  · rw [pos, fitted.2]
    rfl

end Mult.Terminal.Emulator
