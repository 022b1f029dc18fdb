import Mult.Terminal.Emulator.Screen

/-! What the emulator keeps true of its grids, whatever the output: the cursor and the region that
scrolls lie inside, all rows are whole, and nothing indexes out of them.
-/

set_option autoImplicit false

namespace Mult.Terminal.Emulator
open Foundation Protocol

/-- The sizes a screen is given. -/
structure Usable (size : Size) : Prop where
  rows_ge : minScreenRows ≤ size.rows
  rows_le : size.rows ≤ maxScreenRows
  cols_ge : minScreenCols ≤ size.cols
  cols_le : size.cols ≤ maxScreenCols

/-- The cursor, the saved one and the scrolling region are inside, and the view of what was
scrolled out. -/
structure Framed (size : Size) (grid : Grid) : Prop where
  usable : Usable size
  sized : grid.size = size
  row_lt : grid.pos.row < size.rows
  col_le : grid.pos.col ≤ size.cols
  savedRow_lt : grid.savedPos.row < size.rows
  savedCol_le : grid.savedPos.col ≤ size.cols
  top_le : grid.scrollTop ≤ grid.scrollBottom
  bottom_pos : 0 < grid.scrollBottom
  bottom_lt : grid.scrollBottom < size.rows
  kept : grid.scrollback.length ≤ grid.scrollbackLen
  within : grid.scrollbackOffset ≤ grid.scrollback.length
  history : ∀ row ∈ grid.scrollback, Paired row.cells

/-- As many whole rows as the grid is high. -/
structure Sound (size : Size) (grid : Grid) : Prop extends Framed size grid where
  filled : grid.rows.length = size.rows
  whole : ∀ row ∈ grid.rows, row.Whole size.cols

variable {size : Size} {grid : Grid}

namespace Usable

theorem cols_word (usable : Usable size) : size.cols ≤ wordMax :=
  usable.cols_le.trans (by decide)

end Usable

namespace Framed

variable (framed : Framed size grid)

include framed

theorem one_le_rows : 1 ≤ grid.size.rows := by
  rw [framed.sized]
  exact Nat.le_trans (by decide) framed.usable.rows_ge

theorem one_le_cols : 1 ≤ grid.size.cols := by
  rw [framed.sized]
  exact Nat.le_trans (by decide) framed.usable.cols_ge

end Framed

namespace Sound

variable (sound : Sound size grid)

include sound

theorem moved {pos : Pos} (row_lt : pos.row < size.rows) (col_le : pos.col ≤ size.cols) :
    Sound size { grid with pos := pos } :=
  { sound with row_lt := row_lt, col_le := col_le }

theorem withRows {rows : List Row} (filled : rows.length = size.rows)
    (whole : ∀ row ∈ rows, row.Whole size.cols) : Sound size { grid with rows := rows } :=
  { sound with filled := filled, whole := whole }

theorem exists_row (row : Nat) (lt : row < size.rows) :
    ∃ found, grid.rows[row]? = some found ∧ found.Whole size.cols := by
  have inside : row < grid.rows.length := sound.filled ▸ lt
  exact ⟨_, List.getElem?_eq_getElem inside, sound.whole _ (List.getElem_mem inside)⟩

theorem newRow_whole : grid.newRow.Whole size.cols := by
  rw [Grid.newRow, sound.sized]
  exact Row.whole_new size.cols

theorem updateRow_of {row : Nat} {found : Row} (there : grid.rows[row]? = some found)
    {change : Row → Option Row} (keeps : Succeeds (change found) (Row.Whole size.cols)) :
    Succeeds (grid.updateRow row change) fun next => Sound size next ∧ next.pos = grid.pos := by
  simp only [Grid.updateRow, there, Option.bind_eq_bind, Option.bind_some]
  refine keeps.bind fun changed wholeNext => .some ⟨?_, rfl⟩
  refine sound.withRows ((List.length_set ..).trans sound.filled) fun other member => ?_
  rcases List.mem_or_eq_of_mem_set member with old | rfl
  · exact sound.whole other old
  · exact wholeNext

theorem updateRow {row : Nat} (lt : row < size.rows) {change : Row → Option Row}
    (keeps : ∀ row, row.Whole size.cols → Succeeds (change row) (Row.Whole size.cols)) :
    Succeeds (grid.updateRow row change) fun next =>
      Sound size next ∧ next.pos = grid.pos := by
  obtain ⟨found, there, whole⟩ := sound.exists_row row lt
  exact sound.updateRow_of there (keeps found whole)

theorem currentRow {change : Row → Option Row}
    (keeps : ∀ row, row.Whole size.cols → Succeeds (change row) (Row.Whole size.cols)) :
    Succeeds (grid.currentRow change) fun next => Sound size next ∧ next.pos = grid.pos :=
  sound.updateRow sound.row_lt keeps

theorem exists_drawingCell (pos : Pos) (row_lt : pos.row < size.rows)
    (col_lt : pos.col < size.cols) : ∃ cell, grid.drawingCell pos = some cell := by
  obtain ⟨row, there, whole⟩ := sound.exists_row _ row_lt
  obtain ⟨cell, found⟩ := Row.exists_cell whole col_lt
  refine ⟨cell, ?_⟩
  simp only [Grid.drawingCell, there, Option.bind_eq_bind, Option.bind_some, found]

theorem setScrollback (rows : Nat) : Sound size (grid.setScrollback rows) :=
  { sound with within := Nat.min_le_right .. }

theorem saveCursor : Sound size grid.saveCursor :=
  { sound with savedRow_lt := sound.row_lt, savedCol_le := sound.col_le }

theorem restoreCursor : Sound size grid.restoreCursor :=
  { sound with row_lt := sound.savedRow_lt, col_le := sound.savedCol_le }

end Sound

/-! ## Moving the cursor -/

/-- The first row that a move upwards may reach. -/
def topOf (grid : Grid) (limited : Bool) : Nat := if limited then grid.scrollTop else 0

/-- The last row that a move downwards may reach. -/
def bottomOf (grid : Grid) (limited : Bool) : Nat :=
  if limited then grid.scrollBottom else grid.size.rows - 1

theorem rowClampTop_eq (grid : Grid) (limited : Bool) : grid.rowClampTop limited =
    (topOf grid limited - grid.pos.row, grid.moveRow (max grid.pos.row (topOf grid limited))) := by
  rw [Grid.rowClampTop, topOf, Grid.moveRow]
  cases limited with
  | false => simp
  | true =>
    by_cases above : grid.pos.row < grid.scrollTop
    · rw [if_pos ⟨rfl, above⟩, if_pos rfl, Nat.max_eq_right above.le]
    · rw [if_neg fun both => above both.2, if_pos rfl,
        Nat.max_eq_left (Nat.not_lt.mp above), Nat.sub_eq_zero_of_le (Nat.not_lt.mp above)]

section
variable (rows : 1 ≤ grid.size.rows) (cols : 1 ≤ grid.size.cols)

include rows in
theorem rowClampBottom_eq (limited : Bool) : grid.rowClampBottom limited =
    some (grid.pos.row - bottomOf grid limited,
      grid.moveRow (min grid.pos.row (bottomOf grid limited))) := by
  have chosen (bottom : Nat) : (if bottom < grid.pos.row then
      (grid.pos.row - bottom, { grid with pos := ⟨bottom, grid.pos.col⟩ })
      else (0, grid)) = (grid.pos.row - bottom, grid.moveRow (min grid.pos.row bottom)) := by
    rw [Grid.moveRow]
    by_cases below : bottom < grid.pos.row
    · rw [if_pos below, Nat.min_eq_right below.le]
    · rw [if_neg below, Nat.min_eq_left (Nat.not_lt.mp below),
        Nat.sub_eq_zero_of_le (Nat.not_lt.mp below)]
  cases limited with
  | false =>
    rw [Grid.rowClampBottom, if_neg Bool.false_ne_true, subWord_of_le rows]
    exact congrArg some (chosen _)
  | true =>
    rw [Grid.rowClampBottom, if_pos rfl]
    exact congrArg some (chosen _)

include cols in
theorem colClamp_eq : grid.colClamp =
    some (grid.moveCol (min grid.pos.col (grid.size.cols - 1))) := by
  rw [Grid.colClamp, subWord_of_le cols, Option.bind_eq_bind, Option.bind_some, Grid.moveCol]
  by_cases right : grid.size.cols - 1 < grid.pos.col
  · rw [if_pos right, Nat.min_eq_right right.le]
  · rw [if_neg right, Nat.min_eq_left (Nat.not_lt.mp right)]

include rows in
theorem rowClamp_eq : grid.rowClamp =
    some (grid.moveRow (min grid.pos.row (grid.size.rows - 1))) := by
  rw [Grid.rowClamp, subWord_of_le rows, Option.bind_eq_bind, Option.bind_some, Grid.moveRow]
  by_cases below : grid.size.rows - 1 < grid.pos.row
  · rw [if_pos below, Nat.min_eq_right below.le]
  · rw [if_neg below, Nat.min_eq_left (Nat.not_lt.mp below)]

include rows cols in
theorem setPos_eq (pos : Pos) : grid.setPos pos = some { grid with
    pos :=
      ⟨min (max (if grid.originMode then saturatingAdd pos.row grid.scrollTop else pos.row)
          (topOf grid grid.originMode)) (bottomOf grid grid.originMode),
        min pos.col (grid.size.cols - 1)⟩ } := by
  rw [Grid.setPos]
  dsimp only
  rw [rowClampTop_eq]
  dsimp only
  rw [rowClampBottom_eq (by exact rows), Option.bind_eq_bind, Option.bind_some]
  dsimp only
  rw [colClamp_eq (by exact cols)]
  rfl

end

namespace Sound

variable (sound : Sound size grid)

include sound

theorem topOf_lt (limited : Bool) : topOf grid limited < size.rows := by
  have top := sound.top_le.trans_lt sound.bottom_lt
  cases limited with
  | false => exact (Nat.zero_le _).trans_lt top
  | true => exact top

theorem bottomOf_lt (limited : Bool) : bottomOf grid limited < size.rows := by
  cases limited with
  | false =>
    have rows := sound.one_le_rows
    have sized := sound.sized
    simp only [bottomOf, Bool.false_eq_true, ↓reduceIte, sized] at rows ⊢
    omega
  | true => exact sound.bottom_lt

theorem lastCol_le : grid.size.cols - 1 ≤ size.cols := by
  rw [sound.sized]
  exact Nat.sub_le ..

theorem setPos (pos : Pos) : Succeeds (grid.setPos pos) (Sound size) := by
  refine .of_eq (setPos_eq sound.one_le_rows sound.one_le_cols pos) (sound.moved ?_ ?_)
  · exact (Nat.min_le_right ..).trans_lt (sound.bottomOf_lt _)
  · exact (Nat.min_le_right ..).trans sound.lastCol_le

theorem setOriginMode (mode : Bool) : Succeeds (grid.setOriginMode mode) (Sound size) := by
  have switched : Sound size { grid with originMode := mode } := { sound with }
  exact switched.setPos ⟨0, 0⟩

theorem moveRow {row : Nat} (lt : row < size.rows) : Sound size (grid.moveRow row) :=
  sound.moved lt sound.col_le

theorem moveCol {col : Nat} (le : col ≤ size.cols) : Sound size (grid.moveCol col) :=
  sound.moved sound.row_lt le

/-- Moving the cursor anywhere in its row and then back in keeps the grid sound. -/
theorem colClamp (col : Nat) : Succeeds (grid.moveCol col).colClamp (Sound size) := by
  refine .of_eq (colClamp_eq (by exact sound.one_le_cols)) (sound.moveCol ?_)
  exact (Nat.min_le_right ..).trans sound.lastCol_le

theorem rowIncClamp (count : Nat) : Succeeds (grid.rowIncClamp count) (Sound size) := by
  rw [Grid.rowIncClamp, rowClampBottom_eq (by exact sound.one_le_rows)]
  exact .some (sound.moveRow ((Nat.min_le_right ..).trans_lt (sound.bottomOf_lt _)))

theorem rowDecClamp (count : Nat) : Sound size (grid.rowDecClamp count) := by
  rw [Grid.rowDecClamp, rowClampTop_eq]
  refine sound.moveRow (Nat.max_lt.mpr ⟨?_, sound.topOf_lt _⟩)
  exact (Nat.sub_le ..).trans_lt sound.row_lt

theorem rowSet (row : Nat) : Succeeds (grid.rowSet row) (Sound size) := by
  refine .of_eq (rowClamp_eq (by exact sound.one_le_rows)) (sound.moveRow ?_)
  exact (Nat.min_le_right ..).trans_lt (sound.bottomOf_lt false)

theorem colDec (count : Nat) : Sound size (grid.colDec count) :=
  sound.moveCol ((Nat.sub_le ..).trans sound.col_le)

theorem colTab : Succeeds grid.colTab (Sound size) := by
  have small : grid.pos.col - grid.pos.col % 8 + 8 ≤ wordMax := by
    have inside := sound.col_le.trans sound.usable.cols_le
    rw [maxScreenCols] at inside
    rw [wordMax]
    omega
  rw [Grid.colTab, addWord_of_le small]
  exact sound.colClamp _

/-! ## Scrolling -/

/-- A change of the rows that keeps the cursor where it is. -/
abbrev Rearranged (size : Size) (pos : Pos) (next : Grid) : Prop :=
  Sound size next ∧ next.pos = pos

theorem scrollUpOne : Succeeds grid.scrollUpOne (Rearranged size grid.pos) := by
  have bottom := sound.bottom_lt
  have top := sound.top_le
  refine (succeeds_insertAt (by rw [sound.filled]; exact bottom) sound.whole
    sound.newRow_whole).bind fun rows inserted => ?_
  obtain ⟨length, whole⟩ := inserted
  rw [sound.filled] at length
  have inside : grid.scrollTop < rows.length := by omega
  rw [List.getElem?_eq_getElem inside, Option.bind_eq_bind, Option.bind_some]
  refine (succeeds_removeAt inside whole).bind fun left removed => ?_
  obtain ⟨shorter, wholeLeft⟩ := removed
  have filled : left.length = size.rows := by omega
  split
  · refine .some ⟨{ sound with
      filled := filled
      whole := wholeLeft
      kept := ?_
      within := ?_
      history := ?_ }, rfl⟩
    · dsimp only
      rw [List.length_drop]
      omega
    · split
      · exact Nat.min_le_left ..
      · next still =>
        rw [Nat.eq_zero_of_not_pos still]
        exact Nat.zero_le _
    · intro row member
      rcases List.mem_append.mp (List.mem_of_mem_drop member) with old | new
      · exact sound.history row old
      · rw [List.mem_singleton.mp new]
        exact (whole _ (List.getElem_mem inside)).paired
  · exact .some ⟨sound.withRows filled wholeLeft, rfl⟩

theorem repeated {step : Grid → Option Grid}
    (rearranges : ∀ grid, Sound size grid → Succeeds (step grid) (Rearranged size grid.pos))
    (count : Nat) : Succeeds (Foundation.repeated step count grid) (Rearranged size grid.pos) := by
  refine succeeds_repeated (fun state held => ?_) count ⟨sound, rfl⟩
  rw [← held.2]
  exact rearranges state held.1

theorem scrollUp (count : Nat) : Succeeds (grid.scrollUp count) (Rearranged size grid.pos) := by
  have top : grid.scrollTop ≤ grid.size.rows := by
    rw [sound.sized]
    exact (sound.top_le.trans_lt sound.bottom_lt).le
  rw [Grid.scrollUp, subWord_of_le top]
  exact sound.repeated (fun grid sound => sound.scrollUpOne) _

theorem insertLine {place : Grid → Nat} (inside : place grid < size.rows) :
    Succeeds (grid.insertLine place) (Rearranged size grid.pos) := by
  refine (succeeds_removeAt (by rw [sound.filled]; exact sound.bottom_lt) sound.whole).bind
    fun rows removed => ?_
  obtain ⟨shorter, whole⟩ := removed
  rw [sound.filled] at shorter
  refine (succeeds_insertAt (by omega) whole sound.newRow_whole).bind fun filled inserted => ?_
  obtain ⟨length, wholeFilled⟩ := inserted
  have next : Sound size { grid with rows := filled } := sound.withRows (by omega) wholeFilled
  exact next.updateRow next.bottom_lt fun row whole => .some (whole.wrap false)

theorem scrollDown (count : Nat) : Succeeds (grid.scrollDown count) (Rearranged size grid.pos) :=
  sound.repeated (fun _ sound => sound.insertLine (sound.top_le.trans_lt sound.bottom_lt)) count

theorem insertLines (count : Nat) :
    Succeeds (grid.insertLines count) (Rearranged size grid.pos) :=
  sound.repeated (fun _ sound => sound.insertLine sound.row_lt) count

theorem deleteLine : Succeeds grid.deleteLine (Rearranged size grid.pos) := by
  refine (succeeds_insertAt (by rw [sound.filled]; exact sound.bottom_lt) sound.whole
    sound.newRow_whole).bind fun rows inserted => ?_
  obtain ⟨length, whole⟩ := inserted
  rw [sound.filled] at length
  have row := sound.row_lt
  refine (succeeds_removeAt (by omega) whole).bind fun left removed => ?_
  obtain ⟨shorter, wholeLeft⟩ := removed
  exact .some ⟨sound.withRows (by omega) wholeLeft, rfl⟩

theorem deleteLines (count : Nat) :
    Succeeds (grid.deleteLines count) (Rearranged size grid.pos) := by
  have row : grid.pos.row ≤ grid.size.rows := by
    rw [sound.sized]
    exact sound.row_lt.le
  rw [Grid.deleteLines, subWord_of_le row]
  exact sound.repeated (fun _ sound => sound.deleteLine) _

theorem setScrollRegion (top bottom : Nat) :
    Succeeds (grid.setScrollRegion top bottom) (Sound size) := by
  have rows := sound.one_le_rows
  have tall := sound.usable.rows_ge
  have sized := sound.sized
  rw [minScreenRows] at tall
  have last : 0 < grid.size.rows - 1 ∧ grid.size.rows - 1 < size.rows := by
    rw [sized]
    omega
  rw [Grid.setScrollRegion, subWord_of_le rows]
  refine .some ?_
  split
  · next inside =>
    have lower := Nat.min_le_right bottom (grid.size.rows - 1)
    exact { sound with
      row_lt := (inside.trans_le lower).trans last.2
      col_le := Nat.zero_le _
      top_le := inside.le
      bottom_pos := (Nat.zero_le top).trans_lt inside
      bottom_lt := lower.trans_lt last.2 }
  · exact { sound with
      row_lt := last.1.trans last.2
      col_le := Nat.zero_le _
      top_le := Nat.zero_le _
      bottom_pos := last.1
      bottom_lt := last.2 }

theorem rowIncScroll : Succeeds (grid.rowIncScroll 1) fun after =>
    Sound size after.2 ∧ after.1 ≤ grid.pos.row ∧ after.2.pos.col = grid.pos.col := by
  have row := sound.row_lt
  have bottom := sound.bottom_pos
  have small := sound.usable.rows_le
  rw [maxScreenRows] at small
  have next : saturatingAdd grid.pos.row 1 = grid.pos.row + 1 := Nat.min_eq_left (by
    rw [wordMax]
    omega)
  have moved : Sound size (grid.moveRow (min (saturatingAdd grid.pos.row 1)
      (bottomOf grid grid.inScrollRegion))) :=
    sound.moveRow ((Nat.min_le_right ..).trans_lt (sound.bottomOf_lt _))
  rw [Grid.rowIncScroll, rowClampBottom_eq (by exact sound.one_le_rows)]
  simp only [Option.bind_eq_bind, Option.bind_some]
  split
  · next inRegion =>
    have region : grid.scrollTop ≤ grid.pos.row ∧ grid.pos.row ≤ grid.scrollBottom :=
      of_decide_eq_true inRegion
    refine (moved.scrollUp _).bind fun scrolled held => .some ⟨held.1, ?_, ?_⟩
    · simp only [inRegion, bottomOf, ↓reduceIte, Grid.moveRow, next]
      omega
    · rw [held.2]
      rfl
  · exact .some ⟨moved, Nat.zero_le _, rfl⟩

theorem rowDecScroll : Succeeds (grid.rowDecScroll 1) (Sound size) := by
  have small := sound.usable.rows_le
  have top := sound.topOf_lt grid.inScrollRegion
  rw [maxScreenRows] at small
  have moved : Sound size
      (grid.moveRow (max (grid.pos.row - 1) (topOf grid grid.inScrollRegion))) :=
    sound.moveRow (Nat.max_lt.mpr ⟨(Nat.sub_le ..).trans_lt sound.row_lt, top⟩)
  rw [Grid.rowDecScroll, rowClampTop_eq]
  dsimp only
  have top' : topOf (grid.moveRow (grid.pos.row - 1)) grid.inScrollRegion =
      topOf grid grid.inScrollRegion := rfl
  rw [addWord_of_le (by rw [top', wordMax]; omega), Option.bind_eq_bind, Option.bind_some]
  exact (moved.scrollDown _).imp fun _ held => held.1

theorem colWrap {width : Nat} (fits : width ≤ size.cols) (wrap : Bool) :
    Succeeds (grid.colWrap width wrap) fun next =>
      Sound size next ∧ next.pos.col + width ≤ size.cols := by
  have small := sound.usable.rows_le
  rw [maxScreenRows] at small
  have row := sound.row_lt
  rw [Grid.colWrap, sound.sized, subWord_of_le fits, Option.bind_eq_bind, Option.bind_some]
  split
  · have start : Sound size (grid.moveCol 0) := sound.moveCol (Nat.zero_le _)
    refine start.rowIncScroll.bind fun scrolled after => ?_
    obtain ⟨held, enough, col⟩ := after
    replace enough : scrolled.1 ≤ grid.pos.row := enough
    replace col : scrolled.2.pos.col = 0 := col
    have marked : ∀ wrapped, Succeeds
        (scrolled.2.updateRow (grid.pos.row - scrolled.1) fun row => some (row.wrap wrapped))
        fun next => Sound size next ∧ next.pos.col + width ≤ size.cols := by
      intro wrapped
      refine (held.updateRow (by omega) fun row whole => .some (whole.wrap wrapped)).imp ?_
      rintro next ⟨heldNext, pos⟩
      refine ⟨heldNext, ?_⟩
      rw [pos, col]
      omega
    simp only [subWord_of_le enough, Option.bind_some]
    split
    · rw [addWord_of_le (by rw [wordMax]; omega), Option.bind_some]
      exact marked _
    · exact marked _
  · next inside => exact .some ⟨sound, by omega⟩

/-! ## Erasing, inserting and deleting -/

theorem eraseAll : Sound size grid.eraseAll := by
  refine sound.withRows ((List.length_map _).trans sound.filled) fun row member => ?_
  obtain ⟨old, there, rfl⟩ := List.mem_map.mp member
  exact (sound.whole old there).clear

theorem eraseCols {cols : List Nat} (inside : ∀ col ∈ cols, col < size.cols) :
    Succeeds (grid.currentRow fun row => row.eraseAll cols) (Rearranged size grid.pos) :=
  sound.currentRow fun _ whole => Row.whole_eraseAll whole sound.usable.cols_word inside

theorem eraseRowForward : Succeeds grid.eraseRowForward (Rearranged size grid.pos) := by
  refine sound.eraseCols fun col member => ?_
  have := List.mem_range'_1.mp member
  rw [sound.sized] at this
  omega

theorem eraseRowBackward : Succeeds grid.eraseRowBackward (Rearranged size grid.pos) := by
  rw [Grid.eraseRowBackward, subWord_of_le sound.one_le_cols]
  refine sound.eraseCols fun col member => ?_
  have last := Nat.min_le_right grid.pos.col (grid.size.cols - 1)
  have := List.mem_range.mp member
  have := sound.one_le_cols
  rw [sound.sized] at *
  omega

theorem eraseRow : Succeeds grid.eraseRow (Rearranged size grid.pos) :=
  sound.currentRow fun _ whole => .some whole.clear

theorem eraseCells (count : Nat) :
    Succeeds (grid.eraseCells count) (Rearranged size grid.pos) := by
  refine sound.eraseCols fun col member => ?_
  have inside := Nat.min_le_right (saturatingAdd grid.pos.col count) grid.size.cols
  have := List.mem_range'_1.mp member
  rw [sound.sized] at *
  omega

theorem clearSome (rows : List Row) (length : rows.length = grid.rows.length)
    (each : ∀ row ∈ rows, row ∈ grid.rows ∨ ∃ old ∈ grid.rows, row = old.clear) :
    Sound size { grid with rows := rows } := by
  refine sound.withRows (length.trans sound.filled) fun row member => ?_
  rcases each row member with old | ⟨old, there, rfl⟩
  · exact sound.whole row old
  · exact (sound.whole old there).clear

theorem eraseAllForward : Succeeds grid.eraseAllForward (Rearranged size grid.pos) := by
  have cleared := sound.clearSome (grid.rows.take (grid.pos.row + 1) ++
    (grid.rows.drop (grid.pos.row + 1)).map Row.clear) ?_ ?_
  · exact cleared.eraseRowForward
  · rw [List.length_append, List.length_map, List.length_take, List.length_drop]
    omega
  · intro row member
    rcases List.mem_append.mp member with above | below
    · exact .inl (List.mem_of_mem_take above)
    · obtain ⟨old, there, rfl⟩ := List.mem_map.mp below
      exact .inr ⟨old, List.mem_of_mem_drop there, rfl⟩

theorem eraseAllBackward : Succeeds grid.eraseAllBackward (Rearranged size grid.pos) := by
  have cleared := sound.clearSome ((grid.rows.take grid.pos.row).map Row.clear ++
    grid.rows.drop grid.pos.row) ?_ ?_
  · exact cleared.eraseRowBackward
  · rw [List.length_append, List.length_map, List.length_take, List.length_drop]
    omega
  · intro row member
    rcases List.mem_append.mp member with above | below
    · obtain ⟨old, there, rfl⟩ := List.mem_map.mp above
      exact .inr ⟨old, List.mem_of_mem_take there, rfl⟩
    · exact .inl (List.mem_of_mem_drop below)

theorem insertCells (count : Nat) :
    Succeeds (grid.insertCells count) (Rearranged size grid.pos) := by
  obtain ⟨row, there, whole⟩ := sound.exists_row _ sound.row_lt
  have positive : 0 < size.cols := by
    have := sound.one_le_cols
    rwa [sound.sized] at this
  -- Blank cells go in front of the cursor's, which stays a second half if it was one.
  have inserts (half : Bool) (marked : halfAt row.cells grid.pos.col = half) :
      Succeeds (grid.currentRow fun row => do
        let row ←
          if half then Foundation.repeated (fun row => row.insertSecond grid.pos.col) count row
          else Foundation.repeated (fun row => row.insert grid.pos.col .blank) count row
        row.truncate grid.size.cols) (Rearranged size grid.pos) := by
    refine sound.updateRow_of there ?_
    have grown : Succeeds (Foundation.repeated (fun row => if half
        then Row.insertSecond row grid.pos.col else row.insert grid.pos.col .blank) count row)
        fun row => row.Whole (size.cols + count) ∧ halfAt row.cells grid.pos.col = half := by
      refine succeeds_repeated_indexed (fun taken (row : Row) => row.Whole (size.cols + taken) ∧
        halfAt row.cells grid.pos.col = half) ?_ ⟨whole, marked⟩
      rintro taken longer - ⟨held, marked⟩
      cases half with
      | false => exact Row.whole_insert held (sound.col_le.trans (Nat.le_add_right ..)) marked
      | true => exact Row.whole_insertSecond held marked
    rw [sound.sized]
    cases half with
    | false => exact grown.bind fun longer kept =>
        Row.whole_truncate kept.1 (Nat.le_add_right ..) positive
    | true => exact grown.bind fun longer kept =>
        Row.whole_truncate kept.1 (Nat.le_add_right ..) positive
  rw [Grid.insertCells]
  split
  · next inside =>
    rw [sound.sized] at inside
    obtain ⟨cell, found⟩ := Row.exists_cell whole inside
    simp only [Grid.drawingCell, there, Option.bind_eq_bind, Option.bind_some, found]
    exact inserts _ (Row.marksAt_some found).2.symm
  · next outside =>
    rw [sound.sized] at outside
    refine inserts false ?_
    rw [halfAt, marksAt_of_le (by rw [whole.filled]; exact Nat.not_lt.mp outside)]

theorem deleteCells (count : Nat) :
    Succeeds (grid.deleteCells count) (Rearranged size grid.pos) := by
  have col : grid.pos.col ≤ grid.size.cols := by
    rw [sound.sized]
    exact sound.col_le
  have wide := sound.one_le_cols
  have words := sound.usable.cols_word
  rw [Grid.deleteCells, subWord_of_le col]
  rw [sound.sized] at wide col ⊢
  refine sound.currentRow fun row whole => ?_
  have removed : Succeeds (Foundation.repeated (fun row => Row.remove row grid.pos.col)
      (min count (size.cols - grid.pos.col)) row)
      (Row.Whole (size.cols - min count (size.cols - grid.pos.col))) := by
    refine succeeds_repeated_indexed (fun taken => Row.Whole (size.cols - taken)) ?_ whole
    intro taken row below kept
    show Succeeds _ (Row.Whole (size.cols - taken - 1))
    exact Row.whole_remove kept (by omega) (by omega)
  exact removed.bind fun shorter kept => .some (kept.resize (Nat.sub_le ..) wide)

theorem colInc (width : Nat) (fits : grid.pos.col + width ≤ size.cols) :
    Sound size (grid.colInc width) :=
  sound.moveCol ((Nat.min_le_left ..).trans fits)

theorem put (widths : CharWidths) (char : Char)
    (fits : grid.pos.col + widths.drawn char ≤ size.cols) :
    Succeeds (grid.put widths (size.cols - 1) char) (Sound size) := by
  have words := sound.usable.cols_word
  have wide := sound.usable.cols_ge
  have row := sound.row_lt
  rw [minScreenCols] at wide
  rw [Grid.put]
  split
  · split
    · next behind =>
      refine (sound.updateRow row fun _ whole => ?_).imp fun _ held => held.1
      exact Row.whole_appendMark whole (by omega) char
    · split
      · next below =>
        obtain ⟨before, there, -⟩ := sound.exists_row (grid.pos.row - 1) (by omega)
        simp only [there, Option.bind_eq_bind, Option.bind_some]
        split
        · refine (sound.updateRow (by omega) fun _ whole => ?_).imp fun _ held => held.1
          exact Row.whole_appendMark whole (by omega) char
        · exact .some sound
      · exact .some sound
  · next drawn =>
    refine (sound.updateRow row fun _ whole =>
      Row.whole_draw widths whole words char (by omega) _).bind fun next held => .some ?_
    obtain ⟨soundNext, pos⟩ := held
    have width := widths.drawn_le char
    split
    · have first := soundNext.colInc 1 (by rw [pos]; omega)
      refine first.colInc 1 ?_
      show saturatingAdd next.pos.col 1 + 1 ≤ size.cols
      have := Nat.min_le_left (next.pos.col + 1) wordMax
      rw [saturatingAdd]
      rw [pos] at this ⊢
      omega
    · exact soundNext.colInc _ (by rw [pos]; omega)

theorem text (widths : CharWidths) (char : Char) :
    Succeeds (grid.text widths char) (Sound size) := by
  have wide := sound.usable.cols_ge
  have width := widths.drawn_le char
  have lastCol := sound.one_le_cols
  rw [minScreenCols] at wide
  rw [Grid.text]
  split
  · exact .some sound
  · rw [subWord_of_le lastCol, Option.bind_eq_bind, Option.bind_some]
    have wraps : Succeeds (grid.wraps widths (grid.size.cols - 1) char) fun _ => True := by
      rw [Grid.wraps, subWord_of_le (by rw [sound.sized]; omega), Option.bind_eq_bind,
        Option.bind_some]
      split
      · obtain ⟨cell, there⟩ := sound.exists_drawingCell
          ⟨grid.pos.row, grid.size.cols - 1⟩ sound.row_lt
          (by rw [sound.sized] at lastCol ⊢; dsimp only; omega)
        rw [there]
        exact .some trivial
      · exact .some trivial
    refine wraps.bind fun wrap _ => ?_
    refine (sound.colWrap (by omega) wrap).bind fun next held => ?_
    rw [sound.sized]
    exact held.1.put widths char held.2

end Sound

theorem framed_new (usable : Usable size) (scrollbackLen : Nat) :
    Succeeds (Grid.new size scrollbackLen) fun grid => Framed size grid ∧ grid.rows = [] := by
  have rows := usable.rows_ge
  rw [minScreenRows] at rows
  rw [Grid.new, subWord_of_le (by omega)]
  exact .some
    ⟨{  usable := usable
        sized := rfl
        row_lt := by dsimp only; omega
        col_le := Nat.zero_le _
        savedRow_lt := by dsimp only; omega
        savedCol_le := Nat.zero_le _
        top_le := Nat.zero_le _
        bottom_pos := by dsimp only; omega
        bottom_lt := by dsimp only; omega
        kept := Nat.zero_le _
        within := Nat.zero_le _
        history := fun _ member => absurd member List.not_mem_nil }, rfl⟩

theorem Framed.allocateRows (framed : Framed size grid) (empty : grid.rows = []) :
    Sound size grid.allocateRows := by
  rw [Grid.allocateRows, if_pos empty]
  exact { framed with
    filled := by rw [List.length_replicate, framed.sized]
    whole := fun row member => by
      rw [List.eq_of_mem_replicate member, Grid.newRow, framed.sized]
      exact Row.whole_new _ }

theorem Sound.allocateRows (sound : Sound size grid) : Sound size grid.allocateRows := by
  rw [Grid.allocateRows]
  split
  · next empty =>
    have none := sound.filled
    have := sound.one_le_rows
    rw [sound.sized] at this
    rw [empty, List.length_nil] at none
    omega
  · exact sound

/-- A grid that is sound, or has no rows because it was never shown. -/
def Dormant (size : Size) (grid : Grid) : Prop :=
  Sound size grid ∨ (Framed size grid ∧ grid.rows = [])

theorem Dormant.framed (dormant : Dormant size grid) : Framed size grid := by
  rcases dormant with sound | unshown
  · exact sound.toFramed
  · exact unshown.1

theorem Dormant.allocateRows (dormant : Dormant size grid) : Sound size grid.allocateRows := by
  rcases dormant with sound | ⟨framed, empty⟩
  · exact sound.allocateRows
  · exact framed.allocateRows empty

theorem Framed.clear (framed : Framed size grid) : Succeeds grid.clear fun next =>
    Framed size next ∧ next.rows = grid.rows.map Row.clear := by
  have rows := framed.one_le_rows
  have tall := framed.usable.rows_ge
  have sized := framed.sized
  rw [minScreenRows] at tall
  rw [Grid.clear, subWord_of_le rows]
  exact .some
    ⟨{ framed with
        row_lt := by dsimp only; omega
        col_le := Nat.zero_le _
        savedRow_lt := by dsimp only; omega
        savedCol_le := Nat.zero_le _
        top_le := Nat.zero_le _
        bottom_pos := by dsimp only; rw [sized]; omega
        bottom_lt := by dsimp only; rw [sized]; omega
        kept := Nat.zero_le _
        within := Nat.zero_le _
        history := fun _ member => absurd member List.not_mem_nil }, rfl⟩

theorem Sound.clear (sound : Sound size grid) : Succeeds grid.clear (Sound size) :=
  sound.toFramed.clear.imp fun next cleared =>
    { cleared.1 with
      filled := by rw [cleared.2, List.length_map, sound.filled]
      whole := cleared.2 ▸ sound.eraseAll.whole }

theorem Dormant.clear (dormant : Dormant size grid) : Succeeds grid.clear (Dormant size) := by
  rcases dormant with sound | ⟨framed, empty⟩
  · exact sound.clear.imp fun _ cleared => .inl cleared
  · refine framed.clear.imp fun _ cleared => .inr ⟨cleared.1, ?_⟩
    rw [cleared.2, empty]
    rfl

/-! ## Screens -/

namespace Screen

/-- Both grids are as they should be; the one that is shown has its rows. -/
structure Sound (size : Size) (screen : Screen) : Prop where
  main : Emulator.Sound size screen.grid
  alternate : Dormant size screen.alternateGrid
  shown : screen.alternateScreen = true → Emulator.Sound size screen.alternateGrid

theorem sound_new (usable : Usable size) (scrollbackLen : Nat) :
    Succeeds (Screen.new size scrollbackLen) (Sound size) := by
  rw [Screen.new]
  refine (framed_new usable scrollbackLen).bind fun main made => ?_
  refine (framed_new usable 0).bind fun alternate other => .some ?_
  exact
    { main := made.1.allocateRows made.2
      alternate := .inr other
      shown := fun shown => absurd shown Bool.false_ne_true }

namespace Sound

variable {screen : Screen} (sound : Sound size screen)

include sound

theorem current : Emulator.Sound size screen.current := by
  rw [Screen.current]
  split
  · next shown => exact sound.shown shown
  · exact sound.main

theorem withCurrent {grid : Grid} (next : Emulator.Sound size grid) :
    Sound size (screen.withCurrent grid) := by
  rw [Screen.withCurrent]
  split
  · exact { sound with alternate := .inl next, shown := fun _ => next }
  · next hidden => exact { sound with main := next }

theorem updateGrid {change : Grid → Option Grid}
    (keeps : ∀ grid, Emulator.Sound size grid → Succeeds (change grid) (Emulator.Sound size)) :
    Succeeds (screen.updateGrid change) (Sound size) :=
  (keeps _ sound.current).map fun _ next => sound.withCurrent next

theorem rearrangeGrid {change : Grid → Option Grid}
    (keeps : ∀ grid, Emulator.Sound size grid →
      Succeeds (change grid) (Emulator.Sound.Rearranged size grid.pos)) :
    Succeeds (screen.updateGrid change) (Sound size) :=
  sound.updateGrid fun grid held => (keeps grid held).imp fun _ next => next.1

theorem moveGrid {change : Grid → Grid}
    (keeps : ∀ grid, Emulator.Sound size grid → Emulator.Sound size (change grid)) :
    Succeeds (screen.updateGrid fun grid => some (change grid)) (Sound size) :=
  sound.updateGrid fun grid held => .some (keeps grid held)

theorem setScrollback (rows : Nat) : Sound size (screen.setScrollback rows) :=
  sound.withCurrent (sound.current.setScrollback rows)

theorem saveCursor : Sound size screen.saveCursor := sound.withCurrent sound.current.saveCursor

theorem restoreCursor : Sound size screen.restoreCursor :=
  sound.withCurrent sound.current.restoreCursor

theorem enterAlternateGrid : Sound size screen.enterAlternateGrid := by
  have scrolled := sound.setScrollback 0
  have allocated := scrolled.alternate.allocateRows
  exact { main := scrolled.main, alternate := .inl allocated, shown := fun _ => allocated }

theorem exitAlternateGrid : Sound size screen.exitAlternateGrid :=
  { sound with shown := fun shown => absurd shown Bool.false_ne_true }

theorem clearMouseMode (mode : MouseProtocolMode) : Sound size (screen.clearMouseMode mode) := by
  rw [Screen.clearMouseMode]
  split
  · exact { sound with }
  · exact sound

theorem clearMouseEncoding (encoding : MouseProtocolEncoding) :
    Sound size (screen.clearMouseEncoding encoding) := by
  rw [Screen.clearMouseEncoding]
  split
  · exact { sound with }
  · exact sound

theorem ris : Succeeds screen.ris (Sound size) := by
  rw [Screen.ris, sound.main.sized]
  exact sound_new sound.main.usable _

theorem ed (mode : Nat) : Succeeds (screen.ed mode) (Sound size) := by
  unfold Screen.ed
  split
  · exact sound.rearrangeGrid fun _ held => held.eraseAllForward
  · exact sound.rearrangeGrid fun _ held => held.eraseAllBackward
  · exact sound.moveGrid fun _ held => held.eraseAll
  · exact .some sound

theorem el (mode : Nat) : Succeeds (screen.el mode) (Sound size) := by
  unfold Screen.el
  split
  · exact sound.rearrangeGrid fun _ held => held.eraseRowForward
  · exact sound.rearrangeGrid fun _ held => held.eraseRowBackward
  · exact sound.rearrangeGrid fun _ held => held.eraseRow
  · exact .some sound

theorem cup {row col : Nat} (rowPos : 1 ≤ row) (colPos : 1 ≤ col) :
    Succeeds (screen.cup row col) (Sound size) := by
  rw [Screen.cup, subWord_of_le rowPos, Option.bind_eq_bind, Option.bind_some,
    subWord_of_le colPos]
  exact sound.updateGrid fun _ held => held.setPos _

theorem decstbm {top bottom : Nat} (topPos : 1 ≤ top) (bottomPos : 1 ≤ bottom) :
    Succeeds (screen.decstbm top bottom) (Sound size) := by
  rw [Screen.decstbm, subWord_of_le topPos, Option.bind_eq_bind, Option.bind_some,
    subWord_of_le bottomPos]
  exact sound.updateGrid fun _ held => held.setScrollRegion _ _

theorem decset (param : List UInt16) : Succeeds (screen.decset param) (Sound size) := by
  unfold Screen.decset
  split
  case h_2 => exact sound.updateGrid fun _ held => held.setOriginMode true
  case h_5 => exact .some sound.enterAlternateGrid
  case h_11 =>
    have saved := sound.saveCursor
    obtain ⟨cleared, clears, dormant⟩ := saved.alternate.clear
    dsimp only
    rw [clears]
    refine .some (Sound.enterAlternateGrid { saved with
      alternate := dormant
      shown := fun shown => (saved.shown shown).clear.of_some clears })
  case h_13 => exact .some sound
  all_goals exact .some { sound with }

theorem decrst (param : List UInt16) : Succeeds (screen.decrst param) (Sound size) := by
  unfold Screen.decrst
  split
  case h_2 => exact sound.updateGrid fun _ held => held.setOriginMode false
  case h_3 => exact .some (sound.clearMouseMode _)
  case h_5 => exact .some sound.exitAlternateGrid
  case h_6 => exact .some (sound.clearMouseMode _)
  case h_7 => exact .some (sound.clearMouseMode _)
  case h_8 => exact .some (sound.clearMouseMode _)
  case h_9 => exact .some (sound.clearMouseEncoding _)
  case h_10 => exact .some (sound.clearMouseEncoding _)
  case h_11 => exact .some sound.exitAlternateGrid.restoreCursor
  case h_13 => exact .some sound
  all_goals exact .some { sound with }

theorem execute (code : UInt8) : Succeeds (screen.execute code) (Sound size) := by
  have lineFeed := sound.updateGrid fun _ held =>
    held.rowIncScroll.map fun _ after => after.1
  unfold Screen.execute
  split
  case h_1 => exact sound.moveGrid fun _ held => held.colDec 1
  case h_2 => exact sound.updateGrid fun _ held => held.colTab
  case h_6 => exact sound.updateGrid fun _ held => held.colClamp 0
  case h_7 => exact .some sound
  all_goals exact lineFeed

theorem escDispatch (final : UInt8) : Succeeds (screen.escDispatch final) (Sound size) := by
  unfold Screen.escDispatch
  split
  case h_1 => exact .some sound.saveCursor
  case h_2 => exact .some sound.restoreCursor
  case h_3 => exact .some { sound with }
  case h_4 => exact .some { sound with }
  case h_5 => exact sound.updateGrid fun _ held => held.rowDecScroll
  case h_6 => exact sound.ris
  case h_7 => exact .some sound

end Sound

end Screen

theorem canonicalizeParam_pos (params : List (List UInt16)) (index : Nat) {default : Nat}
    (positive : 1 ≤ default) : 1 ≤ canonicalizeParam params index default := by
  rw [canonicalizeParam]
  split
  · exact positive
  · next some => exact Nat.pos_of_ne_zero some

namespace Screen.Sound

variable {screen : Screen} (sound : Sound size screen)

include sound

theorem csiDispatch (params : List (List UInt16)) (final : Char) :
    Succeeds (screen.csiDispatch params final) (Sound size) := by
  have positive := canonicalizeParam_pos params 0 (Nat.le_refl 1)
  unfold Screen.csiDispatch
  split
  case h_1 => exact sound.rearrangeGrid fun _ held => held.insertCells _
  case h_2 => exact sound.moveGrid fun _ held => held.rowDecClamp _
  case h_3 => exact sound.updateGrid fun _ held => held.rowIncClamp _
  case h_4 => exact sound.updateGrid fun _ held => held.colClamp _
  case h_5 => exact sound.moveGrid fun _ held => held.colDec _
  case h_6 =>
    dsimp only
    rw [subWord_of_le positive]
    exact sound.updateGrid fun _ held => held.colClamp _
  case h_7 => exact sound.cup positive (canonicalizeParam_pos params 1 (Nat.le_refl 1))
  case h_8 => exact sound.ed _
  case h_9 => exact sound.el _
  case h_10 => exact sound.rearrangeGrid fun _ held => held.insertLines _
  case h_11 => exact sound.rearrangeGrid fun _ held => held.deleteLines _
  case h_12 => exact sound.rearrangeGrid fun _ held => held.deleteCells _
  case h_13 => exact sound.rearrangeGrid fun _ held => held.scrollUp _
  case h_14 => exact sound.rearrangeGrid fun _ held => held.scrollDown _
  case h_15 => exact sound.rearrangeGrid fun _ held => held.eraseCells _
  case h_16 =>
    dsimp only
    rw [subWord_of_le positive]
    exact sound.updateGrid fun _ held => held.rowSet _
  case h_17 =>
    exact sound.decstbm positive (canonicalizeParam_pos params 1 sound.current.one_le_rows)
  case h_18 => exact .some sound

theorem privateDispatch (params : List (List UInt16)) (final : Char) :
    Succeeds (screen.privateDispatch params final) (Sound size) := by
  unfold Screen.privateDispatch
  split
  · exact sound.ed _
  · exact sound.el _
  · exact .foldlM sound fun _ param _ held => held.decset param
  · exact .foldlM sound fun _ param _ held => held.decrst param
  · exact .some sound

/-- Whatever the output has the screen do, it can do, and stays as it should be. -/
theorem perform (widths : CharWidths) (action : Action) :
    Succeeds (screen.perform widths action) (Sound size) := by
  cases action with
  | print char => exact sound.updateGrid fun _ held => held.text widths char
  | execute code => exact sound.execute code
  | escDispatch intermediates final =>
    rw [Screen.perform]
    split
    · exact sound.escDispatch final
    · exact .some sound
  | csiDispatch params intermediates final =>
    rw [Screen.perform]
    split
    · exact sound.csiDispatch params final
    · split
      · exact sound.privateDispatch params final
      · exact .some sound
  | oscDispatch params => exact .some sound
  | hook params intermediates final => exact .some sound

theorem performAll (widths : CharWidths) (actions : List Action) :
    Succeeds (screen.performAll widths actions) (Sound size) :=
  .foldlM sound fun _ action _ held => held.perform widths action

end Screen.Sound

end Mult.Terminal.Emulator
