import Mult.Terminal.Cells

/-! Rows of cells as the emulator changes them, and that they stay well paired. -/

set_option autoImplicit false

namespace Mult.Terminal
open Foundation

namespace Row

def new (cols : Nat) : Row := ⟨List.replicate cols .blank, false⟩

/-- How many columns there are, as a word. -/
def cols (row : Row) : Option Nat := if row.cells.length ≤ wordMax then some row.cells.length else none

def updateCell (row : Row) (col : Nat) (change : Cell → Cell) : Option Row :=
  (updateAt row.cells col change).map fun cells => { row with cells := cells }

def clear (row : Row) : Row := ⟨row.cells.map Cell.clear, false⟩

def wrap (row : Row) (wrapped : Bool) : Row := { row with wrapped := wrapped }

def insert (row : Row) (col : Nat) (cell : Cell) : Option Row :=
  (insertAt row.cells col cell).map fun cells => ⟨cells, false⟩

/-- The other half of a wide character is cleared. -/
def clearWide (row : Row) (col : Nat) : Option Row := do
  let cell ← row.cells[col]?
  if cell.isWide then row.updateCell (← addWord col 1) .clear
  else if cell.isWideContinuation then row.updateCell (← subWord col 1) .clear
  else some row

def remove (row : Row) (col : Nat) : Option Row := do
  let row ← row.clearWide col
  (removeAt row.cells col).map fun cells => ⟨cells, false⟩

def erase (row : Row) (col : Nat) : Option Row := do
  let wide := (← row.cells[col]?).isWide
  let row ← row.clearWide col
  let row ← row.updateCell col .clear
  if col = (← subWord (← row.cols) (if wide then 2 else 1)) then some (row.wrap false) else some row

/-- The row is cut off, and a wide character with it that has lost its second half. -/
def truncate (row : Row) (length : Nat) : Option Row := do
  let cells := row.cells.take length
  let last ← subWord length 1
  if (← cells[last]?).isWide then some ⟨← updateAt cells last .clear, false⟩
  else some ⟨cells, false⟩

/-- The row is cut off or filled up. A wide character at its end stays marked as one. -/
def resize (row : Row) (length : Nat) : Row := ⟨resized row.cells length .blank, false⟩

def eraseAll (row : Row) (cols : List Nat) : Option Row := cols.foldlM erase row

/-- A character goes into a cell, and what it leaves half of goes. -/
def drawOver (widths : CharWidths) (row : Row) (col : Nat) (char : Char) : Option Row := do
  -- the first half of a wide character whose second is drawn over
  let row ←
    if (← row.cells[col]?).isWideContinuation then row.updateCell (← subWord col 1) .clear
    else some row
  -- the second half of one whose first is
  let row ←
    if (← row.cells[col]?).isWide then row.updateCell (← addWord col 1) (.set widths ' ')
    else some row
  row.updateCell col (.set widths char)

/-- The second half of a wide character goes into the cell behind it. -/
def drawSecond (row : Row) (next lastCol : Nat) : Option Row := do
  let row ←
    if (← row.cells[next]?).isWide then do
      let nextNext ← addWord next 1
      let row ← row.updateCell nextNext .clear
      some (if nextNext = lastCol then row.wrap false else row)
    else some row
  row.updateCell next fun cell => cell.clear.setWideContinuation true

/-- What drawing a character that takes up columns does to the row of the cursor. -/
def draw (widths : CharWidths) (row : Row) (col lastCol : Nat) (char : Char) : Option Row := do
  let row ← row.drawOver widths col char
  if 1 < widths.drawn char then row.drawSecond (saturatingAdd col 1) lastCol else some row

/-- Where a mark is put that takes up no column, at a cell or the wide one it is the second
half of. -/
def appendMark (row : Row) (col : Nat) (char : Char) : Option Row := do
  if (← row.cells[col]?).isWideContinuation then
    row.updateCell (← subWord col 1) (.append char)
  else row.updateCell col (.append char)

/-! ## Rows that are whole -/

/-- As many cells as there are columns, and no wide character without its second half. -/
structure Whole (cols : Nat) (row : Row) : Prop where
  filled : row.cells.length = cols
  paired : Paired row.cells

variable {row : Row} {length col : Nat}

theorem updateCell_of_lt (change : Cell → Cell) (lt : col < row.cells.length) :
    row.updateCell col change = some { row with cells := row.cells.modify col change } := by
  rw [updateCell, updateAt_of_lt change lt]
  rfl

theorem whole_new (cols : Nat) : Whole cols (new cols) :=
  ⟨List.length_replicate, paired_cleared fun _ member => by
    rw [List.eq_of_mem_replicate member, Cell.marks_blank]⟩

theorem Whole.clear (whole : Whole length row) : Whole length row.clear := by
  refine ⟨(List.length_map _).trans whole.filled, paired_cleared fun _ member => ?_⟩
  obtain ⟨cell, -, rfl⟩ := List.mem_map.mp member
  exact Cell.marks_clear cell

theorem Whole.wrap (whole : Whole length row) (wrapped : Bool) :
    Whole length (row.wrap wrapped) := ⟨whole.filled, whole.paired⟩

theorem whole_updateCell (whole : Whole length row) {change : Cell → Cell}
    (kept : ∀ cell, (change cell).marks = cell.marks) (lt : col < length) :
    Succeeds (row.updateCell col change) (Whole length) := by
  have inside : col < row.cells.length := whole.filled ▸ lt
  refine .of_eq (updateCell_of_lt change inside) ⟨?_, ?_⟩
  · rw [List.length_modify, whole.filled]
  · have same : ∀ other, marksAt (row.cells.modify col change) other =
        marksAt row.cells other := by
      intro other
      simp only [marksAt, List.getElem?_modify]
      cases row.cells[other]? with
      | none => rfl
      | some cell => by_cases equal : col = other <;> simp [equal, kept]
    exact
      { first := by simpa only [halfAt, same] using whole.paired.first
        behind := by simpa only [halfAt, wideAt, same] using whole.paired.behind
        apart := by simpa only [halfAt, wideAt, same] using whole.paired.apart }

theorem marksAt_some {cell : Cell} (there : row.cells[col]? = some cell) :
    cell.isWide = wideAt row.cells col ∧ cell.isWideContinuation = halfAt row.cells col := by
  rw [wideAt, halfAt, marksAt_of_getElem? there]
  exact ⟨rfl, rfl⟩

theorem exists_cell (whole : Whole length row) (lt : col < length) :
    ∃ cell, row.cells[col]? = some cell :=
  ⟨_, List.getElem?_eq_getElem (whole.filled ▸ lt)⟩

def parted (row : Row) (col : Nat) : List Cell :=
  if wideAt row.cells col then row.cells.modify (col + 1) .clear
  else if halfAt row.cells col then row.cells.modify (col - 1) .clear
  else row.cells

theorem length_parted : (row.parted col).length = row.cells.length := by
  rw [parted]
  split
  · exact List.length_modify ..
  · split
    · exact List.length_modify ..
    · rfl

theorem clearWide_eq (whole : Whole length row) (bounded : length ≤ wordMax) (lt : col < length) :
    row.clearWide col = some { row with cells := row.parted col } := by
  obtain ⟨cell, there⟩ := exists_cell whole lt
  obtain ⟨wideCell, halfCell⟩ := marksAt_some there
  simp only [clearWide, there, Option.bind_eq_bind, Option.bind_some, wideCell, halfCell, parted]
  by_cases wide : wideAt row.cells col = true
  · have inside := whole.paired.wide_lt wide
    rw [if_pos wide, if_pos wide, addWord_of_le (by omega), Option.bind_some,
      updateCell_of_lt _ inside]
  · by_cases half : halfAt row.cells col = true
    · rw [if_neg wide, if_pos half, if_neg wide, if_pos half,
        subWord_of_le (whole.paired.half_pos half), Option.bind_some,
        updateCell_of_lt _ (by have := whole.filled; omega)]
    · rw [if_neg wide, if_neg half, if_neg wide, if_neg half]

/-- What is at a column, and the other half of it. -/
def Joined (cells : List Cell) (col other : Nat) : Prop :=
  other = col ∨ (other = col + 1 ∧ wideAt cells col = true) ∨
    (other + 1 = col ∧ halfAt cells col = true)

theorem marksAt_parted (whole : Whole length row) {other : Nat} (apart : other ≠ col) :
    (Joined row.cells col other → marksAt (row.parted col) other = (false, false)) ∧
      (¬ Joined row.cells col other →
        marksAt (row.parted col) other = marksAt row.cells other) := by
  have wideLt : wideAt row.cells col = true → _ := whole.paired.wide_lt
  have halfPos : halfAt row.cells col = true → _ := whole.paired.half_pos
  have notBoth := whole.paired.apart col
  have outside : row.cells.length ≤ other → _ := marksAt_of_le
  simp only [Joined, parted]
  split
  · next wide =>
    rw [marksAt_modify Cell.marks_clear]
    grind
  · split
    · next half =>
      rw [marksAt_modify Cell.marks_clear]
      grind
    · grind

theorem paired_of_cleared {cells next : List Cell} (paired : Paired cells)
    (gone : ∀ other, Joined cells col other → marksAt next other = (false, false))
    (kept : ∀ other, ¬ Joined cells col other → marksAt next other = marksAt cells other) :
    Paired next := by
  have first := paired.first
  have behind := paired.behind
  have apart := paired.apart
  simp only [halfAt, wideAt] at first behind apart
  have joined : ∀ other, Joined cells col other ↔ other = col ∨
      (other = col + 1 ∧ (marksAt cells col).1 = true) ∨
      (other + 1 = col ∧ (marksAt cells col).2 = true) := fun other => Iff.rfl
  refine paired_of_marks (fun _ => rfl) (by grind) fun other => ?_
  grind

/-- The row with what is at a column cleared, both halves of it. -/
def erased (row : Row) (col : Nat) : List Cell := (row.parted col).modify col .clear

theorem length_erased : (row.erased col).length = row.cells.length :=
  (List.length_modify ..).trans length_parted

theorem marksAt_erased (whole : Whole length row) (lt : col < length) (other : Nat) :
    (Joined row.cells col other → marksAt (row.erased col) other = (false, false)) ∧
      (¬ Joined row.cells col other →
        marksAt (row.erased col) other = marksAt row.cells other) := by
  have inside : col < (row.parted col).length := by
    rw [length_parted, whole.filled]
    exact lt
  rw [erased, marksAt_modify Cell.marks_clear]
  by_cases same : other = col
  · exact ⟨fun _ => if_pos ⟨same, inside⟩, fun apart => absurd (.inl same) apart⟩
  · rw [if_neg fun equal => same equal.1]
    exact marksAt_parted whole same

theorem paired_erased (whole : Whole length row) (lt : col < length) : Paired (row.erased col) :=
  paired_of_cleared whole.paired (fun other => (marksAt_erased whole lt other).1)
    fun other => (marksAt_erased whole lt other).2

theorem erase_eq (whole : Whole length row) (bounded : length ≤ wordMax) (lt : col < length) :
    ∃ wrapped, row.erase col = some ⟨row.erased col, wrapped⟩ := by
  obtain ⟨cell, there⟩ := exists_cell whole lt
  have wide := (marksAt_some there).1
  have inside : col < (row.parted col).length := by
    rw [length_parted, whole.filled]
    exact lt
  have enough : (if cell.isWide = true then 2 else 1) ≤ length := by
    split
    · next isWide =>
      have := whole.paired.wide_lt (wide ▸ isWide)
      have := whole.filled
      omega
    · omega
  have sized : (row.erased col).length = length := length_erased.trans whole.filled
  simp only [erase, there, Option.bind_eq_bind, Option.bind_some,
    clearWide_eq whole bounded lt, @updateCell_of_lt { row with cells := row.parted col } _
      Cell.clear inside, cols]
  rw [erased] at sized ⊢
  rw [sized, if_pos bounded, Option.bind_some, subWord_of_le enough, Option.bind_some]
  by_cases last : col = length - if cell.isWide = true then 2 else 1
  · exact ⟨false, if_pos last⟩
  · exact ⟨row.wrapped, if_neg last⟩

theorem whole_erase (whole : Whole length row) (bounded : length ≤ wordMax) (lt : col < length) :
    Succeeds (row.erase col) (Whole length) := by
  obtain ⟨wrapped, erases⟩ := erase_eq whole bounded lt
  exact .of_eq erases ⟨length_erased.trans whole.filled, paired_erased whole lt⟩

theorem whole_eraseAll (whole : Whole length row) (bounded : length ≤ wordMax) {cols : List Nat}
    (within : ∀ col ∈ cols, col < length) : Succeeds (row.eraseAll cols) (Whole length) :=
  .foldlM whole fun _ col member held => whole_erase held bounded (within col member)

theorem whole_remove (whole : Whole length row) (bounded : length ≤ wordMax) (lt : col < length) :
    Succeeds (row.remove col) (Whole (length - 1)) := by
  have inside : col < (row.parted col).length := by
    rw [length_parted, whole.filled]
    exact lt
  refine @Succeeds.of_eq _ _ _ ⟨(row.parted col).eraseIdx col, false⟩ ?_ ⟨?_, ?_⟩
  · simp only [remove, clearWide_eq whole bounded lt, Option.bind_eq_bind, Option.bind_some,
      removeAt_of_lt inside, Option.map_some]
  · rw [List.length_eraseIdx_of_lt inside, length_parted, whole.filled]
  · -- The columns in front stay, those behind move up by one.
    have parted := fun other => @marksAt_parted _ _ col whole other
    have first := whole.paired.first
    have behind := whole.paired.behind
    have apart := whole.paired.apart
    simp only [halfAt, wideAt, Joined] at first behind apart parted
    refine paired_of_marks (marksAt_eraseIdx _ col) (by grind) fun other => ?_
    grind

theorem whole_insert (whole : Whole length row) (le : col ≤ length)
    (uncut : halfAt row.cells col = false) :
    Succeeds (row.insert col .blank) fun next =>
      Whole (length + 1) next ∧ halfAt next.cells col = false := by
  have inside : col ≤ row.cells.length := whole.filled ▸ le
  have marked := marksAt_insertIdx inside .blank
  have first := whole.paired.first
  have behind := whole.paired.behind
  have apart := whole.paired.apart
  simp only [halfAt, wideAt, Cell.marks_blank] at first behind apart marked uncut
  refine @Succeeds.of_eq _ _ _ ⟨row.cells.insertIdx col .blank, false⟩ ?_ ⟨⟨?_, ?_⟩, ?_⟩
  · rw [insert, insertAt_of_le _ inside, Option.map_some]
  · rw [List.length_insertIdx_of_le_length inside, whole.filled]
  · refine paired_of_marks marked (by grind) fun other => ?_
    grind
  · simp [halfAt, marked]

/-- A blank cell put between the halves of a wide character, and made its second half. -/
def insertSecond (row : Row) (col : Nat) : Option Row := do
  let row ← row.updateCell col (.setWideContinuation false)
  let row ← row.insert col .blank
  row.updateCell col (.setWideContinuation true)

theorem whole_insertSecond (whole : Whole length row) (half : halfAt row.cells col = true) :
    Succeeds (row.insertSecond col) fun next =>
      Whole (length + 1) next ∧ halfAt next.cells col = true := by
  have inside : col < row.cells.length := by
    by_contra outside
    rw [halfAt, marksAt_of_le (Nat.not_lt.mp outside)] at half
    cases half
  obtain ⟨cell, there⟩ := exists_cell whole (whole.filled ▸ inside)
  have narrow : cell.isWide = false := by
    rw [(marksAt_some there).1]
    exact Bool.eq_false_iff.mpr fun wide => by
      rw [whole.paired.apart col wide] at half
      cases half
  -- The half that is pushed on loses its mark, and the blank that goes in takes it.
  have freed := marksAt_modify_at (.setWideContinuation false) there
  rw [Cell.marks_halved cell narrow] at freed
  have freedLe : col ≤ (row.cells.modify col (.setWideContinuation false)).length := by
    rw [List.length_modify]
    exact inside.le
  have opened := marksAt_insertIdx freedLe .blank
  have blankThere : ((row.cells.modify col (.setWideContinuation false)).insertIdx col
      .blank)[col]? = some .blank := by
    rw [List.getElem?_insertIdx_self, if_pos freedLe]
  have openedLt : col < ((row.cells.modify col (.setWideContinuation false)).insertIdx col
      .blank).length := by
    rw [List.length_insertIdx_of_le_length freedLe, List.length_modify]
    omega
  have joined := marksAt_modify_at (.setWideContinuation true) blankThere
  have second : (Cell.blank.setWideContinuation true).marks = (false, true) := by decide
  have first := whole.paired.first
  have behind := whole.paired.behind
  have apart := whole.paired.apart
  simp only [halfAt, wideAt, Cell.marks_blank, second] at first behind apart opened joined half
  refine @Succeeds.of_eq _ _ _ ⟨((row.cells.modify col (.setWideContinuation false)).insertIdx col
    .blank).modify col (.setWideContinuation true), false⟩ ?_ ⟨⟨?_, ?_⟩, ?_⟩
  · simp only [insertSecond, updateCell_of_lt _ inside, Option.bind_eq_bind, Option.bind_some,
      insert, insertAt_of_le _ freedLe, Option.map_some]
    exact @updateCell_of_lt ⟨_, false⟩ _ _ openedLt
  · rw [List.length_modify, List.length_insertIdx_of_le_length freedLe, List.length_modify,
      whole.filled]
  · simp only [opened, freed] at joined
    refine paired_of_marks joined (by grind) fun other => ?_
    grind
  · simp [halfAt, joined]

theorem whole_truncate {longer : Nat} (whole : Whole longer row) (le : length ≤ longer)
    (positive : 0 < length) : Succeeds (row.truncate length) (Whole length) := by
  have sized : (row.cells.take length).length = length := by
    rw [List.length_take, whole.filled]
    omega
  have lastLt : length - 1 < (row.cells.take length).length := by omega
  have there := List.getElem?_eq_getElem lastLt
  have taken := marksAt_take row.cells length
  have wide := (@marksAt_some ⟨row.cells.take length, false⟩ _ _ there).1
  have cut := @marksAt_modify (row.cells.take length) (length - 1) _ _ Cell.marks_clear
  have first := whole.paired.first
  have behind := whole.paired.behind
  have apart := whole.paired.apart
  simp only [halfAt, wideAt] at first behind apart wide
  simp only [truncate, subWord_of_le (show 1 ≤ length from positive), Option.bind_eq_bind,
    Option.bind_some, there]
  split
  · next isWide =>
    rw [updateAt_of_lt _ lastLt, Option.bind_some]
    refine .some ⟨?_, ?_⟩
    · rw [List.length_modify, sized]
    · simp only [taken] at cut
      refine paired_of_marks cut (by grind) fun other => ?_
      grind
  · next narrow =>
    refine .some ⟨sized, paired_of_marks taken (by grind) fun other => ?_⟩
    grind

theorem whole_resize {cols : Nat} (whole : Whole cols row) (uncut : wideAt row.cells (length - 1) = false)
    (positive : 0 < length) : Whole length (row.resize length) := by
  have marked := marksAt_resized row.cells length
  have first := whole.paired.first
  have behind := whole.paired.behind
  have apart := whole.paired.apart
  simp only [halfAt, wideAt] at first behind apart uncut
  refine ⟨length_resized .., paired_of_marks marked (by grind) fun other => ?_⟩
  grind

theorem Whole.resize {cols : Nat} (whole : Whole cols row) (le : cols ≤ length)
    (positive : 0 < length) : Whole length (row.resize length) := by
  refine whole_resize whole (Bool.eq_false_iff.mpr fun wide => ?_) positive
  have := whole.paired.wide_lt wide
  have := whole.filled
  omega

theorem whole_appendMark (whole : Whole length row) (lt : col < length) (char : Char) :
    Succeeds (row.appendMark col char) (Whole length) := by
  obtain ⟨cell, there⟩ := exists_cell whole lt
  simp only [appendMark, there, Option.bind_eq_bind, Option.bind_some, (marksAt_some there).2]
  split
  · next half =>
    rw [subWord_of_le (whole.paired.half_pos half), Option.bind_some]
    exact whole_updateCell whole (Cell.marks_append char) (by omega)
  · exact whole_updateCell whole (Cell.marks_append char) lt

/-! ## Drawing -/

/-- The marks behind the first part of drawing: what is drawn over is gone, both halves of it. -/
theorem drawOver_spec (widths : CharWidths) (whole : Whole length row)
    (bounded : length ≤ wordMax) (lt : col < length) (char : Char) :
    Succeeds (row.drawOver widths col char) fun next => next.cells.length = length ∧
      ∀ other, marksAt next.cells other =
        if other = col then (decide (1 < widths.drawn char), false)
        else if (other = col + 1 ∧ wideAt row.cells col = true) ∨
            (other + 1 = col ∧ halfAt row.cells col = true) then (false, false)
        else marksAt row.cells other := by
  have apart := whole.paired.apart col
  have inside : col < row.cells.length := whole.filled ▸ lt
  obtain ⟨cell, there⟩ := exists_cell whole lt
  obtain ⟨wideCell, halfCell⟩ := marksAt_some there
  have narrowSpace : ∀ cell : Cell, (cell.set widths ' ').marks = (false, false) := by
    intro cell
    rw [Cell.marks_set, widths.drawn_space]
    rfl
  simp only [drawOver, there, Option.bind_eq_bind, Option.bind_some, halfCell]
  by_cases half : halfAt row.cells col = true
  · -- Over a second half: the first half in front of it is cleared.
    have positive := whole.paired.half_pos half
    have narrow : wideAt row.cells col = false :=
      Bool.eq_false_iff.mpr fun wide => by
        rw [apart wide] at half
        cases half
    have still : (row.cells.modify (col - 1) .clear)[col]? = some cell := by
      rw [List.getElem?_modify, there]
      simp [show col - 1 ≠ col by omega]
    have first := @marksAt_modify row.cells (col - 1) _ _ Cell.marks_clear
    have second := marksAt_modify_at (.set widths char) still
    rw [Cell.marks_set] at second
    simp only [half, ↓reduceIte, subWord_of_le positive, Option.bind_some,
      updateCell_of_lt .clear (show col - 1 < row.cells.length by omega), still, wideCell, narrow,
      Bool.false_eq_true]
    rw [@updateCell_of_lt ⟨_, row.wrapped⟩ _ _ (by rw [List.length_modify]; exact inside)]
    refine .some ⟨by rw [List.length_modify, List.length_modify, whole.filled], fun other => ?_⟩
    rw [second, first]
    grind
  · simp only [half, Bool.false_eq_true, ↓reduceIte, wideCell]
    by_cases wide : wideAt row.cells col = true
    · -- Over a wide character: its second half becomes a space.
      have wideLt := whole.paired.wide_lt wide
      have still : (row.cells.modify (col + 1) (.set widths ' '))[col]? = some cell := by
        rw [List.getElem?_modify, there]
        simp
      have first := @marksAt_modify row.cells (col + 1) _ _ narrowSpace
      have second := marksAt_modify_at (.set widths char) still
      rw [Cell.marks_set] at second
      simp only [wide, ↓reduceIte, addWord_of_le (show col + 1 ≤ wordMax by omega),
        Option.bind_some, updateCell_of_lt (.set widths ' ') wideLt]
      rw [@updateCell_of_lt ⟨_, row.wrapped⟩ _ _ (by rw [List.length_modify]; exact inside)]
      refine .some ⟨by rw [List.length_modify, List.length_modify, whole.filled], fun other => ?_⟩
      rw [second, first]
      grind
    · have second := marksAt_modify_at (.set widths char) there
      rw [Cell.marks_set] at second
      simp only [wide, Bool.false_eq_true, ↓reduceIte]
      rw [updateCell_of_lt _ inside]
      refine .some ⟨by rw [List.length_modify, whole.filled], fun other => ?_⟩
      rw [second]
      grind

theorem whole_draw (widths : CharWidths) (whole : Whole length row) (bounded : length ≤ wordMax)
    (char : Char) (fits : col + max 1 (widths.drawn char) ≤ length) (lastCol : Nat) :
    Succeeds (row.draw widths col lastCol char) (Whole length) := by
  have wideLt : ∀ other, wideAt row.cells other = true → _ := fun _ => whole.paired.wide_lt
  have halfPos : ∀ other, halfAt row.cells other = true → _ := fun _ => whole.paired.half_pos
  have first := whole.paired.first
  have behind := whole.paired.behind
  have apart := whole.paired.apart
  have filled := whole.filled
  simp only [halfAt, wideAt] at first behind apart wideLt
  refine (drawOver_spec widths whole bounded (by omega) char).bind fun next drawn => ?_
  obtain ⟨sized, marked⟩ := drawn
  simp only [halfAt, wideAt] at marked
  split
  · next wide =>
    -- A wide character, with its second half in the next column.
    have second : saturatingAdd col 1 = col + 1 := Nat.min_eq_left (by omega)
    have inside : col + 1 < next.cells.length := by omega
    have there := List.getElem?_eq_getElem inside
    have wideNext := (marksAt_some there).1
    rw [second]
    simp only [drawSecond, there, Option.bind_eq_bind, Option.bind_some, wideNext]
    by_cases cut : wideAt next.cells (col + 1) = true
    · -- What was drawn over there was itself wide, so its second half is freed as well.
      have original : (marksAt row.cells (col + 1)).1 = true := by
        rw [wideAt, marked] at cut
        grind
      have twoLt : col + 1 + 1 < next.cells.length := by
        have := wideLt (col + 1) original
        omega
      have cleared := @marksAt_modify next.cells (col + 1 + 1) _ _ Cell.marks_clear
      have still : (next.cells.modify (col + 1 + 1) .clear)[col + 1]? = some next.cells[col + 1] := by
        rw [List.getElem?_modify, there]
        simp
      have halved := marksAt_modify_at (fun cell => cell.clear.setWideContinuation true) still
      rw [Cell.marks_second] at halved
      have longer : col + 1 < (next.cells.modify (col + 1 + 1) .clear).length := by
        rw [List.length_modify]
        exact inside
      simp only [cleared, marked] at halved
      have whole : ∀ wrapped, Whole length
          ⟨(next.cells.modify (col + 1 + 1) .clear).modify (col + 1)
            fun cell => cell.clear.setWideContinuation true, wrapped⟩ := by
        refine fun _ => ⟨by rw [List.length_modify, List.length_modify, sized], ?_⟩
        refine paired_of_marks halved (by grind) fun other => ?_
        grind
      simp only [cut, ↓reduceIte, addWord_of_le (show col + 1 + 1 ≤ wordMax by omega),
        Option.bind_some, updateCell_of_lt .clear twoLt]
      split
      · exact .of_eq (@updateCell_of_lt ⟨_, false⟩ _ _ longer) (whole _)
      · exact .of_eq (@updateCell_of_lt ⟨_, next.wrapped⟩ _ _ longer) (whole _)
    · have halved := marksAt_modify_at (fun cell => cell.clear.setWideContinuation true) there
      rw [Cell.marks_second] at halved
      simp only [marked] at halved
      simp only [cut, Bool.false_eq_true, ↓reduceIte, updateCell_of_lt _ inside]
      rw [wideAt, marked] at cut
      refine .some ⟨by rw [List.length_modify, sized], ?_⟩
      refine paired_of_marks halved (by grind) fun other => ?_
      grind
  · next narrow =>
    refine .some ⟨sized, paired_of_marks marked (by grind) fun other => ?_⟩
    grind

end Row

end Mult.Terminal
