import Mult.Terminal.Rows

/-! The grid the emulator draws on: the cursor, the region that scrolls, and what was scrolled out.

Positions and sizes are words; what leaves their range, and what indexes out of the grid, fails.
-/

set_option autoImplicit false

namespace Mult.Terminal.Emulator
open Foundation

structure Pos where
  row : Nat
  col : Nat
  deriving DecidableEq, Repr

structure Grid where
  size : Size
  pos : Pos
  savedPos : Pos
  rows : List Row
  scrollTop : Nat
  scrollBottom : Nat
  originMode : Bool
  savedOriginMode : Bool
  scrollback : List Row
  scrollbackLen : Nat
  scrollbackOffset : Nat

namespace Grid

/-- A grid without rows yet. -/
def new (size : Size) (scrollbackLen : Nat) : Option Grid := do
  some
    { size := size
      pos := ⟨0, 0⟩
      savedPos := ⟨0, 0⟩
      rows := []
      scrollTop := 0
      scrollBottom := ← subWord size.rows 1
      originMode := false
      savedOriginMode := false
      scrollback := []
      scrollbackLen := scrollbackLen
      scrollbackOffset := 0 }

def newRow (grid : Grid) : Row := .new grid.size.cols

def allocateRows (grid : Grid) : Grid :=
  if grid.rows = [] then { grid with rows := List.replicate grid.size.rows grid.newRow } else grid

def clear (grid : Grid) : Option Grid := do
  some
    { grid with
      pos := ⟨0, 0⟩
      savedPos := ⟨0, 0⟩
      rows := grid.rows.map Row.clear
      scrollbackOffset := 0
      scrollback := []
      scrollTop := 0
      scrollBottom := ← subWord grid.size.rows 1
      originMode := false
      savedOriginMode := false }

def updateRow (grid : Grid) (row : Nat) (change : Row → Option Row) : Option Grid := do
  let changed ← change (← grid.rows[row]?)
  some { grid with rows := grid.rows.set row changed }

def currentRow (grid : Grid) (change : Row → Option Row) : Option Grid :=
  grid.updateRow grid.pos.row change

def drawingCell (grid : Grid) (pos : Pos) : Option Cell := do (← grid.rows[pos.row]?).cells[pos.col]?

def setScrollback (grid : Grid) (rows : Nat) : Grid :=
  { grid with scrollbackOffset := min rows grid.scrollback.length }

/-- By how many rows the cursor was above the region, and the grid with it at its top. -/
def rowClampTop (grid : Grid) (limitToScrollRegion : Bool) : Nat × Grid :=
  if limitToScrollRegion ∧ grid.pos.row < grid.scrollTop then
    (grid.scrollTop - grid.pos.row, { grid with pos := ⟨grid.scrollTop, grid.pos.col⟩ })
  else (0, grid)

def rowClampBottom (grid : Grid) (limitToScrollRegion : Bool) : Option (Nat × Grid) := do
  let bottom ← if limitToScrollRegion then some grid.scrollBottom else subWord grid.size.rows 1
  some (if bottom < grid.pos.row then
    (grid.pos.row - bottom, { grid with pos := ⟨bottom, grid.pos.col⟩ })
  else (0, grid))

def rowClamp (grid : Grid) : Option Grid := do
  let last ← subWord grid.size.rows 1
  some (if last < grid.pos.row then { grid with pos := ⟨last, grid.pos.col⟩ } else grid)

def colClamp (grid : Grid) : Option Grid := do
  let last ← subWord grid.size.cols 1
  some (if last < grid.pos.col then { grid with pos := ⟨grid.pos.row, last⟩ } else grid)

def setPos (grid : Grid) (pos : Pos) : Option Grid := do
  let row := if grid.originMode then saturatingAdd pos.row grid.scrollTop else pos.row
  let (_, grid) := { grid with pos := ⟨row, pos.col⟩ : Grid }.rowClampTop grid.originMode
  let (_, grid) ← grid.rowClampBottom grid.originMode
  grid.colClamp

def saveCursor (grid : Grid) : Grid :=
  { grid with savedPos := grid.pos, savedOriginMode := grid.originMode }

def restoreCursor (grid : Grid) : Grid :=
  { grid with pos := grid.savedPos, originMode := grid.savedOriginMode }

def setOriginMode (grid : Grid) (mode : Bool) : Option Grid :=
  { grid with originMode := mode : Grid }.setPos ⟨0, 0⟩

def inScrollRegion (grid : Grid) : Bool :=
  grid.scrollTop ≤ grid.pos.row ∧ grid.pos.row ≤ grid.scrollBottom

def moveRow (grid : Grid) (row : Nat) : Grid := { grid with pos := ⟨row, grid.pos.col⟩ }

def moveCol (grid : Grid) (col : Nat) : Grid := { grid with pos := ⟨grid.pos.row, col⟩ }

def rowIncClamp (grid : Grid) (count : Nat) : Option Grid := do
  let (_, moved) ←
    (grid.moveRow (saturatingAdd grid.pos.row count)).rowClampBottom grid.inScrollRegion
  some moved

def rowDecClamp (grid : Grid) (count : Nat) : Grid :=
  ((grid.moveRow (grid.pos.row - count)).rowClampTop grid.inScrollRegion).2

def rowSet (grid : Grid) (row : Nat) : Option Grid := (grid.moveRow row).rowClamp

def colInc (grid : Grid) (count : Nat) : Grid := grid.moveCol (saturatingAdd grid.pos.col count)

def colIncClamp (grid : Grid) (count : Nat) : Option Grid := (grid.colInc count).colClamp

def colDec (grid : Grid) (count : Nat) : Grid := grid.moveCol (grid.pos.col - count)

def colTab (grid : Grid) : Option Grid := do
  (grid.moveCol (← addWord (grid.pos.col - grid.pos.col % 8) 8)).colClamp

def colSet (grid : Grid) (col : Nat) : Option Grid := (grid.moveCol col).colClamp

/-- A row goes in below the region, and the one at its top into what was scrolled out. -/
def scrollUpOne (grid : Grid) : Option Grid := do
  let rows ← insertAt grid.rows (grid.scrollBottom + 1) grid.newRow
  let removed ← rows[grid.scrollTop]?
  let rows ← removeAt rows grid.scrollTop
  if 0 < grid.scrollbackLen ∧ grid.scrollTop = 0 then
    let scrollback := grid.scrollback ++ [removed]
    let scrollback := scrollback.drop (scrollback.length - grid.scrollbackLen)
    some
      { grid with
        rows := rows
        scrollback := scrollback
        scrollbackOffset :=
          if 0 < grid.scrollbackOffset then min scrollback.length (grid.scrollbackOffset + 1)
          else grid.scrollbackOffset }
  else some { grid with rows := rows }

def scrollUp (grid : Grid) (count : Nat) : Option Grid := do
  repeated scrollUpOne (min count (← subWord grid.size.rows grid.scrollTop)) grid

def insertLine (place : Grid → Nat) (grid : Grid) : Option Grid := do
  let rows ← removeAt grid.rows grid.scrollBottom
  let rows ← insertAt rows (place grid) grid.newRow
  { grid with rows := rows : Grid }.updateRow grid.scrollBottom fun row => some (row.wrap false)

def scrollDown (grid : Grid) (count : Nat) : Option Grid :=
  repeated (insertLine scrollTop) count grid

def insertLines (grid : Grid) (count : Nat) : Option Grid :=
  repeated (insertLine fun grid => grid.pos.row) count grid

def deleteLine (grid : Grid) : Option Grid := do
  let rows ← insertAt grid.rows (grid.scrollBottom + 1) grid.newRow
  some { grid with rows := ← removeAt rows grid.pos.row }

def deleteLines (grid : Grid) (count : Nat) : Option Grid := do
  repeated deleteLine (min count (← subWord grid.size.rows grid.pos.row)) grid

def setScrollRegion (grid : Grid) (top bottom : Nat) : Option Grid := do
  let last ← subWord grid.size.rows 1
  let bottom := min bottom last
  let grid :=
    if top < bottom then { grid with scrollTop := top, scrollBottom := bottom }
    else { grid with scrollTop := 0, scrollBottom := last }
  some { grid with pos := ⟨grid.scrollTop, 0⟩ }

/-- How many rows were scrolled, and the grid behind that. -/
def rowIncScroll (grid : Grid) (count : Nat) : Option (Nat × Grid) := do
  let (lines, moved) ←
    (grid.moveRow (saturatingAdd grid.pos.row count)).rowClampBottom grid.inScrollRegion
  if grid.inScrollRegion then some (lines, ← moved.scrollUp lines) else some (0, moved)

def rowDecScroll (grid : Grid) (count : Nat) : Option Grid := do
  let extraLines := count - grid.pos.row
  let (lines, moved) := (grid.moveRow (grid.pos.row - count)).rowClampTop grid.inScrollRegion
  moved.scrollDown (← addWord lines extraLines)

/-- A cursor too far right for a character goes to the next row. -/
def colWrap (grid : Grid) (width : Nat) (wrap : Bool) : Option Grid := do
  if (← subWord grid.size.cols width) < grid.pos.col then
    let (scrolled, moved) ← (grid.moveCol 0).rowIncScroll 1
    let prevRow ← subWord grid.pos.row scrolled
    let wrapped ←
      if wrap then do some (decide ((← addWord prevRow 1) = moved.pos.row)) else some false
    moved.updateRow prevRow fun row => some (row.wrap wrapped)
  else some grid

def eraseAll (grid : Grid) : Grid := { grid with rows := grid.rows.map Row.clear }

def eraseRowForward (grid : Grid) : Option Grid :=
  grid.currentRow fun row =>
    row.eraseAll (List.range' grid.pos.col (grid.size.cols - grid.pos.col))

def eraseRowBackward (grid : Grid) : Option Grid := do
  let last ← subWord grid.size.cols 1
  grid.currentRow fun row => row.eraseAll (List.range (min grid.pos.col last + 1))

def eraseRow (grid : Grid) : Option Grid := grid.currentRow fun row => some row.clear

def eraseAllForward (grid : Grid) : Option Grid :=
  { grid with
    rows := grid.rows.take (grid.pos.row + 1) ++
      (grid.rows.drop (grid.pos.row + 1)).map Row.clear : Grid }.eraseRowForward

def eraseAllBackward (grid : Grid) : Option Grid :=
  { grid with
    rows := (grid.rows.take grid.pos.row).map Row.clear ++
      grid.rows.drop grid.pos.row : Grid }.eraseRowBackward

def eraseCells (grid : Grid) (count : Nat) : Option Grid :=
  grid.currentRow fun row =>
    row.eraseAll (List.range' grid.pos.col
      (min (saturatingAdd grid.pos.col count) grid.size.cols - grid.pos.col))

def insertCells (grid : Grid) (count : Nat) : Option Grid := do
  let wide ←
    if grid.pos.col < grid.size.cols then do some (← grid.drawingCell grid.pos).isWideContinuation
    else some false
  grid.currentRow fun row => do
    let row ←
      if wide then repeated (fun row => row.insertSecond grid.pos.col) count row
      else repeated (fun row => row.insert grid.pos.col .blank) count row
    row.truncate grid.size.cols

def deleteCells (grid : Grid) (count : Nat) : Option Grid := do
  let count := min count (← subWord grid.size.cols grid.pos.col)
  grid.currentRow fun row => do
    some ((← repeated (fun row => row.remove grid.pos.col) count row).resize grid.size.cols)

/-- A character where the cursor is. One that takes up no column is a mark on the character in
front, which may be at the end of the row before. -/
def put (widths : CharWidths) (grid : Grid) (lastCol : Nat) (char : Char) : Option Grid := do
  if widths.drawn char = 0 then
    if 0 < grid.pos.col then grid.updateRow grid.pos.row (·.appendMark (grid.pos.col - 1) char)
    else if 0 < grid.pos.row then
      if (← grid.rows[grid.pos.row - 1]?).wrapped then
        grid.updateRow (grid.pos.row - 1) (·.appendMark lastCol char)
      else some grid
    else some grid
  else
    let grid ← grid.updateRow grid.pos.row (·.draw widths grid.pos.col lastCol char)
    some (if 1 < widths.drawn char then (grid.colInc 1).colInc 1 else grid.colInc 1)

/-- Whether a character without space in its row goes on in the next as in one line: when the last
column had something in it. -/
def wraps (widths : CharWidths) (grid : Grid) (lastCol : Nat) (char : Char) : Option Bool := do
  if (← subWord grid.size.cols (widths.drawn char)) < grid.pos.col then
    let last ← grid.drawingCell ⟨grid.pos.row, lastCol⟩
    some (last.hasContents || last.isWideContinuation)
  else some false

def text (widths : CharWidths) (grid : Grid) (char : Char) : Option Grid := do
  -- control characters are not drawn
  if widths.width char = none ∧ char.toNat < 256 then some grid
  else
    let lastCol ← subWord grid.size.cols 1
    let wrap ← grid.wraps widths lastCol char
    let grid ← grid.colWrap (widths.drawn char) wrap
    grid.put widths lastCol char

def setSize (grid : Grid) (size : Size) : Option Grid := do
  -- No row goes on in the next one once the width is another.
  let rows :=
    if size.cols ≠ grid.size.cols then grid.rows.map (·.wrap false) else grid.rows
  let last ← subWord size.rows 1
  -- A region down to the last row keeps to the last row.
  let scrollBottom :=
    if grid.scrollBottom = (← subWord grid.size.rows 1) then last else grid.scrollBottom
  let rows := resized (rows.map (·.resize size.cols)) size.rows (Row.new size.cols)
  let scrollBottom := if size.rows ≤ scrollBottom then last else scrollBottom
  let scrollTop := if scrollBottom < grid.scrollTop then 0 else grid.scrollTop
  let (_, grid) :=
    { grid with
      size := size
      rows := rows
      scrollTop := scrollTop
      scrollBottom := scrollBottom : Grid }.rowClampTop false
  let (_, grid) ← grid.rowClampBottom false
  grid.colClamp

end Grid

end Mult.Terminal.Emulator
