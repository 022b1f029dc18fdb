import Mathlib

/-! The grid of a screen, the rows of it in view, and the text of cells on them.
-/

set_option autoImplicit false

namespace Mult.Terminal

structure Cell where
  codepoints : Vector Char 6
  /-- How many of them count, and in the upper bits whether the character is wide, or the cell the
  second half of one. -/
  len : UInt8

namespace Cell

def contents (cell : Cell) : List Char := cell.codepoints.toList.take (cell.len &&& 0x0f).toNat
def hasContents (cell : Cell) : Bool := 0 < cell.len
def isWide (cell : Cell) : Bool := cell.len &&& 0x80 = 0x80

end Cell

structure Row where
  cells : List Cell
  wrapped : Bool

/-- Where writing a row has got to. -/
structure RowWriter where
  contents : List Char
  prevCol : Nat
  prevWasWide : Bool

def RowWriter.cell (writer : RowWriter) (col : Nat) (cell : Cell) : RowWriter :=
  if writer.prevWasWide then { writer with prevWasWide := false }
  else if cell.hasContents then
    ⟨writer.contents ++ List.replicate (col - writer.prevCol) ' ' ++ cell.contents,
      col + if cell.isWide then 2 else 1, cell.isWide⟩
  else { writer with prevWasWide := cell.isWide }

def Row.writeContents (row : Row) (contents : List Char) (start width : Nat) (wrapping : Bool) :
    List Char :=
  let writer := ((row.cells.zipIdx.drop start).take width).foldl
    (fun writer (cell, col) => writer.cell col cell) (⟨contents, start, false⟩ : RowWriter)
  if writer.prevCol = start ∧ wrapping then writer.contents ++ ['\n'] else writer.contents

structure Size where
  rows : Nat
  cols : Nat
  rows_lt : rows < 2 ^ 16

/-- A grid that is shown: as many rows as it is high, what was scrolled out of it, and how far the
view is scrolled back. -/
structure Grid where
  size : Size
  rows : List Row
  scrollback : List Row
  scrollbackOffset : Nat
  filled : rows.length = size.rows
  within : scrollbackOffset ≤ scrollback.length

namespace Grid

def visibleRows (grid : Grid) : List Row :=
  (grid.scrollback.drop (grid.scrollback.length - grid.scrollbackOffset)).take grid.rows.length ++
    grid.rows.take (grid.rows.length - grid.scrollbackOffset)

def setScrollback (grid : Grid) (rows : Nat) : Grid :=
  { grid with
    scrollbackOffset := min rows grid.scrollback.length
    within := Nat.min_le_right rows grid.scrollback.length }

def rowWrapped (grid : Grid) (row : Nat) : Bool := (grid.visibleRows[row]?).any Row.wrapped

def contentsBetween (grid : Grid) (startRow startCol endRow endCol : Nat) : List Char :=
  match compare startRow endRow with
  | .lt =>
      ((grid.visibleRows.zipIdx.drop startRow).take (endRow - startRow + 1)).foldl
        (fun contents (row, i) =>
          if i = startRow then
            let contents := row.writeContents contents startCol (grid.size.cols - startCol) false
            if !row.wrapped then contents ++ ['\n'] else contents
          else if i = endRow then row.writeContents contents 0 endCol false
          else
            let contents := row.writeContents contents 0 grid.size.cols false
            if !row.wrapped then contents ++ ['\n'] else contents) []
  | .eq =>
      if startCol < endCol then
        ((grid.visibleRows.map fun row =>
          row.writeContents [] startCol (endCol - startCol) false)[startRow]?).getD []
      else []
  | .gt => []

end Grid

/-- The cells of a row from one column up to another, as text. -/
def Row.text (row : Row) (fromCol toCol : Nat) : List Char :=
  row.writeContents [] fromCol (toCol - fromCol) false

theorem RowWriter.cell_contents (writer : RowWriter) (before : List Char) (col : Nat)
    (cell : Cell) : { writer with contents := before ++ writer.contents }.cell col cell =
      { writer.cell col cell with contents := before ++ (writer.cell col cell).contents } := by
  unfold RowWriter.cell
  by_cases skipped : writer.prevWasWide = true
  · simp only [skipped, ↓reduceIte]
  · by_cases some : cell.hasContents = true
    · simp only [skipped, some, ↓reduceIte, Bool.false_eq_true, List.append_assoc]
    · simp only [skipped, some, ↓reduceIte, Bool.false_eq_true]

theorem Row.writeContents_append (row : Row) (contents : List Char) (start width : Nat) :
    row.writeContents contents start width false =
      contents ++ row.writeContents [] start width false := by
  have moved : ∀ (cells : List (Cell × Nat)) (writer : RowWriter),
      cells.foldl (fun writer (cell, col) => writer.cell col cell)
        { writer with contents := contents ++ writer.contents } =
      let written := cells.foldl (fun writer (cell, col) => writer.cell col cell) writer
      { written with contents := contents ++ written.contents } := by
    intro cells
    induction cells with
    | nil => exact fun _ => rfl
    | cons first rest ih =>
      intro writer
      rw [List.foldl_cons]
      dsimp only
      rw [RowWriter.cell_contents, ih]
      rfl
  have written := moved ((row.cells.zipIdx.drop start).take width) ⟨[], start, false⟩
  rw [List.append_nil] at written
  simp only [Row.writeContents, written, Bool.false_eq_true, and_false, ↓reduceIte]

namespace Grid
variable (grid : Grid)

/-- All rows there are, oldest first. -/
def lines : List Row := grid.scrollback ++ grid.rows

theorem visibleRows_eq : grid.visibleRows =
    (grid.lines.drop (grid.scrollback.length - grid.scrollbackOffset)).take grid.rows.length := by
  have dropped : (grid.scrollback.drop
      (grid.scrollback.length - grid.scrollbackOffset)).length = grid.scrollbackOffset := by
    rw [List.length_drop]
    have := grid.within
    omega
  rw [visibleRows, lines, List.drop_append_of_le_length (Nat.sub_le _ _), List.take_append, dropped]

theorem length_visibleRows : grid.visibleRows.length = grid.size.rows := by
  have := grid.within
  rw [visibleRows_eq, List.length_take, List.length_drop, lines, List.length_append, grid.filled]
  omega

theorem visibleRows_getElem? {row : Nat} (shown : row < grid.size.rows) :
    grid.visibleRows[row]? =
      grid.lines[grid.scrollback.length - grid.scrollbackOffset + row]? := by
  rw [visibleRows_eq, List.getElem?_take_of_lt (grid.filled ▸ shown), List.getElem?_drop]

end Grid

end Mult.Terminal
