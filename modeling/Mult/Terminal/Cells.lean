import Mult.Foundation.Succeeds
import Mult.Terminal.Screen

/-! The cells of a screen and its rows, as the emulator changes them.

A character that takes up two columns is stored in the first; the cell behind it is marked as its
second half. What indexes out of a row fails. The drawing attributes of cells are left out: no
change of a row depends on them.
-/

set_option autoImplicit false

namespace Mult.Terminal
open Foundation

/-- How many columns characters take up, where that is known. -/
structure CharWidths where
  width : Char → Option (Fin 3)
  space : width ' ' = some 1

def CharWidths.drawn (widths : CharWidths) (char : Char) : Nat :=
  (widths.width char).elim 1 Fin.val

def plainWidths : CharWidths := ⟨fun _ => some 1, rfl⟩

theorem CharWidths.drawn_le (widths : CharWidths) (char : Char) : widths.drawn char ≤ 2 := by
  rw [drawn]
  cases widths.width char with
  | none => exact Nat.le_succ 1
  | some width => exact Nat.le_of_lt_succ width.isLt

theorem CharWidths.drawn_space (widths : CharWidths) : widths.drawn ' ' = 1 := by
  rw [drawn, widths.space]
  rfl

namespace Cell

def codepointsInCell : Nat := 6

def blank : Cell := ⟨.replicate 6 '\x00', 0⟩

def count (cell : Cell) : Nat := (cell.len &&& 0x0f).toNat

def isWideContinuation (cell : Cell) : Bool := cell.len &&& 0x40 = 0x40

def setWide (cell : Cell) (wide : Bool) : Cell :=
  { cell with len := if wide then cell.len ||| 0x80 else cell.len &&& 0x7f }

def setWideContinuation (wide : Bool) (cell : Cell) : Cell :=
  { cell with len := if wide then cell.len ||| 0x40 else cell.len &&& 0xbf }

def set (widths : CharWidths) (char : Char) (cell : Cell) : Cell :=
  { cell with codepoints := cell.codepoints.set 0 char, len := 1 : Cell }.setWide
    (1 < widths.drawn char)

/-- A mark goes behind what is in the cell, up to what a cell holds. -/
def append (char : Char) (cell : Cell) : Cell :=
  if codepointsInCell ≤ cell.count then cell
  else
    let cell : Cell :=
      if cell.count = 0 then ⟨cell.codepoints.set 0 ' ', cell.len + 1⟩ else cell
    ⟨cell.codepoints.setIfInBounds cell.count char, cell.len + 1⟩

def clear (cell : Cell) : Cell := { cell with len := 0 }

/-- Whether a cell that counts so is wide, and whether it is a second half. -/
def marksOf (len : UInt8) : Bool × Bool := (len &&& 0x80 = 0x80, len &&& 0x40 = 0x40)

/-- Which of the two marks a cell bears. -/
def marks (cell : Cell) : Bool × Bool := (cell.isWide, cell.isWideContinuation)

theorem marks_eq_marksOf (cell : Cell) : cell.marks = marksOf cell.len := rfl

theorem marksOf_eq {len other : UInt8} (same : len &&& 0xc0 = other &&& 0xc0) :
    marksOf len = marksOf other := by
  have both (flag : UInt8) (within : 0xc0 &&& flag = flag) : len &&& flag = other &&& flag := by
    rw [← within, ← UInt8.and_assoc, same, UInt8.and_assoc]
  simp only [marksOf, both 0x80 rfl, both 0x40 rfl]

@[simp] theorem marks_blank : blank.marks = (false, false) := by
  show marksOf 0 = _
  decide

@[simp] theorem marks_clear (cell : Cell) : cell.clear.marks = (false, false) := by
  show marksOf 0 = _
  decide

@[simp] theorem marks_set (widths : CharWidths) (char : Char) (cell : Cell) :
    (cell.set widths char).marks = (decide (1 < widths.drawn char), false) := by
  have marked : ∀ wide : Bool,
      marksOf (if wide then 1 ||| 0x80 else 1 &&& 0x7f) = (wide, false) := by decide
  exact marked _

@[simp] theorem marks_second (cell : Cell) :
    (cell.clear.setWideContinuation true).marks = (false, true) := by
  show marksOf (0 ||| 0x40) = _
  decide

theorem marks_halved (cell : Cell) (narrow : cell.isWide = false) :
    (cell.setWideContinuation false).marks = (false, false) := by
  have wide : (0xbf : UInt8) &&& 0x80 = 0x80 := by decide
  have half : (0xbf : UInt8) &&& 0x40 = 0 := by decide
  have none : ¬ (0 : UInt8) = 0x40 := by decide
  rw [isWide] at narrow
  simp only [setWideContinuation, marks_eq_marksOf, marksOf, Bool.false_eq_true, ↓reduceIte,
    UInt8.and_assoc, wide, half, narrow, UInt8.and_zero, none, decide_false]

set_option maxRecDepth 20000 in
theorem marks_counted : ∀ len : UInt8, (len &&& 0x0f).toNat < 6 →
    (len + 1) &&& 0xc0 = len &&& 0xc0 := by decide

theorem marks_append (char : Char) (cell : Cell) : (cell.append char).marks = cell.marks := by
  rw [append]
  split
  · rfl
  · next few =>
    by_cases empty : cell.count = 0
    · have counted := marks_counted cell.len (Nat.not_le.mp few)
      have short : ((cell.len + 1) &&& 0x0f).toNat < 6 := by
        have zero : cell.len &&& 0x0f = 0 := UInt8.toNat_inj.mp empty
        have nibble : ∀ len : UInt8, len &&& 0x0f = 0 → ((len + 1) &&& 0x0f).toNat < 6 := by
          set_option maxRecDepth 20000 in decide
        exact nibble cell.len zero
      rw [if_pos empty]
      exact marksOf_eq ((marks_counted _ short).trans counted)
    · rw [if_neg empty]
      exact marksOf_eq (marks_counted cell.len (Nat.not_le.mp few))

end Cell

/-- The marks of the cell at a column; outside there are none. -/
def marksAt (cells : List Cell) (col : Nat) : Bool × Bool :=
  (cells[col]?).elim (false, false) Cell.marks

abbrev wideAt (cells : List Cell) (col : Nat) : Bool := (marksAt cells col).1

abbrev halfAt (cells : List Cell) (col : Nat) : Bool := (marksAt cells col).2

/-- Every wide character has its second half behind it, and every second half a wide character
in front. -/
structure Paired (cells : List Cell) : Prop where
  first : halfAt cells 0 = false
  behind : ∀ col, halfAt cells (col + 1) = wideAt cells col
  apart : ∀ col, wideAt cells col = true → halfAt cells col = false

theorem marksAt_of_le {cells : List Cell} {col : Nat} (outside : cells.length ≤ col) :
    marksAt cells col = (false, false) := by
  rw [marksAt, List.getElem?_eq_none outside]
  rfl

theorem marksAt_of_getElem? {cells : List Cell} {col : Nat} {cell : Cell}
    (there : cells[col]? = some cell) : marksAt cells col = cell.marks := by
  rw [marksAt, there]
  rfl

theorem marksAt_modify_at {cells : List Cell} {col : Nat} {cell : Cell} (change : Cell → Cell)
    (there : cells[col]? = some cell) (other : Nat) :
    marksAt (cells.modify col change) other =
      if other = col then (change cell).marks else marksAt cells other := by
  simp only [marksAt, List.getElem?_modify]
  by_cases same : other = col
  · subst same
    simp [there]
  · simp [same, Ne.symm same]

theorem marksAt_modify {cells : List Cell} {col : Nat} {change : Cell → Cell}
    {marks : Bool × Bool} (marked : ∀ cell, (change cell).marks = marks) (other : Nat) :
    marksAt (cells.modify col change) other =
      if other = col ∧ col < cells.length then marks else marksAt cells other := by
  by_cases same : other = col
  · subst same
    by_cases inside : other < cells.length
    · rw [if_pos ⟨rfl, inside⟩, marksAt, List.getElem?_modify, List.getElem?_eq_getElem inside]
      simp [marked]
    · rw [if_neg fun ⟨_, within⟩ => inside within, marksAt_of_le (Nat.not_lt.mp inside),
        marksAt_of_le (by rw [List.length_modify]; exact Nat.not_lt.mp inside)]
  · simp [marksAt, same, Ne.symm same]

theorem marksAt_insertIdx {cells : List Cell} {col : Nat} (le : col ≤ cells.length) (cell : Cell)
    (other : Nat) : marksAt (cells.insertIdx col cell) other =
      if other < col then marksAt cells other
      else if other = col then cell.marks else marksAt cells (other - 1) := by
  simp only [marksAt, List.getElem?_insertIdx]
  split
  · rfl
  · split
    · next same =>
      subst same
      rw [if_pos le]
      rfl
    · rfl

theorem marksAt_eraseIdx (cells : List Cell) (col other : Nat) :
    marksAt (cells.eraseIdx col) other =
      if other < col then marksAt cells other else marksAt cells (other + 1) := by
  simp only [marksAt, List.getElem?_eraseIdx]
  split <;> rfl

theorem marksAt_resized (cells : List Cell) (length other : Nat) :
    marksAt (resized cells length .blank) other =
      if other < length then marksAt cells other else (false, false) := by
  simp only [marksAt, getElem?_resized]
  split
  · cases cells[other]? <;> rfl
  · rfl

theorem marksAt_take (cells : List Cell) (length other : Nat) :
    marksAt (cells.take length) other =
      if other < length then marksAt cells other else (false, false) := by
  simp only [marksAt, List.getElem?_take]
  split <;> rfl

theorem marksAt_cleared {cells : List Cell}
    (cleared : ∀ cell ∈ cells, cell.marks = (false, false)) (col : Nat) :
    marksAt cells col = (false, false) := by
  rw [marksAt]
  cases there : cells[col]? with
  | none => rfl
  | some cell => exact cleared cell (List.mem_of_getElem? there)

theorem paired_of_marks {cells : List Cell} {marks : Nat → Bool × Bool}
    (marked : ∀ col, marksAt cells col = marks col) (first : (marks 0).2 = false)
    (adjacent : ∀ col, (marks (col + 1)).2 = (marks col).1 ∧
      ((marks col).1 = true → (marks col).2 = false)) : Paired cells where
  first := by rw [halfAt, marked, first]
  behind col := by rw [halfAt, wideAt, marked, marked, (adjacent col).1]
  apart col := by
    rw [halfAt, wideAt, marked]
    exact (adjacent col).2

theorem paired_cleared {cells : List Cell}
    (cleared : ∀ cell ∈ cells, cell.marks = (false, false)) : Paired cells := by
  exact paired_of_marks (marksAt_cleared cleared) rfl fun _ => ⟨rfl, fun _ => rfl⟩

namespace Paired

variable {cells : List Cell} (paired : Paired cells)

include paired

theorem wide_lt {col : Nat} (wide : wideAt cells col = true) : col + 1 < cells.length := by
  by_contra outside
  have half := paired.behind col
  rw [wide, halfAt, marksAt_of_le (Nat.not_lt.mp outside)] at half
  cases half

theorem half_pos {col : Nat} (half : halfAt cells col = true) : 0 < col := by
  rcases Nat.eq_zero_or_pos col with rfl | positive
  · rw [paired.first] at half
    cases half
  · exact positive

end Paired

end Mult.Terminal
