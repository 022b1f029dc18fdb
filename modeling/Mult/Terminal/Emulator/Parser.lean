import Mult.Terminal.Emulator.Resizing
import Mult.Client.Resizing

/-! The parser of a pane's output with the screen it acts on, and what a pane does with both.

The parser that splits output into actions is no part of this repository; it may be any.
-/

set_option autoImplicit false

namespace Mult.Terminal.Emulator
open Foundation Protocol
open Client (PtyDimensions ScreenOperation)

namespace Grid

def visibleRows (grid : Grid) : List Row :=
  (grid.scrollback.drop (grid.scrollback.length - grid.scrollbackOffset)).take grid.rows.length ++
    grid.rows.take (grid.rows.length - grid.scrollbackOffset)

end Grid

namespace Sound

variable {size : Size} {grid : Grid} (sound : Sound size grid)

/-- A sound grid, as selections are read from it. -/
def view : Terminal.Grid where
  size := grid.size
  rows := grid.rows
  scrollback := grid.scrollback
  scrollbackOffset := grid.scrollbackOffset
  filled := sound.filled.trans (congrArg Size.rows sound.sized.symm)
  within := sound.within

theorem visibleRows_view : sound.view.visibleRows = grid.visibleRows := rfl

theorem view_setScrollback (rows : Nat) :
    (sound.setScrollback rows).view = sound.view.setScrollback rows := rfl

end Sound

namespace Screen

def cell (screen : Screen) (row col : Nat) : Option Cell :=
  (screen.current.visibleRows[row]?).bind fun row => row.cells[col]?

def splitRows (screen : Screen) (lastCol : Nat) : List Nat :=
  (List.range screen.current.size.rows).filter fun row =>
    (screen.cell row lastCol).any Cell.isWide

def clampScrollback (screen : Screen) : Screen :=
  screen.setScrollback screen.current.scrollbackOffset

theorem current_setScrollback (screen : Screen) (rows : Nat) :
    (screen.setScrollback rows).current = screen.current.setScrollback rows := by
  rw [setScrollback, withCurrent, current]
  cases screen.alternateScreen <;> rfl

/-- The rows a selection is read from are those the emulator shows, wherever it is scrolled to. -/
theorem Sound.visibleRows_scrolled {size : Size} {screen : Screen} (sound : screen.Sound size)
    (rows : Nat) : (sound.current.view.setScrollback rows).visibleRows =
      (screen.setScrollback rows).current.visibleRows := by
  rw [← Emulator.Sound.view_setScrollback, Emulator.Sound.visibleRows_view, current_setScrollback]

end Screen

theorem usable_clamped (size : PtyDimensions) :
    minScreenRows ≤ size.clamped.rows ∧ size.clamped.rows ≤ maxScreenRows ∧
      minScreenCols ≤ size.clamped.cols ∧ size.clamped.cols ≤ maxScreenCols := by
  have clamped := (PtyDimensions.clamped_eq_iff size.clamped).mp size.clamped_clamped
  exact ⟨clamped.1, clamped.2.1, clamped.2.2.1, clamped.2.2.2.1⟩

/-- A size that was asked for, within the limits. -/
def sizeOf (size : PtyDimensions) : Size where
  rows := size.clamped.rows
  cols := size.clamped.cols
  rows_lt := (usable_clamped size).2.1.trans_lt (by decide)

theorem usable_sizeOf (size : PtyDimensions) : Usable (sizeOf size) where
  rows_ge := (usable_clamped size).1
  rows_le := (usable_clamped size).2.1
  cols_ge := (usable_clamped size).2.2.1
  cols_le := (usable_clamped size).2.2.2

def terminalScrollbackLines : Nat := 5000

/-- A parser of output: what a byte has it call for. -/
structure Vte where
  State : Type
  start : State
  advance : State → UInt8 → State × List Action

/-- What it calls for on a text. -/
def Vte.read (vte : Vte) : vte.State → Bytes → vte.State × List Action
  | state, [] => (state, [])
  | state, byte :: rest =>
      let (state, actions) := vte.advance state byte
      let (last, more) := vte.read state rest
      (last, actions ++ more)

theorem Vte.read_cons (vte : Vte) (state : vte.State) (byte : UInt8) (rest : Bytes) :
    vte.read state (byte :: rest) = ((vte.read (vte.advance state byte).1 rest).1,
      (vte.advance state byte).2 ++ (vte.read (vte.advance state byte).1 rest).2) := rfl

/-- The parser of output with the screen it acts on. -/
structure Parser (vte : Vte) where
  parser : vte.State
  screen : Screen

namespace Parser

variable {vte : Vte} (widths : CharWidths)

def new (vte : Vte) (size : Size) : Option (Parser vte) :=
  (Screen.new size terminalScrollbackLines).map fun screen => ⟨vte.start, screen⟩

def advance (parser : Parser vte) (byte : UInt8) : Option (Parser vte) :=
  let (state, actions) := vte.advance parser.parser byte
  (parser.screen.performAll widths actions).map fun screen => ⟨state, screen⟩

def process (parser : Parser vte) (bytes : Bytes) : Option (Parser vte) :=
  bytes.foldlM (advance widths) parser

def setScrollback (parser : Parser vte) (rows : Nat) : Parser vte :=
  { parser with screen := parser.screen.setScrollback rows }

def clampScrollback (parser : Parser vte) : Parser vte :=
  { parser with screen := parser.screen.clampScrollback }

/-- `ESC 7`, the origin mode off, `CUP` and `EL` for each row, and `ESC 8`. -/
def repairBytes (split : List Nat) (lastCol : Nat) : Bytes :=
  escapeByte :: ascii "7" ++ escapeByte :: ascii "[?6l" ++
    split.flatMap (fun row =>
      escapeByte :: ascii "[" ++ decimal (row + 1) ++ ascii ";" ++ decimal (lastCol + 1) ++
        ascii "H" ++ escapeByte :: ascii "[K") ++
    escapeByte :: ascii "8"

def repairWideCellsBeforeNarrowing (parser : Parser vte) (size : Size) : Option (Parser vte) := do
  if parser.screen.current.size.cols ≤ size.cols then some parser
  else
    let lastCol := size.cols - 1
    let scrollback := parser.screen.current.scrollbackOffset
    let parser := parser.setScrollback 0
    let split := parser.screen.splitRows lastCol
    let parser ←
      if split = [] then some parser else parser.process widths (repairBytes split lastCol)
    some (parser.setScrollback scrollback)

def setSize (parser : Parser vte) (size : Size) : Option (Parser vte) :=
  (parser.screen.setSize size).map fun screen => { parser with screen := screen }

def resizeParser (parser : Parser vte) (size : Size) : Option (Parser vte) := do
  let parser ← parser.repairWideCellsBeforeNarrowing widths size
  let parser ← parser.setSize size
  some parser.clampScrollback

/-- What a pane does with its screen. -/
def apply (parser : Parser vte) : ScreenOperation → Option (Parser vte)
  | .process bytes => parser.process widths bytes
  | .resize size => do
      (← parser.repairWideCellsBeforeNarrowing widths (sizeOf size)).setSize (sizeOf size)
  | .scroll rows => some (parser.setScrollback rows)
  | .clampScrollback => some parser.clampScrollback

variable {widths} {size : Size} {parser : Parser vte}

theorem resizeParser_eq_apply (parser : Parser vte) (wanted : PtyDimensions) :
    parser.resizeParser widths (sizeOf wanted) =
      [ScreenOperation.resize wanted, .clampScrollback].foldlM (apply widths) parser := by
  rw [resizeParser, List.foldlM_cons, apply, bind_assoc]
  rfl

theorem process_eq (parser : Parser vte) (bytes : Bytes) : parser.process widths bytes =
    (parser.screen.performAll widths (vte.read parser.parser bytes).2).map fun screen =>
      ⟨(vte.read parser.parser bytes).1, screen⟩ := by
  induction bytes generalizing parser with
  | nil => rfl
  | cons byte rest ih =>
    have first : parser.advance widths byte =
        (parser.screen.performAll widths (vte.advance parser.parser byte).2).map fun screen =>
          ⟨(vte.advance parser.parser byte).1, screen⟩ := rfl
    rw [process, List.foldlM_cons, first, Vte.read_cons, performAll_append]
    cases parser.screen.performAll widths (vte.advance parser.parser byte).2 with
    | none => rfl
    | some screen => exact ih ⟨_, screen⟩

theorem sound_process (widths : CharWidths) (sound : parser.screen.Sound size) (bytes : Bytes) :
    Succeeds (parser.process widths bytes) fun next => next.screen.Sound size := by
  refine .foldlM sound fun state byte _ held => ?_
  exact (held.performAll widths _).map fun _ next => next

end Parser

def saveCursorAction : Action := .escDispatch [] 0x37

/-- The cursor saved, each of the rows erased from that column on, and the cursor restored. -/
def repairActions (split : List Nat) (lastCol : Nat) : List Action :=
  [saveCursorAction, privateCsi [[6]] 'l'] ++
    split.flatMap (fun row =>
      [csi [[.ofNat (row + 1)], [.ofNat (lastCol + 1)]] 'H', csi [[0]] 'K']) ++
    [restoreCursorAction]

def Parser.cutRows {vte : Vte} (parser : Parser vte) (size : Size) : List Nat :=
  if parser.screen.current.size.cols ≤ size.cols then []
  else (parser.screen.setScrollback 0).splitRows (size.cols - 1)

/-- The parser reads the repair as the control sequences it is made of, as it does where the output
so far has left nothing open: no sequence, no string and no character of several bytes. -/
def Parser.TakesRepair {vte : Vte} (parser : Parser vte) (size : Size) : Prop :=
  parser.cutRows size ≠ [] →
    (vte.read parser.parser (repairBytes (parser.cutRows size) (size.cols - 1))).2 =
      repairActions (parser.cutRows size) (size.cols - 1)

end Mult.Terminal.Emulator
