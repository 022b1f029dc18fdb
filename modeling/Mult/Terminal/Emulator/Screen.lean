import Mult.Terminal.Emulator.Grid
import Mult.Terminal.MouseReports

/-! The screen of a terminal emulator: its two grids, and what the parser of the output has it do.

Titles, bells and drawing attributes are left out, as nothing here reads them; the sequences that
only set those do nothing.
-/

set_option autoImplicit false

namespace Mult.Terminal.Emulator
open Foundation Protocol

structure Screen where
  grid : Grid
  alternateGrid : Grid
  applicationKeypad : Bool
  applicationCursor : Bool
  hideCursor : Bool
  alternateScreen : Bool
  bracketedPaste : Bool
  mouseProtocolMode : MouseProtocolMode
  mouseProtocolEncoding : MouseProtocolEncoding

/-- What the parser calls for: a character, a control code, or a sequence with its parameters. -/
inductive Action where
  | print (char : Char)
  | execute (code : UInt8)
  | escDispatch (intermediates : Bytes) (final : UInt8)
  | csiDispatch (params : List (List UInt16)) (intermediates : Bytes) (final : Char)
  | oscDispatch (params : List Bytes)
  | hook (params : List (List UInt16)) (intermediates : Bytes) (final : Char)
  deriving DecidableEq, Repr

def firstParam (params : List (List UInt16)) (index : Nat) : Nat :=
  ((params[index]?).bind List.head?).elim 0 UInt16.toNat

/-- A parameter that is zero stands for its default. -/
def canonicalizeParam (params : List (List UInt16)) (index default : Nat) : Nat :=
  if firstParam params index = 0 then default else firstParam params index

namespace Screen

def new (size : Size) (scrollbackLen : Nat) : Option Screen := do
  some
    { grid := (← Grid.new size scrollbackLen).allocateRows
      alternateGrid := ← Grid.new size 0
      applicationKeypad := false
      applicationCursor := false
      hideCursor := false
      alternateScreen := false
      bracketedPaste := false
      mouseProtocolMode := .none
      mouseProtocolEncoding := .default }

def current (screen : Screen) : Grid :=
  if screen.alternateScreen then screen.alternateGrid else screen.grid

def hidden (screen : Screen) : Grid :=
  if screen.alternateScreen then screen.grid else screen.alternateGrid

def withCurrent (screen : Screen) (grid : Grid) : Screen :=
  if screen.alternateScreen then { screen with alternateGrid := grid }
  else { screen with grid := grid }

def updateGrid (screen : Screen) (change : Grid → Option Grid) : Option Screen :=
  (change screen.current).map screen.withCurrent

def setSize (screen : Screen) (size : Size) : Option Screen := do
  some
    { screen with
      grid := ← screen.grid.setSize size
      alternateGrid := ← screen.alternateGrid.setSize size }

def setScrollback (screen : Screen) (rows : Nat) : Screen :=
  screen.withCurrent (screen.current.setScrollback rows)

def enterAlternateGrid (screen : Screen) : Screen :=
  let screen := screen.setScrollback 0
  { screen with alternateScreen := true, alternateGrid := screen.alternateGrid.allocateRows }

def exitAlternateGrid (screen : Screen) : Screen := { screen with alternateScreen := false }

def saveCursor (screen : Screen) : Screen := screen.withCurrent screen.current.saveCursor

def restoreCursor (screen : Screen) : Screen := screen.withCurrent screen.current.restoreCursor

def clearMouseMode (screen : Screen) (mode : MouseProtocolMode) : Screen :=
  if screen.mouseProtocolMode = mode then { screen with mouseProtocolMode := .none } else screen

def clearMouseEncoding (screen : Screen) (encoding : MouseProtocolEncoding) : Screen :=
  if screen.mouseProtocolEncoding = encoding then { screen with mouseProtocolEncoding := .default }
  else screen

/-- A full reset: a new screen of the same size. -/
def ris (screen : Screen) : Option Screen := new screen.grid.size screen.grid.scrollbackLen

def ed (screen : Screen) (mode : Nat) : Option Screen :=
  match mode with
  | 0 => screen.updateGrid Grid.eraseAllForward
  | 1 => screen.updateGrid Grid.eraseAllBackward
  | 2 => screen.updateGrid fun grid => some grid.eraseAll
  | _ => some screen

def el (screen : Screen) (mode : Nat) : Option Screen :=
  match mode with
  | 0 => screen.updateGrid Grid.eraseRowForward
  | 1 => screen.updateGrid Grid.eraseRowBackward
  | 2 => screen.updateGrid Grid.eraseRow
  | _ => some screen

def cup (screen : Screen) (row col : Nat) : Option Screen := do
  let pos := ⟨← subWord row 1, ← subWord col 1⟩
  screen.updateGrid fun grid => grid.setPos pos

def decstbm (screen : Screen) (top bottom : Nat) : Option Screen := do
  let top ← subWord top 1
  let bottom ← subWord bottom 1
  screen.updateGrid fun grid => grid.setScrollRegion top bottom

def decset (screen : Screen) (param : List UInt16) : Option Screen :=
  match param with
  | [1] => some { screen with applicationCursor := true }
  | [6] => screen.updateGrid fun grid => grid.setOriginMode true
  | [9] => some { screen with mouseProtocolMode := .press }
  | [25] => some { screen with hideCursor := false }
  | [47] => some screen.enterAlternateGrid
  | [1000] => some { screen with mouseProtocolMode := .pressRelease }
  | [1002] => some { screen with mouseProtocolMode := .buttonMotion }
  | [1003] => some { screen with mouseProtocolMode := .anyMotion }
  | [1005] => some { screen with mouseProtocolEncoding := .utf8 }
  | [1006] => some { screen with mouseProtocolEncoding := .sgr }
  | [1049] => do
      let screen := screen.saveCursor
      some { screen with alternateGrid := ← screen.alternateGrid.clear : Screen }.enterAlternateGrid
  | [2004] => some { screen with bracketedPaste := true }
  | _ => some screen

def decrst (screen : Screen) (param : List UInt16) : Option Screen :=
  match param with
  | [1] => some { screen with applicationCursor := false }
  | [6] => screen.updateGrid fun grid => grid.setOriginMode false
  | [9] => some (screen.clearMouseMode .press)
  | [25] => some { screen with hideCursor := true }
  | [47] => some screen.exitAlternateGrid
  | [1000] => some (screen.clearMouseMode .pressRelease)
  | [1002] => some (screen.clearMouseMode .buttonMotion)
  | [1003] => some (screen.clearMouseMode .anyMotion)
  | [1005] => some (screen.clearMouseEncoding .utf8)
  | [1006] => some (screen.clearMouseEncoding .sgr)
  | [1049] => some screen.exitAlternateGrid.restoreCursor
  | [2004] => some { screen with bracketedPaste := false }
  | _ => some screen

def execute (screen : Screen) (code : UInt8) : Option Screen :=
  match code with
  | 8 => screen.updateGrid fun grid => some (grid.colDec 1)
  | 9 => screen.updateGrid Grid.colTab
  | 10 | 11 | 12 => screen.updateGrid fun grid => (grid.rowIncScroll 1).map Prod.snd
  | 13 => screen.updateGrid fun grid => grid.colSet 0
  | _ => some screen

def escDispatch (screen : Screen) (final : UInt8) : Option Screen :=
  match final with
  -- `7`, `8`, `=`, `>`, `M`, `c`
  | 0x37 => some screen.saveCursor
  | 0x38 => some screen.restoreCursor
  | 0x3d => some { screen with applicationKeypad := true }
  | 0x3e => some { screen with applicationKeypad := false }
  | 0x4d => screen.updateGrid fun grid => grid.rowDecScroll 1
  | 0x63 => screen.ris
  | _ => some screen

def csiDispatch (screen : Screen) (params : List (List UInt16)) (final : Char) : Option Screen :=
  let count := canonicalizeParam params 0 1
  match final with
  | '@' => screen.updateGrid fun grid => grid.insertCells count
  | 'A' => screen.updateGrid fun grid => some (grid.rowDecClamp count)
  | 'B' => screen.updateGrid fun grid => grid.rowIncClamp count
  | 'C' => screen.updateGrid fun grid => grid.colIncClamp count
  | 'D' => screen.updateGrid fun grid => some (grid.colDec count)
  | 'G' => do
      let col ← subWord count 1
      screen.updateGrid fun grid => grid.colSet col
  | 'H' => screen.cup count (canonicalizeParam params 1 1)
  | 'J' => screen.ed (canonicalizeParam params 0 0)
  | 'K' => screen.el (canonicalizeParam params 0 0)
  | 'L' => screen.updateGrid fun grid => grid.insertLines count
  | 'M' => screen.updateGrid fun grid => grid.deleteLines count
  | 'P' => screen.updateGrid fun grid => grid.deleteCells count
  | 'S' => screen.updateGrid fun grid => grid.scrollUp count
  | 'T' => screen.updateGrid fun grid => grid.scrollDown count
  | 'X' => screen.updateGrid fun grid => grid.eraseCells count
  | 'd' => do
      let row ← subWord count 1
      screen.updateGrid fun grid => grid.rowSet row
  | 'r' => screen.decstbm count (canonicalizeParam params 1 screen.current.size.rows)
  | _ => some screen

/-- The sequences with a question mark. -/
def privateDispatch (screen : Screen) (params : List (List UInt16)) (final : Char) :
    Option Screen :=
  match final with
  | 'J' => screen.ed (canonicalizeParam params 0 0)
  | 'K' => screen.el (canonicalizeParam params 0 0)
  | 'h' => params.foldlM decset screen
  | 'l' => params.foldlM decrst screen
  | _ => some screen

def perform (widths : CharWidths) (screen : Screen) : Action → Option Screen
  | .print char => screen.updateGrid fun grid => grid.text widths char
  | .execute code => screen.execute code
  | .escDispatch intermediates final =>
      if intermediates = [] then screen.escDispatch final else some screen
  | .csiDispatch params intermediates final =>
      match intermediates.head? with
      | none => screen.csiDispatch params final
      | some first =>
          if first = questionMark then screen.privateDispatch params final else some screen
  | .oscDispatch _ => some screen
  | .hook _ _ _ => some screen

/-- Output, as the actions the parser makes of it. -/
def performAll (widths : CharWidths) (screen : Screen) (actions : List Action) : Option Screen :=
  actions.foldlM (perform widths) screen

end Screen

end Mult.Terminal.Emulator
