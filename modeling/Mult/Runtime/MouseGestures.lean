import Mult.Foundation.Machine
import Mult.Project.State
import Mult.Terminal.MouseReports

/-! Where a mouse event goes: to the program in the pane under the pointer, or to the client's own
text selection; and which presses are held back until the gesture says whose they are.

Scrolling is not followed: what a wheel notch does to the view or to a selection is a change of
the selection like any other.
-/

set_option autoImplicit false

namespace Mult.Runtime
open Foundation Protocol Project Terminal

inductive MouseButton where
  | left
  | right
  | middle
  deriving DecidableEq, Repr

inductive MouseEventKind where
  | down (button : MouseButton)
  | up (button : MouseButton)
  | drag (button : MouseButton)
  | moved
  | scrollDown
  | scrollUp
  | scrollLeft
  | scrollRight
  deriving DecidableEq, Repr

structure MouseEvent where
  kind : MouseEventKind
  column : Nat
  row : Nat
  shift : Bool
  alt : Bool
  ctrl : Bool
  deriving DecidableEq, Repr

structure Rect where
  x : Nat
  y : Nat
  width : Nat
  height : Nat
  deriving DecidableEq, Repr

structure SelectionCell where
  row : Int
  col : Nat
  deriving DecidableEq, Repr

structure TextSelection where
  terminal : PtyKey
  anchor : SelectionCell
  focus : SelectionCell
  dragging : Bool
  deriving DecidableEq, Repr

/-- A left press that was held back, with the modifiers it came with. -/
structure HeldPaneClick where
  terminal : PtyKey
  cell : SelectionCell
  shift : Bool
  alt : Bool
  ctrl : Bool
  deriving DecidableEq, Repr

def u16Max : Nat := 65535

def rectContains (area : Rect) (column row : Nat) : Bool :=
  area.x ≤ column && column < min (area.x + area.width) u16Max && area.y ≤ row &&
    row < min (area.y + area.height) u16Max

def mouseCellInArea (area : Rect) (column row : Nat) : Option SelectionCell :=
  if area.width = 0 ∨ area.height = 0 then none
  else some ⟨(min (row - area.y) (area.height - 1) : Nat), min (column - area.x) (area.width - 1)⟩

def ptyMouseButton : MouseButton → PtyMouseButton
  | .left => .left
  | .middle => .middle
  | .right => .right

def ptyMouseAction : MouseEventKind → PtyMouseAction
  | .down button => .press (ptyMouseButton button)
  | .up button => .release (ptyMouseButton button)
  | .drag button => .drag (ptyMouseButton button)
  | .moved => .move
  | .scrollUp => .press .wheelUp
  | .scrollDown => .press .wheelDown
  | .scrollLeft => .press .wheelLeft
  | .scrollRight => .press .wheelRight

/-- An event addressed to a pane's own screen, counted from one. -/
def paneMouseReport (action : PtyMouseAction) (cell : SelectionCell) (shift alt ctrl : Bool) :
    PtyMouseReport where
  action
  col := min (cell.col + 1) u16Max
  row := min ((if 0 ≤ cell.row ∧ cell.row ≤ u16Max then cell.row.toNat else 0) + 1) u16Max
  shift
  alt
  ctrl

def heldClickReport (action : PtyMouseAction) (held : HeldPaneClick) : PtyMouseReport :=
  paneMouseReport action held.cell held.shift held.alt held.ctrl

/-- What the client knows of a pane's program: its screen's mouse mode, and whether the pane is
attached and its lease held; and whether the program is there at all. -/
structure PaneMouse where
  mode : MouseProtocolMode
  encoding : MouseProtocolEncoding
  attached : Bool
  leased : Bool
  alive : Bool
  deriving DecidableEq, Repr

def PaneMouse.isRunning (pane : PaneMouse) : Bool := pane.attached && pane.leased

def PaneMouse.reportsMouse (pane : PaneMouse) : Bool := pane.mode ≠ .none

def PaneMouse.wants (pane : PaneMouse) (action : PtyMouseAction) : Bool :=
  action.isWantedIn pane.mode

/-- How the write of a report goes: through, or so that it may fail and leave the panes otherwise
than they were. -/
inductive Write where
  | through
  | disturbed (delivered : Bool) (panes : PtyKey → PaneMouse)

/-- What becomes of the programs and of the left button. -/
inductive Observation where
  /-- A report was delivered to the program of the terminal, under the mode. -/
  | report (terminal : PtyKey) (action : PtyMouseAction) (mode : MouseProtocolMode)
  | changed (terminal : PtyKey) (pane : PaneMouse)
  /-- The user let go of the left button. -/
  | letGo

structure Pointing where
  textSelection : Option TextSelection
  heldPaneClick : Option HeldPaneClick
  panes : PtyKey → PaneMouse
  /-- How the writes go that this event may cause. -/
  writes : List Write
  trace : List Observation

namespace Pointing

def observe (pointing : Pointing) (observation : Observation) : Pointing :=
  { pointing with trace := pointing.trace ++ [observation] }

def beginTextSelection (pointing : Pointing) (terminal : PtyKey) (cell : SelectionCell) :
    Pointing :=
  { pointing with textSelection := some ⟨terminal, cell, cell, true⟩ }

def updateTextSelection (pointing : Pointing) (terminal : PtyKey) (cell : SelectionCell) :
    Pointing :=
  { pointing with
    textSelection := pointing.textSelection.map fun selection =>
      if selection.terminal = terminal then { selection with focus := cell } else selection }

def clearTextSelection (pointing : Pointing) : Pointing := { pointing with textSelection := none }

def holdPaneClick (pointing : Pointing) (held : HeldPaneClick) : Pointing :=
  { pointing with heldPaneClick := some held }

def dropHeldPaneClick (pointing : Pointing) : Pointing := { pointing with heldPaneClick := none }

def heldFor (pointing : Pointing) (terminal : PtyKey) : Option HeldPaneClick :=
  pointing.heldPaneClick.filter fun held => held.terminal = terminal

/-- Sends a report to the program of the terminal, if it wants it and is there; whether it was
delivered. -/
def forwardMouse (pointing : Pointing) (terminal : PtyKey) (report : PtyMouseReport) :
    Bool × Pointing :=
  let pane := pointing.panes terminal
  match mouseReportBytes pane.mode pane.encoding report with
  | none => (false, pointing)
  | some _ =>
    if !pane.attached then (false, pointing)
    else
      let delivered := pointing.observe (.report terminal report.action pane.mode)
      match pointing.writes with
      | [] => if pane.leased then (true, delivered) else (false, pointing)
      | .through :: writes =>
          if pane.leased then (true, { delivered with writes }) else (false, { pointing with writes })
      | .disturbed true panes :: writes => (true, { delivered with writes, panes })
      | .disturbed false panes :: writes => (false, { pointing with writes, panes })

/-- Sends a held press on its way as the click it was. -/
def flushHeldPaneClick (pointing : Pointing) : Pointing :=
  match pointing.heldPaneClick with
  | none => pointing
  | some held =>
    let pressed := (pointing.dropHeldPaneClick.forwardMouse held.terminal
      (heldClickReport (.press .left) held)).2
    (pressed.forwardMouse held.terminal (heldClickReport (.release .left) held)).2

end Pointing

/-! ## Routing -/

/-- What the routing of an event needs of the client: whether a prompt is open, and the selected
pane with its area on the screen. -/
structure MouseView where
  promptActive : Bool
  output : Option (PtyKey × Rect)
  deriving DecidableEq, Repr

def MouseView.outputTerminalAt (view : MouseView) (column row : Nat) : Option (PtyKey × Rect) :=
  view.output.filter fun output => rectContains output.2 column row

namespace Pointing

/-- The left button over a program that does not follow motion, as its gesture resolves it: the
answer, where this decides the event, whether the program consumed it. -/
def routeByGesture (pointing : Pointing) (terminal : PtyKey) (cell : SelectionCell)
    (event : MouseEvent) : Option Bool × Pointing :=
  match ptyMouseAction event.kind with
  -- A press is held back until the gesture shows whether it is a click or a selection.
  | .press .left =>
      (some true, pointing.clearTextSelection.holdPaneClick
        ⟨terminal, cell, event.shift, event.alt, event.ctrl⟩)
  | .drag .left =>
      match pointing.heldFor terminal with
      | none => (some false, pointing)
      | some held =>
          (some false, pointing.dropHeldPaneClick.beginTextSelection terminal held.cell)
  | .release .left =>
      match pointing.heldFor terminal with
      | none => (some false, pointing)
      | some held =>
          if held.cell ≠ cell then
            (some false, pointing.dropHeldPaneClick.beginTextSelection terminal held.cell)
          else (some true, pointing.flushHeldPaneClick)
  | action =>
      -- Any other event the program wants comes behind the click, which it must not overtake.
      if (pointing.panes terminal).wants action then (none, pointing.flushHeldPaneClick)
      else (none, pointing)

/-- Hands an event to the program under the pointer, if it asked for the mouse; whether the event
was consumed. -/
def forwardMouseToProgram (pointing : Pointing) (view : MouseView) (event : MouseEvent) :
    Bool × Pointing :=
  match view.outputTerminalAt event.column event.row with
  | none => (false, pointing)
  | some (terminal, area) =>
    let pane := pointing.panes terminal
    if !pane.isRunning || !pane.reportsMouse then (false, pointing)
    else
      match mouseCellInArea area event.column event.row with
      | none => (true, pointing)
      | some cell =>
        let action := ptyMouseAction event.kind
        -- The pointer has left the pane of the held press.
        let flushed := if pointing.heldPaneClick.any (fun held => held.terminal ≠ terminal) then
          pointing.flushHeldPaneClick else pointing
        let (decided, pointing) :=
          if !(flushed.panes terminal).wants (.drag .left) then
            flushed.routeByGesture terminal cell event
          else (none, flushed)
        match decided with
        | some consumed => (consumed, pointing)
        | none =>
          let pointing := match action with
            | .press _ => pointing.clearTextSelection
            | _ => pointing
          (true, (pointing.forwardMouse terminal
            (paneMouseReport action cell event.shift event.alt event.ctrl)).2)

def beginTextSelectionAtMouse (pointing : Pointing) (view : MouseView) (event : MouseEvent) :
    Pointing :=
  match view.outputTerminalAt event.column event.row with
  | none => pointing.clearTextSelection
  | some (terminal, area) =>
    match mouseCellInArea area event.column event.row with
    | none => pointing
    | some cell => pointing.beginTextSelection terminal cell

/-- The cell under the pointer in the pane of the selection, if that is the selected one. -/
def activeSelectionCell (pointing : Pointing) (view : MouseView) (event : MouseEvent) :
    Option (PtyKey × SelectionCell) :=
  match pointing.textSelection, view.output with
  | some selection, some (terminal, area) =>
      if terminal ≠ selection.terminal then none
      else (mouseCellInArea area event.column event.row).map fun cell => (terminal, cell)
  | _, _ => none

def updateTextSelectionAtMouse (pointing : Pointing) (view : MouseView) (event : MouseEvent) :
    Pointing :=
  match pointing.activeSelectionCell view event with
  | none => pointing
  | some (terminal, cell) => pointing.updateTextSelection terminal cell

/-- The end of a selection; an empty one is dropped, any other has been copied. -/
def finishTextSelectionAtMouse (pointing : Pointing) (view : MouseView) (event : MouseEvent) :
    Pointing :=
  match pointing.activeSelectionCell view event with
  | none => pointing
  | some (terminal, cell) =>
    let updated := pointing.updateTextSelection terminal cell
    match updated.textSelection with
    | none => updated
    | some selection =>
      if selection.anchor = selection.focus then updated.clearTextSelection
      else { updated with textSelection := some { selection with dragging := false } }

def handleLocally (pointing : Pointing) (view : MouseView) (event : MouseEvent) : Pointing :=
  match event.kind with
  | .down .left => pointing.flushHeldPaneClick.beginTextSelectionAtMouse view event
  | .drag .left => pointing.updateTextSelectionAtMouse view event
  | .up .left => (pointing.finishTextSelectionAtMouse view event).flushHeldPaneClick
  | _ => pointing

def handleMouse (pointing : Pointing) (view : MouseView) (event : MouseEvent) : Pointing :=
  if view.promptActive then pointing
  else if event.shift then pointing.handleLocally view event
  else
    let (consumed, pointing) := pointing.forwardMouseToProgram view event
    if consumed then pointing else pointing.handleLocally view event

end Pointing

inductive PointerStep where
  | mouse (view : MouseView) (event : MouseEvent) (writes : List Write)
  /-- Any change of the selection by another hand. -/
  | select (selection : Option TextSelection)
  /-- A program changes its mode, comes or goes, or the client loses or regains its pane. -/
  | change (terminal : PtyKey) (pane : PaneMouse)

def Pointing.step (pointing : Pointing) : PointerStep → Pointing
  | .mouse view event writes =>
      let handled := { pointing with writes }.handleMouse view event
      if event.kind = .up .left then handled.observe .letGo else handled
  | .select selection => { pointing with textSelection := selection }
  | .change terminal pane =>
      { pointing with panes := Function.update pointing.panes terminal pane }.observe
        (.changed terminal pane)

/-- Any panes at first, with nothing selected, held back or sent. -/
def pointerMachine : Machine Pointing PointerStep Observation where
  start pointing := pointing.heldPaneClick = none ∧ pointing.trace = []
  step pointing action := some (pointing.step action, [])

end Mult.Runtime
