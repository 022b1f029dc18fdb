import Mult.Foundation.Traces
import Mult.Runtime.MouseGestures

/-! Which reports of the left button reach a program: what one mouse event hands on, and when the
presses and releases of a whole run come in pairs.
-/

set_option autoImplicit false

namespace Mult.Runtime
open Foundation Project Terminal

def PaneMouse.followsMotion (pane : PaneMouse) : Bool := pane.wants (.drag .left)
def PaneMouse.reportsReleases (pane : PaneMouse) : Bool := pane.wants (.release .left)

/-- Whether the program of a terminal is told that the left button is down, and it still is. -/
def holdsAfter (terminal : PtyKey) (holds : Bool) : Observation → Bool
  | .report told action _ =>
      if told ≠ terminal then holds
      else match action with
        | .press .left => true
        | .release .left => false
        | _ => holds
  | .changed told pane => if told ≠ terminal then holds else holds && pane.alive
  | .letGo => false

def holds (terminal : PtyKey) (trace : List Observation) : Bool :=
  trace.foldl (holdsAfter terminal) false

/-- Whether the program of a terminal is owed a release: it was told of a press, and has been there
and reported releases ever since. -/
def owedAfter (terminal : PtyKey) (owed : Bool) : Observation → Bool
  | .report told action mode =>
      if told ≠ terminal then owed
      else match action with
        | .press .left => (PtyMouseAction.release .left).isWantedIn mode
        | .release .left => false
        | _ => owed
  | .changed told pane =>
      if told ≠ terminal then owed else owed && pane.alive && pane.reportsReleases
  | .letGo => owed

def owed (terminal : PtyKey) (trace : List Observation) : Bool :=
  trace.foldl (owedAfter terminal) false

/-- A release or a drag is told only to a program that holds the button, and when the user lets go
no program is owed a release. -/
def Fits (trace : List Observation) : Observation → Prop
  | .report terminal action _ =>
      action = .release .left ∨ action = .drag .left → holds terminal trace = true
  | .changed _ _ => True
  | .letGo => ∀ terminal, owed terminal trace = false

def WellBracketed (trace : List Observation) : Prop :=
  ∀ before observation after, trace = before ++ observation :: after → Fits before observation

theorem WellBracketed.nil : WellBracketed [] := by
  intro before observation after split
  simp at split

theorem WellBracketed.observe {trace : List Observation} {observation : Observation}
    (bracketed : WellBracketed trace) (fits : Fits trace observation) :
    WellBracketed (trace ++ [observation]) := by
  intro before other after split
  rcases snoc_split split with ⟨rfl, rfl, -⟩ | ⟨between, same, -⟩
  · exact fits
  · exact bracketed before other between same

theorem holds_append (terminal : PtyKey) (first second : List Observation) :
    holds terminal (first ++ second) = second.foldl (holdsAfter terminal) (holds terminal first) :=
  List.foldl_append

theorem owed_append (terminal : PtyKey) (first second : List Observation) :
    owed terminal (first ++ second) = second.foldl (owedAfter terminal) (owed terminal first) :=
  List.foldl_append

/-! ## Reports that are handed on -/

/-- An action handed to the program of a terminal. -/
abbrev Handed := PtyKey × PtyMouseAction

/-- The report of an action, where it reaches the program. -/
def told (panes : PtyKey → PaneMouse) (handed : Handed) : List Observation :=
  if (panes handed.1).wants handed.2 && (panes handed.1).isRunning then
    [.report handed.1 handed.2 (panes handed.1).mode]
  else []

def tell (panes : PtyKey → PaneMouse) (sent : List Handed) : List Observation :=
  sent.flatMap (told panes)

@[simp]
theorem tell_nil (panes : PtyKey → PaneMouse) : tell panes [] = [] := rfl

@[simp]
theorem tell_singleton (panes : PtyKey → PaneMouse) (handed : Handed) :
    tell panes [handed] = told panes handed := List.flatMap_singleton ..

/-- How many writes the reports take. -/
def attempts (panes : PtyKey → PaneMouse) (sent : List Handed) : Nat :=
  sent.countP fun handed => (panes handed.1).wants handed.2 && (panes handed.1).attached

def Write.isThrough : Write → Bool
  | .through => true
  | .disturbed _ _ => false

/-- The writes that the reports take go through. -/
def Pointing.Through (pointing : Pointing) (sent : List Handed) : Prop :=
  ∀ write ∈ pointing.writes.take (attempts pointing.panes sent), write.isThrough = true

/-- From one point to the other the panes stay as they are and the reports are sent. -/
structure Moved (before after : Pointing) (sent : List Handed) : Prop where
  trace : after.trace = before.trace ++ tell before.panes sent
  panes : after.panes = before.panes
  writes : after.writes = before.writes.drop (attempts before.panes sent)

theorem attempts_append (panes : PtyKey → PaneMouse) (first second : List Handed) :
    attempts panes (first ++ second) = attempts panes first + attempts panes second :=
  List.countP_append

theorem tell_append (panes : PtyKey → PaneMouse) (first second : List Handed) :
    tell panes (first ++ second) = tell panes first ++ tell panes second :=
  List.flatMap_append

theorem Pointing.Through.left {pointing : Pointing} {first second : List Handed}
    (through : pointing.Through (first ++ second)) : pointing.Through first := by
  intro write member
  refine through write ?_
  rw [attempts_append, List.take_add]
  exact List.mem_append_left _ member

theorem Pointing.through_nil {pointing : Pointing} : pointing.Through [] :=
  fun _ member => nomatch member

section
variable {before middle after : Pointing}

theorem Moved.trans {first second : List Handed} (one : Moved before middle first)
    (other : Moved middle after second) : Moved before after (first ++ second) where
  trace := by rw [other.trace, one.trace, one.panes, tell_append, List.append_assoc]
  panes := other.panes.trans one.panes
  writes := by rw [other.writes, one.writes, one.panes, attempts_append, List.drop_drop]

theorem Moved.onward {first second : List Handed} (one : Moved before middle first)
    (through : before.Through (first ++ second)) : middle.Through second := by
  intro write member
  refine through write ?_
  rw [one.writes, one.panes] at member
  rw [attempts_append, List.take_add]
  exact List.mem_append_right _ member

/-- Nothing sent, whatever became of the selection and the press that is held back. -/
theorem Moved.quiet (trace : after.trace = before.trace) (panes : after.panes = before.panes)
    (writes : after.writes = before.writes) : Moved before after [] :=
  ⟨by rw [trace, tell_nil, List.append_nil], panes, writes⟩

end

namespace Pointing

variable {pointing : Pointing}

def clicks (pointing : Pointing) : List Handed :=
  pointing.heldPaneClick.elim [] fun held =>
    [(held.terminal, .press .left), (held.terminal, .release .left)]

theorem forwardMouse_moved {terminal : PtyKey} {report : PtyMouseReport}
    (through : pointing.Through [(terminal, report.action)]) :
    let after := (pointing.forwardMouse terminal report).2
    Moved pointing after [(terminal, report.action)] ∧
      after.heldPaneClick = pointing.heldPaneClick := by
  have wanted : mouseReportBytes (pointing.panes terminal).mode (pointing.panes terminal).encoding
      report = none ↔ (pointing.panes terminal).wants report.action = false := by
    rw [mouseReportBytes, PaneMouse.wants]
    cases report.action.isWantedIn (pointing.panes terminal).mode <;> simp
  unfold Through attempts at through
  rw [List.countP_singleton] at through
  have unsent (after : Pointing) (nothing : told pointing.panes (terminal, report.action) = [])
      (panes : after.panes = pointing.panes) (trace : after.trace = pointing.trace)
      (writes : after.writes =
        pointing.writes.drop (attempts pointing.panes [(terminal, report.action)])) :
      Moved pointing after [(terminal, report.action)] :=
    ⟨by rw [trace, tell_singleton, nothing, List.append_nil], panes, writes⟩
  unfold forwardMouse
  dsimp only
  split
  · next unwanted =>
    have refuses := wanted.mp unwanted
    exact ⟨unsent _ (by simp [told, refuses]) rfl rfl (by simp [attempts, refuses]), rfl⟩
  · next bytes produced =>
    have wants : (pointing.panes terminal).wants report.action = true := by
      rw [← Bool.not_eq_false, ← wanted, produced]
      exact Option.some_ne_none bytes
    cases attached : (pointing.panes terminal).attached with
    | false =>
      exact ⟨unsent _ (by simp [told, PaneMouse.isRunning, attached]) rfl rfl
        (by simp [attempts, attached]), rfl⟩
    | true =>
      have one : attempts pointing.panes [(terminal, report.action)] = 1 := by
        simp [attempts, wants, attached]
      have sent (leased : (pointing.panes terminal).leased = true) (writes : List Write)
          (rest : writes = pointing.writes.drop 1) :
          Moved pointing { pointing.observe (.report terminal report.action
            (pointing.panes terminal).mode) with writes } [(terminal, report.action)] :=
        ⟨by simp [tell, told, wants, PaneMouse.isRunning, attached, leased, observe], rfl,
          by rw [one]; exact rest⟩
      have dropped (idle : (pointing.panes terminal).leased = false) (writes : List Write)
          (rest : writes = pointing.writes.drop 1) :
          Moved pointing { pointing with writes } [(terminal, report.action)] :=
        unsent _ (by simp [told, PaneMouse.isRunning, idle]) rfl rfl (by rw [one]; exact rest)
      cases remaining : pointing.writes with
      | nil =>
        cases leased : (pointing.panes terminal).leased with
        | false => exact ⟨dropped leased pointing.writes (by rw [remaining]; rfl), rfl⟩
        | true => exact ⟨sent leased pointing.writes (by rw [remaining]; rfl), rfl⟩
      | cons write rest =>
        cases write with
        | through =>
          cases leased : (pointing.panes terminal).leased with
          | false => exact ⟨dropped leased rest (by rw [remaining]; rfl), rfl⟩
          | true => exact ⟨sent leased rest (by rw [remaining]; rfl), rfl⟩
        | disturbed delivered panes =>
          have passed := through (.disturbed delivered panes) (by simp [remaining, wants, attached])
          cases passed

theorem flushHeldPaneClick_moved (through : pointing.Through pointing.clicks) :
    Moved pointing pointing.flushHeldPaneClick pointing.clicks ∧
      pointing.flushHeldPaneClick.heldPaneClick = none := by
  unfold clicks at through
  unfold flushHeldPaneClick clicks
  cases kept : pointing.heldPaneClick with
  | none => exact ⟨Moved.quiet rfl rfl rfl, kept⟩
  | some held =>
    rw [kept] at through
    have dropped : Moved pointing pointing.dropHeldPaneClick [] := Moved.quiet rfl rfl rfl
    have onward : pointing.dropHeldPaneClick.Through
        ([(held.terminal, .press .left)] ++ [(held.terminal, .release .left)]) :=
      dropped.onward through
    obtain ⟨pressed, first⟩ := @forwardMouse_moved pointing.dropHeldPaneClick held.terminal
      (heldClickReport (.press .left) held) onward.left
    obtain ⟨released, second⟩ := @forwardMouse_moved _ held.terminal
      (heldClickReport (.release .left) held) (pressed.onward onward)
    exact ⟨dropped.trans (pressed.trans released), second.trans (first.trans rfl)⟩

theorem beginTextSelectionAtMouse_moved (view : MouseView) (event : MouseEvent) :
    Moved pointing (pointing.beginTextSelectionAtMouse view event) [] := by
  unfold beginTextSelectionAtMouse
  split
  · exact Moved.quiet rfl rfl rfl
  · split <;> exact Moved.quiet rfl rfl rfl

theorem updateTextSelectionAtMouse_moved (view : MouseView) (event : MouseEvent) :
    Moved pointing (pointing.updateTextSelectionAtMouse view event) [] := by
  unfold updateTextSelectionAtMouse
  split <;> exact Moved.quiet rfl rfl rfl

theorem finishTextSelectionAtMouse_moved (view : MouseView) (event : MouseEvent) :
    Moved pointing (pointing.finishTextSelectionAtMouse view event) [] ∧
      (pointing.finishTextSelectionAtMouse view event).heldPaneClick = pointing.heldPaneClick := by
  unfold finishTextSelectionAtMouse
  split
  · exact ⟨Moved.quiet rfl rfl rfl, rfl⟩
  · dsimp only
    split
    · exact ⟨Moved.quiet rfl rfl rfl, rfl⟩
    · split <;> exact ⟨Moved.quiet rfl rfl rfl, rfl⟩

/-- What the client sends of its own: a press and a release of the left button let a held press
go. -/
def sentLocally (pointing : Pointing) (event : MouseEvent) : List Handed :=
  if event.kind = .down .left ∨ event.kind = .up .left then pointing.clicks else []

theorem handleLocally_moved {event : MouseEvent} (through : pointing.Through (pointing.sentLocally event))
    (view : MouseView) :
    Moved pointing (pointing.handleLocally view event) (pointing.sentLocally event) := by
  unfold sentLocally at through
  unfold handleLocally sentLocally
  split
  · next down =>
    rw [if_pos (.inl down)] at through ⊢
    have flushed := (flushHeldPaneClick_moved through).1
    simpa using flushed.trans (beginTextSelectionAtMouse_moved view event)
  · next drag =>
    rw [drag, if_neg (by simp)]
    exact updateTextSelectionAtMouse_moved view event
  · next up =>
    rw [if_pos (.inr up)] at through ⊢
    obtain ⟨finished, same⟩ := @finishTextSelectionAtMouse_moved pointing view event
    have clicks : (pointing.finishTextSelectionAtMouse view event).clicks = pointing.clicks := by
      rw [Pointing.clicks, same, Pointing.clicks]
    have onward : (pointing.finishTextSelectionAtMouse view event).Through pointing.clicks :=
      finished.onward through
    rw [← clicks] at onward
    have flushed := (flushHeldPaneClick_moved onward).1
    rw [clicks] at flushed
    exact finished.trans flushed
  · next others down drag up =>
    rw [if_neg (not_or.mpr ⟨down, up⟩)]
    exact Moved.quiet rfl rfl rfl

theorem handleLocally_drag {view : MouseView} {event : MouseEvent} (kind : event.kind = .drag .left) :
    Moved pointing (pointing.handleLocally view event) [] := by
  have nothing : pointing.sentLocally event = [] := by simp [sentLocally, kind]
  exact nothing ▸ handleLocally_moved (nothing ▸ through_nil) view

theorem handleLocally_up {view : MouseView} {event : MouseEvent}
    (unheld : pointing.heldPaneClick = none) :
    Moved pointing (pointing.handleLocally view event) [] := by
  have nothing : pointing.sentLocally event = [] := by simp [sentLocally, clicks, unheld]
  exact nothing ▸ handleLocally_moved (nothing ▸ through_nil) view

/-! ### The program under the pointer -/

/-- The pane an event is offered to before the client takes it for its own, with the cell. -/
def offered (pointing : Pointing) (view : MouseView) (event : MouseEvent) :
    Option (PtyKey × SelectionCell) :=
  if view.promptActive || event.shift then none
  else
    (view.outputTerminalAt event.column event.row).bind fun (terminal, area) =>
      if (pointing.panes terminal).isRunning && (pointing.panes terminal).reportsMouse then
        (mouseCellInArea area event.column event.row).map fun cell => (terminal, cell)
      else none

/-- Whether a press held for the pane under the pointer is let go of, by an event there. -/
def resolves (pane : PaneMouse) (cell : SelectionCell) (action : PtyMouseAction)
    (held : HeldPaneClick) : Bool :=
  !pane.followsMotion && match action with
    | .press .left | .drag .left => false
    | .release .left => held.cell = cell
    | action => pane.wants action

def letsGo (pointing : Pointing) (view : MouseView) (event : MouseEvent) (held : HeldPaneClick) :
    Bool :=
  match pointing.offered view event with
  | none => !view.promptActive && (event.kind = .down .left || event.kind = .up .left)
  | some (terminal, cell) =>
      held.terminal ≠ terminal ||
        resolves (pointing.panes terminal) cell (ptyMouseAction event.kind) held

def ofLeft (action : PtyMouseAction) : Bool :=
  action = .press .left || action = .drag .left || action = .release .left

/-- The event itself: the left button goes to a program only if that follows motion. -/
def handedOn (pane : PaneMouse) (terminal : PtyKey) (action : PtyMouseAction) : List Handed :=
  if pane.followsMotion || !ofLeft action then [(terminal, action)] else []

/-- All that an event hands to the programs. -/
def handed (pointing : Pointing) (view : MouseView) (event : MouseEvent) : List Handed :=
  (if pointing.heldPaneClick.any (pointing.letsGo view event) then pointing.clicks else []) ++
    (pointing.offered view event).elim [] fun output =>
      handedOn (pointing.panes output.1) output.1 (ptyMouseAction event.kind)

theorem mouseCellInArea_isSome {area : Rect} {column row : Nat}
    (within : rectContains area column row = true) :
    ∃ cell, mouseCellInArea area column row = some cell := by
  simp only [rectContains, Bool.and_eq_true, decide_eq_true_eq] at within
  rw [mouseCellInArea, if_neg (by omega)]
  exact ⟨_, rfl⟩

/-- Sends an event to the program as it is. -/
def pass (pointing : Pointing) (terminal : PtyKey) (cell : SelectionCell) (event : MouseEvent) :
    Pointing :=
  let pointing := match ptyMouseAction event.kind with
    | .press _ => pointing.clearTextSelection
    | _ => pointing
  (pointing.forwardMouse terminal
    (paneMouseReport (ptyMouseAction event.kind) cell event.shift event.alt event.ctrl)).2

/-- What is left of an event once presses for other panes have given way: the client takes what
the program did not consume. -/
def settle (middle : Pointing) (terminal : PtyKey) (cell : SelectionCell) (view : MouseView)
    (event : MouseEvent) : Pointing :=
  let (decided, after) := middle.routeByGesture terminal cell event
  match decided with
  | some true => after
  | some false => after.handleLocally view event
  | none => after.pass terminal cell event

theorem pass_moved {terminal : PtyKey} {event : MouseEvent}
    (through : pointing.Through [(terminal, ptyMouseAction event.kind)]) (cell : SelectionCell) :
    Moved pointing (pointing.pass terminal cell event) [(terminal, ptyMouseAction event.kind)] := by
  have cleared : Moved pointing (match ptyMouseAction event.kind with
      | .press _ => pointing.clearTextSelection
      | _ => pointing) [] := by
    split <;> exact Moved.quiet rfl rfl rfl
  exact cleared.trans (@forwardMouse_moved _ terminal
    (paneMouseReport (ptyMouseAction event.kind) cell event.shift event.alt event.ctrl)
    (cleared.onward through)).1

theorem ptyMouseAction_eq_left {kind : MouseEventKind} :
    (ptyMouseAction kind = .press .left → kind = .down .left) ∧
      (ptyMouseAction kind = .drag .left → kind = .drag .left) ∧
      (ptyMouseAction kind = .release .left → kind = .up .left) := by
  cases kind with
  | down button => cases button <;> simp [ptyMouseAction, ptyMouseButton]
  | up button => cases button <;> simp [ptyMouseAction, ptyMouseButton]
  | drag button => cases button <;> simp [ptyMouseAction, ptyMouseButton]
  | _ => simp [ptyMouseAction]

theorem routeByGesture_others {terminal : PtyKey} {cell : SelectionCell} {event : MouseEvent}
    (other : ofLeft (ptyMouseAction event.kind) = false) :
    pointing.routeByGesture terminal cell event =
      (none, if (pointing.panes terminal).wants (ptyMouseAction event.kind) then
        pointing.flushHeldPaneClick else pointing) := by
  unfold routeByGesture
  split
  · next press => simp [press, ofLeft] at other
  · next drag => simp [drag, ofLeft] at other
  · next release => simp [release, ofLeft] at other
  · split <;> rfl

theorem settle_moved {terminal : PtyKey} {cell : SelectionCell} {event : MouseEvent}
    (follows : (pointing.panes terminal).followsMotion = false)
    (kept : pointing.heldFor terminal = pointing.heldPaneClick)
    (through : pointing.Through ((if pointing.heldPaneClick.any (resolves (pointing.panes terminal)
      cell (ptyMouseAction event.kind)) then pointing.clicks else []) ++
        handedOn (pointing.panes terminal) terminal (ptyMouseAction event.kind)))
    (view : MouseView) :
    Moved pointing (pointing.settle terminal cell view event)
      ((if pointing.heldPaneClick.any (resolves (pointing.panes terminal) cell
        (ptyMouseAction event.kind)) then pointing.clicks else []) ++
          handedOn (pointing.panes terminal) terminal (ptyMouseAction event.kind)) := by
  cases other : ofLeft (ptyMouseAction event.kind) with
  | false =>
    -- Whatever is not of the left button lets go of a held press if the program wants it at all.
    have on : handedOn (pointing.panes terminal) terminal (ptyMouseAction event.kind) =
        [(terminal, ptyMouseAction event.kind)] := by simp [handedOn, other]
    have lets : resolves (pointing.panes terminal) cell (ptyMouseAction event.kind) =
        fun _ => (pointing.panes terminal).wants (ptyMouseAction event.kind) := by
      funext held
      unfold resolves
      split
      · next press => simp [press, ofLeft] at other
      · next drag => simp [drag, ofLeft] at other
      · next release => simp [release, ofLeft] at other
      · simp [follows]
    rw [on, lets] at through ⊢
    rw [settle, routeByGesture_others other]
    dsimp only
    by_cases wants : (pointing.panes terminal).wants (ptyMouseAction event.kind) = true
    · have all : (if pointing.heldPaneClick.any
          (fun _ => (pointing.panes terminal).wants (ptyMouseAction event.kind))
          then pointing.clicks else []) = pointing.clicks := by
        cases none : pointing.heldPaneClick <;> simp [clicks, none, wants]
      rw [all] at through ⊢
      rw [if_pos wants]
      have flushed := (flushHeldPaneClick_moved through.left).1
      exact flushed.trans (pass_moved (flushed.onward through) cell)
    · have unsent : (if pointing.heldPaneClick.any
          (fun _ => (pointing.panes terminal).wants (ptyMouseAction event.kind))
          then pointing.clicks else []) = [] := by
        cases pointing.heldPaneClick <;> simp [wants]
      rw [unsent] at through ⊢
      rw [if_neg wants]
      exact pass_moved through cell
  | true =>
    have on : handedOn (pointing.panes terminal) terminal (ptyMouseAction event.kind) = [] := by
      simp [handedOn, other, follows]
    rw [on, List.append_nil] at through ⊢
    simp only [ofLeft, Bool.or_eq_true, decide_eq_true_eq, or_assoc] at other
    rcases other with press | drag | release
    · have unsent : pointing.heldPaneClick.any (resolves (pointing.panes terminal) cell
          (ptyMouseAction event.kind)) = false := by
        rw [press]
        cases pointing.heldPaneClick <;> simp [resolves]
      rw [unsent]
      simp only [settle, routeByGesture, press]
      exact Moved.quiet rfl rfl rfl
    · have unsent : pointing.heldPaneClick.any (resolves (pointing.panes terminal) cell
          (ptyMouseAction event.kind)) = false := by
        rw [drag]
        cases pointing.heldPaneClick <;> simp [resolves]
      have kind : event.kind = .drag .left := ptyMouseAction_eq_left.2.1 drag
      rw [unsent]
      simp only [settle, routeByGesture, drag]
      cases pointing.heldFor terminal with
      | none => exact handleLocally_drag kind
      | some press =>
        have begun : Moved pointing
            (pointing.dropHeldPaneClick.beginTextSelection terminal press.cell) [] :=
          Moved.quiet rfl rfl rfl
        exact begun.trans (handleLocally_drag kind)
    · simp only [settle, routeByGesture, release, kept] at through ⊢
      cases was : pointing.heldPaneClick with
      | none => exact handleLocally_up was
      | some press =>
        rw [was] at through
        -- A release where the press was is a click; anywhere else it ends a selection.
        by_cases same : press.cell = cell
        · have lets : (some press).any (resolves (pointing.panes terminal) cell (.release .left)) =
              true := by simp [resolves, follows, same]
          rw [lets, if_pos rfl] at through ⊢
          simpa only [same, ne_eq, not_true_eq_false, if_false] using
            (flushHeldPaneClick_moved through).1
        · have keeps : (some press).any (resolves (pointing.panes terminal) cell
              (.release .left)) = false := by simp [resolves, same]
          have begun : Moved pointing
              (pointing.dropHeldPaneClick.beginTextSelection terminal press.cell) [] :=
            Moved.quiet rfl rfl rfl
          rw [keeps]
          simpa only [same, ne_eq, not_false_eq_true, if_true, Bool.false_eq_true, if_false,
            List.append_nil] using begun.trans (handleLocally_up rfl)

theorem offered_eq_some {view : MouseView} {event : MouseEvent} {terminal : PtyKey}
    {cell : SelectionCell} (made : pointing.offered view event = some (terminal, cell)) :
    view.promptActive = false ∧ event.shift = false ∧
      (pointing.panes terminal).isRunning = true ∧ (pointing.panes terminal).reportsMouse = true ∧
      ∃ area, view.outputTerminalAt event.column event.row = some (terminal, area) ∧
        mouseCellInArea area event.column event.row = some cell := by
  unfold offered at made
  split at made
  · cases made
  · next free =>
    rw [Bool.or_eq_true, not_or, Bool.not_eq_true, Bool.not_eq_true] at free
    rw [Option.bind_eq_some_iff] at made
    obtain ⟨⟨found, area⟩, located, made⟩ := made
    dsimp only at made
    split at made
    · next runs =>
      rw [Option.map_eq_some_iff] at made
      obtain ⟨_, placed, same⟩ := made
      cases same
      rw [Bool.and_eq_true] at runs
      exact ⟨free.1, free.2, runs.1, runs.2, area, located, placed⟩
    · cases made

theorem handleMouse_unoffered {view : MouseView} {event : MouseEvent}
    (unprompted : view.promptActive = false) (unoffered : pointing.offered view event = none) :
    pointing.handleMouse view event = pointing.handleLocally view event := by
  unfold handleMouse
  rw [if_neg (by simp [unprompted])]
  split
  · rfl
  · next unshifted =>
    have passed : pointing.forwardMouseToProgram view event = (false, pointing) := by
      simp only [offered, unprompted, unshifted, Bool.or_self, Bool.false_eq_true, if_false] at unoffered
      unfold forwardMouseToProgram
      cases located : view.outputTerminalAt event.column event.row with
      | none => rfl
      | some output =>
        obtain ⟨terminal, area⟩ := output
        rw [located, Option.bind_some] at unoffered
        dsimp only at unoffered ⊢
        split at unoffered
        · have within : rectContains area event.column event.row = true := by
            have filtered := located
            rw [MouseView.outputTerminalAt, Option.filter_eq_some_iff] at filtered
            exact filtered.2
          obtain ⟨cell, placed⟩ := mouseCellInArea_isSome within
          rw [placed] at unoffered
          cases unoffered
        · next idle =>
          rw [if_pos]
          rw [Bool.and_eq_true, not_and_or, Bool.not_eq_true, Bool.not_eq_true] at idle
          simpa using idle
    rw [passed]
    rfl

theorem handleMouse_offered {view : MouseView} {event : MouseEvent} {terminal : PtyKey}
    {cell : SelectionCell} (made : pointing.offered view event = some (terminal, cell)) :
    let middle := if pointing.heldPaneClick.any (fun held => held.terminal ≠ terminal) then
      pointing.flushHeldPaneClick else pointing
    pointing.handleMouse view event =
      if (middle.panes terminal).followsMotion then middle.pass terminal cell event
      else middle.settle terminal cell view event := by
  obtain ⟨unprompted, unshifted, running, reports, area, located, placed⟩ := offered_eq_some made
  intro middle
  have program : pointing.forwardMouseToProgram view event =
      match (if !(middle.panes terminal).wants (.drag .left) then
        middle.routeByGesture terminal cell event else (none, middle)) with
      | (some consumed, after) => (consumed, after)
      | (none, after) => (true, after.pass terminal cell event) := by
    unfold forwardMouseToProgram
    rw [located]
    simp only [running, reports, placed, Bool.not_true, Bool.or_self, Bool.false_eq_true, if_false]
    change (match (if !(middle.panes terminal).wants (.drag .left) then
        middle.routeByGesture terminal cell event else (none, middle)) with
      | (decided, after) => _) = _
    rcases (if !(middle.panes terminal).wants (.drag .left) then
        middle.routeByGesture terminal cell event else (none, middle)) with ⟨_ | consumed, after⟩
    all_goals rfl
  unfold handleMouse
  rw [if_neg (by simp [unprompted]), if_neg (by simp [unshifted]), program]
  unfold PaneMouse.followsMotion
  cases follows : (middle.panes terminal).wants (.drag .left) with
  | true => rfl
  | false =>
    unfold settle
    simp only [Bool.not_false, if_true, Bool.false_eq_true, if_false]
    rcases middle.routeByGesture terminal cell event with ⟨_ | _ | _, after⟩ <;> rfl

/-- Presses held for other panes have given way before the event itself is routed. -/
theorem handed_offered {view : MouseView} {event : MouseEvent} {terminal : PtyKey}
    {cell : SelectionCell} (made : pointing.offered view event = some (terminal, cell))
    (through : pointing.Through (pointing.handed view event)) :
    let middle := if pointing.heldPaneClick.any (fun held => held.terminal ≠ terminal) then
      pointing.flushHeldPaneClick else pointing
    ∃ first second, pointing.handed view event = first ++ second ∧ Moved pointing middle first ∧
      middle.heldFor terminal = middle.heldPaneClick ∧
      second = (if middle.heldPaneClick.any (resolves (pointing.panes terminal) cell
        (ptyMouseAction event.kind)) then middle.clicks else []) ++
          handedOn (pointing.panes terminal) terminal (ptyMouseAction event.kind) := by
  unfold handed letsGo at through ⊢
  rw [made] at through ⊢
  dsimp only [Option.elim] at through ⊢
  cases kept : pointing.heldPaneClick with
  | none => exact ⟨[], _, rfl, Moved.quiet rfl rfl rfl, by simp [heldFor, kept], by simp [kept]⟩
  | some held =>
    by_cases same : held.terminal = terminal
    · refine ⟨[], _, rfl, by simpa [same] using Moved.quiet rfl rfl rfl, ?_, by simp [same, kept]⟩
      simp [same, heldFor, kept, Option.filter]
    · rw [kept] at through
      simp only [Option.any_some, ne_eq, same, not_false_eq_true, decide_true, Bool.true_or,
        if_true] at through ⊢
      obtain ⟨flushed, gone⟩ := flushHeldPaneClick_moved through.left
      exact ⟨_, _, rfl, flushed, by rw [heldFor, gone]; rfl, by rw [gone]; rfl⟩

theorem handleMouse_moved {view : MouseView} {event : MouseEvent}
    (through : pointing.Through (pointing.handed view event)) :
    Moved pointing (pointing.handleMouse view event) (pointing.handed view event) := by
  cases made : pointing.offered view event with
  | none =>
    cases prompted : view.promptActive with
    | true =>
      have nothing : pointing.handed view event = [] := by
        cases kept : pointing.heldPaneClick <;> simp [handed, letsGo, made, prompted, kept]
      rw [handleMouse, if_pos prompted, nothing]
      exact Moved.quiet rfl rfl rfl
    | false =>
      have ours : pointing.handed view event = pointing.sentLocally event := by
        cases kept : pointing.heldPaneClick <;>
          simp [handed, letsGo, made, prompted, kept, sentLocally, clicks]
      rw [handleMouse_unoffered prompted made, ours]
      exact handleLocally_moved (ours ▸ through) view
  | some output =>
    obtain ⟨terminal, cell⟩ := output
    obtain ⟨first, second, all, gaveWay, kept, rest⟩ := handed_offered made through
    rw [handleMouse_offered made]
    rw [all] at through ⊢
    generalize (if pointing.heldPaneClick.any (fun held => held.terminal ≠ terminal) then
      pointing.flushHeldPaneClick else pointing) = middle at gaveWay kept rest
    refine gaveWay.trans ?_
    have onward := gaveWay.onward through
    rw [rest, ← gaveWay.panes] at onward ⊢
    cases follows : (middle.panes terminal).followsMotion with
    | true =>
      have unresolved : middle.heldPaneClick.any (resolves (middle.panes terminal) cell
          (ptyMouseAction event.kind)) = false := by
        cases middle.heldPaneClick <;> simp [resolves, follows]
      rw [unresolved, handedOn, follows] at onward ⊢
      exact pass_moved onward cell
    | false =>
      simp only [Bool.false_eq_true, if_false]
      exact settle_moved follows kept onward view

end Pointing

/-- What an event makes of the left button for one program. -/
inductive Touch where
  | press
  | release
  /-- A press that was held back is let go of, its release behind it. -/
  | click
  | none
  deriving DecidableEq, Repr

/-- A program that follows motion is handed presses and releases, any other has them held back. -/
def Pointing.touch (pointing : Pointing) (view : MouseView) (event : MouseEvent)
    (terminal : PtyKey) : Touch :=
  if (pointing.offered view event).any (fun output =>
      output.1 = terminal && (pointing.panes terminal).followsMotion) then
    if event.kind = .down .left then .press
    else if event.kind = .up .left then .release
    else .none
  else if pointing.heldPaneClick.any (fun held =>
      held.terminal = terminal && pointing.letsGo view event held) &&
        (pointing.panes terminal).isRunning then .click
  else .none

/-- Whether the button is down for the program; in a mode without releases a click leaves it so. -/
def Touch.down (pane : PaneMouse) (down : Bool) : Touch → Bool
  | .press => true
  | .release => false
  | .click => !pane.reportsReleases && (pane.wants (.press .left) || down)
  | .none => down

def Touch.owing (owing : Bool) : Touch → Bool
  | .press => true
  | .release | .click => false
  | .none => owing

/-- The programs that the events have left the button down for, and those among them whose pane has
been there ever since, in modes that report releases. -/
structure Hand where
  down : PtyKey → Bool
  owing : PtyKey → Bool

def Hand.free : Hand := ⟨fun _ => false, fun _ => false⟩

def Hand.after (hand : Hand) (pointing : Pointing) : PointerStep → Hand
  | .mouse view event _ =>
      { down := fun terminal => event.kind ≠ .up .left &&
          (pointing.touch view event terminal).down (pointing.panes terminal) (hand.down terminal)
        owing := fun terminal =>
          (pointing.touch view event terminal).owing (hand.owing terminal) }
  | .select _ => hand
  | .change terminal pane =>
      { down := Function.update hand.down terminal (hand.down terminal && pane.alive)
        owing := Function.update hand.owing terminal
          (hand.owing terminal && pane.alive && pane.reportsReleases) }

/-- The reports of the event go through; a program that follows motion is handed a drag or a release
of the left button only while the button is down for it; and the button comes up only where every
program that waits for that is told. -/
def Keeps (pointing : Pointing) (hand : Hand) : PointerStep → Prop
  | .mouse view event writes =>
      { pointing with writes }.Through (pointing.handed view event) ∧
        (∀ terminal cell, pointing.offered view event = some (terminal, cell) →
          (pointing.panes terminal).followsMotion = true →
          event.kind = .up .left ∨ event.kind = .drag .left → hand.down terminal = true) ∧
        (event.kind = .up .left → ∀ terminal, hand.owing terminal = true →
          pointing.touch view event terminal = .release ∨
            pointing.touch view event terminal = .click)
  | .select _ | .change _ _ => True

/-- The pointer with the hand beside it, which the pointer does not look at. -/
def gestureMachine : Machine (Pointing × Hand) PointerStep Observation where
  start state := pointerMachine.start state.1 ∧ state.2 = .free
  step state action := some ((state.1.step action, state.2.after state.1 action), [])

theorem pointer_gestures {pointing : Pointing} {past : List Observation}
    (run : pointerMachine.Reaches pointing past) :
    ∃ hand, gestureMachine.Reaches (pointing, hand) past := by
  induction run with
  | start initial => exact ⟨.free, .start ⟨initial, rfl⟩⟩
  | step _ _ stepped ih =>
    obtain ⟨hand, earlier⟩ := ih
    cases stepped
    exact ⟨_, earlier.step trivial rfl⟩

/-! ## What one event preserves -/

theorem wants_of_follows {pane : PaneMouse} (follows : pane.followsMotion = true) :
    pane.reportsReleases = true := by
  unfold PaneMouse.followsMotion PaneMouse.wants at follows
  unfold PaneMouse.reportsReleases PaneMouse.wants
  cases mode : pane.mode <;> simp [mode, PtyMouseAction.isWantedIn, PtyMouseButton.isWheel] at follows ⊢

theorem wants_press {pane : PaneMouse} (reports : pane.reportsReleases = true) :
    pane.wants (.press .left) = true := by
  unfold PaneMouse.reportsReleases PaneMouse.wants at reports
  unfold PaneMouse.wants
  cases mode : pane.mode <;> simp [mode, PtyMouseAction.isWantedIn] at reports ⊢

/-- What an action that reaches a program makes of one of its marks, which a press gives a value. -/
def marked (press mark : Bool) : PtyMouseAction → Bool
  | .press .left => press
  | .release .left => false
  | _ => mark

variable {panes : PtyKey → PaneMouse} {trace : List Observation} {terminal : PtyKey}

theorem marked_other {kind : MouseEventKind} (down : kind ≠ .down .left) (up : kind ≠ .up .left)
    (press mark : Bool) : marked press mark (ptyMouseAction kind) = mark := by
  unfold marked
  split
  · next pressed => exact absurd (Pointing.ptyMouseAction_eq_left.1 pressed) down
  · next released => exact absurd (Pointing.ptyMouseAction_eq_left.2.2 released) up
  · rfl

theorem told_holds (handed : Handed) (mark : Bool) :
    (told panes handed).foldl (holdsAfter terminal) mark =
      if handed.1 = terminal ∧ (panes handed.1).wants handed.2 = true ∧
        (panes handed.1).isRunning = true then marked true mark handed.2 else mark := by
  obtain ⟨other, action⟩ := handed
  unfold told
  dsimp only
  split
  · next reached =>
    rw [Bool.and_eq_true] at reached
    by_cases same : other = terminal
    · rw [if_pos ⟨same, reached⟩]
      simp [holdsAfter, same, marked]
    · rw [if_neg fun all => same all.1]
      simp [holdsAfter, same]
  · next missed =>
    rw [Bool.and_eq_true] at missed
    rw [if_neg fun all => missed all.2]
    rfl

theorem told_owed (handed : Handed) (mark : Bool) :
    (told panes handed).foldl (owedAfter terminal) mark =
      if handed.1 = terminal ∧ (panes handed.1).wants handed.2 = true ∧
        (panes handed.1).isRunning = true then marked (panes terminal).reportsReleases mark handed.2
      else mark := by
  obtain ⟨other, action⟩ := handed
  unfold told
  dsimp only
  split
  · next reached =>
    rw [Bool.and_eq_true] at reached
    by_cases same : other = terminal
    · rw [if_pos ⟨same, reached⟩]
      simp [owedAfter, same, marked, PaneMouse.reportsReleases, PaneMouse.wants]
    · rw [if_neg fun all => same all.1]
      simp [owedAfter, same]
  · next missed =>
    rw [Bool.and_eq_true] at missed
    rw [if_neg fun all => missed all.2]
    rfl

theorem WellBracketed.told (bracketed : WellBracketed trace) {handed : Handed}
    (fits : handed.2 = .release .left ∨ handed.2 = .drag .left → holds handed.1 trace = true) :
    WellBracketed (trace ++ Runtime.told panes handed) := by
  unfold Runtime.told
  split
  · exact bracketed.observe fits
  · rwa [List.append_nil]

namespace Pointing

variable {pointing : Pointing} {view : MouseView} {event : MouseEvent}

theorem letsGo_follows {output : PtyKey × SelectionCell}
    (made : pointing.offered view event = some output)
    (follows : (pointing.panes output.1).followsMotion = true) :
    pointing.heldPaneClick.any (fun held =>
      held.terminal = output.1 && pointing.letsGo view event held) = false := by
  obtain ⟨place, cell⟩ := output
  cases pointing.heldPaneClick with
  | none => rfl
  | some held =>
    rcases eq_or_ne held.terminal place with rfl | other
    · simp [letsGo, made, resolves, follows]
    · simp [other]

/-- The two reports of a held press that is let go, for the marks of one program. -/
theorem released_marks {after : Bool → Observation → Bool} {press : Bool}
    (tells : ∀ handed mark, (told pointing.panes handed).foldl after mark =
      if handed.1 = terminal ∧ (pointing.panes handed.1).wants handed.2 = true ∧
        (pointing.panes handed.1).isRunning = true then marked press mark handed.2 else mark)
    (mark : Bool) :
    (tell pointing.panes (if pointing.heldPaneClick.any (pointing.letsGo view event) then
        pointing.clicks else [])).foldl after mark =
      if pointing.heldPaneClick.any (fun held =>
          held.terminal = terminal && pointing.letsGo view event held) &&
            (pointing.panes terminal).isRunning then
        !(pointing.panes terminal).reportsReleases &&
          (if (pointing.panes terminal).wants (.press .left) then press else mark)
      else mark := by
  cases kept : pointing.heldPaneClick with
  | none => simp [tell]
  | some held =>
    cases lets : pointing.letsGo view event held with
    | false => simp [tell, lets]
    | true =>
      by_cases same : held.terminal = terminal
      · subst same
        simp only [lets, Option.any_some, if_true, clicks, kept, Option.elim, tell,
          List.flatMap_cons, List.flatMap_nil, List.append_nil, List.foldl_append, tells,
          decide_true, Bool.true_and, marked, true_and, PaneMouse.reportsReleases]
        cases (pointing.panes held.terminal).isRunning <;>
          cases (pointing.panes held.terminal).wants (.release .left) <;>
          cases (pointing.panes held.terminal).wants (.press .left) <;> simp
      · simp [tell, lets, clicks, kept, tells, same]

theorem handedOn_marks {after : Bool → Observation → Bool} {press : Bool}
    (tells : ∀ handed mark, (told pointing.panes handed).foldl after mark =
      if handed.1 = terminal ∧ (pointing.panes handed.1).wants handed.2 = true ∧
        (pointing.panes handed.1).isRunning = true then marked press mark handed.2 else mark)
    (mark : Bool) :
    (tell pointing.panes ((pointing.offered view event).elim [] fun output =>
        handedOn (pointing.panes output.1) output.1 (ptyMouseAction event.kind))).foldl after mark =
      if (pointing.offered view event).any (fun output =>
          output.1 = terminal && (pointing.panes terminal).followsMotion) then
        if event.kind = .down .left then press
        else if event.kind = .up .left then false
        else mark
      else mark := by
  cases made : pointing.offered view event with
  | none => simp [tell]
  | some output =>
    obtain ⟨place, cell⟩ := output
    have runs := (offered_eq_some made).2.2.1
    dsimp only [Option.elim, Option.any]
    unfold handedOn
    by_cases same : place = terminal
    · subst same
      cases follows : (pointing.panes place).followsMotion with
      | true =>
        have releases : (pointing.panes place).wants (.release .left) = true :=
          wants_of_follows follows
        have presses := wants_press (wants_of_follows follows)
        simp only [Bool.true_or, if_true, tell, List.flatMap_singleton, tells, runs, decide_true,
          Bool.and_self, and_true, true_and]
        by_cases down : event.kind = .down .left
        · simp [down, ptyMouseAction, ptyMouseButton, presses, marked]
        · by_cases up : event.kind = .up .left
          · simp [up, ptyMouseAction, ptyMouseButton, releases, marked]
          · simp [down, up, marked_other down up]
      | false =>
        cases left : ofLeft (ptyMouseAction event.kind) with
        | true => simp [tell]
        | false =>
          have down : event.kind ≠ .down .left := by
            intro same
            rw [same] at left
            cases left
          have up : event.kind ≠ .up .left := by
            intro same
            rw [same] at left
            cases left
          simp [tell, tells, marked_other down up]
    · split <;> simp [tell, tells, same]

theorem handed_marks {after : Bool → Observation → Bool} {press : Bool}
    (tells : ∀ handed mark, (told pointing.panes handed).foldl after mark =
      if handed.1 = terminal ∧ (pointing.panes handed.1).wants handed.2 = true ∧
        (pointing.panes handed.1).isRunning = true then marked press mark handed.2 else mark)
    (mark : Bool) :
    (tell pointing.panes (pointing.handed view event)).foldl after mark =
      match pointing.touch view event terminal with
      | .press => press
      | .release => false
      | .click => !(pointing.panes terminal).reportsReleases &&
          (if (pointing.panes terminal).wants (.press .left) then press else mark)
      | .none => mark := by
  rw [handed, tell_append, List.foldl_append, released_marks tells, handedOn_marks tells, touch]
  cases follows : (pointing.offered view event).any (fun output =>
      output.1 = terminal && (pointing.panes terminal).followsMotion) with
  | false =>
    simp only [Bool.false_eq_true, if_false]
    split <;> simp only
  | true =>
    have kept : pointing.heldPaneClick.any (fun held =>
        held.terminal = terminal && pointing.letsGo view event held) = false := by
      obtain ⟨output, made, same⟩ := Option.any_eq_true _ _ |>.mp follows
      rw [Bool.and_eq_true, decide_eq_true_eq] at same
      obtain ⟨rfl, motion⟩ := same
      exact letsGo_follows made motion
    rw [kept, Bool.false_and]
    simp only [if_true, Bool.false_eq_true, if_false]
    split_ifs <;> rfl

end Pointing

/-- The hand is what the reports say, and only programs that report releases are owed one. -/
structure Sound (pointing : Pointing) (hand : Hand) : Prop where
  bracketed : WellBracketed pointing.trace
  down : ∀ terminal, hand.down terminal = holds terminal pointing.trace
  owing : ∀ terminal, hand.owing terminal = owed terminal pointing.trace
  reports : ∀ terminal, hand.owing terminal = true →
    (pointing.panes terminal).reportsReleases = true

section
variable {pointing : Pointing} {view : MouseView} {event : MouseEvent}

theorem holds_handed (terminal : PtyKey) :
    holds terminal (pointing.trace ++ tell pointing.panes (pointing.handed view event)) =
      (pointing.touch view event terminal).down (pointing.panes terminal)
        (holds terminal pointing.trace) := by
  rw [holds_append, Pointing.handed_marks told_holds]
  cases pointing.touch view event terminal with
  | click => cases presses : (pointing.panes terminal).wants (.press .left) <;> simp [Touch.down, presses]
  | _ => rfl

theorem touch_press (pressed : pointing.touch view event terminal = .press) :
    (pointing.panes terminal).reportsReleases = true := by
  unfold Pointing.touch at pressed
  split at pressed
  · next follows =>
    obtain ⟨output, -, same⟩ := Option.any_eq_true _ _ |>.mp follows
    rw [Bool.and_eq_true] at same
    exact wants_of_follows same.2
  · split at pressed <;> cases pressed

theorem owed_handed (reports : owed terminal pointing.trace = true →
      (pointing.panes terminal).reportsReleases = true) :
    owed terminal (pointing.trace ++ tell pointing.panes (pointing.handed view event)) =
      (pointing.touch view event terminal).owing (owed terminal pointing.trace) := by
  rw [owed_append, Pointing.handed_marks told_owed]
  cases touched : pointing.touch view event terminal with
  | press => exact touch_press touched
  | release => rfl
  | none => rfl
  | click =>
    cases releases : (pointing.panes terminal).reportsReleases with
    | true => rfl
    | false =>
      have settled : owed terminal pointing.trace = false := by
        rw [← Bool.not_eq_true]
        exact fun owes => by simp [reports owes] at releases
      simp [Touch.owing, settled]

theorem WellBracketed.released (bracketed : WellBracketed pointing.trace) :
    WellBracketed (pointing.trace ++ tell pointing.panes
      (if pointing.heldPaneClick.any (pointing.letsGo view event) then pointing.clicks else [])) := by
  split
  · unfold Pointing.clicks
    cases pointing.heldPaneClick with
    | none => rwa [Option.elim, tell_nil, List.append_nil]
    | some held =>
      rw [Option.elim, tell, List.flatMap_cons, List.flatMap_singleton, ← List.append_assoc]
      have pressed : WellBracketed
          (pointing.trace ++ Runtime.told pointing.panes (held.terminal, .press .left)) :=
        bracketed.told fun left => by rcases left with same | same <;> cases same
      by_cases reached : (pointing.panes held.terminal).wants (.release .left) = true ∧
          (pointing.panes held.terminal).isRunning = true
      · refine pressed.told fun _ => ?_
        rw [holds_append, told_holds, if_pos ⟨rfl, wants_press reached.1, reached.2⟩]
        rfl
      · have unsaid : Runtime.told pointing.panes (held.terminal, .release .left) = [] := by
          rw [Runtime.told, if_neg (by rwa [Bool.and_eq_true])]
        rwa [unsaid, List.append_nil]
  · rwa [tell_nil, List.append_nil]

theorem WellBracketed.handed (bracketed : WellBracketed pointing.trace)
    (holding : ∀ terminal cell, pointing.offered view event = some (terminal, cell) →
      (pointing.panes terminal).followsMotion = true →
      event.kind = .up .left ∨ event.kind = .drag .left → holds terminal pointing.trace = true) :
    WellBracketed (pointing.trace ++ tell pointing.panes (pointing.handed view event)) := by
  rw [Pointing.handed, tell_append, ← List.append_assoc]
  have first := @WellBracketed.released pointing view event bracketed
  cases made : pointing.offered view event with
  | none => rwa [Option.elim, tell_nil, List.append_nil]
  | some output =>
    obtain ⟨place, cell⟩ := output
    unfold Pointing.handedOn
    dsimp only [Option.elim]
    by_cases passes : ((pointing.panes place).followsMotion ||
        !Pointing.ofLeft (ptyMouseAction event.kind)) = true
    · rw [if_pos passes, tell_singleton]
      refine first.told fun left => ?_
      have action : Pointing.ofLeft (ptyMouseAction event.kind) = true := by
        dsimp only at left
        rcases left with same | same <;> (rw [same]; rfl)
      have follows : (pointing.panes place).followsMotion = true := by simpa [action] using passes
      rw [holds_append, Pointing.released_marks told_holds,
        @Pointing.letsGo_follows _ _ _ (place, cell) made follows]
      exact holding place cell made follows
        (left.imp Pointing.ptyMouseAction_eq_left.2.2 Pointing.ptyMouseAction_eq_left.2.1)
    · rwa [if_neg passes, tell_nil, List.append_nil]

theorem Sound.letGo {hand : Hand} (sound : Sound pointing hand)
    (bracketed : WellBracketed (pointing.trace ++ tell pointing.panes (pointing.handed view event)))
    (told : ∀ terminal, hand.owing terminal = true →
      pointing.touch view event terminal = .release ∨ pointing.touch view event terminal = .click)
    (up : event.kind = .up .left) :
    WellBracketed (pointing.trace ++ tell pointing.panes (pointing.handed view event) ++
      [.letGo]) := by
  refine bracketed.observe fun terminal => ?_
  rw [owed_handed fun owes => sound.reports terminal (by rw [sound.owing, owes]), ← sound.owing]
  cases owes : hand.owing terminal with
  | true =>
    rcases told terminal owes with same | same <;> (rw [same]; rfl)
  | false =>
    cases touched : pointing.touch view event terminal with
    | press =>
      unfold Pointing.touch at touched
      rw [up] at touched
      split at touched
      · cases touched
      · split at touched <;> cases touched
    | _ => rfl

end

theorem Sound.step {pointing : Pointing} {hand : Hand} {action : PointerStep}
    (sound : Sound pointing hand) (keeps : Keeps pointing hand action) :
    Sound (pointing.step action) (hand.after pointing action) := by
  cases action with
  | select selection => exact ⟨sound.bracketed, sound.down, sound.owing, sound.reports⟩
  | change terminal pane =>
    refine ⟨sound.bracketed.observe trivial, fun other => ?_, fun other => ?_, fun other owes => ?_⟩
    · -- Another program in the terminal: the hand forgets what the one before was told.
      change Function.update hand.down terminal _ other =
        holds other (pointing.trace ++ [.changed terminal pane])
      rw [holds_append]
      by_cases same : other = terminal
      · subst same
        simp [holdsAfter, sound.down]
      · simp [holdsAfter, same, Ne.symm same, sound.down]
    · change Function.update hand.owing terminal _ other =
        owed other (pointing.trace ++ [.changed terminal pane])
      rw [owed_append]
      by_cases same : other = terminal
      · subst same
        simp [owedAfter, sound.owing]
      · simp [owedAfter, same, Ne.symm same, sound.owing]
    · change Function.update hand.owing terminal _ other = true at owes
      change (Function.update pointing.panes terminal pane other).reportsReleases = true
      by_cases same : other = terminal
      · subst same
        simp only [Function.update_self, Bool.and_eq_true] at owes ⊢
        exact owes.2
      · rw [Function.update_of_ne same] at owes ⊢
        exact sound.reports other owes
  | mouse view event writes =>
    obtain ⟨through, holding, telling⟩ := keeps
    let arrived : Pointing := { pointing with writes }
    have arrives : Sound arrived hand :=
      ⟨sound.bracketed, sound.down, sound.owing, sound.reports⟩
    have moved : Moved arrived (arrived.handleMouse view event) (arrived.handed view event) :=
      Pointing.handleMouse_moved through
    have bracketed := @WellBracketed.handed arrived view event arrives.bracketed
      fun terminal cell made follows left => by
        rw [← arrives.down]
        exact holding terminal cell made follows left
    have owing (terminal : PtyKey) := @owed_handed terminal arrived view event
      (fun owes => arrives.reports terminal (by rw [arrives.owing, owes]))
    have reports : ∀ terminal, (hand.after pointing (.mouse view event writes)).owing terminal =
        true → (pointing.panes terminal).reportsReleases = true := by
      intro terminal owes
      change (arrived.touch view event terminal).owing (hand.owing terminal) = true at owes
      cases touched : arrived.touch view event terminal with
      | press => exact touch_press touched
      | none =>
        rw [touched] at owes
        exact sound.reports terminal owes
      | _ =>
        rw [touched] at owes
        cases owes
    unfold Pointing.step
    dsimp only
    -- Letting go of the button is noted behind what the event itself hands on.
    split
    · next up =>
      refine ⟨?_, fun terminal => ?_, fun terminal => ?_, fun terminal owes => ?_⟩
      · change WellBracketed ((arrived.handleMouse view event).trace ++ [.letGo])
        rw [moved.trace]
        exact arrives.letGo bracketed (telling up) up
      · change _ = holds terminal ((arrived.handleMouse view event).trace ++ [.letGo])
        rw [holds_append]
        simp [Hand.after, up, holdsAfter]
      · change _ = owed terminal ((arrived.handleMouse view event).trace ++ [.letGo])
        rw [owed_append, moved.trace, owing, ← arrives.owing]
        rfl
      · exact (congrFun moved.panes terminal) ▸ reports terminal owes
    · next other =>
      refine ⟨?_, fun terminal => ?_, fun terminal => ?_, fun terminal owes => ?_⟩
      · rw [moved.trace]
        exact bracketed
      · rw [moved.trace, holds_handed, ← arrives.down]
        simp [Hand.after, other]
        rfl
      · rw [moved.trace, owing, ← arrives.owing]
        rfl
      · exact (congrFun moved.panes terminal) ▸ reports terminal owes

/-- The reports of the left button are well bracketed in every run in which no drag or release
reaches a program unasked for and no release misses one. -/
theorem gestures_bracketed {state : Pointing × Hand} {past : List Observation}
    (run : gestureMachine.Run (fun state => Keeps state.1 state.2) state past) :
    WellBracketed state.1.trace := by
  have sound : Sound state.1 state.2 := by
    refine run.invariant (motive := fun state _ => Sound state.1 state.2) ?_ ?_
    · rintro ⟨first, hand⟩ ⟨initial, same⟩
      cases same
      exact ⟨by rw [initial.2]; exact .nil, by rw [initial.2]; exact fun _ => rfl,
        by rw [initial.2]; exact fun _ => rfl, fun _ owes => nomatch owes⟩
    · intro _ _ _ _ _ _ sound keeps stepped
      cases stepped
      exact sound.step keeps
  exact sound.bracketed

/-- A pane whose program follows the pointer while a button is down. -/
def following : PaneMouse where
  mode := .buttonMotion
  encoding := .sgr
  attached := true
  leased := true
  alive := true

def pointingAtFirst : Pointing where
  textSelection := none
  heldPaneClick := none
  panes _ := following
  writes := []
  trace := []

def onlyPane : PtyKey := .terminal ⟨1⟩

def paneView : MouseView := ⟨false, some (onlyPane, ⟨0, 0, 80, 24⟩)⟩

def leftButton (kind : MouseEventKind) (column : Nat) : PointerStep :=
  .mouse paneView ⟨kind, column, 3, false, false, false⟩ []

def pressed : Pointing := pointingAtFirst.step (leftButton (.down .left) 5)

def handOnPress : Hand := Hand.free.after pointingAtFirst (leftButton (.down .left) 5)

theorem gestures_bracketed_click :
    WellBracketed (pressed.step (leftButton (.up .left) 5)).trace := by
  have starts : gestureMachine.start (pointingAtFirst, .free) := ⟨⟨rfl, rfl⟩, rfl⟩
  have pressing : Keeps pointingAtFirst .free (leftButton (.down .left) 5) :=
    ⟨by simp [Pointing.Through], by simp, by simp⟩
  have holding : Keeps pressed handOnPress (leftButton (.up .left) 5) := by
    refine ⟨by simp [Pointing.Through], fun terminal cell made _ _ => ?_, fun _ terminal owes => ?_⟩
    · have same : some (onlyPane, _) = some (terminal, cell) := made
      cases same
      rfl
    · by_cases same : terminal = onlyPane
      · subst same
        exact .inl rfl
      · have made : pointingAtFirst.offered paneView ⟨.down .left, 5, 3, false, false, false⟩ =
            some (onlyPane, ⟨3, 5⟩) := rfl
        have untouched : pointingAtFirst.touch paneView ⟨.down .left, 5, 3, false, false, false⟩
            terminal = .none := by
          rw [Pointing.touch, made]
          simp [Ne.symm same, pointingAtFirst]
        change Touch.owing _ (pointingAtFirst.touch _ _ terminal) = true at owes
        rw [untouched] at owes
        cases owes
  have down : gestureMachine.Run (fun state => Keeps state.1 state.2) (pressed, handOnPress) [] :=
    (Machine.Run.start starts).step pressing rfl
  exact gestures_bracketed (down.step holding rfl)

/-- The pointer leaves the pane before the button comes up. -/
theorem gestures_unbracketed :
    ∃ state past, pointerMachine.Reaches state past ∧ ¬ WellBracketed state.trace := by
  refine ⟨pressed.step (leftButton (.up .left) 90), [], ?_, fun bracketed => ?_⟩
  · have starts : pointerMachine.start pointingAtFirst := ⟨rfl, rfl⟩
    exact ((Machine.Run.start starts).step trivial rfl).step trivial rfl
  · have fits := bracketed pressed.trace .letGo [] rfl onlyPane
    exact absurd fits (by decide)

end Mult.Runtime
