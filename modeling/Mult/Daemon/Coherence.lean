import Mult.Daemon.Course
import Mult.Daemon.Unpublished
import Mult.Foundation.Tallies

/-! How the threads of a pane and its state hang together: what the reader and the waiter
have told the pane, who is terminating it, and who answers its pending stops.
-/

set_option autoImplicit false

namespace Mult.Daemon
open Foundation Protocol

/-- The reader has told the pane that its stream ended. -/
def Reader.done : Reader → Bool
  | .finalizing | .notifying _ | .finished => true
  | _ => false

/-- The waiter has told the pane how its child ended. -/
def Waiter.done : Waiter → Bool
  | .finalizing | .notifying _ | .finished => true
  | _ => false

/-- The thread has not yet given up the pane's active flag. -/
def Termination.active : Termination → Bool
  | .failing _ | .reporting _ | .finished => false
  | _ => true

/-- The thread is still to answer the pending stops, if it fails. -/
def Termination.owes : Termination → Bool
  | .reporting _ | .finished => false
  | _ => true

theorem Termination.owes_of_active {phase : Termination} (active : phase.active = true) :
    phase.owes = true := by
  cases phase <;> first | rfl | cases active

def activeWeight (driver : StopDriver) : Nat := driver.phase.active.toNat

/-- How a pane stands with its own threads. -/
structure PaneCourse.Coherent (course : PaneCourse) : Prop where
  readerDone : course.readerDone = course.reader.done
  childExit : course.childExit.isSome = course.waiter.done
  notExited : course.lifecycle ≠ .exited
  removed : course.lifecycle = .removed →
    course.readerDone = true ∧ course.childExit.isSome = true ∧ course.pendingStops = [] ∧
      course.stopDriverActive = false
  reader : course.lifecycle ≠ .removed → ∀ outgoing, course.reader ≠ .notifying outgoing
  waiter : course.lifecycle ≠ .removed → ∀ outgoing, course.waiter ≠ .notifying outgoing
  /-- As long as the pane is there, one of the two is still to look at it. -/
  awaited : course.lifecycle ≠ .removed → course.reader = .finished → course.waiter ≠ .finished
  drivers : course.lifecycle ≠ .removed →
    tally activeWeight course.drivers = course.stopDriverActive.toNat

def Coherent (server : Server) : Prop :=
  ∀ (ref : PaneRef) (pane : Pane), server.panes[ref]? = some pane → pane.course.Coherent

section
variable {ref : PaneRef} {pane after : Pane} {events : List Event}

theorem tally_setDriver {position : Nat} {driver : StopDriver} (phase : Termination)
    (present : pane.drivers[position]? = some driver) :
    tally activeWeight (pane.setDriver position driver phase).drivers + activeWeight driver =
      tally activeWeight pane.drivers + phase.active.toNat :=
  tally_set present { driver with phase }

theorem DriverMove.active {driver : StopDriver} {before phase : Termination} (live : pane.state.lifecycle ≠ .removed)
    (move : DriverMove ref pane driver before phase events) : phase.active = before.active := by
  cases move with
  | signalled _ kill same => cases kill <;> (subst same; rfl)
  | signalFailed _ kill _ same => cases kill <;> (subst same; rfl)
  | foreground kill _ _ same _ => cases kill <;> (subst same; rfl)
  | graceRemoved removed => exact absurd removed live
  | drainRemoved removed => exact absurd removed live
  | _ => rfl

namespace PaneCourse.Coherent

theorem driverMoved (coherent : pane.course.Coherent) {position : Nat} {driver : StopDriver}
    (present : pane.drivers[position]? = some driver) {phase : Termination}
    (move : DriverMove ref pane driver driver.phase phase events) :
    (pane.setDriver position driver phase).course.Coherent := by
  refine ⟨coherent.readerDone, coherent.childExit, coherent.notExited, coherent.removed,
    coherent.reader, coherent.waiter, coherent.awaited, fun live => ?_⟩
  have alive : pane.state.lifecycle ≠ .removed := live
  have total := tally_setDriver phase present
  rw [move.active alive, activeWeight, Nat.add_right_cancel_iff] at total
  exact total.trans (coherent.drivers alive)

theorem driverRestored (coherent : pane.course.Coherent) {position : Nat} {driver : StopDriver}
    (present : pane.drivers[position]? = some driver) {restore : Bool} {message : String}
    {lifecycle : PaneLifecycle} (restoring : driver.phase = .restoring restore message)
    (edge : lifecycle = if restore ∧ pane.state.lifecycle = .stopping then .running
      else pane.state.lifecycle) :
    (Pane.setDriver { pane with
      state := { pane.state with stopDriverActive := false, lifecycle } } position driver
      (.failing message)).course.Coherent := by
  have removed : lifecycle = .removed ↔ pane.state.lifecycle = .removed := by
    rw [edge]
    split
    · next stopping => simp [stopping.2]
    · rfl
  refine ⟨coherent.readerDone, coherent.childExit, ?_, fun gone => ?_,
    fun live => coherent.reader fun gone => live (removed.mpr gone),
    fun live => coherent.waiter fun gone => live (removed.mpr gone),
    fun live => coherent.awaited fun gone => live (removed.mpr gone), fun live => ?_⟩
  · change lifecycle ≠ .exited
    rw [edge]
    split
    · simp
    · exact coherent.notExited
  · obtain ⟨done, exited, stops, -⟩ := coherent.removed (removed.mp gone)
    exact ⟨done, exited, stops, rfl⟩
  · have alive : pane.state.lifecycle ≠ .removed := fun gone => live (removed.mpr gone)
    have total := tally_setDriver (.failing message) present
    have bound := Bool.toNat_le pane.state.stopDriverActive
    have before : tally activeWeight pane.drivers = pane.state.stopDriverActive.toNat :=
      coherent.drivers alive
    have own : activeWeight driver = 1 := by rw [activeWeight, restoring]; rfl
    have given : (Termination.failing message).active.toNat = 0 := rfl
    change tally activeWeight (pane.setDriver position driver (.failing message)).drivers = 0
    omega

theorem driverFailed (coherent : pane.course.Coherent) {position : Nat} {driver : StopDriver}
    (present : pane.drivers[position]? = some driver) {message : String} {outgoing : List Outgoing}
    (failing : driver.phase = .failing message) :
    (Pane.setDriver { pane with state := { pane.state with pendingStops := [] } } position driver
      (.reporting outgoing)).course.Coherent := by
  refine ⟨coherent.readerDone, coherent.childExit, coherent.notExited, fun gone => ?_,
    coherent.reader, coherent.waiter, coherent.awaited, fun live => ?_⟩
  · obtain ⟨done, exited, -, idle⟩ := coherent.removed gone
    exact ⟨done, exited, rfl, idle⟩
  · have total := tally_setDriver (.reporting outgoing) present
    have own : activeWeight driver = 0 := by rw [activeWeight, failing]; rfl
    rw [own] at total
    exact total.trans (coherent.drivers live)

end PaneCourse.Coherent

theorem PaneStep.coherent (stepped : PaneStep ref pane after events)
    (coherent : pane.course.Coherent) : after.course.Coherent := by
  cases stepped with
  | driverMoved position driver phase _ present move => exact coherent.driverMoved present move
  | driverRestored position driver restore message lifecycle present restoring edge =>
    exact coherent.driverRestored present restoring edge
  | driverFailed position driver message outgoing present failing =>
    exact coherent.driverFailed present failing
  | appended _ _ _ _ _ _ _ appended =>
    obtain ⟨_, _, _, rfl⟩ := appendRawHistory_frame appended
    exact ⟨coherent.readerDone, coherent.childExit, coherent.notExited, coherent.removed,
      coherent.reader, coherent.waiter, coherent.awaited, coherent.drivers⟩
  | readFailed _ _ _ reading failed =>
    obtain ⟨_, _, _, rfl⟩ := appendRawHistory_frame failed
    obtain ⟨readerDone, childExit, notExited, removed, reader, waiter, awaited, drivers⟩ := coherent
    constructor <;> simp_all [Pane.course, Reader.done]
  | ptyWriter =>
    exact ⟨coherent.readerDone, coherent.childExit, coherent.notExited, coherent.removed,
      coherent.reader, coherent.waiter, coherent.awaited, coherent.drivers⟩
  | probed =>
    exact ⟨coherent.readerDone, coherent.childExit, coherent.notExited, coherent.removed,
      coherent.reader, coherent.waiter, coherent.awaited, coherent.drivers⟩
  | readerKept finalizing kept =>
    have told : pane.state.readerDone = true := by
      simpa [Pane.course, finalizing, Reader.done] using coherent.readerDone
    refine ⟨told, coherent.childExit, coherent.notExited, coherent.removed,
      fun _ _ idle => (by cases idle), coherent.waiter, fun live _ ended => ?_, coherent.drivers⟩
    -- A waiter that is through has recorded the exit: the reader would have removed the pane.
    have exited : pane.state.childExit.isSome = true :=
      coherent.childExit.trans (congrArg Waiter.done ended)
    have alive : pane.state.lifecycle ≠ .removed := live
    simp [Pane.finalizable, told, exited, alive] at kept
  | waiterKept finalizing kept =>
    have exited : pane.state.childExit.isSome = true := by
      simpa [Pane.course, finalizing, Waiter.done] using coherent.childExit
    refine ⟨coherent.readerDone, exited, coherent.notExited, coherent.removed, coherent.reader,
      fun _ _ idle => (by cases idle), fun live ended _ => ?_, coherent.drivers⟩
    have told : pane.state.readerDone = true :=
      coherent.readerDone.trans (congrArg Reader.done ended)
    have alive : pane.state.lifecycle ≠ .removed := live
    simp [Pane.finalizable, told, exited, alive] at kept
  | _ =>
    -- One step of the reader or of the waiter.
    obtain ⟨readerDone, childExit, notExited, removed, reader, waiter, awaited, drivers⟩ := coherent
    constructor <;> simp_all [Pane.course, Reader.done, Waiter.done]

theorem Course.coherent {server next : Server} (course : Course server next ref pane after events)
    (unshared : Unshared server) (found : server.panes[ref]? = some pane)
    (coherent : pane.course.Coherent) : after.course.Coherent := by
  cases course with
  | kept same _ => rw [same]; exact coherent
  | started unpublished =>
    obtain ⟨known, present, -, reader, waiter⟩ := unshared _ ref unpublished
    rw [found] at present
    cases present
    obtain ⟨readerDone, childExit, notExited, removed, -, -, -, drivers⟩ := coherent
    constructor <;> simp_all [Pane.course, Reader.done, Waiter.done]
  | @stopAccepted thread conn request lifecycle _ _ alive edge =>
    have live : pane.state.lifecycle ≠ .removed := by
      intro gone
      simp [PaneState.terminated, gone] at alive
    have moved : lifecycle ≠ .exited ∧ lifecycle ≠ .removed := by
      rw [edge]
      split
      · simp
      · exact ⟨coherent.notExited, live⟩
    exact ⟨coherent.readerDone, coherent.childExit, moved.1, fun gone => absurd gone moved.2,
      fun _ => coherent.reader live, fun _ => coherent.waiter live, fun _ => coherent.awaited live,
      fun _ => coherent.drivers live⟩
  | stopStarted alive idle =>
    have live : pane.state.lifecycle ≠ .removed := by
      intro gone
      simp [PaneState.terminated, gone] at alive
    refine ⟨coherent.readerDone, coherent.childExit, nofun, nofun, fun _ => coherent.reader live,
      fun _ => coherent.waiter live, fun _ => coherent.awaited live, fun _ => ?_⟩
    have before : tally activeWeight pane.drivers = pane.state.stopDriverActive.toNat :=
      coherent.drivers live
    rw [idle] at before
    change tally activeWeight (pane.drivers ++ [_]) = 1
    rw [tally_append, before]
    rfl
  | stepped stepped => exact stepped.coherent coherent
  | finalized ready exited _ finalizer =>
    simp only [Pane.finalizable, Bool.and_eq_true] at ready
    obtain ⟨⟨-, -⟩, told⟩ := ready
    obtain ⟨readerDone, childExit, -, -, -, -, -, -⟩ := coherent
    cases finalizer with
    | reader finalizing =>
      constructor <;> simp_all [Pane.course, PaneState.finalized, Reader.done]
    | waiter finalizing =>
      constructor <;> simp_all [Pane.course, PaneState.finalized, Waiter.done]

theorem Effect.coherent {server next : Server} (effect : Effect server next events)
    (unshared : Unshared server) (coherent : Coherent server) : Coherent next := by
  intro ref pane found
  rcases effect.course ref with ⟨-, absent, -⟩ | ⟨-, spawned, -⟩ | ⟨before, present, course⟩
  · rw [absent] at found
    cases found
  · rw [spawned] at found
    cases found
    constructor <;> simp [spawnPane, Pane.course, Reader.done, Waiter.done, tally]
  · rw [present] at found
    cases found
    exact course.coherent unshared before (coherent ref _ before)

end

theorem coherent_of_reaches {server : Server} {past : List Event}
    (run : daemon.Reaches server past) : Coherent server := by
  refine run.invariant (motive := fun server _ => Coherent server) ?_ ?_
  · rintro state ⟨serverInstance, rfl⟩ ref pane found
    simp [Server.new] at found
  · intro state next past events action earlier coherent _ stepped
    exact (step_effect stepped).coherent (unshared_of_reaches earlier) coherent

end Mult.Daemon
