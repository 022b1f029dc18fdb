import Mult.Daemon.Coherence

/-! When signals reach a live pane: a termination thread looks at the pane's lifecycle, lets
go of it, and signals the groups it captured when it started.
-/

set_option autoImplicit false

namespace Mult.Daemon
open Foundation Protocol

def removes (events : List Event) (ref : PaneRef) : Bool :=
  events.any fun
    | .removed other _ => other = ref
    | _ => false

/-- No pane is removed while a termination thread of it is about to signal. -/
def SignalsFirst (server : Server) (action : Action) : Prop :=
  ∀ stepped ∈ step server action, ∀ ref ∈ List.range server.panes.length,
    removes stepped.2 ref = true → ∀ pane ∈ server.panes[ref]?, ∀ driver ∈ pane.drivers,
      driver.signals = false

instance (server : Server) (action : Action) : Decidable (SignalsFirst server action) :=
  inferInstanceAs (Decidable (∀ stepped ∈ step server action,
    ∀ ref ∈ List.range server.panes.length, removes stepped.2 ref = true →
      ∀ pane ∈ server.panes[ref]?, ∀ driver ∈ pane.drivers, driver.signals = false))

def SignalsLive (server : Server) : Prop :=
  ∀ (ref : PaneRef) (pane : Pane), server.panes[ref]? = some pane →
    ∀ driver ∈ pane.drivers, driver.signals = true → pane.state.lifecycle ≠ .removed

/-- The next signal is sent to groups of a pane that has not been finalized. -/
def SignalsReachLive (server : Server) : Prop :=
  ∀ (action : Action) (next : Server) (events : List Event) (ref : PaneRef) (group : Nat)
    (kill : Bool), step server action = some (next, events) →
    .signalled ref group kill ∈ events → ∃ pane : Pane, server.panes[ref]? = some pane ∧
      (∃ driver ∈ pane.drivers, group ∈ driver.groups) ∧ pane.state.lifecycle ≠ .removed

section
variable {server next : Server} {ref : PaneRef} {pane after : Pane} {events : List Event}

/-- A termination thread that is about to signal was so before, or saw the pane there. -/
theorem DriverMove.signals {driver : StopDriver} {phase : Termination}
    (move : DriverMove ref pane driver driver.phase phase events)
    (signals : StopDriver.signals { driver with phase } = true) :
    driver.signals = true ∨ pane.state.lifecycle ≠ .removed := by
  generalize was : driver.phase = before at move
  cases move with
  | signalled _ kill same =>
    left
    cases kill <;> (subst same; simp [StopDriver.signals, was])
  | graceEnded live => exact .inr live
  | foreground kill _ _ same _ => cases kill <;> (subst same; cases signals)
  | _ => cases signals

theorem mem_setDriver {position : Nat} {driver other : StopDriver} {phase : Termination}
    (member : other ∈ (pane.setDriver position driver phase).drivers) :
    other = { driver with phase } ∨ other ∈ pane.drivers :=
  (List.mem_or_eq_of_mem_set member).symm

theorem PaneStep.signals (stepped : PaneStep ref pane after events)
    (live : ∀ driver ∈ pane.drivers, driver.signals = true →
      pane.state.lifecycle ≠ .removed) :
    ∀ driver ∈ after.drivers, driver.signals = true → after.state.lifecycle ≠ .removed := by
  intro other member signals
  cases stepped with
  | driverMoved _ driver _ _ present move =>
    rcases mem_setDriver member with rfl | member
    · rcases move.signals signals with before | there
      · exact live driver (List.mem_of_getElem? present) before
      · exact there
    · exact live other member signals
  | driverRestored _ _ _ _ _ present restoring edge =>
    rcases mem_setDriver member with rfl | member
    · cases signals
    · have there : pane.state.lifecycle ≠ .removed := live other member signals
      change _ ≠ PaneLifecycle.removed
      simp only [Pane.setDriver, edge]
      split
      · simp
      · exact there
  | driverFailed =>
    rcases mem_setDriver member with rfl | member
    · cases signals
    · exact live other member signals
  | appended _ _ _ _ _ _ _ appended =>
    obtain ⟨_, _, _, rfl⟩ := appendRawHistory_frame appended
    exact live other member signals
  | readFailed _ _ _ _ failed =>
    obtain ⟨_, _, _, rfl⟩ := appendRawHistory_frame failed
    exact live other member signals
  | _ => exact live other member signals

theorem Effect.signalsLive (effect : Effect server next events) (live : SignalsLive server)
    (first : ∀ (ref : PaneRef) (pane : Pane), removes events ref = true →
      server.panes[ref]? = some pane → ∀ driver ∈ pane.drivers, driver.signals = false) :
    SignalsLive next := by
  intro ref pane found driver member signals
  rcases effect.course ref with ⟨-, absent, -⟩ | ⟨-, spawned, -⟩ | ⟨present, after, course⟩
  · rw [absent] at found
    cases found
  · rw [spawned] at found
    cases found
    cases member
  · rw [after] at found
    cases found
    have before := live ref _ present
    cases course with
    | kept same _ =>
      have lifecycle : pane.state.lifecycle = _ := congrArg PaneCourse.lifecycle same
      have drivers : pane.drivers = _ := congrArg PaneCourse.drivers same
      rw [drivers] at member
      rw [lifecycle]
      exact before driver member signals
    | started => exact before driver member signals
    | @stopAccepted _ _ _ lifecycle _ _ alive edge =>
      have there := before driver member signals
      change lifecycle ≠ .removed
      rw [edge]
      split
      · simp
      · exact there
    | stopStarted => exact nofun
    | stepped stepped => exact stepped.signals before driver member signals
    | finalized _ _ _ finalizer =>
      have known : driver ∈ Pane.drivers _ := member
      have idle := first ref _ (by simp [removes]) present driver
        (by cases finalizer <;> exact known)
      rw [signals] at idle
      cases idle

theorem signalsLive_of_run {past : List Event} (run : daemon.Run SignalsFirst server past) :
    SignalsLive server := by
  refine run.invariant (motive := fun server _ => SignalsLive server) ?_ ?_
  · rintro state ⟨serverInstance, rfl⟩ ref pane found
    simp [Server.new] at found
  · intro state next past events action _ live allowed stepped
    refine (step_effect stepped).signalsLive live fun ref pane removed found => ?_
    have bound : ref < state.panes.length := (List.getElem?_eq_some_iff.mp found).1
    exact allowed _ stepped ref (List.mem_range.mpr bound) removed pane found

theorem Effect.signalled (effect : Effect server next events) {group : Nat} {kill : Bool}
    (member : .signalled ref group kill ∈ events) : ∃ pane : Pane, server.panes[ref]? = some pane ∧
      ∃ driver ∈ pane.drivers, driver.signals = true ∧ group ∈ driver.groups := by
  rcases effect.course ref with ⟨-, -, quiet⟩ | ⟨-, -, quiet⟩ | ⟨present, after, course⟩
  · exact absurd rfl (quiet _ member)
  · exact absurd rfl (quiet _ member)
  · refine ⟨_, present, ?_⟩
    cases course with
    | kept _ quiet => exact absurd rfl (quiet _ member)
    | started => simp at member
    | stopAccepted =>
      rcases List.mem_append.mp member with member | member
      · simp at member
      · cases mem_lifecycleEdge member
    | stopStarted => cases mem_lifecycleEdge member
    | stepped stepped =>
      cases stepped with
      | driverMoved _ driver _ _ present move =>
        obtain ⟨signals, group, kill, captured, same⟩ := move.events _ member
        cases same
        exact ⟨driver, List.mem_of_getElem? present, signals, captured⟩
      | ptyWriter _ _ _ _ wrote => obtain ⟨bytes, same⟩ := wrote _ member; cases same
      | appended => simp at member
      | readerNotified => obtain ⟨client, lease, same⟩ := mem_exitNotice member; cases same
      | waiterNotified => obtain ⟨client, lease, same⟩ := mem_exitNotice member; cases same
      | waiterFailed => obtain ⟨key, response, same⟩ := mem_stopAnswers member; cases same
      | driverFailed => obtain ⟨key, response, same⟩ := mem_stopAnswers member; cases same
      | driverRestored =>
        rcases List.mem_cons.mp member with same | member
        · cases same
        · cases mem_lifecycleEdge member
      | _ => cases member
    | finalized =>
      rcases List.mem_append.mp member with member | member
      · simp at member
      · obtain ⟨key, response, same⟩ := mem_stopAnswers member
        cases same

end

/-- In a run that removes no pane between the look and the signal, signals reach live panes. -/
theorem signals_reach_live (server : Server) (past : List Event)
    (run : daemon.Run SignalsFirst server past) : SignalsReachLive server := by
  intro action next events ref group kill stepped member
  obtain ⟨pane, present, driver, known, signals, captured⟩ :=
    (step_effect stepped).signalled member
  exact ⟨pane, present, ⟨driver, known, captured⟩,
    signalsLive_of_run run ref pane present driver known signals⟩

/-- The termination thread of a stop has sent both of its signals. -/
theorem signals_reach_live_killed : ∃ (server : Server) (past : List Event),
    SignalsReachLive server ∧ .signalled 0 7 false ∈ past ∧ .signalled 0 7 true ∈ past := by
  obtain ⟨server, past, run, passed⟩ := daemon.exists_run SignalsFirst ⟨⟨0⟩, rfl⟩
    (sampleSession ++ stopSteps 0 thirdRequest ++ List.replicate 4 (.drive 0 0 .proceed))
    (fun _ past => .signalled 0 7 false ∈ past ∧ .signalled 0 7 true ∈ past) (by decide)
  obtain ⟨term, kill⟩ := of_decide_eq_true passed
  exact ⟨server, past, signals_reach_live server past run, term, kill⟩

/-- The pane is removed after the grace period ended, and its group is killed after that. -/
theorem signals_reach_removed : ∃ server past, daemon.Reaches server past ∧
    ¬ SignalsReachLive server := by
  obtain ⟨server, past, run, passed⟩ := daemon.exists_reaches ⟨⟨0⟩, rfl⟩
    (sampleSession ++ stopSteps 0 thirdRequest ++ List.replicate 3 (.drive 0 0 .proceed) ++
      [.waiter 0 (.exited ⟨0, none⟩), .waiter 0 .proceed, .readEnd 0, .reader 0, .reader 0])
    (fun server _ => (server.panes[0]?.any fun pane => pane.state.lifecycle = .removed) &&
      (step server (.drive 0 0 .proceed)).any fun stepped => .signalled 0 7 true ∈ stepped.2)
    (by decide)
  simp only [Bool.and_eq_true, Option.any_eq_true, decide_eq_true_eq] at passed
  obtain ⟨⟨pane, present, gone⟩, ⟨next, events⟩, stepped, signalled⟩ := passed
  refine ⟨server, past, run, fun reach => ?_⟩
  obtain ⟨other, found, -, live⟩ := reach _ _ _ _ _ _ stepped signalled
  rw [present] at found
  cases found
  exact live gone

end Mult.Daemon
