import Mult.Daemon.Coherence

/-! Whoever is still to answer the stops pending on a pane: a termination thread, or the
thread that accepted one of them and is about to start one.
-/

set_option autoImplicit false

namespace Mult.Daemon
open Foundation Protocol

def Server.startsOf (server : Server) (thread : Nat) : Option PaneRef :=
  server.handlers[thread]?.bind Handler.startsStop

/-- Some thread of the pane, or one about to start it, will answer its pending stops. -/
def Attends (server : Server) (ref : PaneRef) (pane : Pane) : Prop :=
  (∃ driver ∈ pane.drivers, driver.phase.owes = true) ∨ ∃ thread, server.startsOf thread = some ref

def Attended (server : Server) : Prop :=
  ∀ (ref : PaneRef) (pane : Pane), server.panes[ref]? = some pane →
    pane.state.pendingStops ≠ [] → Attends server ref pane

section
variable {server next : Server} {ref : PaneRef} {events : List Event}

theorem startsOf_set {thread : Nat} {before after : Handler}
    (found : server.handlers[thread]? = some before)
    (handlers : next.handlers = server.handlers.set thread after) (other : Nat) :
    next.startsOf other = if thread = other then after.startsStop else server.startsOf other := by
  unfold Server.startsOf
  rw [handlers, getElem?_set_bind _ _ found]

theorem startsOf_same (handlers : next.handlers = server.handlers) :
    next.startsOf = server.startsOf := by
  funext thread
  unfold Server.startsOf
  rw [handlers]

theorem startsOf_idle {thread : Nat} {before after : Handler}
    (found : server.handlers[thread]? = some before)
    (handlers : next.handlers = server.handlers.set thread after)
    (idle : before.startsStop = none) {other : Nat} (starts : server.startsOf other = some ref) :
    next.startsOf other = some ref := by
  rw [startsOf_set found handlers]
  split
  · next same =>
    subst same
    simp [Server.startsOf, found, idle] at starts
  · exact starts

theorem startsOf_quiet (quiet : QuietHandlers server next events) {thread : Nat}
    (starts : server.startsOf thread = some ref) : next.startsOf thread = some ref := by
  cases quiet with
  | same handlers => rw [startsOf_same handlers]; exact starts
  | joined client handlers =>
    unfold Server.startsOf at starts ⊢
    rw [handlers, getElem?_append_bind _ _ rfl]
    exact starts
  | moved found handlers move _ =>
    rw [startsOf_set found handlers, move.startsStop]
    split
    · next same =>
      subst same
      simpa [Server.startsOf, found] using starts
    · exact starts

/-- The pane has no need of a new termination thread. -/
def Driven (server : Server) (ref : PaneRef) : Prop :=
  ∃ pane : Pane, server.panes[ref]? = some pane ∧
    (pane.state.terminated || pane.state.stopDriverActive) = true

theorem Effect.starts (effect : Effect server next events) {thread : Nat}
    (starts : server.startsOf thread = some ref) :
    next.startsOf thread = some ref ∨ Driven next ref := by
  cases effect with
  | quiet quiet => exact .inl (startsOf_quiet quiet.handlers starts)
  | shutdown _ handlers _ => exact .inl (startsOf_same handlers ▸ starts)
  | retryRefused quiet _ => exact .inl (startsOf_quiet quiet.handlers starts)
  | validated found _ => exact .inl (startsOf_idle found rfl rfl starts)
  | queued found _ _ _ _ _ handlers => exact .inl (startsOf_idle found handlers rfl starts)
  | reserved found _ => exact .inl (startsOf_idle found rfl rfl starts)
  | spawned found => exact .inl (startsOf_idle found rfl rfl starts)
  | published found _ _ _ => exact .inl (startsOf_idle found rfl rfl starts)
  | discarded found _ => exact .inl (startsOf_idle found rfl rfl starts)
  | released found => exact .inl (startsOf_idle found rfl rfl starts)
  | refitted _ _ _ handlers => exact .inl (startsOf_quiet handlers starts)
  | rebound found _ _ _ _ handlers => exact .inl (startsOf_idle found handlers rfl starts)
  | granted found _ _ _ _ handlers => exact .inl (startsOf_idle found handlers rfl starts)
  | unlocked found _ => exact .inl (startsOf_idle found rfl rfl starts)
  | resized found _ same => subst same; exact .inl (startsOf_idle found rfl rfl starts)
  | detached found _ => exact .inl (startsOf_idle found rfl rfl starts)
  | stopAccepted found _ _ _ _ => exact .inl (startsOf_idle found rfl rfl starts)
  | @stopSkipped _ own conn target _ found present driven panes _ handlers =>
    -- The thread that skips the start found another termination under way.
    rw [startsOf_set found handlers]
    split
    · next same =>
      subst same
      have here : some target = some ref := by
        simpa [Server.startsOf, found, Handler.startsStop] using starts
      cases here
      exact .inr ⟨_, panes ▸ present, driven⟩
    · exact .inl starts
  | @stopStarted _ target _ _ present _ _ panes _ handlers =>
    have driven : Driven next target := by
      unfold Driven
      rw [panes, List.getElem?_set_self (List.getElem?_eq_some_iff.mp present).1]
      exact ⟨_, rfl, Bool.or_true _⟩
    -- The start is by a thread of a connection or by the one that shuts the daemon down.
    rcases handlers with handlers | ⟨own, conn, found, handlers⟩
    · exact .inl (startsOf_same handlers ▸ starts)
    · rw [startsOf_set found handlers]
      split
      · next same =>
        subst same
        have here : some target = some ref := by
          simpa [Server.startsOf, found, Handler.startsStop] using starts
        cases here
        exact .inr driven
      · exact .inl starts
  | pane _ _ _ _ handlers => exact .inl (startsOf_same handlers ▸ starts)
  | finalized _ _ _ _ _ _ _ _ handlers => exact .inl (startsOf_same handlers ▸ starts)

theorem DriverMove.owes {pane : Pane} {driver : StopDriver} {before phase : Termination}
    (live : pane.state.lifecycle ≠ .removed) (move : DriverMove ref pane driver before phase events)
    (owes : before.owes = true) : phase.owes = true := by
  cases move with
  | foreground kill _ _ same _ => cases kill <;> (subst same; rfl)
  | graceRemoved removed => exact absurd removed live
  | drainRemoved removed => exact absurd removed live
  | reported => cases owes
  | finished => cases owes
  | _ => rfl

theorem owes_set {pane : Pane} {position : Nat} {driver : StopDriver} {phase : Termination}
    (present : pane.drivers[position]? = some driver)
    (moves : driver.phase.owes = true → phase.owes = true)
    (owed : ∃ other ∈ pane.drivers, other.phase.owes = true) :
    ∃ other ∈ (pane.setDriver position driver phase).drivers, other.phase.owes = true := by
  obtain ⟨other, member, owes⟩ := owed
  obtain ⟨place, there⟩ := List.mem_iff_getElem?.mp member
  by_cases same : position = place
  · subst same
    rw [present] at there
    cases there
    refine ⟨{ driver with phase }, List.mem_of_getElem? (i := position) ?_, moves owes⟩
    exact List.getElem?_set_self (List.getElem?_eq_some_iff.mp present).1
  · refine ⟨other, List.mem_of_getElem? (i := place) ?_, owes⟩
    exact (List.getElem?_set_ne same).trans there

theorem PaneStep.owes {pane after : Pane} (stepped : PaneStep ref pane after events)
    (coherent : pane.course.Coherent) (pending : after.state.pendingStops ≠ []) :
    pane.state.pendingStops ≠ [] ∧ ((∃ driver ∈ pane.drivers, driver.phase.owes = true) →
      ∃ driver ∈ after.drivers, driver.phase.owes = true) := by
  have live (waits : pane.state.pendingStops ≠ []) : pane.state.lifecycle ≠ .removed :=
    fun gone => waits (coherent.removed gone).2.2.1
  cases stepped with
  | driverMoved _ _ _ _ present move =>
    exact ⟨pending, owes_set present (move.owes (live pending))⟩
  | driverRestored _ _ _ _ _ present => exact ⟨pending, owes_set present fun _ => rfl⟩
  | driverFailed => exact absurd rfl pending
  | waiterFailed => exact absurd rfl pending
  | appended _ _ _ _ _ _ _ appended =>
    obtain ⟨_, _, _, rfl⟩ := appendRawHistory_frame appended
    exact ⟨pending, id⟩
  | readFailed _ _ _ _ failed =>
    obtain ⟨_, _, _, rfl⟩ := appendRawHistory_frame failed
    exact ⟨pending, id⟩
  | _ => exact ⟨pending, id⟩

/-- While the pane's active flag is set, one of its termination threads holds it. -/
theorem PaneCourse.Coherent.active {pane : Pane} (coherent : pane.course.Coherent)
    (live : pane.state.lifecycle ≠ .removed) (active : pane.state.stopDriverActive = true) :
    ∃ driver ∈ pane.drivers, driver.phase.active = true := by
  have total : tally activeWeight pane.drivers = pane.state.stopDriverActive.toNat :=
    coherent.drivers live
  rw [active] at total
  by_contra none
  have silent : tally activeWeight pane.drivers = 0 := by
    refine List.sum_eq_zero fun weight member => ?_
    obtain ⟨driver, known, rfl⟩ := List.mem_map.mp member
    by_contra heavy
    refine none ⟨driver, known, ?_⟩
    simpa [activeWeight] using heavy
  rw [silent] at total
  cases total

theorem PaneCourse.Coherent.driven {pane : Pane} (coherent : pane.course.Coherent)
    (pending : pane.state.pendingStops ≠ [])
    (driven : (pane.state.terminated || pane.state.stopDriverActive) = true) :
    ∃ driver ∈ pane.drivers, driver.phase.owes = true := by
  have live : pane.state.lifecycle ≠ .removed :=
    fun gone => pending (coherent.removed gone).2.2.1
  have exited : pane.state.lifecycle ≠ .exited := coherent.notExited
  have active : pane.state.stopDriverActive = true := by
    simpa [PaneState.terminated, live, exited] using driven
  obtain ⟨driver, member, holds⟩ := coherent.active live active
  exact ⟨driver, member, Termination.owes_of_active holds⟩

theorem Effect.attended (effect : Effect server next events) (unshared : Unshared server)
    (coherent : Coherent server) (attended : Attended server) : Attended next := by
  intro ref pane found pending
  have settled := effect.coherent unshared coherent ref pane found
  -- A thread about to start the termination either stays so or found it started.
  have onward (starts : ∃ thread, server.startsOf thread = some ref) : Attends next ref pane := by
    obtain ⟨thread, starts⟩ := starts
    rcases effect.starts starts with still | ⟨same, there, driven⟩
    · exact .inr ⟨thread, still⟩
    · rw [found] at there
      cases there
      exact .inl (settled.driven pending driven)
  rcases effect.course ref with ⟨-, absent, -⟩ | ⟨-, spawned, -⟩ | ⟨present, after, course⟩
  · rw [absent] at found
    cases found
  · rw [spawned] at found
    cases found
    exact absurd rfl pending
  · rw [after] at found
    cases found
    cases course with
    | kept same _ =>
      have stops : pane.state.pendingStops = _ := congrArg PaneCourse.pendingStops same
      have drivers : pane.drivers = _ := congrArg PaneCourse.drivers same
      rw [stops] at pending
      rcases attended ref _ present pending with ⟨driver, member, owes⟩ | starts
      · exact .inl ⟨driver, drivers ▸ member, owes⟩
      · exact onward starts
    | started _ =>
      rcases attended ref _ present pending with owed | starts
      · exact .inl owed
      · exact onward starts
    | @stopAccepted thread _ _ _ _ starts _ _ =>
      exact .inr ⟨thread, by simp [Server.startsOf, starts, Handler.startsStop]⟩
    | stopStarted _ _ => exact .inl ⟨_, List.mem_append_right _ List.mem_cons_self, rfl⟩
    | stepped stepped =>
      obtain ⟨waiting, kept⟩ := stepped.owes (coherent ref _ present) pending
      rcases attended ref _ present waiting with owed | starts
      · exact .inl (kept owed)
      · exact onward starts
    | finalized _ _ _ finalizer => cases finalizer <;> exact absurd rfl pending

end

theorem attended_of_reaches {server : Server} {past : List Event}
    (run : daemon.Reaches server past) : Attended server := by
  refine run.invariant (motive := fun server _ => Attended server) ?_ ?_
  · rintro state ⟨serverInstance, rfl⟩ ref pane found
    simp [Server.new] at found
  · intro state next past events action earlier attended _ stepped
    exact (step_effect stepped).attended (unshared_of_reaches earlier) (coherent_of_reaches earlier)
      attended

end Mult.Daemon
