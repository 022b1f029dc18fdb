import Mult.Daemon.ServedQueries
import Mult.Daemon.FinalizationContract

/-! The shutdown flag as a point in every run: what was before it is wound down, and nothing
enters after it.
-/

set_option autoImplicit false

namespace Mult.Daemon
open Foundation Protocol
open Std (TreeMap)

/-- The event publishes a session, or gives a client a lease. -/
def Event.enters : Event → Bool
  | .published .. | .granted .. | .rebound .. => true
  | _ => false

/-- The panes the shutdown has still to come to. -/
def MainThread.left : MainThread → List PaneRef
  | .stopping panes => panes
  | _ => []

/-- A termination thread of the pane was at work when the flag was set, or was started since. -/
def GetsDriver (set : Server) (ref : PaneRef) (pane : Pane) : Prop :=
  ∃ (position : Nat) (driver : StopDriver), pane.drivers[position]? = some driver ∧
    ∀ (before : Pane) (old : StopDriver), set.panes[ref]? = some before →
      before.drivers[position]? = some old → old.phase.active = true

section
variable {server next : Server} {events : List Event} {ref : PaneRef} {pane after : Pane}

theorem Event.ofPane.enters {event : Event} (own : event.ofPane) : event.enters = false := by
  cases event <;> first | rfl | cases own

theorem Books.closing {action : Action} (books : Books server next events action)
    (closing : server.state.shuttingDown = true) : next.state.shuttingDown = true := by
  cases books with
  | kept keeps => exact keeps.shuttingDown.trans closing
  | published _ _ published _ =>
    have serving := (publishReservedSession_ok published).1
    rw [closing] at serving
    cases serving
  | began _ same => rw [same]
  | passed _ _ _ _ same _ => rw [same]; exact closing
  | drained _ same => rw [same]; exact closing

theorem Effect.closed (effect : Effect server next events)
    (closing : server.state.shuttingDown = true) : ∀ event ∈ events, event.enters = false := by
  have answers (quiet : QuietHandlers server next events) :
      ∀ event ∈ events, event.enters = false := by
    intro event member
    obtain ⟨key, response, rfl⟩ := quiet.answers event member
    rfl
  have refused (serving : server.state.shuttingDown = false) : False := by
    rw [closing] at serving
    cases serving
  cases effect with
  | quiet quiet => exact answers quiet.handlers
  | published _ _ _ published => exact (refused (publishReservedSession_ok published).1).elim
  | rebound _ attach _ _ _ _ => exact (refused attach.serving).elim
  | granted _ attach _ _ _ _ => exact (refused attach.serving).elim
  | queued _ _ _ _ _ _ _ => split <;> simp [Event.enters]
  | refitted _ _ _ handlers => exact answers handlers
  | stopAccepted _ _ _ _ _ =>
    intro event member
    rcases List.mem_append.mp member with member | member
    · rcases List.mem_pair.mp member with rfl | rfl <;> rfl
    · rw [mem_lifecycleEdge member]; rfl
  | stopStarted _ _ _ _ _ _ =>
    intro event member
    rw [mem_lifecycleEdge member]; rfl
  | pane _ stepped _ _ _ => exact fun event member => (stepped.events_ofPane event member).enters
  | finalized _ _ _ _ _ _ _ _ _ =>
    intro event member
    rcases List.mem_append.mp member with member | member
    · simp only [List.mem_cons, List.not_mem_nil, or_false] at member
      rcases member with rfl | rfl | rfl <;> rfl
    · obtain ⟨key, response, rfl⟩ := mem_stopAnswers member
      rfl
  | _ => simp [Event.enters]

theorem removeSessionIfSame_subset {state : ServerState} {session other : SessionId}
    {target : PaneRef}
    (found : (state.removeSessionIfSame session ref).sessions[other]? = some target) :
    state.sessions[other]? = some target := by
  unfold ServerState.removeSessionIfSame at found
  split at found
  · simp only [TreeMap.getElem?_erase] at found
    split at found
    · cases found
    · exact found
  · exact found

theorem Effect.shrinks (effect : Effect server next events)
    (closing : server.state.shuttingDown = true) {session : SessionId} {target : PaneRef}
    (found : next.state.sessions[session]? = some target) :
    server.state.sessions[session]? = some target := by
  have closed := effect.closed closing
  cases effect.listing with
  | kept sessions _ => rw [sessions] at found; exact found
  | published => cases closed _ List.mem_cons_self
  | removed _ sessions => rw [sessions] at found; exact removeSessionIfSame_subset found

/-! ## Every session gets a termination thread -/

theorem DriverMove.active_before {driver : StopDriver} {before phase : Termination}
    (move : DriverMove ref pane driver before phase events) (active : phase.active = true) :
    before.active = true := by
  cases move with
  | signalled _ kill same => cases kill <;> (subst same; rfl)
  | signalFailed _ kill _ same => cases kill <;> (subst same; rfl)
  | _ => first | rfl | cases active

/-- No termination thread of the pane is lost, or takes up the active flag again. -/
structure KeepsDrivers (before after : List StopDriver) : Prop where
  length : before.length ≤ after.length
  active : ∀ (position : Nat) (driver old : StopDriver), after[position]? = some driver →
    before[position]? = some old → driver.phase.active = true → old.phase.active = true

theorem KeepsDrivers.refl (drivers : List StopDriver) : KeepsDrivers drivers drivers := by
  refine ⟨le_rfl, fun position driver old now before active => ?_⟩
  rw [now] at before
  cases before
  exact active

theorem KeepsDrivers.trans {first second third : List StopDriver}
    (earlier : KeepsDrivers first second) (later : KeepsDrivers second third) :
    KeepsDrivers first third := by
  refine ⟨earlier.length.trans later.length, fun position driver old now before active => ?_⟩
  have bound : position < second.length :=
    (List.getElem?_eq_some_iff.mp before).1.trans_le earlier.length
  have between := List.getElem?_eq_getElem bound
  exact earlier.active _ _ _ between before (later.active _ _ _ now between active)

theorem KeepsDrivers.set {position : Nat} {driver : StopDriver} {phase : Termination}
    (present : pane.drivers[position]? = some driver)
    (active : phase.active = true → driver.phase.active = true) :
    KeepsDrivers pane.drivers (pane.setDriver position driver phase).drivers := by
  refine ⟨le_of_eq (List.length_set ..).symm, fun place moved old now before held => ?_⟩
  by_cases same : position = place
  · subst same
    have there : (pane.drivers.set position { driver with phase })[position]? = some moved := now
    rw [List.getElem?_set_self (List.getElem?_eq_some_iff.mp present).1] at there
    cases there
    rw [present] at before
    cases before
    exact active held
  · have there : (pane.drivers.set position { driver with phase })[place]? = some moved := now
    rw [List.getElem?_set_ne same, before] at there
    cases there
    exact held

theorem PaneStep.keepsDrivers (stepped : PaneStep ref pane after events) :
    KeepsDrivers pane.drivers after.drivers := by
  cases stepped with
  | driverMoved _ _ _ _ present move => exact .set present move.active_before
  | driverRestored _ _ _ _ _ present => exact KeepsDrivers.set present nofun
  | driverFailed _ _ _ _ present => exact KeepsDrivers.set present nofun
  | appended _ _ _ _ _ _ _ appended =>
    obtain ⟨_, _, _, rfl⟩ := appendRawHistory_frame appended
    exact .refl _
  | readFailed _ _ _ _ failed =>
    obtain ⟨_, _, _, rfl⟩ := appendRawHistory_frame failed
    exact .refl _
  | _ => exact .refl _

theorem Course.keepsDrivers (course : Course server next ref pane after events) :
    KeepsDrivers pane.drivers after.drivers := by
  cases course with
  | kept same _ =>
    have drivers : after.drivers = pane.drivers := congrArg PaneCourse.drivers same
    rw [drivers]
    exact .refl _
  | started => exact .refl _
  | stopAccepted => exact .refl _
  | stopStarted =>
    refine ⟨by simp, fun position driver old now before active => ?_⟩
    rw [List.getElem?_append_left (List.getElem?_eq_some_iff.mp before).1, before] at now
    cases now
    exact active
  | stepped stepped => exact stepped.keepsDrivers
  | finalized _ _ _ finalizer => cases finalizer <;> exact .refl _

theorem Course.removed (course : Course server next ref pane after events)
    (gone : pane.state.lifecycle = .removed) : after.state.lifecycle = .removed := by
  cases course with
  | kept same _ => exact (congrArg PaneCourse.lifecycle same).trans gone
  | started => exact gone
  | stopAccepted _ _ alive _ => simp [PaneState.terminated, gone] at alive
  | stopStarted alive _ => simp [PaneState.terminated, gone] at alive
  | stepped stepped =>
    cases stepped with
    | driverRestored _ _ _ _ _ _ _ edge =>
      rw [gone] at edge
      simpa [Pane.setDriver] using edge
    | appended _ _ _ _ _ _ _ appended =>
      obtain ⟨_, _, _, rfl⟩ := appendRawHistory_frame appended
      exact gone
    | readFailed _ _ _ _ failed =>
      obtain ⟨_, _, _, rfl⟩ := appendRawHistory_frame failed
      exact gone
    | _ => exact gone
  | finalized _ _ _ finalizer => cases finalizer <;> rfl

/-- The pane was removed, or is seen to by a termination thread. -/
def WoundDown (set server : Server) (ref : PaneRef) : Prop :=
  ∃ pane : Pane, server.panes[ref]? = some pane ∧
    (pane.state.lifecycle = .removed ∨ GetsDriver set ref pane)

/-- How a state after the flag was set stands with the state it was set in. -/
structure WindsDown (set server : Server) : Prop where
  closing : server.state.shuttingDown = true
  main : server.main ≠ .accepting
  live : ∀ (session : SessionId) (ref : PaneRef), server.state.sessions[session]? = some ref →
    set.state.sessions[session]? = some ref
  drivers : ∀ (ref : PaneRef) (before : Pane), set.panes[ref]? = some before →
    ∃ pane : Pane, server.panes[ref]? = some pane ∧ KeepsDrivers before.drivers pane.drivers
  left : ∀ ref ∈ set.main.left, ref ∈ server.main.left ∨ WoundDown set server ref

theorem GetsDriver.keep {set : Server} (gets : GetsDriver set ref pane)
    (keeps : KeepsDrivers pane.drivers after.drivers) : GetsDriver set ref after := by
  obtain ⟨position, driver, present, since⟩ := gets
  have bound : position < after.drivers.length :=
    (List.getElem?_eq_some_iff.mp present).1.trans_le keeps.length
  exact ⟨position, _, List.getElem?_eq_getElem bound, since⟩

theorem Effect.woundDown {set : Server} (effect : Effect server next events)
    (wound : WoundDown set server ref) : WoundDown set next ref := by
  obtain ⟨pane, present, settled⟩ := wound
  rcases effect.course ref with ⟨absent, -, -⟩ | ⟨absent, -, -⟩ | ⟨here, there, course⟩
  · rw [present] at absent
    cases absent
  · rw [present] at absent
    cases absent
  · rw [present] at here
    cases here
    refine ⟨_, there, ?_⟩
    rcases settled with gone | gets
    · exact .inl (course.removed gone)
    · exact .inr (gets.keep course.keepsDrivers)

/-- A pane that needs no new termination thread is removed, or has one at work. -/
theorem WindsDown.passed {set : Server} (coherent : Coherent server)
    (drivers : ∀ (ref : PaneRef) (before : Pane), set.panes[ref]? = some before →
      ∃ pane : Pane, server.panes[ref]? = some pane ∧ KeepsDrivers before.drivers pane.drivers)
    (driven : Driven server ref) : WoundDown set server ref := by
  obtain ⟨pane, present, idle⟩ := driven
  refine ⟨pane, present, ?_⟩
  by_cases gone : pane.state.lifecycle = .removed
  · exact .inl gone
  · have settled := coherent ref pane present
    have exited : pane.state.lifecycle ≠ .exited := settled.notExited
    have active : pane.state.stopDriverActive = true := by
      simpa [PaneState.terminated, gone, exited] using idle
    obtain ⟨driver, member, holds⟩ := settled.active gone active
    obtain ⟨position, there⟩ := List.mem_iff_getElem?.mp member
    refine .inr ⟨position, driver, there, fun before old found known => ?_⟩
    obtain ⟨other, same, keeps⟩ := drivers ref before found
    rw [present] at same
    cases same
    exact keeps.active position driver old there known holds

theorem WindsDown.step {set : Server} {action : Action} (winds : WindsDown set server)
    (stepped : Daemon.step server action = some (next, events)) (coherent : Coherent next) :
    WindsDown set next := by
  have effect := step_effect stepped
  have books := step_books stepped
  -- Terminations are only ever added to, so those there were are still there.
  have drivers : ∀ (ref : PaneRef) (before : Pane), set.panes[ref]? = some before →
      ∃ pane : Pane, next.panes[ref]? = some pane ∧
        KeepsDrivers before.drivers pane.drivers := by
    intro ref before found
    obtain ⟨pane, present, keeps⟩ := winds.drivers ref before found
    rcases effect.course ref with ⟨absent, -, -⟩ | ⟨absent, -, -⟩ | ⟨here, there, course⟩
    · rw [present] at absent
      cases absent
    · rw [present] at absent
      cases absent
    · rw [present] at here
      cases here
      exact ⟨_, there, keeps.trans course.keepsDrivers⟩
  refine ⟨books.closing winds.closing, ?_, fun session ref found =>
    winds.live session ref (effect.shrinks winds.closing found), drivers, fun ref known => ?_⟩
  · cases books with
    | kept keeps => rw [keeps.main]; exact winds.main
    | published _ _ _ main => rw [main]; exact winds.main
    | began accepting _ => exact absurd accepting winds.main
    | passed _ _ _ main _ _ => rw [main]; exact nofun
    | drained _ same => rw [same]; exact nofun
  · rcases winds.left ref known with waits | wound
    · cases books with
      | kept keeps => exact .inl (by rw [keeps.main]; exact waits)
      | published _ _ _ main => exact .inl (by rw [main]; exact waits)
      | began accepting _ => exact absurd accepting winds.main
      | passed target rest before main _ driven =>
        rw [before] at waits
        rw [main]
        rcases List.mem_cons.mp waits with here | still
        · exact .inr (WindsDown.passed coherent drivers (here ▸ driven))
        · exact .inl still
      | drained before _ => rw [before] at waits; cases waits
    · exact .inr (effect.woundDown wound)

end

/-- The state the shutdown flag is set in. -/
structure ShutdownSet (server set : Server) : Prop where
  accepting : server.main = .accepting
  same : set = { server with
    state := { server.state with shuttingDown := true }
    main := .stopping server.state.sessions.values }

theorem shutdownSet_of_step {server set : Server} {events : List Event}
    (began : step server .beginShutdown = some (set, events)) : ShutdownSet server set := by
  simp only [step, Server.beginShutdown] at began
  split at began
  · next accepting =>
    cases began
    exact ⟨accepting, rfl⟩
  · cases began

theorem ShutdownSet.windsDown {server set : Server} (shutdown : ShutdownSet server set) :
    WindsDown set set := by
  obtain ⟨-, rfl⟩ := shutdown
  exact ⟨rfl, nofun, fun _ _ found => found, fun _ before found => ⟨before, found, .refl _⟩,
    fun _ known => .inl known⟩

theorem ShutdownSet.left {server set : Server} (shutdown : ShutdownSet server set)
    {session : SessionId} {ref : PaneRef} (live : set.state.sessions[session]? = some ref) :
    ref ∈ set.main.left := by
  obtain ⟨-, rfl⟩ := shutdown
  exact mem_values live

/-! ## The contract -/

/-- What holds in every state after the flag was set, and of all that happened since. -/
structure ShutdownContract (set later : Server) (more : List Event) : Prop where
  closing : later.state.shuttingDown = true
  /-- No session is published, and no lease is granted or bound again. -/
  closed : ∀ event ∈ more, event.enters = false
  live : ∀ (session : SessionId) (ref : PaneRef), later.state.sessions[session]? = some ref →
    set.state.sessions[session]? = some ref
  shrinks : ∀ (action : Action) (next : Server) (events : List Event),
    step later action = some (next, events) → ∀ (session : SessionId) (ref : PaneRef),
      next.state.sessions[session]? = some ref → later.state.sessions[session]? = some ref
  /-- The shutdown is still to come to a session, or it is wound down. -/
  terminated : ∀ (session : SessionId) (ref : PaneRef),
    set.state.sessions[session]? = some ref →
      ref ∈ later.main.left ∨ WoundDown set later ref
  /-- A stored answer is never another one, and goes only when its scope outgrows it. -/
  answers : ∀ (key : RequestKey) (response : ServerMessage),
    (set.state.scopeOf key.scope).responseOf key.requestId = some response →
      (later.state.scopeOf key.scope).responseOf key.requestId = some response ∨
        (later.state.scopeOf key.scope).Outgrown key.requestId

theorem shutdown_contract (server : Server) (past : List Event) (run : daemon.Reaches server past)
    (set : Server) (events : List Event)
    (began : step server .beginShutdown = some (set, events)) (later : Server)
    (more : List Event) (onward : (daemon.onward set).Reaches later more) :
    ShutdownContract set later more := by
  have shutdown := shutdownSet_of_step began
  have stepped : daemon.step server .beginShutdown = some (set, events) := began
  have reached : daemon.Reaches set (past ++ events) := run.step trivial stepped
  have winds : WindsDown set later ∧ ∀ event ∈ more, event.enters = false := by
    refine onward.invariant (motive := fun state more => WindsDown set state ∧
      ∀ event ∈ more, event.enters = false) ?_ ?_
    · rintro state rfl
      exact ⟨shutdown.windsDown, by simp⟩
    · intro state next between seen action earlier holds _ stepped
      obtain ⟨winds, closed⟩ := holds
      have coherent := coherent_of_reaches ((reached.onward earlier).step trivial stepped)
      refine ⟨winds.step stepped coherent, fun event member => ?_⟩
      rcases List.mem_append.mp member with before | now
      · exact closed event before
      · exact (step_effect stepped).closed winds.closing event now
  obtain ⟨winds, closed⟩ := winds
  exact ⟨winds.closing, closed, winds.live,
    fun action next seen stepped session ref found =>
      (step_effect stepped).shrinks winds.closing found,
    fun session ref live => winds.left ref (shutdown.left live),
    fun key response stored => (retains_of_onward reached onward stored).kept⟩

theorem exists_shutdown (actions further : List Action) (test : Server → Server → Bool)
    (passed : (daemon.follow (fun _ _ => True) (.new ⟨0⟩) actions).any
      (fun reached : Server × List Event => (step reached.1 .beginShutdown).any
        fun set : Server × List Event => ((daemon.onward set.1).follow (fun _ _ => True) set.1
          further).any fun last : Server × List Event => test set.1 last.1) = true) :
    ∃ server past set events later more, daemon.Reaches server past ∧
      step server .beginShutdown = some (set, events) ∧ (daemon.onward set).Reaches later more ∧
      test set later = true := by
  obtain ⟨⟨server, past⟩, followed, passed⟩ := (Option.any_eq_true ..).mp passed
  obtain ⟨⟨set, events⟩, began, passed⟩ := (Option.any_eq_true ..).mp passed
  obtain ⟨⟨later, more⟩, continued, tested⟩ := (Option.any_eq_true ..).mp passed
  have initial : daemon.start (.new ⟨0⟩) := ⟨⟨0⟩, rfl⟩
  exact ⟨server, past, set, events, later, more, (Machine.Run.start initial).follow followed,
    began, (Machine.Run.start rfl).follow continued, tested⟩

/-- The shutdown comes to the one session there is, and starts its termination. -/
theorem shutdown_contract_drained : ∃ (set later : Server) (more : List Event),
    set.state.sessions[(⟨1⟩ : SessionId)]? = some 0 ∧ later.main = .draining ∧
      ShutdownContract set later more := by
  obtain ⟨server, past, set, events, later, more, run, began, onward, passed⟩ :=
    exists_shutdown sampleSession [.shutdown none, .shutdown none]
      (fun set later => set.state.sessions[(⟨1⟩ : SessionId)]? = some 0 ∧ later.main = .draining)
      (by decide)
  obtain ⟨live, drained⟩ := of_decide_eq_true passed
  exact ⟨set, later, more, live, drained,
    shutdown_contract server past run set events began later more onward⟩

def firstConnection : Connection := ⟨1, ⟨1⟩, false⟩

def restsAnswered (server : Server) : Bool :=
  server.handlers[0]? = some (.serving firstConnection) &&
    (server.transports[1]?.any fun transport => transport.active &&
      transport.writer = .running && transport.taken = transport.accepted.length) &&
    ((server.state.scopeOf ⟨1⟩).records.toList.all fun entry =>
      RequestScopeState.isCompleted entry.2 && 1 ≤ entry.1.get) &&
    (server.state.scopeOf ⟨1⟩).completedCount = 1 &&
    (server.state.scopeOf ⟨1⟩).highestRequestId = some .min &&
    (server.state.scopeOf ⟨1⟩).responseOf .min =
      some (.createResult .min (.created ⟨⟨1⟩, sampleIdentity, "sample", ⟨1⟩, false⟩))

/-- The session ends by itself before the shutdown comes to it: it has no termination thread. -/
theorem shutdown_passes_over : ∃ server past set events later more,
    daemon.Reaches server past ∧ step server .beginShutdown = some (set, events) ∧
      (daemon.onward set).Reaches later more ∧ set.state.sessions[(⟨1⟩ : SessionId)]? = some 0 ∧
      later.main = .draining ∧ later.panes[0]?.map Pane.drivers = some [] := by
  obtain ⟨server, past, set, events, later, more, run, began, onward, passed⟩ :=
    exists_shutdown (sampleSession ++ [.waiter 0 (.exited ⟨0, none⟩), .waiter 0 .proceed,
        .readEnd 0, .reader 0])
      [.reader 0, .shutdown none, .shutdown none]
      (fun set later => set.state.sessions[(⟨1⟩ : SessionId)]? = some 0 ∧ later.main = .draining ∧
        later.panes[0]?.map Pane.drivers = some [])
      (by decide)
  obtain ⟨live, drained, none⟩ := of_decide_eq_true passed
  exact ⟨server, past, set, events, later, more, run, began, onward, live, drained, none⟩

theorem shutdown_outgrown : ∃ server past set events later more info,
    daemon.Reaches server past ∧ step server .beginShutdown = some (set, events) ∧
      (daemon.onward set).Reaches later more ∧
      (set.state.scopeOf ⟨1⟩).responseOf .min = some (.createResult .min (.created info)) ∧
      (later.state.scopeOf ⟨1⟩).responseOf .min = none := by
  obtain ⟨server, past, set, events, -, -, run, began, -, passed⟩ :=
    exists_shutdown (sampleClients ++ createSteps 0 sampleCreate ⟨"sh", 7, 7⟩ ++
      List.replicate 2 (.writeSocket 1 true)) [] (fun set _ => restsAnswered set)
      (by decide)
  simp only [restsAnswered, Bool.and_eq_true, decide_eq_true_eq] at passed
  obtain ⟨⟨⟨⟨⟨serving, transport⟩, completed⟩, count⟩, highest⟩, stored⟩ := passed
  obtain ⟨transport, present, writes⟩ := (Option.any_eq_true ..).mp transport
  simp only [Bool.and_eq_true, decide_eq_true_eq] at writes
  have stepped : daemon.step server .beginShutdown = some (set, events) := began
  have known (id : RequestId) (record : RequestRecord)
      (found : (set.state.scopeOf ⟨1⟩).records[id]? = some record) :
      RequestScopeState.isCompleted record = true ∧ 1 ≤ id.get := by
    have checked := List.all_eq_true.mp completed (id, record)
      (TreeMap.mem_toList_iff_getElem?_eq_some.mpr found)
    simpa using checked
  have rest : AtRest set 0 firstConnection :=
    ⟨serving, ⟨transport, present, writes.1.1, writes.1.2, writes.2⟩,
      formed_of_reaches (run.step trivial stepped) ⟨1⟩, fun id record found => (known id record found).1⟩
  have held : (set.state.scopeOf ⟨1⟩).completedCount + 4095 =
      maxCachedRequestResultsPerScope := by
    rw [count]
    rfl
  obtain ⟨record, found, -⟩ := Option.bind_eq_some_iff.mp stored
  obtain ⟨later, more, onward, gone⟩ := rest.outgrown 4095 held
    (Option.ne_none_iff_exists'.mpr ⟨record, found⟩)
    (fun id record found => (known id record found).2) highest (by decide)
    ⟨agentStatusSchemaVersion, sampleIdentity, 1, .codex, ⟨1, bytes_one⟩⟩
  have lost : (later.state.scopeOf ⟨1⟩).responseOf .min = .none :=
    congrArg (Option.bind · RequestRecord.response) gone
  exact ⟨server, past, set, events, later, more, _, run, began, onward, stored, lost⟩

/-- Neither a termination thread for each session nor a stored answer is promised for good. -/
theorem shutdown_leaves :
    (∃ server past set events later more, daemon.Reaches server past ∧
      step server .beginShutdown = some (set, events) ∧
      (daemon.onward set).Reaches later more ∧ set.state.sessions[(⟨1⟩ : SessionId)]? = some 0 ∧
      later.main = .draining ∧ later.panes[0]?.map Pane.drivers = some []) ∧
    ∃ server past set events later more info, daemon.Reaches server past ∧
      step server .beginShutdown = some (set, events) ∧
      (daemon.onward set).Reaches later more ∧
      (set.state.scopeOf ⟨1⟩).responseOf .min = some (.createResult .min (.created info)) ∧
      (later.state.scopeOf ⟨1⟩).responseOf .min = none :=
  ⟨shutdown_passes_over, shutdown_outgrown⟩

end Mult.Daemon
