import Mult.Daemon.Step

/-! What one step of the daemon can do to the session tables, the panes and the threads
that hold something of theirs. Invariants are read off these cases, not off the handlers.
-/

set_option autoImplicit false

namespace Mult.Daemon
open Foundation Protocol
open Std (TreeMap)

/-- The server state without the agent records and the ID counters; request scopes only grow. -/
structure SameTables (before after : ServerState) : Prop where
  sessions : after.sessions = before.sessions
  sessionByIdentity : after.sessionByIdentity = before.sessionByIdentity
  reservedSessions : after.reservedSessions = before.reservedSessions
  reservedIdentities : after.reservedIdentities = before.reservedIdentities
  nextLease : after.nextLease = before.nextLease
  shuttingDown : after.shuttingDown = before.shuttingDown
  seen : ∀ key, before.seen key = true → after.seen key = true

namespace SameTables

theorem refl (state : ServerState) : SameTables state state := ⟨rfl, rfl, rfl, rfl, rfl, rfl, fun _ known => known⟩

theorem trans {first second third : ServerState} (earlier : SameTables first second)
    (later : SameTables second third) : SameTables first third :=
  ⟨later.sessions.trans earlier.sessions,
    later.sessionByIdentity.trans earlier.sessionByIdentity,
    later.reservedSessions.trans earlier.reservedSessions,
    later.reservedIdentities.trans earlier.reservedIdentities,
    later.nextLease.trans earlier.nextLease, later.shuttingDown.trans earlier.shuttingDown,
    fun key known => later.seen key (earlier.seen key known)⟩

end SameTables

namespace ServerState

theorem seen_insert {state : ServerState} {scope : ClientScopeId} {requests : RequestScopeState}
    (grown : ∀ id, (state.requestScopes.getD scope .new).seen id = true → requests.seen id = true)
    (key : RequestKey) (known : state.seen key = true) :
    ({ state with requestScopes := state.requestScopes.insert scope requests } : ServerState).seen
      key = true := by
  unfold seen at *
  rw [TreeMap.getElem?_insert]
  split
  · next same =>
    rw [Std.LawfulEqCmp.compare_eq_iff_eq.mp same, TreeMap.getD_eq_getD_getElem?] at grown
    obtain ⟨found, present, begun⟩ := (Option.any_eq_true ..).mp known
    rw [present] at grown
    exact grown _ begun
  · exact known

theorem allocateClientId_same {state after : ServerState} {client : ClientId}
    (allocated : state.allocateClientId = some (client, after)) : SameTables state after := by
  unfold allocateClientId at allocated
  split at allocated
  · cases allocated; exact ⟨rfl, rfl, rfl, rfl, rfl, rfl, fun _ known => known⟩
  · cases allocated

theorem resumeOrAllocateScope_same {state after : ServerState} {resume : Option ClientScopeId}
    {candidates : List ClientScopeId} {answer : ClientScopeId × Bool}
    (found : state.resumeOrAllocateScope resume candidates = some (answer, after)) :
    SameTables state after := by
  unfold resumeOrAllocateScope at found
  split at found
  · cases found; exact .refl _
  · simp only [allocateScope, Option.map_map, Option.map_eq_some_iff, Function.comp] at found
    obtain ⟨scope, vacant, same⟩ := found
    cases same
    refine ⟨rfl, rfl, rfl, rfl, rfl, rfl, seen_insert fun id known => ?_⟩
    have absent : state.requestScopes[scope]? = none := by
      simpa [contains_eq_false_iff] using List.find?_some vacant
    simpa [TreeMap.getD_eq_getD_getElem?, absent] using known

theorem beginRequest_same (state : ServerState) (scope : ClientScopeId) (requestId : RequestId)
    (request : ClientMessage) (client : ClientId) :
    SameTables state (state.beginRequest scope requestId request client).2 :=
  ⟨rfl, rfl, rfl, rfl, rfl, rfl,
    seen_insert fun _ known => RequestScopeState.seen_begin known requestId request client⟩

theorem completeRequest_same (state : ServerState) (key : RequestKey) (response : ServerMessage) :
    SameTables state (state.completeRequest key response).2 := by
  unfold completeRequest
  split
  · exact .refl _
  · next requests found =>
    refine ⟨rfl, rfl, rfl, rfl, rfl, rfl, seen_insert fun id known => ?_⟩
    rw [TreeMap.getD_eq_getD_getElem?, found] at known
    exact (RequestScopeState.seen_complete ..).trans known

theorem completeAll_same (state : ServerState) (disconnect : Bool)
    (responses : List (RequestKey × ServerMessage)) :
    SameTables state (state.completeAll disconnect responses).2 := by
  induction responses generalizing state with
  | nil => exact .refl _
  | cons first rest ih => exact (completeRequest_same state first.1 first.2).trans (ih _)

theorem completeAll_messages (state : ServerState) (disconnect : Bool)
    (responses : List (RequestKey × ServerMessage)) :
    ∀ outgoing ∈ (state.completeAll disconnect responses).1,
      ∃ response ∈ responses, outgoing.message = response.2 := by
  induction responses generalizing state with
  | nil => simp [completeAll]
  | cons first rest ih =>
    intro outgoing member
    simp only [completeAll, List.mem_append] at member
    rcases member with here | later
    · obtain ⟨client, -, rfl⟩ := List.mem_map.mp here
      exact ⟨first, List.mem_cons_self, rfl⟩
    · obtain ⟨response, member, same⟩ := ih _ outgoing later
      exact ⟨response, List.mem_cons_of_mem _ member, same⟩

theorem removeClient_same (state : ServerState) (client : ClientId) :
    SameTables state (state.removeClient client) := by
  refine ⟨rfl, rfl, rfl, rfl, rfl, rfl, fun key known => ?_⟩
  unfold seen removeClient at *
  rw [TreeMap.getElem?_map, Option.any_map]
  exact known

theorem updateAgentStatus_same (state : ServerState) (record : AgentStatusRecord) :
    SameTables state (state.updateAgentStatus record).2 := by
  unfold updateAgentStatus
  repeat' split
  all_goals exact ⟨rfl, rfl, rfl, rfl, rfl, rfl, fun _ known => known⟩

theorem recordAgentExit_same (state : ServerState) (identity : SessionIdentity)
    (metadata : AgentSessionMetadata) (exit : ExitInfo) :
    SameTables state (state.recordAgentExit identity metadata exit) := by
  unfold recordAgentExit
  repeat' split
  all_goals exact ⟨rfl, rfl, rfl, rfl, rfl, rfl, fun _ known => known⟩

end ServerState

/-- The session number and identity a create has reserved and not yet given back. -/
def Handler.reservation : Handler → Option (SessionId × SessionIdentity)
  | .creating _ request (.spawn session) | .creating _ request (.publish session _)
  | .creating _ request (.discard session _ _) | .creating _ request (.release session _) =>
      some (session, request.identity)
  | _ => none

/-- The spawned pane that only this create knows. -/
def Handler.unpublished : Handler → Option PaneRef
  | .creating _ _ (.publish _ pane) | .creating _ _ (.discard _ pane _) => some pane
  | _ => none

/-- The request the thread is to answer, if `begin` let it through. -/
def Handler.key : Handler → Option RequestKey
  | .creating conn request _ => some ⟨conn.scope, request.requestId⟩
  | .attaching conn request none => some ⟨conn.scope, request.requestId⟩
  | .stopping conn request | .stoppingPane conn request _ => some ⟨conn.scope, request.requestId⟩
  | .reportingStatus conn requestId _ => some ⟨conn.scope, requestId⟩
  | .completing _ key _ => some key
  | _ => none

/-- The pane and lease of an input that is validated and not yet queued. -/
def Handler.window : Handler → Option (PaneRef × AttachmentLease)
  | .enqueueing _ _ target lease _ _ => some (target, lease)
  | _ => none

/-- The pane whose termination the thread is about to start. -/
def Handler.startsStop : Handler → Option PaneRef
  | .starting _ target => some target
  | _ => none

/-- The pane whose mutex the thread keeps while it replays. -/
def Handler.replays : Handler → Option PaneRef
  | .replaying _ pane _ => some pane
  | _ => none

namespace Server

def reservationOf (server : Server) (thread : Nat) : Option (SessionId × SessionIdentity) :=
  server.handlers[thread]?.bind Handler.reservation

/-- The spawned pane that only the thread's create knows. -/
def unpublishedOf (server : Server) (thread : Nat) : Option PaneRef :=
  server.handlers[thread]?.bind Handler.unpublished

/-- The pane and lease of an input the thread has validated and not yet queued. -/
def windowOf (server : Server) (thread : Nat) : Option (PaneRef × AttachmentLease) :=
  server.handlers[thread]?.bind Handler.window

end Server

/-- A thread goes on without taking, moving or dropping any of these but an input. -/
structure QuietMove (before after : Handler) : Prop where
  reservation : after.reservation = before.reservation
  unpublished : after.unpublished = before.unpublished
  window : after.window = none
  startsStop : after.startsStop = before.startsStop
  replays : after.replays = before.replays

/-- What becomes of the request a thread is to answer. -/
inductive KeyMove (before after : ServerState) :
    Option RequestKey → Option RequestKey → List Event → Prop where
  | kept {key : Option RequestKey} : KeyMove before after key key []
  | begun {key : RequestKey} : before.seen key = false → after.seen key = true →
      KeyMove before after none (some key) []
  | answered {key : RequestKey} {response : ServerMessage} :
      KeyMove before after (some key) none [.answered key response]

inductive QuietHandlers (server next : Server) : List Event → Prop where
  | same : next.handlers = server.handlers → QuietHandlers server next []
  | joined (client : ClientId) : next.handlers = server.handlers ++ [.hello client] →
      QuietHandlers server next []
  | moved {thread : Nat} {before after : Handler} {events : List Event} :
      server.handlers[thread]? = some before →
      next.handlers = server.handlers.set thread after → QuietMove before after →
      KeyMove server.state next.state before.key after.key events →
      QuietHandlers server next events

/-- A step that touches neither the tables nor a pane. -/
structure Quiet (server next : Server) (events : List Event) : Prop where
  panes : next.panes = server.panes
  tables : SameTables server.state next.state
  handlers : QuietHandlers server next events

theorem KeyMove.answers {before after : ServerState} {key left : Option RequestKey}
    {events : List Event} (move : KeyMove before after key left events) :
    ∀ event ∈ events, ∃ key response, event = .answered key response := by
  intro event member
  cases move with
  | kept => cases member
  | begun => cases member
  | answered => exact ⟨_, _, List.mem_singleton.mp member⟩

theorem QuietHandlers.answers {server next : Server} {events : List Event}
    (quiet : QuietHandlers server next events) :
    ∀ event ∈ events, ∃ key response, event = .answered key response := by
  cases quiet with
  | same => simp
  | joined => simp
  | moved _ _ _ keys => exact keys.answers

/-! ## Steps of a pane's own threads -/

/-- The termination thread is about to signal a group: the root group, or the foreground group if it
has captured one. -/
def StopDriver.signals (driver : StopDriver) : Bool :=
  match driver.phase with
  | .term | .kill => true
  | .foreground _ => driver.foreground.isSome
  | _ => false

/-- The process groups a termination thread has captured. -/
def StopDriver.groups (driver : StopDriver) : List Nat := driver.root :: driver.foreground.toList

/-- How a termination thread moves without touching the pane's state. -/
inductive DriverMove (ref : PaneRef) (pane : Pane) (driver : StopDriver) :
    Termination → Termination → List Event → Prop where
  | signalled (before : Termination) (kill : Bool) :
      before = (if kill then .kill else .term) →
      DriverMove ref pane driver before (.foreground kill) [.signalled ref driver.root kill]
  | signalFailed (before : Termination) (kill : Bool) (message : String) :
      before = (if kill then .kill else .term) →
      DriverMove ref pane driver before (.restoring (!kill) message) []
  | foreground (kill : Bool) (after : Termination) (groups : List Nat) :
      after = (if kill then .drain else .grace) → groups ⊆ driver.foreground.toList →
      DriverMove ref pane driver (.foreground kill) after
        (groups.map fun group => .signalled ref group kill)
  | graceEnded : pane.state.lifecycle ≠ .removed → DriverMove ref pane driver .grace .kill []
  | graceRemoved : pane.state.lifecycle = .removed →
      DriverMove ref pane driver .grace .finished []
  | drainEnded (message : String) : pane.state.lifecycle ≠ .removed →
      DriverMove ref pane driver .drain (.restoring false message) []
  | drainRemoved : pane.state.lifecycle = .removed →
      DriverMove ref pane driver .drain .finished []
  | reported (outgoing : Outgoing) (rest : List Outgoing) :
      DriverMove ref pane driver (.reporting (outgoing :: rest)) (.reporting rest) []
  | finished : DriverMove ref pane driver (.reporting []) .finished []

theorem DriverMove.events {ref : PaneRef} {pane : Pane} {driver : StopDriver}
    {after : Termination} {events : List Event}
    (move : DriverMove ref pane driver driver.phase after events) :
    ∀ event ∈ events, driver.signals = true ∧
      ∃ group kill, group ∈ driver.groups ∧ event = .signalled ref group kill := by
  intro event member
  generalize phase : driver.phase = before at move
  cases move with
  | signalled _ kill same =>
    obtain rfl := List.mem_singleton.mp member
    refine ⟨?_, _, _, List.mem_cons_self, rfl⟩
    cases kill <;> (subst same; simp [StopDriver.signals, phase])
  | foreground kill _ _ _ captured =>
    obtain ⟨group, known, rfl⟩ := List.mem_map.mp member
    refine ⟨?_, _, _, List.mem_cons_of_mem _ (captured known), rfl⟩
    have some := Option.mem_toList.mp (captured known)
    simp [StopDriver.signals, phase, Option.mem_def.mp some]
  | _ => cases member

def Pane.setDriver (pane : Pane) (position : Nat) (driver : StopDriver) (phase : Termination) :
    Pane :=
  { pane with drivers := pane.drivers.set position { driver with phase } }

def Pane.finalizable (pane : Pane) : Bool :=
  pane.state.childExit.isSome && pane.state.lifecycle ≠ .removed && pane.state.readerDone

def stopAnswers (pane : Pane) (outcome : StopOutcome) : List Event :=
  pane.state.pendingStops.map fun key => .answered key (.stopResult key.requestId outcome)

/-- A step of one of the pane's threads that leaves the session tables alone. -/
inductive PaneStep (ref : PaneRef) (pane : Pane) : Pane → List Event → Prop where
  | ptyWriter (writes : PtyWriteQueue) (writer : PtyWriter) (events : List Event) :
      (pane.state.writes.closed = true → writes.closed = true) →
      (∀ event ∈ events, ∃ bytes, event = .wrote ref bytes) →
      PaneStep ref pane { pane with state := { pane.state with writes }, writer } events
  | probed (process : ForegroundProcessInfo) (scheduled : Bool) (poll : Option Nat) :
      PaneStep ref pane { pane with
        state := { pane.state with
          foregroundProcess := process, foregroundPollScheduled := scheduled }
        poll } []
  | appended (bytes : Bytes) (sequence : OutputSequence) (state : PaneState) (scheduled : Bool)
      (poll : Option Nat) :
      pane.replaying = false → pane.reader = .reading →
      pane.state.appendRawHistory bytes = (some sequence, state) →
      PaneStep ref pane
        { pane with state := { state with foregroundPollScheduled := scheduled }, poll }
        [.output ref sequence bytes]
  | readFailed (bytes : Bytes) (state : PaneState) :
      pane.replaying = false → pane.reader = .reading →
      pane.state.appendRawHistory bytes = (none, state) →
      PaneStep ref pane { pane with state, reader := .ended } []
  | readEnded : pane.reader = .reading → PaneStep ref pane { pane with reader := .ended } []
  | readerDone : pane.reader = .ended → PaneStep ref pane
      { pane with state := { pane.state with readerDone := true }, reader := .finalizing } []
  | readerKept : pane.reader = .finalizing → pane.finalizable = false →
      PaneStep ref pane { pane with reader := .finished } []
  | readerNotified (outgoing : Outgoing) (rest : List Outgoing) :
      pane.reader = .notifying (outgoing :: rest) →
      PaneStep ref pane { pane with reader := .notifying rest } (Server.exitNotice ref outgoing)
  | readerFinished : pane.reader = .notifying [] →
      PaneStep ref pane { pane with reader := .finished } []
  | reaped (exit : ExitInfo) : pane.waiter = .waiting → PaneStep ref pane
      { pane with
        state := { pane.state with childExit := some exit, lastWaitError := none }
        waiter := .finalizing } []
  | waitFailed (message : String) : pane.waiter = .waiting → PaneStep ref pane
      { pane with
        state := { pane.state with lastWaitError := some message }
        waiter := .failing message } []
  | waiterFailed (message failure : String) (outgoing : List Outgoing) :
      pane.waiter = .failing message → PaneStep ref pane
      { pane with
        state := { pane.state with pendingStops := [] }
        waiter := .reporting outgoing }
      (stopAnswers pane (.error (.failed .daemonInternal failure)))
  | waiterReported (outgoing : Outgoing) (rest : List Outgoing) :
      pane.waiter = .reporting (outgoing :: rest) →
      PaneStep ref pane { pane with waiter := .reporting rest } []
  | waiterResumed : pane.waiter = .reporting [] →
      PaneStep ref pane { pane with waiter := .waiting } []
  | waiterKept : pane.waiter = .finalizing → pane.finalizable = false →
      PaneStep ref pane { pane with waiter := .finished } []
  | waiterNotified (outgoing : Outgoing) (rest : List Outgoing) :
      pane.waiter = .notifying (outgoing :: rest) →
      PaneStep ref pane { pane with waiter := .notifying rest } (Server.exitNotice ref outgoing)
  | waiterFinished : pane.waiter = .notifying [] →
      PaneStep ref pane { pane with waiter := .finished } []
  | driverMoved (position : Nat) (driver : StopDriver) (phase : Termination)
      (events : List Event) :
      pane.drivers[position]? = some driver → DriverMove ref pane driver driver.phase phase events →
      PaneStep ref pane (pane.setDriver position driver phase) events
  | driverRestored (position : Nat) (driver : StopDriver) (restore : Bool) (message : String)
      (lifecycle : PaneLifecycle) :
      pane.drivers[position]? = some driver → driver.phase = .restoring restore message →
      lifecycle = (if restore ∧ pane.state.lifecycle = .stopping then .running
        else pane.state.lifecycle) →
      PaneStep ref pane
        (Pane.setDriver { pane with
          state := { pane.state with stopDriverActive := false, lifecycle } } position driver
          (.failing message))
        (.gaveUp ref position :: lifecycleEdge ref pane.state.lifecycle lifecycle)
  | driverFailed (position : Nat) (driver : StopDriver) (message : String)
      (outgoing : List Outgoing) :
      pane.drivers[position]? = some driver → driver.phase = .failing message →
      PaneStep ref pane
        (Pane.setDriver { pane with state := { pane.state with pendingStops := [] } } position
          driver (.reporting outgoing))
        (stopAnswers pane (.error (.failed .daemonInternal message)))

theorem appendRawHistory_frame {state after : PaneState} {bytes : Bytes}
    {sequence : Option OutputSequence}
    (appended : state.appendRawHistory bytes = (sequence, after)) :
    ∃ nextOutput rawHistory historyStart,
      after = { state with nextOutput, rawHistory, historyStart } := by
  unfold PaneState.appendRawHistory PaneState.appendRawHistoryWithLimit at appended
  split at appended
  · cases appended; exact ⟨_, _, _, rfl⟩
  · simp only at appended
    split at appended
    · split at appended <;> (cases appended; exact ⟨_, _, _, rfl⟩)
    · cases appended; exact ⟨_, _, _, rfl⟩

/-- The thread that removes the pane, and where it goes with what it must still send. -/
inductive Finalizer (pane : Pane) (outgoing : List Outgoing) : Pane → Prop where
  | reader : pane.reader = .finalizing →
      Finalizer pane outgoing { pane with reader := .notifying outgoing }
  | waiter : pane.waiter = .finalizing →
      Finalizer pane outgoing { pane with waiter := .notifying outgoing }

def PaneState.finalized (state : PaneState) : PaneState :=
  { state with
    lifecycle := .removed
    stopDriverActive := false
    writes := state.writes.close
    owner := none
    pendingStops := [] }

def finalNotices (pane : Pane) (exit : ExitInfo) (answers : List Outgoing) : List Outgoing :=
  (pane.state.owner.toList.map fun owner =>
    ⟨owner.client, .paneExited pane.state.pane owner.lease exit, true⟩) ++ answers

/-! ## Steps of the whole daemon -/

/-- What an attach commit has found before it decides. -/
structure AttachFound (server : Server) (request : AttachRequest) (ref : PaneRef) (pane : Pane) :
    Prop where
  serving : server.state.shuttingDown = false
  routed : server.state.sessions[request.session]? = some ref
  found : server.panes[ref]? = some pane
  free : pane.replaying = false
  same : pane.state.identity = request.identity
  attachable : pane.state.attachable = true

/-- Why a retried attach does not bind its lease again. -/
inductive RetryRefusal (server : Server) (conn : Connection) (request : AttachRequest)
    (lease : AttachmentLease) : AttachError → Prop where
  | shuttingDown : server.state.shuttingDown = true →
      RetryRefusal server conn request lease (.failed .shuttingDown shutdownErrorMessage)
  | superseded : server.state.shuttingDown = false →
      (∀ ref pane, AttachFound server request ref pane →
        usable pane.state server.transports.isActive conn lease = false) →
      RetryRefusal server conn request lease .superseded
  | resizeFailed (ref : PaneRef) (pane : Pane) (message : String) :
      AttachFound server request ref pane →
      usable pane.state server.transports.isActive conn lease = true →
      RetryRefusal server conn request lease (.failed .daemonInternal message)

/-- A leased operation passed its checks on the pane. -/
structure LeaseAccepted (server : Server) (conn : Connection) (paneId : PaneId)
    (lease : AttachmentLease) (ref : PaneRef) (pane : Pane) : Prop where
  routed : server.state.paneById paneId = some ref
  found : server.panes[ref]? = some pane
  free : pane.replaying = false
  valid : pane.state.validateMutationLease server.transports.isActive server.state.shuttingDown
    conn.scope conn.client lease = .ok ()

inductive Effect (server : Server) : Server → List Event → Prop where
  | quiet {next : Server} {events : List Event} : Quiet server next events →
      Effect server next events
  | shutdown {next : Server} : next.panes = server.panes → next.handlers = server.handlers →
      SameTables { server.state with shuttingDown := true } next.state → Effect server next []
  | retryRefused {next : Server} {conn : Connection} {request : AttachRequest}
      {lease : AttachmentLease} {error : AttachError} :
      Quiet server next [] → RetryRefusal server conn request lease error →
      Effect server next [.retryRefused conn request lease error]
  | validated {thread : Nat} {conn : Connection} {paneId : PaneId} {ref : PaneRef} {pane : Pane}
      {lease : AttachmentLease} {bytes : Bytes} {operation : LeaseOperation} :
      server.handlers[thread]? = some (.validating conn paneId lease bytes operation) →
      LeaseAccepted server conn paneId lease ref pane →
      Effect server (server.goto thread (.enqueueing conn paneId ref lease bytes operation))
        [.accepted (.leased operation) ref ⟨conn.scope, lease, conn.client⟩]
  | queued {next : Server} {thread : Nat} {conn : Connection} {paneId : PaneId} {ref : PaneRef}
      {pane after : Pane} {lease : AttachmentLease} {bytes : Bytes} {operation : LeaseOperation}
      {writes : PtyWriteQueue} {scheduled : Bool} {poll : Option Nat} :
      server.handlers[thread]? = some (.enqueueing conn paneId ref lease bytes operation) →
      server.panes[ref]? = some pane → pane.state.writes.enqueue bytes = .ok writes →
      after = { pane with
        state := { pane.state with writes, foregroundPollScheduled := scheduled }, poll } →
      next.panes = server.panes.set ref after → SameTables server.state next.state →
      next.handlers = server.handlers.set thread (.serving conn) →
      Effect server next (if bytes = [] then [] else [.queued ref lease bytes])
  | reserved {thread : Nat} {conn : Connection} {request : CreateRequest} {session : SessionId}
      {state : ServerState} :
      server.handlers[thread]? = some (.creating conn request .reserve) →
      server.state.reserveSession request.requestedId request.identity = (.ok session, state) →
      Effect server ((server.setState state).goto thread (.creating conn request (.spawn session)))
        []
  | spawned {thread : Nat} {conn : Connection} {request : CreateRequest} {session : SessionId}
      {child : SpawnedChild} :
      server.handlers[thread]? = some (.creating conn request (.spawn session)) →
      Effect server
        (({ server with panes := server.panes ++ [spawnPane session request child] }).goto thread
          (.creating conn request (.publish session server.panes.length)))
        [.spawned server.panes.length session request.identity]
  | published {thread : Nat} {conn : Connection} {request : CreateRequest} {session : SessionId}
      {ref : PaneRef} {pane : Pane} {state : ServerState} :
      server.handlers[thread]? = some (.creating conn request (.publish session ref)) →
      server.panes[ref]? = some pane → pane.replaying = false →
      server.state.publishReservedSession session ref pane.state.identity pane.state.agent =
        .ok state →
      Effect server (((server.setState state).setPane ref
        { pane with reader := .reading, waiter := .waiting }).goto thread
          (.creating conn request (.report ref))) [.published ref session]
  | discarded {thread : Nat} {conn : Connection} {request : CreateRequest} {session : SessionId}
      {ref : PaneRef} {rejection : Rejection} {pane : Pane} :
      server.handlers[thread]? = some (.creating conn request (.discard session ref rejection)) →
      server.panes[ref]? = some pane →
      Effect server ((server.setPane ref
        { pane with state := { pane.state with writes := pane.state.writes.close } }).goto thread
          (.creating conn request (.release session rejection))) []
  | released {thread : Nat} {conn : Connection} {request : CreateRequest} {session : SessionId}
      {rejection : Rejection} :
      server.handlers[thread]? = some (.creating conn request (.release session rejection)) →
      Effect server ((server.setState
        (server.state.releaseSessionReservation session request.identity)).goto thread
          (Server.afterRejection conn request rejection)) []
  | refitted {next : Server} {ref : PaneRef} {pane : Pane} {rows cols : Nat}
      {events : List Event} :
      server.panes[ref]? = some pane →
      next.panes = server.panes.set ref
        { pane with state := { pane.state with rows, cols } } →
      SameTables server.state next.state → QuietHandlers server next events →
      Effect server next events
  | rebound {next : Server} {thread : Nat} {conn : Connection} {request : AttachRequest}
      {ref : PaneRef} {pane : Pane} {lease : AttachmentLease} {rows cols : Nat}
      {process : ForegroundProcessInfo} {targets : List ReplayTarget} :
      server.handlers[thread]? = some (.attaching conn request (some lease)) →
      AttachFound server request ref pane →
      usable pane.state server.transports.isActive conn lease = true →
      next.panes = server.panes.set ref { pane with
        state := { pane.state with
          rows, cols, foregroundProcess := process
          owner := some ⟨conn.scope, lease, conn.client⟩ }
        replaying := true } →
      SameTables server.state next.state →
      next.handlers = server.handlers.set thread (.replaying conn ref targets) →
      Effect server next [.rebound ref ⟨conn.scope, lease, conn.client⟩]
  | granted {next : Server} {thread : Nat} {conn : Connection} {request : AttachRequest}
      {ref : PaneRef} {pane : Pane} {lease : AttachmentLease} {client : ClientId}
      {rows cols : Nat} {process : ForegroundProcessInfo} {targets : List ReplayTarget}
      {response : ServerMessage} :
      server.handlers[thread]? = some (.attaching conn request none) →
      AttachFound server request ref pane → server.state.nextLease = some lease →
      next.panes = server.panes.set ref { pane with
        state := { pane.state with
          rows, cols, foregroundProcess := process, owner := some ⟨conn.scope, lease, client⟩ }
        replaying := true } →
      SameTables { server.state with nextLease := lease.checkedNext } next.state →
      next.handlers = server.handlers.set thread (.replaying conn ref targets) →
      Effect server next [.answered ⟨conn.scope, request.requestId⟩ response,
        .granted ref ⟨conn.scope, lease, client⟩]
  | unlocked {thread : Nat} {conn : Connection} {ref : PaneRef} {pane : Pane} :
      server.handlers[thread]? = some (.replaying conn ref []) → server.panes[ref]? = some pane →
      Effect server ((server.setPane ref { pane with replaying := false }).goto thread
        (.serving conn)) []
  | resized {next : Server} {thread : Nat} {conn : Connection} {paneId : PaneId} {ref : PaneRef}
      {pane : Pane} {lease : AttachmentLease} {askedRows askedCols rows cols : Nat} :
      server.handlers[thread]? = some (.resizing conn paneId lease askedRows askedCols) →
      LeaseAccepted server conn paneId lease ref pane →
      next = (server.setPane ref { pane with state := { pane.state with rows, cols } }).goto thread
        (.serving conn) →
      Effect server next [.accepted (.leased .resize) ref ⟨conn.scope, lease, conn.client⟩]
  | detached {thread : Nat} {conn : Connection} {paneId : PaneId} {ref : PaneRef} {pane : Pane}
      {lease : AttachmentLease} :
      server.handlers[thread]? = some (.detaching conn paneId lease) →
      LeaseAccepted server conn paneId lease ref pane →
      Effect server ((server.setPane ref { pane with
        state := { pane.state with owner := none } }).goto thread (.serving conn))
        [.accepted (.leased .detach) ref ⟨conn.scope, lease, conn.client⟩, .detached ref]
  | stopAccepted {thread : Nat} {conn : Connection} {request : StopRequest} {ref : PaneRef}
      {pane : Pane} {lifecycle : PaneLifecycle} :
      server.handlers[thread]? = some (.stoppingPane conn request ref) →
      server.panes[ref]? = some pane → pane.state.terminated = false →
      pane.state.validateStopLease server.transports.isActive conn.scope conn.client
        request.lease = .ok () →
      lifecycle = (if pane.state.lifecycle = .running then .stopping
        else pane.state.lifecycle) →
      Effect server ((server.setPane ref { pane with state := { pane.state with
        pendingStops := pane.state.pendingStops ++ [⟨conn.scope, request.requestId⟩]
        lifecycle } }).goto thread (.starting conn ref))
        ([.accepted .stop ref ⟨conn.scope, request.lease, conn.client⟩,
          .stopAccepted ref ⟨conn.scope, request.requestId⟩] ++
          lifecycleEdge ref pane.state.lifecycle lifecycle)
  | stopSkipped {next : Server} {thread : Nat} {conn : Connection} {ref : PaneRef} {pane : Pane} :
      server.handlers[thread]? = some (.starting conn ref) → server.panes[ref]? = some pane →
      (pane.state.terminated || pane.state.stopDriverActive) = true →
      next.panes = server.panes → SameTables server.state next.state →
      next.handlers = server.handlers.set thread (.serving conn) →
      Effect server next []
  | stopStarted {next : Server} {ref : PaneRef} {pane : Pane} {foreground : Option Nat} :
      server.panes[ref]? = some pane → pane.state.terminated = false →
      pane.state.stopDriverActive = false →
      next.panes = server.panes.set ref { pane with
        state := { pane.state with lifecycle := .stopping, stopDriverActive := true }
        drivers := pane.drivers ++ [⟨pane.state.processGroup, foreground, .term⟩] } →
      SameTables server.state next.state →
      (next.handlers = server.handlers ∨ ∃ thread conn,
        server.handlers[thread]? = some (.starting conn ref) ∧
          next.handlers = server.handlers.set thread (.serving conn)) →
      Effect server next (lifecycleEdge ref pane.state.lifecycle .stopping)
  | pane {next : Server} {ref : PaneRef} {pane after : Pane} {events : List Event} :
      server.panes[ref]? = some pane → PaneStep ref pane after events →
      next.panes = server.panes.set ref after → SameTables server.state next.state →
      next.handlers = server.handlers → Effect server next events
  | finalized {next : Server} {ref : PaneRef} {pane after : Pane} {exit : ExitInfo}
      {answers : List Outgoing} :
      server.panes[ref]? = some pane → pane.replaying = false →
      pane.finalizable = true → pane.state.childExit = some exit →
      (∀ answer ∈ answers, ∃ requestId outcome, answer.message = .stopResult requestId outcome) →
      Finalizer { pane with state := pane.state.finalized } (finalNotices pane exit answers)
        after →
      next.panes = server.panes.set ref after →
      SameTables (server.state.removeSessionIfSame pane.state.session ref) next.state →
      next.handlers = server.handlers →
      Effect server next
        ([.lifecycle ref pane.state.lifecycle .exited, .lifecycle ref .exited .removed,
          .removed ref pane.state.owner] ++ stopAnswers pane (.stopped exit))

end Mult.Daemon
