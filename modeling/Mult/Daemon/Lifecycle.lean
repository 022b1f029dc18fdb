import Mult.Daemon.Machine

/-! Stopping panes, the termination threads, a pane's reader, waiter, writer and
foreground poll, finalization, and the daemon's shutdown.
-/

set_option autoImplicit false

namespace Mult.Daemon
open Foundation Protocol

def ptyReadBufferBytes : Nat := 8192

def lifecycleEdge (ref : PaneRef) (before after : PaneLifecycle) : List Event :=
  if before = after then [] else [.lifecycle ref before after]

namespace Server

def stopRespond (conn : Connection) (request : StopRequest) (outcome : StopOutcome) : Handler :=
  .completing conn ⟨conn.scope, request.requestId⟩ (.stopResult request.requestId outcome)

def stopLookup (server : Server) (thread : Nat) : Stepped :=
  match server.handlers[thread]? with
  | some (.stopping conn request) =>
      let next := match server.state.paneById request.pane with
        | some target => .stoppingPane conn request target
        | none => stopRespond conn request .alreadyAbsent
      some (server.goto thread next, [])
  | _ => none

def stopPane (server : Server) (thread : Nat) : Stepped :=
  match server.handlers[thread]? with
  | some (.stoppingPane conn request ref) =>
      (server.lockPane ref).bind fun pane =>
        let answer outcome := some (server.goto thread (stopRespond conn request outcome), [])
        if pane.state.identity ≠ request.identity then
          answer (.error (.identityMismatch request.pane
            (identityMismatch pane.state.identity request.identity)))
        else if pane.state.terminated then answer .alreadyAbsent
        else
          match pane.state.validateStopLease server.transports.isActive conn.scope conn.client
              request.lease with
          | .error reason => answer (.error (.leaseRejected reason))
          | .ok () =>
              let key : RequestKey := ⟨conn.scope, request.requestId⟩
              -- Only a running pane begins to stop; a later stop joins those that wait.
              let lifecycle := if pane.state.lifecycle = .running then .stopping
                else pane.state.lifecycle
              some ((server.setPane ref { pane with state := { pane.state with
                pendingStops := pane.state.pendingStops ++ [key], lifecycle } }).goto thread
                  (.starting conn ref),
                [.accepted .stop ref ⟨conn.scope, request.lease, conn.client⟩,
                  .stopAccepted ref key] ++ lifecycleEdge ref pane.state.lifecycle lifecycle)
  | _ => none

def startStopIfNeeded (server : Server) (ref : PaneRef) (foreground : Option Nat) : Stepped :=
  (server.lockPane ref).bind fun pane =>
    if pane.state.terminated || pane.state.stopDriverActive then some (server, [])
    else
      let group := foreground.filter fun group => 1 < group ∧ group ≠ pane.state.processGroup
      some (server.setPane ref { pane with
        state := { pane.state with lifecycle := .stopping, stopDriverActive := true }
        drivers := pane.drivers ++ [⟨pane.state.processGroup, group, .term⟩] },
        lifecycleEdge ref pane.state.lifecycle .stopping)

def startStop (server : Server) (thread : Nat) (foreground : Option Nat) : Stepped :=
  match server.handlers[thread]? with
  | some (.starting conn ref) =>
      (server.startStopIfNeeded ref foreground).map fun (server, events) =>
        (server.goto thread (.serving conn), events)
  | _ => none

def failPendingStops (server : Server) (pane : Pane) (message : String) :
    List Outgoing × Server × Pane × List Event :=
  let responses := pane.state.pendingStops.map fun key =>
    (key, ServerMessage.stopResult key.requestId (.error (.failed .daemonInternal message)))
  let (outgoing, state) := server.state.completeAll false responses
  (outgoing, server.setState state,
    { pane with state := { pane.state with pendingStops := [] } },
    responses.map fun (key, response) => .answered key response)

inductive DriverInput where
  /-- The signal was sent, or the wait ended. -/
  | proceed
  | signalFailed (message : String)
  deriving DecidableEq, Repr

/-- One step of the termination thread at the position. -/
def drive (server : Server) (ref : PaneRef) (position : Nat) (input : DriverInput) : Stepped :=
  server.panes[ref]?.bind fun pane =>
    pane.drivers[position]?.bind fun driver =>
      let goto (server : Server) (pane : Pane) (phase : Termination) : Server :=
        server.setPane ref { pane with drivers := pane.drivers.set position { driver with phase } }
      let free := !pane.replaying
      match driver.phase, input with
      | .term, .proceed =>
          some (goto server pane (.foreground false), [.signalled ref driver.root false])
      | .term, .signalFailed message =>
          some (goto server pane (.restoring true s!"failed to signal PTY group: {message}"), [])
      | .foreground kill, input =>
          -- A foreground group that cannot be signalled is not an error.
          let groups := if input = .proceed then driver.foreground.toList else []
          some (goto server pane (if kill then .drain else .grace),
            groups.map fun group => .signalled ref group kill)
      | .grace, .proceed =>
          if free then
            some (goto server pane
              (if pane.state.lifecycle = .removed then .finished else .kill), [])
          else none
      | .kill, .proceed =>
          some (goto server pane (.foreground true), [.signalled ref driver.root true])
      | .kill, .signalFailed message =>
          some (goto server pane (.restoring false s!"failed to kill PTY group: {message}"), [])
      | .drain, .proceed =>
          if free then
            some (goto server pane (if pane.state.lifecycle = .removed then .finished else
              .restoring false "timed out waiting for PTY child reap and output drain"), [])
          else none
      | .restoring restoreRunning message, .proceed =>
          if free then
            let lifecycle :=
              if restoreRunning ∧ pane.state.lifecycle = .stopping then .running
              else pane.state.lifecycle
            some (goto server { pane with
              state := { pane.state with stopDriverActive := false, lifecycle } }
                (.failing message),
              .gaveUp ref position :: lifecycleEdge ref pane.state.lifecycle lifecycle)
          else none
      | .failing message, .proceed =>
          if free then
            let (outgoing, server, pane, events) := server.failPendingStops pane message
            some (goto server pane (.reporting outgoing), events)
          else none
      | .reporting (outgoing :: rest), .proceed =>
          some (goto (server.send outgoing) pane (.reporting rest), [])
      | .reporting [], .proceed => some (goto server pane .finished, [])
      | _, _ => none

/-- Remove the pane once its stream has ended and its child is reaped. The answers and the
exit notice are still to be sent. -/
def maybeFinalize (server : Server) (ref : PaneRef) (pane : Pane) :
    Option (List Outgoing × Server × Pane × List Event) :=
  match pane.state.childExit with
  | none => none
  | some exit =>
      if pane.state.lifecycle = .removed ∨ !pane.state.readerDone then none
      else
        -- Agent status first, then the table, then the answers, all under the server lock.
        let state := match pane.state.agent with
          | some metadata => server.state.recordAgentExit pane.state.identity metadata exit
          | none => server.state
        let state := state.removeSessionIfSame pane.state.session ref
        let responses := pane.state.pendingStops.map fun key =>
          (key, ServerMessage.stopResult key.requestId (.stopped exit))
        let (outgoing, state) := state.completeAll true responses
        let notice := pane.state.owner.toList.map fun owner =>
          ⟨owner.client, .paneExited pane.state.pane owner.lease exit, true⟩
        some (notice ++ outgoing, server.setState state,
          { pane with state := { pane.state with
            lifecycle := .removed
            stopDriverActive := false
            writes := pane.state.writes.close
            owner := none
            pendingStops := [] } },
          [.lifecycle ref pane.state.lifecycle .exited, .lifecycle ref .exited .removed,
            .removed ref pane.state.owner] ++
            responses.map fun (key, response) => .answered key response)

def exitNotice (ref : PaneRef) (outgoing : Outgoing) : List Event :=
  match outgoing.message with
  | .paneExited _ lease _ => [.exitSent ref outgoing.client lease]
  | _ => []

def ownerOutput (pane : PaneState) (sequence : OutputSequence) (bytes : Bytes) :
    Option (ClientId × ClientDelivery) :=
  pane.owner.map fun owner => (owner.client, .output pane.pane owner.lease sequence bytes)

/-- Publish one read: append it, hand it to the owner, and claim the foreground poll. -/
def read (server : Server) (ref : PaneRef) (bytes : Bytes) : Stepped :=
  (server.lockPane ref).bind fun pane =>
    if pane.reader = .reading ∧ bytes ≠ [] ∧ bytes.length ≤ ptyReadBufferBytes then
      match pane.state.appendRawHistory bytes with
      | (none, paneState) =>
          some (server.setPane ref { pane with state := paneState, reader := .ended }, [])
      | (some sequence, paneState) =>
          let server := match ownerOutput paneState sequence bytes with
            | some (client, delivery) => server.setTransports
                (server.transports.deliverOrDisconnect client delivery)
            | none => server
          let pane := { pane with state := paneState }
          let pane := if paneState.foregroundPollScheduled then pane
            else { pane with
              state := { paneState with foregroundPollScheduled := true }, poll := some 3 }
          some (server.setPane ref pane, [.output ref sequence bytes])
    else none

def readEnd (server : Server) (ref : PaneRef) : Stepped :=
  server.panes[ref]?.bind fun pane =>
    if pane.reader = .reading then some (server.setPane ref { pane with reader := .ended }, [])
    else none

def readerStep (server : Server) (ref : PaneRef) : Stepped :=
  server.panes[ref]?.bind fun pane =>
    match pane.reader with
    -- Each lock the thread takes anew is a step: a handover that holds the pane keeps it out.
    | .ended =>
        if pane.replaying then none
        else some (server.setPane ref { pane with
          state := { pane.state with readerDone := true }, reader := .finalizing }, [])
    | .finalizing =>
        if pane.replaying then none
        else
          match server.maybeFinalize ref pane with
          | none => some (server.setPane ref { pane with reader := .finished }, [])
          | some (outgoing, server, pane, events) =>
              some (server.setPane ref { pane with reader := .notifying outgoing }, events)
    | .notifying (outgoing :: rest) =>
        some ((server.send outgoing).setPane ref { pane with reader := .notifying rest },
          exitNotice ref outgoing)
    | .notifying [] => some (server.setPane ref { pane with reader := .finished }, [])
    | _ => none

inductive WaitInput where
  | exited (exit : ExitInfo)
  | failed (message : String)
  | proceed
  deriving DecidableEq, Repr

def waiterStep (server : Server) (ref : PaneRef) (input : WaitInput) : Stepped :=
  server.panes[ref]?.bind fun pane =>
    match pane.waiter, input with
    | .waiting, .exited exit =>
        if pane.replaying then none
        else some (server.setPane ref { pane with
          state := { pane.state with childExit := some exit, lastWaitError := none }
          waiter := .finalizing }, [])
    -- A wait that failed is tried again, once the stops it failed are answered.
    | .waiting, .failed message =>
        if pane.replaying then none
        else some (server.setPane ref { pane with
          state := { pane.state with lastWaitError := some message }
          waiter := .failing message }, [])
    | .failing message, .proceed =>
        if pane.replaying then none
        else
          let (outgoing, server, pane, events) := server.failPendingStops pane
            s!"failed to wait for PTY child: {message}"
          some (server.setPane ref { pane with waiter := .reporting outgoing }, events)
    | .reporting (outgoing :: rest), .proceed =>
        some ((server.send outgoing).setPane ref { pane with waiter := .reporting rest }, [])
    | .reporting [], .proceed => some (server.setPane ref { pane with waiter := .waiting }, [])
    | .finalizing, .proceed =>
        if pane.replaying then none
        else
          match server.maybeFinalize ref pane with
          | none => some (server.setPane ref { pane with waiter := .finished }, [])
          | some (outgoing, server, pane, events) =>
              some (server.setPane ref { pane with waiter := .notifying outgoing }, events)
    | .notifying (outgoing :: rest), .proceed =>
        some ((server.send outgoing).setPane ref { pane with waiter := .notifying rest },
          exitNotice ref outgoing)
    | .notifying [], .proceed => some (server.setPane ref { pane with waiter := .finished }, [])
    | _, _ => none

def deliverForegroundProcess (server : Server) (pane : PaneState)
    (process : ForegroundProcessInfo) : Server :=
  match pane.owner with
  | none => server
  | some owner => server.setTransports (server.transports.deliverOrDisconnect owner.client
      (.message (.foregroundProcess pane.pane owner.lease process)))

/-- One probe of the debounced poll, or its end. -/
def probe (server : Server) (ref : PaneRef) (leader : GroupLeader) : Stepped :=
  server.panes[ref]?.bind fun pane =>
    match pane.poll with
    | none => none
    | some 0 => some (server.setPane ref { pane with
        state := { pane.state with foregroundPollScheduled := false }, poll := none }, [])
    | some (left + 1) =>
        if pane.replaying then none
        else
          let (changed, paneState) := pane.state.refreshForegroundProcessIfChanged leader
          let server := match changed with
            | some process => server.deliverForegroundProcess paneState process
            | none => server
          some (server.setPane ref { pane with state := paneState, poll := some left }, [])

/-- Take the backlog, write one input of it, or stop on a closed queue or a failed write. -/
def ptyWriterStep (server : Server) (ref : PaneRef) (written : Bool) : Stepped :=
  server.panes[ref]?.bind fun pane =>
    match pane.writer with
    | .waiting =>
        if pane.state.writes.closed then
          some (server.setPane ref { pane with writer := .finished }, [])
        else pane.state.writes.takeWrites.map fun (batch, writes) =>
          (server.setPane ref { pane with
            state := { pane.state with writes }, writer := .writing batch }, [])
    | .writing (bytes :: rest) =>
        if written then
          some (server.setPane ref { pane with writer := .writing rest }, [.wrote ref bytes])
        else
          some (server.setPane ref { pane with
            state := { pane.state with writes := pane.state.writes.close }
            writer := .finished }, [])
    | .writing [] => some (server.setPane ref { pane with writer := .waiting }, [])
    | .finished => none

def beginShutdown (server : Server) : Stepped :=
  match server.main with
  | .accepting => some ({ server with
      state := { server.state with shuttingDown := true }
      main := .stopping server.state.sessions.values }, [])
  | _ => none

def shutdownStep (server : Server) (foreground : Option Nat) : Stepped :=
  match server.main with
  | .stopping (ref :: rest) =>
      (server.startStopIfNeeded ref foreground).map fun (server, events) =>
        ({ server with main := .stopping rest }, events)
  | .stopping [] => some ({ server with main := .draining }, [])
  | _ => none

end Server

end Mult.Daemon
