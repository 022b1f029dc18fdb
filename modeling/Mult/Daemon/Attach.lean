import Mult.Daemon.Machine

/-! Attaching to a pane, and the mutations of an attached pane.

The attach decides under both locks, then keeps the pane's mutex while it queues the
replay, so that no live output of the pane can come between.
-/

set_option autoImplicit false

namespace Mult.Daemon
open Foundation Protocol

/-- The frames of a replay and the sequence they end at, absent on overflow. -/
def replayFrames (requestId : RequestId) (pane : PaneId) (lease : AttachmentLease) :
    OutputSequence → List Bytes → List ClientDelivery × Option OutputSequence
  | sequence, [] => ([], some sequence)
  | sequence, chunk :: rest =>
      let frame := .replay requestId pane lease sequence chunk
      match sequence.checkedAddBytes chunk.length with
      | none => ([frame], none)
      | some next =>
          let (frames, final) := replayFrames requestId pane lease next rest
          (frame :: frames, final)

/-- What an attach sends a waiter, and whether it reaches the end of the replay. -/
def attachTransaction (response : ServerMessage) (requestId : RequestId) (lease : AttachmentLease)
    (pane : PaneState) (foreground : ForegroundProcessInfo) : List ClientDelivery × Bool :=
  let (frames, final) :=
    replayFrames requestId pane.pane lease pane.historyStart pane.rawHistory.replayChunks
  let header :=
    [.message response,
      .message (.replayBegin requestId pane.pane lease pane.historyStart pane.nextOutput
        pane.historyStart.get)]
  if final = some pane.nextOutput then
    (header ++ frames ++
      [.message (.replayEnd requestId pane.pane lease pane.nextOutput),
        .message (.foregroundProcess pane.pane lease foreground)], true)
  else (header ++ frames, false)

/-- The waiter's transaction, with the notice it ends with if the lease went to another. -/
def replayTarget (response : ServerMessage) (requestId : RequestId) (lease : AttachmentLease)
    (pane : PaneState) (foreground : ForegroundProcessInfo) (selected waiter : ClientId) :
    ReplayTarget :=
  let (deliveries, covered) := attachTransaction response requestId lease pane foreground
  ⟨waiter, deliveries,
    if covered ∧ waiter ≠ selected then some (.takenOver pane.pane lease) else none⟩

/-- A cached attach may bind its lease again: it is still current in this scope, and the
connection is the one it was bound to or resumed the scope. -/
def usable (pane : PaneState) (isActive : ClientId → Bool) (conn : Connection)
    (lease : AttachmentLease) : Bool :=
  pane.owner.any fun owner =>
    owner.scope = conn.scope && owner.lease = lease && isActive conn.client &&
      (owner.client = conn.client || conn.resumed)

namespace Server

/-- A retry is only told; a first attempt completes its request with the refusal. -/
def refuseAttach (server : Server) (thread : Nat) (conn : Connection) (request : AttachRequest)
    (cached : Option AttachmentLease) (fresh retried : AttachError) : Server × List Event :=
  let response (error : AttachError) := .attachResult request.requestId (.error error)
  match cached with
  | some lease =>
      (server.goto thread (.delivering conn [⟨conn.client, response retried, false⟩]),
        [.retryRefused conn request lease retried])
  | none =>
      let key : RequestKey := ⟨conn.scope, request.requestId⟩
      let (waiters, state) := server.state.completeRequest key (response fresh)
      ((server.setState state).goto thread
        (.delivering conn (toWaiters waiters (response fresh) true)),
        [.answered key (response fresh)])

/-- Tell the displaced owner; one that cannot be told is disconnected. -/
def takeOver (server : Server) (pane : PaneState) (previous : AttachmentOwner) : Server :=
  server.setTransports (server.transports.deliverOrDisconnect previous.client
    (.message (.takenOver pane.pane previous.lease)))

/-- Bind the cached lease to this connection and replay to it. -/
def rebind (server : Server) (thread : Nat) (conn : Connection) (request : AttachRequest)
    (ref : PaneRef) (pane : Pane) (lease : AttachmentLease) (leader : GroupLeader) :
    Server × List Event :=
  let owner : AttachmentOwner := ⟨conn.scope, lease, conn.client⟩
  let server := match pane.state.owner with
    | some previous =>
        if previous.client ≠ conn.client then server.takeOver pane.state previous else server
    | none => server
  let response := .attachResult request.requestId
    (.attached request.session pane.state.paneInfo lease)
  let (foreground, state) :=
    { pane.state with owner := some owner }.refreshForegroundProcess leader
  let target := replayTarget response request.requestId lease state foreground conn.client
    conn.client
  ((server.setPane ref { pane with state, replaying := true }).goto thread
    (.replaying conn ref [target]), [.rebound ref owner])

/-- Displace the owner, answer every waiter and replay to each of them. -/
def grant (server : Server) (thread : Nat) (conn : Connection) (request : AttachRequest)
    (ref : PaneRef) (pane : Pane) (lease : AttachmentLease) (leader : GroupLeader) :
    Server × List Event :=
  let key : RequestKey := ⟨conn.scope, request.requestId⟩
  let server := match pane.state.owner with
    | some previous => server.takeOver pane.state previous
    | none => server
  let response := .attachResult request.requestId
    (.attached request.session pane.state.paneInfo lease)
  let (waiters, state) := server.state.completeRequest key response
  -- The first transport may be gone; the lease keeps a logical owner all the same.
  let waiters := if waiters = [] then [conn.client] else waiters
  let selected := waiters.getLastD conn.client
  let owner : AttachmentOwner := ⟨conn.scope, lease, selected⟩
  let (foreground, paneState) :=
    { pane.state with owner := some owner }.refreshForegroundProcess leader
  let targets := waiters.map
    (replayTarget response request.requestId lease paneState foreground selected)
  (((server.setState state).setPane ref { pane with state := paneState, replaying := true }).goto
    thread (.replaying conn ref targets), [.answered key response, .granted ref owner])

/-- The decision an attach makes under the server lock and then the pane's. -/
def attachCommit (server : Server) (thread : Nat) (failure : Option String)
    (leader : GroupLeader) : Stepped :=
  match server.handlers[thread]? with
  | some (.attaching conn request cached) =>
      if server.state.shuttingDown then
        let error := .failed .shuttingDown shutdownErrorMessage
        some (server.refuseAttach thread conn request cached error error)
      else
        match server.state.sessions[request.session]? with
        | none =>
            some (server.refuseAttach thread conn request cached
              (.sessionNotFound request.session) .superseded)
        | some ref =>
            (server.lockPane ref).bind fun pane =>
              if pane.state.identity ≠ request.identity then
                some (server.refuseAttach thread conn request cached
                  (.identityMismatch request.session
                    (identityMismatch pane.state.identity request.identity)) .superseded)
              else if !pane.state.attachable then
                some (server.refuseAttach thread conn request cached
                  (.sessionNotFound request.session) .superseded)
              -- A retry whose first answer is cached must still find the lease it was given.
              else if cached.any fun lease =>
                  !usable pane.state server.transports.isActive conn lease then
                some (server.refuseAttach thread conn request cached .superseded .superseded)
              else
                -- A pane that is stopping is attached to at the size it has.
                let resized := if pane.state.lifecycle = .running then
                    pane.state.resize request.rows request.cols failure
                  else .ok pane.state
                match resized with
                | .error message =>
                    let error := .failed .daemonInternal message
                    some (server.refuseAttach thread conn request cached error error)
                | .ok paneState =>
                    let pane := { pane with state := paneState }
                    match cached with
                    | some lease =>
                        some (server.rebind thread conn request ref pane lease leader)
                    | none =>
                        match server.state.allocateLease with
                        | .error rejection =>
                            let error := rejection.intoAttachError
                            -- The size stays even where there is no lease to give.
                            some ((server.setPane ref pane).refuseAttach thread conn request none
                              error error)
                        | .ok (lease, state) =>
                            some ((server.setState state).grant thread conn request ref pane lease
                              leader)
  | _ => none

/-- One message of the replay. A refused one abandons that waiter's transaction. -/
def replay (server : Server) (thread : Nat) : Stepped :=
  match server.handlers[thread]? with
  | some (.replaying conn ref (target :: targets)) =>
      match target.deliveries with
      | delivery :: rest =>
          let (accepted, transports) := server.transports.tryEnqueue target.client delivery
          -- A refused message breaks off the waiter's transaction, and the others go on.
          let targets :=
            if accepted then { target with deliveries := rest } :: targets else targets
          some ((server.setTransports transports).goto thread (.replaying conn ref targets), [])
      | [] =>
          let server := match target.displaced with
            | some notice => server.send ⟨target.client, notice, false⟩
            | none => server
          some (server.goto thread (.replaying conn ref targets), [])
  | some (.replaying conn ref []) =>
      server.panes[ref]?.bind fun pane =>
        some ((server.setPane ref { pane with replaying := false }).goto thread (.serving conn), [])
  | _ => none

def rejectLease (server : Server) (thread : Nat) (conn : Connection) (pane : PaneId)
    (lease : AttachmentLease) (operation : LeaseOperation) (reason : LeaseRejectionReason) :
    Server :=
  server.goto thread
    (.delivering conn [⟨conn.client, .leaseRejected pane lease operation reason, false⟩])

/-- Run the section of a leased operation: reject it, or go on with the locked pane. -/
def withLease (server : Server) (thread : Nat) (conn : Connection) (paneId : PaneId)
    (lease : AttachmentLease) (operation : LeaseOperation)
    (section_ : PaneRef → Pane → Server × List Event) : Stepped :=
  match server.state.paneById paneId with
  | none => some (server.rejectLease thread conn paneId lease operation .paneMissing, [])
  | some ref =>
      (server.lockPane ref).bind fun pane =>
        match pane.state.validateMutationLease server.transports.isActive
            server.state.shuttingDown conn.scope conn.client lease with
        | .error reason => some (server.rejectLease thread conn paneId lease operation reason, [])
        | .ok () =>
            let (server, events) := section_ ref pane
            some (server, .accepted (.leased operation) ref ⟨conn.scope, lease, conn.client⟩ ::
              events)

/-- Input is only validated under the locks; it is queued once they are released. -/
def validateInput (server : Server) (thread : Nat) : Stepped :=
  match server.handlers[thread]? with
  | some (.validating conn paneId lease bytes operation) =>
      server.withLease thread conn paneId lease operation fun ref _ =>
        (server.goto thread (.enqueueing conn paneId ref lease bytes operation), [])
  | _ => none

def inputMayChangeForeground (bytes : Bytes) : Bool :=
  bytes.any fun byte => byte = 0x0d || byte = 0x0a || byte = 0x03 || byte = 0x1a

/-- Start the debounced poll unless one is running. -/
def schedulePoll (pane : Pane) : Pane :=
  if pane.state.foregroundPollScheduled then pane
  else { pane with
    state := { pane.state with foregroundPollScheduled := true }
    poll := some 3 }

/-- The queue is a lock of its own: the pane's mutex is not needed. -/
def enqueueInput (server : Server) (thread : Nat) : Stepped :=
  match server.handlers[thread]? with
  | some (.enqueueing conn paneId ref lease bytes operation) =>
      server.panes[ref]?.bind fun pane =>
        match pane.state.writes.enqueue bytes with
        | .error _ => some (server.rejectLease thread conn paneId lease operation .writeRefused, [])
        | .ok writes =>
            let pane := { pane with state := { pane.state with writes } }
            let pane := if inputMayChangeForeground bytes then schedulePoll pane else pane
            some ((server.setPane ref pane).goto thread (.serving conn),
              if bytes = [] then [] else [.queued ref lease bytes])
  | _ => none

/-- A size the PTY refuses is only logged. -/
def resizePane (server : Server) (thread : Nat) (failure : Option String) : Stepped :=
  match server.handlers[thread]? with
  | some (.resizing conn paneId lease rows cols) =>
      server.withLease thread conn paneId lease .resize fun ref pane =>
        let paneState := match pane.state.resize rows cols failure with
          | .ok resized => resized
          | .error _ => pane.state
        ((server.setPane ref { pane with state := paneState }).goto thread (.serving conn), [])
  | _ => none

def detach (server : Server) (thread : Nat) : Stepped :=
  match server.handlers[thread]? with
  | some (.detaching conn paneId lease) =>
      server.withLease thread conn paneId lease .detach fun ref pane =>
        ((server.setPane ref { pane with state := { pane.state with owner := none } }).goto thread
          (.serving conn), [.detached ref])
  | _ => none

end Server

end Mult.Daemon
