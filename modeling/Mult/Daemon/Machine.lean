import Mult.Daemon.Registry

/-! The daemon as a machine of threads. A step is one section under the locks, or one
message handed to a connection's queue; between its steps a thread is at one of the
points listed here. Holding a mutex within a single step needs no flag: only an attach
replay keeps a pane's mutex from one step to the next.
-/

set_option autoImplicit false

namespace Mult.Daemon
open Foundation Protocol
open Std (TreeMap)

/-- A connection after its hello. -/
structure Connection where
  client : ClientId
  scope : ClientScopeId
  resumed : Bool
  deriving DecidableEq, Repr

structure CreateRequest where
  requestId : RequestId
  identity : SessionIdentity
  requestedId : Option SessionId
  agent : Option AgentSessionMetadata
  name : String
  cwd : Option String
  env : List (String × String)
  launch : LaunchSpec
  rows : Nat
  cols : Nat
  deriving DecidableEq, Repr

structure AttachRequest where
  requestId : RequestId
  identity : SessionIdentity
  session : SessionId
  rows : Nat
  cols : Nat
  deriving DecidableEq, Repr

structure StopRequest where
  requestId : RequestId
  identity : SessionIdentity
  pane : PaneId
  lease : AttachmentLease
  deriving DecidableEq, Repr

/-- Where a create stands. The failure is what a reservation reported, if it has run. -/
inductive CreateStage where
  | numeric (failure : Option Rejection)
  | logical (failure : Option Rejection) (numeric : Option PaneRef)
  | resolve (failure : Option Rejection) (numeric logical : Option PaneRef)
  | reserve
  | spawn (session : SessionId)
  | publish (session : SessionId) (pane : PaneRef)
  | discard (session : SessionId) (pane : PaneRef) (rejection : Rejection)
  | release (session : SessionId) (rejection : Rejection)
  | report (pane : PaneRef)
  deriving DecidableEq, Repr

/-- What is still to be sent of one waiter's attach transaction. -/
structure ReplayTarget where
  client : ClientId
  deliveries : List ClientDelivery
  /-- Sent last when the waiter is not the one the lease was bound to. -/
  displaced : Option ServerMessage
  deriving DecidableEq, Repr

/-- What a connection's thread does next. -/
inductive Handler where
  | hello (client : ClientId)
  | serving (conn : Connection)
  | listing (conn : Connection) (stateNamespace : StateNamespace)
  | beginning (conn : Connection) (requestId : RequestId) (request : ClientMessage)
  | creating (conn : Connection) (request : CreateRequest) (stage : CreateStage)
  | attaching (conn : Connection) (request : AttachRequest) (cached : Option AttachmentLease)
  | replaying (conn : Connection) (pane : PaneRef) (targets : List ReplayTarget)
  | validating (conn : Connection) (pane : PaneId) (lease : AttachmentLease) (bytes : Bytes)
      (operation : LeaseOperation)
  | enqueueing (conn : Connection) (pane : PaneId) (target : PaneRef) (lease : AttachmentLease)
      (bytes : Bytes) (operation : LeaseOperation)
  | resizing (conn : Connection) (pane : PaneId) (lease : AttachmentLease) (rows cols : Nat)
  | detaching (conn : Connection) (pane : PaneId) (lease : AttachmentLease)
  | stopping (conn : Connection) (request : StopRequest)
  | stoppingPane (conn : Connection) (request : StopRequest) (target : PaneRef)
  | starting (conn : Connection) (target : PaneRef)
  | reportingStatus (conn : Connection) (requestId : RequestId) (request : ClientMessage)
  | completing (conn : Connection) (key : RequestKey) (response : ServerMessage)
  | delivering (conn : Connection) (outgoing : List Outgoing)
  | leaving (client : ClientId)
  | removing (client : ClientId)
  | finished
  deriving DecidableEq, Repr

inductive MainThread where
  | accepting
  /-- The shutdown flag is set; these panes are still to be stopped. -/
  | stopping (panes : List PaneRef)
  | draining
  deriving DecidableEq, Repr

structure Server where
  state : ServerState
  panes : List Pane
  transports : Transports
  handlers : List Handler
  main : MainThread

/-- A mutation a client asks of an attached pane. -/
inductive Mutation where
  | leased (operation : LeaseOperation)
  | stop
  deriving DecidableEq, Repr

/-- What a step is observed to do. -/
inductive Event where
  | spawned (pane : PaneRef) (session : SessionId) (identity : SessionIdentity)
  | published (pane : PaneRef) (session : SessionId)
  | granted (pane : PaneRef) (owner : AttachmentOwner)
  | rebound (pane : PaneRef) (owner : AttachmentOwner)
  | retryRefused (conn : Connection) (request : AttachRequest) (lease : AttachmentLease)
      (error : AttachError)
  | accepted (mutation : Mutation) (pane : PaneRef) (owner : AttachmentOwner)
  | detached (pane : PaneRef)
  | queued (pane : PaneRef) (lease : AttachmentLease) (bytes : Bytes)
  | output (pane : PaneRef) (sequence : OutputSequence) (bytes : Bytes)
  | lifecycle (pane : PaneRef) (before after : PaneLifecycle)
  | removed (pane : PaneRef) (owner : Option AttachmentOwner)
  | exitSent (pane : PaneRef) (client : ClientId) (lease : AttachmentLease)
  | stopAccepted (pane : PaneRef) (key : RequestKey)
  | answered (key : RequestKey) (response : ServerMessage)
  /-- The termination thread at the position clears its active flag. -/
  | gaveUp (pane : PaneRef) (position : Nat)
  | signalled (pane : PaneRef) (group : Nat) (kill : Bool)
  | wrote (pane : PaneRef) (bytes : Bytes)
  deriving DecidableEq, Repr

namespace Server

def new (serverInstance : ServerInstanceId) : Server :=
  ⟨.new serverInstance, [], ∅, [], .accepting⟩

/-- What a step leaves and what it is observed to do. -/
abbrev Stepped := Option (Server × List Event)

def goto (server : Server) (thread : Nat) (handler : Handler) : Server :=
  { server with handlers := server.handlers.set thread handler }

def setPane (server : Server) (ref : PaneRef) (pane : Pane) : Server :=
  { server with panes := server.panes.set ref pane }

def setState (server : Server) (state : ServerState) : Server := { server with state }

def setTransports (server : Server) (transports : Transports) : Server :=
  { server with transports }

def lockPane (server : Server) (ref : PaneRef) : Option Pane :=
  server.panes[ref]?.filter fun pane => !pane.replaying

/-- Send one message; a refusal drops the connection if the message says so. -/
def send (server : Server) (outgoing : Outgoing) : Server :=
  let sent := server.transports.tryDeliver outgoing.client outgoing.message
  server.setTransports
    (if !sent.1 && outgoing.disconnect then sent.2.disconnect outgoing.client else sent.2)

end Server

/-- The answer to each waiter of a completed request. -/
def toWaiters (waiters : List ClientId) (response : ServerMessage) (disconnect : Bool) :
    List Outgoing :=
  waiters.map fun client => ⟨client, response, disconnect⟩

def ServerState.completeAll (state : ServerState) (disconnect : Bool) :
    List (RequestKey × ServerMessage) → List Outgoing × ServerState
  | [] => ([], state)
  | (key, response) :: rest =>
      let (waiters, state) := state.completeRequest key response
      let (outgoing, state) := state.completeAll disconnect rest
      (toWaiters waiters response disconnect ++ outgoing, state)

def identityMismatch (expected received : SessionIdentity) : IdentityMismatch :=
  if expected.stateNamespace ≠ received.stateNamespace then .stateNamespace else .sessionToken

end Mult.Daemon
