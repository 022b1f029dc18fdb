import Mult.Daemon.RequestScope

/-! One connection's outgoing queue: deliveries are accepted without blocking and
taken by the connection's socket writer.
-/

set_option autoImplicit false

namespace Mult.Daemon
open Protocol
open Std (TreeMap)

def clientQueueCapacity : Nat := 1024

/-- One queued item for a connection's socket writer. -/
inductive ClientDelivery where
  | message (message : ServerMessage)
  | output (pane : PaneId) (lease : AttachmentLease) (sequence : OutputSequence) (bytes : Bytes)
  | replay (requestId : RequestId) (pane : PaneId) (lease : AttachmentLease)
      (sequence : OutputSequence) (bytes : Bytes)
  | close
  deriving DecidableEq, Repr

def deliveryMessage : ClientDelivery → Option ServerMessage
  | .message message => some message
  | .output pane lease sequence bytes => some (.ptyOutput pane lease sequence bytes)
  | .replay requestId pane lease sequence bytes =>
      some (.replayChunk requestId pane lease sequence bytes)
  | .close => none

inductive SocketWriter where
  | running
  /-- The writer left its loop and is about to deactivate the connection. -/
  | leaving
  | finished
  deriving DecidableEq, Repr

/-- What the threads of the daemon share about one connection. -/
structure Transport where
  active : Bool
  /-- Everything the queue ever accepted, oldest first. -/
  accepted : List ClientDelivery
  /-- How many of the accepted deliveries the socket writer has taken. -/
  taken : Nat
  writer : SocketWriter
  deriving DecidableEq, Repr

namespace Transport

def new : Transport := ⟨true, [], 0, .running⟩

/-- `try_send` on the bounded channel. -/
def trySend (transport : Transport) (delivery : ClientDelivery) : Bool × Transport :=
  if transport.writer = .finished then (false, transport)
  else if clientQueueCapacity ≤ transport.accepted.length - transport.taken then (false, transport)
  else (true, { transport with accepted := transport.accepted ++ [delivery] })

def tryEnqueue (transport : Transport) (delivery : ClientDelivery) : Bool × Transport :=
  if transport.active then transport.trySend delivery else (false, transport)

def finishAfterPendingDeliveries (transport : Transport) : Transport :=
  ({ transport with active := false }.trySend .close).2

def disconnect (transport : Transport) : Transport := { transport with active := false }

end Transport

abbrev Transports := TreeMap ClientId Transport

namespace Transports

def isActive (transports : Transports) (client : ClientId) : Bool :=
  transports[client]?.any (·.active)

def tryEnqueue (transports : Transports) (client : ClientId) (delivery : ClientDelivery) :
    Bool × Transports :=
  match transports[client]? with
  | none => (false, transports)
  | some transport =>
      let (accepted, transport) := transport.tryEnqueue delivery
      (accepted, transports.insert client transport)

def tryDeliver (transports : Transports) (client : ClientId) (message : ServerMessage) :
    Bool × Transports :=
  transports.tryEnqueue client (.message message)

def update (transports : Transports) (client : ClientId) (change : Transport → Transport) :
    Transports :=
  transports.modify client change

def disconnect (transports : Transports) (client : ClientId) : Transports :=
  transports.update client Transport.disconnect

def deliverOrDisconnect (transports : Transports) (client : ClientId)
    (delivery : ClientDelivery) : Transports :=
  let (accepted, transports) := transports.tryEnqueue client delivery
  if accepted then transports else transports.disconnect client

end Transports

end Mult.Daemon
