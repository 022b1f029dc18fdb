import Mult.Protocol.Messages

/-! A pane's bounded inbox for client input. A write is accepted whole or refused;
one writer thread takes the whole backlog at once.
-/

set_option autoImplicit false

namespace Mult.Daemon
open Protocol

/-- Bytes of client input a pane's writer may have outstanding. -/
def ptyWriteQueueMaxBytes : Nat := 1024 * 1024

inductive PtyWriteRefusal where
  | queueFull
  | closed
  deriving DecidableEq, Repr

structure PtyWriteQueue where
  pending : List Bytes
  queuedBytes : Nat
  closed : Bool
  capacity : Nat
  deriving DecidableEq, Repr

namespace PtyWriteQueue

def withCapacity (capacity : Nat) : PtyWriteQueue := ⟨[], 0, false, capacity⟩

def enqueue (queue : PtyWriteQueue) (bytes : Bytes) : Except PtyWriteRefusal PtyWriteQueue :=
  if bytes = [] then .ok queue
  else if queue.closed then .error .closed
  else if queue.capacity < queue.queuedBytes + bytes.length then .error .queueFull
  else .ok { queue with
    queuedBytes := queue.queuedBytes + bytes.length
    pending := queue.pending ++ [bytes] }

/-- The whole backlog, when there is one and the queue is open. -/
def takeWrites (queue : PtyWriteQueue) : Option (List Bytes × PtyWriteQueue) :=
  if queue.closed ∨ queue.pending = [] then none
  else some (queue.pending, { queue with queuedBytes := 0, pending := [] })

def close (queue : PtyWriteQueue) : PtyWriteQueue :=
  { queue with closed := true, pending := [], queuedBytes := 0 }

end PtyWriteQueue

end Mult.Daemon
