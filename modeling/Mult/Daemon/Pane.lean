import Mult.Daemon.RawHistory
import Mult.Daemon.WriteQueue
import Mult.Daemon.Transport

/-! One pane: its mutable state, the checks made on it, and what its own threads
are about to do next.
-/

set_option autoImplicit false

namespace Mult.Daemon
open Protocol

structure RequestKey where
  scope : ClientScopeId
  requestId : RequestId
  deriving DecidableEq, Repr

/-- The connection a lease is bound to, and the scope it may be resumed from. -/
structure AttachmentOwner where
  scope : ClientScopeId
  lease : AttachmentLease
  client : ClientId
  deriving DecidableEq, Repr

inductive PaneLifecycle where
  | running | stopping | exited | removed
  deriving DecidableEq, Repr

structure PaneState where
  session : SessionId
  identity : SessionIdentity
  agent : Option AgentSessionMetadata
  pane : PaneId
  name : String
  title : String
  rows : Nat
  cols : Nat
  rawHistory : RawHistory
  historyStart : OutputSequence
  nextOutput : OutputSequence
  writes : PtyWriteQueue
  childPid : Nat
  processGroup : Nat
  foregroundProcess : ForegroundProcessInfo
  owner : Option AttachmentOwner
  lifecycle : PaneLifecycle
  readerDone : Bool
  childExit : Option ExitInfo
  lastWaitError : Option String
  stopDriverActive : Bool
  pendingStops : List RequestKey
  foregroundPollScheduled : Bool
  deriving DecidableEq, Repr

/-- The foreground group leader the PTY reports, with its command line. -/
abbrev GroupLeader := Option (Nat × Option String)

namespace PaneState

def sessionInfo (pane : PaneState) : SessionInfo :=
  ⟨pane.session, pane.identity, pane.name, pane.pane, pane.owner.isSome⟩

def paneInfo (pane : PaneState) : PaneInfo := ⟨pane.pane, pane.title, pane.rows, pane.cols⟩

def validateLease (pane : PaneState) (isActive : ClientId → Bool) (scope : ClientScopeId)
    (client : ClientId) (lease : AttachmentLease) : Except LeaseRejectionReason Unit :=
  match pane.owner with
  | none => .error .notOwner
  | some owner =>
      if owner.lease ≠ lease then .error .staleLease
      else if owner.scope ≠ scope ∨ owner.client ≠ client ∨ isActive owner.client = false then
        .error .notOwner
      else .ok ()

def validateMutationLease (pane : PaneState) (isActive : ClientId → Bool) (shuttingDown : Bool)
    (scope : ClientScopeId) (client : ClientId) (lease : AttachmentLease) :
    Except LeaseRejectionReason Unit :=
  if shuttingDown ∨ pane.lifecycle ≠ .running then .error .notOwner
  else pane.validateLease isActive scope client lease

def validateStopLease (pane : PaneState) (isActive : ClientId → Bool) (scope : ClientScopeId)
    (client : ClientId) (lease : AttachmentLease) : Except LeaseRejectionReason Unit :=
  pane.validateLease isActive scope client lease

def currentForegroundProcess (pane : PaneState) (leader : GroupLeader) : ForegroundProcessInfo :=
  ⟨some pane.childPid, leader.map (·.1), leader.bind (·.2)⟩

def refreshForegroundProcess (pane : PaneState) (leader : GroupLeader) :
    ForegroundProcessInfo × PaneState :=
  let process := pane.currentForegroundProcess leader
  (process, { pane with foregroundProcess := process })

def refreshForegroundProcessIfChanged (pane : PaneState) (leader : GroupLeader) :
    Option ForegroundProcessInfo × PaneState :=
  let process := pane.currentForegroundProcess leader
  if process = pane.foregroundProcess then (none, pane)
  else (some process, { pane with foregroundProcess := process })

/-- The failure is what the PTY master reports, if it refuses the size. -/
def resize (pane : PaneState) (rows cols : Nat) (failure : Option String) :
    Except String PaneState :=
  match failure with
  | some message => .error message
  | none =>
      let (rows, cols) := boundedScreenDimensions rows cols
      .ok { pane with rows, cols }

/-- The sequence of the appended read, absent when a counter is exhausted. -/
def appendRawHistoryWithLimit (pane : PaneState) (bytes : Bytes) (limit : Nat) :
    Option OutputSequence × PaneState :=
  match pane.nextOutput.checkedAddBytes bytes.length with
  | none => (none, pane)
  | some nextOutput =>
      let (dropped, rawHistory) := pane.rawHistory.append bytes limit
      let appended := { pane with nextOutput, rawHistory }
      if 0 < dropped then
        match pane.historyStart.checkedAddBytes dropped with
        | none => (none, appended)
        | some historyStart => (some pane.nextOutput, { appended with historyStart })
      else (some pane.nextOutput, appended)

def appendRawHistory (pane : PaneState) (bytes : Bytes) : Option OutputSequence × PaneState :=
  pane.appendRawHistoryWithLimit bytes rawHistoryMaxBytes

/-- An attach may take a pane over while it runs, or once a failed stop left it stopping. -/
def attachable (pane : PaneState) : Bool :=
  pane.lifecycle = .running || (pane.lifecycle = .stopping && !pane.stopDriverActive)

def terminated (pane : PaneState) : Bool :=
  pane.lifecycle = .exited || pane.lifecycle = .removed

end PaneState

/-- A message for one connection, sent once the locks are released. -/
structure Outgoing where
  client : ClientId
  message : ServerMessage
  /-- Whether the connection is dropped when its queue refuses the message. -/
  disconnect : Bool
  deriving DecidableEq, Repr

inductive Reader where
  | unstarted
  | reading
  /-- The stream ended; the pane is about to be told. -/
  | ended
  | finalizing
  | notifying (outgoing : List Outgoing)
  | finished
  deriving DecidableEq, Repr

inductive Waiter where
  | unstarted
  | waiting
  /-- A wait failed; the pending stops are about to be failed with the message. -/
  | failing (message : String)
  | reporting (outgoing : List Outgoing)
  | finalizing
  | notifying (outgoing : List Outgoing)
  | finished
  deriving DecidableEq, Repr

inductive Termination where
  | term
  /-- The root group was signalled; the captured foreground group is next. -/
  | foreground (kill : Bool)
  | grace
  | kill
  | drain
  /-- The attempt failed; the pane is about to be told, and restored after a failed TERM. -/
  | restoring (restoreRunning : Bool) (message : String)
  | failing (message : String)
  | reporting (outgoing : List Outgoing)
  | finished
  deriving DecidableEq, Repr

/-- One termination thread, with the process groups captured when it started. -/
structure StopDriver where
  root : Nat
  foreground : Option Nat
  phase : Termination
  deriving DecidableEq, Repr

inductive PtyWriter where
  | waiting
  | writing (batch : List Bytes)
  | finished
  deriving DecidableEq, Repr

/-- A pane, whether its mutex is held by an attach replay, and its threads. -/
structure Pane where
  state : PaneState
  replaying : Bool
  reader : Reader
  waiter : Waiter
  writer : PtyWriter
  drivers : List StopDriver
  /-- Probes left to the debounced foreground poll, when one is running. -/
  poll : Option Nat
  deriving DecidableEq, Repr

end Mult.Daemon
