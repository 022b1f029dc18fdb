import Mult.Protocol.Identifiers

/-! Client and server messages, their refusals, and the bounds both sides share.

The wire encoding is not part of this module: a message is its decoded value.
-/

set_option autoImplicit false

namespace Mult.Protocol

def protocolVersion : Nat := 12
def agentStatusSchemaVersion : Nat := 1
def maxScreenRows : Nat := 1000
def maxScreenCols : Nat := 1000
def maxScreenCells : Nat := 200000
def minScreenRows : Nat := 2
def minScreenCols : Nat := 2
def maxPendingRequestsPerClient : Nat := 1024
def maxCachedRequestResultsPerScope : Nat := 4096

abbrev Bytes := List UInt8

/-- A text of ASCII characters, byte by byte. -/
def ascii (text : String) : Bytes := text.toList.map fun char => .ofNat char.toNat

/-- Machine-readable classification of every rejection the daemon can produce. -/
inductive RejectCode where
  | protocolMismatch | protocolOrder | requestCollision | retryExpired | tooManyPendingRequests
  | resourceExhausted | unknownSession | sessionAlreadyExists | identityMismatch | notOwner
  | staleLease | superseded | inputRefused | agentStatusRejected | shuttingDown | launchFailed
  | daemonInternal
  deriving DecidableEq, Repr

def RejectCode.description : RejectCode → String
  | .protocolMismatch => "protocol version mismatch"
  | .protocolOrder => "protocol message out of order"
  | .requestCollision => "request ID collision"
  | .retryExpired => "request retry expired"
  | .tooManyPendingRequests => "too many pending requests"
  | .resourceExhausted => "daemon identifier space exhausted"
  | .unknownSession => "unknown session"
  | .sessionAlreadyExists => "session already exists"
  | .identityMismatch => "session identity mismatch"
  | .notOwner => "not the pane's current owner"
  | .staleLease => "stale attachment lease"
  | .superseded => "attachment superseded by a takeover"
  | .inputRefused => "PTY input refused"
  | .agentStatusRejected => "agent status rejected"
  | .shuttingDown => "daemon is shutting down"
  | .launchFailed => "failed to launch the PTY"
  | .daemonInternal => "internal daemon failure"

inductive LaunchSpec where
  | shell
  | command (line : String)
  deriving DecidableEq, Repr

inductive AgentKind where
  | pi | claudeCode | codex
  deriving DecidableEq, Repr

structure AgentSessionMetadata where
  schemaVersion : Nat
  chatId : Nat
  agent : AgentKind
  generation : AgentGeneration
  deriving DecidableEq, Repr

inductive AgentStatus where
  | idle | running | waiting | finished | failed | exited
  deriving DecidableEq, Repr

def AgentStatus.isFinal : AgentStatus → Bool
  | .failed | .exited => true
  | _ => false

structure AgentStatusRecord where
  schemaVersion : Nat
  identity : SessionIdentity
  chatId : Nat
  agent : AgentKind
  generation : AgentGeneration
  status : AgentStatus
  deriving DecidableEq, Repr

structure AgentStatusQuery where
  schemaVersion : Nat
  identity : SessionIdentity
  chatId : Nat
  agent : AgentKind
  generation : AgentGeneration
  deriving DecidableEq, Repr

structure SessionInfo where
  id : SessionId
  identity : SessionIdentity
  name : String
  pane : PaneId
  attached : Bool
  deriving DecidableEq, Repr

structure PaneInfo where
  id : PaneId
  title : String
  rows : Nat
  cols : Nat
  deriving DecidableEq, Repr

structure ForegroundProcessInfo where
  rootPid : Option Nat
  foregroundPid : Option Nat
  command : Option String
  deriving DecidableEq, Repr

structure ExitInfo where
  code : Nat
  signal : Option String
  deriving DecidableEq, Repr

/-- What a client asks of the daemon. Only the correlated requests carry a request ID. -/
inductive ClientMessage where
  | hello (protocolVersion : Nat) (resume : Option ClientScopeId)
  | listSessions (stateNamespace : StateNamespace)
  | createSession (requestId : RequestId) (identity : SessionIdentity)
      (requestedId : Option SessionId) (agent : Option AgentSessionMetadata) (name : String)
      (cwd : Option String) (env : List (String × String)) (launch : LaunchSpec)
      (rows cols : Nat)
  | attach (requestId : RequestId) (identity : SessionIdentity) (session : SessionId)
      (rows cols : Nat)
  | input (pane : PaneId) (lease : AttachmentLease) (bytes : Bytes)
  | paste (pane : PaneId) (lease : AttachmentLease) (bytes : Bytes)
  | resize (pane : PaneId) (lease : AttachmentLease) (rows cols : Nat)
  | detach (pane : PaneId) (lease : AttachmentLease)
  | stop (requestId : RequestId) (identity : SessionIdentity) (pane : PaneId)
      (lease : AttachmentLease)
  | updateAgentStatus (requestId : RequestId) (record : AgentStatusRecord)
  | getAgentStatus (requestId : RequestId) (query : AgentStatusQuery)
  deriving DecidableEq, Repr

inductive IdentityMismatch where
  | stateNamespace | sessionToken
  deriving DecidableEq, Repr

inductive AgentStatusError where
  | requestCollision
  | retryExpired
  | wrongSchema (expected received : Nat)
  | sessionNotFound (identity : SessionIdentity)
  | identityMismatch (mismatch : IdentityMismatch)
  | notAgentSession (identity : SessionIdentity)
  | wrongChat (expected received : Nat)
  | wrongAgent (expected received : AgentKind)
  | staleGeneration (current received : AgentGeneration)
  | finalStatusConflict (current attempted : AgentStatus)
  | failed (code : RejectCode) (message : String)
  deriving DecidableEq, Repr

def AgentStatusError.code : AgentStatusError → RejectCode
  | .requestCollision => .requestCollision
  | .retryExpired => .retryExpired
  | .sessionNotFound _ => .unknownSession
  | .identityMismatch _ => .identityMismatch
  | .wrongSchema .. | .notAgentSession _ | .wrongChat .. | .wrongAgent .. | .staleGeneration ..
  | .finalStatusConflict .. => .agentStatusRejected
  | .failed code _ => code

inductive CreateError where
  | requestCollision
  | retryExpired
  | sessionAlreadyExists (session : SessionInfo)
  | identityAlreadyExists (session : SessionInfo)
  | identityMismatch (session : SessionId) (mismatch : IdentityMismatch)
  | invalidAgentMetadata (error : AgentStatusError)
  | failed (code : RejectCode) (message : String)
  deriving DecidableEq, Repr

def CreateError.code : CreateError → RejectCode
  | .requestCollision => .requestCollision
  | .retryExpired => .retryExpired
  | .sessionAlreadyExists _ | .identityAlreadyExists _ => .sessionAlreadyExists
  | .identityMismatch .. => .identityMismatch
  | .invalidAgentMetadata error => error.code
  | .failed code _ => code

inductive CreateOutcome where
  | created (session : SessionInfo)
  | error (error : CreateError)
  deriving DecidableEq, Repr

inductive AttachError where
  | requestCollision
  | retryExpired
  | sessionNotFound (session : SessionId)
  | identityMismatch (session : SessionId) (mismatch : IdentityMismatch)
  /-- The cached attachment result's lease was invalidated by a takeover. -/
  | superseded
  | failed (code : RejectCode) (message : String)
  deriving DecidableEq, Repr

def AttachError.code : AttachError → RejectCode
  | .requestCollision => .requestCollision
  | .retryExpired => .retryExpired
  | .sessionNotFound _ => .unknownSession
  | .identityMismatch .. => .identityMismatch
  | .superseded => .superseded
  | .failed code _ => code

inductive AttachOutcome where
  | attached (session : SessionId) (pane : PaneInfo) (lease : AttachmentLease)
  | error (error : AttachError)
  deriving DecidableEq, Repr

inductive LeaseOperation where
  | input | paste | resize | detach
  deriving DecidableEq, Repr

inductive LeaseRejectionReason where
  | paneMissing | notOwner | staleLease | writeRefused
  deriving DecidableEq, Repr

def LeaseRejectionReason.code : LeaseRejectionReason → RejectCode
  | .paneMissing => .unknownSession
  | .notOwner => .notOwner
  | .staleLease => .staleLease
  | .writeRefused => .inputRefused

inductive StopError where
  | requestCollision
  | retryExpired
  | identityMismatch (pane : PaneId) (mismatch : IdentityMismatch)
  | leaseRejected (reason : LeaseRejectionReason)
  | failed (code : RejectCode) (message : String)
  deriving DecidableEq, Repr

def StopError.code : StopError → RejectCode
  | .requestCollision => .requestCollision
  | .retryExpired => .retryExpired
  | .identityMismatch .. => .identityMismatch
  | .leaseRejected reason => reason.code
  | .failed code _ => code

inductive StopOutcome where
  | stopped (exit : ExitInfo)
  /-- A new stop request for an absent pane is confirmed success. -/
  | alreadyAbsent
  | error (error : StopError)
  deriving DecidableEq, Repr

inductive AgentStatusOutcome where
  | updated (record : AgentStatusRecord)
  | current (record : Option AgentStatusRecord)
  | error (error : AgentStatusError)
  deriving DecidableEq, Repr

inductive ServerMessage where
  | hello (protocolVersion : Nat) (serverInstance : ServerInstanceId)
      (clientScope : ClientScopeId) (resumed : Bool)
  | sessions (stateNamespace : StateNamespace) (sessions : List SessionInfo)
  | createResult (requestId : RequestId) (outcome : CreateOutcome)
  /-- A success is followed by `replayBegin`, chunks, then `replayEnd` for the same request. -/
  | attachResult (requestId : RequestId) (outcome : AttachOutcome)
  | replayBegin (requestId : RequestId) (pane : PaneId) (lease : AttachmentLease)
      (firstSequence watermark : OutputSequence) (omittedPrefixBytes : Nat)
  | replayChunk (requestId : RequestId) (pane : PaneId) (lease : AttachmentLease)
      (sequence : OutputSequence) (bytes : Bytes)
  | replayEnd (requestId : RequestId) (pane : PaneId) (lease : AttachmentLease)
      (watermark : OutputSequence)
  | ptyOutput (pane : PaneId) (lease : AttachmentLease) (sequence : OutputSequence)
      (bytes : Bytes)
  | foregroundProcess (pane : PaneId) (lease : AttachmentLease) (process : ForegroundProcessInfo)
  | paneExited (pane : PaneId) (lease : AttachmentLease) (exit : ExitInfo)
  | stopResult (requestId : RequestId) (outcome : StopOutcome)
  | agentStatusResult (requestId : RequestId) (outcome : AgentStatusOutcome)
  /-- Carries the lease which was displaced, not the replacement lease. -/
  | takenOver (pane : PaneId) (lease : AttachmentLease)
  | leaseRejected (pane : PaneId) (lease : AttachmentLease) (operation : LeaseOperation)
      (reason : LeaseRejectionReason)
  | error (code : RejectCode) (message : String)
  deriving DecidableEq, Repr

/-- Clamp a requested screen size into the range the emulator can be driven at. -/
def boundedScreenDimensions (rows cols : Nat) : Nat × Nat :=
  let cols := min (max cols minScreenCols) maxScreenCols
  let rows := min rows maxScreenRows
  -- `as u16` keeps the low sixteen bits.
  let maxRowsByCells := max (maxScreenCells / cols) 1 % 2 ^ 16
  (max (min rows maxRowsByCells) minScreenRows, cols)

end Mult.Protocol
