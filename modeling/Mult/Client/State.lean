import Mult.Foundation.Programs
import Mult.Foundation.Text
import Mult.Runtime.PtyEvents

/-! What the client keeps about its panes and its connection to the daemon, and the changes it
makes to that in one go.

The screen emulator is outside: a screen is the operations it has been put through since it was
made, and what the client reads off it is a function of these.
-/

set_option autoImplicit false

namespace Mult.Client
open Foundation Protocol
open Project (PtyKey ChatId TerminalId)

/-- The kinds of socket errors that the client tells apart. -/
inductive IoErrorKind where
  | brokenPipe | connectionReset | connectionAborted | notConnected | timedOut | other
  deriving DecidableEq, Repr

def IoErrorKind.isDisconnected : IoErrorKind → Bool
  | .brokenPipe | .connectionReset | .connectionAborted | .notConnected => true
  | .timedOut | .other => false

inductive PtyDeliveryOperation where
  | input | paste | resize | detach
  deriving DecidableEq, Repr

def PtyDeliveryOperation.debug : PtyDeliveryOperation → String
  | .input => "Input"
  | .paste => "Paste"
  | .resize => "Resize"
  | .detach => "Detach"

inductive PtyError where
  | rejected (code : RejectCode) (detail : String)
  | offline (message : String)
  | disconnected (message : String)
  | timeout (message : String)
  | deliveryUncertain (operation : PtyDeliveryOperation) (pane : PaneId)
  | protocolViolation (message : String)
  | invalid (message : String)
  | io (kind : IoErrorKind) (text : String)
  deriving DecidableEq, Repr

namespace PtyError

def code : PtyError → Option RejectCode
  | .rejected code _ => some code
  | _ => none

/-- Whether the request should be sent again over a fresh connection. -/
def isDisconnected : PtyError → Bool
  | .offline _ | .disconnected _ => true
  | .io kind _ => kind.isDisconnected
  | _ => false

/-- Whether the failure leaves the pane's attachment in an unknown state. -/
def isReconciliationUncertain : PtyError → Bool
  | .offline _ | .disconnected _ | .timeout _ | .deliveryUncertain .. | .protocolViolation _ => true
  | .io kind _ => kind.isDisconnected || kind == .timedOut
  | .rejected .. | .invalid _ => false

def delivery : PtyError → Option (PtyDeliveryOperation × PaneId)
  | .deliveryUncertain operation pane => some (operation, pane)
  | _ => none

def display : PtyError → String
  | .rejected code detail =>
    if detail = "" then code.description else code.description ++ ": " ++ detail
  | .offline message | .disconnected message | .timeout message | .protocolViolation message
  | .invalid message => message
  | .deliveryUncertain operation pane =>
    operation.debug ++ " delivery to pane " ++ toString pane.raw ++
      " is uncertain; it was not replayed"
  | .io _ text => text

def protocolOrder (message : String) : PtyError := .protocolViolation message

end PtyError

structure PtyDimensions where
  rows : Nat
  cols : Nat
  deriving DecidableEq, Repr

namespace PtyDimensions

def initial : PtyDimensions := ⟨24, 80⟩

/-- The size the emulator and the daemon are actually driven at. -/
def clamped (size : PtyDimensions) : PtyDimensions :=
  let bounded := boundedScreenDimensions size.rows size.cols
  ⟨bounded.1, bounded.2⟩

end PtyDimensions

inductive ScreenOperation where
  | process (bytes : Bytes)
  /-- With the repair of wide cells that a narrower screen would cut in half. -/
  | resize (size : PtyDimensions)
  | scroll (rows : Nat)
  /-- The offset set again, so that the emulator bounds it. -/
  | clampScrollback
  deriving DecidableEq, Repr

/-- A screen: the size it was made with, and what it has been put through since. -/
structure Parser where
  made : PtyDimensions
  operations : List ScreenOperation
  deriving DecidableEq, Repr

namespace Parser

def new (size : PtyDimensions) : Parser := ⟨size, []⟩

def apply (parser : Parser) (operation : ScreenOperation) : Parser :=
  { parser with operations := parser.operations ++ [operation] }

def size (parser : Parser) : PtyDimensions :=
  parser.operations.foldl (fun size operation =>
    match operation with
    | .resize size => size
    | _ => size) parser.made

end Parser

/-- What the client uses of code outside: what it reads off a screen, and the text that a derived
formatter gives. -/
structure Surroundings where
  /-- The answers to the queries among further bytes. -/
  responses : Parser → Bytes → Bytes
  scrollback : Parser → Nat
  bracketedPaste : Parser → Bool
  reportsFocus : Parser → Bool
  title : Parser → String
  debugStatusError : AgentStatusError → String

/-- An event waiting for the render loop, with how much had happened when it was raised; the
latter is not in the code. -/
structure Raised where
  event : PtyEvent
  since : Nat
  deriving DecidableEq, Repr

structure PendingStop where
  requestId : RequestId
  session : SessionId
  label : String
  deadline : Nat
  deriving DecidableEq, Repr

structure PtyPane where
  attachment : Option PaneId
  lease : Option AttachmentLease
  expectedOutput : Option OutputSequence
  identity : Option SessionIdentity
  agent : Option AgentSessionMetadata
  parser : Option Parser
  sawOutput : Bool
  exitStatus : Option PtyExit
  deriving DecidableEq, Repr

namespace PtyPane

/-- A pane nothing is recorded about. -/
def default : PtyPane := ⟨none, none, none, none, none, none, false, none⟩

def detached (pane : PtyPane) : PtyPane :=
  { pane with attachment := none, lease := none, expectedOutput := none }

def unreconciled (pane : PtyPane) : PtyPane := { pane with lease := none, expectedOutput := none }

def resetParser (pane : PtyPane) (size : PtyDimensions) : PtyPane :=
  { pane with parser := some (.new size.clamped), sawOutput := false, exitStatus := none }

/-- The screen, made at the usual size if there is none. -/
def screen (pane : PtyPane) : Parser := pane.parser.getD (.new .initial)

def feed (pane : PtyPane) (bytes : Bytes) : PtyPane :=
  if bytes = [] then pane
  else
    { pane with
      parser := some ((pane.screen.apply (.process bytes)).apply .clampScrollback)
      sawOutput := true }

def resize (pane : PtyPane) (size : PtyDimensions) : PtyPane :=
  { pane with parser := some ((pane.screen.apply (.resize size.clamped)).apply .clampScrollback) }

end PtyPane

structure ServerHello where
  serverInstance : ServerInstanceId
  clientScope : ClientScopeId
  resumed : Bool
  deriving DecidableEq, Repr

def reconnectBackoffMin : Nat := 250
def reconnectBackoffMax : Nat := 5000

/-- The panes are a function; `keys` are those with an entry. A connection is named by how many
there were before it. -/
structure PtyRuntime where
  connection : Option Nat
  panes : PtyKey → PtyPane
  keys : List PtyKey
  paneIndex : PaneId → Option PtyKey
  pendingEvents : List Raised
  clientScope : Option ClientScopeId
  serverInstance : Option ServerInstanceId
  nextRequestId : Option RequestId
  pendingRequests : List RequestId
  pendingStops : List PendingStop
  deferredMessages : List ServerMessage
  starting : Option PtyKey
  pendingReattach : List PtyKey
  /-- The scope the connection attempt under way asks to resume. -/
  pendingConnect : Option (Option ClientScopeId)
  retryNotBefore : Option Nat
  retryBackoff : Nat
  disconnectReported : Bool
  workRemaining : Bool
  focusedPane : Option PtyKey

def PtyRuntime.disconnected (pendingEvents : List Raised) : PtyRuntime where
  connection := none
  panes _ := .default
  keys := []
  paneIndex _ := none
  pendingEvents := pendingEvents
  clientScope := none
  serverInstance := none
  nextRequestId := some .min
  pendingRequests := []
  pendingStops := []
  deferredMessages := []
  starting := none
  pendingReattach := []
  pendingConnect := none
  retryNotBefore := none
  retryBackoff := reconnectBackoffMin
  disconnectReported := false
  workRemaining := false
  focusedPane := none

def wireId : PtyKey → Nat
  | .terminal terminal => terminal.raw
  | .chatAgent chat => chat.raw ||| Project.runtimeTerminalIdFlag

def sessionForKey (key : PtyKey) : SessionId := ⟨wireId key⟩

def paneForKey (key : PtyKey) : PaneId := ⟨wireId key⟩

def keyForPaneId (pane : PaneId) : PtyKey :=
  if pane.raw &&& Project.runtimeTerminalIdFlag ≠ 0 then
    .chatAgent ⟨pane.raw % Project.runtimeTerminalIdFlag⟩
  else .terminal ⟨pane.raw⟩

/-- The request a correlated answer belongs to. -/
def messageRequestId : ServerMessage → Option RequestId
  | .createResult requestId _ | .attachResult requestId _ | .replayBegin requestId ..
  | .replayChunk requestId .. | .replayEnd requestId .. | .stopResult requestId _
  | .agentStatusResult requestId _ => some requestId
  | _ => none

namespace PtyRuntime

variable (runtime : PtyRuntime) (terminal : PtyKey)

def attachedPane : Option PaneId := (runtime.panes terminal).attachment

def parser : Option Parser := (runtime.panes terminal).parser

def keyForPane (pane : PaneId) : Option PtyKey := runtime.paneIndex pane

def leaseOf (pane : PaneId) : Option AttachmentLease :=
  (runtime.keyForPane pane).bind fun terminal => (runtime.panes terminal).lease

def isRunning : Bool :=
  let pane := runtime.panes terminal
  pane.attachment.isSome && pane.lease.isSome && pane.expectedOutput.isSome

def parserDimensions : PtyDimensions := ((runtime.parser terminal).map Parser.size).getD .initial

/-- The entry of a terminal, made if this is the first thing recorded about it, changed. -/
def editPane (change : PtyPane → PtyPane) : PtyRuntime :=
  { runtime with
    panes := Function.update runtime.panes terminal (change (runtime.panes terminal))
    keys := if terminal ∈ runtime.keys then runtime.keys else runtime.keys ++ [terminal] }

def bindPane (pane : PaneId) : PtyRuntime :=
  { runtime.editPane terminal fun entry => { entry with attachment := some pane } with
    paneIndex := Function.update runtime.paneIndex pane (some terminal) }

/-- Drops the binding between a key and a server pane, with the lease and the watermark. -/
def clearAttachment (pane : PaneId) : PtyRuntime :=
  match runtime.paneIndex pane with
  | none => runtime
  | some terminal =>
    { runtime with
      paneIndex := Function.update runtime.paneIndex pane none
      panes := Function.update runtime.panes terminal (runtime.panes terminal).detached }

def removeTerminal : PtyRuntime :=
  { runtime with
    panes := Function.update runtime.panes terminal .default
    keys := runtime.keys.erase terminal
    paneIndex :=
      match (runtime.panes terminal).attachment with
      | some pane => Function.update runtime.paneIndex pane none
      | none => runtime.paneIndex }

def resetParser (size : PtyDimensions) : PtyRuntime :=
  runtime.editPane terminal fun entry => entry.resetParser size

def resizeParser (size : PtyDimensions) : PtyRuntime :=
  runtime.editPane terminal fun entry => entry.resize size

/-- Accepts live output that continues the screen's: the watermark and the screen move together. -/
def acceptOutput (next : OutputSequence) (bytes : Bytes) : PtyRuntime :=
  runtime.editPane terminal fun entry => { entry with expectedOutput := some next }.feed bytes

/-- Puts a validated replay on the screen, and the attachment in force. -/
def commitReplay (replay : Bytes) (lease : AttachmentLease) (watermark : OutputSequence) :
    PtyRuntime :=
  { runtime.editPane terminal fun entry =>
      { entry.feed replay with lease := some lease, expectedOutput := some watermark } with
    pendingReattach := runtime.pendingReattach.filter (· ≠ terminal) }

/-- An attach transaction starts over on another connection: the screen goes with the lease. -/
def restartAttach (size : PtyDimensions) : PtyRuntime :=
  runtime.editPane terminal fun entry => (entry.resetParser size).unreconciled

def endScrollback : PtyRuntime :=
  match runtime.parser terminal with
  | none => runtime
  | some parser =>
    runtime.editPane terminal fun entry => { entry with parser := some (parser.apply (.scroll 0)) }

def allocate (requestId : RequestId) : PtyRuntime :=
  { runtime with
    nextRequestId := requestId.checkedNext
    pendingRequests := runtime.pendingRequests.insert requestId }

/-- As `allocate`, for a request that no one waits for. -/
def allocateStop (requestId : RequestId) : PtyRuntime :=
  { runtime with nextRequestId := requestId.checkedNext }

def defer (message : ServerMessage) : PtyRuntime :=
  { runtime with deferredMessages := runtime.deferredMessages ++ [message] }

def finishRequest (requestId : RequestId) : PtyRuntime :=
  { runtime with
    pendingRequests := runtime.pendingRequests.filter (· ≠ requestId)
    deferredMessages := runtime.deferredMessages.filter fun message =>
      messageRequestId message ≠ some requestId }

/-- The first message put aside for the request, and the others. -/
def takeDeferred (requestId : RequestId) :
    List ServerMessage → Option (ServerMessage × List ServerMessage)
  | [] => none
  | message :: rest =>
    if messageRequestId message = some requestId then some (message, rest)
    else (takeDeferred requestId rest).map fun (found, others) => (found, message :: others)

/-- Queues every tracked terminal for re-attachment, in the order the map yields them. -/
def enqueueReattachments (order : List PtyKey) : PtyRuntime :=
  let terminals := order.filter fun terminal =>
    (runtime.panes terminal).attachment.isSome && some terminal != runtime.starting
  { runtime with
    pendingReattach := terminals.foldl (fun queue terminal =>
      if terminal ∈ queue then queue else queue ++ [terminal]) runtime.pendingReattach }

/-- Whether the daemon went on with exactly the scope and the instance the client had. -/
def resumedSame (hello : ServerHello) (requestedResume : Option ClientScopeId) : Bool :=
  hello.resumed && requestedResume == some hello.clientScope &&
    runtime.serverInstance == some hello.serverInstance

/-- Forgets what only made sense in the scope that is gone. -/
def startScope : PtyRuntime :=
  { runtime with
    pendingRequests := []
    pendingStops := []
    deferredMessages := []
    nextRequestId := some .min
    panes := fun terminal => (runtime.panes terminal).unreconciled }

/-- Adopts an established socket. -/
def installConnection (number : Nat) (hello : ServerHello) (requestedResume : Option ClientScopeId)
    (order : List PtyKey) : PtyRuntime :=
  let reconciled :=
    if runtime.clientScope.isSome && !runtime.resumedSame hello requestedResume then
      runtime.startScope
    else runtime
  { reconciled with
    clientScope := some hello.clientScope
    serverInstance := some hello.serverInstance
    connection := some number
    disconnectReported := false }.enqueueReattachments order

/-- Drops the connection, and with it the stops in flight and their answers. -/
def disconnect : PtyRuntime :=
  { runtime with
    pendingStops := []
    deferredMessages := runtime.deferredMessages.filter fun message =>
      (runtime.pendingStops.all fun stop => messageRequestId message ≠ some stop.requestId)
    connection := none }

def resetRetryBackoff : PtyRuntime :=
  { runtime with retryNotBefore := none, retryBackoff := reconnectBackoffMin }

def advanceRetryBackoff (now : Nat) : PtyRuntime :=
  { runtime with
    retryNotBefore := some (now + runtime.retryBackoff)
    retryBackoff := min (runtime.retryBackoff * 2) reconnectBackoffMax }

end PtyRuntime

end Mult.Client
