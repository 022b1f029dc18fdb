import Mult.Client.State

/-! The client's exchanges with the daemon: connecting, correlated requests and their answers,
attach transactions, and what is done with each message.

What happens around the client is a list of inputs, taken one at a time; a program that needs an
input that is not there waits. The recursion of `ensure_connected` through attach transactions is
bounded by a number that runs out in the same way.
-/

set_option autoImplicit false

namespace Mult.Client
open Foundation Protocol
open Project (PtyKey ChatId TerminalId)

/-- How a frame's write ends. A write that was attempted may have reached the daemon, in part or
whole. -/
inductive WriteOutcome where
  | written
  | unattempted (kind : IoErrorKind) (text : String)
  | attempted (kind : IoErrorKind) (text : String)
  deriving DecidableEq, Repr

/-- What taking the next message from the connection yields. -/
inductive Received where
  | message (message : ServerMessage)
  | nothing
  | closed
  deriving DecidableEq, Repr

inductive Input where
  /-- A reading of the clock, as the time since the last one. -/
  | elapsed (milliseconds : Nat)
  /-- Whether the connection attempt under way has finished. -/
  | connector (finished : Option (Except PtyError ServerHello))
  /-- How a connection attempt that is waited for ends. -/
  | connected (result : Except PtyError ServerHello)
  | received (received : Received)
  | wrote (outcome : WriteOutcome)
  /-- The order in which the map of panes yields its keys. -/
  | order (keys : List PtyKey)

/-- What is written down of a run; the code keeps no such record. -/
inductive TraceEvent where
  /-- The frame was written; `again` where it is a request's resend. -/
  | wrote (message : ClientMessage) (again : Bool)
  | received (message : ServerMessage)
  | allocated (requestId : RequestId)
  | installed (hello : ServerHello) (resumedSame : Bool)
  | deferred (message : ServerMessage)
  | attachBegan (terminal : PtyKey)
  | attachEnded (terminal : PtyKey)
  /-- A replay was committed under the lease. -/
  | granted (terminal : PtyKey) (lease : AttachmentLease)
  /-- The attachment is cleared. -/
  | cleared (terminal : PtyKey)
  /-- The screen is made anew. -/
  | reset (terminal : PtyKey)
  /-- As `reset`, where an attach transaction starts over and gives up the lease with it. -/
  | restarted (terminal : PtyKey)
  /-- The client's own text is put on the screen. -/
  | systemLine (terminal : PtyKey)
  /-- A stop has read the lease that it will name. -/
  | stopping (terminal : PtyKey)
  deriving DecidableEq

/-- An event, with the state it found. -/
structure Entry (H : Type) where
  event : TraceEvent
  runtime : PtyRuntime
  host : H
  attaching : List PtyKey

/-- The client's state, what is still to happen around it, and the record of the run, latest
first. The rest of the client is `host`; `attaching` are the terminals whose attach transaction
is under way. -/
structure World (H : Type) where
  runtime : PtyRuntime
  host : H
  inputs : List Input
  clock : Nat
  connections : Nat
  attaching : List PtyKey
  trace : List (Entry H)

abbrev ClientProgram (H A : Type) := Program (World H) PtyError A

variable {H : Type}

def World.entry (world : World H) (event : TraceEvent) : Entry H :=
  ⟨event, world.runtime, world.host, world.attaching⟩

def view {A : Type} (look : PtyRuntime → A) : ClientProgram H A :=
  .read fun world => look world.runtime

def change (next : PtyRuntime → PtyRuntime) : ClientProgram H Unit :=
  .update fun world => { world with runtime := next world.runtime }

/-- A change that is written down. -/
def act (event : TraceEvent) (next : PtyRuntime → PtyRuntime) : ClientProgram H Unit :=
  .update fun world => { world with
    runtime := next world.runtime
    trace := world.entry event :: world.trace }

def note (event : TraceEvent) : ClientProgram H Unit := act event id

def raised (event : PtyEvent) : ClientProgram H Raised :=
  .read fun world => ⟨event, world.trace.length⟩

/-- Queues events for the render loop. -/
def pushEvents (events : List Raised) : ClientProgram H Unit :=
  change fun runtime => { runtime with pendingEvents := runtime.pendingEvents ++ events }

def pushEvent (event : PtyEvent) : ClientProgram H Unit := do
  let event ← raised event
  pushEvents [event]

/-- The next input, where it is of the kind that is asked for. -/
def take {A : Type} (select : Input → Option A) : ClientProgram H A := fun world =>
  match world.inputs with
  | [] => (.waiting, world)
  | input :: rest =>
    match select input with
    | some value => (.ok value, { world with inputs := rest })
    | none => (.waiting, world)

def now : ClientProgram H Nat := do
  let elapsed ← take fun
    | .elapsed milliseconds => some milliseconds
    | _ => none
  .perform fun world => (world.clock + elapsed, { world with clock := world.clock + elapsed })

def receive : ClientProgram H Received := do
  match ← take fun | .received received => some received | _ => none with
  | .message message => do
    note (.received message)
    pure (.message message)
  | other => pure other

def iterationOrder : ClientProgram H (List PtyKey) := do
  let keys ← view PtyRuntime.keys
  take fun
    | .order order => if order.Perm keys then some order else none
    | _ => none

def write (message : ClientMessage) (again : Bool) : ClientProgram H Unit := do
  match ← view PtyRuntime.connection with
  | none => .fail (.offline "not connected to mult-server")
  | some _ =>
    match ← take fun | .wrote outcome => some outcome | _ => none with
    | .written => note (.wrote message again)
    | .unattempted kind text => .fail (.io kind text)
    | .attempted kind text => do
      note (.wrote message again)
      .fail (.io kind text)

/-- A frame that is never sent again: where it may be half on the wire, the connection goes. -/
def writeNonReplayable (message : ClientMessage) (operation : PtyDeliveryOperation)
    (pane : PaneId) : ClientProgram H Unit := do
  match ← view PtyRuntime.connection with
  | none => .fail (.offline "not connected to mult-server")
  | some _ =>
    match ← take fun | .wrote outcome => some outcome | _ => none with
    | .written => note (.wrote message false)
    | .unattempted kind text => .fail (.io kind text)
    | .attempted _ _ => do
      note (.wrote message false)
      change PtyRuntime.disconnect
      .fail (.deliveryUncertain operation pane)

/-- Reports the loss of the daemon at most once per disconnection. -/
def reportDisconnect (reason : String) : ClientProgram H Unit := do
  if ← view PtyRuntime.disconnectReported then pure ()
  else do
    change fun runtime => { runtime with disconnectReported := true }
    pushEvent (.connectionError
      ("mult-server connection lost; attachment state is retained pending reconciliation: " ++
        reason))

def installConnection (hello : ServerHello) (requestedResume : Option ClientScopeId) :
    ClientProgram H Bool := do
  let order ← iterationOrder
  let same ← view fun runtime => runtime.resumedSame hello requestedResume
  .update fun world => { world with
    runtime := world.runtime.installConnection world.connections hello requestedResume order
    connections := world.connections + 1
    trace := world.entry (.installed hello same) :: world.trace }
  pure same

/-- Connects and waits for it; whether the daemon resumed exactly the previous scope. -/
def connectInner : ClientProgram H Bool := do
  let resume ← view PtyRuntime.clientScope
  match ← take fun | .connected result => some result | _ => none with
  | .ok hello => installConnection hello resume
  | .error error => .fail error

def startConnector : ClientProgram H Unit :=
  change fun runtime =>
    if runtime.pendingConnect.isSome || runtime.connection.isSome then runtime
    else { runtime with pendingConnect := some runtime.clientScope }

def advanceRetryBackoff : ClientProgram H Unit := do
  let time ← now
  change fun runtime => runtime.advanceRetryBackoff time

/-- Collects a connection attempt that has finished. -/
def pollConnector : ClientProgram H Unit := do
  match ← view PtyRuntime.pendingConnect with
  | none => pure ()
  | some resume =>
    match ← take fun | .connector finished => some finished | _ => none with
    | none => pure ()
    | some result => do
      change fun runtime => { runtime with pendingConnect := none }
      match result with
      | .ok hello =>
        -- A synchronous reconnect may have won the race; then this socket is surplus.
        if (← view PtyRuntime.connection).isSome then pure ()
        else do
          let _ ← installConnection hello resume
          change PtyRuntime.resetRetryBackoff
      | .error error => do
        reportDisconnect error.display
        advanceRetryBackoff

/-- Replaces the connection and sends the request again, where the daemon resumed the very scope
it belongs to. -/
def resumeAndResend (message : ClientMessage) : ClientProgram H Unit := do
  let previousScope ← view PtyRuntime.clientScope
  let previousInstance ← view PtyRuntime.serverInstance
  change PtyRuntime.disconnect
  let same ← connectInner
  let scope ← view PtyRuntime.clientScope
  let server ← view PtyRuntime.serverInstance
  if same && scope == previousScope && server == previousInstance then write message true
  else .fail (.protocolViolation
    "mult-server identity changed; refusing to replay an unresolved request")

def requestIdsExhausted : PtyError := .io .other "PTY request ID space exhausted"

def allocateRequest : ClientProgram H RequestId := do
  if maxPendingRequestsPerClient ≤ (← view PtyRuntime.pendingRequests).length then
    .fail (.invalid "too many pending PTY requests")
  else
    match ← view PtyRuntime.nextRequestId with
    | none => .fail requestIdsExhausted
    | some requestId => do
      act (.allocated requestId) fun runtime => runtime.allocate requestId
      pure requestId

def allocateStopRequest : ClientProgram H RequestId := do
  if maxPendingRequestsPerClient ≤ (← view PtyRuntime.pendingStops).length then
    .fail (.invalid "too many PTY stops are still awaiting confirmation")
  else
    match ← view PtyRuntime.nextRequestId with
    | none => .fail requestIdsExhausted
    | some requestId => do
      act (.allocated requestId) fun runtime => runtime.allocateStop requestId
      pure requestId

def finishRequest (requestId : RequestId) : ClientProgram H Unit :=
  change fun runtime => runtime.finishRequest requestId

/-- Puts a correlated answer aside. -/
def defer (message : ServerMessage) : ClientProgram H Unit :=
  act (.deferred message) fun runtime => runtime.defer message

/-- Takes the answer to a request that was put aside, if there is one. -/
def takeDeferred (requestId : RequestId) : ClientProgram H (Option ServerMessage) :=
  .perform fun world => match PtyRuntime.takeDeferred requestId world.runtime.deferredMessages with
  | none => (none, world)
  | some (message, others) =>
    (some message, { world with runtime := { world.runtime with deferredMessages := others } })

def awaitResponse (requestId : RequestId) (deadline : Nat) : Nat → ClientProgram H ServerMessage
  | 0 => .wait
  | fuel + 1 => do
    let time ← now
    if deadline ≤ time then
      .fail (.timeout "timed out waiting for correlated mult-server response")
    else
      match ← view PtyRuntime.connection with
      | none => .fail (.offline "not connected to mult-server")
      | some _ =>
        match ← receive with
        | .message message =>
          match messageRequestId message with
          | some other =>
            -- An answer to another request is kept for whoever waits for that.
            if other ≠ requestId then do
              defer message
              awaitResponse requestId deadline fuel
            else pure message
          | none => pure message
        | .nothing => .fail (.timeout "timed out waiting for correlated mult-server response")
        | .closed => do
          change PtyRuntime.disconnect
          .fail (.disconnected "mult-server disconnected before correlated response")

def receiveForRequest (fuel : Nat) (requestId : RequestId) (deadline : Nat) :
    ClientProgram H ServerMessage := do
  match ← takeDeferred requestId with
  | some message => pure message
  | none => awaitResponse requestId deadline fuel

/-! ## Panes -/

def clearAttachment (pane : PaneId) : ClientProgram H (Option PtyKey) := do
  match ← view fun runtime => runtime.keyForPane pane with
  | none => pure none
  | some terminal => do
    act (.cleared terminal) fun runtime => runtime.clearAttachment pane
    pure (some terminal)

def resetParser (terminal : PtyKey) (size : PtyDimensions) : ClientProgram H Unit :=
  act (.reset terminal) fun runtime => runtime.resetParser terminal size

def identityForKey (terminal : PtyKey) : ClientProgram H SessionIdentity := do
  match ← view fun runtime => (runtime.panes terminal).identity with
  | some identity => pure identity
  | none => .fail (.invalid "PTY session has no registered durable identity")

def leaseForPane (pane : PaneId) : ClientProgram H AttachmentLease := do
  match ← view fun runtime => runtime.leaseOf pane with
  | some lease => pure lease
  | none => .fail (.disconnected
      ("pane " ++ toString pane.raw ++ " attachment has not been reconciled"))

/-- Whether the user typed it, or the client made it on the program's behalf. -/
inductive InputOrigin where
  | user | synthetic
  deriving DecidableEq, Repr

section Connected

variable (around : Surroundings) (ensureConnected : ClientProgram H Unit)

def sendInputInner (terminal : PtyKey) (pane : PaneId) (input : Bytes) (origin : InputOrigin) :
    ClientProgram H Unit := do
  if input ≠ [] ∧ origin = .user then
    change fun runtime => runtime.endScrollback terminal
  else pure ()
  ensureConnected
  let lease ← leaseForPane pane
  writeNonReplayable (.input pane lease input) .input pane

/-- Answers the queries among output that is about to be fed to the screen. -/
def respond (terminal : PtyKey) (response : Bytes) : ClientProgram H Unit := do
  if response = [] then pure ()
  else
    match ← view fun runtime => runtime.attachedPane terminal with
    | none => pure ()
    | some pane => do
      let _ ← (sendInputInner ensureConnected terminal pane response .synthetic).attempt
      pure ()

/-- Folds an output notification into the one before it, where that is of the same terminal. -/
def pushOutputEvent (events : List Raised) (terminal : PtyKey) (byteCount since : Nat) :
    List Raised :=
  match events.getLast? with
  | some ⟨.output previous count, earlier⟩ =>
    if previous = terminal then
      events.dropLast ++ [⟨.output terminal (count + byteCount), earlier⟩]
    else events ++ [⟨.output terminal byteCount, since⟩]
  | _ => events ++ [⟨.output terminal byteCount, since⟩]

def markAttachmentUnreconciled (pane : PaneId) (events : List Raised) (message : String) :
    ClientProgram H (List Raised) := do
  match ← view fun runtime => runtime.keyForPane pane with
  | none => pure events
  | some terminal => do
    change fun runtime => runtime.editPane terminal PtyPane.unreconciled
    let event ← raised (.error terminal message)
    pure (events ++ [event])

def handlePtyOutput (pane : PaneId) (lease : AttachmentLease) (sequence : OutputSequence)
    (bytes : Bytes) (events : List Raised) : ClientProgram H (List Raised) := do
  if (← view fun runtime => runtime.leaseOf pane) ≠ some lease then pure events
  else
    match ← view fun runtime => runtime.keyForPane pane with
    | none => pure events
    | some terminal =>
      match ← view fun runtime => (runtime.panes terminal).expectedOutput with
      | none => do
        -- Output is placed by its position, which only a replay makes known.
        let event ← raised (.error terminal "live PTY output arrived before replay completion")
        pure (events ++ [event])
      | some expected =>
        if sequence ≠ expected then
          markAttachmentUnreconciled pane events
            ("PTY output sequence gap: expected " ++ toString expected.get ++ ", received " ++
              toString sequence.get ++ "; a fresh attach replay is required")
        else
          match sequence.checkedAddBytes bytes.length with
          | none =>
            markAttachmentUnreconciled pane events
              "PTY output sequence overflow; a fresh attach replay is required"
          | some next => do
            let response ← view fun runtime =>
              around.responses (runtime.panes terminal).screen bytes
            change fun runtime => runtime.acceptOutput terminal next bytes
            -- What the bytes ask the terminal for depends on the screen they come to.
            respond ensureConnected terminal (if bytes = [] then [] else response)
            let since ← .read fun world => world.trace.length
            pure (pushOutputEvent events terminal bytes.length since)

def debugLeaseOperation : LeaseOperation → String
  | .input => "Input"
  | .paste => "Paste"
  | .resize => "Resize"
  | .detach => "Detach"

def handlePaneExited (pane : PaneId) (lease : AttachmentLease) (exit : ExitInfo)
    (events : List Raised) : ClientProgram H (List Raised) := do
  if (← view fun runtime => runtime.leaseOf pane) ≠ some lease then pure events
  else
    match ← clearAttachment pane with
    | none => pure events
    | some terminal => do
      let status : PtyExit := ⟨exit.code, exit.signal⟩
      change fun runtime => runtime.editPane terminal fun entry =>
        { entry with exitStatus := some status }
      let event ← raised (.exited terminal status)
      pure (events ++ [event])

def handleLeaseRejected (pane : PaneId) (lease : AttachmentLease) (operation : LeaseOperation)
    (reason : LeaseRejectionReason) (events : List Raised) : ClientProgram H (List Raised) := do
  if (← view fun runtime => runtime.leaseOf pane) ≠ some lease then pure events
  else do
    -- A refused write does not mean that the lease is gone: the pane is still the client's.
    let terminal ←
      if reason = .writeRefused then view fun runtime => runtime.keyForPane pane
      else clearAttachment pane
    let event ← raised (.error (terminal.getD (keyForPaneId pane))
      (debugLeaseOperation operation ++ " rejected for pane " ++ toString pane.raw ++ ": " ++
        reason.code.description))
    pure (events ++ [event])

/-- What is done with a message that no waiting request takes; the events it raises. -/
def handleServerMessage (message : ServerMessage) (events : List Raised) :
    ClientProgram H (List Raised) :=
  match message with
  | .hello .. | .sessions .. => pure events
  | .createResult .. | .attachResult .. | .replayBegin .. | .replayChunk .. | .replayEnd ..
  | .stopResult .. | .agentStatusResult .. => do
    defer message
    pure events
  -- The process in the foreground is what the sidebar names the pane by, and no more.
  | .foregroundProcess .. => pure events
  | .ptyOutput pane lease sequence bytes =>
    handlePtyOutput around ensureConnected pane lease sequence bytes events
  | .paneExited pane lease exit => handlePaneExited pane lease exit events
  | .takenOver pane lease => do
    if (← view fun runtime => runtime.leaseOf pane) ≠ some lease then pure events
    else
      match ← clearAttachment pane with
      | none => pure events
      | some terminal => do
        let event ← raised (.takenOver terminal)
        pure (events ++ [event])
  | .leaseRejected pane lease operation reason =>
    handleLeaseRejected pane lease operation reason events
  | .error code text => do
    let event ← raised (.connectionError (code.description ++ ": " ++ text))
    pure (events ++ [event])

def routeDuringRequest (message : ServerMessage) : ClientProgram H Unit := do
  let events ← handleServerMessage around ensureConnected message []
  pushEvents events

/-! ## Correlated requests -/

def writeIdempotentRequest (message : ClientMessage) : ClientProgram H Unit := do
  ensureConnected
  match ← (write message false).attempt with
  | .ok () => pure ()
  | .error error => if error.isDisconnected then resumeAndResend message else .fail error

def attachAckTimeout : Nat := 2000

/-- How far an attach transaction has come. -/
structure AttachProgress where
  acceptedLease : Option AttachmentLease
  replayNext : Option OutputSequence
  replayWatermark : Option OutputSequence
  replayBytes : Bytes
  replayOmitted : Nat
  deriving DecidableEq, Repr

def AttachProgress.initial : AttachProgress := ⟨none, none, none, [], 0⟩

def debugIdentityMismatch : IdentityMismatch → String
  | .stateNamespace => "StateNamespace"
  | .sessionToken => "SessionToken"

def attachError (error : AttachError) : PtyError :=
  .rejected error.code <| match error with
    | .sessionNotFound session => "server session " ++ toString session.raw ++ " is unavailable"
    | .identityMismatch session mismatch => "server session " ++ toString session.raw ++
        " identity mismatch: " ++ debugIdentityMismatch mismatch
    | .superseded => "attachment request was superseded by a takeover"
    | .requestCollision => "attach request ID collision"
    | .retryExpired => "attach request retry expired"
    | .failed _ message => message

/-- What a message means to an attach transaction. -/
inductive AttachVerdict where
  | refuse (error : PtyError)
  | accept (progress : AttachProgress) (size : PtyDimensions)
  | proceed (progress : AttachProgress)
  | complete (lease : AttachmentLease) (watermark : OutputSequence)
  /-- The message is none of the transaction's. -/
  | other

namespace AttachProgress

variable (progress : AttachProgress) (session : SessionId) (paneId : PaneId)

def judgeOutcome : AttachOutcome → AttachVerdict
  | .attached attached pane lease =>
    if attached = session ∧ pane.id = paneId then
      if progress.acceptedLease.isSome then .refuse (.protocolOrder "duplicate attach acceptance")
      else .accept { progress with acceptedLease := some lease } ⟨pane.rows, pane.cols⟩
    else .refuse (.protocolOrder "attach result identifies the wrong pane")
  | .error error => .refuse (attachError error)

def judgeBegin (pane : PaneId) (lease : AttachmentLease)
    (firstSequence watermark : OutputSequence) (omittedPrefixBytes : Nat) : AttachVerdict :=
  if pane ≠ paneId ∨ progress.acceptedLease ≠ some lease ∨ progress.replayNext.isSome then
    .refuse (.protocolOrder "replay began before matching attach acceptance")
  else if watermark.get < firstSequence.get ∨ omittedPrefixBytes ≠ firstSequence.get then
    .refuse (.protocolOrder "invalid replay watermark or truncation boundary")
  else .proceed { progress with
    replayNext := some firstSequence
    replayWatermark := some watermark
    replayOmitted := omittedPrefixBytes }

def judgeChunk (pane : PaneId) (lease : AttachmentLease) (sequence : OutputSequence)
    (bytes : Bytes) : AttachVerdict :=
  match progress.replayNext with
  | none => .refuse (.protocolOrder "replay chunk arrived before replay begin")
  | some expected =>
    if pane ≠ paneId ∨ progress.acceptedLease ≠ some lease ∨ sequence ≠ expected then
      .refuse (.protocolOrder "replay output has a gap, duplicate, or wrong lease")
    else
      match sequence.checkedAddBytes bytes.length with
      | none => .refuse (.protocolOrder "replay sequence overflow")
      | some next =>
        if progress.replayWatermark.any fun watermark => watermark.get < next.get then
          .refuse (.protocolOrder "replay chunk exceeds its watermark")
        else .proceed { progress with
          replayBytes := progress.replayBytes ++ bytes
          replayNext := some next }

def judgeEnd (pane : PaneId) (lease : AttachmentLease) (watermark : OutputSequence) :
    AttachVerdict :=
  if pane ≠ paneId ∨ progress.acceptedLease ≠ some lease ∨
      progress.replayWatermark ≠ some watermark ∨ progress.replayNext ≠ some watermark then
    .refuse (.protocolOrder "replay ended with a gap or mismatched watermark")
  else .complete lease watermark

def judge (requestId : RequestId) (message : ServerMessage) : AttachVerdict :=
  match message with
  | .attachResult received outcome =>
    if received = requestId then progress.judgeOutcome session paneId outcome else .other
  | .replayBegin received pane lease firstSequence watermark omittedPrefixBytes =>
    if received = requestId then
      progress.judgeBegin paneId pane lease firstSequence watermark omittedPrefixBytes
    else .other
  | .replayChunk received pane lease sequence bytes =>
    if received = requestId then progress.judgeChunk paneId pane lease sequence bytes else .other
  | .replayEnd received pane lease watermark =>
    if received = requestId then progress.judgeEnd paneId pane lease watermark else .other
  -- Output of a lease just granted belongs behind the replay, which is still to come.
  | .ptyOutput pane lease _ _ =>
    if pane = paneId ∧ progress.acceptedLease = some lease then
      .refuse (.protocolOrder "live output arrived before replay end")
    else .other
  | .error code text => .refuse (.rejected code text)
  | _ => .other

end AttachProgress

def commitReplay (terminal : PtyKey) (progress : AttachProgress) (lease : AttachmentLease)
    (watermark : OutputSequence) : ClientProgram H Unit := do
  act (.granted terminal lease) fun runtime =>
    runtime.commitReplay terminal progress.replayBytes lease watermark
  pushEvent (.scrollback terminal progress.replayBytes.length)
  if 0 < progress.replayOmitted then pushEvent (.replayTruncated terminal progress.replayOmitted)
  else pure ()

def attachLoop (terminal : PtyKey) (session : SessionId) (size : PtyDimensions)
    (requestId : RequestId) (request : ClientMessage) :
    Nat → Nat → AttachProgress → ClientProgram H Unit
  | 0, _, _ => .wait
  | fuel + 1, deadline, progress => do
    match ← (receiveForRequest fuel requestId deadline).attempt with
    | .error error =>
      if error.isDisconnected then do
        resumeAndResend request
        act (.restarted terminal) fun runtime => runtime.restartAttach terminal size
        attachLoop terminal session size requestId request fuel deadline .initial
      else .fail error
    | .ok message => do
      -- Silence is bounded, not the transaction: every message is progress.
      let time ← now
      let deadline := time + attachAckTimeout
      match progress.judge session (paneForKey terminal) requestId message with
      | .refuse error => .fail error
      | .accept progress size' => do
        change fun runtime => runtime.resizeParser terminal size'
        attachLoop terminal session size requestId request fuel deadline progress
      | .proceed progress =>
        attachLoop terminal session size requestId request fuel deadline progress
      | .complete lease watermark => commitReplay terminal progress lease watermark
      | .other => do
        routeDuringRequest around ensureConnected message
        attachLoop terminal session size requestId request fuel deadline progress

def transaction (terminal : PtyKey) (program : ClientProgram H Unit) : ClientProgram H Unit := do
  let outer ← .read World.attaching
  .update fun world => { world with
    attaching := terminal :: world.attaching
    trace := world.entry (.attachBegan terminal) :: world.trace }
  let result ← program.attempt
  .update fun world => { world with
    attaching := outer
    trace := world.entry (.attachEnded terminal) :: world.trace }
  match result with
  | .ok () => pure ()
  | .error error => .fail error

def performAttach (fuel : Nat) (terminal : PtyKey) (session : SessionId) (size : PtyDimensions)
    (requestId : RequestId) (request : ClientMessage) : ClientProgram H Unit :=
  transaction terminal do
    -- This attach is authoritative, so a queued one would only repeat the round trip.
    change fun runtime => { runtime with
      pendingReattach := runtime.pendingReattach.filter (· ≠ terminal) }
    writeIdempotentRequest ensureConnected request
    let time ← now
    attachLoop around ensureConnected terminal session size requestId request fuel
      (time + attachAckTimeout) .initial

def reattachFrameBudget : Nat := 100

/-- Re-attaches one terminal; false where the attempt should be made again later. -/
def reattachTerminal (fuel : Nat) (terminal : PtyKey) : ClientProgram H Bool := do
  let size ← view fun runtime => runtime.parserDimensions terminal
  resetParser terminal size
  match ← view fun runtime => (runtime.panes terminal).identity with
  -- Without a durable identity the attach can never succeed.
  | none => pure true
  | some identity =>
    match ← (allocateRequest : ClientProgram H RequestId).attempt with
    | .error _ => pure false
    | .ok requestId => do
      let session := sessionForKey terminal
      let result ← (performAttach around ensureConnected fuel terminal session size requestId
        (.attach requestId identity session size.rows size.cols)).attempt
      finishRequest requestId
      match result with
      | .ok () => pure true
      | .error error =>
        -- The session is gone for good; anything else is tried again.
        if error.code = some .unknownSession then do
          let _ ← clearAttachment (paneForKey terminal)
          let status : PtyExit := ⟨1, some "server session unavailable"⟩
          change fun runtime => runtime.editPane terminal fun entry =>
            { entry with exitStatus := some status }
          pushEvent (.exited terminal status)
          pure true
        else do
          reportDisconnect error.display
          pure false

/-- The next queued terminal, taken off the queue. -/
def popReattach : ClientProgram H (Option PtyKey) := .perform fun world =>
  match world.runtime.pendingReattach with
  | [] => (none, world)
  | terminal :: rest =>
    (some terminal, { world with runtime := { world.runtime with pendingReattach := rest } })

def reattachLoop (fuel started : Nat) : Nat → ClientProgram H Unit
  | 0 => .wait
  | turns + 1 => do
    if (← view PtyRuntime.connection).isNone then pure ()
    else
      match ← popReattach with
      | none => pure ()
      | some terminal => do
        -- The queue is advisory: a terminal may have been retired, or `start` have taken it over.
        if ← view fun runtime =>
            (runtime.attachedPane terminal).isNone || some terminal == runtime.starting then
          reattachLoop fuel started turns
        else if ← reattachTerminal around ensureConnected fuel terminal then do
          change PtyRuntime.resetRetryBackoff
          let time ← now
          if reattachFrameBudget ≤ time - started then pure ()
          else reattachLoop fuel started turns
        else do
          change fun runtime => { runtime with
            pendingReattach := runtime.pendingReattach ++ [terminal] }
          advanceRetryBackoff

/-- Whether a background attempt has to wait for the backoff to expire. -/
def backingOff : ClientProgram H Bool := do
  match ← view PtyRuntime.retryNotBefore with
  | none => pure false
  | some notBefore => do
    let time ← now
    pure (decide (time < notBefore))

def serviceReattachments (fuel : Nat) : ClientProgram H Unit := do
  -- A request under way owns the messages.
  if ← view fun runtime => runtime.connection.isNone || !runtime.pendingRequests.isEmpty then
    pure ()
  else if ← backingOff then pure ()
  else do
    let started ← now
    reattachLoop around ensureConnected fuel started fuel

end Connected

/-- Makes sure of a connection for a caller that is about to send; never waits for one. -/
def ensureConnected (around : Surroundings) : Nat → ClientProgram H Unit
  | 0 => .wait
  | fuel + 1 => do
    pollConnector
    if (← view PtyRuntime.connection).isNone then do
      startConnector
      .fail (.offline "not connected to mult-server; a connection attempt is in progress")
    else serviceReattachments around (ensureConnected around fuel) fuel

end Mult.Client
