import Mult.Client.Requests

/-! What the rest of the client asks of its panes. -/

set_option autoImplicit false

namespace Mult.Client
open Foundation Protocol
open Project (PtyKey ChatId TerminalId)

structure PtySpawn where
  terminal : PtyKey
  args : List String
  cwd : Option String
  /-- The pane's variables, over those of the client's own session. -/
  env : List (String × String)
  size : PtyDimensions
  deriving DecidableEq, Repr

inductive AttachExistingResult where
  | attached | missing
  deriving DecidableEq, Repr

def launchSpec (spawn : PtySpawn) : LaunchSpec :=
  (spawn.args.getLast?.map LaunchSpec.command).getD .shell

def sessionName (spawn : PtySpawn) : LaunchSpec → String
  | .shell => "shell " ++ toString (wireId spawn.terminal)
  | .command command => command

def stopAckTimeout : Nat := 5000

def createError (around : Surroundings) (error : CreateError) : PtyError :=
  .rejected error.code <| match error with
    | .sessionAlreadyExists session | .identityAlreadyExists session =>
      "session " ++ toString session.id.raw ++ " already exists"
    | .identityMismatch session mismatch => "session " ++ toString session.raw ++
        " identity mismatch: " ++ debugIdentityMismatch mismatch
    | .invalidAgentMetadata error => "agent metadata rejected: " ++ around.debugStatusError error
    | .requestCollision => "create request ID collision"
    | .retryExpired => "create request retry expired"
    | .failed _ message => message

def debugLeaseRejectionReason : LeaseRejectionReason → String
  | .paneMissing => "PaneMissing"
  | .notOwner => "NotOwner"
  | .staleLease => "StaleLease"
  | .writeRefused => "WriteRefused"

def stopError (error : StopError) : PtyError :=
  .rejected error.code <| match error with
    | .requestCollision => "stop request ID collision"
    | .retryExpired => "stop request retry expired"
    | .identityMismatch pane mismatch => "pane " ++ toString pane.raw ++ " identity mismatch: " ++
        debugIdentityMismatch mismatch
    | .leaseRejected reason => "stop lease rejected: " ++ debugLeaseRejectionReason reason
    | .failed _ message => message

def agentStatusError (around : Surroundings) (error : AgentStatusError) : PtyError :=
  .rejected error.code ("agent status rejected: " ++ around.debugStatusError error)

variable {H : Type} (around : Surroundings) (fuel : Nat)

/-- Binds a durable identity to its key; an identity once bound is not replaced. -/
def registerSessionIdentity (terminal : PtyKey) (identity : SessionIdentity) :
    ClientProgram H Unit := do
  match ← view fun runtime => (runtime.panes terminal).identity with
  | none => change fun runtime => runtime.editPane terminal fun entry =>
      { entry with identity := some identity }
  | some current =>
    if current ≠ identity then
      .fail (.invalid "cannot replace an immutable PTY session identity")
    else change fun runtime => runtime.editPane terminal fun entry =>
      { entry with identity := some identity }

def isChatAgent : PtyKey → Bool
  | .chatAgent _ => true
  | .terminal _ => false

def registerAgentSession (terminal : PtyKey) (metadata : AgentSessionMetadata) :
    ClientProgram H Unit := do
  let running ← view fun runtime => runtime.isRunning terminal
  let entry ← view fun runtime => runtime.panes terminal
  if !isChatAgent terminal then
    .fail (.invalid "agent metadata may only be registered for a chat PTY")
  else if entry.identity.isNone then
    .fail (.invalid "register the durable session identity before agent metadata")
  else if running && entry.agent.any (· ≠ metadata) then
    .fail (.invalid "cannot replace agent generation while its PTY is running")
  else change fun runtime => runtime.editPane terminal fun entry =>
    { entry with agent := some metadata }

def sanitizeSystemLine (message : String) : String :=
  message.map fun ch => if Text.isControl ch then Char.ofNat 0xFFFD else ch

/-- Puts a line of the client's own on the screen. -/
def appendTerminalSystemLine (terminal : PtyKey) (message : String) : ClientProgram H Unit :=
  act (.systemLine terminal) fun runtime => runtime.editPane terminal fun entry =>
    entry.feed ("[mult] " ++ sanitizeSystemLine message ++ "\r\n").toUTF8.toList

def removeTerminal (terminal : PtyKey) : ClientProgram H Unit :=
  change fun runtime => runtime.removeTerminal terminal

def terminalScrollbackLines : Nat := 5000

def scrollParser (terminal : PtyKey) (up : Bool) (rows : Nat) : ClientProgram H Bool := do
  match ← view fun runtime => runtime.parser terminal with
  | none => pure false
  | some parser =>
    if rows = 0 then pure false
    else do
      let old := around.scrollback parser
      let next := if up then old + rows else old - rows
      let moved :=
        (parser.apply (.scroll (min next terminalScrollbackLines))).apply .clampScrollback
      change fun runtime => runtime.editPane terminal fun entry =>
        { entry with parser := some moved }
      pure (around.scrollback moved ≠ old)

/-! ## Sessions -/

/-- Attaches to a session that must exist already: it never creates one. -/
def attachExisting (terminal : PtyKey) (size : PtyDimensions) :
    ClientProgram H AttachExistingResult := do
  let size := size.clamped
  if ← view fun runtime => runtime.isRunning terminal then pure .attached
  else do
    ensureConnected around fuel
    let identity ← identityForKey terminal
    -- Connecting may have attached it again by itself.
    if ← view fun runtime => runtime.isRunning terminal then pure .attached
    else do
      resetParser terminal size
      let pane := paneForKey terminal
      change fun runtime => runtime.bindPane terminal pane
      let requestId ← allocateRequest
      let session := sessionForKey terminal
      let result ← (performAttach around (ensureConnected around fuel) fuel terminal session size
        requestId (.attach requestId identity session size.rows size.cols)).attempt
      finishRequest requestId
      match result with
      | .ok () => pure .attached
      | .error error =>
        if error.code = some .unknownSession then do
          let _ ← clearAttachment pane
          pure .missing
        else if error.isReconciliationUncertain then .fail error
        else do
          let _ ← clearAttachment pane
          .fail error

/-- The answers to stops that have come in, as the failures to report. -/
def reapStops (time since : Nat) :
    List PendingStop → List ServerMessage →
      List Raised × List PendingStop × List ServerMessage
  | [], deferred => ([], [], deferred)
  | stop :: rest, deferred =>
    match PtyRuntime.takeDeferred stop.requestId deferred with
    | some (.stopResult _ (.error error), others) =>
      let (events, unanswered, left) := reapStops time since rest others
      (⟨.stopFailed (stop.label ++ " was deleted, but stopping it failed: " ++
        (stopError error).display), since⟩ :: events, unanswered, left)
    | some (_, others) => reapStops time since rest others
    | none =>
      let (events, unanswered, left) := reapStops time since rest deferred
      if stop.deadline ≤ time then
        (⟨.stopFailed (stop.label ++ " was deleted, but mult-server never confirmed it " ++
          "stopped; it may still be running"), since⟩ :: events, unanswered, left)
      else (events, stop :: unanswered, left)

/-- Collects the answers to submitted stops; never waits for one. -/
def reapPendingStops : ClientProgram H (List Raised) := do
  if (← view PtyRuntime.pendingStops).isEmpty then pure []
  else do
    let time ← now
    .perform fun world =>
      let runtime := world.runtime
      let (events, unanswered, left) :=
        reapStops time world.trace.length runtime.pendingStops runtime.deferredMessages
      (events, { world with
        runtime := { runtime with pendingStops := unanswered, deferredMessages := left } })

def awaitStopForSession (session : SessionId) : Nat → ClientProgram H Unit
  | 0 => .wait
  | turns + 1 => do
    let events ← reapPendingStops
    pushEvents events
    match ← view fun runtime => runtime.pendingStops.find? fun stop => stop.session = session with
    | none => pure ()
    | some stop => do
      let time ← now
      -- A stop past its deadline is reaped in the next turn.
      if stop.deadline ≤ time then awaitStopForSession session turns
      else
        match ← view PtyRuntime.connection with
        | none => pure ()
        | some _ =>
          match ← receive with
          | .message message => do
            routeDuringRequest around (ensureConnected around fuel) message
            awaitStopForSession session turns
          | .nothing => awaitStopForSession session turns
          | .closed => change PtyRuntime.disconnect

def createLoop (identity : SessionIdentity) (session : SessionId) (requestId : RequestId)
    (request : ClientMessage) (deadline : Nat) : Nat → ClientProgram H Unit
  | 0 => .wait
  | turns + 1 => do
    match ← (receiveForRequest turns requestId deadline).attempt with
    | .error error =>
      -- The same request goes out again under its id: the daemon creates the session once.
      if error.isDisconnected then do
        resumeAndResend request
        createLoop identity session requestId request deadline turns
      else .fail error
    | .ok (.createResult received outcome) =>
      if received = requestId then
        match outcome with
        | .created created =>
          if created.identity = identity ∧ session = created.id then pure ()
          else .fail (.protocolOrder "create result identifies the wrong logical session")
        | .error error => .fail (createError around error)
      else do
        routeDuringRequest around (ensureConnected around fuel) (.createResult received outcome)
        createLoop identity session requestId request deadline turns
    | .ok (.error code message) => .fail (.rejected code message)
    | .ok message => do
      routeDuringRequest around (ensureConnected around fuel) message
      createLoop identity session requestId request deadline turns

def performCreate (identity : SessionIdentity) (session : SessionId) (requestId : RequestId)
    (request : ClientMessage) : ClientProgram H Unit := do
  writeIdempotentRequest (ensureConnected around fuel) request
  let time ← now
  createLoop around fuel identity session requestId request (time + attachAckTimeout) fuel

/-- Ends a request whose failure, unless uncertain, ends the attachment too. -/
def settle {A : Type} (pane : PaneId) (requestId : RequestId) (program : ClientProgram H A) :
    ClientProgram H A := do
  let result ← program.attempt
  finishRequest requestId
  match result with
  | .ok value => pure value
  | .error error =>
    if error.isReconciliationUncertain then .fail error
    else do
      let _ ← clearAttachment pane
      .fail error

def startAttached (spawn : PtySpawn) : ClientProgram H Unit := do
  ensureConnected around fuel
  resetParser spawn.terminal spawn.size
  let agent ← view fun runtime => (runtime.panes spawn.terminal).agent
  let identity ← identityForKey spawn.terminal
  let session := sessionForKey spawn.terminal
  let pane := paneForKey spawn.terminal
  let launch := launchSpec spawn
  awaitStopForSession around fuel session fuel
  change fun runtime => runtime.bindPane spawn.terminal pane
  let createId ← allocateRequest
  settle pane createId (performCreate around fuel identity session createId
    (.createSession createId identity (some session) agent (sessionName spawn launch) spawn.cwd
      spawn.env launch spawn.size.rows spawn.size.cols))
  let attachId ← allocateRequest
  settle pane attachId (performAttach around (ensureConnected around fuel) fuel spawn.terminal
    session spawn.size attachId
    (.attach attachId identity session spawn.size.rows spawn.size.cols))

def setStarting (terminal : Option PtyKey) : ClientProgram H Unit :=
  change fun runtime => { runtime with starting := terminal }

def launch (spawn : PtySpawn) : ClientProgram H Unit := do
  setStarting (some spawn.terminal)
  let result ← (startAttached around fuel spawn).attempt
  setStarting none
  match result with
  | .ok () => pure ()
  | .error error => .fail error

def start (spawn : PtySpawn) : ClientProgram H Unit := do
  let spawn := { spawn with size := spawn.size.clamped }
  if ← view fun runtime => runtime.isRunning spawn.terminal then
    .fail (.invalid "terminal already has a server attachment")
  else if (← view fun runtime => runtime.attachedPane spawn.terminal).isSome then
    match ← attachExisting around fuel spawn.terminal spawn.size with
    | .attached => pure ()
    | .missing => launch around fuel spawn
  else launch around fuel spawn

def maxPaneTitleChars : Nat := 128

def sanitizePaneTitle (title : String) : String :=
  Text.trim (String.ofList
    ((title.toList.filter fun ch => !Text.isControl ch).take maxPaneTitleChars))

def terminalTitle (runtime : PtyRuntime) (terminal : PtyKey) : Option String :=
  (runtime.parser terminal).bind fun parser =>
    let title := sanitizePaneTitle (around.title parser)
    if title = "" then none else some title

/-- How a failed stop names the item it belonged to. -/
def stopLabel (runtime : PtyRuntime) (terminal : PtyKey) : String :=
  let kind := match terminal with
    | .chatAgent _ => "agent"
    | .terminal _ => "terminal"
  match terminalTitle around runtime terminal with
  | some title => kind ++ " \"" ++ title ++ "\""
  | none => "the deleted " ++ kind

def stopAsync (terminal : PtyKey) : ClientProgram H Bool := do
  match ← view fun runtime => runtime.attachedPane terminal with
  | none => pure false
  | some pane => do
    ensureConnected around fuel
    let lease ← leaseForPane pane
    note (.stopping terminal)
    let identity ← identityForKey terminal
    let requestId ← allocateStopRequest
    let label ← view fun runtime => stopLabel around runtime terminal
    writeIdempotentRequest (ensureConnected around fuel) (.stop requestId identity pane lease)
    let _ ← clearAttachment pane
    change fun runtime => runtime.editPane terminal fun entry => { entry with exitStatus := none }
    let time ← now
    change fun runtime => { runtime with
      pendingStops := runtime.pendingStops ++
        [⟨requestId, sessionForKey terminal, label, time + stopAckTimeout⟩] }
    pure true

def agentStatusLoop (requestId : RequestId) (request : ClientMessage) (deadline : Nat) :
    Nat → ClientProgram H AgentStatusOutcome
  | 0 => .wait
  | turns + 1 => do
    match ← (receiveForRequest turns requestId deadline).attempt with
    | .error error =>
      if error.isDisconnected then do
        resumeAndResend request
        agentStatusLoop requestId request deadline turns
      else .fail error
    | .ok (.agentStatusResult received outcome) =>
      if received = requestId then pure outcome
      else do
        routeDuringRequest around (ensureConnected around fuel)
          (.agentStatusResult received outcome)
        agentStatusLoop requestId request deadline turns
    | .ok (.error code message) => .fail (.rejected code message)
    | .ok message => do
      routeDuringRequest around (ensureConnected around fuel) message
      agentStatusLoop requestId request deadline turns

def performAgentStatus (requestId : RequestId) (request : ClientMessage) :
    ClientProgram H AgentStatusOutcome := do
  writeIdempotentRequest (ensureConnected around fuel) request
  let time ← now
  agentStatusLoop around fuel requestId request (time + attachAckTimeout) fuel

def statusRequest (request : RequestId → ClientMessage) : ClientProgram H AgentStatusOutcome := do
  let requestId ← allocateRequest
  let outcome ← (performAgentStatus around fuel requestId (request requestId)).attempt
  finishRequest requestId
  match outcome with
  | .ok outcome => pure outcome
  | .error error => .fail error

def updateAgentStatus (record : AgentStatusRecord) : ClientProgram H AgentStatusRecord := do
  match ← statusRequest around fuel (.updateAgentStatus · record) with
  | .updated record => pure record
  | .error error => .fail (agentStatusError around error)
  | .current _ => .fail (.protocolOrder "status update received a query response")

def getAgentStatus (query : AgentStatusQuery) : ClientProgram H (Option AgentStatusRecord) := do
  match ← statusRequest around fuel (.getAgentStatus · query) with
  | .current record => pure record
  | .error error => .fail (agentStatusError around error)
  | .updated _ => .fail (.protocolOrder "status query received an update response")

def sendInput (terminal : PtyKey) (input : Bytes) : ClientProgram H Bool := do
  match ← view fun runtime => runtime.attachedPane terminal with
  | none => pure false
  | some pane => do
    sendInputInner (ensureConnected around fuel) terminal pane input .user
    pure true

def sendPaste (terminal : PtyKey) (pasteBytes : Bool → Bytes) : ClientProgram H Bool := do
  match ← view fun runtime => runtime.attachedPane terminal with
  | none => pure false
  | some pane => do
    let bracketed ← view fun runtime => (runtime.parser terminal).any around.bracketedPaste
    let bytes := pasteBytes bracketed
    if bytes = [] then pure ()
    else change fun runtime => runtime.endScrollback terminal
    ensureConnected around fuel
    let lease ← leaseForPane pane
    writeNonReplayable (.paste pane lease bytes) .paste pane
    pure true

/-- Delivers bytes made on the program's behalf; a failure is reported in the pane. -/
def sendSynthetic (terminal : PtyKey) (bytes : Bytes) : ClientProgram H Bool := do
  match ← view fun runtime => runtime.attachedPane terminal with
  | none => pure false
  | some pane =>
    match ← (sendInputInner (ensureConnected around fuel) terminal pane bytes
      .synthetic).attempt with
    | .ok () => pure true
    | .error error => do
      pushEvent (.error terminal error.display)
      pure false

def forwardMouse (terminal : PtyKey) (report : Parser → Option Bytes) : ClientProgram H Bool := do
  match ← view fun runtime => (runtime.parser terminal).bind report with
  | none => pure false
  | some bytes => sendSynthetic around fuel terminal bytes

/-- Wheel notches as cursor keys, where the modes of the screen ask for them. -/
def forwardAlternateScroll (terminal : PtyKey) (keys : Parser → Option Bytes) :
    ClientProgram H Bool := do
  if ← view fun runtime => runtime.isRunning terminal then
    match ← view fun runtime => (runtime.parser terminal).bind keys with
    | none => pure false
    | some bytes => do
      let _ ← sendSynthetic around fuel terminal bytes
      pure true
  else pure false

def focusInReport : Bytes := [0x1b, 0x5b, 0x49]
def focusOutReport : Bytes := [0x1b, 0x5b, 0x4f]

def sendFocus (terminal : PtyKey) (gained : Bool) : ClientProgram H Bool := do
  if ← view fun runtime => (runtime.parser terminal).any around.reportsFocus then
    sendSynthetic around fuel terminal (if gained then focusInReport else focusOutReport)
  else pure false

/-- Tells the panes on either side of a move of the keyboard about it. -/
def setFocusedPane (terminal : Option PtyKey) : ClientProgram H Unit := do
  let before ← view PtyRuntime.focusedPane
  if before = terminal then pure ()
  else do
    match before with
    | none => pure ()
    | some previous => do
      change fun runtime => { runtime with focusedPane := none }
      let _ ← sendFocus around fuel previous false
      pure ()
    change fun runtime => { runtime with focusedPane := terminal }
    match terminal with
    | none => pure ()
    | some terminal => do
      let _ ← sendFocus around fuel terminal true
      pure ()

def resize (terminal : PtyKey) (size : PtyDimensions) : ClientProgram H Unit := do
  let size := size.clamped
  change fun runtime => runtime.resizeParser terminal size
  match ← view fun runtime => runtime.attachedPane terminal with
  | none => pure ()
  | some pane => do
    ensureConnected around fuel
    let lease ← leaseForPane pane
    match ← (writeNonReplayable (.resize pane lease size.rows size.cols) .resize pane
      : ClientProgram H Unit).attempt with
    | .ok () => pure ()
    | .error error => do
      pushEvent (.error terminal error.display)
      .fail error

def maxServerMessagesPerDrain : Nat := 128
def maxServerOutputBytesPerDrain : Nat := 256 * 1024

def serverMessageOutputBytes : ServerMessage → Nat
  | .ptyOutput _ _ _ bytes | .replayChunk _ _ _ _ bytes => bytes.length
  | _ => 0

def drainLoop (messages outputBytes : Nat) (events : List Raised) :
    Nat → ClientProgram H (List Raised)
  | 0 => .wait
  | turns + 1 => do
    match ← view PtyRuntime.connection with
    | none => pure events
    | some _ =>
      if maxServerMessagesPerDrain ≤ messages ∨
          maxServerOutputBytesPerDrain ≤ outputBytes then do
        change fun runtime => { runtime with workRemaining := true }
        pure events
      else
        match ← receive with
        | .message message => do
          let events ← handleServerMessage around (ensureConnected around fuel) message events
          drainLoop (messages + 1) (outputBytes + serverMessageOutputBytes message) events turns
        | .nothing => pure events
        | .closed => do
          change PtyRuntime.disconnect
          pure events

/-- Starts a background reconnect once the backoff has expired, if there is a pane to reconcile. -/
def retryConnectionIfDue : ClientProgram H Unit := do
  if ← view fun runtime => runtime.connection.isSome || runtime.pendingConnect.isSome ||
      !runtime.keys.any fun terminal => (runtime.panes terminal).attachment.isSome then pure ()
  else if ← backingOff then pure ()
  else startConnector

/-- Every event queued so far. -/
def takePendingEvents : ClientProgram H (List Raised) := .perform fun world =>
  (world.runtime.pendingEvents,
    { world with runtime := { world.runtime with pendingEvents := [] } })

def drainEvents : ClientProgram H (List Raised) := do
  let events ← takePendingEvents
  change fun runtime => { runtime with workRemaining := false }
  pollConnector
  let wasConnected ← view fun runtime => runtime.connection.isSome
  let events ← drainLoop around fuel 0 0 events fuel
  if wasConnected && (← view fun runtime => runtime.connection.isNone) then do
    startConnector
    reportDisconnect "a background reconnect is in progress"
  else pure ()
  let failed ← reapPendingStops
  serviceReattachments around (ensureConnected around fuel) fuel
  retryConnectionIfDue
  let later ← takePendingEvents
  pure (events ++ failed ++ later)

/-- Connects for the first time; a failure is only reported. -/
def connectToSocket : ClientProgram H Unit := do
  match ← (connectInner : ClientProgram H Bool).attempt with
  | .ok _ => pure ()
  | .error error =>
    pushEvent (.connectionError ("failed to connect to mult-server: " ++ error.display))

def detachAll : List PtyKey → ClientProgram H Unit
  | [] => pure ()
  | terminal :: rest => do
    let entry ← view fun runtime => runtime.panes terminal
    match entry.attachment, entry.lease with
    | some pane, some lease => do
      let _ ← (write (.detach pane lease) false : ClientProgram H Unit).attempt
      detachAll rest
    | _, _ => detachAll rest

/-- Gives every attachment back, and the connection. -/
def drop : ClientProgram H Unit := do
  if (← view PtyRuntime.connection).isSome then do
    let order ← iterationOrder
    detachAll order
  else pure ()
  change PtyRuntime.disconnect

end Mult.Client
