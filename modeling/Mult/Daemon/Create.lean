import Mult.Daemon.Machine

/-! Creating a session: look for a live one, reserve, spawn outside the lock, publish;
every failure after the reservation gives it back.
-/

set_option autoImplicit false

namespace Mult.Daemon
open Foundation Protocol

def validateAgentMetadata (metadata : AgentSessionMetadata) : Option AgentStatusError :=
  if metadata.schemaVersion ≠ agentStatusSchemaVersion then
    some (.wrongSchema agentStatusSchemaVersion metadata.schemaVersion)
  else if metadata.chatId = 0 then some (.wrongChat 1 0)
  else none

def paneTitle (shell : String) : LaunchSpec → String
  | .shell => shell
  | .command line => line

/-- What the operating system reports of a spawned child. -/
structure SpawnedChild where
  shell : String
  childPid : Nat
  processGroup : Nat
  deriving DecidableEq, Repr

def spawnPane (session : SessionId) (request : CreateRequest) (child : SpawnedChild) : Pane :=
  let (rows, cols) := boundedScreenDimensions request.rows request.cols
  { state :=
      { session
        identity := request.identity
        agent := request.agent
        pane := ⟨session.raw⟩
        name := request.name
        title := paneTitle child.shell request.launch
        rows
        cols
        rawHistory := .empty
        historyStart := .zero
        nextOutput := .zero
        writes := .withCapacity ptyWriteQueueMaxBytes
        childPid := child.childPid
        processGroup := child.processGroup
        foregroundProcess := ⟨some child.childPid, none, none⟩
        owner := none
        lifecycle := .running
        readerDone := false
        childExit := none
        lastWaitError := none
        stopDriverActive := false
        pendingStops := []
        foregroundPollScheduled := false }
    replaying := false
    reader := .unstarted
    waiter := .unstarted
    writer := .waiting
    drivers := []
    poll := none }

/-- The refusal an already live pane under the requested number calls for. -/
def numericConflict (pane : PaneState) (identity : SessionIdentity) : CreateError :=
  if pane.identity = identity then .sessionAlreadyExists pane.sessionInfo
  else .identityMismatch pane.session (identityMismatch pane.identity identity)

def createRespond (conn : Connection) (request : CreateRequest) (outcome : CreateOutcome) :
    Handler :=
  .completing conn ⟨conn.scope, request.requestId⟩ (.createResult request.requestId outcome)

namespace Server

def createNumeric (server : Server) (thread : Nat) : Stepped :=
  match server.handlers[thread]? with
  | some (.creating conn request (.numeric failure)) =>
      some (server.goto thread (.creating conn request
        (.logical failure (request.requestedId.bind fun id => server.state.sessions[id]?))), [])
  | _ => none

def createLogical (server : Server) (thread : Nat) : Stepped :=
  match server.handlers[thread]? with
  | some (.creating conn request (.logical failure numeric)) =>
      some (server.goto thread (.creating conn request
        (.resolve failure numeric (server.state.sessionForIdentity request.identity))), [])
  | _ => none

/-- The outcome the lookups call for; with nothing found, reserve or report the failure. -/
def createResolve (server : Server) (thread : Nat) : Stepped :=
  match server.handlers[thread]? with
  | some (.creating conn request (.resolve failure numeric logical)) =>
      let answer (error : CreateError) : Stepped :=
        some (server.goto thread (createRespond conn request (.error error)), [])
      match failure, request.agent.bind validateAgentMetadata with
      | none, some invalid => answer (.invalidAgentMetadata invalid)
      | _, _ =>
          match numeric, logical with
          | some ref, _ => (server.lockPane ref).bind fun pane =>
              answer (numericConflict pane.state request.identity)
          | none, some ref => (server.lockPane ref).bind fun pane =>
              answer (.identityAlreadyExists pane.state.sessionInfo)
          | none, none =>
              match failure with
              | some rejection => answer rejection.intoCreateError
              | none => some (server.goto thread (.creating conn request .reserve), [])
  | _ => none

/-- A create that lost to another one looks again before it reports the failure. -/
def afterRejection (conn : Connection) (request : CreateRequest) (rejection : Rejection) :
    Handler :=
  if rejection.code = .sessionAlreadyExists then
    .creating conn request (.numeric (some rejection))
  else createRespond conn request (.error rejection.intoCreateError)

def createReserve (server : Server) (thread : Nat) : Stepped :=
  match server.handlers[thread]? with
  | some (.creating conn request .reserve) =>
      match server.state.reserveSession request.requestedId request.identity with
      | (.ok session, state) =>
          some ((server.setState state).goto thread (.creating conn request (.spawn session)), [])
      | (.error rejection, state) =>
          some ((server.setState state).goto thread (afterRejection conn request rejection), [])
  | _ => none

/-- The spawn runs under no lock; it yields a child or the text of its failure. -/
def createSpawn (server : Server) (thread : Nat) (spawned : Except String SpawnedChild) : Stepped :=
  match server.handlers[thread]? with
  | some (.creating conn request (.spawn session)) =>
      match spawned with
      | .error message =>
          some (server.goto thread
            (.creating conn request (.release session ⟨.launchFailed, message⟩)), [])
      | .ok child =>
          let ref := server.panes.length
          let server := { server with panes := server.panes ++ [spawnPane session request child] }
          some (server.goto thread (.creating conn request (.publish session ref)),
            [.spawned ref session request.identity])
  | _ => none

def createPublish (server : Server) (thread : Nat) : Stepped :=
  match server.handlers[thread]? with
  | some (.creating conn request (.publish session ref)) =>
      (server.lockPane ref).bind fun pane =>
        match server.state.publishReservedSession session ref pane.state.identity
            pane.state.agent with
        | .error rejection =>
            some (server.goto thread (.creating conn request (.discard session ref rejection)), [])
        | .ok state =>
            some (((server.setState state).setPane ref
              { pane with reader := .reading, waiter := .waiting }).goto thread
                (.creating conn request (.report ref)), [.published ref session])
  | _ => none

/-- Retire the writer and reap the unpublished child. -/
def createDiscard (server : Server) (thread : Nat) : Stepped :=
  match server.handlers[thread]? with
  | some (.creating conn request (.discard session ref rejection)) =>
      (server.lockPane ref).bind fun pane =>
        some ((server.setPane ref { pane with
          state := { pane.state with writes := pane.state.writes.close } }).goto thread
            (.creating conn request (.release session rejection)), [])
  | _ => none

def createRelease (server : Server) (thread : Nat) : Stepped :=
  match server.handlers[thread]? with
  | some (.creating conn request (.release session rejection)) =>
      some ((server.setState
        (server.state.releaseSessionReservation session request.identity)).goto thread
          (afterRejection conn request rejection), [])
  | _ => none

def createReport (server : Server) (thread : Nat) : Stepped :=
  match server.handlers[thread]? with
  | some (.creating conn request (.report ref)) =>
      (server.lockPane ref).bind fun pane =>
        some (server.goto thread (createRespond conn request (.created pane.state.sessionInfo)), [])
  | _ => none

end Server

end Mult.Daemon
