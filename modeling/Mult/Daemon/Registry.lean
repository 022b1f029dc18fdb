import Mult.Daemon.Pane

/-! The state behind the server lock: live and reserved sessions, agent records,
request scopes and the counters.
-/

set_option autoImplicit false

namespace Mult.Daemon
open Foundation Protocol
open Std (TreeMap TreeSet)

/-- A daemon-side failure on its way to a client; the text is only shown. -/
structure Rejection where
  code : RejectCode
  message : String
  deriving DecidableEq, Repr

namespace Rejection

def intoCreateError (rejection : Rejection) : CreateError := .failed rejection.code rejection.message
def intoAttachError (rejection : Rejection) : AttachError := .failed rejection.code rejection.message

end Rejection

def shutdownErrorMessage : String := "mult-server is shutting down"

/-- Which pane a shared handle points to. -/
abbrev PaneRef := Nat

structure DaemonAgentState where
  metadata : AgentSessionMetadata
  status : Option AgentStatusRecord
  deriving DecidableEq, Repr

structure ServerState where
  sessions : TreeMap SessionId PaneRef
  sessionByIdentity : TreeMap SessionIdentity SessionId
  reservedSessions : TreeSet SessionId
  reservedIdentities : TreeSet SessionIdentity
  agentStates : TreeMap SessionIdentity DaemonAgentState
  nextSessionId : Nat
  nextClientId : ClientId
  nextLease : Option AttachmentLease
  serverInstance : ServerInstanceId
  requestScopes : TreeMap ClientScopeId RequestScopeState
  shuttingDown : Bool

namespace ServerState

def new (serverInstance : ServerInstanceId) : ServerState where
  sessions := ∅
  sessionByIdentity := ∅
  reservedSessions := ∅
  reservedIdentities := ∅
  agentStates := ∅
  nextSessionId := 1
  nextClientId := 1
  nextLease := some .min
  serverInstance := serverInstance
  requestScopes := ∅
  shuttingDown := false

def allocateClientId (state : ServerState) : Option (ClientId × ServerState) :=
  if state.nextClientId + 1 < u64Bound then
    some (state.nextClientId, { state with nextClientId := state.nextClientId + 1 })
  else none

/-- The first vacant one of sixteen random candidates. -/
def allocateScope (state : ServerState) (candidates : List ClientScopeId) :
    Option (ClientScopeId × ServerState) :=
  ((candidates.take 16).find? fun scope => !state.requestScopes.contains scope).map fun scope =>
    (scope, { state with requestScopes := state.requestScopes.insert scope .new })

def resumeOrAllocateScope (state : ServerState) (resume : Option ClientScopeId)
    (candidates : List ClientScopeId) : Option ((ClientScopeId × Bool) × ServerState) :=
  match resume.filter fun scope => state.requestScopes.contains scope with
  | some scope => some ((scope, true), state)
  | none =>
      (state.allocateScope candidates).map fun (scope, state) => ((scope, false), state)

def allocateLease (state : ServerState) : Except Rejection (AttachmentLease × ServerState) :=
  match state.nextLease with
  | none => .error ⟨.resourceExhausted, "attachment lease space exhausted"⟩
  | some lease => .ok (lease, { state with nextLease := lease.checkedNext })

/-- The first free number from the counter on, with the counter it leaves. -/
def freeSessionId (state : ServerState) (next : Nat) : Except Rejection SessionId × Nat :=
  if next + 1 < u64Bound then
    if state.sessions.contains ⟨next⟩ || state.reservedSessions.contains ⟨next⟩ then
      state.freeSessionId (next + 1)
    else (.ok ⟨next⟩, next + 1)
  else (.error ⟨.resourceExhausted, "session ID space exhausted"⟩, next)
  termination_by u64Bound - next

def allocateSessionId (state : ServerState) : Except Rejection SessionId × ServerState :=
  let (session, next) := state.freeSessionId state.nextSessionId
  (session, { state with nextSessionId := next })

def requestedOrAllocated (state : ServerState) (requestedId : Option SessionId) :
    Except Rejection SessionId × ServerState :=
  match requestedId with
  | some session => (.ok session, state)
  | none => state.allocateSessionId

def reserveSession (state : ServerState) (requestedId : Option SessionId)
    (identity : SessionIdentity) : Except Rejection SessionId × ServerState :=
  if state.shuttingDown then (.error ⟨.shuttingDown, shutdownErrorMessage⟩, state)
  else if state.sessionByIdentity.contains identity || state.reservedIdentities.contains identity
  then
    (.error ⟨.sessionAlreadyExists,
      "logical session identity already exists or is being created"⟩, state)
  else
    match state.requestedOrAllocated requestedId with
    | (.error rejection, state) => (.error rejection, state)
    -- The number counted up stays used, whether it is reserved or not.
    | (.ok session, state) =>
        if state.sessions.contains session || state.reservedSessions.contains session then
          (.error ⟨.sessionAlreadyExists,
            s!"session {session.raw} already exists or is being created"⟩, state)
        else
          (.ok session, { state with
            reservedSessions := state.reservedSessions.insert session
            reservedIdentities := state.reservedIdentities.insert identity })

def releaseSessionReservation (state : ServerState) (session : SessionId)
    (identity : SessionIdentity) : ServerState :=
  { state with
    reservedSessions := state.reservedSessions.erase session
    reservedIdentities := state.reservedIdentities.erase identity }

/-- The identity and agent are those of the pane behind the reference. -/
def publishReservedSession (state : ServerState) (session : SessionId) (pane : PaneRef)
    (identity : SessionIdentity) (agent : Option AgentSessionMetadata) :
    Except Rejection ServerState :=
  if state.shuttingDown then .error ⟨.shuttingDown, shutdownErrorMessage⟩
  else if state.sessions.contains session || state.sessionByIdentity.contains identity
      || !state.reservedSessions.contains session
      || !state.reservedIdentities.contains identity then
    .error ⟨.sessionAlreadyExists, "session was created concurrently"⟩
  else
    let released := state.releaseSessionReservation session identity
    .ok { released with
      sessionByIdentity := released.sessionByIdentity.insert identity session
      agentStates := match agent with
        | some metadata => released.agentStates.insert identity ⟨metadata, none⟩
        | none => released.agentStates.erase identity
      sessions := released.sessions.insert session pane }

def paneById (state : ServerState) (pane : PaneId) : Option PaneRef := state.sessions[SessionId.mk pane.raw]?

def removeSessionIfSame (state : ServerState) (session : SessionId) (pane : PaneRef) :
    ServerState :=
  if state.sessions[session]? = some pane then
    { state with
      sessions := state.sessions.erase session
      sessionByIdentity := state.sessionByIdentity.filter fun _ id => id ≠ session }
  else state

def sessionForIdentity (state : ServerState) (identity : SessionIdentity) : Option PaneRef :=
  state.sessionByIdentity[identity]?.bind fun session => state.sessions[session]?

def recordAgentExit (state : ServerState) (identity : SessionIdentity)
    (metadata : AgentSessionMetadata) (exit : ExitInfo) : ServerState :=
  match state.agentStates[identity]? with
  | none => state
  | some agent =>
      if agent.metadata ≠ metadata ∨ agent.status.any (·.status.isFinal) then state
      else { state with
        agentStates := state.agentStates.insert identity { agent with
          status := some
            { schemaVersion := metadata.schemaVersion
              identity
              chatId := metadata.chatId
              agent := metadata.agent
              generation := metadata.generation
              status := if exit.code = 0 then .exited else .failed } } }

def beginRequest (state : ServerState) (scope : ClientScopeId) (requestId : RequestId)
    (request : ClientMessage) (client : ClientId) : RequestDisposition × ServerState :=
  let requests := state.requestScopes.getD scope .new
  let (disposition, requests) := requests.begin requestId request client
  (disposition, { state with requestScopes := state.requestScopes.insert scope requests })

/-- Whether the request was begun in its scope, or one after it. -/
def seen (state : ServerState) (key : RequestKey) : Bool :=
  state.requestScopes[key.scope]?.any fun requests => requests.seen key.requestId

def completeRequest (state : ServerState) (key : RequestKey) (response : ServerMessage) :
    List ClientId × ServerState :=
  match state.requestScopes[key.scope]? with
  | none => ([], state)
  | some requests =>
      let (waiters, requests) := requests.complete key.requestId response
      (waiters, { state with requestScopes := state.requestScopes.insert key.scope requests })

def removeClient (state : ServerState) (client : ClientId) : ServerState :=
  { state with requestScopes := state.requestScopes.map fun _ scope => scope.removeClient client }

def missingAgentIdentityError (state : ServerState) (identity : SessionIdentity) (chatId : Nat) :
    AgentStatusError :=
  if state.sessionByIdentity.contains identity then .notAgentSession identity
  else if state.agentStates.toList.any fun (candidate, _) => candidate.token = identity.token then
    .identityMismatch .stateNamespace
  else if state.agentStates.toList.any fun (candidate, agent) =>
      candidate.stateNamespace = identity.stateNamespace ∧ agent.metadata.chatId = chatId then
    .identityMismatch .sessionToken
  else .sessionNotFound identity

/-- The checks an update and a query make on the recorded incarnation, in their order. -/
def checkIncarnation (metadata : AgentSessionMetadata) (chatId : Nat) (agent : AgentKind)
    (generation : AgentGeneration) : Option AgentStatusError :=
  if chatId ≠ metadata.chatId then some (.wrongChat metadata.chatId chatId)
  else if agent ≠ metadata.agent then some (.wrongAgent metadata.agent agent)
  else if generation ≠ metadata.generation then
    some (.staleGeneration metadata.generation generation)
  else none

def updateAgentStatus (state : ServerState) (record : AgentStatusRecord) :
    AgentStatusOutcome × ServerState :=
  if record.schemaVersion ≠ agentStatusSchemaVersion then
    (.error (.wrongSchema agentStatusSchemaVersion record.schemaVersion), state)
  else
    match state.agentStates[record.identity]? with
    | none => (.error (state.missingAgentIdentityError record.identity record.chatId), state)
    | some agent =>
        match checkIncarnation agent.metadata record.chatId record.agent record.generation with
        | some error => (.error error, state)
        | none =>
            match agent.status.filter (·.status.isFinal) with
            | some current =>
                -- A final status is reported again without effect, and never replaced.
                if current.status ≠ record.status then
                  (.error (.finalStatusConflict current.status record.status), state)
                else (.updated current, state)
            | none =>
                (.updated record, { state with
                  agentStates := state.agentStates.insert record.identity
                    { agent with status := some record } })

def queryAgentStatus (state : ServerState) (query : AgentStatusQuery) : AgentStatusOutcome :=
  if query.schemaVersion ≠ agentStatusSchemaVersion then
    .error (.wrongSchema agentStatusSchemaVersion query.schemaVersion)
  else
    match state.agentStates[query.identity]? with
    | none => .error (state.missingAgentIdentityError query.identity query.chatId)
    | some agent =>
        match checkIncarnation agent.metadata query.chatId query.agent query.generation with
        | some error => .error error
        | none => .current agent.status

end ServerState

end Mult.Daemon
