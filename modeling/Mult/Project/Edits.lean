import Mult.Foundation.Machine
import Mult.Project.LoadRepair

/-! Editing a project: workspaces, chats and terminals come and go, and agents' generations
begin and end. Every operation shows the project as it leaves it, also where it fails.
-/

set_option autoImplicit false

namespace Mult.Project
open Foundation Protocol Storage

def Workspace.keys (workspace : Workspace) : List PtyKey :=
  workspace.chats.map (fun chat => .chatAgent chat.id) ++
    workspace.terminals.map (fun terminal => .terminal terminal.id)

def SessionIdentities.eraseAll (identities : SessionIdentities) (keys : List PtyKey) :
    SessionIdentities :=
  keys.foldl SessionIdentities.erase identities

namespace ProjectState

def allocateWorkspaceId (state : ProjectState) :
    Except IdAllocationError WorkspaceId × ProjectState :=
  match takeAvailableId (.ofList state.workspaceIds) state.nextWorkspaceId u64Max with
  | none => (.error .workspace, state)
  | some (id, next, _) => (.ok ⟨id⟩, { state with nextWorkspaceId := next })

def allocateChatId (state : ProjectState) : Except IdAllocationError ChatId × ProjectState :=
  match takeAvailableId (.ofList (state.chatNumbers.filter isValidDurableSessionId))
      state.nextChatId maxDurableSessionId with
  | none => (.error .chat, state)
  | some (id, next, _) => (.ok ⟨id⟩, { state with nextChatId := next })

def allocateTerminalId (state : ProjectState) :
    Except IdAllocationError TerminalId × ProjectState :=
  match takeAvailableId (.ofList (state.terminalNumbers.filter isValidDurableSessionId))
      state.nextTerminalId maxDurableSessionId with
  | none => (.error .terminal, state)
  | some (id, next, _) => (.ok ⟨id⟩, { state with nextTerminalId := next })

def pushWorkspace (state : ProjectState) (name : String) (cwd : Option PathBuf)
    (remote : Option RemoteTarget) : Except IdAllocationError WorkspaceId × ProjectState :=
  match state.allocateWorkspaceId with
  | (.error error, state) => (.error error, state)
  | (.ok id, state) =>
    (.ok id, { state with workspaces := state.workspaces ++ [⟨id, name, cwd, remote, ∅, [], []⟩] })

def addWorkspace (state : ProjectState) (name : String) (cwd : Option PathBuf) :
    Except IdAllocationError WorkspaceId × ProjectState :=
  state.pushWorkspace name cwd none

def addRemoteWorkspace (state : ProjectState) (name : String) (remote : RemoteTarget) :
    Except IdAllocationError WorkspaceId × ProjectState :=
  state.pushWorkspace name none (some remote)

def position (state : ProjectState) (workspaceId : WorkspaceId) : Option Nat :=
  state.workspaces.findIdx? fun workspace => workspace.id = workspaceId

def addChatWithSource (state : ProjectState) (workspaceId : WorkspaceId) (name : String)
    (status : ChatStatus) (agent : AgentKind) (source : IdentitySource) :
    Except IdAllocationError (Option ChatId) × ProjectState :=
  match state.position workspaceId with
  | none => (.ok none, state)
  | some index =>
    match state.sessionIdentities.allocateSessionToken source with
    | (.error error, _) => (.error error, state)
    | (.ok token, _) =>
      match state.allocateChatId with
      | (.error error, state) => (.error error, state)
      | (.ok id, state) =>
        (.ok (some id), { state with
          workspaces := state.workspaces.modify index fun workspace =>
            { workspace with chats := workspace.chats ++ [⟨id, name, status, agent, []⟩] }
          sessionIdentities := state.sessionIdentities.insert (.chatAgent id) token })

def addTerminalWithSource (state : ProjectState) (workspaceId : WorkspaceId) (name : String)
    (launch : TerminalLaunch) (source : IdentitySource) :
    Except IdAllocationError (Option TerminalId) × ProjectState :=
  match state.position workspaceId with
  | none => (.ok none, state)
  | some index =>
    match state.sessionIdentities.allocateSessionToken source with
    | (.error error, _) => (.error error, state)
    | (.ok token, _) =>
      match state.allocateTerminalId with
      | (.error error, state) => (.error error, state)
      | (.ok id, state) =>
        (.ok (some id), { state with
          workspaces := state.workspaces.modify index fun workspace =>
            { workspace with terminals := workspace.terminals ++ [⟨id, name, false, launch⟩] }
          sessionIdentities := state.sessionIdentities.insert (.terminal id) token })

def beginAgentGenerationWithSource (state : ProjectState) (chatId : ChatId)
    (source : IdentitySource) :
    Except IdAllocationError (Option AgentGeneration) × ProjectState :=
  if state.chats.any (fun chat => chat.id = chatId) then
    match generateIdentity source (fun candidate => state.agentGenerations.values.contains candidate)
    with
    | (.error error, _) => (.error (identityAllocationError error), state)
    | (.ok generation, _) =>
      (.ok (some generation),
        { state with agentGenerations := state.agentGenerations.insert chatId generation })
  else (.ok none, state)

/-- Runs the operation with the system's entropy, where that can be opened. -/
def withSource {A : Type} (state : ProjectState) (source : Except IoError IdentitySource)
    (operation : IdentitySource → Except IdAllocationError A × ProjectState) :
    Except IdAllocationError A × ProjectState :=
  match source with
  | .error error => (.error (identityAllocationError error), state)
  | .ok source => operation source

def addChat (state : ProjectState) (workspaceId : WorkspaceId) (name : String)
    (status : ChatStatus) (agent : AgentKind) (source : Except IoError IdentitySource) :
    Except IdAllocationError (Option ChatId) × ProjectState :=
  state.withSource source (state.addChatWithSource workspaceId name status agent)

def addTerminalWithLaunch (state : ProjectState) (workspaceId : WorkspaceId) (name : String)
    (launch : TerminalLaunch) (source : Except IoError IdentitySource) :
    Except IdAllocationError (Option TerminalId) × ProjectState :=
  state.withSource source (state.addTerminalWithSource workspaceId name launch)

def addTerminal (state : ProjectState) (workspaceId : WorkspaceId) (name : String)
    (source : Except IoError IdentitySource) :
    Except IdAllocationError (Option TerminalId) × ProjectState :=
  state.addTerminalWithLaunch workspaceId name .shell source

def addCommandTerminal (state : ProjectState) (workspaceId : WorkspaceId) (name command : String)
    (source : Except IoError IdentitySource) :
    Except IdAllocationError (Option TerminalId) × ProjectState :=
  state.addTerminalWithLaunch workspaceId name (.command command) source

def beginAgentGeneration (state : ProjectState) (chatId : ChatId)
    (source : Except IoError IdentitySource) :
    Except IdAllocationError (Option AgentGeneration) × ProjectState :=
  state.withSource source (state.beginAgentGenerationWithSource chatId)

def clearAgentGeneration (state : ProjectState) (chatId : ChatId) (generation : AgentGeneration) :
    Bool × ProjectState :=
  if state.agentGenerations[chatId]? ≠ some generation then (false, state)
  else (true, { state with agentGenerations := state.agentGenerations.erase chatId })

def removeWorkspace (state : ProjectState) (workspaceId : WorkspaceId) :
    Option Workspace × ProjectState :=
  match state.position workspaceId with
  | none => (none, state)
  | some index =>
    match state.workspaces[index]? with
    | none => (none, state)
    | some removed =>
      (some removed, { state with
        workspaces := state.workspaces.eraseIdx index
        sessionIdentities := state.sessionIdentities.eraseAll removed.keys
        agentGenerations := removed.chats.foldl
          (fun generations chat => generations.erase chat.id) state.agentGenerations })

def removeChat (state : ProjectState) (workspaceId : WorkspaceId) (chatId : ChatId) :
    Option ChatSession × ProjectState :=
  match state.position workspaceId with
  | none => (none, state)
  | some index =>
    match state.workspaces[index]?.bind fun workspace =>
        (workspace.chats.findIdx? fun chat => chat.id = chatId).bind fun place =>
          workspace.chats[place]?.map fun removed => (place, removed) with
    | none => (none, state)
    | some (place, removed) =>
      (some removed, { state with
        workspaces := state.workspaces.modify index fun workspace =>
          { workspace with chats := workspace.chats.eraseIdx place }
        sessionIdentities := state.sessionIdentities.erase (.chatAgent chatId)
        agentGenerations := state.agentGenerations.erase chatId })

def removeTerminal (state : ProjectState) (workspaceId : WorkspaceId)
    (terminalId : TerminalId) : Option TerminalSession × ProjectState :=
  match state.position workspaceId with
  | none => (none, state)
  | some index =>
    match state.workspaces[index]?.bind fun workspace =>
        (workspace.terminals.findIdx? fun terminal => terminal.id = terminalId).bind fun place =>
          workspace.terminals[place]?.map fun removed => (place, removed) with
    | none => (none, state)
    | some (place, removed) =>
      (some removed, { state with
        workspaces := state.workspaces.modify index fun workspace =>
          { workspace with terminals := workspace.terminals.eraseIdx place }
        sessionIdentities := state.sessionIdentities.erase (.terminal terminalId) })

end ProjectState

inductive Edit where
  | addWorkspace (name : String) (cwd : Option PathBuf)
  | addRemoteWorkspace (name : String) (remote : RemoteTarget)
  | addChat (workspaceId : WorkspaceId) (name : String) (status : ChatStatus) (agent : AgentKind)
      (source : Except IoError IdentitySource)
  | addTerminal (workspaceId : WorkspaceId) (name : String)
      (source : Except IoError IdentitySource)
  | addCommandTerminal (workspaceId : WorkspaceId) (name command : String)
      (source : Except IoError IdentitySource)
  | beginAgentGeneration (chatId : ChatId) (source : Except IoError IdentitySource)
  | clearAgentGeneration (chatId : ChatId) (generation : AgentGeneration)
  | removeWorkspace (workspaceId : WorkspaceId)
  | removeChat (workspaceId : WorkspaceId) (chatId : ChatId)
  | removeTerminal (workspaceId : WorkspaceId) (terminalId : TerminalId)

abbrev Outcome := Except IdAllocationError Unit

/-- The outcome of an operation without the value it returns. -/
def settle {A : Type} (result : Except IdAllocationError A × ProjectState) :
    ProjectState × List Outcome :=
  (result.2, [result.1.map fun _ => ()])

def ProjectState.edit (state : ProjectState) : Edit → ProjectState × List Outcome
  | .addWorkspace name cwd => settle (state.addWorkspace name cwd)
  | .addRemoteWorkspace name remote => settle (state.addRemoteWorkspace name remote)
  | .addChat workspaceId name status agent source =>
      settle (state.addChat workspaceId name status agent source)
  | .addTerminal workspaceId name source => settle (state.addTerminal workspaceId name source)
  | .addCommandTerminal workspaceId name command source =>
      settle (state.addCommandTerminal workspaceId name command source)
  | .beginAgentGeneration chatId source => settle (state.beginAgentGeneration chatId source)
  | .clearAgentGeneration chatId generation =>
      ((state.clearAgentGeneration chatId generation).2, [.ok ()])
  | .removeWorkspace workspaceId => ((state.removeWorkspace workspaceId).2, [.ok ()])
  | .removeChat workspaceId chatId => ((state.removeChat workspaceId chatId).2, [.ok ()])
  | .removeTerminal workspaceId terminalId =>
      ((state.removeTerminal workspaceId terminalId).2, [.ok ()])

def editing : Machine ProjectState Edit Outcome where
  start state := state.validateSessionIdentities = .ok ()
  step state edit := some (state.edit edit)

end Mult.Project
