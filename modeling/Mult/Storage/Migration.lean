import Mult.Project.LoadRepair

/-! Older state files: their shapes, the hop from each version to the next, and what a decoded
file becomes when it is loaded.
-/

set_option autoImplicit false

namespace Mult.Storage
open Foundation Protocol Project

inductive StateError where
  | locked (path : PathBuf)
  | unsupportedVersion (path : PathBuf) (version : Nat)
  | invalid (message : String)
  | corrupt (path backup : PathBuf)
  | io (error : IoError)
  deriving DecidableEq, Repr

def StateError.display : StateError → String
  | .locked path => s!"another mult process owns state path {path}"
  | .unsupportedVersion path version =>
      s!"state file version {version} is unsupported (current version is {stateVersion}); " ++
        s!"not modifying {path}"
  | .invalid message => message
  | .corrupt path backup =>
      s!"state file {path} could not be decoded; it was moved to {backup}"
  | .io error => error.text

def StateError.toIoError : StateError → IoError
  | .io error => error
  | .locked path => ⟨.wouldBlock, (StateError.locked path).display⟩
  | other => .invalidData other.display

/-- Liveness as versions 1 and 2 persisted it. -/
inductive TerminalStatusV2 where
  | stopped
  | running
  deriving DecidableEq, Repr

def TerminalStatusV2.intoRestoreIntent : TerminalStatusV2 → Bool
  | .stopped => false
  | .running => true

structure ChatV1 where
  id : ChatId
  name : String
  status : ChatStatus
  agent : Project.AgentKind
  messages : List ChatMessage
  deriving DecidableEq, Repr

structure TerminalV1 where
  id : TerminalId
  name : String
  status : TerminalStatusV2
  launch : TerminalLaunch
  deriving DecidableEq, Repr

structure WorkspaceV1 where
  id : WorkspaceId
  name : String
  cwd : Option PathBuf
  environment : BTreeMap String String
  chats : List ChatV1
  terminals : List TerminalV1
  deriving DecidableEq

structure StateV1 where
  version : Nat
  nextWorkspaceId : Nat
  nextChatId : Nat
  nextTerminalId : Nat
  workspaces : List WorkspaceV1
  deriving DecidableEq

structure TerminalV2 where
  id : TerminalId
  name : String
  status : TerminalStatusV2
  launch : TerminalLaunch
  deriving DecidableEq, Repr

structure WorkspaceV2 where
  id : WorkspaceId
  name : String
  cwd : Option PathBuf
  environment : BTreeMap String String
  chats : List ChatSession
  terminals : List TerminalV2
  deriving DecidableEq

structure StateV2 where
  version : Nat
  stateNamespace : StateNamespace
  sessionIdentities : SessionIdentities
  agentGenerations : BTreeMap ChatId AgentGeneration
  nextWorkspaceId : Nat
  nextChatId : Nat
  nextTerminalId : Nat
  workspaces : List WorkspaceV2
  deriving DecidableEq

structure WorkspaceV3 where
  id : WorkspaceId
  name : String
  cwd : Option PathBuf
  environment : BTreeMap String String
  chats : List ChatSession
  terminals : List TerminalSession
  deriving DecidableEq

structure StateV3 where
  version : Nat
  stateNamespace : StateNamespace
  sessionIdentities : SessionIdentities
  agentGenerations : BTreeMap ChatId AgentGeneration
  nextWorkspaceId : Nat
  nextChatId : Nat
  nextTerminalId : Nat
  workspaces : List WorkspaceV3
  deriving DecidableEq

inductive DecodedState where
  | v1 (old : StateV1)
  | v2 (old : StateV2)
  | v3 (old : StateV3)
  | v4 (state : ProjectState)
  | v5 (state : ProjectState)
  deriving DecidableEq

def ChatV1.toChat (chat : ChatV1) : ChatSession :=
  ⟨chat.id, chat.name, chat.status, chat.agent, chat.messages⟩

def TerminalV1.toV2 (terminal : TerminalV1) : TerminalV2 :=
  ⟨terminal.id, terminal.name, terminal.status, terminal.launch⟩

def migrateV1ToV2 (old : StateV1) : List WorkspaceV2 :=
  old.workspaces.map fun workspace =>
    { id := workspace.id
      name := workspace.name
      cwd := workspace.cwd
      environment := workspace.environment
      chats := workspace.chats.map ChatV1.toChat
      terminals := workspace.terminals.map TerminalV1.toV2 }

def TerminalV2.toTerminal (terminal : TerminalV2) : TerminalSession :=
  ⟨terminal.id, terminal.name, terminal.status.intoRestoreIntent, terminal.launch⟩

def migrateV2ToV3 (old : StateV2) : StateV3 where
  version := 3
  stateNamespace := old.stateNamespace
  sessionIdentities := old.sessionIdentities
  agentGenerations := old.agentGenerations
  nextWorkspaceId := old.nextWorkspaceId
  nextChatId := old.nextChatId
  nextTerminalId := old.nextTerminalId
  workspaces := old.workspaces.map fun workspace =>
    { id := workspace.id
      name := workspace.name
      cwd := workspace.cwd
      environment := workspace.environment
      chats := workspace.chats
      terminals := workspace.terminals.map TerminalV2.toTerminal }

/-- Version 3 in the current shape, before its repair. -/
def StateV3.toProject (old : StateV3) : ProjectState where
  version := 4
  stateNamespace := old.stateNamespace
  sessionIdentities := old.sessionIdentities
  agentGenerations := old.agentGenerations
  nextWorkspaceId := old.nextWorkspaceId
  nextChatId := old.nextChatId
  nextTerminalId := old.nextTerminalId
  workspaces := old.workspaces.map fun workspace =>
    { id := workspace.id
      name := workspace.name
      cwd := workspace.cwd
      remote := none
      environment := workspace.environment
      chats := workspace.chats
      terminals := workspace.terminals }

def working (status : ChatStatus) : Bool := status = .thinking ∨ status = .waiting

def unowned (active : List ChatId) (chat : ChatSession) : Bool :=
  !active.contains chat.id && working chat.status

def idleIfUnowned (active : List ChatId) (chat : ChatSession) : ChatSession :=
  if unowned active chat then { chat with status := .idle } else chat

/-- A chat at work that no generation owns is idle; and whether there was one. -/
def normalizeUnownedAgentStatuses (state : ProjectState) : ProjectState × Bool :=
  let active := state.agentGenerations.toList.map Prod.fst
  ({ state with
      workspaces := state.workspaces.map fun workspace =>
        { workspace with chats := workspace.chats.map (idleIfUnowned active) } },
    state.chats.any (unowned active))

def noNamespace : IoError :=
  .invalidData "secure entropy repeatedly produced an all-zero state namespace"

/-- The first of so many draws that is not all zero. -/
def drawNamespace : Nat → IdentitySource → Except IoError StateNamespace × IdentitySource
  | 0, source => (.error noNamespace, source)
  | attempts + 1, source =>
      match source.fillBytes with
      | (.error error, source) => (.error error, source)
      | (.ok bytes, source) =>
        match (fromRandomBytes bytes : Option StateNamespace) with
        | some found => (.ok found, source)
        | none => drawNamespace attempts source

def nextNamespace (source : IdentitySource) : Except IoError StateNamespace × IdentitySource :=
  drawNamespace 64 source

/-- The repairs of the ids and of the identity tables, and whether anything in either changed. -/
def repairIdentities (state : ProjectState) (source : IdentitySource) :
    Except IoError (ProjectState × Bool × IdentitySource) :=
  match state.normalizeNextIds with
  | .error error => .error (.invalidData error.display)
  | .ok (numbered, idsNormalized) =>
    match numbered.normalizeSessionIdentities source with
    | .error error => .error error
    | .ok (repaired, identitiesNormalized, left) =>
      .ok (repaired, idsNormalized || identitiesNormalized, left)

def migrateV3ToV4 (old : StateV3) (source : IdentitySource) :
    Except IoError (ProjectState × IdentitySource) :=
  (repairIdentities old.toProject source).map fun (state, _, left) =>
    ((normalizeUnownedAgentStatuses state).1, left)

def migrateV4ToV5 (state : ProjectState) : ProjectState := { state with version := stateVersion }

def validateCurrentState (state : ProjectState) : Except StateError Unit :=
  if state.version ≠ stateVersion then
    .error (.invalid
      s!"refusing to save state version {state.version}; expected {stateVersion}")
  else
    match state.validateSessionIdentities with
    | .error message => .error (.invalid message)
    | .ok () => .ok ()

def migrateV3ToCurrent (old : StateV3) (source : IdentitySource) :
    Except IoError (ProjectState × IdentitySource) :=
  match migrateV3ToV4 old source with
  | .error error => .error error
  | .ok (migrated, left) =>
    let state := migrateV4ToV5 migrated
    match validateCurrentState state with
    | .error error => .error error.toIoError
    | .ok () => .ok (state, left)

def migrateV2ToCurrent (old : StateV2) (source : IdentitySource) :
    Except IoError (ProjectState × IdentitySource) :=
  migrateV3ToCurrent (migrateV2ToV3 old) source

/-- Version 1 with a namespace, in the shape of version 2. -/
def StateV1.toV2 (old : StateV1) (stateNamespace : StateNamespace) : StateV2 where
  version := 2
  stateNamespace := stateNamespace
  sessionIdentities := ⟨∅, ∅⟩
  agentGenerations := ∅
  nextWorkspaceId := old.nextWorkspaceId
  nextChatId := old.nextChatId
  nextTerminalId := old.nextTerminalId
  workspaces := migrateV1ToV2 old

def migrateV1ToCurrent (old : StateV1) (source : IdentitySource) :
    Except IoError (ProjectState × IdentitySource) :=
  match nextNamespace source with
  | (.error error, _) => .error error
  | (.ok stateNamespace, source) => migrateV2ToCurrent (old.toV2 stateNamespace) source

structure LoadedState where
  state : ProjectState
  needsSave : Bool
  notice : Option String
  deriving DecidableEq

def migrated (result : Except IoError (ProjectState × IdentitySource)) :
    Except StateError (LoadedState × IdentitySource) :=
  match result with
  | .error error => .error (.io error)
  | .ok (state, left) => .ok (⟨state, true, none⟩, left)

/-- Versions 4 and 5 have one shape; the number alone says which it is. -/
def loadCurrentShape (decoded : ProjectState) (source : IdentitySource) :
    Except StateError (LoadedState × IdentitySource) :=
  let migrated := decoded.version == 4
  let state := if migrated then migrateV4ToV5 decoded else decoded
  match repairIdentities state source with
  | .error error => .error (.io error)
  | .ok (repaired, changed, left) =>
    let (state, statusesNormalized) := normalizeUnownedAgentStatuses repaired
    match validateCurrentState state with
    | .error error => .error error
    | .ok () => .ok (⟨state, migrated || changed || statusesNormalized, none⟩, left)

def loadDecoded : DecodedState → IdentitySource →
    Except StateError (LoadedState × IdentitySource)
  | .v1 old, source => migrated (migrateV1ToCurrent old source)
  | .v2 old, source => migrated (migrateV2ToCurrent old source)
  | .v3 old, source => migrated (migrateV3ToCurrent old source)
  | .v4 state, source => loadCurrentShape state source
  | .v5 state, source => loadCurrentShape state source

end Mult.Storage
