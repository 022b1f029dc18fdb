import Mult.App.Navigation

/-! Structural changes to the project, and the per-item state those changes keep honest. -/

set_option autoImplicit false

namespace Mult
open Foundation Storage Project App
open Protocol (AgentGeneration)

namespace App

inductive DeleteTarget where
  | workspace (id : WorkspaceId)
  | chat (workspace : WorkspaceId) (chat : ChatId)
  | terminal (workspace : WorkspaceId) (terminal : TerminalId)
  deriving DecidableEq, Repr

def removeWorkspaceIfEmpty (app : App) (workspaceId : WorkspaceId) : App :=
  if (app.project.workspace workspaceId).any fun workspace =>
      workspace.chats.isEmpty && workspace.terminals.isEmpty then
    match app.project.removeWorkspace workspaceId with
    | (some _, project) => { app with project }.markStructuralChange
    | (none, _) => app
  else app

/-- Removes the target and reports the sessions whose durable state went with it. -/
def deleteTarget (app : App) (target : DeleteTarget) : List PtyKey × App :=
  let previousIndex := app.selectedIndex
  let (removed, app) : List PtyKey × App :=
    match target with
    | .workspace workspaceId => ([], app.removeWorkspaceIfEmpty workspaceId)
    | .chat workspaceId chat =>
      match app.project.removeChat workspaceId chat with
      | (some _, project) =>
        ([.chatAgent chat],
          { app with project }.markStructuralChange.removeWorkspaceIfEmpty workspaceId)
      -- It is gone already.
      | (none, _) => ([], app)
    | .terminal workspaceId terminal =>
      match app.project.removeTerminal workspaceId terminal with
      | (some _, project) =>
        ([.terminal terminal],
          { app with
            project
            recoverableTerminals := app.recoverableTerminals.erase terminal
          }.markStructuralChange.removeWorkspaceIfEmpty workspaceId)
      | (none, _) => ([], app)
  (removed, (app.reconcileSelection previousIndex).syncFocusToSelection)

def workspaceOfTerminal (app : App) (terminal : TerminalId) : Option WorkspaceId :=
  (app.project.workspaces.find? fun workspace =>
    workspace.terminals.any fun item => item.id = terminal).map Workspace.id

/-- Removes a terminal whose program finished on its own. -/
def removeFinishedTerminal (app : App) (terminal : TerminalId) : List PtyKey × App :=
  match app.workspaceOfTerminal terminal with
  | none => ([], app)
  | some workspace => app.deleteTarget (.terminal workspace terminal)

def setTerminalRestoreIntent (app : App) (terminal : TerminalId) (restore : Bool) : App :=
  match app.project.terminals.find? fun session => session.id = terminal with
  | none => app
  | some session =>
    if session.restoreOnLaunch ≠ restore then
      { app with
        project := app.project.modifyTerminalById terminal fun session =>
          { session with restoreOnLaunch := restore }
        dirty := true }
    else app

/-- The terminal is attached, so the next launch brings it back. -/
def recordTerminalStarted (app : App) (terminal : TerminalId) : App :=
  { app with recoverableTerminals := app.recoverableTerminals.erase terminal
    }.setTerminalRestoreIntent terminal true

def recordTerminalStopped (app : App) (terminal : TerminalId) : App :=
  app.setTerminalRestoreIntent terminal false

def markTerminalRecoverable (app : App) (terminal : TerminalId) : App :=
  match app.project.terminals.find? fun session => session.id = terminal with
  | some ⟨_, _, _, .command _⟩ =>
    { app with recoverableTerminals := app.recoverableTerminals.insert terminal }
  | _ => app

def beginAgentGeneration (app : App) (chat : ChatId) (source : Except IoError IdentitySource) :
    Except IdAllocationError (Option AgentGeneration) × App :=
  match app.project.beginAgentGeneration chat source with
  | (.error error, project) => (.error error, { app with project })
  | (.ok generation, project) =>
    (.ok generation, { app with project, dirty := app.dirty || generation.isSome })

def clearAgentGeneration (app : App) (chat : ChatId) (generation : AgentGeneration) : Bool × App :=
  let (changed, project) := app.project.clearAgentGeneration chat generation
  (changed, { app with project, dirty := app.dirty || changed })

def markChatStatusById (app : App) (chat : ChatId) (status : ChatStatus) : Bool × App :=
  let seen := app.selectedChatId.map Prod.snd == some chat
  let status := status.withDoneSeen seen
  match app.project.chats.find? fun session => session.id = chat with
  | none => (false, app)
  | some session =>
    if session.status ≠ status then
      (true, { app with
        project := app.project.modifyChatById chat fun session => { session with status }
        dirty := true })
    else (false, app)

/-- Whether the chat has finished and the user has already looked at it. -/
def chatDoneSeen (app : App) (chat : ChatId) : Bool :=
  (app.project.chats.find? fun session => session.id = chat).any fun session =>
    session.status.doneSeen?

/-- The chat a remote workspace already has, if it is remote and it has one. -/
def onlyRemoteChat (app : App) (workspaceId : WorkspaceId) : Option ChatId :=
  (app.project.workspace workspaceId).bind fun workspace =>
    workspace.remote.bind fun _ => workspace.chats.head?.map ChatSession.id

def addChatToSelectedWorkspaceAndReturn (app : App) (agent : AgentKind)
    (source : Except IoError IdentitySource) : Option (WorkspaceId × ChatId) × App :=
  match app.selectedWorkspaceId with
  | none => (none, app)
  | some workspace =>
    match app.onlyRemoteChat workspace with
    | some existing =>
      (some (workspace, existing), (app.selectItem (.chat workspace existing)).clearOperationError)
    | none =>
      match app.project.addChat workspace defaultAgentChatTitle .idle agent source with
      | (.ok (some chat), project) =>
        (some (workspace, chat), (({ app with project }.selectItem
          (.chat workspace chat)).clearOperationError).markStructuralChange)
      | (.ok none, project) =>
        (none, { app with project }.recordOperationFailure "selected workspace no longer exists")
      | (.error error, project) =>
        (none, { app with project }.recordOperationFailure error.display)

/-- What follows an attempt to add a terminal to the workspace. -/
def settleAddedTerminal (app : App) (workspace : WorkspaceId)
    (added : Except IdAllocationError (Option TerminalId) × ProjectState) :
    Option TerminalId × App :=
  match added with
  | (.ok (some terminal), project) =>
    (some terminal, (({ app with project }.selectItem
      (.terminal workspace terminal)).clearOperationError).markStructuralChange)
  | (.ok none, project) =>
    (none, { app with project }.recordOperationFailure "selected workspace no longer exists")
  | (.error error, project) => (none, { app with project }.recordOperationFailure error.display)

def addTerminalToSelectedWorkspace (app : App) (source : Except IoError IdentitySource) : App :=
  match app.selectedWorkspaceId with
  | none => app
  | some workspace =>
    let next := (app.project.workspace workspace).elim 1 fun workspace =>
      workspace.terminals.length + 1
    (app.settleAddedTerminal workspace
      (app.project.addTerminal workspace ("terminal-" ++ toString next) source)).2

def commandTerminalRunning (app : App) (workspace : WorkspaceId) (command : String) :
    Option TerminalId :=
  (app.project.workspace workspace).bind fun workspace =>
    (workspace.terminals.find? fun terminal => terminal.launch = .command command).map
      TerminalSession.id

/-- Selects the terminal of the selected workspace that runs the command, adding one if there
is none yet. -/
def openToolInSelectedWorkspace (app : App) (command missing : String)
    (source : Except IoError IdentitySource) : Option TerminalId × App :=
  let command := Text.trim command
  if command = "" then (none, app.recordOperationFailure missing)
  else
    match app.selectedWorkspaceId with
    | none => (none, app)
    | some workspace =>
      match app.commandTerminalRunning workspace command with
      | some terminal =>
        (some terminal, (app.selectItem (.terminal workspace terminal)).clearOperationError)
      | none =>
        app.settleAddedTerminal workspace
          (app.project.addCommandTerminal workspace command command source)

end App

end Mult
