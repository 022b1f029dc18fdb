import Mult.Foundation.Firsts
import Mult.Project.Edits
import Mult.Remote.Commands

/-! What the client keeps in memory, the selection in the sidebar, and the marks that follow
from what is selected.
-/

set_option autoImplicit false

namespace Mult.Project
open Foundation Protocol

namespace ChatStatus

/-- Whether one agent turn has finished, seen or not. -/
def isDone : ChatStatus → Bool
  | .done | .doneSeen => true
  | _ => false

def doneSeen? : ChatStatus → Bool
  | .doneSeen => true
  | _ => false

def withDoneSeen : ChatStatus → Bool → ChatStatus
  | .done, true | .doneSeen, true => .doneSeen
  | .done, false | .doneSeen, false => .done
  | other, _ => other

end ChatStatus

namespace ProjectState

def workspace (state : ProjectState) (id : WorkspaceId) : Option Workspace :=
  state.workspaces.find? fun workspace => workspace.id = id

def chat (state : ProjectState) (workspaceId : WorkspaceId) (chatId : ChatId) :
    Option ChatSession :=
  (state.workspace workspaceId).bind fun workspace =>
    workspace.chats.find? fun chat => chat.id = chatId

def modifyChat (state : ProjectState) (workspaceId : WorkspaceId) (chatId : ChatId)
    (change : ChatSession → ChatSession) : ProjectState :=
  { state with
    workspaces := modifyFirst (fun workspace => workspace.id = workspaceId)
      (fun workspace => { workspace with
        chats := modifyFirst (fun chat => chat.id = chatId) change workspace.chats })
      state.workspaces }

def modifyChatById (state : ProjectState) (chatId : ChatId)
    (change : ChatSession → ChatSession) : ProjectState :=
  { state with
    workspaces := modifyFirst (fun workspace => workspace.chats.any fun chat => chat.id = chatId)
      (fun workspace => { workspace with
        chats := modifyFirst (fun chat => chat.id = chatId) change workspace.chats })
      state.workspaces }

def modifyTerminalById (state : ProjectState) (terminalId : TerminalId)
    (change : TerminalSession → TerminalSession) : ProjectState :=
  { state with
    workspaces := modifyFirst
      (fun workspace => workspace.terminals.any fun terminal => terminal.id = terminalId)
      (fun workspace => { workspace with
        terminals := modifyFirst (fun terminal => terminal.id = terminalId) change
          workspace.terminals })
      state.workspaces }

def activeAgentGeneration (state : ProjectState) (chatId : ChatId) : Option AgentGeneration :=
  state.agentGenerations[chatId]?

def sessionIdentity (state : ProjectState) (key : PtyKey) : Option SessionIdentity :=
  (state.sessionIdentities.get key).map fun token => ⟨state.stateNamespace, token⟩

end ProjectState

end Mult.Project

namespace Mult.App
open Foundation Protocol Project

inductive NavItem where
  | chat (workspace : WorkspaceId) (chat : ChatId)
  | terminal (workspace : WorkspaceId) (terminal : TerminalId)
  deriving DecidableEq, Repr

/-- One row of the sidebar, in render order. -/
inductive SidebarRow where
  | spacer
  | workspace (id : WorkspaceId)
  | nav (item : NavItem)
  deriving DecidableEq, Repr

/-- Where the keyboard is while browsing. -/
inductive BrowseFocus where
  | sidebar
  | selectedPane
  deriving DecidableEq, Repr

/-- Why the open-workspace prompt could not import what was chosen. -/
inductive OpenWorkspaceError where
  | remote (error : Remote.RemoteError)
  | allocation (error : IdAllocationError)
  | message (text : String)
  deriving DecidableEq, Repr

/-- The open prompt; of those that nothing here reads, only that they are open. -/
inductive Prompt where
  | openWorkspace (error : Option OpenWorkspaceError)
  | newTerminalCommand
  | commandPalette
  | search
  deriving DecidableEq, Repr

/-- The two things the keyboard can be doing. -/
inductive InteractionMode where
  | prompting (prompt : Prompt) (resume : BrowseFocus)
  | browsing (focus : BrowseFocus)
  deriving DecidableEq, Repr

end Mult.App

namespace Mult
open Foundation Project App

structure App where
  project : ProjectState
  selected : Option NavItem
  mode : InteractionMode
  recoverableTerminals : BTreeSet TerminalId
  dirty : Bool
  structuralDirty : Bool
  /-- The text of the failed mutation that is still shown. -/
  operationFailure : Option String
  /-- The text of the failure of the last save, while nothing has been saved since. -/
  saveError : Option String
  shouldQuit : Bool

namespace App

def browseFocus (app : App) : BrowseFocus :=
  match app.mode with
  | .prompting _ resume => resume
  | .browsing focus => focus

def setBrowseFocus (app : App) (focus : BrowseFocus) : App :=
  { app with mode := match app.mode with
      | .prompting prompt _ => .prompting prompt focus
      | .browsing _ => .browsing focus }

def clearPrompt (app : App) : App := { app with mode := .browsing app.browseFocus }

def markStructuralChange (app : App) : App := { app with dirty := true, structuralDirty := true }

def clearOperationError (app : App) : App := { app with operationFailure := none }

def recordOperationFailure (app : App) (message : String) : App :=
  { app with operationFailure := some ("Operation failed: " ++ message) }

/-- A blank row between workspaces, then each workspace's header, its chats and terminals. -/
def sidebarRows (app : App) : List SidebarRow :=
  app.project.workspaces.zipIdx.flatMap fun (workspace, index) =>
    (if 0 < index then [.spacer] else []) ++ [.workspace workspace.id] ++
      workspace.chats.map (fun chat => .nav (.chat workspace.id chat.id)) ++
      workspace.terminals.map (fun terminal => .nav (.terminal workspace.id terminal.id))

def navItems (app : App) : List NavItem :=
  app.sidebarRows.filterMap fun
    | .nav item => some item
    | _ => none

def navItemPosition (app : App) (target : NavItem) : Option Nat := app.navItems.idxOf? target

def selectedItem (app : App) : Option NavItem :=
  app.selected.filter fun item => (app.navItemPosition item).isSome

def selectedIndex (app : App) : Option Nat := app.selected.bind app.navItemPosition

def selectedWorkspaceId (app : App) : Option WorkspaceId :=
  match app.selectedItem with
  | some (.chat workspace _) | some (.terminal workspace _) => some workspace
  | none => app.project.workspaces.head?.map Workspace.id

def selectedTerminalId (app : App) : Option (WorkspaceId × TerminalId) :=
  match app.selectedItem with
  | some (.terminal workspace terminal) => some (workspace, terminal)
  | _ => none

def selectedChatId (app : App) : Option (WorkspaceId × ChatId) :=
  match app.selectedItem with
  | some (.chat workspace chat) => some (workspace, chat)
  | _ => none

def terminalInputTarget (app : App) : Option TerminalId := app.selectedTerminalId.map Prod.snd

def ptyInputTarget (app : App) : Option PtyKey :=
  app.selectedItem.map fun
    | .chat _ chat => .chatAgent chat
    | .terminal _ terminal => .terminal terminal

def markSelectedDoneSeen (app : App) : App :=
  match app.selectedChatId with
  | none => app
  | some (workspace, chat) =>
    match app.project.chat workspace chat with
    | none => app
    | some session =>
      if session.status.isDone && !session.status.doneSeen? then
        { app with
          project := app.project.modifyChat workspace chat fun session =>
            { session with status := .doneSeen }
          dirty := true }
      else app

def syncFocusToSelection (app : App) : App :=
  (app.setBrowseFocus
    (if app.selectedItem.isSome then .selectedPane else .sidebar)).markSelectedDoneSeen

def endPtyInput (app : App) : App := app.syncFocusToSelection

/-- Keeps a selection that is still there, and otherwise selects what is at the index now. -/
def reconcileSelection (app : App) (preferredIndex : Option Nat) : App :=
  if app.navItems = [] then { app with selected := none }
  else if app.selectedItem.isSome then app
  else { app with
    selected := app.navItems[min (preferredIndex.getD 0) (app.navItems.length - 1)]? }

def selectNext (app : App) : App :=
  if 0 < app.navItems.length then
    let next := app.selectedIndex.elim 0 fun index => (index + 1) % app.navItems.length
    { app with selected := app.navItems[next]? }.syncFocusToSelection
  else app

def selectPrevious (app : App) : App :=
  if 0 < app.navItems.length then
    let last := app.navItems.length - 1
    let previous := app.selectedIndex.elim last fun index => if index = 0 then last else index - 1
    { app with selected := app.navItems[previous]? }.syncFocusToSelection
  else app

def selectItem (app : App) (target : NavItem) : App :=
  (if (app.navItemPosition target).isSome then { app with selected := some target }
    else app.reconcileSelection app.selectedIndex).syncFocusToSelection

def selectNavIndex (app : App) (index : Nat) : App :=
  match app.navItems[index]? with
  | some item => app.selectItem item
  | none => app

def selectFirstItemInWorkspace (app : App) (workspaceId : WorkspaceId) : App :=
  let elsewhere := (app.reconcileSelection app.selectedIndex).syncFocusToSelection
  match app.project.workspace workspaceId with
  | none => elsewhere
  | some workspace =>
    match workspace.chats.head? with
    | some chat => app.selectItem (.chat workspaceId chat.id)
    | none =>
      match workspace.terminals.head? with
      | some terminal => app.selectItem (.terminal workspaceId terminal.id)
      | none => elsewhere

def defaultAgentChatTitle : String := "agent"

def normalizeAgentChatTitles (project : ProjectState) : Bool × ProjectState :=
  (project.chats.any fun chat => chat.name ≠ defaultAgentChatTitle,
    { project with
      workspaces := project.workspaces.map fun workspace => { workspace with
        chats := workspace.chats.map fun chat => { chat with name := defaultAgentChatTitle } } })

/-- The client on a project that storage has loaded. -/
def new (project : ProjectState) : App :=
  let (normalized, project) := normalizeAgentChatTitles project
  let recoverable := project.terminals.filter fun terminal =>
    !terminal.restoreOnLaunch && terminal.launch != .shell
  ({ project
     selected := none
     mode := .browsing .sidebar
     recoverableTerminals := .ofList (recoverable.map TerminalSession.id)
     dirty := normalized
     structuralDirty := false
     operationFailure := none
     saveError := none
     shouldQuit := false : App }.reconcileSelection none).syncFocusToSelection

end App

end Mult
