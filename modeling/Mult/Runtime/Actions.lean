import Mult.App.OpenWorkspace
import Mult.Runtime.PtyEvents

/-! The client in use: the selection moves, statuses are reported, panes exit, and workspaces,
chats and terminals come and go.
-/

set_option autoImplicit false

namespace Mult
open Foundation Storage Project App Client Mult.Runtime
open Protocol (AgentStatus)

namespace App

inductive Action where
  | selectNext
  | selectPrevious
  | selectItem (target : NavItem)
  | selectNavIndex (index : Nat)
  /-- A record of the status journal that the daemon accepted, or what the daemon answered when
  asked for the status. -/
  | agentStatus (chat : ChatId) (status : AgentStatus)
  /-- Any other report of a chat's status, such as a failed launch. -/
  | statusChanged (chat : ChatId) (status : ChatStatus)
  | ptyEvent (event : PtyEvent)
  | deleteTarget (target : DeleteTarget)
  | addChat (agent : AgentKind) (source : Except IoError IdentitySource)
  | addTerminal (source : Except IoError IdentitySource)
  | openTool (command missing : String) (source : Except IoError IdentitySource)
  | importWorkspacePath (cwd : PathBuf) (name : String) (source : Except IoError IdentitySource)
  | importRemoteWorkspace (name host path : String) (source : Except IoError IdentitySource)

def act (app : App) : Action → App
  | .selectNext => app.selectNext
  | .selectPrevious => app.selectPrevious
  | .selectItem target => app.selectItem target
  | .selectNavIndex index => app.selectNavIndex index
  | .agentStatus chat status => (app.markChatStatusById chat (chatStatusFromAgentStatus status)).2
  | .statusChanged chat status => (app.markChatStatusById chat status).2
  | .ptyEvent event => (applyPtyEvent app event).2
  | .deleteTarget target => (app.deleteTarget target).2
  | .addChat agent source => (app.addChatToSelectedWorkspaceAndReturn agent source).2
  | .addTerminal source => app.addTerminalToSelectedWorkspace source
  | .openTool command missing source => (app.openToolInSelectedWorkspace command missing source).2
  | .importWorkspacePath cwd name source => app.importWorkspacePath cwd name source
  | .importRemoteWorkspace name host path source => app.importRemoteWorkspace name host path source

/-- The client on any project that storage accepts, used in any way. -/
def inUse : Machine App Action Unit where
  start app := ∃ project : ProjectState,
    project.validateSessionIdentities = .ok () ∧ app = App.new project
  step app action := some (app.act action, [])

def Action.reports : Action → Option (ChatId × ChatStatus)
  | .agentStatus chat status => some (chat, chatStatusFromAgentStatus status)
  | .statusChanged chat status => some (chat, status)
  | .ptyEvent (.exited (.chatAgent chat) status) =>
      some (chat, if status.code = 0 then .done else .failed)
  | .ptyEvent (.takenOver (.chatAgent chat)) => some (chat, .failed)
  | _ => none

/-- The changes of a project that actions are made of. -/
inductive Change where
  | seen (workspace : WorkspaceId) (chat : ChatId)
  | status (chat : ChatId) (status : ChatStatus)
  | restore (terminal : TerminalId) (restore : Bool)
  | edit (edit : Edit)

end App

def Project.ProjectState.after (project : ProjectState) : Change → ProjectState
  | .seen workspace chat => project.modifyChat workspace chat fun session =>
      { session with status := .doneSeen }
  | .status chat status => project.modifyChatById chat fun session => { session with status }
  | .restore terminal restore => project.modifyTerminalById terminal fun session =>
      { session with restoreOnLaunch := restore }
  | .edit edit => (project.edit edit).1

namespace App

/-- The changes an action may make to a project: statuses only as it reports them, resolved by
what is selected when it starts, and a chat only where no remote workspace has one. -/
def May (app : App) (action : Action) (project : ProjectState) : Change → Prop
  | .seen workspace chat =>
      ∃ session, project.chat workspace chat = some session ∧ session.status.isDone = true
  | .status chat status => ∃ reported, action.reports = some (chat, reported) ∧
      status = reported.withDoneSeen (app.selectedChatId.map Prod.snd == some chat)
  | .restore _ _ => True
  | .edit (.addChat workspace _ _ agent source) =>
      project = app.project ∧ app.onlyRemoteChat workspace = none ∧
        app.selectedWorkspaceId = some workspace ∧ action = .addChat agent source
  | .edit _ => True

abbrev Evolves (allowed : ProjectState → Change → Prop) : ProjectState → ProjectState → Prop :=
  Relation.ReflTransGen fun before later =>
    ∃ change, allowed before change ∧ later = before.after change

variable {app : App} {allowed : ProjectState → Change → Prop} {project : ProjectState}

theorem Evolves.change (change : Change) (permitted : allowed project change) :
    Evolves allowed project (project.after change) :=
  .single ⟨change, permitted, rfl⟩

/-- All changes are allowed that report no status and add no chat. -/
structure Permissive (allowed : ProjectState → Change → Prop) : Prop where
  seen : ∀ project workspace chat session, project.chat workspace chat = some session →
    session.status.isDone = true → allowed project (.seen workspace chat)
  restore : ∀ project terminal restore, allowed project (.restore terminal restore)
  edit : ∀ project (edit : Edit),
    (∀ workspace name status agent source, edit ≠ .addChat workspace name status agent source) →
      allowed project (.edit edit)

theorem May.permissive (app : App) (action : Action) : Permissive (May app action) where
  seen _ _ _ session found done := ⟨session, found, done⟩
  restore _ _ _ := trivial
  edit _ edit other := by
    cases edit with
    | addChat workspace name status agent source => exact absurd rfl (other _ _ _ _ _)
    | _ => trivial

section Permissive

variable (permissive : Permissive allowed)
include permissive

theorem markSelectedDoneSeen_evolves (app : App) :
    Evolves allowed app.project app.markSelectedDoneSeen.project := by
  unfold markSelectedDoneSeen
  split
  · exact .refl
  · next workspace chat selected =>
    split
    · exact .refl
    · next session found =>
      split
      · next unseen =>
        rw [Bool.and_eq_true] at unseen
        exact Evolves.change _ (permissive.seen _ _ _ _ found unseen.1)
      · exact .refl

theorem syncFocusToSelection_evolves (app : App) :
    Evolves allowed app.project app.syncFocusToSelection.project :=
  markSelectedDoneSeen_evolves permissive
    (app.setBrowseFocus (if app.selectedItem.isSome then .selectedPane else .sidebar))

omit permissive in
theorem reconcileSelection_project (app : App) (preferred : Option Nat) :
    (app.reconcileSelection preferred).project = app.project := by
  unfold reconcileSelection
  split
  · rfl
  · split <;> rfl

theorem reconciled_evolves (app : App) (preferred : Option Nat) :
    Evolves allowed app.project (app.reconcileSelection preferred).syncFocusToSelection.project := by
  have synced := syncFocusToSelection_evolves permissive (app.reconcileSelection preferred)
  rwa [reconcileSelection_project] at synced

theorem moved_evolves (app : App) (selected : Option NavItem) :
    Evolves allowed app.project { app with selected }.syncFocusToSelection.project :=
  syncFocusToSelection_evolves permissive { app with selected }

theorem selectItem_evolves (app : App) (target : NavItem) :
    Evolves allowed app.project (app.selectItem target).project := by
  unfold selectItem
  split
  · exact moved_evolves permissive app (some target)
  · exact reconciled_evolves permissive app app.selectedIndex

theorem selectNext_evolves (app : App) : Evolves allowed app.project app.selectNext.project := by
  unfold selectNext
  dsimp only
  split
  · exact moved_evolves permissive app _
  · exact .refl

theorem selectPrevious_evolves (app : App) :
    Evolves allowed app.project app.selectPrevious.project := by
  unfold selectPrevious
  dsimp only
  split
  · exact moved_evolves permissive app _
  · exact .refl

theorem selectNavIndex_evolves (app : App) (index : Nat) :
    Evolves allowed app.project (app.selectNavIndex index).project := by
  unfold selectNavIndex
  split
  · exact selectItem_evolves permissive app _
  · exact .refl

theorem selectFirstItemInWorkspace_evolves (app : App) (workspaceId : WorkspaceId) :
    Evolves allowed app.project (app.selectFirstItemInWorkspace workspaceId).project := by
  unfold selectFirstItemInWorkspace
  dsimp only
  split
  · exact reconciled_evolves permissive app app.selectedIndex
  · split
    · exact selectItem_evolves permissive app _
    · split
      · exact selectItem_evolves permissive app _
      · exact reconciled_evolves permissive app app.selectedIndex

theorem removeWorkspaceIfEmpty_evolves (app : App) (workspaceId : WorkspaceId) :
    Evolves allowed app.project (app.removeWorkspaceIfEmpty workspaceId).project := by
  unfold removeWorkspaceIfEmpty
  split
  · split
    · next removed project gone =>
      have same : project = app.project.after (.edit (.removeWorkspace workspaceId)) := by
        rw [ProjectState.after, ProjectState.edit, gone]
      exact same ▸ Evolves.change _ (permissive.edit _ _ (by simp))
    · exact .refl
  · exact .refl

theorem deleteTarget_evolves (app : App) (target : DeleteTarget) :
    Evolves allowed app.project (app.deleteTarget target).2.project := by
  unfold deleteTarget
  dsimp only
  cases target with
  | workspace workspaceId =>
    exact (removeWorkspaceIfEmpty_evolves permissive app workspaceId).trans
      (reconciled_evolves permissive _ _)
  | chat workspaceId chat =>
    dsimp only
    split
    · next removed project gone =>
      have same : project = app.project.after (.edit (.removeChat workspaceId chat)) := by
        rw [ProjectState.after, ProjectState.edit, gone]
      have first : Evolves allowed app.project project :=
        same ▸ Evolves.change _ (permissive.edit _ _ (by simp))
      have emptied := removeWorkspaceIfEmpty_evolves permissive
        { app with project }.markStructuralChange workspaceId
      exact (first.trans emptied).trans (reconciled_evolves permissive _ _)
    · exact reconciled_evolves permissive app _
  | terminal workspaceId terminal =>
    dsimp only
    split
    · next removed project gone =>
      have same : project = app.project.after (.edit (.removeTerminal workspaceId terminal)) := by
        rw [ProjectState.after, ProjectState.edit, gone]
      have first : Evolves allowed app.project project :=
        same ▸ Evolves.change _ (permissive.edit _ _ (by simp))
      have emptied := removeWorkspaceIfEmpty_evolves permissive
        { app with
          project := project
          recoverableTerminals := app.recoverableTerminals.erase terminal }.markStructuralChange
        workspaceId
      exact (first.trans emptied).trans (reconciled_evolves permissive _ _)
    · exact reconciled_evolves permissive app _

theorem removeFinishedTerminal_evolves (app : App) (terminal : TerminalId) :
    Evolves allowed app.project (app.removeFinishedTerminal terminal).2.project := by
  unfold removeFinishedTerminal
  split
  · exact .refl
  · exact deleteTarget_evolves permissive app _

/-! ### Adding -/

theorem settleAddedTerminal_evolves (app : App) (workspace : WorkspaceId) (edit : Edit)
    {added : Except IdAllocationError (Option TerminalId) × ProjectState}
    (same : added.2 = app.project.after (.edit edit)) (adds : ∀ workspace name status agent source,
      edit ≠ .addChat workspace name status agent source) :
    Evolves allowed app.project (app.settleAddedTerminal workspace added).2.project := by
  have first : Evolves allowed app.project added.2 :=
    same ▸ Evolves.change _ (permissive.edit _ _ adds)
  obtain ⟨outcome, project⟩ := added
  cases outcome with
  | error error => exact first
  | ok made =>
    cases made with
    | none => exact first
    | some terminal => exact first.trans (selectItem_evolves permissive { app with project } _)

theorem addTerminalToSelectedWorkspace_evolves (app : App) (source : Except IoError IdentitySource) :
    Evolves allowed app.project (app.addTerminalToSelectedWorkspace source).project := by
  unfold addTerminalToSelectedWorkspace
  split
  · exact .refl
  · next workspace selected =>
    exact settleAddedTerminal_evolves permissive app workspace (.addTerminal workspace _ source)
      rfl (by simp)

theorem openToolInSelectedWorkspace_evolves (app : App) (command missing : String)
    (source : Except IoError IdentitySource) :
    Evolves allowed app.project (app.openToolInSelectedWorkspace command missing source).2.project := by
  unfold openToolInSelectedWorkspace
  dsimp only
  split
  · exact .refl
  · split
    · exact .refl
    · next workspace selected =>
      split
      · exact selectItem_evolves permissive app _
      · exact settleAddedTerminal_evolves permissive app workspace
          (.addCommandTerminal workspace _ _ source) rfl (by simp)

omit permissive in
theorem setOpenWorkspaceError_project (app : App) (error : OpenWorkspaceError) :
    (app.setOpenWorkspaceError error).project = app.project := by
  unfold setOpenWorkspaceError
  split <;> rfl

theorem insertWorkspace_evolves (app : App) (name : String) (cwd : Option PathBuf)
    (remote : Option RemoteTarget) (source : Except IoError IdentitySource) :
    Evolves allowed app.project (app.insertWorkspace name cwd remote source).project := by
  have refused : ∀ error, Evolves allowed app.project (app.setOpenWorkspaceError error).project := by
    intro error
    rw [setOpenWorkspaceError_project]
  unfold insertWorkspace
  dsimp only
  split
  · exact refused _
  · next workspace project made =>
    have first : Evolves allowed app.project project := by
      cases remote with
      | none =>
        have same : project = app.project.after (.edit (.addWorkspace name cwd)) := by
          rw [ProjectState.after, ProjectState.edit]
          exact (congrArg Prod.snd made).symm
        exact same ▸ Evolves.change _ (permissive.edit _ _ (by simp))
      | some target =>
        have same : project = app.project.after (.edit (.addRemoteWorkspace name target)) := by
          rw [ProjectState.after, ProjectState.edit]
          exact (congrArg Prod.snd made).symm
        exact same ▸ Evolves.change _ (permissive.edit _ _ (by simp))
    split
    · next terminal opened shell =>
      have same : opened = project.after (.edit (.addTerminal workspace "shell" source)) := by
        rw [ProjectState.after, ProjectState.edit]
        exact (congrArg Prod.snd shell).symm
      have second : Evolves allowed project opened :=
        same ▸ Evolves.change _ (permissive.edit _ _ (by simp))
      exact (first.trans second).trans
        (selectFirstItemInWorkspace_evolves permissive { app with project := opened }.clearPrompt _)
    · exact refused _
    · exact refused _

theorem setTerminalRestoreIntent_evolves (app : App) (terminal : TerminalId) (restore : Bool) :
    Evolves allowed app.project (app.setTerminalRestoreIntent terminal restore).project := by
  unfold setTerminalRestoreIntent
  split
  · exact .refl
  · split
    · exact Evolves.change _ (permissive.restore _ terminal restore)
    · exact .refl

theorem endPtyInput_evolves (app : App) (ends : Prop) [Decidable ends] :
    Evolves allowed app.project (if ends then app.endPtyInput else app).project := by
  split
  · exact syncFocusToSelection_evolves permissive app
  · exact .refl

theorem clearAgentGeneration_evolves (app : App) (chat : ChatId)
    (generation : Protocol.AgentGeneration) :
    Evolves allowed app.project (app.clearAgentGeneration chat generation).2.project :=
  Evolves.change (.edit (.clearAgentGeneration chat generation))
    (permissive.edit _ _ (by simp))

theorem importWorkspacePath_evolves (app : App) (cwd : PathBuf) (name : String)
    (source : Except IoError IdentitySource) :
    Evolves allowed app.project (app.importWorkspacePath cwd name source).project := by
  unfold importWorkspacePath
  split
  · exact selectFirstItemInWorkspace_evolves permissive app.clearPrompt _
  · exact insertWorkspace_evolves permissive app _ _ _ _

theorem importRemoteWorkspace_evolves (app : App) (name host path : String)
    (source : Except IoError IdentitySource) :
    Evolves allowed app.project (app.importRemoteWorkspace name host path source).project := by
  unfold importRemoteWorkspace
  dsimp only
  split
  · rw [setOpenWorkspaceError_project]
  · split
    · rw [setOpenWorkspaceError_project]
    · split
      · exact selectFirstItemInWorkspace_evolves permissive app.clearPrompt _
      · exact insertWorkspace_evolves permissive app _ _ _ _

end Permissive

theorem markChatStatusById_evolves (app : App) (chat : ChatId) (status : ChatStatus)
    (permitted : allowed app.project (.status chat
      (status.withDoneSeen (app.selectedChatId.map Prod.snd == some chat)))) :
    Evolves allowed app.project (app.markChatStatusById chat status).2.project := by
  unfold markChatStatusById
  dsimp only
  split
  · exact .refl
  · split
    · exact Evolves.change _ permitted
    · exact .refl

theorem applyPtyEvent_evolves (app : App) (event : PtyEvent) :
    Evolves (May app (.ptyEvent event)) app.project (applyPtyEvent app event).2.project := by
  have permissive := May.permissive app (.ptyEvent event)
  cases event with
  | scrollback | replayTruncated | output | error | stopFailed | connectionError => exact .refl
  | takenOver terminal =>
    refine .trans ?_ (endPtyInput_evolves permissive _ _)
    cases terminal with
    | chatAgent chat => exact markChatStatusById_evolves app chat .failed ⟨_, rfl, rfl⟩
    | terminal terminal => exact setTerminalRestoreIntent_evolves permissive app terminal false
  | exited terminal status =>
    cases terminal with
    | chatAgent chat =>
      simp only [applyPtyEvent, applyChatExit]
      refine .trans ?_ (endPtyInput_evolves permissive _ _)
      refine .trans (markChatStatusById_evolves app chat _ ⟨_, rfl, rfl⟩) ?_
      generalize (app.markChatStatusById chat _).2 = marked
      split
      · exact clearAgentGeneration_evolves permissive _ chat _
      · exact .refl
    | terminal terminal =>
      simp only [applyPtyEvent, applyTerminalExit]
      have recorded : Evolves (May app (.ptyEvent (.exited (.terminal terminal) status)))
          app.project (app.recordTerminalStopped terminal).project :=
        setTerminalRestoreIntent_evolves permissive app terminal false
      generalize app.recordTerminalStopped terminal = intent at recorded ⊢
      have stopped := recorded.trans (endPtyInput_evolves permissive intent
        (intent.terminalInputTarget = some terminal))
      generalize (if intent.terminalInputTarget = some terminal then intent.endPtyInput
        else intent) = ended at stopped ⊢
      split
      · have closed : Evolves (May app (.ptyEvent (.exited (.terminal terminal) status)))
            app.project (closeFinishedTerminal ended terminal).2.project :=
          stopped.trans (removeFinishedTerminal_evolves permissive ended terminal)
        generalize closeFinishedTerminal ended terminal = result at closed ⊢
        obtain ⟨effects, after⟩ := result
        cases effects <;> exact closed
      · exact stopped

theorem addChat_evolves (app : App) (agent : AgentKind) (source : Except IoError IdentitySource) :
    Evolves (May app (.addChat agent source)) app.project
      (app.addChatToSelectedWorkspaceAndReturn agent source).2.project := by
  have permissive := May.permissive app (.addChat agent source)
  unfold addChatToSelectedWorkspaceAndReturn
  split
  · exact .refl
  · next workspace selected =>
    split
    · exact selectItem_evolves permissive app _
    · next none =>
      have added : ∀ outcome project, app.project.addChat workspace defaultAgentChatTitle .idle
          agent source = (outcome, project) →
            Evolves (May app (.addChat agent source)) app.project project := by
        intro outcome project made
        have same : project = app.project.after
            (.edit (.addChat workspace defaultAgentChatTitle .idle agent source)) := by
          rw [ProjectState.after, ProjectState.edit]
          exact (congrArg Prod.snd made).symm
        exact same ▸ Evolves.change _ ⟨rfl, none, selected, rfl⟩
      split
      · next chat project made =>
        exact (added _ _ made).trans (selectItem_evolves permissive { app with project } _)
      · next project made => exact added _ _ made
      · next project made => exact added _ _ made

theorem act_evolves (app : App) (action : Action) :
    Evolves (May app action) app.project (app.act action).project := by
  have permissive := May.permissive app action
  cases action with
  | selectNext => exact selectNext_evolves permissive app
  | selectPrevious => exact selectPrevious_evolves permissive app
  | selectItem target => exact selectItem_evolves permissive app target
  | selectNavIndex index => exact selectNavIndex_evolves permissive app index
  | agentStatus chat status => exact markChatStatusById_evolves app chat _ ⟨_, rfl, rfl⟩
  | statusChanged chat status => exact markChatStatusById_evolves app chat _ ⟨_, rfl, rfl⟩
  | ptyEvent event => exact applyPtyEvent_evolves app event
  | deleteTarget target => exact deleteTarget_evolves permissive app target
  | addChat agent source => exact addChat_evolves app agent source
  | addTerminal source => exact addTerminalToSelectedWorkspace_evolves permissive app source
  | openTool command missing source =>
    exact openToolInSelectedWorkspace_evolves permissive app command missing source
  | importWorkspacePath cwd name source =>
    exact importWorkspacePath_evolves permissive app cwd name source
  | importRemoteWorkspace name host path source =>
    exact importRemoteWorkspace_evolves permissive app name host path source

end App

end Mult
