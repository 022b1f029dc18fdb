import Mult.App.Conversation
import Mult.App.Prompts
import Mult.Runtime.Evolution

/-! Everything that happens to the client's memory: what the user does, and what the background
reports. Whatever it is, it keeps a selection that is there, and marks what it changes as unsaved.
-/

set_option autoImplicit false

namespace Mult
open Foundation Storage Project App Mult.Runtime
open Protocol (AgentGeneration)

namespace App

inductive Operation where
  | action (action : Action)
  | agentEvent (event : AgentEvent)
  | openSftp (target : Option String) (source : Except IoError IdentitySource)
  | beginCommandPalette
  | beginOpenWorkspace
  | beginNewTerminalCommand
  | beginSearch
  | cancelPrompt
  | submitCommandPalette
  | submitSearch
  | submitNewTerminalCommand (input : String) (source : Except IoError IdentitySource)
  | focusSidebar
  | focusSelectedMain
  | beginAgentGeneration (chat : ChatId) (source : Except IoError IdentitySource)
  | clearAgentGeneration (chat : ChatId) (generation : AgentGeneration)
  | terminalStarted (terminal : TerminalId)
  | terminalStopped (terminal : TerminalId)
  | terminalRecoverable (terminal : TerminalId)

def focusSidebar (app : App) : App := app.setBrowseFocus .sidebar

def focusSelectedMain (app : App) : Bool × App :=
  if app.selectedItem.isNone then (false, app) else (true, app.setBrowseFocus .selectedPane)

def operate (app : App) : Operation → App
  | .action action => app.act action
  | .agentEvent event => app.applyAgentEvent event
  | .openSftp target source => (app.openSftpInSelectedWorkspace target source).2
  | .beginCommandPalette => app.beginCommandPalette
  | .beginOpenWorkspace => app.beginOpenWorkspace
  | .beginNewTerminalCommand => app.beginNewTerminalCommand.2
  | .beginSearch => app.beginSearch.2
  | .cancelPrompt => app.cancelPrompt
  | .submitCommandPalette => app.submitCommandPalette
  | .submitSearch => app.submitSearch
  | .submitNewTerminalCommand input source => app.submitNewTerminalCommand input source
  | .focusSidebar => app.focusSidebar
  | .focusSelectedMain => app.focusSelectedMain.2
  | .beginAgentGeneration chat source => (app.beginAgentGeneration chat source).2
  | .clearAgentGeneration chat generation => (app.clearAgentGeneration chat generation).2
  | .terminalStarted terminal => app.recordTerminalStarted terminal
  | .terminalStopped terminal => app.recordTerminalStopped terminal
  | .terminalRecoverable terminal => app.markTerminalRecoverable terminal

def structureOf (project : ProjectState) : List (WorkspaceId × List ChatId × List TerminalId) :=
  project.workspaces.map ProjectState.sessionIds

/-- What is selected is there, and where anything is, something is selected. -/
structure Anchored (app : App) : Prop where
  present : ∀ item, app.selected = some item → item ∈ app.navItems
  empty : app.selected = none → app.navItems = []

/-- What is not marked is as it was, and nothing that was marked is unmarked. -/
structure Marks (before after : App) : Prop where
  clean : after.dirty = false → before.dirty = false ∧ after.project = before.project
  flat : after.structuralDirty = false →
    before.structuralDirty = false ∧ structureOf after.project = structureOf before.project
  within : (before.structuralDirty = true → before.dirty = true) →
    after.structuralDirty = true → after.dirty = true
  saveError : after.saveError = before.saveError
  shouldQuit : after.shouldQuit = before.shouldQuit

/-- As `Marks`, and the selection stays where there is one. -/
structure Settles (before after : App) : Prop where
  marks : Marks before after
  anchored : before.Anchored → after.Anchored

variable {before middle after : App}

theorem Marks.refl (app : App) : Marks app app :=
  ⟨fun clean => ⟨clean, rfl⟩, fun flat => ⟨flat, rfl⟩, id, rfl, rfl⟩

theorem Marks.trans (first : Marks before middle) (second : Marks middle after) :
    Marks before after where
  clean saved :=
    have ⟨clean, same⟩ := second.clean saved
    ⟨(first.clean clean).1, same.trans (first.clean clean).2⟩
  flat saved :=
    have ⟨flat, same⟩ := second.flat saved
    ⟨(first.flat flat).1, same.trans (first.flat flat).2⟩
  within marked := second.within (first.within marked)
  saveError := second.saveError.trans first.saveError
  shouldQuit := second.shouldQuit.trans first.shouldQuit

theorem Settles.refl (app : App) : Settles app app := ⟨.refl app, id⟩

theorem Settles.trans (first : Settles before middle) (second : Settles middle after) :
    Settles before after :=
  ⟨first.marks.trans second.marks, fun anchored => second.anchored (first.anchored anchored)⟩

theorem Marks.aside (project : after.project = before.project)
    (dirty : after.dirty = before.dirty)
    (structural : after.structuralDirty = before.structuralDirty)
    (saveError : after.saveError = before.saveError)
    (shouldQuit : after.shouldQuit = before.shouldQuit) : Marks before after where
  clean saved := ⟨dirty ▸ saved, project⟩
  flat saved := ⟨structural ▸ saved, by rw [project]⟩
  within marked := by rwa [dirty, structural]
  saveError := saveError
  shouldQuit := shouldQuit

theorem Marks.content (app : App) {project : ProjectState}
    (same : structureOf project = structureOf app.project) :
    Marks app { app with project, dirty := true } where
  clean saved := absurd saved (by simp)
  flat saved := ⟨saved, same⟩
  within _ _ := rfl
  saveError := rfl
  shouldQuit := rfl

theorem Marks.structural (saveError : after.saveError = before.saveError)
    (shouldQuit : after.shouldQuit = before.shouldQuit) :
    Marks before after.markStructuralChange where
  clean saved := absurd saved (by simp [markStructuralChange])
  flat saved := absurd saved (by simp [markStructuralChange])
  within _ _ := rfl
  saveError := saveError
  shouldQuit := shouldQuit

theorem Anchored.congr (anchored : before.Anchored) (selected : after.selected = before.selected)
    (same : structureOf after.project = structureOf before.project) : after.Anchored := by
  have items : after.navItems = before.navItems := by
    rw [navItems_eq, navItems_eq]
    exact congrArg _ same
  constructor
  · intro item chosen
    rw [items]
    exact anchored.present item (selected ▸ chosen)
  · intro nothing
    rw [items]
    exact anchored.empty (selected ▸ nothing)

theorem Settles.aside (selected : after.selected = before.selected)
    (project : after.project = before.project) (dirty : after.dirty = before.dirty)
    (structural : after.structuralDirty = before.structuralDirty)
    (saveError : after.saveError = before.saveError)
    (shouldQuit : after.shouldQuit = before.shouldQuit) : Settles before after :=
  ⟨.aside project dirty structural saveError shouldQuit,
    fun anchored => anchored.congr selected (by rw [project])⟩

theorem Settles.content (app : App) {project : ProjectState}
    (same : structureOf project = structureOf app.project) :
    Settles app { app with project, dirty := true } :=
  ⟨.content app same, fun anchored => anchored.congr rfl same⟩

theorem Marks.settles (marks : Marks before after) (anchored : after.Anchored) :
    Settles before after :=
  ⟨marks, fun _ => anchored⟩

/-! ## Selecting -/

theorem setBrowseFocus_settles (app : App) (focus : BrowseFocus) :
    Settles app (app.setBrowseFocus focus) :=
  .aside rfl rfl rfl rfl rfl rfl

theorem markSelectedDoneSeen_settles (app : App) : Settles app app.markSelectedDoneSeen := by
  unfold markSelectedDoneSeen
  split
  · exact .refl app
  · next workspace chat selected =>
    split
    · exact .refl app
    · split
      · exact .content app (ProjectState.after_sessionIds (.seen workspace chat) (by simp))
      · exact .refl app

theorem syncFocusToSelection_settles (app : App) : Settles app app.syncFocusToSelection :=
  (setBrowseFocus_settles app _).trans (markSelectedDoneSeen_settles _)

theorem selectedItem_isSome {app : App} :
    app.selectedItem.isSome ↔ ∃ item, app.selected = some item ∧ item ∈ app.navItems := by
  unfold selectedItem navItemPosition
  cases app.selected with
  | none => simp
  | some item => simp [Option.filter, List.isSome_idxOf?]

theorem reconcileSelection_anchored (app : App) (preferred : Option Nat) :
    (app.reconcileSelection preferred).Anchored := by
  unfold reconcileSelection
  split
  · next nothing => exact ⟨nofun, fun _ => nothing⟩
  · next some_items =>
    split
    · next there =>
      obtain ⟨item, chosen, listed⟩ := selectedItem_isSome.mp there
      refine ⟨fun other same => ?_, fun none => ?_⟩
      · cases chosen.symm.trans same
        exact listed
      · cases chosen.symm.trans none
    · refine ⟨fun item chosen => List.mem_of_getElem? chosen, fun none => ?_⟩
      have inside : app.navItems.length ≤ min (preferred.getD 0) (app.navItems.length - 1) :=
        List.getElem?_eq_none_iff.mp none
      have positive := List.length_pos_of_ne_nil some_items
      omega

theorem reconcileSelection_marks (app : App) (preferred : Option Nat) :
    Marks app (app.reconcileSelection preferred) := by
  unfold reconcileSelection
  split
  · exact .aside rfl rfl rfl rfl rfl
  · split
    · exact .refl app
    · exact .aside rfl rfl rfl rfl rfl

theorem reconciled_anchored (app : App) (preferred : Option Nat) :
    (app.reconcileSelection preferred).syncFocusToSelection.Anchored :=
  (syncFocusToSelection_settles _).anchored (reconcileSelection_anchored app preferred)

theorem reconciled_marks (app : App) (preferred : Option Nat) :
    Marks app (app.reconcileSelection preferred).syncFocusToSelection :=
  (reconcileSelection_marks app preferred).trans (syncFocusToSelection_settles _).marks

theorem selectItem_anchored (app : App) (target : NavItem) : (app.selectItem target).Anchored := by
  refine (syncFocusToSelection_settles _).anchored ?_
  split
  · next there =>
    refine ⟨fun item chosen => ?_, nofun⟩
    cases chosen
    exact List.isSome_idxOf?.mp there
  · exact reconcileSelection_anchored app _

theorem selectItem_marks (app : App) (target : NavItem) : Marks app (app.selectItem target) := by
  refine .trans ?_ (syncFocusToSelection_settles _).marks
  split
  · exact .aside rfl rfl rfl rfl rfl
  · exact reconcileSelection_marks app _

theorem selectItem_settles (app : App) (target : NavItem) :
    Settles app (app.selectItem target) :=
  (selectItem_marks app target).settles (selectItem_anchored app target)

theorem moved_settles (app : App) {index : Nat} (inside : index < app.navItems.length) :
    Settles app { app with selected := app.navItems[index]? }.syncFocusToSelection := by
  have chosen : Settles app { app with selected := app.navItems[index]? } := by
    refine Marks.settles (.aside rfl rfl rfl rfl rfl)
      ⟨fun item chosen => List.mem_of_getElem? chosen, fun none => ?_⟩
    exact absurd (List.getElem?_eq_none_iff.mp none) (Nat.not_le_of_lt inside)
  exact chosen.trans (syncFocusToSelection_settles _)

theorem selectNext_settles (app : App) : Settles app app.selectNext := by
  unfold selectNext
  split
  · next positive =>
    refine moved_settles app ?_
    cases app.selectedIndex with
    | none => exact positive
    | some index => exact Nat.mod_lt _ positive
  · exact .refl app

theorem selectPrevious_settles (app : App) : Settles app app.selectPrevious := by
  unfold selectPrevious
  split
  · next positive =>
    refine moved_settles app ?_
    cases located : app.selectedIndex with
    | none => exact Nat.sub_lt positive Nat.one_pos
    | some index =>
      have inside : index < app.navItems.length := by
        obtain ⟨item, -, position⟩ := Option.bind_eq_some_iff.mp located
        exact (List.idxOf?_eq_some_iff.mp position).1
      simp only [Option.elim_some]
      split <;> omega
  · exact .refl app

theorem selectNavIndex_settles (app : App) (index : Nat) :
    Settles app (app.selectNavIndex index) := by
  unfold selectNavIndex
  split
  · exact selectItem_settles app _
  · exact .refl app

theorem selectFirstItemInWorkspace_marks (app : App) (workspaceId : WorkspaceId) :
    Marks app (app.selectFirstItemInWorkspace workspaceId) := by
  unfold selectFirstItemInWorkspace
  dsimp only
  split
  · exact reconciled_marks app _
  · split
    · exact selectItem_marks app _
    · split
      · exact selectItem_marks app _
      · exact reconciled_marks app _

theorem selectFirstItemInWorkspace_anchored (app : App) (workspaceId : WorkspaceId) :
    (app.selectFirstItemInWorkspace workspaceId).Anchored := by
  unfold selectFirstItemInWorkspace
  dsimp only
  split
  · exact reconciled_anchored app _
  · split
    · exact selectItem_anchored app _
    · split
      · exact selectItem_anchored app _
      · exact reconciled_anchored app _

theorem removeWorkspaceIfEmpty_marks (app : App) (workspaceId : WorkspaceId) :
    Marks app (app.removeWorkspaceIfEmpty workspaceId) := by
  unfold removeWorkspaceIfEmpty
  split
  · split
    · exact .structural rfl rfl
    · exact .refl app
  · exact .refl app

theorem deleteTarget_anchored (app : App) (target : DeleteTarget) :
    (app.deleteTarget target).2.Anchored := by
  unfold deleteTarget
  exact reconciled_anchored _ _

theorem deleteTarget_settles (app : App) (target : DeleteTarget) :
    Settles app (app.deleteTarget target).2 := by
  refine Marks.settles ?_ (deleteTarget_anchored app target)
  unfold deleteTarget
  dsimp only
  cases target with
  | workspace workspaceId =>
    exact (removeWorkspaceIfEmpty_marks app workspaceId).trans (reconciled_marks _ _)
  | chat workspaceId chat =>
    dsimp only
    split
    · refine .trans (.trans ?_ (removeWorkspaceIfEmpty_marks _ workspaceId)) (reconciled_marks _ _)
      exact .structural rfl rfl
    · exact reconciled_marks app _
  | terminal workspaceId terminal =>
    dsimp only
    split
    · refine .trans (.trans ?_ (removeWorkspaceIfEmpty_marks _ workspaceId)) (reconciled_marks _ _)
      exact .structural rfl rfl
    · exact reconciled_marks app _

theorem removeFinishedTerminal_settles (app : App) (terminal : TerminalId) :
    Settles app (app.removeFinishedTerminal terminal).2 := by
  unfold removeFinishedTerminal
  split
  · exact .refl app
  · exact deleteTarget_settles app _

/-! ## Adding -/

/-- An operation that adds nothing leaves the project as it was. -/
def AddsOrKeeps {A : Type} (project : ProjectState)
    (result : Except IdAllocationError (Option A) × ProjectState) : Prop :=
  (∀ made, result.1 ≠ .ok (some made)) → result.2 = project

theorem AddsOrKeeps.same {A : Type} {project next : ProjectState}
    {result : Except IdAllocationError (Option A) × ProjectState}
    {outcome : Except IdAllocationError (Option A)} (keeps : AddsOrKeeps project result)
    (made : result = (outcome, next)) (nothing : ∀ value, outcome ≠ .ok (some value)) :
    next = project := by
  subst made
  exact keeps nothing

theorem addTerminalWithLaunch_keeps (project : ProjectState) (workspaceId : WorkspaceId)
    (name : String) (launch : TerminalLaunch) (source : Except IoError IdentitySource) :
    AddsOrKeeps project (project.addTerminalWithLaunch workspaceId name launch source) := by
  intro nothing
  unfold ProjectState.addTerminalWithLaunch ProjectState.withSource at nothing ⊢
  split
  · rfl
  · next opened =>
    unfold ProjectState.addTerminalWithSource at nothing ⊢
    split
    · rfl
    · split
      · rfl
      · rcases project.allocateTerminalId_cases with exhausted | ⟨id, hint, given, -⟩
        · simp only [exhausted]
        · simp_all

theorem addCommandTerminal_keeps (project : ProjectState) (workspaceId : WorkspaceId)
    (name command : String) (source : Except IoError IdentitySource) :
    AddsOrKeeps project (project.addCommandTerminal workspaceId name command source) :=
  addTerminalWithLaunch_keeps project workspaceId name _ source

theorem addChat_keeps (project : ProjectState) (workspaceId : WorkspaceId) (name : String)
    (status : ChatStatus) (agent : AgentKind) (source : Except IoError IdentitySource) :
    AddsOrKeeps project (project.addChat workspaceId name status agent source) := by
  intro nothing
  unfold ProjectState.addChat ProjectState.withSource at nothing ⊢
  split
  · rfl
  · next opened =>
    unfold ProjectState.addChatWithSource at nothing ⊢
    split
    · rfl
    · split
      · rfl
      · rcases project.allocateChatId_cases with exhausted | ⟨id, hint, given, -⟩
        · simp only [exhausted]
        · simp_all

theorem beginAgentGeneration_keeps (project : ProjectState) (chatId : ChatId)
    (source : Except IoError IdentitySource) :
    AddsOrKeeps project (project.beginAgentGeneration chatId source) := by
  intro nothing
  unfold ProjectState.beginAgentGeneration ProjectState.withSource at nothing ⊢
  split
  · rfl
  · unfold ProjectState.beginAgentGenerationWithSource at nothing ⊢
    split
    · split
      · rfl
      · simp_all
    · rfl

theorem added_settles (app : App) (project : ProjectState) (target : NavItem) :
    Settles app (({ app with project }.selectItem target).clearOperationError).markStructuralChange := by
  have marks := selectItem_marks { app with project } target
  have anchored := selectItem_anchored { app with project } target
  exact ⟨.structural marks.saveError marks.shouldQuit, fun _ => anchored.congr rfl rfl⟩

theorem selected_settles (app : App) (target : NavItem) :
    Settles app (app.selectItem target).clearOperationError :=
  (selectItem_settles app target).trans (.aside rfl rfl rfl rfl rfl rfl)

theorem kept_settles {app : App} {project : ProjectState} (same : project = app.project) :
    Settles app { app with project } := by
  subst same
  exact .refl app

theorem settleAddedTerminal_settles (app : App) (workspace : WorkspaceId)
    {added : Except IdAllocationError (Option TerminalId) × ProjectState}
    (keeps : AddsOrKeeps app.project added) :
    Settles app (app.settleAddedTerminal workspace added).2 := by
  have failed : ∀ {project : ProjectState}, project = app.project → ∀ message,
      Settles app ({ app with project }.recordOperationFailure message) := by
    intro project same message
    exact (kept_settles same).trans (.aside rfl rfl rfl rfl rfl rfl)
  obtain ⟨outcome, project⟩ := added
  cases outcome with
  | error error => exact failed (keeps nofun) _
  | ok made =>
    cases made with
    | none => exact failed (keeps nofun) _
    | some terminal => exact added_settles app project _

theorem addTerminalToSelectedWorkspace_settles (app : App)
    (source : Except IoError IdentitySource) :
    Settles app (app.addTerminalToSelectedWorkspace source) := by
  unfold addTerminalToSelectedWorkspace
  split
  · exact .refl app
  · exact settleAddedTerminal_settles app _ (addTerminalWithLaunch_keeps _ _ _ _ _)

theorem openToolInSelectedWorkspace_settles (app : App) (command missing : String)
    (source : Except IoError IdentitySource) :
    Settles app (app.openToolInSelectedWorkspace command missing source).2 := by
  unfold openToolInSelectedWorkspace
  dsimp only
  split
  · exact .aside rfl rfl rfl rfl rfl rfl
  · split
    · exact .refl app
    · split
      · exact selected_settles app _
      · exact settleAddedTerminal_settles app _ (addTerminalWithLaunch_keeps _ _ _ _ _)

theorem openSftpInSelectedWorkspace_settles (app : App) (target : Option String)
    (source : Except IoError IdentitySource) :
    Settles app (app.openSftpInSelectedWorkspace target source).2 := by
  unfold openSftpInSelectedWorkspace
  split
  · exact .refl app
  · split
    · exact selected_settles app _
    · split
      · exact .aside rfl rfl rfl rfl rfl rfl
      · exact settleAddedTerminal_settles app _ (addTerminalWithLaunch_keeps _ _ _ _ _)

theorem submitNewTerminalCommand_settles (app : App) (input : String)
    (source : Except IoError IdentitySource) :
    Settles app (app.submitNewTerminalCommand input source) := by
  unfold submitNewTerminalCommand
  split
  · dsimp only
    split
    · exact .refl app
    · split
      · exact .refl app
      · next workspace _ =>
        split
        · next terminal project made =>
          have cleared : Settles app app.clearPrompt := .aside rfl rfl rfl rfl rfl rfl
          exact cleared.trans (added_settles app.clearPrompt project _)
        · next project made =>
          exact kept_settles ((addCommandTerminal_keeps _ _ _ _ _).same made nofun)
        · next error project made =>
          exact kept_settles ((addCommandTerminal_keeps _ _ _ _ _).same made nofun)
  · exact .refl app

theorem addChat_settles (app : App) (agent : AgentKind) (source : Except IoError IdentitySource) :
    Settles app (app.addChatToSelectedWorkspaceAndReturn agent source).2 := by
  unfold addChatToSelectedWorkspaceAndReturn
  split
  · exact .refl app
  · next workspace _ =>
    have keeps := addChat_keeps app.project workspace defaultAgentChatTitle .idle agent source
    split
    · exact selected_settles app _
    · split
      · exact added_settles app _ _
      · next project made =>
        have kept : Settles app { app with project } := kept_settles (keeps.same made nofun)
        exact kept.trans (.aside rfl rfl rfl rfl rfl rfl)
      · next error project made =>
        have kept : Settles app { app with project } := kept_settles (keeps.same made nofun)
        exact kept.trans (.aside rfl rfl rfl rfl rfl rfl)

theorem setOpenWorkspaceError_settles (app : App) (error : OpenWorkspaceError) :
    Settles app (app.setOpenWorkspaceError error) := by
  unfold setOpenWorkspaceError
  split
  · exact .aside rfl rfl rfl rfl rfl rfl
  · exact .refl app

theorem insertWorkspace_settles (app : App) (name : String) (cwd : Option PathBuf)
    (remote : Option RemoteTarget) (source : Except IoError IdentitySource) :
    Settles app (app.insertWorkspace name cwd remote source) := by
  unfold insertWorkspace
  dsimp only
  split
  · exact setOpenWorkspaceError_settles app _
  · next workspace _ _ =>
    split
    · next terminal project _ =>
      have marks := selectFirstItemInWorkspace_marks { app with project }.clearPrompt workspace
      have anchored :=
        selectFirstItemInWorkspace_anchored { app with project }.clearPrompt workspace
      exact ⟨.structural marks.saveError marks.shouldQuit, fun _ => anchored.congr rfl rfl⟩
    · exact setOpenWorkspaceError_settles app _
    · exact setOpenWorkspaceError_settles app _

theorem existing_settles (app : App) (workspace : WorkspaceId) :
    Settles app (app.clearPrompt.selectFirstItemInWorkspace workspace) := by
  have cleared : Settles app app.clearPrompt := .aside rfl rfl rfl rfl rfl rfl
  exact cleared.trans ((selectFirstItemInWorkspace_marks _ workspace).settles
    (selectFirstItemInWorkspace_anchored _ workspace))

theorem importWorkspacePath_settles (app : App) (cwd : PathBuf) (name : String)
    (source : Except IoError IdentitySource) :
    Settles app (app.importWorkspacePath cwd name source) := by
  unfold importWorkspacePath
  split
  · exact existing_settles app _
  · exact insertWorkspace_settles app _ _ _ _

theorem importRemoteWorkspace_settles (app : App) (name host path : String)
    (source : Except IoError IdentitySource) :
    Settles app (app.importRemoteWorkspace name host path source) := by
  unfold importRemoteWorkspace
  dsimp only
  split
  · exact setOpenWorkspaceError_settles app _
  · split
    · exact setOpenWorkspaceError_settles app _
    · split
      · exact existing_settles app _
      · exact insertWorkspace_settles app _ _ _ _

/-! ## Statuses, transcripts and generations -/

theorem markChatStatusById_settles (app : App) (chat : ChatId) (status : ChatStatus) :
    Settles app (app.markChatStatusById chat status).2 := by
  unfold markChatStatusById
  dsimp only
  split
  · exact .refl app
  · split
    · exact .content app (ProjectState.after_sessionIds (.status chat _) (by simp))
    · exact .refl app

theorem setTerminalRestoreIntent_settles (app : App) (terminal : TerminalId) (restore : Bool) :
    Settles app (app.setTerminalRestoreIntent terminal restore) := by
  unfold setTerminalRestoreIntent
  split
  · exact .refl app
  · split
    · exact .content app (ProjectState.after_sessionIds (.restore terminal restore) (by simp))
    · exact .refl app

theorem recordTerminalStarted_settles (app : App) (terminal : TerminalId) :
    Settles app (app.recordTerminalStarted terminal) := by
  have forgotten : Settles app { app with
      recoverableTerminals := app.recoverableTerminals.erase terminal } :=
    .aside rfl rfl rfl rfl rfl rfl
  exact forgotten.trans (setTerminalRestoreIntent_settles _ terminal true)

theorem markTerminalRecoverable_settles (app : App) (terminal : TerminalId) :
    Settles app (app.markTerminalRecoverable terminal) := by
  unfold markTerminalRecoverable
  split
  · exact .aside rfl rfl rfl rfl rfl rfl
  · exact .refl app

/-- A change that says whether it changed anything, and nothing about which sessions there are. -/
theorem recorded_settles (app : App) {changed : Bool} {project : ProjectState}
    (silent : changed = false → project = app.project)
    (same : structureOf project = structureOf app.project) :
    Settles app { app with project, dirty := app.dirty || changed } := by
  cases changed with
  | true =>
    rw [Bool.or_true]
    exact .content app same
  | false =>
    rw [Bool.or_false]
    exact kept_settles (silent rfl)

theorem beginAgentGeneration_settles (app : App) (chat : ChatId)
    (source : Except IoError IdentitySource) :
    Settles app (app.beginAgentGeneration chat source).2 := by
  have keeps := beginAgentGeneration_keeps app.project chat source
  unfold beginAgentGeneration
  split
  · next error project made => exact kept_settles (keeps.same made nofun)
  · next generation project made =>
    refine recorded_settles app (fun none => keeps.same made ?_) ?_
    · intro value same
      cases same
      cases none
    · have workspaces : (app.project.beginAgentGeneration chat source).2.workspaces =
          app.project.workspaces := ProjectState.beginAgentGeneration_workspaces chat source
      rw [made] at workspaces
      rw [structureOf, workspaces]
      rfl

theorem clearAgentGeneration_settles (app : App) (chat : ChatId) (generation : AgentGeneration) :
    Settles app (app.clearAgentGeneration chat generation).2 := by
  have silent : (app.project.clearAgentGeneration chat generation).1 = false →
      (app.project.clearAgentGeneration chat generation).2 = app.project := by
    unfold ProjectState.clearAgentGeneration
    split
    · exact fun _ => rfl
    · exact nofun
  have same : structureOf (app.project.clearAgentGeneration chat generation).2 =
      structureOf app.project := by
    rw [structureOf, ProjectState.clearAgentGeneration_workspaces]
    rfl
  exact recorded_settles app silent same

theorem withMessages_structureOf (project : ProjectState) (workspace : WorkspaceId)
    (chat : ChatId) (messages : List ChatMessage) :
    structureOf (project.withMessages workspace chat messages) = structureOf project := by
  refine map_modifyFirst ProjectState.sessionIds (fun whole => ?_) _
  exact ProjectState.sessionIds_chats whole (by rw [map_modifyFirst]; exact fun _ => rfl)

/-- An addition to a transcript: nothing, or other messages of one chat. -/
def Written (project : ProjectState) (result : Bool × ProjectState) : Prop :=
  result = (false, project) ∨ ∃ workspace chat messages,
    result = (true, project.withMessages workspace chat messages)

theorem record_settles (app : App) {result : Bool × ProjectState}
    (written : Written app.project result) : Settles app (app.record result) := by
  rcases written with rfl | ⟨workspace, chat, messages, rfl⟩
  · exact recorded_settles app (fun _ => rfl) rfl
  · exact recorded_settles app nofun (withMessages_structureOf _ _ _ _)

theorem appendChatMessage_written (project : ProjectState) (workspace : WorkspaceId)
    (chat : ChatId) (role : ChatMessageRole) (text : String) :
    Written project (project.appendChatMessage workspace chat role text) := by
  unfold ProjectState.appendChatMessage
  split
  · exact .inl rfl
  · split
    · exact .inl rfl
    · exact .inr ⟨_, _, _, rfl⟩

theorem appendChatDelta_written (project : ProjectState) (workspace : WorkspaceId)
    (chat : ChatId) (role : ChatMessageRole) (text : String) :
    Written project (project.appendChatDelta workspace chat role text) := by
  unfold ProjectState.appendChatDelta
  split
  · exact .inl rfl
  · split
    · exact .inl rfl
    · split
      · exact .inr ⟨_, _, _, rfl⟩
      · split
        · exact .inl rfl
        · exact .inr ⟨_, _, _, rfl⟩

theorem appendChatMessage_settles (app : App) (target : AgentTarget) (role : ChatMessageRole)
    (text : String) : Settles app (app.appendChatMessage target role text) :=
  record_settles app (appendChatMessage_written _ _ _ _ _)

theorem applyAgentEvent_settles (app : App) (event : AgentEvent) :
    Settles app (app.applyAgentEvent event) := by
  cases event with
  | messageDelta target role text => exact record_settles app (appendChatDelta_written _ _ _ _ _)
  | toolCall target name arguments => exact appendChatMessage_settles app _ _ _
  | fileChanged target path => exact appendChatMessage_settles app _ _ _
  | commandStarted target command => exact appendChatMessage_settles app _ _ _
  | statusChanged target status => exact markChatStatusById_settles app _ _
  | error target message =>
    exact (markChatStatusById_settles app _ _).trans (appendChatMessage_settles _ _ _ _)

theorem endPtyInput_settles (app : App) (ends : Prop) [Decidable ends] :
    Settles app (if ends then app.endPtyInput else app) := by
  split
  · exact syncFocusToSelection_settles app
  · exact .refl app

theorem applyTerminalExit_settles (app : App) (terminal : TerminalId) (status : Client.PtyExit) :
    Settles app (applyTerminalExit app terminal status).2 := by
  have stopped : Settles app (app.recordTerminalStopped terminal) :=
    setTerminalRestoreIntent_settles app terminal false
  unfold applyTerminalExit
  dsimp only
  generalize app.recordTerminalStopped terminal = recorded at stopped ⊢
  have ended := stopped.trans
    (endPtyInput_settles recorded (recorded.terminalInputTarget = some terminal))
  generalize (if recorded.terminalInputTarget = some terminal then recorded.endPtyInput
    else recorded) = left at ended ⊢
  split
  · have closed : Settles app (closeFinishedTerminal left terminal).2 :=
      ended.trans (removeFinishedTerminal_settles left terminal)
    generalize closeFinishedTerminal left terminal = result at closed ⊢
    obtain ⟨effects, last⟩ := result
    cases effects <;> exact closed
  · exact ended

theorem applyChatExit_settles (app : App) (chat : ChatId) (status : Client.PtyExit) :
    Settles app (applyChatExit app chat status).2 := by
  have reported :=
    markChatStatusById_settles app chat (if status.code = 0 then .done else .failed)
  unfold applyChatExit
  dsimp only
  refine .trans ?_ (endPtyInput_settles _ _)
  generalize (app.markChatStatusById chat (if status.code = 0 then .done else .failed)).2 = marked
    at reported ⊢
  refine reported.trans ?_
  split
  · exact clearAgentGeneration_settles marked chat _
  · exact .refl marked

theorem applyPtyEvent_settles (app : App) (event : Client.PtyEvent) :
    Settles app (applyPtyEvent app event).2 := by
  cases event with
  | scrollback | replayTruncated | output | error | stopFailed | connectionError =>
    exact .refl app
  | takenOver terminal =>
    refine .trans ?_ (endPtyInput_settles _ _)
    cases terminal with
    | chatAgent chat => exact markChatStatusById_settles app chat .failed
    | terminal terminal => exact setTerminalRestoreIntent_settles app terminal false
  | exited terminal status =>
    cases terminal with
    | chatAgent chat => exact applyChatExit_settles app chat status
    | terminal terminal => exact applyTerminalExit_settles app terminal status

theorem act_settles (app : App) (action : Action) : Settles app (app.act action) := by
  cases action with
  | selectNext => exact selectNext_settles app
  | selectPrevious => exact selectPrevious_settles app
  | selectItem target => exact selectItem_settles app target
  | selectNavIndex index => exact selectNavIndex_settles app index
  | agentStatus chat status => exact markChatStatusById_settles app chat _
  | statusChanged chat status => exact markChatStatusById_settles app chat _
  | ptyEvent event => exact applyPtyEvent_settles app event
  | deleteTarget target => exact deleteTarget_settles app target
  | addChat agent source => exact addChat_settles app agent source
  | addTerminal source => exact addTerminalToSelectedWorkspace_settles app source
  | openTool command missing source =>
    exact openToolInSelectedWorkspace_settles app command missing source
  | importWorkspacePath cwd name source => exact importWorkspacePath_settles app cwd name source
  | importRemoteWorkspace name host path source =>
    exact importRemoteWorkspace_settles app name host path source

theorem setPrompt_settles (app : App) (prompt : Prompt) : Settles app (app.setPrompt prompt) :=
  .aside rfl rfl rfl rfl rfl rfl

theorem clearPrompt_settles (app : App) : Settles app app.clearPrompt :=
  .aside rfl rfl rfl rfl rfl rfl

theorem beginNewTerminalCommand_settles (app : App) :
    Settles app app.beginNewTerminalCommand.2 := by
  unfold beginNewTerminalCommand
  split
  · exact .refl app
  · exact setPrompt_settles app _

theorem beginSearch_settles (app : App) : Settles app app.beginSearch.2 := by
  unfold beginSearch
  split
  · exact .refl app
  · exact setPrompt_settles app _

theorem submitCommandPalette_settles (app : App) : Settles app app.submitCommandPalette := by
  unfold submitCommandPalette
  split
  · exact clearPrompt_settles app
  · exact .refl app

theorem submitSearch_settles (app : App) : Settles app app.submitSearch := by
  unfold submitSearch
  split
  · exact clearPrompt_settles app
  · exact .refl app

theorem focusSelectedMain_settles (app : App) : Settles app app.focusSelectedMain.2 := by
  unfold focusSelectedMain
  split
  · exact .refl app
  · exact setBrowseFocus_settles app _

theorem operate_settles (app : App) (operation : Operation) :
    Settles app (app.operate operation) := by
  cases operation with
  | action action => exact act_settles app action
  | agentEvent event => exact applyAgentEvent_settles app event
  | openSftp target source => exact openSftpInSelectedWorkspace_settles app target source
  | beginCommandPalette => exact setPrompt_settles app _
  | beginOpenWorkspace => exact setPrompt_settles app _
  | beginNewTerminalCommand => exact beginNewTerminalCommand_settles app
  | beginSearch => exact beginSearch_settles app
  | cancelPrompt => exact clearPrompt_settles app
  | submitCommandPalette => exact submitCommandPalette_settles app
  | submitSearch => exact submitSearch_settles app
  | submitNewTerminalCommand input source =>
    exact submitNewTerminalCommand_settles app input source
  | focusSidebar => exact setBrowseFocus_settles app _
  | focusSelectedMain => exact focusSelectedMain_settles app
  | beginAgentGeneration chat source => exact beginAgentGeneration_settles app chat source
  | clearAgentGeneration chat generation => exact clearAgentGeneration_settles app chat generation
  | terminalStarted terminal => exact recordTerminalStarted_settles app terminal
  | terminalStopped terminal => exact setTerminalRestoreIntent_settles app terminal false
  | terminalRecoverable terminal => exact markTerminalRecoverable_settles app terminal

end App

end Mult
