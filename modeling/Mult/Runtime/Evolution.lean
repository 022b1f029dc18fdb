import Mult.Project.EditContract
import Mult.Runtime.Actions

/-! What the changes of a project keep: its identity tables, its chats, and the workspaces
they are in.
-/

set_option autoImplicit false

namespace Mult
open Foundation Storage Project App

namespace Project.ProjectState

variable {state : ProjectState}

/-! ## Workspaces after an edit -/

/-- A workspace after an edit: it has no chats, or it is an earlier one with a part of its chats
and perhaps one that the edit added. -/
def Descends (state : ProjectState) (edit : Edit) (workspace : Workspace) : Prop :=
  workspace.chats = [] ∨ ∃ earlier ∈ state.workspaces,
    workspace.id = earlier.id ∧ workspace.remote = earlier.remote ∧
    ∀ chat ∈ workspace.chats, chat ∈ earlier.chats ∨
      (∃ name status agent source, edit = .addChat earlier.id name status agent source) ∧
        chat.id ∉ state.chatIds

theorem Descends.stays {edit : Edit} {workspace : Workspace}
    (listed : workspace ∈ state.workspaces) : state.Descends edit workspace :=
  .inr ⟨workspace, listed, rfl, rfl, fun _ held => .inl held⟩

theorem Descends.part {edit : Edit} {workspace earlier : Workspace}
    (listed : earlier ∈ state.workspaces) (id : workspace.id = earlier.id)
    (remote : workspace.remote = earlier.remote) (chats : workspace.chats ⊆ earlier.chats) :
    state.Descends edit workspace :=
  .inr ⟨earlier, listed, id, remote, fun _ held => .inl (chats held)⟩

theorem pushWorkspace_descends (edit : Edit) (name : String) (cwd : Option PathBuf)
    (remote : Option RemoteTarget) :
    ∀ workspace ∈ (state.pushWorkspace name cwd remote).2.workspaces,
      state.Descends edit workspace := by
  intro workspace listed
  unfold pushWorkspace allocateWorkspaceId at listed
  cases taken : takeAvailableId (.ofList state.workspaceIds) state.nextWorkspaceId u64Max with
  | none =>
    rw [taken] at listed
    exact .stays listed
  | some found =>
    rw [taken] at listed
    rcases List.mem_append.mp listed with earlier | added
    · exact .stays earlier
    · rw [List.mem_singleton.mp added]
      exact .inl rfl

theorem position_id {workspaceId : WorkspaceId} {index : Nat} {workspace : Workspace}
    (located : state.position workspaceId = some index)
    (found : state.workspaces[index]? = some workspace) : workspace.id = workspaceId := by
  obtain ⟨inside, matched, -⟩ := List.findIdx?_eq_some_iff_getElem.mp located
  rw [List.getElem?_eq_getElem inside] at found
  rw [← Option.some.inj found]
  simpa using matched

theorem addChat_descends (workspaceId : WorkspaceId) (name : String) (status : ChatStatus)
    (agent : AgentKind) (source : Except IoError IdentitySource) :
    ∀ workspace ∈ (state.addChat workspaceId name status agent source).2.workspaces,
      state.Descends (.addChat workspaceId name status agent source) workspace := by
  intro workspace listed
  unfold addChat withSource at listed
  split at listed
  · exact .stays listed
  · next opened =>
    unfold addChatWithSource at listed
    split at listed
    · exact .stays listed
    · next index located =>
      split at listed
      · exact .stays listed
      · rcases state.allocateChatId_cases with exhausted | ⟨id, hint, given, durable, new⟩
        · simp only [exhausted] at listed
          exact .stays listed
        · simp only [given] at listed
          rcases mem_modify listed with earlier | ⟨earlier, held, same⟩
          · exact .stays earlier
          · refine .inr ⟨earlier, List.mem_of_getElem? held, by rw [same], by rw [same], ?_⟩
            intro chat member
            rw [same] at member
            rcases List.mem_append.mp member with there | added
            · exact .inl there
            · rw [position_id located held]
              refine .inr ⟨⟨name, status, agent, _, rfl⟩, ?_⟩
              rw [List.mem_singleton.mp added]
              exact fun known => new (mem_keys_chatAgent.mpr known)

theorem addTerminal_descends (edit : Edit) (workspaceId : WorkspaceId) (name : String)
    (launch : TerminalLaunch) (source : Except IoError IdentitySource) :
    ∀ workspace ∈ (state.addTerminalWithLaunch workspaceId name launch source).2.workspaces,
      state.Descends edit workspace := by
  intro workspace listed
  unfold addTerminalWithLaunch withSource at listed
  split at listed
  · exact .stays listed
  · unfold addTerminalWithSource at listed
    split at listed
    · exact .stays listed
    · split at listed
      · exact .stays listed
      · rcases state.allocateTerminalId_cases with exhausted | ⟨id, hint, given, durable, new⟩
        · simp only [exhausted] at listed
          exact .stays listed
        · simp only [given] at listed
          rcases mem_modify listed with earlier | ⟨earlier, held, same⟩
          · exact .stays earlier
          · exact .part (List.mem_of_getElem? held) (by rw [same]) (by rw [same])
              (by rw [same]; exact List.Subset.refl _)

theorem removeWorkspace_descends (edit : Edit) (workspaceId : WorkspaceId) :
    ∀ workspace ∈ (state.removeWorkspace workspaceId).2.workspaces,
      state.Descends edit workspace := by
  intro workspace listed
  unfold removeWorkspace at listed
  split at listed
  · exact .stays listed
  · split at listed
    · exact .stays listed
    · exact .stays (List.mem_of_mem_eraseIdx listed)

theorem removeChat_descends (edit : Edit) (workspaceId : WorkspaceId) (chatId : ChatId) :
    ∀ workspace ∈ (state.removeChat workspaceId chatId).2.workspaces,
      state.Descends edit workspace := by
  intro workspace listed
  unfold removeChat at listed
  split at listed
  · exact .stays listed
  · split at listed
    · exact .stays listed
    · rcases mem_modify listed with earlier | ⟨earlier, held, same⟩
      · exact .stays earlier
      · exact .part (List.mem_of_getElem? held) (by rw [same]) (by rw [same])
          (by rw [same]; exact List.eraseIdx_subset)

theorem removeTerminal_descends (edit : Edit) (workspaceId : WorkspaceId)
    (terminalId : TerminalId) :
    ∀ workspace ∈ (state.removeTerminal workspaceId terminalId).2.workspaces,
      state.Descends edit workspace := by
  intro workspace listed
  unfold removeTerminal at listed
  split at listed
  · exact .stays listed
  · split at listed
    · exact .stays listed
    · rcases mem_modify listed with earlier | ⟨earlier, held, same⟩
      · exact .stays earlier
      · exact .part (List.mem_of_getElem? held) (by rw [same]) (by rw [same])
          (by rw [same]; exact List.Subset.refl _)

theorem beginAgentGeneration_workspaces (chatId : ChatId)
    (source : Except IoError IdentitySource) :
    (state.beginAgentGeneration chatId source).2.workspaces = state.workspaces := by
  unfold beginAgentGeneration withSource
  split
  · rfl
  · unfold beginAgentGenerationWithSource
    split
    · split <;> rfl
    · rfl

theorem clearAgentGeneration_workspaces (chatId : ChatId)
    (generation : Protocol.AgentGeneration) :
    (state.clearAgentGeneration chatId generation).2.workspaces = state.workspaces := by
  unfold clearAgentGeneration
  split <;> rfl

theorem edit_descends (edit : Edit) :
    ∀ workspace ∈ (state.edit edit).1.workspaces, state.Descends edit workspace := by
  cases edit with
  | addWorkspace name cwd => exact pushWorkspace_descends _ name cwd none
  | addRemoteWorkspace name remote => exact pushWorkspace_descends _ name none (some remote)
  | addChat workspaceId name status agent source =>
    exact addChat_descends workspaceId name status agent source
  | addTerminal workspaceId name source => exact addTerminal_descends _ workspaceId name _ source
  | addCommandTerminal workspaceId name command source =>
    exact addTerminal_descends _ workspaceId name _ source
  | beginAgentGeneration chatId source =>
    intro workspace listed
    exact .stays (beginAgentGeneration_workspaces chatId source ▸ listed)
  | clearAgentGeneration chatId generation =>
    intro workspace listed
    exact .stays (clearAgentGeneration_workspaces chatId generation ▸ listed)
  | removeWorkspace workspaceId => exact removeWorkspace_descends _ workspaceId
  | removeChat workspaceId chatId => exact removeChat_descends _ workspaceId chatId
  | removeTerminal workspaceId terminalId => exact removeTerminal_descends _ workspaceId terminalId

/-! ## Sessions after a change of one of them -/

def sessionIds (workspace : Workspace) : WorkspaceId × List ChatId × List TerminalId :=
  (workspace.id, workspace.chats.map ChatSession.id, workspace.terminals.map TerminalSession.id)

theorem keys_of_sessionIds {next : ProjectState}
    (same : next.workspaces.map sessionIds = state.workspaces.map sessionIds) :
    next.keys = state.keys ∧ next.workspaceIds = state.workspaceIds := by
  have through : ∀ project : ProjectState,
      project.keys = ((project.workspaces.map sessionIds).flatMap (·.2.1)).map PtyKey.chatAgent ++
        ((project.workspaces.map sessionIds).flatMap (·.2.2)).map PtyKey.terminal ∧
      project.workspaceIds = (project.workspaces.map sessionIds).map (·.1.raw) := by
    intro project
    rw [List.flatMap_map, List.flatMap_map, List.map_map]
    simp only [keys, chatIds, terminalIds, chats, terminals, workspaceIds, List.map_flatMap]
    exact ⟨rfl, rfl⟩
  rw [(through next).1, (through next).2, (through state).1, (through state).2, same]
  exact ⟨rfl, rfl⟩

theorem Coherent.sameSessions (coherent : state.Coherent) {next : ProjectState}
    (same : next.workspaces.map sessionIds = state.workspaces.map sessionIds)
    (identities : next.sessionIdentities = state.sessionIdentities)
    (generations : next.agentGenerations = state.agentGenerations) : next.Coherent := by
  obtain ⟨keys, ids⟩ := keys_of_sessionIds same
  exact ⟨ids ▸ coherent.workspaceIds, keys ▸ coherent.nodup, keys ▸ coherent.durable,
    keys ▸ identities ▸ coherent.domain, identities ▸ coherent.distinct,
    keys ▸ generations ▸ coherent.generations, generations ▸ coherent.apart⟩

theorem sessionIds_chats (workspace : Workspace) {chats : List ChatSession}
    (same : chats.map ChatSession.id = workspace.chats.map ChatSession.id) :
    sessionIds { workspace with chats } = sessionIds workspace := by
  simp only [sessionIds, same]

theorem sessionIds_terminals (workspace : Workspace) {terminals : List TerminalSession}
    (same : terminals.map TerminalSession.id = workspace.terminals.map TerminalSession.id) :
    sessionIds { workspace with terminals } = sessionIds workspace := by
  simp only [sessionIds, same]

theorem after_sessionIds (change : Change) (noEdit : ∀ edit, change ≠ .edit edit) :
    (state.after change).workspaces.map sessionIds = state.workspaces.map sessionIds := by
  cases change with
  | edit edit => exact absurd rfl (noEdit edit)
  | seen workspace chat =>
    refine map_modifyFirst sessionIds (fun whole => ?_) _
    exact sessionIds_chats whole (by rw [map_modifyFirst]; exact fun _ => rfl)
  | status chat status =>
    refine map_modifyFirst sessionIds (fun whole => ?_) _
    exact sessionIds_chats whole (by rw [map_modifyFirst]; exact fun _ => rfl)
  | restore terminal restore =>
    refine map_modifyFirst sessionIds (fun whole => ?_) _
    exact sessionIds_terminals whole (by rw [map_modifyFirst]; exact fun _ => rfl)

theorem after_coherent (coherent : state.Coherent) (change : Change) :
    (state.after change).Coherent := by
  cases change with
  | edit edit => exact (edit_careful state edit).1 coherent
  | seen workspace chat => exact coherent.sameSessions (after_sessionIds _ (by simp)) rfl rfl
  | status chat status => exact coherent.sameSessions (after_sessionIds _ (by simp)) rfl rfl
  | restore terminal restore =>
    exact coherent.sameSessions (after_sessionIds _ (by simp)) rfl rfl

end Project.ProjectState

namespace App

theorem navItems_eq (app : App) : app.navItems = (app.project.workspaces.map
    ProjectState.sessionIds).flatMap fun ids =>
      ids.2.1.map (.chat ids.1) ++ ids.2.2.map (.terminal ids.1) := by
  unfold navItems sidebarRows
  generalize indexed : app.project.workspaces.zipIdx = rows
  have firsts : rows.map Prod.fst = app.project.workspaces := by
    rw [← indexed]
    exact List.zipIdx_map_fst 0 _
  rw [← firsts, List.flatMap_map, List.flatMap_map, List.filterMap_flatMap]
  congr 1
  funext ⟨workspace, index⟩
  dsimp only
  split <;> simp [ProjectState.sessionIds, List.filterMap_append, List.filterMap_map,
    Function.comp_def]

variable {allowed : ProjectState → Change → Prop} {state next : ProjectState}

theorem Evolves.coherent (evolves : Evolves allowed state next) (coherent : state.Coherent) :
    next.Coherent := by
  induction evolves with
  | refl => exact coherent
  | tail _ step ih =>
    obtain ⟨change, -, rfl⟩ := step
    exact ProjectState.after_coherent ih change

theorem new_coherent {project : ProjectState}
    (valid : project.validateSessionIdentities = .ok ()) : (App.new project).project.Coherent := by
  have coherent :=
    ProjectState.valid_iff_coherent.mp (ProjectState.validateSessionIdentities_ok_iff.mp valid)
  have titled : (normalizeAgentChatTitles project).2.Coherent := by
    refine coherent.sameSessions ?_ rfl rfl
    simp [normalizeAgentChatTitles, ProjectState.sessionIds, Function.comp_def]
  have permissive : Permissive fun _ _ => True :=
    ⟨fun _ _ _ _ _ _ => trivial, fun _ _ _ => trivial, fun _ _ _ => trivial⟩
  have evolved := reconciled_evolves permissive
    { project := (normalizeAgentChatTitles project).2
      selected := none
      mode := .browsing .sidebar
      recoverableTerminals := .ofList (((normalizeAgentChatTitles project).2.terminals.filter
        fun terminal => !terminal.restoreOnLaunch && terminal.launch != .shell).map
          TerminalSession.id)
      dirty := (normalizeAgentChatTitles project).1
      structuralDirty := false
      operationFailure := none
      saveError := none
      shouldQuit := false : App } none
  exact Evolves.coherent evolved titled

/-- In every state of the client in use, the identity tables fit the sessions. -/
theorem coherent_inUse {app : App} {past : List Unit} {permitted : App → Action → Prop}
    (run : inUse.Run permitted app past) : app.project.Coherent := by
  apply run.stateInvariant (motive := fun app => app.project.Coherent)
  · rintro app ⟨project, valid, rfl⟩
    exact new_coherent valid
  · intro app next events action coherent stepped
    have same : app.act action = next := congrArg Prod.fst (Option.some.inj stepped)
    exact same ▸ Evolves.coherent (act_evolves app action) coherent

end App

end Mult
