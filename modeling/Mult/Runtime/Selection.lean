import Mult.Runtime.Saving

/-! What is selected, in every state of the client and after every deletion. -/

set_option autoImplicit false

namespace Mult
open Foundation Project App

namespace App

/-- The row of the sidebar that the target is. -/
def DeleteTarget.item : DeleteTarget → Option NavItem
  | .workspace _ => none
  | .chat owner id => some (.chat owner id)
  | .terminal owner id => some (.terminal owner id)

def NavItem.key : NavItem → PtyKey
  | .chat _ id => .chatAgent id
  | .terminal _ id => .terminal id

/-- The rows of a workspace that can be selected. -/
def itemsOf (workspace : Workspace) : List NavItem :=
  workspace.chats.map (fun chat => .chat workspace.id chat.id) ++
    workspace.terminals.map (fun terminal => .terminal workspace.id terminal.id)

variable {app : App}

theorem navItems_flatMap (app : App) : app.navItems = app.project.workspaces.flatMap itemsOf := by
  rw [navItems_eq, List.flatMap_map]
  congr 1
  funext workspace
  simp [ProjectState.sessionIds, itemsOf, Function.comp_def]

theorem items_nodup {project : ProjectState} (coherent : project.Coherent) :
    (project.workspaces.flatMap itemsOf).Nodup := by
  have keys : (project.workspaces.flatMap itemsOf).map NavItem.key =
      project.workspaces.flatMap Workspace.keys := by
    rw [List.map_flatMap]
    congr 1
    funext workspace
    simp [itemsOf, Workspace.keys, NavItem.key, Function.comp_def]
  apply List.Nodup.of_map NavItem.key
  rw [keys]
  exact (ProjectState.keys_perm project).nodup_iff.mp coherent.nodup

theorem position_of_mem {project : ProjectState} (coherent : project.Coherent)
    {workspace : Workspace} (listed : workspace ∈ project.workspaces) :
    ∃ index, project.position workspace.id = some index ∧
      project.workspaces[index]? = some workspace := by
  cases located : project.position workspace.id with
  | none =>
    have other := List.findIdx?_eq_none_iff.mp located workspace listed
    simp at other
  | some index =>
    obtain ⟨found, held⟩ := ProjectState.position_found located
    refine ⟨index, rfl, ?_⟩
    have same : found.id = workspace.id := ProjectState.position_id located held
    have raw : (fun workspace : Workspace => workspace.id.raw) found =
        (fun workspace : Workspace => workspace.id.raw) workspace := by
      simp only [same]
    rw [held, List.inj_on_of_nodup_map coherent.workspaceIds.1 (List.mem_of_getElem? held) listed raw]

theorem flatMap_modify_erase {W B : Type} [DecidableEq B] (view : W → List B) {change : W → W}
    {items : List W} {index : Nat} {whole : W} {item : B} (held : items[index]? = some whole)
    (once : (items.flatMap view).Nodup) (there : item ∈ view whole)
    (changed : view (change whole) = (view whole).erase item) :
    (items.modify index change).flatMap view = (items.flatMap view).erase item := by
  obtain ⟨inside, rfl⟩ := List.getElem?_eq_some_iff.mp held
  have split : items = items.take index ++ items[index] :: items.drop (index + 1) := by simp
  have parts : items.flatMap view = (items.take index).flatMap view ++
      (view items[index] ++ (items.drop (index + 1)).flatMap view) := by
    conv_lhs => rw [split]
    rw [List.flatMap_append, List.flatMap_cons]
  have front : item ∉ (items.take index).flatMap view := by
    intro early
    rw [parts, List.nodup_append'] at once
    exact once.2.2 early (List.mem_append_left _ there)
  rw [parts, List.erase_append_right _ front, List.erase_append_left _ there, ← changed,
    List.modify_eq_take_cons_drop inside, List.flatMap_append, List.flatMap_cons]

theorem map_eraseIdx_erase {A B : Type} [DecidableEq B] (view : A → B) {items : List A}
    {place : Nat} {removed : A} (held : items[place]? = some removed)
    (once : (items.map view).Nodup) :
    (items.eraseIdx place).map view = (items.map view).erase (view removed) := by
  obtain ⟨inside, rfl⟩ := List.getElem?_eq_some_iff.mp held
  have mapped : place < (items.map view).length := by rwa [List.length_map]
  have erased := once.erase_getElem place mapped
  rw [List.getElem_map] at erased
  rw [erased, List.eraseIdx_map]

theorem mem_items_chat {project : ProjectState} {owner : WorkspaceId} {id : ChatId} :
    .chat owner id ∈ project.workspaces.flatMap itemsOf ↔
      ∃ workspace ∈ project.workspaces, workspace.id = owner ∧
        ∃ chat ∈ workspace.chats, chat.id = id := by
  simp only [List.mem_flatMap, itemsOf, List.mem_append, List.mem_map, NavItem.chat.injEq,
    reduceCtorEq, and_false, exists_false, or_false]
  constructor
  · rintro ⟨workspace, listed, chat, held, same, rfl⟩
    exact ⟨workspace, listed, same, chat, held, rfl⟩
  · rintro ⟨workspace, listed, same, chat, held, rfl⟩
    exact ⟨workspace, listed, chat, held, same, rfl⟩

theorem mem_items_terminal {project : ProjectState} {owner : WorkspaceId} {id : TerminalId} :
    .terminal owner id ∈ project.workspaces.flatMap itemsOf ↔
      ∃ workspace ∈ project.workspaces, workspace.id = owner ∧
        ∃ terminal ∈ workspace.terminals, terminal.id = id := by
  simp only [List.mem_flatMap, itemsOf, List.mem_append, List.mem_map, NavItem.terminal.injEq,
    reduceCtorEq, and_false, exists_false, false_or]
  constructor
  · rintro ⟨workspace, listed, terminal, held, same, rfl⟩
    exact ⟨workspace, listed, same, terminal, held, rfl⟩
  · rintro ⟨workspace, listed, same, terminal, held, rfl⟩
    exact ⟨workspace, listed, terminal, held, same, rfl⟩

theorem findIdx?_of_mem {A : Type} {items : List A} {Q : A → Bool} {item : A}
    (listed : item ∈ items) (matched : Q item = true) :
    ∃ place found, items.findIdx? Q = some place ∧ items[place]? = some found ∧
      Q found = true := by
  cases located : items.findIdx? Q with
  | none =>
    have other := List.findIdx?_eq_none_iff.mp located item listed
    rw [matched] at other
    cases other
  | some place =>
    obtain ⟨inside, holds, -⟩ := List.findIdx?_eq_some_iff_getElem.mp located
    exact ⟨place, items[place], rfl, List.getElem?_eq_getElem inside, holds⟩

theorem itemsOf_nodup {project : ProjectState} (coherent : project.Coherent)
    {workspace : Workspace} (listed : workspace ∈ project.workspaces) :
    (itemsOf workspace).Nodup :=
  (List.nodup_flatMap.mp (items_nodup coherent)).1 workspace listed

theorem removeChat_items {project : ProjectState} (coherent : project.Coherent)
    {owner : WorkspaceId} {id : ChatId}
    (there : .chat owner id ∈ project.workspaces.flatMap itemsOf) :
    (project.removeChat owner id).1.isSome ∧
      (project.removeChat owner id).2.workspaces.flatMap itemsOf =
        (project.workspaces.flatMap itemsOf).erase (.chat owner id) := by
  obtain ⟨workspace, listed, rfl, chat, held, rfl⟩ := mem_items_chat.mp there
  obtain ⟨index, located, found⟩ := position_of_mem coherent listed
  obtain ⟨place, removed, first, spot, matched⟩ :=
    findIdx?_of_mem (Q := fun other => other.id = chat.id) held (by simp)
  have same : removed.id = chat.id := by simpa using matched
  simp only [ProjectState.removeChat, located, found, Option.bind_some, first, spot,
    Option.map_some]
  constructor
  · rfl
  · refine flatMap_modify_erase itemsOf found (items_nodup coherent) ?_ ?_
    · exact List.mem_append_left _ (List.mem_map.mpr ⟨chat, held, rfl⟩)
    · have once := itemsOf_nodup coherent listed
      have chats := map_eraseIdx_erase
        (fun chat : ChatSession => NavItem.chat workspace.id chat.id) spot
        (List.nodup_append'.mp once).1
      rw [itemsOf, itemsOf, chats, same, List.erase_append_left]
      exact List.mem_map.mpr ⟨chat, held, rfl⟩

theorem removeTerminal_items {project : ProjectState} (coherent : project.Coherent)
    {owner : WorkspaceId} {id : TerminalId}
    (there : .terminal owner id ∈ project.workspaces.flatMap itemsOf) :
    (project.removeTerminal owner id).1.isSome ∧
      (project.removeTerminal owner id).2.workspaces.flatMap itemsOf =
        (project.workspaces.flatMap itemsOf).erase (.terminal owner id) := by
  obtain ⟨workspace, listed, rfl, terminal, held, rfl⟩ := mem_items_terminal.mp there
  obtain ⟨index, located, found⟩ := position_of_mem coherent listed
  obtain ⟨place, removed, first, spot, matched⟩ :=
    findIdx?_of_mem (Q := fun other => other.id = terminal.id) held (by simp)
  have same : removed.id = terminal.id := by simpa using matched
  simp only [ProjectState.removeTerminal, located, found, Option.bind_some, first, spot,
    Option.map_some]
  constructor
  · rfl
  · refine flatMap_modify_erase itemsOf found (items_nodup coherent) ?_ ?_
    · exact List.mem_append_right _ (List.mem_map.mpr ⟨terminal, held, rfl⟩)
    · have once := itemsOf_nodup coherent listed
      have terminals := map_eraseIdx_erase
        (fun terminal : TerminalSession => NavItem.terminal workspace.id terminal.id) spot
        (List.nodup_append'.mp once).2.1
      rw [itemsOf, itemsOf, terminals, same, List.erase_append_right]
      simp

theorem removeChat_absent {project : ProjectState} {owner : WorkspaceId} {id : ChatId}
    (absent : .chat owner id ∉ project.workspaces.flatMap itemsOf) :
    (project.removeChat owner id).1 = none := by
  unfold ProjectState.removeChat
  split
  · rfl
  · next index located =>
    split
    · rfl
    · next place removed found =>
      simp only [Option.bind_eq_some_iff, Option.map_eq_some_iff] at found
      obtain ⟨workspace, held, spot, chosen, session, at_spot, -⟩ := found
      obtain ⟨inside, matched, -⟩ := List.findIdx?_eq_some_iff_getElem.mp chosen
      refine absurd (mem_items_chat.mpr ⟨workspace, List.mem_of_getElem? held,
        ProjectState.position_id located held, _, List.getElem_mem inside, ?_⟩) absent
      simpa using matched

theorem removeTerminal_absent {project : ProjectState} {owner : WorkspaceId} {id : TerminalId}
    (absent : .terminal owner id ∉ project.workspaces.flatMap itemsOf) :
    (project.removeTerminal owner id).1 = none := by
  unfold ProjectState.removeTerminal
  split
  · rfl
  · next index located =>
    split
    · rfl
    · next place removed found =>
      simp only [Option.bind_eq_some_iff, Option.map_eq_some_iff] at found
      obtain ⟨workspace, held, spot, chosen, session, at_spot, -⟩ := found
      obtain ⟨inside, matched, -⟩ := List.findIdx?_eq_some_iff_getElem.mp chosen
      refine absurd (mem_items_terminal.mpr ⟨workspace, List.mem_of_getElem? held,
        ProjectState.position_id located held, _, List.getElem_mem inside, ?_⟩) absent
      simpa using matched

theorem workspace_of_position {project : ProjectState} {owner : WorkspaceId} {index : Nat}
    {workspace : Workspace} (located : project.position owner = some index)
    (held : project.workspaces[index]? = some workspace) :
    project.workspace owner = some workspace := by
  obtain ⟨inside, matched, earlier⟩ := List.findIdx?_eq_some_iff_getElem.mp located
  rw [List.getElem?_eq_getElem inside] at held
  cases held
  exact List.find?_eq_some_iff_getElem.mpr ⟨matched, index, inside, rfl, by simpa using earlier⟩

theorem removeWorkspaceIfEmpty_items (app : App) (owner : WorkspaceId) :
    (app.removeWorkspaceIfEmpty owner).project.workspaces.flatMap itemsOf =
      app.project.workspaces.flatMap itemsOf := by
  unfold removeWorkspaceIfEmpty
  split
  · next empty =>
    split
    · next removed project gone =>
      unfold ProjectState.removeWorkspace at gone
      split at gone
      · cases gone
      · next index located =>
        split at gone
        · cases gone
        · next workspace held =>
          cases gone
          rw [workspace_of_position located held] at empty
          obtain ⟨inside, rfl⟩ := List.getElem?_eq_some_iff.mp held
          have split : app.project.workspaces = app.project.workspaces.take index ++
              app.project.workspaces[index] :: app.project.workspaces.drop (index + 1) := by simp
          have none : itemsOf app.project.workspaces[index] = [] := by
            simp only [Option.any_some, Bool.and_eq_true, List.isEmpty_iff] at empty
            simp [itemsOf, empty]
          conv_rhs => rw [split]
          simp only [markStructuralChange, List.eraseIdx_eq_take_drop_succ, List.flatMap_append,
            List.flatMap_cons, none, List.nil_append]
    · rfl
  · rfl

theorem removeWorkspaceIfEmpty_selected (app : App) (owner : WorkspaceId) :
    (app.removeWorkspaceIfEmpty owner).selected = app.selected := by
  unfold removeWorkspaceIfEmpty
  split
  · split <;> rfl
  · rfl

/-- A deletion takes the row of the target, and then puts the selection in order. -/
theorem deleteTarget_steps (coherent : app.project.Coherent) (target : DeleteTarget) :
    ∃ bare : App, bare.selected = app.selected ∧
      bare.navItems = target.item.elim app.navItems app.navItems.erase ∧
      (app.deleteTarget target).2 =
        (bare.reconcileSelection app.selectedIndex).syncFocusToSelection := by
  cases target with
  | workspace owner =>
    refine ⟨_, removeWorkspaceIfEmpty_selected app owner, ?_, rfl⟩
    rw [navItems_flatMap, removeWorkspaceIfEmpty_items, ← navItems_flatMap]
    rfl
  | chat owner id =>
    by_cases there : .chat owner id ∈ app.project.workspaces.flatMap itemsOf
    · obtain ⟨removed, items⟩ := removeChat_items coherent there
      obtain ⟨session, same⟩ := Option.isSome_iff_exists.mp removed
      have split : app.project.removeChat owner id =
          (some session, (app.project.removeChat owner id).2) := Prod.ext same rfl
      refine ⟨({ app with project := (app.project.removeChat owner id).2
        }.markStructuralChange).removeWorkspaceIfEmpty owner,
        removeWorkspaceIfEmpty_selected _ owner, ?_, ?_⟩
      · rw [navItems_flatMap, removeWorkspaceIfEmpty_items, navItems_flatMap]
        exact items
      · unfold deleteTarget
        dsimp only
        rw [split]
    · -- A chat that is gone already: there is no row of it to take.
      refine ⟨app, rfl, ?_, ?_⟩
      · rw [navItems_flatMap]
        exact (List.erase_of_not_mem there).symm
      · have split : app.project.removeChat owner id =
            (none, (app.project.removeChat owner id).2) := Prod.ext (removeChat_absent there) rfl
        unfold deleteTarget
        dsimp only
        rw [split]
  | terminal owner id =>
    by_cases there : .terminal owner id ∈ app.project.workspaces.flatMap itemsOf
    · obtain ⟨removed, items⟩ := removeTerminal_items coherent there
      obtain ⟨session, same⟩ := Option.isSome_iff_exists.mp removed
      have split : app.project.removeTerminal owner id =
          (some session, (app.project.removeTerminal owner id).2) := Prod.ext same rfl
      refine ⟨({ app with
          project := (app.project.removeTerminal owner id).2
          recoverableTerminals := app.recoverableTerminals.erase id
        }.markStructuralChange).removeWorkspaceIfEmpty owner,
        removeWorkspaceIfEmpty_selected _ owner, ?_, ?_⟩
      · rw [navItems_flatMap, removeWorkspaceIfEmpty_items, navItems_flatMap]
        exact items
      · unfold deleteTarget
        dsimp only
        rw [split]
    · refine ⟨app, rfl, ?_, ?_⟩
      · rw [navItems_flatMap]
        exact (List.erase_of_not_mem there).symm
      · have split : app.project.removeTerminal owner id =
            (none, (app.project.removeTerminal owner id).2) :=
          Prod.ext (removeTerminal_absent there) rfl
        unfold deleteTarget
        dsimp only
        rw [split]

theorem markSelectedDoneSeen_frame (app : App) :
    app.markSelectedDoneSeen.selected = app.selected ∧
      app.markSelectedDoneSeen.navItems = app.navItems := by
  unfold markSelectedDoneSeen
  split
  · exact ⟨rfl, rfl⟩
  · next workspace chat _ =>
    split
    · exact ⟨rfl, rfl⟩
    · split
      · refine ⟨rfl, ?_⟩
        rw [navItems_eq, navItems_eq]
        exact congrArg _ (ProjectState.after_sessionIds (.seen workspace chat) (by simp))
      · exact ⟨rfl, rfl⟩

theorem syncFocusToSelection_frame (app : App) :
    app.syncFocusToSelection.selected = app.selected ∧
      app.syncFocusToSelection.navItems = app.navItems :=
  markSelectedDoneSeen_frame _

theorem reconcileSelection_navItems (app : App) (preferred : Option Nat) :
    (app.reconcileSelection preferred).navItems = app.navItems := by
  rw [navItems_eq, navItems_eq, reconcileSelection_project]

theorem reconcileSelection_keeps {item : NavItem} (chosen : app.selected = some item)
    (there : item ∈ app.navItems) (preferred : Option Nat) :
    (app.reconcileSelection preferred).selected = some item := by
  unfold reconcileSelection
  rw [if_neg (List.ne_nil_of_mem there),
    if_pos (selectedItem_isSome.mpr ⟨item, chosen, there⟩)]
  exact chosen

theorem reconcileSelection_moves {item : NavItem} (chosen : app.selected = some item)
    (gone : item ∉ app.navItems) (index : Nat) :
    (app.reconcileSelection (some index)).selected =
      app.navItems[min index (app.navItems.length - 1)]? := by
  unfold reconcileSelection
  split
  · next none =>
    rw [none]
    rfl
  · split
    · next there =>
      obtain ⟨other, same, listed⟩ := selectedItem_isSome.mp there
      cases chosen.symm.trans same
      exact absurd listed gone
    · rfl

theorem deleteTarget_keeps (coherent : app.project.Coherent) (anchored : app.Anchored)
    {target : DeleteTarget} {item : NavItem} (chosen : app.selected = some item)
    (other : target.item ≠ some item) : (app.deleteTarget target).2.selected = some item := by
  obtain ⟨bare, selected, items, same⟩ := deleteTarget_steps coherent target
  rw [same, (syncFocusToSelection_frame _).1]
  refine reconcileSelection_keeps (selected.trans chosen) ?_ _
  rw [items]
  have there := anchored.present item chosen
  cases deleted : target.item with
  | none => exact there
  | some row =>
    refine (List.mem_erase_of_ne ?_).mpr there
    rintro rfl
    exact other deleted

theorem deleteTarget_moves (coherent : app.project.Coherent) {target : DeleteTarget}
    {item : NavItem} {index : Nat} (chosen : app.selected = some item)
    (deleted : target.item = some item) (located : app.navItems[index]? = some item) :
    (app.deleteTarget target).2.navItems = app.navItems.eraseIdx index ∧
      (app.deleteTarget target).2.selected = (app.navItems.eraseIdx index)[
        min index ((app.navItems.eraseIdx index).length - 1)]? := by
  have once : app.navItems.Nodup := by
    rw [navItems_flatMap]
    exact items_nodup coherent
  obtain ⟨inside, at_index⟩ := List.getElem?_eq_some_iff.mp located
  have erased : app.navItems.erase item = app.navItems.eraseIdx index := by
    rw [← at_index]
    exact once.erase_getElem index inside
  have selectedIndex : app.selectedIndex = some index := by
    unfold selectedIndex navItemPosition
    rw [chosen, Option.bind_some]
    refine List.idxOf?_eq_some_iff.mpr ⟨inside, at_index, fun earlier before same => ?_⟩
    have twice := once.getElem_inj_iff.mp (same.trans at_index.symm)
    omega
  obtain ⟨bare, selected, items, same⟩ := deleteTarget_steps coherent target
  rw [deleted, Option.elim_some, erased] at items
  rw [same, (syncFocusToSelection_frame _).1, (syncFocusToSelection_frame _).2,
    reconcileSelection_navItems, selectedIndex]
  refine ⟨items, ?_⟩
  have gone : item ∉ bare.navItems := by
    rw [items, ← erased]
    exact once.not_mem_erase
  rw [reconcileSelection_moves (selected.trans chosen) gone, items]

/-! ## In every state -/

theorem permissive_any : Permissive fun _ _ => True :=
  ⟨fun _ _ _ _ _ _ => trivial, fun _ _ _ => trivial, fun _ _ _ => trivial⟩

theorem record_coherent (coherent : app.project.Coherent) {result : Bool × ProjectState}
    (written : Written app.project result) : (app.record result).project.Coherent := by
  rcases written with rfl | ⟨workspace, chat, messages, rfl⟩
  · exact coherent
  · exact coherent.sameSessions (withMessages_structureOf _ _ _ _) rfl rfl

theorem applyAgentEvent_coherent (coherent : app.project.Coherent) (event : AgentEvent) :
    (app.applyAgentEvent event).project.Coherent := by
  have marked : ∀ chat status, (app.markChatStatusById chat status).2.project.Coherent :=
    fun chat status =>
      have evolves : Evolves (fun _ _ => True) app.project
          (app.markChatStatusById chat status).2.project :=
        markChatStatusById_evolves app chat status trivial
      evolves.coherent coherent
  cases event with
  | messageDelta target role text => exact record_coherent coherent (appendChatDelta_written _ _ _ _ _)
  | toolCall target name arguments =>
    exact record_coherent coherent (appendChatMessage_written _ _ _ _ _)
  | fileChanged target path =>
    exact record_coherent coherent (appendChatMessage_written _ _ _ _ _)
  | commandStarted target command =>
    exact record_coherent coherent (appendChatMessage_written _ _ _ _ _)
  | statusChanged target status => exact marked _ _
  | error target message =>
    exact record_coherent (marked _ _) (appendChatMessage_written _ _ _ _ _)

theorem submitNewTerminalCommand_evolves (app : App) (input : String)
    (source : Except Storage.IoError IdentitySource) :
    Evolves (fun _ _ => True) app.project (app.submitNewTerminalCommand input source).project := by
  unfold submitNewTerminalCommand
  split
  · dsimp only
    split
    · exact .refl
    · split
      · exact .refl
      · next workspace _ =>
        have added : ∀ outcome project, app.project.addCommandTerminal workspace
            (commandTerminalName (Text.trim input) ((app.project.workspace workspace).elim 1
              fun workspace => workspace.terminals.length + 1)) (Text.trim input) source =
            (outcome, project) → Evolves (fun _ _ => True) app.project project := by
          intro outcome project made
          have same : project = app.project.after (.edit (.addCommandTerminal workspace _ _ source)) :=
            (congrArg Prod.snd made).symm
          exact same ▸ Evolves.change _ trivial
        split
        · next terminal project made =>
          exact (added _ _ made).trans
            (selectItem_evolves permissive_any { app with project }.clearPrompt _)
        · next project made => exact added _ _ made
        · next error project made => exact added _ _ made
  · exact .refl

theorem openSftpInSelectedWorkspace_evolves (app : App) (target : Option String)
    (source : Except Storage.IoError IdentitySource) :
    Evolves (fun _ _ => True) app.project
      (app.openSftpInSelectedWorkspace target source).2.project := by
  unfold openSftpInSelectedWorkspace
  split
  · exact .refl
  · next workspace _ =>
    split
    · exact selectItem_evolves permissive_any app _
    · split
      · exact .refl
      · exact settleAddedTerminal_evolves permissive_any app workspace
          (.addCommandTerminal workspace _ _ source) rfl (by simp)

theorem operate_coherent (coherent : app.project.Coherent) (operation : Operation) :
    (app.operate operation).project.Coherent := by
  cases operation with
  | action action => exact (act_evolves app action).coherent coherent
  | agentEvent event => exact applyAgentEvent_coherent coherent event
  | openSftp target source =>
    exact (openSftpInSelectedWorkspace_evolves app target source).coherent coherent
  | submitNewTerminalCommand input source =>
    exact (submitNewTerminalCommand_evolves app input source).coherent coherent
  | beginCommandPalette | beginOpenWorkspace | cancelPrompt | focusSidebar => exact coherent
  | beginNewTerminalCommand =>
    change app.beginNewTerminalCommand.2.project.Coherent
    unfold beginNewTerminalCommand
    split <;> exact coherent
  | beginSearch =>
    change app.beginSearch.2.project.Coherent
    unfold beginSearch
    split <;> exact coherent
  | submitCommandPalette =>
    change app.submitCommandPalette.project.Coherent
    unfold submitCommandPalette
    split <;> exact coherent
  | submitSearch =>
    change app.submitSearch.project.Coherent
    unfold submitSearch
    split <;> exact coherent
  | focusSelectedMain =>
    change app.focusSelectedMain.2.project.Coherent
    unfold focusSelectedMain
    split <;> exact coherent
  | beginAgentGeneration chat source =>
    have edited : (app.project.beginAgentGeneration chat source).2.Coherent :=
      (ProjectState.edit_careful app.project (.beginAgentGeneration chat source)).1 coherent
    change (app.beginAgentGeneration chat source).2.project.Coherent
    unfold beginAgentGeneration
    split
    · next error project made =>
      rw [made] at edited
      exact edited
    · next generation project made =>
      rw [made] at edited
      exact edited
  | clearAgentGeneration chat generation =>
    exact (clearAgentGeneration_evolves permissive_any app chat generation).coherent coherent
  | terminalStarted terminal =>
    exact (setTerminalRestoreIntent_evolves permissive_any
      { app with recoverableTerminals := app.recoverableTerminals.erase terminal } terminal
      true).coherent coherent
  | terminalStopped terminal =>
    exact (setTerminalRestoreIntent_evolves permissive_any app terminal false).coherent coherent
  | terminalRecoverable terminal =>
    change (app.markTerminalRecoverable terminal).project.Coherent
    unfold markTerminalRecoverable
    split <;> exact coherent

end App

namespace Runtime

variable {session : Session}

theorem saveIfDirtyWith_frame (app : App) (forceRetry : Bool) (outcome : Except String Unit)
    (saved : ProjectState) :
    let result := saveIfDirtyWith app forceRetry (writing outcome) saved
    result.2.1.project = app.project ∧ result.2.1.selected = app.selected := by
  rcases saveIfDirtyWith_cases app forceRetry outcome saved with
    same | ⟨same, -⟩ | ⟨message, -, -, same⟩ <;> rw [same] <;> exact ⟨rfl, rfl⟩

/-- The selection and the tables are in order. -/
structure Session.Ordered (session : Session) : Prop where
  coherent : session.app.project.Coherent
  anchored : session.app.Anchored

theorem Session.Ordered.frame (ordered : session.Ordered) {next : Session}
    (project : next.app.project = session.app.project)
    (selected : next.app.selected = session.app.selected) : next.Ordered :=
  ⟨project ▸ ordered.coherent, ordered.anchored.congr selected (by rw [project])⟩

theorem Session.Ordered.perform (ordered : session.Ordered) (activity : Activity) :
    (session.perform activity).Ordered := by
  have saved : ∀ forceRetry outcome, _ :=
    fun forceRetry outcome => saveIfDirtyWith_frame session.app forceRetry outcome session.saved
  cases activity with
  | operation operation =>
    exact ⟨operate_coherent ordered.coherent operation,
      (operate_settles session.app operation).anchored ordered.anchored⟩
  | quit => exact ordered.frame rfl rfl
  | tick now outcome =>
    unfold Session.perform saveContentIfDue
    dsimp only
    split
    · exact ordered
    · exact ordered.frame (saved false outcome).1 (saved false outcome).2
  | checkpoint now outcome => exact ordered.frame (saved true outcome).1 (saved true outcome).2
  | forced outcome => exact ordered.frame (saved true outcome).1 (saved true outcome).2

theorem ordered_of_run {past : List Unit} (run : sessions.Reaches session past) :
    session.Ordered := by
  apply run.stateInvariant
  · rintro session ⟨project, valid, rfl⟩
    exact ⟨new_coherent valid, reconciled_anchored _ none⟩
  · intro session next events activity ordered stepped
    have same : session.perform activity = next := congrArg Prod.fst (Option.some.inj stepped)
    exact same ▸ ordered.perform activity

/-- In every state something is selected that is there, unless nothing is. Deleting another row
keeps the selection, and deleting the selected one selects what is at its place then, or the
last one. -/
theorem selection_kept {past : List Unit} (run : sessions.Reaches session past) :
    (∀ item, session.app.selected = some item → item ∈ session.app.navItems) ∧
    (session.app.selected = none ↔ session.app.navItems = []) ∧
    (∀ target item, session.app.selected = some item → target.item ≠ some item →
      (session.app.deleteTarget target).2.selected = some item) ∧
    (∀ target item index, session.app.selected = some item → target.item = some item →
      session.app.navItems[index]? = some item →
        let rest := session.app.navItems.eraseIdx index
        (session.app.deleteTarget target).2.navItems = rest ∧
          (session.app.deleteTarget target).2.selected = rest[min index (rest.length - 1)]?) := by
  obtain ⟨coherent, anchored⟩ := ordered_of_run run
  refine ⟨anchored.present, ⟨anchored.empty, fun nothing => ?_⟩, ?_, ?_⟩
  · cases selected : session.app.selected with
    | none => rfl
    | some item =>
      have there := anchored.present item selected
      rw [nothing] at there
      cases there
  · exact fun target item chosen other => deleteTarget_keeps coherent anchored chosen other
  · exact fun target item index chosen deleted located =>
      deleteTarget_moves coherent chosen deleted located

theorem selection_kept_importAgain : ∃ session past, sessions.Reaches session past ∧
    session.app.navItems = [.terminal ⟨1⟩ ⟨1⟩, .terminal ⟨2⟩ ⟨2⟩] ∧
    session.app.selected = some (.terminal ⟨2⟩ ⟨2⟩) ∧
    (session.app.deleteTarget (.terminal ⟨1⟩ ⟨1⟩)).2.selected = some (.terminal ⟨2⟩ ⟨2⟩) ∧
    (session.app.deleteTarget (.terminal ⟨2⟩ ⟨2⟩)).2.selected = some (.terminal ⟨1⟩ ⟨1⟩) := by
  have valid : ProjectState.newProject.validateSessionIdentities = .ok () := by decide
  obtain ⟨session, past, reached, tested⟩ := sessions.exists_reaches ⟨_, valid, rfl⟩ importAgain
    (fun session _ => session.app.navItems == [.terminal ⟨1⟩ ⟨1⟩, .terminal ⟨2⟩ ⟨2⟩] &&
      session.app.selected == some (.terminal ⟨2⟩ ⟨2⟩)) (by decide)
  simp only [Bool.and_eq_true, beq_iff_eq] at tested
  obtain ⟨items, selected⟩ := tested
  obtain ⟨-, -, keeps, moves⟩ := selection_kept reached
  have last := (moves (.terminal ⟨2⟩ ⟨2⟩) _ 1 selected rfl (by rw [items]; rfl)).2
  rw [items] at last
  exact ⟨session, past, reached, items, selected,
    keeps (.terminal ⟨1⟩ ⟨1⟩) _ selected (by decide), last⟩

end Runtime

end Mult
