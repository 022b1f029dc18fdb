import Mult.Runtime.Evolution

/-! A remote project's agent runs in the `tmux` session that is named after the project. Two
workspaces whose names come out the same share that session, unless only one of them has an
agent.
-/

set_option autoImplicit false

namespace Mult.App
open Foundation Storage Project

/-- Both workspaces are on one host, and their agents use one `tmux` session there. -/
def SameSession (first second : Workspace) : Prop :=
  ∃ one other, first.remote = some one ∧ second.remote = some other ∧
    one.host = other.host ∧ one.session = other.session

/-- No two agent chats of different remote workspaces on a host use the same session. -/
def OneAgentPerSession (project : ProjectState) : Prop :=
  ∀ first ∈ project.workspaces, ∀ second ∈ project.workspaces, first.id ≠ second.id →
    SameSession first second → first.chats = [] ∨ second.chats = []

/-- Where the action adds a chat, no other workspace that shares the session of the selected one
has a chat. -/
def SessionFree (app : App) (action : Action) : Prop :=
  ∀ agent source, action = .addChat agent source →
    ∀ workspace ∈ app.project.workspaces, app.selectedWorkspaceId = some workspace.id →
      ∀ other ∈ app.project.workspaces, other.id ≠ workspace.id →
        SameSession workspace other → other.chats = []

variable {project : ProjectState} {app : App}

/-! ## Workspaces after a change -/

/-- What the sessions of a project's agents depend on. -/
def shape (workspace : Workspace) : WorkspaceId × Option RemoteTarget × Bool :=
  (workspace.id, workspace.remote, workspace.chats.isEmpty)

theorem isEmpty_of_map_eq {A B : Type} {view : A → B} {items after : List A}
    (same : after.map view = items.map view) : after.isEmpty = items.isEmpty := by
  rw [← List.isEmpty_map (f := view), same, List.isEmpty_map]

theorem after_shape (change : Change) (noEdit : ∀ edit, change ≠ .edit edit) :
    (project.after change).workspaces.map shape = project.workspaces.map shape := by
  have chats : ∀ (workspace : Workspace) (id : ChatId) (change : ChatSession → ChatSession),
      (∀ session, (change session).id = session.id) →
        shape { workspace with
          chats := modifyFirst (fun chat => chat.id = id) change workspace.chats } =
            shape workspace := by
    intro workspace id change same
    simp only [shape, isEmpty_of_map_eq (map_modifyFirst ChatSession.id same workspace.chats)]
  cases change with
  | edit edit => exact absurd rfl (noEdit edit)
  | seen workspace chat =>
    refine map_modifyFirst shape (fun whole => ?_) _
    exact chats whole chat _ (by intro; rfl)
  | status chat status =>
    refine map_modifyFirst shape (fun whole => ?_) _
    exact chats whole chat _ (by intro; rfl)
  | restore terminal restore =>
    refine map_modifyFirst shape (fun whole => ?_) _
    rfl

theorem after_descends {change : Change} {workspace : Workspace}
    (listed : workspace ∈ (project.after change).workspaces) (some : workspace.chats ≠ []) :
    ∃ earlier ∈ project.workspaces, workspace.id = earlier.id ∧
      workspace.remote = earlier.remote ∧ (earlier.chats ≠ [] ∨
        ∃ name status agent source, change = .edit (.addChat earlier.id name status agent source)) := by
  by_cases noEdit : ∀ edit, change ≠ .edit edit
  · have there : shape workspace ∈ (project.after change).workspaces.map shape :=
      List.mem_map_of_mem listed
    rw [after_shape change noEdit] at there
    obtain ⟨earlier, held, same⟩ := List.mem_map.mp there
    simp only [shape, Prod.mk.injEq] at same
    obtain ⟨id, remote, empty⟩ := same
    refine ⟨earlier, held, id.symm, remote.symm, .inl ?_⟩
    rw [ne_eq, ← List.isEmpty_iff, empty, List.isEmpty_iff]
    exact some
  · simp only [not_forall, Classical.not_not] at noEdit
    obtain ⟨edit, rfl⟩ := noEdit
    rcases ProjectState.edit_descends edit workspace listed with none |
      ⟨earlier, held, id, remote, part⟩
    · exact absurd none some
    · refine ⟨earlier, held, id, remote, ?_⟩
      obtain ⟨chat, member⟩ := List.exists_mem_of_ne_nil _ some
      rcases part chat member with old | ⟨⟨name, status, agent, source, rfl⟩, -⟩
      · exact .inl (List.ne_nil_of_mem old)
      · exact .inr ⟨name, status, agent, source, rfl⟩

theorem SameSession.congr {first second one other : Workspace} (same : SameSession first second)
    (left : first.remote = one.remote) (right : second.remote = other.remote) :
    SameSession one other := by
  obtain ⟨a, b, here, there, both⟩ := same
  exact ⟨a, b, left ▸ here, right ▸ there, both⟩

theorem SameSession.symm {first second : Workspace} (same : SameSession first second) :
    SameSession second first := by
  obtain ⟨a, b, here, there, host, session⟩ := same
  exact ⟨b, a, there, here, host.symm, session.symm⟩

theorem OneAgentPerSession.after {action : Action} {change : Change}
    (alone : OneAgentPerSession project) (may : May app action project change)
    (free : SessionFree app action) : OneAgentPerSession (project.after change) := by
  intro first one second other different same
  by_contra both
  rw [not_or] at both
  obtain ⟨left, held, leftId, leftRemote, leftChats⟩ := after_descends one both.1
  obtain ⟨right, there, rightId, rightRemote, rightChats⟩ := after_descends other both.2
  rw [leftId, rightId] at different
  have shared : SameSession left right := same.congr leftRemote rightRemote
  -- A chat added to one of the two finds the other one with a chat.
  have added : ∀ here ∈ project.workspaces, ∀ elsewhere ∈ project.workspaces,
      here.id ≠ elsewhere.id → SameSession here elsewhere →
      (∃ name status agent source, change = .edit (.addChat here.id name status agent source)) →
      elsewhere.chats = [] := by
    rintro here inside elsewhere beside apart session ⟨name, status, agent, source, rfl⟩
    obtain ⟨rfl, -, selected, asked⟩ := may
    exact free agent source asked here inside selected elsewhere beside apart.symm session
  have missing : ∀ here elsewhere : Workspace, here.id ≠ elsewhere.id →
      (∃ name status agent source, change = .edit (.addChat here.id name status agent source)) →
      ¬ ∃ name status agent source,
        change = .edit (.addChat elsewhere.id name status agent source) := by
    rintro here elsewhere apart ⟨name, status, agent, source, rfl⟩ ⟨_, _, _, _, same⟩
    simp only [Change.edit.injEq, Edit.addChat.injEq] at same
    exact apart same.1
  rcases leftChats with leftSome | leftAdded
  · rcases rightChats with rightSome | rightAdded
    · exact (alone left held right there different shared).elim leftSome rightSome
    · exact leftSome (added right there left held different.symm shared.symm rightAdded)
  · rcases rightChats with rightSome | rightAdded
    · exact rightSome (added left held right there different shared leftAdded)
    · exact missing left right different leftAdded rightAdded

theorem OneAgentPerSession.act (alone : OneAgentPerSession app.project) {action : Action}
    (free : SessionFree app action) : OneAgentPerSession (app.act action).project := by
  have along : ∀ last, Evolves (May app action) app.project last → OneAgentPerSession last := by
    intro last evolves
    induction evolves with
    | refl => exact alone
    | tail _ step ih =>
      obtain ⟨change, may, rfl⟩ := step
      exact ih.after may free
  exact along _ (act_evolves app action)

/-! ## Two agents in one session -/

theorem oneAgentPerSession_iff : OneAgentPerSession project ↔
    ∀ first ∈ project.workspaces.map shape, ∀ second ∈ project.workspaces.map shape,
      first.1 ≠ second.1 → (∃ one other, first.2.1 = some one ∧ second.2.1 = some other ∧
        one.host = other.host ∧ one.session = other.session) →
      first.2.2 = true ∨ second.2.2 = true := by
  simp only [List.forall_mem_map, shape, List.isEmpty_iff]
  rfl

theorem oneAgentPerSession_congr {next : ProjectState}
    (same : next.workspaces.map shape = project.workspaces.map shape) :
    OneAgentPerSession next ↔ OneAgentPerSession project := by
  rw [oneAgentPerSession_iff, same, ← oneAgentPerSession_iff]

theorem markSelectedDoneSeen_shape (app : App) :
    app.markSelectedDoneSeen.project.workspaces.map shape = app.project.workspaces.map shape := by
  unfold markSelectedDoneSeen
  split
  · rfl
  · next workspace chat selected =>
    split
    · rfl
    · split
      · exact after_shape (.seen workspace chat) (by simp)
      · rfl

theorem selectItem_shape (app : App) (target : NavItem) :
    (app.selectItem target).project.workspaces.map shape = app.project.workspaces.map shape := by
  have synced : ∀ app : App, app.syncFocusToSelection.project.workspaces.map shape =
      app.project.workspaces.map shape := fun app => markSelectedDoneSeen_shape _
  unfold selectItem
  rw [synced]
  split
  · rfl
  · rw [reconcileSelection_project]

theorem addChat_workspaces {workspaceId : WorkspaceId} {name : String} {status : ChatStatus}
    {agent : AgentKind} {source : Except IoError IdentitySource} {chat : ChatId}
    {next : ProjectState}
    (added : project.addChat workspaceId name status agent source = (.ok (some chat), next)) :
    ∃ index, project.position workspaceId = some index ∧
      next.workspaces = project.workspaces.modify index fun workspace =>
        { workspace with chats := workspace.chats ++ [⟨chat, name, status, agent, []⟩] } := by
  unfold ProjectState.addChat ProjectState.withSource at added
  split at added
  · cases added
  · unfold ProjectState.addChatWithSource at added
    split at added
    · cases added
    · next index located =>
      split at added
      · cases added
      · rcases project.allocateChatId_cases with exhausted | ⟨id, hint, given, -, -⟩
        · simp only [exhausted] at added
          cases added
        · simp only [given] at added
          cases added
          exact ⟨index, located, rfl⟩

theorem addChat_doubles (coherent : app.project.Coherent) {agent : AgentKind}
    {source : Except IoError IdentitySource} {workspaceId : WorkspaceId} {chat : ChatId}
    (added : (app.addChatToSelectedWorkspaceAndReturn agent source).1 = some (workspaceId, chat))
    (new : chat ∉ app.project.chatIds) (taken : ¬ SessionFree app (.addChat agent source)) :
    ¬ OneAgentPerSession (app.act (.addChat agent source)).project := by
  simp only [SessionFree, not_forall] at taken
  obtain ⟨_, _, asked, workspace, held, selected, other, there, different, same, busy⟩ := taken
  cases asked
  simp only [act]
  unfold addChatToSelectedWorkspaceAndReturn at added ⊢
  simp only [selected] at added ⊢
  split at added
  · next existing found =>
    -- The chat that a remote workspace already has is no new one.
    obtain ⟨inside, listed, first⟩ := Option.bind_eq_some_iff.mp found
    obtain ⟨target, -, head⟩ := Option.bind_eq_some_iff.mp first
    obtain ⟨session, at_head, id⟩ := Option.map_eq_some_iff.mp head
    cases added
    refine absurd (List.mem_map.mpr ⟨session, ?_, id⟩) new
    exact List.mem_flatMap.mpr ⟨inside, List.mem_of_find?_eq_some listed,
      List.mem_of_mem_head? at_head⟩
  · split at added
    · next made next outcome =>
      cases added
      obtain ⟨index, located, workspaces⟩ := addChat_workspaces outcome
      obtain ⟨target, found⟩ := ProjectState.position_found located
      have one : target = workspace := by
        have ids : app.project.workspaces.map (fun workspace => workspace.id.raw) =
            app.project.workspaceIds := rfl
        refine List.inj_on_of_nodup_map (ids ▸ coherent.workspaceIds.1)
          (List.mem_of_getElem? found) held ?_
        rw [ProjectState.position_id located found]
      subst one
      have kept : OneAgentPerSession ({ app with project := next }.selectItem
          (.chat target.id chat)).project ↔ OneAgentPerSession next :=
        oneAgentPerSession_congr (selectItem_shape _ _)
      intro doubled
      have alone := kept.mp doubled
      obtain ⟨place, apart⟩ := List.mem_iff_getElem?.mp there
      have elsewhere : index ≠ place := by
        rintro rfl
        exact different (congrArg Workspace.id (Option.some.inj (apart.symm.trans found)))
      have stays : other ∈ next.workspaces := by
        rw [workspaces]
        exact List.mem_of_getElem? ((List.getElem?_modify_ne _ _ elsewhere).trans apart)
      have grown : { target with
          chats := target.chats ++ [⟨chat, defaultAgentChatTitle, .idle, agent, []⟩] } ∈
            next.workspaces := by
        rw [workspaces]
        refine List.mem_of_getElem? (i := index) ?_
        rw [List.getElem?_modify_eq, found]
        rfl
      rcases alone _ grown other stays different.symm (same.congr rfl rfl) with none | none
      · exact absurd none (by simp)
      · exact busy none
    · cases added
    · cases added

/-- From any state in which no two agent chats of different remote workspaces on a host use one
session, no run doubles a session whose steps add a chat only while no other workspace's chat
uses the session of the selected workspace; a new chat added at any other time doubles it. -/
theorem one_agent_per_session {past : List Unit} (reached : inUse.Reaches app past)
    (alone : OneAgentPerSession app.project) :
    (∀ next more, (inUse.onward app).Run SessionFree next more →
      OneAgentPerSession next.project) ∧
    ∀ agent source workspace chat,
      (app.addChatToSelectedWorkspaceAndReturn agent source).1 = some (workspace, chat) →
      chat ∉ app.project.chatIds →
      (OneAgentPerSession (app.act (.addChat agent source)).project ↔
        SessionFree app (.addChat agent source)) := by
  constructor
  · intro next more later
    induction later with
    | start initial =>
      cases initial
      exact alone
    | @step middle next past events action _ free stepped ih =>
      have same : middle.act action = next := congrArg Prod.fst (Option.some.inj stepped)
      exact same ▸ OneAgentPerSession.act ih free
  · intro agent source workspace chat added new
    constructor
    · intro kept
      by_contra taken
      exact addChat_doubles (coherent_inUse reached) added new taken kept
    · exact alone.act

theorem newProject_valid : ProjectState.newProject.validateSessionIdentities = .ok () := by
  decide

/-- Two directories of one host under names that differ in a character `tmux` does not take. -/
def importTwo : List Action :=
  [.importRemoteWorkspace "docs.site" "box" "/srv/a" (.ok (countingSource 2)),
    .addChat .pi (.ok (countingSource 2)),
    .importRemoteWorkspace "docs-site" "box" "/srv/b" (.ok (countingSource 2))]

instance (first second : Workspace) : Decidable (SameSession first second) :=
  decidable_of_iff (first.remote.any fun one => second.remote.any fun other =>
    one.host = other.host ∧ one.session = other.session) (by
      simp only [SameSession, Option.any_eq_true, decide_eq_true_eq]
      grind)

instance (project : ProjectState) : Decidable (OneAgentPerSession project) :=
  inferInstanceAs (Decidable (∀ first ∈ project.workspaces, ∀ second ∈ project.workspaces,
    first.id ≠ second.id → SameSession first second → first.chats = [] ∨ second.chats = []))

def addsChat : Action → Bool
  | .addChat _ _ => true
  | _ => false

instance (app : App) (action : Action) : Decidable (SessionFree app action) :=
  decidable_of_iff (addsChat action = true → ∀ workspace ∈ app.project.workspaces,
    app.selectedWorkspaceId = some workspace.id →
      ∀ other ∈ app.project.workspaces, other.id ≠ workspace.id →
        SameSession workspace other → other.chats = [])
    (by cases action <;> simp [SessionFree, addsChat])

/-- With both imported and an agent in the first, a third directory under a name of its own can be
given an agent as well. -/
theorem one_agent_per_session_importTwo : ∃ app past next more, inUse.Reaches app past ∧
    (inUse.onward app).Run SessionFree next more ∧
    app.project.workspaces.map (fun workspace => workspace.chats.length) = [1, 0] ∧
    next.project.workspaces.map (fun workspace => workspace.chats.length) = [1, 0, 1] ∧
    OneAgentPerSession next.project := by
  obtain ⟨app, past, next, more, reached, later, passed⟩ := inUse.exists_onward SessionFree
    ⟨_, newProject_valid, rfl⟩ importTwo
    [.importRemoteWorkspace "notes" "box" "/srv/c" (.ok (countingSource 2)),
      .addChat .claudeCode (.ok (countingSource 2))]
    (fun app _ next _ => OneAgentPerSession app.project ∧
      app.project.workspaces.map (fun workspace => workspace.chats.length) = [1, 0] ∧
      next.project.workspaces.map (fun workspace => workspace.chats.length) = [1, 0, 1]) (by decide +kernel)
  obtain ⟨alone, before, after⟩ := of_decide_eq_true passed
  exact ⟨app, past, next, more, reached, later, before, after,
    (one_agent_per_session reached alone).1 next more later⟩

/-- Two remote projects imported from one host get one session, and each is given an agent. -/
theorem imports_share_session : ∃ app past, inUse.Reaches app past ∧
    ∃ first ∈ app.project.workspaces, ∃ second ∈ app.project.workspaces,
      first.id ≠ second.id ∧ SameSession first second ∧
      first.chats ≠ [] ∧ second.chats ≠ [] := by
  obtain ⟨app, past, reached, tested⟩ := inUse.exists_reaches ⟨_, newProject_valid, rfl⟩
    (importTwo ++ [.addChat .claudeCode (.ok (countingSource 2))])
    (fun app _ => app.project.workspaces.map (fun workspace => (workspace.id.raw, workspace.remote,
      workspace.chats.length)) = [(1, some ⟨"box", "/srv/a", "docs-site"⟩, 1),
        (2, some ⟨"box", "/srv/b", "docs-site"⟩, 1)]) (by decide)
  rw [decide_eq_true_eq, List.map_eq_cons_iff] at tested
  obtain ⟨first, rest, listed, one, others⟩ := tested
  obtain ⟨second, last, further, other, -⟩ := List.map_eq_cons_iff.mp others
  rw [further] at listed
  simp only [Prod.mk.injEq] at one other
  refine ⟨app, past, reached, first, by simp [listed], second, by simp [listed], ?_, ?_, ?_, ?_⟩
  · intro same
    rw [same, other.1] at one
    exact absurd one.1 (by decide)
  · exact ⟨_, _, one.2.1, other.2.1, rfl, rfl⟩
  · exact List.ne_nil_of_length_pos (by omega)
  · exact List.ne_nil_of_length_pos (by omega)

end Mult.App
