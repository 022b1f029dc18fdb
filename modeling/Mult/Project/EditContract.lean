import Mult.Project.Edits

/-! Every edit keeps the identity tables in step with the sessions, and an edit that fails
leaves the project as it was.
-/

set_option autoImplicit false

namespace Mult.Project
open Foundation Protocol Storage
open Std (ExtTreeMap ExtTreeSet)

theorem SessionIdentities.get_eraseAll (identities : SessionIdentities) (keys : List PtyKey)
    (key : PtyKey) : (identities.eraseAll keys).get key =
      if key ∈ keys then none else identities.get key := by
  induction keys generalizing identities with
  | nil => rfl
  | cons first rest ih =>
    rw [eraseAll, List.foldl_cons]
    change ((identities.erase first).eraseAll rest).get key = _
    rw [ih, get_erase]
    by_cases later : key ∈ rest
    · simp [later]
    · by_cases same : first = key
      · simp [same]
      · simp [later, same, Ne.symm same]

theorem SessionIdentities.Distinct.eraseAll {identities : SessionIdentities}
    (distinct : identities.Distinct) (keys : List PtyKey) :
    (identities.eraseAll keys).Distinct := by
  induction keys generalizing identities with
  | nil => exact distinct
  | cons first rest ih => exact ih (distinct.erase first)

namespace ProjectState

variable {state next : ProjectState}

/-- The check of the identity tables, said of both kinds of session at once. -/
structure Coherent (state : ProjectState) : Prop where
  workspaceIds : state.workspaceIds.Nodup ∧ 0 ∉ state.workspaceIds
  nodup : state.keys.Nodup
  durable : ∀ key ∈ state.keys, key.isDurable = true
  domain : ∀ key, (state.sessionIdentities.get key).isSome ↔ key ∈ state.keys
  distinct : state.sessionIdentities.Distinct
  generations : ∀ id ∈ state.agentGenerations, .chatAgent id ∈ state.keys
  apart : state.agentGenerations.values.Nodup

theorem keys_nodup_iff : state.keys.Nodup ↔ state.chatIds.Nodup ∧ state.terminalIds.Nodup := by
  have chats : (state.chatIds.map PtyKey.chatAgent).Nodup ↔ state.chatIds.Nodup :=
    List.nodup_map_iff fun _ _ same => PtyKey.chatAgent.inj same
  have terminals : (state.terminalIds.map PtyKey.terminal).Nodup ↔ state.terminalIds.Nodup :=
    List.nodup_map_iff fun _ _ same => PtyKey.terminal.inj same
  rw [keys, List.nodup_append', chats, terminals]
  constructor
  · rintro ⟨chatIds, terminalIds, -⟩
    exact ⟨chatIds, terminalIds⟩
  · rintro ⟨chatIds, terminalIds⟩
    refine ⟨chatIds, terminalIds, ?_⟩
    intro key chat terminal
    obtain ⟨id, -, rfl⟩ := List.mem_map.mp chat
    obtain ⟨other, -, same⟩ := List.mem_map.mp terminal
    cases same

theorem valid_iff_coherent : state.Valid ↔ state.Coherent := by
  constructor
  · intro valid
    refine ⟨valid.workspaceIds, keys_nodup_iff.mpr ⟨valid.chatIds.1, valid.terminalIds.1⟩, ?_, ?_,
      SessionIdentities.tokens_nodup_iff.mp valid.tokens, ?_, valid.distinct⟩
    · intro key member
      cases key with
      | chatAgent id => exact valid.chatIds.2 id (mem_keys_chatAgent.mp member)
      | terminal id => exact valid.terminalIds.2 id (mem_keys_terminal.mp member)
    · intro key
      cases key with
      | chatAgent id =>
        rw [mem_keys_chatAgent, ← valid.chatTable, ExtTreeMap.mem_iff_isSome_getElem?]
        rfl
      | terminal id =>
        rw [mem_keys_terminal, ← valid.terminalTable, ExtTreeMap.mem_iff_isSome_getElem?]
        rfl
    · intro id member
      exact mem_keys_chatAgent.mpr (valid.generations id member)
  · intro coherent
    obtain ⟨chatIds, terminalIds⟩ := keys_nodup_iff.mp coherent.nodup
    refine ⟨coherent.workspaceIds, ⟨chatIds, ?_⟩, ⟨terminalIds, ?_⟩, ?_, ?_,
      SessionIdentities.tokens_nodup_iff.mpr coherent.distinct, ?_, coherent.apart⟩
    · intro id member
      exact coherent.durable (.chatAgent id) (mem_keys_chatAgent.mpr member)
    · intro id member
      exact coherent.durable (.terminal id) (mem_keys_terminal.mpr member)
    · intro id
      rw [← mem_keys_chatAgent, ← coherent.domain, ExtTreeMap.mem_iff_isSome_getElem?]
      rfl
    · intro id
      rw [← mem_keys_terminal, ← coherent.domain, ExtTreeMap.mem_iff_isSome_getElem?]
      rfl
    · intro id member
      exact mem_keys_chatAgent.mp (coherent.generations id member)

theorem keys_perm (state : ProjectState) :
    state.keys.Perm (state.workspaces.flatMap Workspace.keys) := by
  have split := List.flatMap_append_perm state.workspaces
    (fun workspace => workspace.chats.map fun chat => PtyKey.chatAgent chat.id)
    (fun workspace => workspace.terminals.map fun terminal => PtyKey.terminal terminal.id)
  rw [← List.map_flatMap, ← List.map_flatMap] at split
  rw [keys, chatIds, terminalIds, List.map_map, List.map_map]
  exact split

theorem Coherent.add (coherent : state.Coherent) {key : PtyKey} {token : SessionToken}
    (new : key ∉ state.keys) (durable : key.isDurable = true)
    (fresh : token ∉ state.sessionIdentities.tokens)
    (keys : next.keys.Perm (key :: state.keys))
    (identities : next.sessionIdentities = state.sessionIdentities.insert key token)
    (generations : next.agentGenerations = state.agentGenerations)
    (workspaceIds : next.workspaceIds = state.workspaceIds) : next.Coherent where
  workspaceIds := workspaceIds ▸ coherent.workspaceIds
  nodup := keys.nodup_iff.mpr (List.nodup_cons.mpr ⟨new, coherent.nodup⟩)
  durable other member := by
    rcases List.mem_cons.mp (keys.mem_iff.mp member) with same | earlier
    · exact same ▸ durable
    · exact coherent.durable other earlier
  domain other := by
    rw [identities, SessionIdentities.get_insert, keys.mem_iff, List.mem_cons, ← coherent.domain]
    by_cases same : key = other
    · simp [same]
    · simp [same, Ne.symm same]
  distinct := identities ▸ coherent.distinct.insert key fresh
  generations id member := by
    rw [generations] at member
    exact keys.mem_iff.mpr (List.mem_cons_of_mem _ (coherent.generations id member))
  apart := generations ▸ coherent.apart

theorem Coherent.remove (coherent : state.Coherent) {removed : List PtyKey}
    (keys : state.keys.Perm (removed ++ next.keys))
    (identities : next.sessionIdentities = state.sessionIdentities.eraseAll removed)
    (generations : ∀ (id : ChatId) (generation : AgentGeneration),
      next.agentGenerations[id]? = some generation →
        state.agentGenerations[id]? = some generation ∧ .chatAgent id ∉ removed)
    (workspaceIds : next.workspaceIds.Sublist state.workspaceIds) : next.Coherent := by
  have nodup := keys.nodup_iff.mp coherent.nodup
  rw [List.nodup_append'] at nodup
  obtain ⟨-, nodup, apart⟩ := nodup
  -- What is not removed is still listed.
  have remaining : ∀ key, key ∈ state.keys → key ∉ removed → key ∈ next.keys := by
    intro key member stays
    rcases List.mem_append.mp (keys.mem_iff.mp member) with gone | kept
    · exact absurd gone stays
    · exact kept
  refine ⟨?_, nodup, ?_, ?_, ?_, ?_, ?_⟩
  · exact ⟨coherent.workspaceIds.1.sublist workspaceIds,
      fun zero => coherent.workspaceIds.2 (workspaceIds.subset zero)⟩
  · intro key member
    exact coherent.durable key (keys.mem_iff.mpr (List.mem_append_right _ member))
  · intro key
    rw [identities, SessionIdentities.get_eraseAll]
    by_cases gone : key ∈ removed
    · rw [if_pos gone]
      exact ⟨nofun, fun member => absurd member (apart gone)⟩
    · rw [if_neg gone, coherent.domain]
      exact ⟨fun member => remaining key member gone,
        fun member => keys.mem_iff.mpr (List.mem_append_right _ member)⟩
  · rw [identities]
    exact coherent.distinct.eraseAll removed
  · intro id member
    rw [ExtTreeMap.mem_iff_isSome_getElem?, Option.isSome_iff_exists] at member
    obtain ⟨generation, found⟩ := member
    obtain ⟨earlier, stays⟩ := generations id generation found
    refine remaining _ (coherent.generations id ?_) stays
    rw [ExtTreeMap.mem_iff_isSome_getElem?, earlier]
    rfl
  · rw [values_nodup_iff]
    intro first second generation found other
    exact values_nodup_iff.mp coherent.apart first second generation
      (generations first generation found).1 (generations second generation other).1

/-! ## What the operations do -/

/-- An operation keeps a coherent project coherent, and the project itself where it fails. -/
structure Careful {A : Type} (state : ProjectState)
    (result : Except IdAllocationError A × ProjectState) : Prop where
  coherent : state.Coherent → result.2.Coherent
  failed : ∀ error, result.1 = .error error → result.2 = state

theorem Careful.error {A : Type} (error : IdAllocationError) :
    Careful (A := A) state (.error error, state) :=
  ⟨id, fun _ _ => rfl⟩

theorem Careful.nothing {A : Type} (value : A) : Careful state (.ok value, state) :=
  ⟨id, fun _ _ => rfl⟩

theorem Careful.done {A : Type} {value : A} (coherent : state.Coherent → next.Coherent) :
    Careful state (.ok value, next) :=
  ⟨coherent, nofun⟩

theorem taken_free {numbers : List Nat} {hint id after : Nat} {used : IdSet}
    (taken : takeAvailableId (.ofList (numbers.filter isValidDurableSessionId)) hint
      maxDurableSessionId = some (id, after, used)) :
    isValidDurableSessionId id = true ∧ id ∉ numbers := by
  obtain ⟨⟨from_one, to_max, free⟩, -⟩ := takeAvailableId_some taken
  have valid := isValidDurableSessionId_wide id from_one to_max
  refine ⟨valid, ?_⟩
  intro member
  exact free (mem_setOf.mpr (List.mem_filter.mpr ⟨member, valid⟩))

/-- What an allocation of a session's id gives: a durable id of no session, or the project as
it was. -/
theorem allocateChatId_cases (state : ProjectState) :
    state.allocateChatId = (.error .chat, state) ∨
    ∃ id hint, state.allocateChatId = (.ok id, { state with nextChatId := hint }) ∧
      isValidDurableSessionId id.raw = true ∧ .chatAgent id ∉ state.keys := by
  unfold allocateChatId
  split
  · exact .inl rfl
  · next id hint used taken =>
    obtain ⟨valid, free⟩ := taken_free taken
    refine .inr ⟨⟨id⟩, hint, rfl, valid, ?_⟩
    rw [mem_keys_chatAgent]
    intro member
    rw [chatNumbers_eq] at free
    exact free (List.mem_map.mpr ⟨⟨id⟩, member, rfl⟩)

theorem allocateTerminalId_cases (state : ProjectState) :
    state.allocateTerminalId = (.error .terminal, state) ∨
    ∃ id hint, state.allocateTerminalId = (.ok id, { state with nextTerminalId := hint }) ∧
      isValidDurableSessionId id.raw = true ∧ .terminal id ∉ state.keys := by
  unfold allocateTerminalId
  split
  · exact .inl rfl
  · next id hint used taken =>
    obtain ⟨valid, free⟩ := taken_free taken
    refine .inr ⟨⟨id⟩, hint, rfl, valid, ?_⟩
    rw [mem_keys_terminal]
    intro member
    rw [terminalNumbers_eq] at free
    exact free (List.mem_map.mpr ⟨⟨id⟩, member, rfl⟩)

theorem pushWorkspace_careful (state : ProjectState) (name : String) (cwd : Option PathBuf)
    (remote : Option RemoteTarget) : Careful state (state.pushWorkspace name cwd remote) := by
  unfold pushWorkspace allocateWorkspaceId
  cases taken : takeAvailableId (.ofList state.workspaceIds) state.nextWorkspaceId u64Max with
  | none => exact .error _
  | some found =>
    obtain ⟨id, hint, used⟩ := found
    obtain ⟨⟨from_one, -, free⟩, -⟩ := takeAvailableId_some taken
    rw [mem_setOf] at free
    refine .done fun coherent => ?_
    have keys : ∀ workspaces : List Workspace,
        ({ state with nextWorkspaceId := hint, workspaces := workspaces ++
          [⟨⟨id⟩, name, cwd, remote, ∅, [], []⟩] } : ProjectState).keys =
        ({ state with workspaces := workspaces } : ProjectState).keys := by
      intro workspaces
      simp [ProjectState.keys, chatIds, terminalIds, chats, terminals]
    have grown := keys state.workspaces
    refine ⟨?_, grown ▸ coherent.nodup, grown ▸ coherent.durable, grown ▸ coherent.domain,
      coherent.distinct, grown ▸ coherent.generations, coherent.apart⟩
    have ids : ({ state with nextWorkspaceId := hint, workspaces := state.workspaces ++
        [⟨⟨id⟩, name, cwd, remote, ∅, [], []⟩] } : ProjectState).workspaceIds =
        state.workspaceIds ++ [id] := by
      simp [workspaceIds]
    rw [ids]
    constructor
    · rw [List.nodup_append']
      exact ⟨coherent.workspaceIds.1, List.nodup_singleton id, by simpa using free⟩
    · intro zero
      rcases List.mem_append.mp zero with earlier | last
      · exact coherent.workspaceIds.2 earlier
      · rw [List.mem_singleton] at last
        omega

theorem position_found {workspaceId : WorkspaceId} {index : Nat}
    (found : state.position workspaceId = some index) :
    ∃ workspace, state.workspaces[index]? = some workspace := by
  obtain ⟨inside, -⟩ := List.findIdx?_eq_some_iff_getElem.mp found
  exact ⟨_, List.getElem?_eq_getElem inside⟩

theorem addChatWithSource_careful (state : ProjectState) (workspaceId : WorkspaceId)
    (name : String) (status : ChatStatus) (agent : AgentKind) (source : IdentitySource) :
    Careful state (state.addChatWithSource workspaceId name status agent source) := by
  unfold addChatWithSource
  cases located : state.position workspaceId with
  | none => exact .nothing none
  | some index =>
    obtain ⟨workspace, found⟩ := position_found located
    dsimp only
    split
    · exact .error _
    · next token _ allocated =>
      have fresh := SessionIdentities.allocateSessionToken_ok allocated
      rcases state.allocateChatId_cases with exhausted | ⟨id, hint, given, durable, new⟩
      · simp only [exhausted]
        exact .error _
      · simp only [given]
        refine .done fun coherent => ?_
        refine coherent.add new durable fresh ?_ rfl rfl ?_
        · refine (keys_perm _).trans (.trans ?_ ((keys_perm state).symm.cons _))
          apply flatMap_modify_add found
          simp only [Workspace.keys, List.map_append, List.map_cons, List.map_nil]
          rw [List.append_assoc]
          exact List.perm_middle
        · exact map_modify_frame (fun workspace : Workspace =>
              { workspace with chats := workspace.chats ++ [⟨id, name, status, agent, []⟩] })
            (fun workspace => workspace.id.raw) (fun _ => rfl) _ _

theorem addTerminalWithSource_careful (state : ProjectState) (workspaceId : WorkspaceId)
    (name : String) (launch : TerminalLaunch) (source : IdentitySource) :
    Careful state (state.addTerminalWithSource workspaceId name launch source) := by
  unfold addTerminalWithSource
  cases located : state.position workspaceId with
  | none => exact .nothing none
  | some index =>
    obtain ⟨workspace, found⟩ := position_found located
    dsimp only
    split
    · exact .error _
    · next token _ allocated =>
      have fresh := SessionIdentities.allocateSessionToken_ok allocated
      rcases state.allocateTerminalId_cases with exhausted | ⟨id, hint, given, durable, new⟩
      · simp only [exhausted]
        exact .error _
      · simp only [given]
        refine .done fun coherent => ?_
        refine coherent.add new durable fresh ?_ rfl rfl ?_
        · refine (keys_perm _).trans (.trans ?_ ((keys_perm state).symm.cons _))
          apply flatMap_modify_add found
          simp only [Workspace.keys, List.map_append, List.map_cons, List.map_nil]
          rw [← List.append_assoc]
          exact List.perm_append_singleton _ _
        · exact map_modify_frame (fun workspace : Workspace =>
              { workspace with terminals := workspace.terminals ++ [⟨id, name, false, launch⟩] })
            (fun workspace => workspace.id.raw) (fun _ => rfl) _ _

theorem withSource_careful {A : Type} (source : Except IoError IdentitySource)
    {operation : IdentitySource → Except IdAllocationError A × ProjectState}
    (careful : ∀ source, Careful state (operation source)) :
    Careful state (state.withSource source operation) := by
  cases source with
  | error error => exact .error _
  | ok source => exact careful source

theorem beginAgentGenerationWithSource_careful (state : ProjectState) (chatId : ChatId)
    (source : IdentitySource) :
    Careful state (state.beginAgentGenerationWithSource chatId source) := by
  unfold beginAgentGenerationWithSource
  split
  · next present =>
    split
    · exact .error _
    · next generation _ generated =>
      have fresh := generateIdentity_ok generated
      rw [← Bool.not_eq_true, List.contains_iff_mem] at fresh
      rw [List.any_eq_true] at present
      obtain ⟨chat, listed, same⟩ := present
      rw [decide_eq_true_eq] at same
      refine .done fun coherent => ?_
      have unheld : ∀ id : ChatId, state.agentGenerations[id]? ≠ some generation :=
        fun id held => fresh (mem_values_iff.mpr ⟨id, held⟩)
      refine { coherent with generations := ?_, apart := ?_ }
      · intro id member
        rw [ExtTreeMap.mem_insert, Std.LawfulEqOrd.compare_eq_iff_eq] at member
        rcases member with here | earlier
        · rw [← here, ← same]
          exact mem_keys_chatAgent.mpr (List.mem_map.mpr ⟨chat, listed, rfl⟩)
        · exact coherent.generations id earlier
      · rw [values_nodup_iff]
        intro first second held found other
        dsimp only at found other
        rw [ExtTreeMap.getElem?_insert] at found other
        simp only [Std.LawfulEqOrd.compare_eq_iff_eq] at found other
        split at found
        · next here =>
          split at other
          · next also => exact here.symm.trans also
          · exact absurd ((Option.some.inj found) ▸ other) (unheld second)
        · split at other
          · exact absurd ((Option.some.inj other) ▸ found) (unheld first)
          · exact values_nodup_iff.mp coherent.apart first second held found other
  · exact .nothing none

/-! ## Removing -/

theorem clearAgentGeneration_coherent (coherent : state.Coherent) (chatId : ChatId)
    (generation : AgentGeneration) :
    (state.clearAgentGeneration chatId generation).2.Coherent := by
  unfold clearAgentGeneration
  split
  · exact coherent
  · change ({ state with agentGenerations := state.agentGenerations.erase chatId } :
      ProjectState).Coherent
    have keys : state.keys.Perm ([] ++ state.keys) := .refl _
    refine coherent.remove keys rfl ?_ (.refl _)
    intro id held found
    dsimp only at found
    rw [ExtTreeMap.getElem?_erase] at found
    split at found
    · cases found
    · exact ⟨found, List.not_mem_nil⟩

theorem getElem?_foldl_erase {generations : BTreeMap ChatId AgentGeneration}
    {chats : List ChatSession} {id : ChatId} {generation : AgentGeneration}
    (found : (chats.foldl (fun generations chat => generations.erase chat.id) generations)[id]? =
      some generation) :
    generations[id]? = some generation ∧ ∀ chat ∈ chats, chat.id ≠ id := by
  induction chats generalizing generations with
  | nil => exact ⟨found, by simp⟩
  | cons first rest ih =>
    obtain ⟨held, others⟩ := ih found
    rw [ExtTreeMap.getElem?_erase] at held
    simp only [Std.LawfulEqOrd.compare_eq_iff_eq] at held
    split at held
    · cases held
    · next different =>
      refine ⟨held, ?_⟩
      intro chat member
      rcases List.mem_cons.mp member with same | later
      · exact same ▸ different
      · exact others chat later

theorem removeWorkspace_coherent (coherent : state.Coherent) (workspaceId : WorkspaceId) :
    (state.removeWorkspace workspaceId).2.Coherent := by
  unfold removeWorkspace
  split
  · exact coherent
  · next index located =>
    split
    · exact coherent
    · next removed found =>
      let next : ProjectState := { state with
        workspaces := state.workspaces.eraseIdx index
        sessionIdentities := state.sessionIdentities.eraseAll removed.keys
        agentGenerations := removed.chats.foldl
          (fun generations chat => generations.erase chat.id) state.agentGenerations }
      change next.Coherent
      have keys : state.keys.Perm (removed.keys ++ next.keys) :=
        ((keys_perm state).trans (flatMap_eraseIdx Workspace.keys found)).trans
          ((keys_perm next).symm.append_left _)
      refine coherent.remove keys rfl ?_ ?_
      · intro id generation lookup
        obtain ⟨held, others⟩ := getElem?_foldl_erase lookup
        refine ⟨held, ?_⟩
        intro gone
        rcases List.mem_append.mp gone with chat | terminal
        · obtain ⟨session, listed, same⟩ := List.mem_map.mp chat
          exact others session listed (PtyKey.chatAgent.inj same)
        · obtain ⟨session, -, same⟩ := List.mem_map.mp terminal
          cases same
      · exact (List.eraseIdx_sublist _ _).map _

theorem Coherent.removeOne (coherent : state.Coherent) {index : Nat} {workspace : Workspace}
    (key : PtyKey) (change : Workspace → Workspace)
    (found : state.workspaces[index]? = some workspace)
    (shrunk : workspace.keys.Perm (key :: (change workspace).keys))
    (sameId : ∀ workspace, (change workspace).id = workspace.id)
    (workspaces : next.workspaces = state.workspaces.modify index change)
    (identities : next.sessionIdentities = state.sessionIdentities.erase key)
    (generations : ∀ (id : ChatId) (generation : AgentGeneration),
      next.agentGenerations[id]? = some generation →
        state.agentGenerations[id]? = some generation ∧ .chatAgent id ≠ key) :
    next.Coherent := by
  have remaining : next.keys.Perm ((state.workspaces.modify index change).flatMap
      Workspace.keys) := by
    rw [← workspaces]
    exact keys_perm next
  have keys : state.keys.Perm ([key] ++ next.keys) :=
    ((keys_perm state).trans (flatMap_modify_remove Workspace.keys change found shrunk)).trans
      (remaining.symm.cons key)
  refine coherent.remove keys identities ?_ ?_
  · intro id generation lookup
    obtain ⟨held, other⟩ := generations id generation lookup
    exact ⟨held, by simpa using other⟩
  · have ids : next.workspaceIds = state.workspaceIds := by
      rw [ProjectState.workspaceIds, workspaces]
      exact map_modify_frame change (fun workspace : Workspace => workspace.id.raw)
        (fun workspace => by rw [sameId]) _ _
    rw [ids]

theorem keys_eraseIdx {S : Type} {key : S → PtyKey} {sessions : List S} {place : Nat} {session : S}
    (found : sessions[place]? = some session) :
    (sessions.map key).Perm (key session :: (sessions.eraseIdx place).map key) := by
  obtain ⟨inside, same⟩ := List.getElem?_eq_some_iff.mp found
  have split := (List.getElem_cons_eraseIdx_perm inside).symm.map key
  rwa [same, List.map_cons] at split

theorem removeChat_coherent (coherent : state.Coherent) (workspaceId : WorkspaceId)
    (chatId : ChatId) : (state.removeChat workspaceId chatId).2.Coherent := by
  unfold removeChat
  split
  · exact coherent
  · next index located =>
    split
    · exact coherent
    · next place removed found =>
      simp only [Option.bind_eq_some_iff, Option.map_eq_some_iff] at found
      obtain ⟨workspace, held, spot, chosen, session, at_place, same⟩ := found
      obtain ⟨rfl, rfl⟩ := Prod.mk.inj same
      obtain ⟨inside, matched, -⟩ := List.findIdx?_eq_some_iff_getElem.mp chosen
      have id : session.id = chatId := by
        rw [← (List.getElem?_eq_some_iff.mp at_place).2]
        simpa using matched
      refine coherent.removeOne (.chatAgent chatId)
        (fun workspace => { workspace with chats := workspace.chats.eraseIdx spot }) held ?_
        (fun _ => rfl) rfl rfl ?_
      · rw [← id]
        have gone : (workspace.chats.map fun chat => PtyKey.chatAgent chat.id).Perm _ :=
          keys_eraseIdx at_place
        exact gone.append_right _
      · intro other generation lookup
        dsimp only at lookup
        rw [ExtTreeMap.getElem?_erase] at lookup
        simp only [Std.LawfulEqOrd.compare_eq_iff_eq] at lookup
        split at lookup
        · cases lookup
        · next different => exact ⟨lookup, fun same => different (PtyKey.chatAgent.inj same).symm⟩

theorem removeTerminal_coherent (coherent : state.Coherent) (workspaceId : WorkspaceId)
    (terminalId : TerminalId) : (state.removeTerminal workspaceId terminalId).2.Coherent := by
  unfold removeTerminal
  split
  · exact coherent
  · next index located =>
    split
    · exact coherent
    · next place removed found =>
      simp only [Option.bind_eq_some_iff, Option.map_eq_some_iff] at found
      obtain ⟨workspace, held, spot, chosen, session, at_place, same⟩ := found
      obtain ⟨rfl, rfl⟩ := Prod.mk.inj same
      obtain ⟨inside, matched, -⟩ := List.findIdx?_eq_some_iff_getElem.mp chosen
      have id : session.id = terminalId := by
        rw [← (List.getElem?_eq_some_iff.mp at_place).2]
        simpa using matched
      refine coherent.removeOne (.terminal terminalId)
        (fun workspace => { workspace with terminals := workspace.terminals.eraseIdx spot }) held
        ?_ (fun _ => rfl) rfl rfl ?_
      · rw [← id]
        have gone : (workspace.terminals.map fun terminal => PtyKey.terminal terminal.id).Perm _ :=
          keys_eraseIdx at_place
        exact (gone.append_left _).trans List.perm_middle
      · intro other generation lookup
        exact ⟨lookup, nofun⟩

theorem settle_careful {A : Type} {result : Except IdAllocationError A × ProjectState}
    (careful : Careful state result) :
    (state.Coherent → (settle result).1.Coherent) ∧
      ∀ error, (settle result).2 = [.error error] → (settle result).1 = state := by
  refine ⟨careful.coherent, ?_⟩
  intro error failed
  obtain ⟨outcome, after⟩ := result
  cases outcome with
  | error cause => exact careful.failed cause rfl
  | ok value => cases failed

theorem edit_careful (state : ProjectState) (edit : Edit) :
    (state.Coherent → (state.edit edit).1.Coherent) ∧
      ∀ error, (state.edit edit).2 = [.error error] → (state.edit edit).1 = state := by
  cases edit with
  | addWorkspace name cwd => exact settle_careful (state.pushWorkspace_careful name cwd none)
  | addRemoteWorkspace name remote =>
    exact settle_careful (state.pushWorkspace_careful name none (some remote))
  | addChat workspaceId name status agent source =>
    exact settle_careful (withSource_careful source
      (state.addChatWithSource_careful workspaceId name status agent))
  | addTerminal workspaceId name source =>
    exact settle_careful (withSource_careful source
      (state.addTerminalWithSource_careful workspaceId name .shell))
  | addCommandTerminal workspaceId name command source =>
    exact settle_careful (withSource_careful source
      (state.addTerminalWithSource_careful workspaceId name (.command command)))
  | beginAgentGeneration chatId source =>
    exact settle_careful (withSource_careful source
      (state.beginAgentGenerationWithSource_careful chatId))
  | clearAgentGeneration chatId generation =>
    exact ⟨fun coherent => clearAgentGeneration_coherent coherent chatId generation, nofun⟩
  | removeWorkspace workspaceId =>
    exact ⟨fun coherent => removeWorkspace_coherent coherent workspaceId, nofun⟩
  | removeChat workspaceId chatId =>
    exact ⟨fun coherent => removeChat_coherent coherent workspaceId chatId, nofun⟩
  | removeTerminal workspaceId terminalId =>
    exact ⟨fun coherent => removeTerminal_coherent coherent workspaceId terminalId, nofun⟩

theorem coherent_of_run {past : List Outcome} (run : editing.Reaches state past) :
    state.Coherent := by
  apply run.stateInvariant
  · intro state initial
    exact valid_iff_coherent.mp (validateSessionIdentities_ok_iff.mp initial)
  · intro state next events edit coherent stepped
    have same := congrArg Prod.fst (Option.some.inj stepped)
    have kept := (edit_careful state edit).1 coherent
    rwa [same] at kept

/-- However a validated project is edited, with entropy and ids failing at any point, every
session has its own token and nothing in the tables outlives its session; an edit that fails
changes nothing. -/
theorem identity_tables_hold {past : List Outcome} (run : editing.Reaches state past) :
    state.validateSessionIdentities = .ok () ∧
    (∀ key, (∃ token, state.sessionIdentities.get key = some token) ↔ key ∈ state.keys) ∧
    (∀ first second token, state.sessionIdentities.get first = some token →
      state.sessionIdentities.get second = some token → first = second) ∧
    (∀ id ∈ state.agentGenerations, id ∈ state.chatIds) ∧
    ∀ edit next error, editing.step state edit = some (next, [.error error]) → next = state := by
  have coherent := coherent_of_run run
  refine ⟨validateSessionIdentities_ok_iff.mpr (valid_iff_coherent.mpr coherent), ?_,
    coherent.distinct, fun id member => mem_keys_chatAgent.mp (coherent.generations id member), ?_⟩
  · intro key
    rw [← coherent.domain, Option.isSome_iff_exists]
  · intro edit next error stepped
    have same := Option.some.inj stepped
    have failed := (edit_careful state edit).2 error (congrArg Prod.snd same)
    exact (congrArg Prod.fst same).symm.trans failed

def newProject : ProjectState where
  version := stateVersion
  stateNamespace := ⟨1, bytes_one⟩
  sessionIdentities := ⟨∅, ∅⟩
  agentGenerations := ∅
  nextWorkspaceId := 1
  nextChatId := 1
  nextTerminalId := 1
  workspaces := []

/-- Sessions come and go in two workspaces, and the entropy fails once. -/
def someEdits : List Edit :=
  [.addWorkspace "first" none, .addChat ⟨1⟩ "agent" .idle .pi (.ok (countingSource 2)),
    .addTerminal ⟨1⟩ "shell" (.ok (countingSource 2)),
    .beginAgentGeneration ⟨1⟩ (.ok (countingSource 2)),
    .addWorkspace "second" none, .addChat ⟨2⟩ "agent" .idle .pi (.ok (countingSource 2)),
    .addTerminal ⟨2⟩ "shell" (.error ⟨.other, ""⟩), .removeWorkspace ⟨1⟩]

theorem identity_tables_hold_someEdits : ∃ state past, editing.Reaches state past ∧
    state.keys = [.chatAgent ⟨2⟩] ∧ state.validateSessionIdentities = .ok () ∧
    ∀ id ∈ state.agentGenerations, id ∈ state.chatIds := by
  have initial : newProject.validateSessionIdentities = .ok () := by decide
  obtain ⟨state, past, run, tested⟩ := editing.exists_reaches initial someEdits
    (fun state _ => state.keys = [.chatAgent ⟨2⟩]) (by decide)
  obtain ⟨valid, -, -, generations, -⟩ := identity_tables_hold run
  exact ⟨state, past, run, by simpa using tested, valid, generations⟩

end ProjectState

end Mult.Project
