import Mult.Project.Reconciling

/-! Load repair as a whole: it ends in a project that passes validation, keeps what the
sessions are, and has nothing left to do when it is run again.
-/

set_option autoImplicit false

namespace Mult.Project
open Foundation Protocol Storage
open Std (ExtTreeMap ExtTreeSet)

namespace ProjectState

variable {state repaired : ProjectState}

theorem chatNumbers_eq (state : ProjectState) :
    state.chatNumbers = state.chatIds.map ChatId.raw := by
  rw [chatNumbers, chatIds, List.map_map]
  rfl

theorem terminalNumbers_eq (state : ProjectState) :
    state.terminalNumbers = state.terminalIds.map TerminalId.raw := by
  rw [terminalNumbers, terminalIds, List.map_map]
  rfl

/-! ## The reconciled project -/

/-- What reconciling a project with settled ids makes of it. -/
structure Reconciled (state repaired : ProjectState) : Prop where
  rest : { repaired with
    sessionIdentities := state.sessionIdentities
    agentGenerations := state.agentGenerations } = state
  domain : ∀ key, (repaired.sessionIdentities.get key).isSome ↔ key ∈ state.keys
  distinct : repaired.sessionIdentities.Distinct
  tokens : ∀ key token, state.sessionIdentities.get key = some token → key ∈ state.keys →
    (∀ earlier ∈ state.keys, earlier.before key →
      state.sessionIdentities.get earlier ≠ some token) →
    repaired.sessionIdentities.get key = some token
  generations : state.PrunedGenerations repaired.agentGenerations

theorem mem_keys_iff {key : PtyKey} : key ∈ state.keys ↔
    key ∈ (ExtTreeSet.ofList state.chatIds : BTreeSet ChatId).toList.map PtyKey.chatAgent ∨
      key ∈ (ExtTreeSet.ofList state.terminalIds :
        BTreeSet TerminalId).toList.map PtyKey.terminal := by
  simp [keys, ExtTreeSet.mem_toList]

theorem normalizeSessionIdentities_ok {source left : IdentitySource} {changed : Bool}
    (normalized : state.normalizeSessionIdentities source = .ok (repaired, changed, left)) :
    state.Reconciled repaired := by
  have pruned := pruneIdentities_identities state
  have generations := pruneIdentities_generations state
  have untouched : { state.pruneIdentities.1 with
      sessionIdentities := state.sessionIdentities
      agentGenerations := state.agentGenerations } = state := rfl
  unfold normalizeSessionIdentities at normalized
  dsimp only at normalized
  split at normalized
  · cases normalized
  · next chatsDone _ _ first =>
    split at normalized
    · cases normalized
    · next both _ _ second =>
      cases normalized
      have chats := mintTokens_ok first
      have terminals := mintTokens_ok second
      refine ⟨untouched, ?_, terminals.distinct (chats.distinct pruned.distinct), ?_, generations⟩
      · intro key
        rw [terminals.domain, chats.domain, mem_keys_iff]
        constructor
        · rintro ((held | chat) | terminal)
          · obtain ⟨token, found⟩ := Option.isSome_iff_exists.mp held
            exact mem_keys_iff.mp (pruned.present key token found)
          · exact .inl chat
          · exact .inr terminal
        · rintro (chat | terminal)
          · exact .inl (.inr chat)
          · exact .inr terminal
      · intro key token found present earlier
        exact terminals.kept key token (chats.kept key token (pruned.kept key token found present
          earlier))

theorem Reconciled.workspaces (reconciled : state.Reconciled repaired) :
    repaired.workspaces = state.workspaces := by
  have rest := congrArg ProjectState.workspaces reconciled.rest
  exact rest

theorem Reconciled.valid (reconciled : state.Reconciled repaired) (settled : state.Settled) :
    repaired.Valid := by
  have workspaces := reconciled.workspaces
  have chatIds : repaired.chatIds = state.chatIds := by
    rw [ProjectState.chatIds, chats, workspaces]
    rfl
  have terminalIds : repaired.terminalIds = state.terminalIds := by
    rw [ProjectState.terminalIds, terminals, workspaces]
    rfl
  have workspaceIds : repaired.workspaceIds = state.workspaceIds := by
    rw [ProjectState.workspaceIds, workspaces]
    rfl
  have chatsSettled := settled.chatNumbers
  have terminalsSettled := settled.terminalNumbers
  rw [chatNumbers_eq] at chatsSettled
  rw [terminalNumbers_eq] at terminalsSettled
  refine ⟨?_, ?_, ?_, ?_, ?_, SessionIdentities.tokens_nodup_iff.mpr reconciled.distinct, ?_,
    reconciled.generations.distinct⟩
  · rw [workspaceIds]
    exact ⟨settled.workspaceIds.1, fun zero => absurd (settled.workspaceIds.2 0 zero) (by decide)⟩
  · rw [chatIds]
    exact ⟨chatsSettled.1.of_map, fun id member =>
      chatsSettled.2 id.raw (List.mem_map.mpr ⟨id, member, rfl⟩)⟩
  · rw [terminalIds]
    exact ⟨terminalsSettled.1.of_map, fun id member =>
      terminalsSettled.2 id.raw (List.mem_map.mpr ⟨id, member, rfl⟩)⟩
  · intro id
    rw [chatIds, ExtTreeMap.mem_iff_isSome_getElem?, ← mem_keys_chatAgent]
    exact reconciled.domain (.chatAgent id)
  · intro id
    rw [terminalIds, ExtTreeMap.mem_iff_isSome_getElem?, ← mem_keys_terminal]
    exact reconciled.domain (.terminal id)
  · intro id member
    rw [chatIds]
    exact reconciled.generations.present id member

theorem Reconciled.settled (reconciled : state.Reconciled repaired) (settled : state.Settled) :
    repaired.Settled := by
  have rest := reconciled.rest
  have workspaces := reconciled.workspaces
  refine ⟨?_, ?_, ?_, ?_⟩
  · rw [workspaceIds, workspaces]
    exact settled.workspaceIds
  · rw [chatNumbers, chats, workspaces]
    exact settled.chatNumbers
  · rw [terminalNumbers, terminals, workspaces]
    exact settled.terminalNumbers
  · have hints := settled.hints
    rw [← rest] at hints
    have next : repaired.hintedWorkspaceId = repaired.nextWorkspaceId ∧
        repaired.hintedChatId = repaired.nextChatId ∧
        repaired.hintedTerminalId = repaired.nextTerminalId :=
      ⟨congrArg nextWorkspaceId hints, congrArg nextChatId hints, congrArg nextTerminalId hints⟩
    rw [normalizeHints, next.1, next.2.1, next.2.2]

theorem keys_congr (same : repaired.workspaces = state.workspaces) :
    repaired.keys = state.keys := by
  rw [keys, keys, chatIds, chatIds, chats, chats, terminalIds, terminalIds, terminals, terminals,
    same]

/-- Reconciling a project that passes validation reports no change and makes none. -/
theorem Valid.normalizeSessionIdentities (valid : state.Valid) (source : IdentitySource) :
    state.normalizeSessionIdentities source = .ok (state, false, source) := by
  have held : ∀ key ∈ state.keys, (state.sessionIdentities.get key).isSome := by
    intro key member
    cases key with
    | chatAgent id =>
      have entry := (valid.chatTable id).mpr (mem_keys_chatAgent.mp member)
      rwa [ExtTreeMap.mem_iff_isSome_getElem?] at entry
    | terminal id =>
      have entry := (valid.terminalTable id).mpr (mem_keys_terminal.mp member)
      rwa [ExtTreeMap.mem_iff_isSome_getElem?] at entry
  unfold ProjectState.normalizeSessionIdentities
  rw [valid.pruneIdentities]
  dsimp only
  rw [mintTokens_of_held fun key member => held key (mem_keys_iff.mpr (.inl member))]
  dsimp only
  rw [mintTokens_of_held fun key member => held key (mem_keys_iff.mpr (.inr member))]

def UsesToken (state : ProjectState) (bytes : BitVec 128) : Prop :=
  ∃ token ∈ state.sessionIdentities.tokens, token.bytes = bytes

theorem normalizeSessionIdentities_succeeds {source : IdentitySource}
    (working : source.Working state.UsesToken state.keys.length) :
    ∃ repaired changed left,
      state.normalizeSessionIdentities source = .ok (repaired, changed, left) := by
  have accounted : state.pruneIdentities.1.sessionIdentities.Accounted source
      state.UsesToken := by
    intro token member
    obtain ⟨key, found⟩ := SessionIdentities.mem_tokens_iff.mp member
    exact .inl ⟨token, SessionIdentities.mem_tokens_iff.mpr
      ⟨key, (pruneIdentities_identities state).within key token found⟩, rfl⟩
  have few : ((ExtTreeSet.ofList state.chatIds : BTreeSet ChatId).toList.map
        PtyKey.chatAgent).length +
      (((ExtTreeSet.ofList state.terminalIds : BTreeSet TerminalId).toList.map
        PtyKey.terminal).length + 0) ≤ state.keys.length := by
    have chats : (ExtTreeSet.ofList state.chatIds : BTreeSet ChatId).size ≤
        state.chatIds.length := ExtTreeSet.size_ofList_le
    have terminals : (ExtTreeSet.ofList state.terminalIds : BTreeSet TerminalId).size ≤
        state.terminalIds.length := ExtTreeSet.size_ofList_le
    simp only [List.length_map, ExtTreeSet.length_toList, keys, List.length_append]
    omega
  obtain ⟨chats, chatsChanged, middle, first, onward, counted⟩ :=
    mintTokens_succeeds state.pruneIdentities.2 (working.fewer few) accounted
  obtain ⟨both, changed, left, second, -, -⟩ :=
    mintTokens_succeeds chatsChanged onward counted
  refine ⟨{ state.pruneIdentities.1 with sessionIdentities := both }, changed, left, ?_⟩
  unfold normalizeSessionIdentities
  dsimp only
  rw [first]
  dsimp only
  rw [second]

end ProjectState

/-! ## What is kept -/

theorem KeepsFirst.kept_item {S Content : Type} {valid : Nat → Bool} (part : Part S Nat)
    (content : S → Content)
    (determined : ∀ first second, content first = content second →
      part.get first = part.get second → first = second)
    {items after : List S} (same : after.map content = items.map content)
    (keeps : KeepsFirst valid (items.map part.get) (after.map part.get))
    {front back : List S} {item : S} (split : items = front ++ item :: back)
    (passes : valid (part.get item) = true)
    (first : ∀ earlier ∈ front, part.get earlier ≠ part.get item) :
    after[front.length]? = some item := by
  have number := keeps.kept (front.map part.get) (part.get item) (back.map part.get)
    (by rw [split, List.map_append, List.map_cons]) passes (by
      intro member
      obtain ⟨earlier, listed, equal⟩ := List.mem_map.mp member
      exact first earlier listed equal)
  have shown : (after.map content)[front.length]? = some (content item) := by
    rw [same, split, List.map_append, List.map_cons, List.getElem?_append_right (by simp)]
    simp
  rw [List.length_map, List.getElem?_map, Option.map_eq_some_iff] at number
  rw [List.getElem?_map, Option.map_eq_some_iff] at shown
  obtain ⟨found, lookup, number⟩ := number
  obtain ⟨other, again, shown⟩ := shown
  rw [lookup] at again
  cases again
  rw [lookup, determined found item shown number]

theorem KeepsFirst.mem {valid : Nat → Bool} {ids renumbered : List Nat}
    (keeps : KeepsFirst valid ids renumbered) {id : Nat} (member : id ∈ ids)
    (passes : valid id = true) : id ∈ renumbered := by
  obtain ⟨front, back, split, new⟩ := List.eq_append_cons_of_mem member
  exact List.mem_of_getElem? (keeps.kept front id back split passes new)

def PtyKey.isDurable : PtyKey → Bool
  | .terminal id => isValidDurableSessionId id.raw
  | .chatAgent id => isValidDurableSessionId id.raw

theorem ChatSession.determined (first second : ChatSession)
    (content : first.withoutId = second.withoutId)
    (id : ChatSession.idPart.get first = ChatSession.idPart.get second) : first = second := by
  obtain ⟨⟨raw⟩, name, status, agent, messages⟩ := first
  obtain ⟨⟨other⟩, _, _, _, _⟩ := second
  simp only [withoutId, mk.injEq] at content
  simp only [idPart] at id
  simp only [mk.injEq]
  exact ⟨by rw [id], content.2⟩

theorem TerminalSession.determined (first second : TerminalSession)
    (content : first.withoutId = second.withoutId)
    (id : TerminalSession.idPart.get first = TerminalSession.idPart.get second) :
    first = second := by
  obtain ⟨⟨raw⟩, name, restoreOnLaunch, launch⟩ := first
  obtain ⟨⟨other⟩, _, _, _⟩ := second
  simp only [withoutId, mk.injEq] at content
  simp only [idPart] at id
  simp only [mk.injEq]
  exact ⟨by rw [id], content.2⟩

namespace ProjectState

variable {state repaired : ProjectState}

theorem chats_withoutId (state : ProjectState) : state.chats.map ChatSession.withoutId =
    (state.workspaces.map Workspace.withoutIds).flatMap Workspace.chats := by
  rw [chats, List.map_flatMap, List.flatMap_map]
  rfl

theorem terminals_withoutId (state : ProjectState) :
    state.terminals.map TerminalSession.withoutId =
      (state.workspaces.map Workspace.withoutIds).flatMap Workspace.terminals := by
  rw [terminals, List.map_flatMap, List.flatMap_map]
  rfl

/-- What load repair keeps: all workspaces, chats and terminals in their order with everything
but their ids; every session whose id is in range and the first of its value; and its token,
unless a session before it in the tables holds the same. -/
structure RepairedTo (state repaired : ProjectState) : Prop where
  version : repaired.version = state.version
  stateNamespace : repaired.stateNamespace = state.stateNamespace
  content : repaired.workspaces.map Workspace.withoutIds =
    state.workspaces.map Workspace.withoutIds
  workspaceIds : KeepsFirst isWorkspaceId state.workspaceIds repaired.workspaceIds
  chats : ∀ front chat back, state.chats = front ++ chat :: back →
    isValidDurableSessionId chat.id.raw = true → (∀ earlier ∈ front, earlier.id ≠ chat.id) →
    repaired.chats[front.length]? = some chat
  terminals : ∀ front terminal back, state.terminals = front ++ terminal :: back →
    isValidDurableSessionId terminal.id.raw = true →
    (∀ earlier ∈ front, earlier.id ≠ terminal.id) →
    repaired.terminals[front.length]? = some terminal
  tokens : ∀ key token, key ∈ state.keys → key.isDurable = true →
    state.sessionIdentities.get key = some token →
    (∀ earlier ∈ repaired.keys, earlier.before key →
      state.sessionIdentities.get earlier ≠ some token) →
    repaired.sessionIdentities.get key = some token

theorem IdsRepaired.mem_keys {numbered : ProjectState} (ids : state.IdsRepaired numbered)
    {key : PtyKey} (member : key ∈ state.keys) (durable : key.isDurable = true) :
    key ∈ numbered.keys := by
  cases key with
  | chatAgent id =>
    rw [mem_keys_chatAgent] at member ⊢
    have kept := ids.chatNumbers.mem (by
      rw [chatNumbers_eq]
      exact List.mem_map.mpr ⟨id, member, rfl⟩) durable
    rw [chatNumbers_eq] at kept
    obtain ⟨⟨raw⟩, listed, same⟩ := List.mem_map.mp kept
    cases same
    exact listed
  | terminal id =>
    rw [mem_keys_terminal] at member ⊢
    have kept := ids.terminalNumbers.mem (by
      rw [terminalNumbers_eq]
      exact List.mem_map.mpr ⟨id, member, rfl⟩) durable
    rw [terminalNumbers_eq] at kept
    obtain ⟨⟨raw⟩, listed, same⟩ := List.mem_map.mp kept
    cases same
    exact listed

theorem IdsRepaired.repairedTo {numbered : ProjectState} (ids : state.IdsRepaired numbered)
    (reconciled : numbered.Reconciled repaired) : state.RepairedTo repaired := by
  have workspaces := reconciled.workspaces
  have sameChats : repaired.chats = numbered.chats := by
    rw [ProjectState.chats, ProjectState.chats, workspaces]
  have sameTerminals : repaired.terminals = numbered.terminals := by
    rw [ProjectState.terminals, ProjectState.terminals, workspaces]
  have identities : numbered.sessionIdentities = state.sessionIdentities := by
    have rest := congrArg ProjectState.sessionIdentities ids.rest
    exact rest
  refine ⟨?_, ?_, ?_, ?_, ?_, ?_, ?_⟩
  · have inner := congrArg ProjectState.version ids.rest
    have outer := congrArg ProjectState.version reconciled.rest
    exact outer.trans inner
  · have inner := congrArg ProjectState.stateNamespace ids.rest
    have outer := congrArg ProjectState.stateNamespace reconciled.rest
    exact outer.trans inner
  · rw [workspaces]
    exact ids.content
  · have same : repaired.workspaceIds = numbered.workspaceIds := by
      rw [ProjectState.workspaceIds, ProjectState.workspaceIds, workspaces]
    rw [same]
    exact ids.workspaceIds
  · intro front chat back split passes first
    rw [sameChats]
    refine ids.chatNumbers.kept_item ChatSession.idPart ChatSession.withoutId
      ChatSession.determined ?_ split passes ?_
    · rw [chats_withoutId, chats_withoutId, ids.content]
    · intro earlier member same
      exact first earlier member (Ranked.rank_injective same)
  · intro front terminal back split passes first
    rw [sameTerminals]
    refine ids.terminalNumbers.kept_item TerminalSession.idPart TerminalSession.withoutId
      TerminalSession.determined ?_ split passes ?_
    · rw [terminals_withoutId, terminals_withoutId, ids.content]
    · intro earlier member same
      exact first earlier member (Ranked.rank_injective same)
  · intro key token member durable found first
    rw [← identities] at found first
    rw [keys_congr workspaces] at first
    exact reconciled.tokens key token found (ids.mem_keys member durable) first

theorem addressable_of_ok {saved numbered : ProjectState} {changed : Bool}
    (words : saved.workspaces.length ≤ u64Max)
    (renumbered : saved.normalizeNextIds = .ok (numbered, changed)) : saved.Addressable := by
  have capacity : saved.ensureIdCapacity = .ok () := by
    unfold normalizeNextIds at renumbered
    split at renumbered
    · cases renumbered
    · next ok => exact ok
  unfold ensureIdCapacity at capacity
  split at capacity
  · cases capacity
  · split at capacity
    · cases capacity
    · next chats terminals => exact ⟨words, Nat.le_of_not_lt chats, Nat.le_of_not_lt terminals⟩

theorem repair_succeeds {source : IdentitySource} (held : state.Addressable)
    (working : source.Working state.UsesToken state.keys.length) :
    ∃ numbered idsChanged repaired tablesChanged left,
      state.normalizeNextIds = .ok (numbered, idsChanged) ∧
      numbered.normalizeSessionIdentities source = .ok (repaired, tablesChanged, left) ∧
      state.IdsRepaired numbered ∧ numbered.Settled ∧ numbered.Reconciled repaired := by
  obtain ⟨numbered, idsChanged, renumbered, ids, settled⟩ := normalizeNextIds_spec held
  have count : numbered.keys.length = state.keys.length := by
    have chats := ids.chatNumbers.length
    have terminals := ids.terminalNumbers.length
    rw [chatNumbers_eq, chatNumbers_eq, List.length_map, List.length_map] at chats
    rw [terminalNumbers_eq, terminalNumbers_eq, List.length_map, List.length_map] at terminals
    simp only [keys, List.length_append, List.length_map, chats, terminals]
  have used : numbered.UsesToken = state.UsesToken := by
    funext bytes
    have rest := congrArg (fun project => project.UsesToken bytes) ids.rest
    exact rest
  have onward : source.Working numbered.UsesToken numbered.keys.length := by
    rw [count, used]
    exact working
  obtain ⟨repaired, tablesChanged, left, normalized⟩ := normalizeSessionIdentities_succeeds onward
  exact ⟨numbered, idsChanged, repaired, tablesChanged, left, renumbered, normalized, ids,
    settled, normalizeSessionIdentities_ok normalized⟩

theorem Reconciled.addressable (reconciled : state.Reconciled repaired)
    (held : state.Addressable) : repaired.Addressable := by
  have workspaces := reconciled.workspaces
  refine ⟨?_, ?_, ?_⟩
  · rw [workspaces]
    exact held.workspaces
  · rw [chats, workspaces]
    exact held.chats
  · rw [terminals, workspaces]
    exact held.terminals

/-- Load repair succeeds, ends in a valid project, keeps what it can, and is idempotent. -/
theorem load_repair {source : IdentitySource} (held : state.Addressable)
    (working : source.Working state.UsesToken state.keys.length) :
    ∃ numbered idsChanged repaired tablesChanged left,
      state.normalizeNextIds = .ok (numbered, idsChanged) ∧
      numbered.normalizeSessionIdentities source = .ok (repaired, tablesChanged, left) ∧
      repaired.validateSessionIdentities = .ok () ∧
      repaired.normalizeNextIds = .ok (repaired, false) ∧
      (∀ again, repaired.normalizeSessionIdentities again = .ok (repaired, false, again)) ∧
      state.RepairedTo repaired := by
  obtain ⟨numbered, idsChanged, repaired, tablesChanged, left, renumbered, normalized, ids,
    settled, reconciled⟩ := repair_succeeds held working
  have valid := reconciled.valid settled
  have within := reconciled.addressable (ids.addressable held)
  exact ⟨numbered, idsChanged, repaired, tablesChanged, left, renumbered, normalized,
    validateSessionIdentities_ok_iff.mpr valid,
    (reconciled.settled settled).normalizeNextIds within,
    fun again => valid.normalizeSessionIdentities again, ids.repairedTo reconciled⟩

end ProjectState

def countingSource (first : Nat) : IdentitySource :=
  ⟨fun position => .ok (BitVec.ofNat 128 (first + position)), 0⟩

theorem countingSource_working {first count : Nat} {taken : BitVec 128 → Prop}
    (positive : 0 < first) (smaller : ∀ bytes, taken bytes → bytes.toNat < first)
    (room : first + maxIdentityAttempts * count < 2 ^ 128) :
    (countingSource first).Working taken count where
  succeeds position _ := ⟨_, rfl⟩
  fresh position _ within := by
    have some : 0 < maxIdentityAttempts := by decide
    have small : first + position < 2 ^ 128 := by
      simp only [countingSource] at within
      omega
    have value : (BitVec.ofNat 128 (first + position)).toNat = first + position := by
      rw [BitVec.toNat_ofNat, Nat.mod_eq_of_lt small]
    refine ⟨0, some, BitVec.ofNat 128 (first + position), rfl, ?_, ?_, ?_⟩
    · intro zero
      rw [zero] at value
      simp at value
      omega
    · intro held
      have below := smaller _ held
      omega
    · intro earlier before same
      have equal := congrArg BitVec.toNat (Except.ok.inj same)
      rw [value, BitVec.toNat_ofNat, Nat.mod_eq_of_lt (by omega)] at equal
      omega

theorem ProjectState.countingSource_uses {state : ProjectState} {first : Nat}
    (positive : 0 < first)
    (smaller : ∀ token ∈ state.sessionIdentities.tokens, token.bytes.toNat < first)
    (room : first + maxIdentityAttempts * state.keys.length < 2 ^ 128) :
    (countingSource first).Working state.UsesToken state.keys.length := by
  refine countingSource_working positive ?_ room
  rintro bytes ⟨token, member, rfl⟩
  exact smaller token member

def sampleToken : SessionToken := ⟨1, bytes_one⟩

def sampleWorkspace (id : Nat) (chats terminals : List Nat) : Workspace where
  id := ⟨id⟩
  name := "mult"
  cwd := none
  remote := none
  environment := ∅
  chats := chats.map fun chat => ⟨⟨chat⟩, "agent", .idle, .pi, []⟩
  terminals := terminals.map fun terminal => ⟨⟨terminal⟩, "shell", false, .shell⟩

/-- Two workspaces of one id; zero, duplicated and reserved session ids; one token three times,
once for a chat that is gone. -/
def damagedProject : ProjectState where
  version := stateVersion
  stateNamespace := ⟨1, bytes_one⟩
  sessionIdentities :=
    ⟨.ofList [((⟨2⟩ : ChatId), sampleToken), (⟨5⟩, sampleToken)],
      .ofList [((⟨3⟩ : TerminalId), sampleToken)]⟩
  agentGenerations := .ofList [((⟨5⟩ : ChatId), (⟨7, bytes_seven⟩ : AgentGeneration))]
  nextWorkspaceId := 0
  nextChatId := 2
  nextTerminalId := 3
  workspaces := [sampleWorkspace 1 [5, 5] [runtimeTerminalIdFlag], sampleWorkspace 1 [0] [3, 3]]

theorem damagedProject_addressable : damagedProject.Addressable where
  workspaces := by decide
  chats := by decide
  terminals := by decide

theorem damagedProject_working :
    (countingSource 10).Working damagedProject.UsesToken damagedProject.keys.length :=
  ProjectState.countingSource_uses (by decide) (by decide) (by decide)

namespace ProjectState

theorem load_repair_damaged : ∃ numbered idsChanged repaired tablesChanged left,
    damagedProject.normalizeNextIds = .ok (numbered, idsChanged) ∧
    numbered.normalizeSessionIdentities (countingSource 10) = .ok (repaired, tablesChanged, left) ∧
    repaired.validateSessionIdentities = .ok () ∧
    repaired.normalizeNextIds = .ok (repaired, false) ∧
    (∀ again, repaired.normalizeSessionIdentities again = .ok (repaired, false, again)) ∧
    damagedProject.RepairedTo repaired :=
  load_repair damagedProject_addressable damagedProject_working

/-- Two chats that share a token do not both keep it. -/
theorem shared_token_lost : ¬ ∀ (state numbered repaired : ProjectState)
    (source left : IdentitySource) (idsChanged tablesChanged : Bool), state.Addressable →
    source.Working state.UsesToken state.keys.length →
    state.normalizeNextIds = .ok (numbered, idsChanged) →
    numbered.normalizeSessionIdentities source = .ok (repaired, tablesChanged, left) →
    ∀ key token, key ∈ state.keys → key.isDurable = true →
      state.sessionIdentities.get key = some token →
      repaired.sessionIdentities.get key = some token := by
  intro claim
  obtain ⟨numbered, idsChanged, repaired, tablesChanged, left, renumbered, normalized, -, -,
    reconciled⟩ := repair_succeeds damagedProject_addressable damagedProject_working
  have kept := claim damagedProject numbered repaired (countingSource 10) left idsChanged
    tablesChanged damagedProject_addressable damagedProject_working renumbered normalized
  have chat := kept (.chatAgent ⟨5⟩) sampleToken (by decide) (by decide)
    (by decide)
  have terminal := kept (.terminal ⟨3⟩) sampleToken (by decide) (by decide)
    (by decide)
  cases reconciled.distinct _ _ sampleToken chat terminal

end ProjectState

end Mult.Project
