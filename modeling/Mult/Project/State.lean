import Mult.Project.Ids
import Mult.Storage.Io

/-! The project a state file describes: workspaces with their chats and terminals, the
identity tables beside them, and the check every saved project passes.
-/

set_option autoImplicit false

namespace Mult.Project
open Foundation Protocol Storage

def stateVersion : Nat := 5

abbrev PathBuf := String

inductive ChatMessageRole where
  | user
  | assistant
  | system
  | tool
  | error
  deriving DecidableEq, Repr

structure ChatMessage where
  role : ChatMessageRole
  text : String
  deriving DecidableEq, Repr

inductive ChatStatus where
  | idle
  | thinking
  | waiting
  | failed
  | done
  | doneSeen
  deriving DecidableEq, Repr

inductive AgentKind where
  | pi
  | claudeCode
  | codex
  deriving DecidableEq, Repr

structure ChatSession where
  id : ChatId
  name : String
  status : ChatStatus
  agent : AgentKind
  messages : List ChatMessage
  deriving DecidableEq, Repr

inductive TerminalLaunch where
  | shell
  | command (command : String)
  deriving DecidableEq, Repr

structure TerminalSession where
  id : TerminalId
  name : String
  restoreOnLaunch : Bool
  launch : TerminalLaunch
  deriving DecidableEq, Repr

structure RemoteTarget where
  host : String
  path : String
  session : String
  deriving DecidableEq, Repr

structure Workspace where
  id : WorkspaceId
  name : String
  cwd : Option PathBuf
  remote : Option RemoteTarget
  environment : BTreeMap String String
  chats : List ChatSession
  terminals : List TerminalSession
  deriving DecidableEq

instance : Ranked SessionToken :=
  ⟨fun token => token.bytes.toNat, fun a b same => by
    cases a; cases b; simpa [BitVec.toNat_inj] using same⟩

instance : Ranked AgentGeneration :=
  ⟨fun generation => generation.bytes.toNat, fun a b same => by
    cases a; cases b; simpa [BitVec.toNat_inj] using same⟩

/-- A session of either kind. -/
inductive PtyKey where
  | terminal (id : TerminalId)
  | chatAgent (id : ChatId)
  deriving DecidableEq, Repr

structure SessionIdentities where
  chats : BTreeMap ChatId SessionToken
  terminals : BTreeMap TerminalId SessionToken
  deriving DecidableEq

def SessionIdentities.len (identities : SessionIdentities) : Nat :=
  identities.chats.size + identities.terminals.size

def SessionIdentities.tokens (identities : SessionIdentities) : List SessionToken :=
  identities.chats.values ++ identities.terminals.values

structure ProjectState where
  version : Nat
  stateNamespace : StateNamespace
  sessionIdentities : SessionIdentities
  agentGenerations : BTreeMap ChatId AgentGeneration
  nextWorkspaceId : Nat
  nextChatId : Nat
  nextTerminalId : Nat
  workspaces : List Workspace
  deriving DecidableEq

namespace ProjectState

/-- The chats of all workspaces, in order. -/
def chats (state : ProjectState) : List ChatSession := state.workspaces.flatMap Workspace.chats

def terminals (state : ProjectState) : List TerminalSession :=
  state.workspaces.flatMap Workspace.terminals

def workspaceIds (state : ProjectState) : List Nat := state.workspaces.map (·.id.raw)
def chatIds (state : ProjectState) : List ChatId := state.chats.map ChatSession.id
def terminalIds (state : ProjectState) : List TerminalId := state.terminals.map TerminalSession.id

/-- The sessions of all workspaces. -/
def keys (state : ProjectState) : List PtyKey :=
  state.chatIds.map .chatAgent ++ state.terminalIds.map .terminal

def tableMatches {K V : Type} [Ord K] [Std.TransOrd K] (ids : BTreeSet K)
    (table : BTreeMap K V) : Bool :=
  ids.size == table.size && ids.toList.all fun id => table.contains id

def validateSessionIdentities (state : ProjectState) : Except String Unit :=
  let workspaceIds : BTreeSet Nat := .ofList state.workspaceIds
  let chatIds : BTreeSet ChatId := .ofList state.chatIds
  let terminalIds : BTreeSet TerminalId := .ofList state.terminalIds
  let tokens : BTreeSet SessionToken := .ofList state.sessionIdentities.tokens
  let generations : BTreeSet AgentGeneration := .ofList state.agentGenerations.values
  if workspaceIds.size ≠ state.workspaces.length ∨ workspaceIds.contains 0 then
    .error "workspace IDs must be non-zero and unique"
  else if chatIds.size ≠ state.chats.length ∨
      chatIds.toList.any (fun id => !isValidDurableSessionId id.raw) then
    .error "chat IDs must be unique, non-zero durable IDs"
  else if terminalIds.size ≠ state.terminals.length ∨
      terminalIds.toList.any (fun id => !isValidDurableSessionId id.raw) then
    .error "terminal IDs must be unique, non-zero durable IDs"
  else if !tableMatches chatIds state.sessionIdentities.chats then
    .error "chat session identity table does not match durable chats"
  else if !tableMatches terminalIds state.sessionIdentities.terminals then
    .error "terminal session identity table does not match durable terminals"
  else if tokens.size ≠ state.sessionIdentities.len then
    .error "durable session tokens must be unique within a state namespace"
  else if (state.agentGenerations.toList.map Prod.fst).any (fun id => !chatIds.contains id) then
    .error "active agent generation table references a missing chat"
  else if generations.size ≠ state.agentGenerations.size then
    .error "active agent generations must be unique within durable state"
  else .ok ()

/-- What the check establishes: every session has one token, no two share one, and no table
names a session that is not there. -/
structure Valid (state : ProjectState) : Prop where
  workspaceIds : state.workspaceIds.Nodup ∧ 0 ∉ state.workspaceIds
  chatIds : state.chatIds.Nodup ∧
    ∀ id ∈ state.chatIds, isValidDurableSessionId id.raw = true
  terminalIds : state.terminalIds.Nodup ∧
    ∀ id ∈ state.terminalIds, isValidDurableSessionId id.raw = true
  chatTable : ∀ id, id ∈ state.sessionIdentities.chats ↔ id ∈ state.chatIds
  terminalTable : ∀ id, id ∈ state.sessionIdentities.terminals ↔ id ∈ state.terminalIds
  tokens : state.sessionIdentities.tokens.Nodup
  generations : ∀ id ∈ state.agentGenerations, id ∈ state.chatIds
  distinct : state.agentGenerations.values.Nodup

theorem tableMatches_iff {K V : Type} [Ord K] [Std.TransOrd K] [Std.LawfulEqOrd K]
    {ids : List K} {table : BTreeMap K V} :
    tableMatches (.ofList ids) table = true ↔ ∀ id, id ∈ table ↔ id ∈ ids := by
  simp only [tableMatches, Bool.and_eq_true, beq_iff_eq, List.all_eq_true,
    Std.ExtTreeSet.mem_toList, mem_setOf, Std.ExtTreeMap.contains_iff_mem]
  constructor
  · rintro ⟨sized, covered⟩ id
    exact ⟨mem_of_size_eq sized covered, covered id⟩
  · intro same
    exact ⟨size_eq_of_mem_iff same, fun id member => (same id).mpr member⟩

theorem any_invalid_eq_false_iff {K : Type} [Ord K] [Std.TransOrd K] [Std.LawfulEqOrd K]
    {raw : K → Nat} {ids : List K} :
    ((Std.ExtTreeSet.ofList ids : BTreeSet K).toList.any fun id =>
      !isValidDurableSessionId (raw id)) = false ↔
      ∀ id ∈ ids, isValidDurableSessionId (raw id) = true := by
  simp only [List.any_eq_false, Std.ExtTreeSet.mem_toList, mem_setOf, Bool.not_eq_true',
    Bool.not_eq_false]

theorem validateSessionIdentities_ok_iff {state : ProjectState} :
    state.validateSessionIdentities = .ok () ↔ state.Valid := by
  have sizes : state.workspaceIds.length = state.workspaces.length ∧
      state.chatIds.length = state.chats.length ∧
      state.terminalIds.length = state.terminals.length ∧
      state.sessionIdentities.tokens.length = state.sessionIdentities.len ∧
      state.agentGenerations.values.length = state.agentGenerations.size := by
    simp [workspaceIds, chatIds, terminalIds, SessionIdentities.tokens, SessionIdentities.len,
      length_values]
  obtain ⟨workspaceCount, chatCount, terminalCount, tokenCount, generationCount⟩ := sizes
  have generations : (state.agentGenerations.toList.map Prod.fst).any
      (fun id => !(Std.ExtTreeSet.ofList state.chatIds : BTreeSet ChatId).contains id) = false ↔
      ∀ id ∈ state.agentGenerations, id ∈ state.chatIds := by
    simp only [List.any_eq_false, mem_keys_iff, Bool.not_eq_true', Bool.not_eq_false,
      Std.ExtTreeSet.contains_iff_mem, mem_setOf]
  have zero : (Std.ExtTreeSet.ofList state.workspaceIds : BTreeSet Nat).contains 0 = true ↔
      0 ∈ state.workspaceIds := by
    rw [Std.ExtTreeSet.contains_iff_mem, mem_setOf]
  unfold validateSessionIdentities
  dsimp only
  rw [← workspaceCount, ← chatCount, ← terminalCount, ← tokenCount, ← generationCount]
  simp only [ne_eq, size_setOf_eq_length_iff, zero]
  constructor
  · intro passed
    split at passed
    · cases passed
    · next workspaces =>
      split at passed
      · cases passed
      · next chats =>
        split at passed
        · cases passed
        · next terminals =>
          split at passed
          · cases passed
          · next chatTable =>
            split at passed
            · cases passed
            · next terminalTable =>
              split at passed
              · cases passed
              · next tokens =>
                split at passed
                · cases passed
                · next keys =>
                  split at passed
                  · cases passed
                  · next distinct =>
                    rw [not_or, Classical.not_not] at workspaces chats terminals
                    rw [Bool.not_eq_true] at keys
                    exact
                      { workspaceIds := workspaces
                        chatIds := ⟨chats.1,
                          any_invalid_eq_false_iff.mp (Bool.not_eq_true _ ▸ chats.2)⟩
                        terminalIds := ⟨terminals.1,
                          any_invalid_eq_false_iff.mp (Bool.not_eq_true _ ▸ terminals.2)⟩
                        chatTable := tableMatches_iff.mp (by simpa using chatTable)
                        terminalTable := tableMatches_iff.mp (by simpa using terminalTable)
                        tokens := Classical.not_not.mp tokens
                        generations := generations.mp keys
                        distinct := Classical.not_not.mp distinct }
  · intro valid
    rw [if_neg (by simpa using valid.workspaceIds),
      if_neg (by rw [any_invalid_eq_false_iff.mpr valid.chatIds.2]; simpa using valid.chatIds.1),
      if_neg (by
        rw [any_invalid_eq_false_iff.mpr valid.terminalIds.2]; simpa using valid.terminalIds.1),
      if_neg (by simp [tableMatches_iff.mpr valid.chatTable]),
      if_neg (by simp [tableMatches_iff.mpr valid.terminalTable]),
      if_neg (by simpa using valid.tokens),
      if_neg (by simpa using generations.mpr valid.generations),
      if_neg (by simpa using valid.distinct)]

end ProjectState

end Mult.Project
