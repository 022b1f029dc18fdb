import Mult.Foundation.Visits
import Mult.Project.Identities

/-! Load repair: ids that are zero, reserved or duplicated are replaced, the allocator hints
are recomputed, and the identity tables are reconciled with the sessions that are there.

Neither repair is observed where it fails: its callers drop the project with the error.
-/

set_option autoImplicit false

namespace Mult.Project
open Foundation Protocol Storage

/-- The ids in use, those already passed, where the next search starts, and whether any id
was replaced. -/
structure Numbering where
  used : IdSet
  seen : IdSet
  next : Nat
  changed : Bool

/-- An id that is valid and the first of its value stays; any other is replaced. -/
def Numbering.renumber (valid : Nat → Bool) (max : Nat) (id : Nat) (numbering : Numbering) :
    Option (Nat × Numbering) :=
  if valid id && !numbering.seen.contains id then
    some (id, { numbering with seen := numbering.seen.insert id })
  else
    (takeAvailableId numbering.used numbering.next max).map fun (id, next, used) =>
      (id, ⟨used, numbering.seen.insert id, next, true⟩)

/-- The start of a pass over ids, of which the valid ones are in use. -/
def Numbering.start (valid : Nat → Bool) (ids : List Nat) (changed : Bool) : Numbering :=
  ⟨.ofList (ids.filter valid), ∅, 1, changed⟩

def Workspace.idPart : Part Workspace Nat where
  get workspace := workspace.id.raw
  set id workspace := { workspace with id := ⟨id⟩ }
  get_set _ _ := rfl
  set_get _ := rfl

def Workspace.chatsPart : Part Workspace (List ChatSession) where
  get := Workspace.chats
  set chats workspace := { workspace with chats := chats }
  get_set _ _ := rfl
  set_get _ := rfl

def Workspace.terminalsPart : Part Workspace (List TerminalSession) where
  get := Workspace.terminals
  set terminals workspace := { workspace with terminals := terminals }
  get_set _ _ := rfl
  set_get _ := rfl

def ChatSession.idPart : Part ChatSession Nat where
  get chat := chat.id.raw
  set id chat := { chat with id := ⟨id⟩ }
  get_set _ _ := rfl
  set_get _ := rfl

def TerminalSession.idPart : Part TerminalSession Nat where
  get terminal := terminal.id.raw
  set id terminal := { terminal with id := ⟨id⟩ }
  get_set _ _ := rfl
  set_get _ := rfl

def isWorkspaceId (id : Nat) : Bool := id ≠ 0

def renumberWorkspace : Workspace → Numbering → Option (Workspace × Numbering) :=
  Workspace.idPart.through (Numbering.renumber isWorkspaceId u64Max)

def renumberChat : ChatSession → Numbering → Option (ChatSession × Numbering) :=
  ChatSession.idPart.through (Numbering.renumber isValidDurableSessionId maxDurableSessionId)

def renumberTerminal : TerminalSession → Numbering → Option (TerminalSession × Numbering) :=
  TerminalSession.idPart.through (Numbering.renumber isValidDurableSessionId maxDurableSessionId)

namespace ProjectState

def chatNumbers (state : ProjectState) : List Nat := state.chats.map ChatSession.idPart.get
def terminalNumbers (state : ProjectState) : List Nat :=
  state.terminals.map TerminalSession.idPart.get

def ensureIdCapacity (state : ProjectState) : Except IdAllocationError Unit :=
  if state.chats.length > maxDurableSessionId then .error .chat
  else if state.terminals.length > maxDurableSessionId then .error .terminal
  else .ok ()

def renumberWith (step : Workspace → Numbering → Option (Workspace × Numbering))
    (error : IdAllocationError) (state : ProjectState) (numbering : Numbering) :
    Except IdAllocationError (ProjectState × Bool) :=
  match visit step state.workspaces numbering with
  | none => .error error
  | some (workspaces, numbering) =>
    .ok ({ state with workspaces := workspaces }, numbering.changed)

def renumberWorkspaces (state : ProjectState) (changed : Bool) :
    Except IdAllocationError (ProjectState × Bool) :=
  state.renumberWith renumberWorkspace .workspace
    (.start isWorkspaceId state.workspaceIds changed)

def renumberChats (state : ProjectState) (changed : Bool) :
    Except IdAllocationError (ProjectState × Bool) :=
  state.renumberWith (Workspace.chatsPart.through (visit renumberChat)) .chat
    (.start isValidDurableSessionId state.chatNumbers changed)

def renumberTerminals (state : ProjectState) (changed : Bool) :
    Except IdAllocationError (ProjectState × Bool) :=
  state.renumberWith (Workspace.terminalsPart.through (visit renumberTerminal)) .terminal
    (.start isValidDurableSessionId state.terminalNumbers changed)

def normalizeExistingIds (state : ProjectState) :
    Except IdAllocationError (ProjectState × Bool) :=
  match state.renumberWorkspaces false with
  | .error error => .error error
  | .ok (state, changed) =>
    match state.renumberChats changed with
    | .error error => .error error
    | .ok (state, changed) => state.renumberTerminals changed

def hintedWorkspaceId (state : ProjectState) : Nat :=
  normalizedAllocatorHint state.nextWorkspaceId (.ofList state.workspaceIds) u64Max

def hintedChatId (state : ProjectState) : Nat :=
  normalizedAllocatorHint state.nextChatId (.ofList state.chatNumbers) maxDurableSessionId

def hintedTerminalId (state : ProjectState) : Nat :=
  normalizedAllocatorHint state.nextTerminalId (.ofList state.terminalNumbers) maxDurableSessionId

def normalizeHints (state : ProjectState) : ProjectState :=
  { state with
    nextWorkspaceId := state.hintedWorkspaceId
    nextChatId := state.hintedChatId
    nextTerminalId := state.hintedTerminalId }

def hintsDiffer (state : ProjectState) : Bool :=
  state.nextWorkspaceId ≠ state.hintedWorkspaceId ∨ state.nextChatId ≠ state.hintedChatId ∨
    state.nextTerminalId ≠ state.hintedTerminalId

/-- The repaired project and whether anything in it changed. -/
def normalizeNextIds (state : ProjectState) : Except IdAllocationError (ProjectState × Bool) :=
  match state.ensureIdCapacity with
  | .error error => .error error
  | .ok () =>
    match state.normalizeExistingIds with
    | .error error => .error error
    | .ok (state, changed) => .ok (state.normalizeHints, changed || state.hintsDiffer)

/-- Entries of sessions that are gone, or that repeat a token or generation of an entry before
them, are dropped; and whether any was. -/
def pruneIdentities (state : ProjectState) : ProjectState × Bool :=
  let chatIds : BTreeSet ChatId := .ofList state.chatIds
  let terminalIds : BTreeSet TerminalId := .ofList state.terminalIds
  let identities := state.sessionIdentities
  let (chats, seenTokens) := identities.chats.retainUnseen chatIds.contains ∅
  let (terminals, _) := identities.terminals.retainUnseen terminalIds.contains seenTokens
  let (generations, _) := state.agentGenerations.retainUnseen chatIds.contains ∅
  ({ state with sessionIdentities := ⟨chats, terminals⟩, agentGenerations := generations },
    (⟨chats, terminals⟩ : SessionIdentities).len != identities.len ||
      generations.size != state.agentGenerations.size)

def mintTokens : List PtyKey → SessionIdentities → Bool → IdentitySource →
    Except IoError (SessionIdentities × Bool × IdentitySource)
  | [], identities, changed, source => .ok (identities, changed, source)
  | key :: rest, identities, changed, source =>
      if (identities.get key).isSome then mintTokens rest identities changed source
      else
        match identities.allocateSessionToken source with
        | (.error error, _) => .error (allocationIoError error)
        | (.ok token, source) => mintTokens rest (identities.insert key token) true source

/-- The reconciled project, whether anything in it changed, and what is left of the source. -/
def normalizeSessionIdentities (state : ProjectState) (source : IdentitySource) :
    Except IoError (ProjectState × Bool × IdentitySource) :=
  let chatIds : BTreeSet ChatId := .ofList state.chatIds
  let terminalIds : BTreeSet TerminalId := .ofList state.terminalIds
  let (pruned, changed) := state.pruneIdentities
  match mintTokens (chatIds.toList.map .chatAgent) pruned.sessionIdentities changed source with
  | .error error => .error error
  | .ok (identities, changed, source) =>
    match mintTokens (terminalIds.toList.map .terminal) identities changed source with
    | .error error => .error error
    | .ok (identities, changed, source) =>
      .ok ({ pruned with sessionIdentities := identities }, changed, source)

end ProjectState

end Mult.Project
