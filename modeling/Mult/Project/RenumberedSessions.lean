import Mult.Foundation.Earliest
import Mult.Project.FreedIds

/-! What becomes of the sessions that load repair renumbers: which of them come away with the
token or the generation of another.
-/

set_option autoImplicit false

namespace Mult.Project
open Foundation Protocol Storage
open Std (ExtTreeMap ExtTreeSet)

def PtyKey.place : PtyKey → Lex (Nat × Nat)
  | .chatAgent id => toLex (0, id.raw)
  | .terminal id => toLex (1, id.raw)

theorem PtyKey.before_iff {first second : PtyKey} :
    first.before second ↔ first.place < second.place := by
  cases first <;> cases second <;> simp [before, place, Prod.Lex.toLex_lt_toLex]

theorem PtyKey.before_founded : WellFounded PtyKey.before := by
  have order : PtyKey.before = InvImage (· < ·) PtyKey.place := by
    funext first second
    exact propext before_iff
  rw [order]
  exact InvImage.wf _ wellFounded_lt

instance : IsTrans PtyKey PtyKey.before :=
  ⟨fun _ _ _ first second =>
    PtyKey.before_iff.mpr ((PtyKey.before_iff.mp first).trans (PtyKey.before_iff.mp second))⟩

def ChatId.before (first second : ChatId) : Prop := first.raw < second.raw

theorem ChatId.raw_injective : Function.Injective ChatId.raw := fun _ _ => congrArg ChatId.mk
theorem TerminalId.raw_injective : Function.Injective TerminalId.raw :=
  fun _ _ => congrArg TerminalId.mk

theorem ChatId.before_founded : WellFounded ChatId.before := InvImage.wf ChatId.raw wellFounded_lt

instance : IsTrans ChatId ChatId.before := ⟨fun _ _ _ => Nat.lt_trans⟩

theorem SessionIdentities.allocateSessionToken_drawn {identities : SessionIdentities}
    {token : SessionToken} {source after : IdentitySource}
    (allocated : identities.allocateSessionToken source = (.ok token, after)) :
    after.draws = source.draws ∧ source.drawn ≤ after.drawn ∧
      ∃ position, source.drawn ≤ position ∧ position < after.drawn ∧
        source.draws position = .ok token.bytes := by
  unfold allocateSessionToken at allocated
  split at allocated
  · cases allocated
  · next generated =>
    cases allocated
    obtain ⟨-, draws, -, position, from_start, before, drawn⟩ := drawIdentity_ok generated
    exact ⟨draws, by omega, position, from_start, before, drawn⟩

/-- A token that is not from the tables is one the source has drawn. -/
theorem ProjectState.mintTokens_drawn {keys : List PtyKey} {before after : SessionIdentities}
    {changed reported : Bool} {source left : IdentitySource}
    (minted : mintTokens keys before changed source = .ok (after, reported, left)) :
    left.draws = source.draws ∧ source.drawn ≤ left.drawn ∧
      ∀ key token, after.get key = some token → before.get key = some token ∨
        ∃ position, source.drawn ≤ position ∧ position < left.drawn ∧
          source.draws position = .ok token.bytes := by
  induction keys generalizing before changed source with
  | nil =>
    cases minted
    exact ⟨rfl, Nat.le_refl _, fun _ _ found => .inl found⟩
  | cons key rest ih =>
    unfold mintTokens at minted
    split at minted
    · exact ih minted
    · split at minted
      · cases minted
      · next token middle allocated =>
        obtain ⟨draws, onward, position, from_start, before, drawn⟩ :=
          SessionIdentities.allocateSessionToken_drawn allocated
        obtain ⟨further, later, origin⟩ := ih minted
        refine ⟨further.trans draws, onward.trans later, ?_⟩
        intro other held found
        rcases origin other held found with table | ⟨place, placed, ended, given⟩
        · rw [SessionIdentities.get_insert] at table
          split at table
          · cases table
            exact .inr ⟨position, from_start, before.trans_le later, drawn⟩
          · exact .inl table
        · exact .inr ⟨place, onward.trans placed, ended, draws ▸ given⟩

theorem KeepsFirst.new_at_iff {valid : Nat → Bool} {ids renumbered : List Nat}
    (keeps : KeepsFirst valid ids renumbered) {new : Nat} :
    (∃ position old : Nat, ids[position]? = some old ∧ renumbered[position]? = some new ∧
      new ≠ old) ↔ new ∈ renumbered ∧ new ∉ ids := by
  constructor
  · rintro ⟨position, old, before, after, other⟩
    have member := List.mem_of_getElem? after
    refine ⟨member, fun listed => other ?_⟩
    obtain ⟨front, back, split, first⟩ := List.eq_append_cons_of_mem listed
    have kept := keeps.kept front new back split (keeps.passes new member) first
    have same : front.length = position :=
      (List.getElem?_inj (List.getElem?_eq_some_iff.mp kept).1 keeps.nodup).mp
        (kept.trans after.symm)
    rw [← same, split, List.getElem?_append_right (Nat.le_refl _), Nat.sub_self] at before
    exact Option.some.inj before
  · rintro ⟨member, unlisted⟩
    obtain ⟨position, after⟩ := List.getElem?_of_mem member
    have inside : position < ids.length :=
      keeps.length ▸ (List.getElem?_eq_some_iff.mp after).1
    refine ⟨position, ids[position], List.getElem?_eq_getElem inside, after, ?_⟩
    rintro rfl
    exact unlisted (List.getElem_mem inside)

namespace ProjectState

variable {state numbered repaired : ProjectState}

/-! ## The new ids of a project -/

theorem renumberWith_lowest {valid : Nat → Bool} {max : Nat}
    {step : Workspace → Numbering → Option (Workspace × Numbering)} {error : IdAllocationError}
    (ids : List Workspace → List Nat)
    (visits : ∀ workspaces numbering,
      (visit step workspaces numbering).map (fun last => (ids last.1, last.2)) =
        visit (Numbering.renumber valid max) (ids workspaces) numbering)
    {before changed : Bool} {after : ProjectState}
    (renumbered : state.renumberWith step error (.start valid (ids state.workspaces) before) =
      .ok (after, changed)) : LowestFirst (· ∈ ids state.workspaces) (ids after.workspaces) := by
  unfold renumberWith at renumbered
  split at renumbered
  · cases renumbered
  · next workspaces last visited =>
    cases renumbered
    have passed := visits state.workspaces (.start valid (ids state.workspaces) before)
    rw [visited, Option.map_some] at passed
    have used : ∀ id, id ∈ (Numbering.start valid (ids state.workspaces) before).used ↔
        id ∈ ids state.workspaces ∧ valid id = true := by
      intro id
      simp [Numbering.start]
    have lowest := visit_renumber_lowest (fun id member passes => (used id).mpr ⟨member, passes⟩)
      (fun id from_one lower => by
        simp only [Numbering.start] at lower
        omega) passed.symm
    intro id member unlisted lower from_one before
    exact (lowest id member (fun held => unlisted ((used id).mp held).1) lower from_one
      before).imp_left fun held => ((used lower).mp held).1

theorem normalizeNextIds_lowest {changed : Bool} (held : state.Addressable)
    (renumbered : state.normalizeNextIds = .ok (numbered, changed)) :
    LowestFirst (· ∈ state.chatNumbers) numbered.chatNumbers ∧
      LowestFirst (· ∈ state.terminalNumbers) numbered.terminalNumbers := by
  obtain ⟨first, firstChanged, firstOk, -, firstChats, firstTerminals, -⟩ :=
    state.renumberWorkspaces_spec false held.workspaces
  obtain ⟨second, secondChanged, secondOk, -, -, secondTerminals, -⟩ :=
    first.renumberChats_spec firstChanged (by rw [firstChats]; exact held.chats)
  obtain ⟨third, thirdChanged, thirdOk, -, -, thirdChats, -⟩ :=
    second.renumberTerminals_spec secondChanged
      (by rw [secondTerminals, firstTerminals]; exact held.terminals)
  have whole : state.normalizeNextIds =
      .ok (third.normalizeHints, thirdChanged || third.hintsDiffer) := by
    simp only [normalizeNextIds, ensureIdCapacity_ok held, normalizeExistingIds, firstOk,
      secondOk, thirdOk]
  rw [whole] at renumbered
  cases renumbered
  have chats := renumberWith_lowest
    (fun workspaces => (workspaces.flatMap Workspace.chats).map ChatSession.idPart.get)
    (visit_sessions Workspace.chatsPart ChatSession.idPart _) secondOk
  have terminals := renumberWith_lowest
    (fun workspaces =>
      (workspaces.flatMap Workspace.terminals).map TerminalSession.idPart.get)
    (visit_sessions Workspace.terminalsPart TerminalSession.idPart _) thirdOk
  constructor
  · have before : first.chatNumbers = state.chatNumbers := by
      rw [chatNumbers, chatNumbers, firstChats]
    have after : third.chatNumbers = second.chatNumbers := by
      rw [chatNumbers, chatNumbers, thirdChats]
    rw [← before]
    exact after ▸ chats
  · have before : second.terminalNumbers = state.terminalNumbers := by
      rw [terminalNumbers, terminalNumbers, secondTerminals, firstTerminals]
    rw [← before]
    exact terminals

/-- A session that was under one key is under another after the renumbering. -/
def Replaces (state numbered : ProjectState) (old new : PtyKey) : Prop :=
  ∃ position : Nat, state.keys[position]? = some old ∧ numbered.keys[position]? = some new ∧ new ≠ old

/-- The keys that the renumbering gives away. -/
def HandsOut (state : ProjectState) : PtyKey → Prop
  | .chatAgent id => HandedOut isValidDurableSessionId state.chatNumbers id.raw
  | .terminal id => HandedOut isValidDurableSessionId state.terminalNumbers id.raw

theorem map_getElem?_iff {A B : Type} {f : A → B} (injective : Function.Injective f) {items : List A}
    {position : Nat} {item : A} :
    (items.map f)[position]? = some (f item) ↔ items[position]? = some item := by
  rw [List.getElem?_map, ← Option.map_some, (Option.map_injective injective).eq_iff]

theorem keys_chatAgent_at {position : Nat} {id : ChatId} :
    state.keys[position]? = some (.chatAgent id) ↔
      state.chatNumbers[position]? = some id.raw := by
  rw [keys, chatNumbers_eq]
  rcases Nat.lt_or_ge position state.chatIds.length with inside | behind
  · rw [List.getElem?_append_left (by simpa using inside),
      map_getElem?_iff fun _ _ => PtyKey.chatAgent.inj, map_getElem?_iff ChatId.raw_injective]
  · rw [List.getElem?_append_right (by simpa using behind)]
    simp [behind]

theorem keys_terminal_at {position : Nat} {id : TerminalId} :
    state.keys[position]? = some (.terminal id) ↔ state.chatNumbers.length ≤ position ∧
      state.terminalNumbers[position - state.chatNumbers.length]? = some id.raw := by
  rw [keys, chatNumbers_eq, terminalNumbers_eq, List.length_map]
  rcases Nat.lt_or_ge position state.chatIds.length with inside | behind
  · rw [List.getElem?_append_left (by simpa using inside)]
    simp [inside]
  · rw [List.getElem?_append_right (by simpa using behind), List.length_map,
      map_getElem?_iff fun _ _ => PtyKey.terminal.inj, map_getElem?_iff TerminalId.raw_injective]
    simp [behind]

theorem mem_keys_chatNumbers {id : ChatId} :
    .chatAgent id ∈ state.keys ↔ id.raw ∈ state.chatNumbers := by
  rw [mem_keys_chatAgent, chatNumbers_eq, List.mem_map_of_injective ChatId.raw_injective]

theorem mem_keys_terminalNumbers {id : TerminalId} :
    .terminal id ∈ state.keys ↔ id.raw ∈ state.terminalNumbers := by
  rw [mem_keys_terminal, terminalNumbers_eq,
    List.mem_map_of_injective TerminalId.raw_injective]

theorem IdsRepaired.replaces_iff (ids : state.IdsRepaired numbered)
    (lowest : LowestFirst (· ∈ state.chatNumbers) numbered.chatNumbers ∧
      LowestFirst (· ∈ state.terminalNumbers) numbered.terminalNumbers) (key : PtyKey) :
    (∃ old, state.Replaces numbered old key) ↔ state.HandsOut key := by
  have positive : ∀ id, isValidDurableSessionId id = true → 1 ≤ id :=
    fun id valid => (of_decide_eq_true valid).1
  have chatCount := ids.chatNumbers.length
  cases key with
  | chatAgent id =>
    rw [HandsOut, ← ids.chatNumbers.new_iff positive lowest.1, ← ids.chatNumbers.new_at_iff]
    constructor
    · rintro ⟨old, position, before, after, other⟩
      have found := keys_chatAgent_at.mp after
      cases old with
      | chatAgent old =>
        exact ⟨position, old.raw, keys_chatAgent_at.mp before, found,
          fun same => other (congrArg _ (ChatId.raw_injective same))⟩
      | terminal old =>
        -- Chats come first among the keys, so one place never holds a chat and then a terminal.
        have behind := (keys_terminal_at.mp before).1
        have inside := (List.getElem?_eq_some_iff.mp found).1
        omega
    · rintro ⟨position, old, before, after, other⟩
      refine ⟨.chatAgent ⟨old⟩, position, keys_chatAgent_at.mpr before,
        keys_chatAgent_at.mpr after, ?_⟩
      rintro ⟨⟩
      exact other rfl
  | terminal id =>
    rw [HandsOut, ← ids.terminalNumbers.new_iff positive lowest.2,
      ← ids.terminalNumbers.new_at_iff]
    constructor
    · rintro ⟨old, position, before, after, other⟩
      obtain ⟨behind, found⟩ := keys_terminal_at.mp after
      rw [chatCount] at behind found
      cases old with
      | chatAgent old =>
        have inside := (List.getElem?_eq_some_iff.mp (keys_chatAgent_at.mp before)).1
        omega
      | terminal old =>
        exact ⟨_, old.raw, (keys_terminal_at.mp before).2, found,
          fun same => other (congrArg _ (TerminalId.raw_injective same))⟩
    · rintro ⟨position, old, before, after, other⟩
      have place : position + state.chatNumbers.length - state.chatNumbers.length = position :=
        Nat.add_sub_cancel _ _
      refine ⟨.terminal ⟨old⟩, position + state.chatNumbers.length,
        keys_terminal_at.mpr ⟨Nat.le_add_left _ _, place.symm ▸ before⟩,
        keys_terminal_at.mpr ⟨chatCount ▸ Nat.le_add_left _ _, ?_⟩, ?_⟩
      · rw [chatCount, place]
        exact after
      · rintro ⟨⟩
        exact other rfl

/-- After the renumbering there are the sessions that kept their key and those given another. -/
theorem IdsRepaired.mem_keys_iff (ids : state.IdsRepaired numbered)
    (lowest : LowestFirst (· ∈ state.chatNumbers) numbered.chatNumbers ∧
      LowestFirst (· ∈ state.terminalNumbers) numbered.terminalNumbers) {key : PtyKey} :
    key ∈ numbered.keys ↔ (key ∈ state.keys ∧ key.isDurable = true) ∨ state.HandsOut key := by
  have positive : ∀ id, isValidDurableSessionId id = true → 1 ≤ id :=
    fun id valid => (of_decide_eq_true valid).1
  constructor
  · intro member
    cases key with
    | chatAgent id =>
      rw [mem_keys_chatNumbers] at member ⊢
      by_cases listed : id.raw ∈ state.chatNumbers
      · exact .inl ⟨listed, ids.chatNumbers.passes _ member⟩
      · exact .inr ((ids.chatNumbers.new_iff positive lowest.1).mp ⟨member, listed⟩)
    | terminal id =>
      rw [mem_keys_terminalNumbers] at member ⊢
      by_cases listed : id.raw ∈ state.terminalNumbers
      · exact .inl ⟨listed, ids.terminalNumbers.passes _ member⟩
      · exact .inr ((ids.terminalNumbers.new_iff positive lowest.2).mp ⟨member, listed⟩)
  · rintro (⟨member, durable⟩ | handed)
    · exact ids.mem_keys member durable
    · cases key with
      | chatAgent id =>
        exact mem_keys_chatNumbers.mpr
          ((ids.chatNumbers.new_iff positive lowest.1).mpr handed).1
      | terminal id =>
        exact mem_keys_terminalNumbers.mpr
          ((ids.terminalNumbers.new_iff positive lowest.2).mpr handed).1

/-! ## What the tables leave a new key -/

/-- A session with a token that is in none of the saved tables, and no generation. -/
def StartsAfresh (saved repaired : ProjectState) (key : PtyKey) : Prop :=
  (∃ token, repaired.sessionIdentities.get key = some token ∧
    token ∉ saved.sessionIdentities.tokens) ∧
  ∀ id, key = .chatAgent id → id ∉ repaired.agentGenerations

/-- Whatever the saved tables hold under a key that is given away, a session that keeps its key
holds it under an earlier one. -/
structure Unclaimed (state : ProjectState) : Prop where
  tokens : ∀ key token, state.HandsOut key → state.sessionIdentities.get key = some token →
    ∃ earlier, (earlier ∈ state.keys ∧ earlier.isDurable = true) ∧ earlier.before key ∧
      state.sessionIdentities.get earlier = some token
  generations : ∀ (id : ChatId) (generation : AgentGeneration),
    state.HandsOut (.chatAgent id) → state.agentGenerations[id]? = some generation →
    ∃ earlier : ChatId, (.chatAgent earlier ∈ state.keys ∧
      isValidDurableSessionId earlier.raw = true) ∧ earlier.before id ∧
      state.agentGenerations[earlier]? = some generation

theorem PrunedIdentities.keepsEarliest {left : SessionIdentities}
    (pruned : state.PrunedIdentities left) {present : PtyKey → Prop}
    (same : ∀ key, key ∈ state.keys ↔ present key) :
    KeepsEarliest PtyKey.before present state.sessionIdentities.get left.get where
  within key token found := ⟨pruned.within key token found,
    (same key).mp (pruned.present key token found)⟩
  distinct := pruned.distinct
  kept key token found here first := pruned.kept key token found ((same key).mpr here)
    fun earlier there => first earlier ((same earlier).mp there)

theorem PrunedGenerations.keepsEarliest {left : BTreeMap ChatId AgentGeneration}
    (pruned : state.PrunedGenerations left) {present : ChatId → Prop}
    (same : ∀ id, .chatAgent id ∈ state.keys ↔ present id) :
    KeepsEarliest ChatId.before present (fun id : ChatId => state.agentGenerations[id]?)
      (fun id : ChatId => left[id]?) where
  within id generation found := by
    refine ⟨pruned.within id generation found, (same id).mp (mem_keys_chatAgent.mpr ?_)⟩
    apply pruned.present
    rw [ExtTreeMap.mem_iff_isSome_getElem?, found]
    rfl
  distinct := values_nodup_iff.mp pruned.distinct
  kept id generation found here first := pruned.kept id generation found
    (mem_keys_chatAgent.mp ((same id).mpr here))
    fun earlier there => first earlier ((same earlier).mp (mem_keys_chatAgent.mpr there))

/-- A session has the token that pruning left it, or one the source has drawn. -/
theorem normalizeSessionIdentities_origin {source left : IdentitySource} {changed : Bool}
    (normalized : state.normalizeSessionIdentities source = .ok (repaired, changed, left)) :
    (∀ key token, state.pruneIdentities.1.sessionIdentities.get key = some token →
      repaired.sessionIdentities.get key = some token) ∧
    ∀ key token, repaired.sessionIdentities.get key = some token →
      state.pruneIdentities.1.sessionIdentities.get key = some token ∨
        ∃ position, source.drawn ≤ position ∧ position < left.drawn ∧
          source.draws position = .ok token.bytes := by
  unfold normalizeSessionIdentities at normalized
  dsimp only at normalized
  split at normalized
  · cases normalized
  · next first =>
    split at normalized
    · cases normalized
    · next second =>
      cases normalized
      obtain ⟨draws, onward, chats⟩ := mintTokens_drawn first
      obtain ⟨-, later, terminals⟩ := mintTokens_drawn second
      constructor
      · intro key token found
        exact (mintTokens_ok second).kept key token ((mintTokens_ok first).kept key token found)
      · intro key token found
        rcases terminals key token found with table | ⟨position, placed, ended, drawn⟩
        · rcases chats key token table with table | ⟨position, placed, ended, drawn⟩
          · exact .inl table
          · exact .inr ⟨position, placed, ended.trans_le later, drawn⟩
        · exact .inr ⟨position, onward.trans placed, ended, draws ▸ drawn⟩

/-- The renumbered sessions all start afresh exactly where none of the keys that are given away
is claimed. -/
theorem renumbered_start_afresh {source left : IdentitySource} {idsChanged tablesChanged : Bool}
    (words : state.workspaces.length ≤ u64Max)
    (unsaved : ∀ position bytes, source.drawn ≤ position → position < left.drawn →
      source.draws position = .ok bytes → ¬ state.UsesToken bytes)
    (renumbered : state.normalizeNextIds = .ok (numbered, idsChanged))
    (normalized : numbered.normalizeSessionIdentities source =
      .ok (repaired, tablesChanged, left)) :
    (∀ old new, state.Replaces numbered old new → state.StartsAfresh repaired new) ↔
      state.Unclaimed := by
  have held := addressable_of_ok words renumbered
  have lowest := normalizeNextIds_lowest held renumbered
  obtain ⟨same, sameChanged, succeeded, ids, -⟩ := normalizeNextIds_spec held
  rw [succeeded] at renumbered
  cases renumbered
  have reconciled := normalizeSessionIdentities_ok normalized
  obtain ⟨keeps, origin⟩ := normalizeSessionIdentities_origin normalized
  have identities : numbered.sessionIdentities = state.sessionIdentities := by
    have rest := congrArg ProjectState.sessionIdentities ids.rest
    exact rest
  have generations : numbered.agentGenerations = state.agentGenerations := by
    have rest := congrArg ProjectState.agentGenerations ids.rest
    exact rest
  -- What the two tables keep is said in terms of the keys before the renumbering.
  have tokens := (pruneIdentities_identities numbered).keepsEarliest
    fun _ => ids.mem_keys_iff lowest
  have actives := reconciled.generations.keepsEarliest fun _ => ids.mem_keys_iff lowest
  rw [identities] at tokens
  rw [generations] at actives
  have tokensLeft := tokens.none_iff PtyKey.before_founded
  have generationsLeft := actives.none_iff ChatId.before_founded
  constructor
  · intro afresh
    -- A key that is given away replaces some key, so its session starts afresh.
    have handed : ∀ key, state.HandsOut key → state.StartsAfresh repaired key := by
      intro key handed
      obtain ⟨old, replaces⟩ := (ids.replaces_iff lowest key).mpr handed
      exact afresh old key replaces
    refine ⟨tokensLeft.mp ?_, generationsLeft.mp ?_⟩
    · intro key given
      obtain ⟨⟨token, found, unlisted⟩, -⟩ := handed key given
      rw [Option.eq_none_iff_forall_ne_some]
      intro other left
      cases (keeps key other left).symm.trans found
      exact unlisted (SessionIdentities.mem_tokens_iff.mpr ⟨key, (tokens.within key _ left).1⟩)
    · intro id given
      have none := (handed _ given).2 id rfl
      rwa [ExtTreeMap.mem_iff_isSome_getElem?, Option.not_isSome_iff_eq_none] at none
  · rintro unclaimed old new replaces
    -- Nothing claims the key, so its token was drawn, and such a token is in no saved table.
    have given := (ids.replaces_iff lowest new).mp ⟨old, replaces⟩
    have present : new ∈ numbered.keys := (ids.mem_keys_iff lowest).mpr (.inr given)
    obtain ⟨token, found⟩ := Option.isSome_iff_exists.mp ((reconciled.domain new).mpr present)
    refine ⟨⟨token, found, ?_⟩, ?_⟩
    · rcases origin new token found with left | ⟨position, placed, ended, drawn⟩
      · exact absurd left (by simp [tokensLeft.mpr unclaimed.tokens new given])
      · exact fun saved => unsaved position _ placed ended drawn ⟨token, saved, rfl⟩
    · rintro id rfl
      have none := generationsLeft.mpr unclaimed.generations id given
      rw [ExtTreeMap.mem_iff_isSome_getElem?, none]
      simp

/-- An id that two chats have, the first of them with a token and a generation. -/
def repeatedId : ProjectState where
  version := stateVersion
  stateNamespace := ⟨1, bytes_one⟩
  sessionIdentities := ⟨(∅ : BTreeMap ChatId SessionToken).insert ⟨5⟩ sampleToken, ∅⟩
  agentGenerations := (∅ : BTreeMap ChatId AgentGeneration).insert ⟨5⟩ ⟨7, bytes_seven⟩
  nextWorkspaceId := 2
  nextChatId := 6
  nextTerminalId := 1
  workspaces := [sampleWorkspace 1 [5, 5] []]

theorem repeatedId_unclaimed : repeatedId.Unclaimed where
  tokens key token given found := by
    cases key with
    | chatAgent id =>
      change ((∅ : BTreeMap ChatId SessionToken).insert ⟨5⟩ sampleToken)[id]? = some token at found
      rw [ExtTreeMap.getElem?_insert] at found
      split at found
      · next same =>
        cases Std.LawfulEqOrd.compare_eq_iff_eq.mp same
        exact absurd List.mem_cons_self given.2.1
      · simp at found
    | terminal id =>
      change (∅ : BTreeMap TerminalId SessionToken)[id]? = some token at found
      simp at found
  generations id generation given found := by
    change ((∅ : BTreeMap ChatId AgentGeneration).insert ⟨5⟩ ⟨7, _⟩)[id]? = _ at found
    rw [ExtTreeMap.getElem?_insert] at found
    split at found
    · next same =>
      cases Std.LawfulEqOrd.compare_eq_iff_eq.mp same
      exact absurd List.mem_cons_self given.2.1
    · simp at found

theorem renumbered_start_afresh_repeated : ∃ numbered repaired idsChanged tablesChanged left,
    repeatedId.normalizeNextIds = .ok (numbered, idsChanged) ∧
    numbered.normalizeSessionIdentities (countingSource 10) =
      .ok (repaired, tablesChanged, left) ∧
    ∀ old new, repeatedId.Replaces numbered old new → repeatedId.StartsAfresh repaired new := by
  have held : repeatedId.Addressable := ⟨by decide, by decide, by decide⟩
  have working : (countingSource 10).Working repeatedId.UsesToken repeatedId.keys.length :=
    countingSource_uses (by decide) (by decide) (by decide)
  obtain ⟨numbered, idsChanged, repaired, tablesChanged, left, renumbered, normalized, -⟩ :=
    repair_succeeds held working
  have few : (repeatedId.normalizeNextIds.toOption.bind fun numbered =>
      (numbered.1.normalizeSessionIdentities (countingSource 10)).toOption).all
        (fun normalized => decide (normalized.2.2.drawn ≤ 1)) = true := by decide
  rw [renumbered] at few
  change (numbered.normalizeSessionIdentities (countingSource 10)).toOption.all _ = true at few
  rw [normalized] at few
  refine ⟨numbered, repaired, idsChanged, tablesChanged, left, renumbered, normalized,
    (renumbered_start_afresh (by decide) ?_ renumbered normalized).mpr
      repeatedId_unclaimed⟩
  rintro position bytes - ended drawn ⟨token, member, same⟩
  have first : position = 0 := by
    have drawn : left.drawn ≤ 1 := of_decide_eq_true few
    omega
  subst first
  have only : ∀ token ∈ repeatedId.sessionIdentities.tokens, token.bytes ≠ 10 := by
    decide
  cases drawn
  exact only token member same

/-- A chat whose id was lost, and what the tables hold of a chat that is gone. -/
def orphanedTables : ProjectState where
  version := stateVersion
  stateNamespace := ⟨1, bytes_one⟩
  sessionIdentities := ⟨.ofList [((⟨1⟩ : ChatId), sampleToken)], ∅⟩
  agentGenerations := .ofList [((⟨1⟩ : ChatId), (⟨7, bytes_seven⟩ : AgentGeneration))]
  nextWorkspaceId := 2
  nextChatId := 2
  nextTerminalId := 1
  workspaces := [sampleWorkspace 1 [0] []]

/-- The chat is given the id of the one that is gone, and with it its token and generation. -/
theorem orphan_taken_over : ∃ numbered repaired idsChanged tablesChanged left,
    orphanedTables.normalizeNextIds = .ok (numbered, idsChanged) ∧
    numbered.normalizeSessionIdentities (countingSource 10) =
      .ok (repaired, tablesChanged, left) ∧
    orphanedTables.Replaces numbered (.chatAgent ⟨0⟩) (.chatAgent ⟨1⟩) ∧
    orphanedTables.sessionIdentities.get (.chatAgent ⟨1⟩) = some sampleToken ∧
    repaired.sessionIdentities.get (.chatAgent ⟨1⟩) = some sampleToken ∧
    repaired.agentGenerations[(⟨1⟩ : ChatId)]? = some ⟨7, by decide⟩ := by
  have held : orphanedTables.Addressable := ⟨by decide, by decide, by decide⟩
  have working : (countingSource 10).Working orphanedTables.UsesToken
      orphanedTables.keys.length :=
    countingSource_uses (by decide) (by decide) (by decide)
  obtain ⟨numbered, idsChanged, repaired, tablesChanged, left, renumbered, normalized, ids, -,
    reconciled⟩ := repair_succeeds held working
  have lowest := normalizeNextIds_lowest held renumbered
  have given : orphanedTables.HandsOut (.chatAgent ⟨1⟩) := by
    change HandedOut isValidDurableSessionId orphanedTables.chatNumbers 1
    decide
  have present : .chatAgent ⟨1⟩ ∈ numbered.keys := (ids.mem_keys_iff lowest).mpr (.inr given)
  obtain ⟨old, replaces⟩ := (ids.replaces_iff lowest _).mpr given
  have identities : numbered.sessionIdentities = orphanedTables.sessionIdentities := by
    have rest := congrArg ProjectState.sessionIdentities ids.rest
    exact rest
  have generations : numbered.agentGenerations = orphanedTables.agentGenerations := by
    have rest := congrArg ProjectState.agentGenerations ids.rest
    exact rest
  refine ⟨numbered, repaired, idsChanged, tablesChanged, left, renumbered, normalized, ?_,
    by decide, ?_, ?_⟩
  · obtain ⟨position, before, after, other⟩ := replaces
    have only : old ∈ [PtyKey.chatAgent ⟨0⟩] := List.mem_of_getElem? before
    cases List.mem_singleton.mp only
    exact ⟨position, before, after, other⟩
  · refine reconciled.tokens _ _ (identities ▸ by decide) present ?_
    intro earlier _ ahead
    rw [identities]
    cases earlier with
    | chatAgent id =>
      obtain ⟨raw⟩ := id
      cases Nat.lt_one_iff.mp ahead
      decide
    | terminal id => exact ahead.elim
  · refine reconciled.generations.kept _ _ (generations ▸ by decide)
      (mem_keys_chatAgent.mp present) ?_
    rintro ⟨raw⟩ _ ahead
    cases Nat.lt_one_iff.mp ahead
    rw [generations]
    decide

end ProjectState

end Mult.Project
