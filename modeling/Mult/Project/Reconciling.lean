import Mult.Project.Renumbering

/-! What reconciling does to the identity tables: entries of sessions that are gone or repeat
a token are dropped, and every session without a token gets one of its own.
-/

set_option autoImplicit false

namespace Mult.Project
open Foundation Protocol Storage
open Std (ExtTreeMap ExtTreeSet)

/-- The order of the table entries: chats by id, then terminals by id. -/
def PtyKey.before : PtyKey → PtyKey → Prop
  | .chatAgent first, .chatAgent second => first.raw < second.raw
  | .chatAgent _, .terminal _ => True
  | .terminal _, .chatAgent _ => False
  | .terminal first, .terminal second => first.raw < second.raw

namespace ProjectState

variable {state : ProjectState}

theorem mem_keys_chatAgent {id : ChatId} : .chatAgent id ∈ state.keys ↔ id ∈ state.chatIds := by
  simp [keys]

theorem mem_keys_terminal {id : TerminalId} :
    .terminal id ∈ state.keys ↔ id ∈ state.terminalIds := by
  simp [keys]

/-! ## Pruning -/

/-- What pruning leaves in the identity tables. -/
structure PrunedIdentities (state : ProjectState) (left : SessionIdentities) : Prop where
  within : ∀ key token, left.get key = some token → state.sessionIdentities.get key = some token
  present : ∀ key token, left.get key = some token → key ∈ state.keys
  distinct : left.Distinct
  kept : ∀ key token, state.sessionIdentities.get key = some token → key ∈ state.keys →
    (∀ earlier ∈ state.keys, earlier.before key →
      state.sessionIdentities.get earlier ≠ some token) → left.get key = some token

/-- What pruning leaves in the generation table. -/
structure PrunedGenerations (state : ProjectState) (left : BTreeMap ChatId AgentGeneration) :
    Prop where
  within : ∀ (id : ChatId) (generation : AgentGeneration), left[id]? = some generation →
    state.agentGenerations[id]? = some generation
  present : ∀ id ∈ left, id ∈ state.chatIds
  distinct : left.values.Nodup
  kept : ∀ (id : ChatId) (generation : AgentGeneration),
    state.agentGenerations[id]? = some generation → id ∈ state.chatIds →
    (∀ earlier ∈ state.chatIds, earlier.raw < id.raw →
      state.agentGenerations[earlier]? ≠ some generation) → left[id]? = some generation

theorem compare_chatId {first second : ChatId} :
    compare first second = .lt ↔ first.raw < second.raw := Nat.compare_eq_lt

theorem compare_terminalId {first second : TerminalId} :
    compare first second = .lt ↔ first.raw < second.raw := Nat.compare_eq_lt

theorem contains_setOf {K : Type} [Ord K] [Std.TransOrd K] [Std.LawfulEqOrd K] {ids : List K}
    {id : K} : (ExtTreeSet.ofList ids : BTreeSet K).contains id = true ↔ id ∈ ids := by
  rw [ExtTreeSet.contains_iff_mem, mem_setOf]

theorem pruneIdentities_identities (state : ProjectState) :
    state.PrunedIdentities state.pruneIdentities.1.sessionIdentities := by
  let chatIds : BTreeSet ChatId := .ofList state.chatIds
  let terminalIds : BTreeSet TerminalId := .ofList state.terminalIds
  have chats : Pruned chatIds.contains state.sessionIdentities.chats ∅ _ _ :=
    BTreeMap.retainUnseen_pruned state.sessionIdentities.chats ∅
  have terminals : Pruned terminalIds.contains state.sessionIdentities.terminals
      (state.sessionIdentities.chats.retainUnseen chatIds.contains ∅).2 _ _ :=
    BTreeMap.retainUnseen_pruned state.sessionIdentities.terminals _
  -- a token that a chat keeps is one the terminals may not have
  have counted : ∀ token, token ∈ (state.sessionIdentities.chats.retainUnseen
      chatIds.contains ∅).2 ↔ ∃ id : ChatId, (state.sessionIdentities.chats.retainUnseen
        chatIds.contains ∅).1[id]? = some token := by
    intro token
    rw [chats.counted]
    simp
  refine ⟨?_, ?_, ?_, ?_⟩
  · intro key token found
    cases key with
    | chatAgent id => exact chats.within id token found
    | terminal id => exact terminals.within id token found
  · intro key token found
    cases key with
    | chatAgent id => exact mem_keys_chatAgent.mpr (contains_setOf.mp (chats.passed id token found).1)
    | terminal id =>
      exact mem_keys_terminal.mpr (contains_setOf.mp (terminals.passed id token found).1)
  · intro first second token found other
    cases first with
    | chatAgent id =>
      cases second with
      | chatAgent also => rw [chats.distinct id also token found other]
      | terminal also =>
        exact absurd ((counted token).mpr ⟨id, found⟩) (terminals.passed also token other).2
    | terminal id =>
      cases second with
      | chatAgent also =>
        exact absurd ((counted token).mpr ⟨also, other⟩) (terminals.passed id token found).2
      | terminal also => rw [terminals.distinct id also token found other]
  · intro key token found present first
    cases key with
    | chatAgent id =>
      refine chats.kept id token found (contains_setOf.mpr (mem_keys_chatAgent.mp present))
        (by simp) ?_
      intro earlier before wanted held
      exact first (.chatAgent earlier) (mem_keys_chatAgent.mpr (contains_setOf.mp wanted))
        (compare_chatId.mp before) held
    | terminal id =>
      refine terminals.kept id token found (contains_setOf.mpr (mem_keys_terminal.mp present))
        ?_ ?_
      · rw [counted]
        rintro ⟨chat, held⟩
        exact first (.chatAgent chat)
          (mem_keys_chatAgent.mpr (contains_setOf.mp (chats.passed chat token held).1)) trivial
          (chats.within chat token held)
      · intro earlier before wanted held
        exact first (.terminal earlier) (mem_keys_terminal.mpr (contains_setOf.mp wanted))
          (compare_terminalId.mp before) held

theorem pruneIdentities_generations (state : ProjectState) :
    state.PrunedGenerations state.pruneIdentities.1.agentGenerations := by
  let chatIds : BTreeSet ChatId := .ofList state.chatIds
  have pruned : Pruned chatIds.contains state.agentGenerations ∅ _ _ :=
    BTreeMap.retainUnseen_pruned state.agentGenerations ∅
  refine ⟨pruned.within, ?_, values_nodup_iff.mpr pruned.distinct, ?_⟩
  · intro id member
    rw [ExtTreeMap.mem_iff_isSome_getElem?, Option.isSome_iff_exists] at member
    obtain ⟨generation, found⟩ := member
    exact contains_setOf.mp (pruned.passed id generation found).1
  · intro id generation found present first
    refine pruned.kept id generation found (contains_setOf.mpr present) (by simp) ?_
    intro earlier before wanted held
    exact first earlier (contains_setOf.mp wanted) (compare_chatId.mp before) held

/-- Tables whose entries are all of sessions, with no token or generation twice, are left as
they are, and no change is reported. -/
theorem Valid.pruneIdentities (valid : state.Valid) :
    state.pruneIdentities = (state, false) := by
  let chatIds : BTreeSet ChatId := .ofList state.chatIds
  let terminalIds : BTreeSet TerminalId := .ofList state.terminalIds
  have distinct : state.sessionIdentities.Distinct :=
    SessionIdentities.tokens_nodup_iff.mp valid.tokens
  have chats : Pruned chatIds.contains state.sessionIdentities.chats ∅ _ _ :=
    BTreeMap.retainUnseen_pruned state.sessionIdentities.chats ∅
  have terminals : Pruned terminalIds.contains state.sessionIdentities.terminals
      (state.sessionIdentities.chats.retainUnseen chatIds.contains ∅).2 _ _ :=
    BTreeMap.retainUnseen_pruned state.sessionIdentities.terminals _
  have generations : Pruned chatIds.contains state.agentGenerations ∅ _ _ :=
    BTreeMap.retainUnseen_pruned state.agentGenerations ∅
  have sameChats := chats.eq
    (fun id token found => ⟨contains_setOf.mpr ((valid.chatTable id).mp (by
      rw [ExtTreeMap.mem_iff_isSome_getElem?, found]; rfl)), by simp⟩)
    (fun first second token found other =>
      PtyKey.chatAgent.inj (distinct (.chatAgent first) (.chatAgent second) token found other))
  have sameTerminals := terminals.eq
    (fun id token found => ⟨contains_setOf.mpr ((valid.terminalTable id).mp (by
      rw [ExtTreeMap.mem_iff_isSome_getElem?, found]; rfl)), by
        rw [chats.counted, sameChats]
        rintro (seen | ⟨chat, held⟩)
        · simp at seen
        · cases distinct (.chatAgent chat) (.terminal id) token held found⟩)
    (fun first second token found other =>
      PtyKey.terminal.inj (distinct (.terminal first) (.terminal second) token found other))
  have sameGenerations := generations.eq
    (fun id generation found => ⟨contains_setOf.mpr (valid.generations id (by
      rw [ExtTreeMap.mem_iff_isSome_getElem?, found]; rfl)), by simp⟩)
    (values_nodup_iff.mp valid.distinct)
  unfold ProjectState.pruneIdentities
  dsimp only
  rw [sameChats, sameTerminals, sameGenerations]
  simp

end ProjectState

/-! ## Minting -/

/-- What minting makes of the tables. -/
structure Minted (keys : List PtyKey) (before after : SessionIdentities) : Prop where
  kept : ∀ key token, before.get key = some token → after.get key = some token
  domain : ∀ key, (after.get key).isSome ↔ (before.get key).isSome ∨ key ∈ keys
  distinct : before.Distinct → after.Distinct

namespace ProjectState

theorem mintTokens_ok {keys : List PtyKey} {before after : SessionIdentities}
    {changed reported : Bool} {source left : IdentitySource}
    (minted : mintTokens keys before changed source = .ok (after, reported, left)) :
    Minted keys before after := by
  induction keys generalizing before changed source with
  | nil =>
    cases minted
    exact ⟨fun _ _ found => found, by simp, id⟩
  | cons key rest ih =>
    unfold mintTokens at minted
    split at minted
    · next held =>
      have tail := ih minted
      refine ⟨tail.kept, ?_, tail.distinct⟩
      intro other
      rw [tail.domain, List.mem_cons]
      constructor
      · rintro (found | later)
        · exact .inl found
        · exact .inr (.inr later)
      · rintro (found | same | later)
        · exact .inl found
        · exact .inl (same ▸ held)
        · exact .inr later
    · next missing =>
      split at minted
      · cases minted
      · next token source allocated =>
        have fresh := SessionIdentities.allocateSessionToken_ok allocated
        have tail := ih minted
        refine ⟨?_, ?_, ?_⟩
        · intro other held found
          apply tail.kept
          rw [SessionIdentities.get_insert, if_neg]
          · exact found
          · rintro rfl
            exact missing (by rw [found]; rfl)
        · intro other
          rw [tail.domain, SessionIdentities.get_insert, List.mem_cons]
          by_cases same : key = other
          · simp [same]
          · rw [if_neg same]
            simp [Ne.symm same]
        · intro distinct
          exact tail.distinct (distinct.insert key fresh)

theorem mintTokens_of_held {keys : List PtyKey} {identities : SessionIdentities}
    (held : ∀ key ∈ keys, (identities.get key).isSome) (changed : Bool)
    (source : IdentitySource) :
    mintTokens keys identities changed source = .ok (identities, changed, source) := by
  induction keys with
  | nil => rfl
  | cons key rest ih =>
    unfold mintTokens
    rw [if_pos (held key List.mem_cons_self)]
    exact ih fun other member => held other (List.mem_cons_of_mem _ member)

end ProjectState

/-- Entropy that works for so many identities: every draw succeeds, and among the draws one
identity is given there is always a new one, neither in use before nor drawn before. -/
structure IdentitySource.Working (source : IdentitySource) (taken : BitVec 128 → Prop)
    (count : Nat) : Prop where
  succeeds : ∀ position < source.drawn + maxIdentityAttempts * count,
    ∃ bytes, source.draws position = .ok bytes
  fresh : ∀ position, source.drawn ≤ position →
    position + maxIdentityAttempts ≤ source.drawn + maxIdentityAttempts * count →
    ∃ offset < maxIdentityAttempts, ∃ bytes, source.draws (position + offset) = .ok bytes ∧
      bytes ≠ 0 ∧ ¬ taken bytes ∧ ∀ earlier < position + offset, source.draws earlier ≠ .ok bytes

/-- Every token in use was in use before or has been drawn. -/
def SessionIdentities.Accounted (identities : SessionIdentities) (source : IdentitySource)
    (taken : BitVec 128 → Prop) : Prop :=
  ∀ token ∈ identities.tokens, taken token.bytes ∨
    ∃ position < source.drawn, source.draws position = .ok token.bytes

theorem SessionIdentities.mem_tokens_insert {identities : SessionIdentities} {key : PtyKey}
    {token other : SessionToken} (member : other ∈ (identities.insert key token).tokens) :
    other = token ∨ other ∈ identities.tokens := by
  obtain ⟨found, held⟩ := SessionIdentities.mem_tokens_iff.mp member
  rw [SessionIdentities.get_insert] at held
  split at held
  · exact .inl (Option.some.inj held).symm
  · exact .inr (SessionIdentities.mem_tokens_iff.mpr ⟨found, held⟩)

theorem SessionIdentities.Accounted.allocates {identities : SessionIdentities}
    {source : IdentitySource} {taken : BitVec 128 → Prop} {count : Nat}
    (accounted : identities.Accounted source taken) (working : source.Working taken (count + 1)) :
    ∃ token after, identities.allocateSessionToken source = (.ok token, after) ∧
      after.Working taken count ∧ ∀ key, (identities.insert key token).Accounted after taken := by
  have enough : maxIdentityAttempts * (count + 1) = maxIdentityAttempts * count +
      maxIdentityAttempts := Nat.mul_succ _ _
  obtain ⟨offset, near, bytes, found, nonzero, free, new⟩ :=
    working.fresh source.drawn (Nat.le_refl _) (by omega)
  have unused : (identities.tokens.contains (⟨bytes, nonzero⟩ : SessionToken)) = false := by
    rw [← Bool.not_eq_true, List.contains_iff_mem]
    intro member
    rcases accounted _ member with before | ⟨position, earlier, drawn⟩
    · exact free before
    · exact new position (by omega) drawn
  obtain ⟨token, after, generated⟩ : ∃ token after, generateIdentity source
      (fun candidate : SessionToken => identities.tokens.contains candidate) =
        (.ok token, after) :=
    drawIdentity_succeeds (fun position before => working.succeeds position (by omega)) near
      found nonzero unused
  obtain ⟨-, draws, few, position, from_start, before, drawn⟩ := drawIdentity_ok generated
  refine ⟨token, after, by simp only [allocateSessionToken, generated], ⟨?_, ?_⟩, ?_⟩
  · intro place within
    rw [draws]
    exact working.succeeds place (by omega)
  · intro place from_after within
    rw [draws]
    exact working.fresh place (by omega) (by omega)
  · intro key other member
    rw [draws]
    rcases mem_tokens_insert member with same | earlier
    · exact .inr ⟨position, before, by rw [drawn, same]; rfl⟩
    · rcases accounted other earlier with held | ⟨place, placed, given⟩
      · exact .inl held
      · exact .inr ⟨place, by omega, given⟩

theorem IdentitySource.Working.fewer {source : IdentitySource} {taken : BitVec 128 → Prop}
    {count fewer : Nat} (working : source.Working taken count) (few : fewer ≤ count) :
    source.Working taken fewer := by
  have smaller := Nat.mul_le_mul_left maxIdentityAttempts few
  exact ⟨fun position before => working.succeeds position (by omega),
    fun position from_start within => working.fresh position from_start (by omega)⟩

namespace ProjectState

theorem mintTokens_succeeds {keys : List PtyKey} {identities : SessionIdentities}
    (changed : Bool) {source : IdentitySource} {taken : BitVec 128 → Prop} {count : Nat}
    (working : source.Working taken (keys.length + count))
    (accounted : identities.Accounted source taken) :
    ∃ after reported left, mintTokens keys identities changed source =
        .ok (after, reported, left) ∧
      left.Working taken count ∧ after.Accounted left taken := by
  induction keys generalizing identities changed source with
  | nil =>
    rw [List.length_nil, Nat.zero_add] at working
    exact ⟨identities, changed, source, rfl, working, accounted⟩
  | cons key rest ih =>
    rw [List.length_cons, Nat.add_right_comm] at working
    unfold mintTokens
    split
    · exact ih changed (working.fewer (Nat.le_succ _)) accounted
    · obtain ⟨token, after, allocated, onward, counted⟩ := accounted.allocates working
      rw [allocated]
      exact ih true onward (counted key)

end ProjectState

end Mult.Project
