import Mult.Project.State

/-! Random identities: the source of entropy, the bounded retries, and what may go wrong. -/

set_option autoImplicit false

namespace Mult.Project
open Foundation Protocol Storage

inductive IdAllocationError where
  | workspace
  | chat
  | terminal
  | identity (message : String)
  deriving DecidableEq, Repr

def IdAllocationError.display : IdAllocationError → String
  | .workspace => "workspace ID space is exhausted"
  | .chat => "chat ID space is exhausted"
  | .terminal => "terminal ID space is exhausted"
  | .identity error => s!"could not allocate secure session identity: {error}"

def identityAllocationError (error : IoError) : IdAllocationError := .identity error.text

def allocationIoError : IdAllocationError → IoError
  | .identity message => ⟨.other, message⟩
  | other => ⟨.other, other.display⟩

def maxIdentityAttempts : Nat := 64

/-- What each draw of sixteen bytes gives, and how many have been made. -/
structure IdentitySource where
  draws : Nat → Except IoError (BitVec 128)
  drawn : Nat

def IdentitySource.fillBytes (source : IdentitySource) :
    Except IoError (BitVec 128) × IdentitySource :=
  (source.draws source.drawn, { source with drawn := source.drawn + 1 })

/-- Sixteen bytes that are not all zero, under one of the identities' names. -/
class RandomIdentity (T : Type) where
  ofBytes : (bytes : BitVec 128) → bytes ≠ 0 → T
  asBytes : T → BitVec 128
  asBytes_injective : Function.Injective asBytes
  asBytes_ofBytes : ∀ bytes nonzero, asBytes (ofBytes bytes nonzero) = bytes

instance : RandomIdentity StateNamespace where
  ofBytes := StateNamespace.mk
  asBytes := StateNamespace.bytes
  asBytes_injective a b same := by cases a; cases b; simp_all
  asBytes_ofBytes _ _ := rfl

instance : RandomIdentity SessionToken where
  ofBytes := SessionToken.mk
  asBytes := SessionToken.bytes
  asBytes_injective a b same := by cases a; cases b; simp_all
  asBytes_ofBytes _ _ := rfl

instance : RandomIdentity AgentGeneration where
  ofBytes := AgentGeneration.mk
  asBytes := AgentGeneration.bytes
  asBytes_injective a b same := by cases a; cases b; simp_all
  asBytes_ofBytes _ _ := rfl

def repeatedIdentities : IoError :=
  .invalidData "secure entropy repeatedly produced zero or colliding identities"

section Generating

variable {T : Type} [RandomIdentity T]

def fromRandomBytes (bytes : BitVec 128) : Option T :=
  if nonzero : bytes ≠ 0 then some (RandomIdentity.ofBytes bytes nonzero) else none

theorem fromRandomBytes_eq_some_iff {bytes : BitVec 128} {identity : T} :
    fromRandomBytes bytes = some identity ↔
      bytes ≠ 0 ∧ RandomIdentity.asBytes identity = bytes := by
  unfold fromRandomBytes
  split
  · next nonzero =>
    rw [Option.some.injEq]
    constructor
    · rintro rfl
      exact ⟨nonzero, RandomIdentity.asBytes_ofBytes bytes nonzero⟩
    · rintro ⟨-, same⟩
      apply RandomIdentity.asBytes_injective
      rw [RandomIdentity.asBytes_ofBytes, same]
  · next zero =>
    constructor
    · nofun
    · rintro ⟨nonzero, -⟩
      exact absurd nonzero zero

def drawIdentity (collision : T → Bool) :
    Nat → IdentitySource → Except IoError T × IdentitySource
  | 0, source => (.error repeatedIdentities, source)
  | attempts + 1, source =>
      match source.fillBytes with
      | (.error error, source) => (.error error, source)
      | (.ok bytes, source) =>
        match (fromRandomBytes bytes).filter (fun value => !collision value) with
        | some identity => (.ok identity, source)
        | none => drawIdentity collision attempts source

def generateIdentity (source : IdentitySource) (collision : T → Bool) :
    Except IoError T × IdentitySource :=
  drawIdentity collision maxIdentityAttempts source

variable {collision : T → Bool} {source after : IdentitySource} {identity : T}

theorem drawIdentity_ok {attempts : Nat}
    (drawn : drawIdentity collision attempts source = (.ok identity, after)) :
    collision identity = false ∧ after.draws = source.draws ∧
      after.drawn ≤ source.drawn + attempts ∧ ∃ position, source.drawn ≤ position ∧ position < after.drawn ∧
        source.draws position = .ok (RandomIdentity.asBytes identity) := by
  induction attempts generalizing source with
  | zero => simp [drawIdentity] at drawn
  | succ attempts ih =>
    simp only [drawIdentity, IdentitySource.fillBytes] at drawn
    cases bytes : source.draws source.drawn with
    | error error => simp [bytes] at drawn
    | ok bytes =>
      simp only [bytes] at drawn
      split at drawn
      · next found accepted =>
        cases drawn
        rw [Option.filter_eq_some_iff, fromRandomBytes_eq_some_iff] at accepted
        obtain ⟨⟨-, rfl⟩, fresh⟩ := accepted
        exact ⟨by simpa using fresh, rfl, Nat.add_le_add_left (Nat.le_add_left 1 attempts) _,
          source.drawn, Nat.le_refl _, Nat.lt_succ_self _, bytes⟩
      · obtain ⟨fresh, same, few, position, after_start, before, found⟩ := ih drawn
        rw [Nat.add_assoc, Nat.add_comm 1] at few
        exact ⟨fresh, same, few, position, Nat.le_of_succ_le after_start, before, found⟩

theorem generateIdentity_ok (generated : generateIdentity source collision = (.ok identity, after)) :
    collision identity = false :=
  (drawIdentity_ok generated).1

/-- Draws that succeed and hold a usable identity among the next few give an identity. -/
theorem drawIdentity_succeeds {attempts : Nat}
    (succeed : ∀ position < source.drawn + attempts, ∃ bytes, source.draws position = .ok bytes)
    {offset : Nat} (near : offset < attempts)
    (found : source.draws (source.drawn + offset) = .ok (RandomIdentity.asBytes identity))
    (nonzero : RandomIdentity.asBytes identity ≠ 0) (fresh : collision identity = false) :
    ∃ drawn after, drawIdentity collision attempts source = (.ok drawn, after) := by
  induction attempts generalizing source offset with
  | zero => exact absurd near (Nat.not_lt_zero _)
  | succ attempts ih =>
    obtain ⟨bytes, first⟩ := succeed source.drawn (by omega)
    simp only [drawIdentity, IdentitySource.fillBytes, first]
    split
    · exact ⟨_, _, rfl⟩
    · next refused =>
      cases offset with
      | zero =>
        rw [Nat.add_zero, first] at found
        have accepted : fromRandomBytes bytes = some identity := fromRandomBytes_eq_some_iff.mpr
          ⟨Except.ok.inj found ▸ nonzero, (Except.ok.inj found).symm⟩
        rw [accepted] at refused
        simp [fresh] at refused
      | succ offset =>
        refine @ih { source with drawn := source.drawn + 1 }
          (fun position before => succeed position (by dsimp only at before; omega))
          offset (by omega) ?_
        rw [← found, Nat.add_assoc, Nat.add_comm 1]

end Generating

/-! ## The tokens of the sessions -/

namespace SessionIdentities

def get (identities : SessionIdentities) : PtyKey → Option SessionToken
  | .terminal id => identities.terminals[id]?
  | .chatAgent id => identities.chats[id]?

def insert (identities : SessionIdentities) (key : PtyKey) (token : SessionToken) :
    SessionIdentities :=
  match key with
  | .terminal id => { identities with terminals := identities.terminals.insert id token }
  | .chatAgent id => { identities with chats := identities.chats.insert id token }

def erase (identities : SessionIdentities) : PtyKey → SessionIdentities
  | .terminal id => { identities with terminals := identities.terminals.erase id }
  | .chatAgent id => { identities with chats := identities.chats.erase id }

variable (identities : SessionIdentities) (key other : PtyKey) (token : SessionToken)

theorem get_insert : (identities.insert key token).get other =
    if key = other then some token else identities.get other := by
  cases key with
  | terminal id =>
    cases other with
    | terminal found =>
      simp [insert, get, Std.ExtTreeMap.getElem?_insert]
    | chatAgent found => simp [insert, get]
  | chatAgent id =>
    cases other with
    | terminal found => simp [insert, get]
    | chatAgent found =>
      simp [insert, get, Std.ExtTreeMap.getElem?_insert]

theorem get_erase : (identities.erase key).get other =
    if key = other then none else identities.get other := by
  cases key with
  | terminal id =>
    cases other with
    | terminal found =>
      simp [erase, get, Std.ExtTreeMap.getElem?_erase]
    | chatAgent found => simp [erase, get]
  | chatAgent id =>
    cases other with
    | terminal found => simp [erase, get]
    | chatAgent found =>
      simp [erase, get, Std.ExtTreeMap.getElem?_erase]

variable {identities token}

theorem mem_tokens_iff : token ∈ identities.tokens ↔ ∃ key, identities.get key = some token := by
  simp only [tokens, List.mem_append, mem_values_iff]
  constructor
  · rintro (⟨id, found⟩ | ⟨id, found⟩)
    · exact ⟨.chatAgent id, found⟩
    · exact ⟨.terminal id, found⟩
  · rintro ⟨key, found⟩
    cases key with
    | terminal id => exact .inr ⟨id, found⟩
    | chatAgent id => exact .inl ⟨id, found⟩

def Distinct (identities : SessionIdentities) : Prop :=
  ∀ first second token, identities.get first = some token →
    identities.get second = some token → first = second

theorem tokens_nodup_iff : identities.tokens.Nodup ↔ identities.Distinct := by
  rw [tokens, List.nodup_append', values_nodup_iff, values_nodup_iff]
  constructor
  · rintro ⟨chats, terminals, apart⟩ first second token found other
    have across : ∀ (chat : ChatId) (terminal : TerminalId),
        identities.chats[chat]? = some token → identities.terminals[terminal]? = some token →
          False :=
      fun chat terminal held also =>
        apart (mem_values_iff.mpr ⟨chat, held⟩) (mem_values_iff.mpr ⟨terminal, also⟩)
    cases first with
    | terminal id =>
      cases second with
      | terminal also => rw [terminals id also token found other]
      | chatAgent also => exact (across also id other found).elim
    | chatAgent id =>
      cases second with
      | terminal also => exact (across id also found other).elim
      | chatAgent also => rw [chats id also token found other]
  · intro distinct
    refine ⟨?_, ?_, ?_⟩
    · intro first second token found other
      exact PtyKey.chatAgent.inj (distinct (.chatAgent first) (.chatAgent second) token found other)
    · intro first second token found other
      exact PtyKey.terminal.inj (distinct (.terminal first) (.terminal second) token found other)
    · intro token chats terminals
      obtain ⟨chat, found⟩ := mem_values_iff.mp chats
      obtain ⟨terminal, other⟩ := mem_values_iff.mp terminals
      cases distinct (.chatAgent chat) (.terminal terminal) token found other

theorem Distinct.insert (distinct : identities.Distinct) (fresh : token ∉ identities.tokens) :
    (identities.insert key token).Distinct := by
  intro first second found one two
  have unheld : ∀ other, identities.get other ≠ some token :=
    fun other held => fresh (mem_tokens_iff.mpr ⟨other, held⟩)
  rw [get_insert] at one two
  split at one
  · next same =>
    split at two
    · next also => exact same.symm.trans also
    · exact absurd ((Option.some.inj one) ▸ two) (unheld second)
  · split at two
    · exact absurd ((Option.some.inj two) ▸ one) (unheld first)
    · exact distinct first second found one two

theorem Distinct.erase (distinct : identities.Distinct) : (identities.erase key).Distinct := by
  intro first second found one two
  rw [get_erase] at one two
  split at one
  · cases one
  · split at two
    · cases two
    · exact distinct first second found one two

/-- A token for a session that has none; it is none of those in use. -/
def allocateSessionToken (identities : SessionIdentities) (source : IdentitySource) :
    Except IdAllocationError SessionToken × IdentitySource :=
  match generateIdentity source fun candidate => identities.tokens.contains candidate with
  | (.error error, source) => (.error (identityAllocationError error), source)
  | (.ok token, source) => (.ok token, source)

theorem allocateSessionToken_ok {source after : IdentitySource}
    (allocated : identities.allocateSessionToken source = (.ok token, after)) :
    token ∉ identities.tokens := by
  unfold allocateSessionToken at allocated
  split at allocated
  · cases allocated
  · next generated =>
    cases allocated
    have fresh := generateIdentity_ok generated
    simpa using fresh

end SessionIdentities

end Mult.Project
