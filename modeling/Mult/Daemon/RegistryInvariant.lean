import Mult.Daemon.Inversion

/-! The session tables over whole runs: live sessions and identities are inverse to each
other, and what is reserved is exactly what the creates in progress hold.
-/

set_option autoImplicit false

namespace Mult.Daemon
open Foundation Protocol
open Std (TreeMap TreeSet)

/-- What never changes about a pane. -/
structure Label where
  session : SessionId
  identity : SessionIdentity
  pane : PaneId
  deriving DecidableEq

def Pane.label (pane : Pane) : Label :=
  ⟨pane.state.session, pane.state.identity, pane.state.pane⟩

namespace Server

def labelOf (server : Server) (ref : PaneRef) : Option Label := server.panes[ref]?.map Pane.label

end Server

/-! ## What a step leaves of labels and reservations -/

section
variable {server next : Server} {thread : Nat} {ref : PaneRef}

theorem getElem?_set_bind {Value Held : Type} (held : Value → Option Held) (values : List Value)
    {position : Nat} {before : Value} (found : values[position]? = some before) (after : Value)
    (other : Nat) :
    (values.set position after)[other]?.bind held =
      if position = other then held after else values[other]?.bind held := by
  rw [List.getElem?_set]
  split
  · next same =>
    subst same
    have inside := (List.getElem?_eq_some_iff.mp found).1
    simp [inside]
  · rfl

theorem labelOf_set {pane after : Pane} (found : server.panes[ref]? = some pane)
    (panes : next.panes = server.panes.set ref after) (same : after.label = pane.label) :
    next.labelOf = server.labelOf := by
  funext other
  unfold Server.labelOf
  rw [panes, List.getElem?_set]
  split
  · next here =>
    subst here
    have inside := (List.getElem?_eq_some_iff.mp found).1
    rw [if_pos inside, found, Option.map_some, Option.map_some, same]
  · rfl

theorem labelOf_same (panes : next.panes = server.panes) : next.labelOf = server.labelOf := by
  funext other
  simp only [Server.labelOf, panes]

theorem reservationOf_set {before after : Handler}
    (found : server.handlers[thread]? = some before)
    (handlers : next.handlers = server.handlers.set thread after) (other : Nat) :
    next.reservationOf other =
      if thread = other then after.reservation else server.reservationOf other := by
  unfold Server.reservationOf
  rw [handlers, getElem?_set_bind _ _ found]

theorem unpublishedOf_set {before after : Handler}
    (found : server.handlers[thread]? = some before)
    (handlers : next.handlers = server.handlers.set thread after) (other : Nat) :
    next.unpublishedOf other =
      if thread = other then after.unpublished else server.unpublishedOf other := by
  unfold Server.unpublishedOf
  rw [handlers, getElem?_set_bind _ _ found]

/-- Neither labels nor what creates hold changed. -/
structure SameHoldings (server next : Server) : Prop where
  labels : next.labelOf = server.labelOf
  reservations : next.reservationOf = server.reservationOf
  unpublished : next.unpublishedOf = server.unpublishedOf

theorem holdings_moved {before after : Handler} (labels : next.labelOf = server.labelOf)
    (found : server.handlers[thread]? = some before)
    (handlers : next.handlers = server.handlers.set thread after)
    (reservation : after.reservation = before.reservation)
    (unpublished : after.unpublished = before.unpublished) : SameHoldings server next := by
  refine ⟨labels, funext fun other => ?_, funext fun other => ?_⟩
  · rw [reservationOf_set found handlers]
    split
    · next here => subst here; simp [Server.reservationOf, found, reservation]
    · rfl
  · rw [unpublishedOf_set found handlers]
    split
    · next here => subst here; simp [Server.unpublishedOf, found, unpublished]
    · rfl

theorem holdings_same (labels : next.labelOf = server.labelOf)
    (handlers : next.handlers = server.handlers) : SameHoldings server next :=
  ⟨labels, funext fun _ => by simp [Server.reservationOf, handlers],
    funext fun _ => by simp [Server.unpublishedOf, handlers]⟩

theorem getElem?_append_bind {Value Held : Type} (held : Value → Option Held)
    (values : List Value) {joined : Value} (nothing : held joined = none) (other : Nat) :
    (values ++ [joined])[other]?.bind held = values[other]?.bind held := by
  rw [List.getElem?_append]
  split
  · rfl
  · next beyond =>
    rw [List.getElem?_eq_none (Nat.not_lt.mp beyond)]
    cases other - values.length <;> simp [nothing]

theorem holdings_quiet (labels : next.labelOf = server.labelOf)
    {events : List Event} (quiet : QuietHandlers server next events) : SameHoldings server next := by
  cases quiet with
  | same handlers => exact holdings_same labels handlers
  | joined client handlers =>
    refine ⟨labels, funext fun other => ?_, funext fun other => ?_⟩
    · unfold Server.reservationOf
      rw [handlers, getElem?_append_bind _ _ rfl]
    · unfold Server.unpublishedOf
      rw [handlers, getElem?_append_bind _ _ rfl]
  | moved found handlers move _ =>
    exact holdings_moved labels found handlers move.reservation move.unpublished

theorem PaneStep.label {pane after : Pane} {events : List Event}
    (stepped : PaneStep ref pane after events) : after.label = pane.label := by
  cases stepped with
  | appended bytes sequence state scheduled poll free reading appended =>
    obtain ⟨nextOutput, rawHistory, historyStart, rfl⟩ := appendRawHistory_frame appended
    rfl
  | readFailed bytes state free reading appended =>
    obtain ⟨nextOutput, rawHistory, historyStart, rfl⟩ := appendRawHistory_frame appended
    rfl
  | _ => rfl

end

/-- The four tables of the registry. -/
structure SameSessions (before after : ServerState) : Prop where
  sessions : after.sessions = before.sessions
  sessionByIdentity : after.sessionByIdentity = before.sessionByIdentity
  reservedSessions : after.reservedSessions = before.reservedSessions
  reservedIdentities : after.reservedIdentities = before.reservedIdentities

theorem SameTables.sameSessions {before after : ServerState} (tables : SameTables before after) :
    SameSessions before after :=
  ⟨tables.sessions, tables.sessionByIdentity, tables.reservedSessions, tables.reservedIdentities⟩

structure Registered (server : Server) : Prop where
  live : ∀ session ref, server.state.sessions[session]? = some ref →
    ∃ label, server.labelOf ref = some label ∧ label.session = session ∧
      server.state.sessionByIdentity[label.identity]? = some session
  indexed : ∀ identity session, server.state.sessionByIdentity[identity]? = some session →
    ∃ ref label, server.state.sessions[session]? = some ref ∧
      server.labelOf ref = some label ∧ label.identity = identity
  reservedSessions : ∀ session, session ∈ server.state.reservedSessions ↔
    ∃ thread identity, server.reservationOf thread = some (session, identity)
  reservedIdentities : ∀ identity, identity ∈ server.state.reservedIdentities ↔
    ∃ thread session, server.reservationOf thread = some (session, identity)
  fresh : ∀ thread session identity, server.reservationOf thread = some (session, identity) →
    server.state.sessions[session]? = none ∧ server.state.sessionByIdentity[identity]? = none
  exclusive : ∀ thread other session otherSession identity otherIdentity,
    server.reservationOf thread = some (session, identity) →
    server.reservationOf other = some (otherSession, otherIdentity) →
    session = otherSession ∨ identity = otherIdentity → thread = other
  unpublished : ∀ thread ref, server.unpublishedOf thread = some ref →
    ∃ label, server.labelOf ref = some label ∧
      server.reservationOf thread = some (label.session, label.identity)
  numbered : ∀ ref label, server.labelOf ref = some label → label.pane.raw = label.session.raw

theorem registered_new (serverInstance : ServerInstanceId) :
    Registered (.new serverInstance) where
  live session ref found := by simp [Server.new, ServerState.new] at found
  indexed identity session found := by simp [Server.new, ServerState.new] at found
  reservedSessions session := by
    simp [Server.new, ServerState.new, Server.reservationOf]
  reservedIdentities identity := by
    simp [Server.new, ServerState.new, Server.reservationOf]
  fresh thread session identity held := by simp [Server.new, Server.reservationOf] at held
  exclusive thread other _ _ _ _ held := by simp [Server.new, Server.reservationOf] at held
  unpublished thread ref held := by simp [Server.new, Server.unpublishedOf] at held
  numbered ref label found := by simp [Server.new, Server.labelOf] at found

namespace Registered

variable {server next : Server}

/-- The invariant depends on the four tables, the labels and what creates hold only. -/
theorem frame (registered : Registered server) (tables : SameSessions server.state next.state)
    (labels : next.labelOf = server.labelOf)
    (reservations : next.reservationOf = server.reservationOf)
    (unpublished : ∀ thread ref, next.unpublishedOf thread = some ref →
      server.unpublishedOf thread = some ref) : Registered next where
  live := by rw [tables.sessions, tables.sessionByIdentity, labels]; exact registered.live
  indexed := by rw [tables.sessions, tables.sessionByIdentity, labels]; exact registered.indexed
  reservedSessions := by
    rw [tables.reservedSessions, reservations]; exact registered.reservedSessions
  reservedIdentities := by
    rw [tables.reservedIdentities, reservations]; exact registered.reservedIdentities
  fresh := by
    rw [tables.sessions, tables.sessionByIdentity, reservations]; exact registered.fresh
  exclusive := by rw [reservations]; exact registered.exclusive
  unpublished thread ref known := by
    rw [labels, reservations]
    exact registered.unpublished thread ref (unpublished thread ref known)
  numbered := by rw [labels]; exact registered.numbered

theorem hold (registered : Registered server) (tables : SameSessions server.state next.state)
    (holdings : SameHoldings server next) : Registered next :=
  registered.frame tables holdings.labels holdings.reservations
    fun _ _ known => by rw [← holdings.unpublished]; exact known

end Registered

/-! ## The steps that change the tables -/

theorem reserveSession_ok {state after : ServerState} {requestedId : Option SessionId}
    {identity : SessionIdentity} {session : SessionId}
    (reserved : state.reserveSession requestedId identity = (.ok session, after)) :
    state.shuttingDown = false ∧ state.sessions[session]? = none ∧
      session ∉ state.reservedSessions ∧ state.sessionByIdentity[identity]? = none ∧
      identity ∉ state.reservedIdentities ∧
      SameTables { state with
        reservedSessions := state.reservedSessions.insert session
        reservedIdentities := state.reservedIdentities.insert identity } after := by
  unfold ServerState.reserveSession at reserved
  split at reserved
  · cases reserved
  · next serving =>
    split at reserved
    · cases reserved
    · next unknown =>
      have allocated : SameTables state (state.requestedOrAllocated requestedId).2 := by
        unfold ServerState.requestedOrAllocated ServerState.allocateSessionId
        split <;> exact ⟨rfl, rfl, rfl, rfl, rfl, rfl, fun _ known => known⟩
      split at reserved
      · cases reserved
      · next same =>
        rw [same] at allocated
        split at reserved
        · cases reserved
        · next vacant =>
          cases reserved
          simp only [Bool.or_eq_true, not_or, Bool.not_eq_true, contains_eq_false_iff,
            contains_eq_false_iff_notMem] at unknown vacant
          refine ⟨by simpa using serving, allocated.sessions ▸ vacant.1,
            allocated.reservedSessions ▸ vacant.2, unknown.1, unknown.2, allocated.sessions,
            allocated.sessionByIdentity, ?_, ?_, allocated.nextLease, allocated.shuttingDown,
            allocated.seen⟩
          · exact congrArg (·.insert session) allocated.reservedSessions
          · exact congrArg (·.insert identity) allocated.reservedIdentities

theorem publishReservedSession_ok {state after : ServerState} {session : SessionId} {ref : PaneRef}
    {identity : SessionIdentity} {agent : Option AgentSessionMetadata}
    (published : state.publishReservedSession session ref identity agent = .ok after) :
    state.shuttingDown = false ∧ state.sessions[session]? = none ∧
      state.sessionByIdentity[identity]? = none ∧ session ∈ state.reservedSessions ∧
      identity ∈ state.reservedIdentities ∧
      SameTables { state with
        sessions := state.sessions.insert session ref
        sessionByIdentity := state.sessionByIdentity.insert identity session
        reservedSessions := state.reservedSessions.erase session
        reservedIdentities := state.reservedIdentities.erase identity } after := by
  unfold ServerState.publishReservedSession at published
  split at published
  · cases published
  · next serving =>
    split at published
    · cases published
    · next ready =>
      cases published
      simp only [Bool.or_eq_true, not_or, Bool.not_eq_true, contains_eq_false_iff,
        Bool.not_eq_eq_eq_not] at ready
      obtain ⟨⟨⟨vacant, unknown⟩, reserved⟩, claimed⟩ := ready
      exact ⟨by simpa using serving, vacant, unknown, by simpa using reserved,
        by simpa using claimed, rfl, rfl, rfl, rfl, rfl, rfl, fun _ known => known⟩

namespace Registered

variable {server next : Server} {thread : Nat} {session : SessionId} {identity : SessionIdentity}
  {ref : PaneRef}

theorem reserve (registered : Registered server) (vacant : server.state.sessions[session]? = none)
    (unreserved : session ∉ server.state.reservedSessions)
    (unknown : server.state.sessionByIdentity[identity]? = none)
    (unclaimed : identity ∉ server.state.reservedIdentities)
    (idle : server.reservationOf thread = none)
    (tables : SameTables { server.state with
      reservedSessions := server.state.reservedSessions.insert session
      reservedIdentities := server.state.reservedIdentities.insert identity } next.state)
    (labels : next.labelOf = server.labelOf) (unpublished : next.unpublishedOf = server.unpublishedOf)
    (reservations : ∀ other, next.reservationOf other =
      if thread = other then some (session, identity) else server.reservationOf other) :
    Registered next := by
  -- What another thread holds differs from the new reservation in both coordinates.
  have apart {other : Nat} {held : SessionId} {claimed : SessionIdentity}
      (holds : server.reservationOf other = some (held, claimed)) :
      held ≠ session ∧ claimed ≠ identity := by
    constructor
    · rintro rfl
      exact unreserved ((registered.reservedSessions _).mpr ⟨_, _, holds⟩)
    · rintro rfl
      exact unclaimed ((registered.reservedIdentities _).mpr ⟨_, _, holds⟩)
  refine ⟨?_, ?_, fun other => ?_, fun other => ?_, fun other held claimed holds => ?_,
    fun first second held otherHeld claimed otherClaimed one two => ?_, fun other ref => ?_, ?_⟩
  · rw [tables.sessions, tables.sessionByIdentity, labels]; exact registered.live
  · rw [tables.sessions, tables.sessionByIdentity, labels]; exact registered.indexed
  · rw [tables.reservedSessions, TreeSet.mem_insert, Std.LawfulEqCmp.compare_eq_iff_eq,
      registered.reservedSessions]
    constructor
    · rintro (rfl | ⟨holder, claimed, holds⟩)
      · exact ⟨thread, identity, by rw [reservations, if_pos rfl]⟩
      · refine ⟨holder, claimed, ?_⟩
        rw [reservations, if_neg, holds]
        rintro rfl
        simp [idle] at holds
    · rintro ⟨holder, claimed, holds⟩
      rw [reservations] at holds
      split at holds
      · cases holds; exact .inl rfl
      · exact .inr ⟨holder, claimed, holds⟩
  · rw [tables.reservedIdentities, TreeSet.mem_insert, Std.LawfulEqCmp.compare_eq_iff_eq,
      registered.reservedIdentities]
    constructor
    · rintro (rfl | ⟨holder, held, holds⟩)
      · exact ⟨thread, session, by rw [reservations, if_pos rfl]⟩
      · refine ⟨holder, held, ?_⟩
        rw [reservations, if_neg, holds]
        rintro rfl
        simp [idle] at holds
    · rintro ⟨holder, held, holds⟩
      rw [reservations] at holds
      split at holds
      · cases holds; exact .inl rfl
      · exact .inr ⟨holder, held, holds⟩
  · rw [tables.sessions, tables.sessionByIdentity]
    rw [reservations] at holds
    split at holds
    · cases holds; exact ⟨vacant, unknown⟩
    · exact registered.fresh _ _ _ holds
  · intro shared
    rw [reservations] at one two
    split at one <;> split at two
    · next here there => exact here.symm.trans there
    · cases one
      have := apart two
      rcases shared with rfl | rfl <;> simp_all
    · cases two
      have := apart one
      rcases shared with rfl | rfl <;> simp_all
    · exact registered.exclusive _ _ _ _ _ _ one two shared
  · rw [unpublished, labels]
    intro holds
    obtain ⟨label, found, held⟩ := registered.unpublished other ref holds
    refine ⟨label, found, ?_⟩
    rw [reservations, if_neg, held]
    rintro rfl
    simp [idle] at held
  · rw [labels]; exact registered.numbered

theorem release (registered : Registered server)
    (holds : server.reservationOf thread = some (session, identity))
    (sessions : next.state.sessions = server.state.sessions)
    (sessionByIdentity : next.state.sessionByIdentity = server.state.sessionByIdentity)
    (reservedSessions : next.state.reservedSessions =
      server.state.reservedSessions.erase session)
    (reservedIdentities : next.state.reservedIdentities =
      server.state.reservedIdentities.erase identity)
    (labels : next.labelOf = server.labelOf)
    (unpublished : ∀ other, next.unpublishedOf other =
      if thread = other then none else server.unpublishedOf other)
    (reservations : ∀ other, next.reservationOf other =
      if thread = other then none else server.reservationOf other) :
    Registered next := by
  refine ⟨?_, ?_, fun other => ?_, fun other => ?_, fun other held claimed held' => ?_,
    fun first second held otherHeld claimed otherClaimed one two => ?_, fun other ref => ?_, ?_⟩
  · rw [sessions, sessionByIdentity, labels]; exact registered.live
  · rw [sessions, sessionByIdentity, labels]; exact registered.indexed
  · rw [reservedSessions, TreeSet.mem_erase, registered.reservedSessions]
    constructor
    · -- What stays reserved is held by another create, and no two creates hold the same.
      rintro ⟨different, holder, claimed, held⟩
      refine ⟨holder, claimed, ?_⟩
      rw [reservations, if_neg, held]
      rintro rfl
      rw [holds] at held
      cases held
      exact different Std.compare_self
    · rintro ⟨holder, claimed, held⟩
      rw [reservations] at held
      split at held
      · cases held
      · next elsewhere =>
        refine ⟨fun same => elsewhere ?_, holder, claimed, held⟩
        exact registered.exclusive _ _ _ _ _ _ holds held
          (.inl (Std.LawfulEqCmp.compare_eq_iff_eq.mp same))
  · rw [reservedIdentities, TreeSet.mem_erase, registered.reservedIdentities]
    constructor
    · rintro ⟨different, holder, claimed, held⟩
      refine ⟨holder, claimed, ?_⟩
      rw [reservations, if_neg, held]
      rintro rfl
      rw [holds] at held
      cases held
      exact different Std.compare_self
    · rintro ⟨holder, claimed, held⟩
      rw [reservations] at held
      split at held
      · cases held
      · next elsewhere =>
        refine ⟨fun same => elsewhere ?_, holder, claimed, held⟩
        exact registered.exclusive _ _ _ _ _ _ holds held
          (.inr (Std.LawfulEqCmp.compare_eq_iff_eq.mp same))
  · rw [sessions, sessionByIdentity]
    rw [reservations] at held'
    split at held'
    · cases held'
    · exact registered.fresh _ _ _ held'
  · rw [reservations] at one two
    split at one <;> split at two
    · cases one
    · cases one
    · cases two
    · exact registered.exclusive _ _ _ _ _ _ one two
  · rw [unpublished, labels]
    split
    · intro absent; cases absent
    · next elsewhere =>
      intro known
      obtain ⟨label, found, held⟩ := registered.unpublished other ref known
      exact ⟨label, found, by rw [reservations, if_neg elsewhere, held]⟩
  · rw [labels]; exact registered.numbered

theorem enter (registered : Registered server) {label : Label}
    (vacant : server.state.sessions[label.session]? = none)
    (unknown : server.state.sessionByIdentity[label.identity]? = none)
    (free : ∀ other held claimed, server.reservationOf other = some (held, claimed) →
      held ≠ label.session ∧ claimed ≠ label.identity)
    (labelled : server.labelOf ref = some label)
    (sessions : next.state.sessions = server.state.sessions.insert label.session ref)
    (sessionByIdentity : next.state.sessionByIdentity =
      server.state.sessionByIdentity.insert label.identity label.session)
    (reservedSessions : next.state.reservedSessions = server.state.reservedSessions)
    (reservedIdentities : next.state.reservedIdentities = server.state.reservedIdentities)
    (holdings : SameHoldings server next) : Registered next := by
  refine ⟨fun other target => ?_, fun name other => ?_, ?_, ?_, fun other held claimed holds => ?_,
    ?_, ?_, ?_⟩
  · rw [sessions, sessionByIdentity, holdings.labels]
    intro found
    -- The new entry is in both tables; the others are, since number and identity were vacant.
    rcases getElem?_insert_cases found with ⟨rfl, rfl⟩ | ⟨different, found⟩
    · exact ⟨label, labelled, rfl, TreeMap.getElem?_insert_self⟩
    · obtain ⟨known, labelled', same, indexed⟩ := registered.live other target found
      refine ⟨known, labelled', same, ?_⟩
      rw [TreeMap.getElem?_insert]
      split
      · next clash =>
        rw [← Std.LawfulEqCmp.compare_eq_iff_eq.mp clash, unknown] at indexed
        cases indexed
      · exact indexed
  · rw [sessions, sessionByIdentity, holdings.labels]
    intro found
    rcases getElem?_insert_cases found with ⟨rfl, rfl⟩ | ⟨different, found⟩
    · exact ⟨ref, label, TreeMap.getElem?_insert_self, labelled, rfl⟩
    · obtain ⟨target, known, routed, labelled', same⟩ := registered.indexed name other found
      refine ⟨target, known, ?_, labelled', same⟩
      rw [TreeMap.getElem?_insert]
      split
      · next clash =>
        rw [← Std.LawfulEqCmp.compare_eq_iff_eq.mp clash, vacant] at routed
        cases routed
      · exact routed
  · rw [reservedSessions, holdings.reservations]; exact registered.reservedSessions
  · rw [reservedIdentities, holdings.reservations]; exact registered.reservedIdentities
  · rw [holdings.reservations] at holds
    obtain ⟨otherSession, otherIdentity⟩ := free other held claimed holds
    rw [sessions, sessionByIdentity, TreeMap.getElem?_insert, TreeMap.getElem?_insert,
      if_neg fun clash => otherSession (Std.LawfulEqCmp.compare_eq_iff_eq.mp clash).symm,
      if_neg fun clash => otherIdentity (Std.LawfulEqCmp.compare_eq_iff_eq.mp clash).symm]
    exact registered.fresh other held claimed holds
  · rw [holdings.reservations]; exact registered.exclusive
  · rw [holdings.unpublished, holdings.labels, holdings.reservations]
    exact registered.unpublished
  · rw [holdings.labels]; exact registered.numbered

theorem remove (registered : Registered server)
    (tables : SameTables (server.state.removeSessionIfSame session ref) next.state)
    (holdings : SameHoldings server next) : Registered next := by
  by_cases routed : server.state.sessions[session]? = some ref
  · rw [ServerState.removeSessionIfSame, if_pos routed] at tables
    refine ⟨fun other target => ?_, fun name other => ?_, ?_, ?_,
      fun other held claimed holds => ?_, ?_, ?_, ?_⟩
    · rw [tables.sessions, tables.sessionByIdentity, holdings.labels]
      simp only [TreeMap.getElem?_erase]
      intro found
      split at found
      · cases found
      · next different =>
        obtain ⟨known, labelled', same, indexed⟩ := registered.live other target found
        refine ⟨known, labelled', same, ?_⟩
        rw [TreeMap.getElem?_filter', indexed]
        have kept : other ≠ session := fun clash =>
          different (by rw [clash]; exact Std.compare_self)
        simp [kept]
    · rw [tables.sessions, tables.sessionByIdentity, holdings.labels]
      simp only [TreeMap.getElem?_filter', TreeMap.getElem?_erase]
      intro found
      obtain ⟨found, kept⟩ := Option.filter_eq_some_iff.mp found
      obtain ⟨target, known, routed', labelled', same⟩ := registered.indexed name other found
      refine ⟨target, known, ?_, labelled', same⟩
      rw [if_neg, routed']
      intro clash
      rw [← Std.LawfulEqCmp.compare_eq_iff_eq.mp clash] at kept
      simp at kept
    · rw [tables.reservedSessions, holdings.reservations]; exact registered.reservedSessions
    · rw [tables.reservedIdentities, holdings.reservations]; exact registered.reservedIdentities
    · rw [holdings.reservations] at holds
      obtain ⟨vacant, unknown⟩ := registered.fresh other held claimed holds
      rw [tables.sessions, tables.sessionByIdentity]
      simp only [TreeMap.getElem?_filter', TreeMap.getElem?_erase, vacant, unknown, ite_self,
        Option.filter_none, and_self]
    · rw [holdings.reservations]; exact registered.exclusive
    · rw [holdings.unpublished, holdings.labels, holdings.reservations]
      exact registered.unpublished
    · rw [holdings.labels]; exact registered.numbered
  · rw [ServerState.removeSessionIfSame, if_neg routed] at tables
    exact registered.hold tables.sameSessions holdings

theorem spawn (registered : Registered server) {label : Label}
    (holds : server.reservationOf thread = some (label.session, label.identity))
    (number : label.pane.raw = label.session.raw)
    (tables : SameTables server.state next.state)
    (fresh : server.labelOf ref = none)
    (labels : ∀ other, next.labelOf other =
      if ref = other then some label else server.labelOf other)
    (reservations : next.reservationOf = server.reservationOf)
    (unpublished : ∀ other, next.unpublishedOf other =
      if thread = other then some ref else server.unpublishedOf other) : Registered next := by
  -- Labels known before are kept: the new one stands where there was none.
  have kept {other : PaneRef} {known : Label} (found : server.labelOf other = some known) :
      next.labelOf other = some known := by
    rw [labels, if_neg, found]
    rintro rfl
    simp [fresh] at found
  refine ⟨fun other target => ?_, fun name other => ?_, ?_, ?_, ?_, ?_, fun other target => ?_,
    fun target known => ?_⟩
  · rw [tables.sessions, tables.sessionByIdentity]
    intro found
    obtain ⟨known, labelled, same, indexed⟩ := registered.live other target found
    exact ⟨known, kept labelled, same, indexed⟩
  · rw [tables.sessions, tables.sessionByIdentity]
    intro found
    obtain ⟨target, known, routed, labelled, same⟩ := registered.indexed name other found
    exact ⟨target, known, routed, kept labelled, same⟩
  · rw [tables.reservedSessions, reservations]; exact registered.reservedSessions
  · rw [tables.reservedIdentities, reservations]; exact registered.reservedIdentities
  · rw [tables.sessions, tables.sessionByIdentity, reservations]; exact registered.fresh
  · rw [reservations]; exact registered.exclusive
  · rw [unpublished, reservations]
    split
    · next here =>
      intro same
      cases same
      subst here
      exact ⟨label, by rw [labels, if_pos rfl], holds⟩
    · intro known
      obtain ⟨old, labelled, held⟩ := registered.unpublished other target known
      exact ⟨old, kept labelled, held⟩
  · rw [labels]
    split
    · intro same; cases same; exact number
    · exact registered.numbered target known

end Registered

theorem reservationOf_idle {server : Server} {thread : Nat} {handler : Handler}
    (found : server.handlers[thread]? = some handler) :
    server.reservationOf thread = handler.reservation := by
  simp [Server.reservationOf, found]

theorem Effect.registered {server next : Server} {events : List Event}
    (effect : Effect server next events) (registered : Registered server) : Registered next := by
  cases effect with
  | quiet quiet =>
    exact registered.hold quiet.tables.sameSessions
      (holdings_quiet (labelOf_same quiet.panes) quiet.handlers)
  | shutdown panes handlers tables =>
    exact registered.hold ⟨tables.sessions, tables.sessionByIdentity, tables.reservedSessions,
      tables.reservedIdentities⟩ (holdings_same (labelOf_same panes) handlers)
  | retryRefused quiet _ =>
    exact registered.hold quiet.tables.sameSessions
      (holdings_quiet (labelOf_same quiet.panes) quiet.handlers)
  | validated found _ =>
    exact registered.hold ⟨rfl, rfl, rfl, rfl⟩ (holdings_moved rfl found rfl rfl rfl)
  | queued found present _ same panes tables handlers =>
    exact registered.hold tables.sameSessions
      (holdings_moved (labelOf_set present panes (by rw [same]; rfl)) found handlers rfl rfl)
  | reserved found reserved =>
    obtain ⟨-, vacant, unreserved, unknown, unclaimed, tables⟩ := reserveSession_ok reserved
    refine registered.reserve vacant unreserved unknown unclaimed (reservationOf_idle found) tables
      rfl ?_ (fun other => by rw [reservationOf_set found rfl]; rfl)
    funext other
    rw [unpublishedOf_set found rfl]
    split
    · next here => subst here; simp [Server.unpublishedOf, found]; rfl
    · rfl
  | @spawned thread conn request session child found =>
    refine @Registered.spawn _ _ thread server.panes.length registered
      (spawnPane session request child).label (reservationOf_idle found) rfl (.refl _)
      (by simp [Server.labelOf]) (fun other => ?_) ?_
      (fun other => by rw [unpublishedOf_set found rfl]; rfl)
    · unfold Server.labelOf
      simp only [Server.goto, List.getElem?_append]
      split
      · next inside => rw [if_neg (Nat.ne_of_gt inside)]
      · next outside =>
        split
        · next here => subst here; simp
        · next elsewhere =>
          have beyond : server.panes.length ≤ other := Nat.not_lt.mp outside
          have different : server.panes.length ≠ other := elsewhere
          rw [List.getElem?_eq_none (by rw [List.length_singleton]; omega),
            List.getElem?_eq_none beyond]
    · funext other
      rw [reservationOf_set found rfl]
      split
      · next here => subst here; rw [reservationOf_idle found]; rfl
      · rfl
  | @published thread conn request session ref pane state found present free published =>
    obtain ⟨-, vacant, unknown, -, -, tables⟩ := publishReservedSession_ok published
    obtain ⟨label, labelled, held⟩ := registered.unpublished thread ref
      (by simp [Server.unpublishedOf, found, Handler.unpublished])
    have same : label = pane.label := by
      simp only [Server.labelOf, present, Option.map_some, Option.some.injEq] at labelled
      exact labelled.symm
    subst same
    rw [reservationOf_idle found] at held
    have identity : request.identity = pane.label.identity :=
      congrArg Prod.snd (Option.some.inj held)
    have number : session = pane.label.session := congrArg Prod.fst (Option.some.inj held)
    -- The reservation is given back first, then the session goes live.
    let freed := (server.setState
      (server.state.releaseSessionReservation session request.identity)).goto thread
        (.creating conn request (.report ref))
    have reservations (other : Nat) : freed.reservationOf other =
        if thread = other then none else server.reservationOf other := by
      rw [@reservationOf_set _ freed _ _ _ found rfl]; rfl
    have released : Registered freed :=
      registered.release (reservationOf_idle found) rfl rfl rfl rfl rfl
        (fun other => by rw [@unpublishedOf_set _ freed _ _ _ found rfl]; rfl) reservations
    refine @Registered.enter _ _ ref released pane.label (number ▸ vacant) unknown
      (fun other held' claimed holds => ?_) labelled (number ▸ tables.sessions)
      (number ▸ tables.sessionByIdentity) tables.reservedSessions ?_ ⟨?_, rfl, rfl⟩
    · rw [reservations] at holds
      split at holds
      · cases holds
      · next elsewhere =>
        constructor
        · rintro rfl
          exact elsewhere (registered.exclusive _ _ _ _ _ _ (reservationOf_idle found) holds
            (.inl number))
        · rintro rfl
          exact elsewhere (registered.exclusive _ _ _ _ _ _ (reservationOf_idle found) holds
            (.inr identity))
    · refine tables.reservedIdentities.trans ?_
      show server.state.reservedIdentities.erase pane.state.identity =
        server.state.reservedIdentities.erase request.identity
      rw [identity]; rfl
    · let entered := ((server.setState state).setPane ref
        { pane with reader := .reading, waiter := .waiting }).goto thread
          (.creating conn request (.report ref))
      exact @labelOf_set server entered ref _ _ present rfl rfl
  | @discarded thread conn request session ref rejection pane found present =>
    refine registered.frame ⟨rfl, rfl, rfl, rfl⟩ (labelOf_set present rfl rfl) ?_
      (fun other target => ?_)
    · funext other
      rw [reservationOf_set found rfl]
      split
      · next here => subst here; rw [reservationOf_idle found]; rfl
      · rfl
    · rw [unpublishedOf_set found rfl]
      split
      · intro absent; cases absent
      · exact id
  | released found =>
    obtain ⟨reservation, unpublished, -⟩ := Server.afterRejection_holds _ _ _
    refine registered.release (reservationOf_idle found) rfl rfl rfl rfl rfl (fun other => ?_)
      (fun other => ?_)
    · rw [unpublishedOf_set found rfl, unpublished]
    · rw [reservationOf_set found rfl, reservation]
  | refitted present panes tables handlers =>
    exact registered.hold tables.sameSessions
      (holdings_quiet (labelOf_set present panes rfl) handlers)
  | rebound found attach _ panes tables handlers =>
    exact registered.hold tables.sameSessions
      (holdings_moved (labelOf_set attach.found panes rfl) found handlers rfl rfl)
  | granted found attach _ panes tables handlers =>
    exact registered.hold ⟨tables.sessions, tables.sessionByIdentity, tables.reservedSessions,
      tables.reservedIdentities⟩
      (holdings_moved (labelOf_set attach.found panes rfl) found handlers rfl rfl)
  | unlocked found present =>
    exact registered.hold ⟨rfl, rfl, rfl, rfl⟩
      (holdings_moved (labelOf_set present rfl rfl) found rfl rfl rfl)
  | resized found accepted same =>
    subst same
    exact registered.hold ⟨rfl, rfl, rfl, rfl⟩
      (holdings_moved (labelOf_set accepted.found rfl rfl) found rfl rfl rfl)
  | detached found accepted =>
    exact registered.hold ⟨rfl, rfl, rfl, rfl⟩
      (holdings_moved (labelOf_set accepted.found rfl rfl) found rfl rfl rfl)
  | stopAccepted found present _ _ _ =>
    exact registered.hold ⟨rfl, rfl, rfl, rfl⟩
      (holdings_moved (labelOf_set present rfl rfl) found rfl rfl rfl)
  | stopSkipped found _ _ panes tables handlers =>
    exact registered.hold tables.sameSessions
      (holdings_moved (labelOf_same panes) found handlers rfl rfl)
  | stopStarted present _ _ panes tables handlers =>
    have labels := labelOf_set present panes rfl
    rcases handlers with handlers | ⟨thread, conn, found, handlers⟩
    · exact registered.hold tables.sameSessions (holdings_same labels handlers)
    · exact registered.hold tables.sameSessions (holdings_moved labels found handlers rfl rfl)
  | pane present stepped panes tables handlers =>
    exact registered.hold tables.sameSessions
      (holdings_same (labelOf_set present panes stepped.label) handlers)
  | finalized present _ _ _ _ finalizer panes tables handlers =>
    refine registered.remove tables (holdings_same (labelOf_set present panes ?_) handlers)
    cases finalizer <;> rfl

theorem registered_of_reaches {server : Server} {past : List Event}
    (run : daemon.Reaches server past) : Registered server := by
  refine run.stateInvariant ?_ ?_
  · rintro state ⟨serverInstance, rfl⟩
    exact registered_new serverInstance
  · intro state next events action registered stepped
    exact (step_effect stepped).registered registered

end Mult.Daemon
