import Mult.Daemon.Causes
import Mult.Daemon.Unpublished

/-! The registry as its users see it, and the daemon's tables as an implementation of it:
every step of the daemon is at most one change of the registry.
-/

set_option autoImplicit false

namespace Mult.Daemon
open Foundation Protocol
open Std (TreeMap TreeSet)

/-- Which identity lives under a number, and what each thread's create has claimed. -/
@[ext] structure Registry where
  live : SessionId → Option SessionIdentity
  claim : Nat → Option (SessionId × SessionIdentity)

inductive Occupant where
  | session (session : SessionId)
  | create (thread : Nat)

inductive RegistryChange where
  | kept
  | reserved (thread : Nat) (session : SessionId) (identity : SessionIdentity)
  | published (thread : Nat)
  | released (thread : Nat)
  | removed (session : SessionId)

namespace Registry

def occupies (registry : Registry) : Occupant → Option (SessionId × SessionIdentity)
  | .session session => (registry.live session).map (session, ·)
  | .create thread => registry.claim thread

/-- No two occupants share a number or an identity. -/
def Exclusive (registry : Registry) : Prop :=
  ∀ first second one two, registry.occupies first = some one →
    registry.occupies second = some two → one.1 = two.1 ∨ one.2 = two.2 → first = second

def setClaim (registry : Registry) (thread : Nat) (claim : Option (SessionId × SessionIdentity)) :
    Registry :=
  { registry with claim := Function.update registry.claim thread claim }

@[simp] theorem setClaim_self {registry : Registry} {thread : Nat}
    {claim : Option (SessionId × SessionIdentity)} (held : registry.claim thread = claim) :
    registry.setClaim thread claim = registry := by
  simp [setClaim, ← held]

def setLive (registry : Registry) (session : SessionId) (identity : Option SessionIdentity) :
    Registry :=
  { registry with live := Function.update registry.live session identity }

inductive Next (registry : Registry) : RegistryChange → Registry → Prop where
  | kept : Next registry .kept registry
  | reserved {thread : Nat} {session : SessionId} {identity : SessionIdentity} :
      registry.claim thread = none →
      (∀ occupant held, registry.occupies occupant = some held →
        held.1 ≠ session ∧ held.2 ≠ identity) →
      Next registry (.reserved thread session identity)
        (registry.setClaim thread (some (session, identity)))
  | published {thread : Nat} {session : SessionId} {identity : SessionIdentity} :
      registry.claim thread = some (session, identity) →
      Next registry (.published thread)
        ((registry.setClaim thread none).setLive session (some identity))
  | released {thread : Nat} {claimed : SessionId × SessionIdentity} :
      registry.claim thread = some claimed →
      Next registry (.released thread) (registry.setClaim thread none)
  | removed {session : SessionId} {identity : SessionIdentity} :
      registry.live session = some identity →
      Next registry (.removed session) (registry.setLive session none)

end Registry

namespace Server

def registry (server : Server) : Registry where
  live session := (server.state.sessions[session]?.bind server.labelOf).map Label.identity
  claim := server.reservationOf

def Causes (server : Server) (events : List Event) : RegistryChange → Prop
  | .kept => True
  | .reserved thread _ identity => ∃ conn request,
      server.handlers[thread]? = some (.creating conn request .reserve) ∧
        request.identity = identity
  | .published thread => ∃ conn request session ref,
      server.handlers[thread]? = some (.creating conn request (.publish session ref)) ∧
        events = [.published ref session]
  | .released thread => ∃ conn request session rejection,
      server.handlers[thread]? = some (.creating conn request (.release session rejection))
  | .removed _ => ∃ ref owner, .removed ref owner ∈ events

end Server

/-! ## The tables hold the registry -/

section
variable {server next : Server}

theorem registry_same (sessions : next.state.sessions = server.state.sessions)
    (labels : next.labelOf = server.labelOf)
    (reservations : next.reservationOf = server.reservationOf) : next.registry = server.registry := by
  unfold Server.registry
  rw [sessions, labels, reservations]

theorem registry_moved {thread : Nat} {before after : Handler}
    {claim : Option (SessionId × SessionIdentity)}
    (found : server.handlers[thread]? = some before)
    (handlers : next.handlers = server.handlers.set thread after)
    (claimed : after.reservation = claim)
    (sessions : next.state.sessions = server.state.sessions)
    (labels : next.labelOf = server.labelOf) :
    next.registry = server.registry.setClaim thread claim := by
  unfold Server.registry Registry.setClaim
  rw [sessions, labels]
  congr 1
  funext other
  rw [reservationOf_set found handlers, claimed, Function.update_apply]
  simp only [eq_comm]

theorem registry_kept {thread : Nat} {before after : Handler}
    (found : server.handlers[thread]? = some before)
    (handlers : next.handlers = server.handlers.set thread after)
    (claimed : after.reservation = before.reservation)
    (sessions : next.state.sessions = server.state.sessions)
    (labels : next.labelOf = server.labelOf) : next.registry = server.registry :=
  (registry_moved found handlers claimed sessions labels).trans
    (Registry.setClaim_self (reservationOf_idle found))

theorem registry_published {thread : Nat} {before after : Handler} {session : SessionId}
    {ref : PaneRef} {label : Label} (found : server.handlers[thread]? = some before)
    (handlers : next.handlers = server.handlers.set thread after)
    (reservation : after.reservation = none)
    (sessions : next.state.sessions = server.state.sessions.insert session ref)
    (labels : next.labelOf = server.labelOf) (labelled : server.labelOf ref = some label) :
    next.registry =
      (server.registry.setClaim thread none).setLive session (some label.identity) := by
  ext1
  · funext other
    simp only [Server.registry, Registry.setLive, Registry.setClaim, Function.update_apply,
      sessions, labels, TreeMap.getElem?_insert]
    by_cases here : other = session
    · subst here
      simp [labelled]
    · rw [if_neg here, if_neg fun same => here (Std.LawfulEqCmp.compare_eq_iff_eq.mp same).symm]
  · funext other
    simp only [Server.registry, Registry.setLive, Registry.setClaim, Function.update_apply]
    rw [reservationOf_set found handlers, reservation]
    simp only [eq_comm]

end

namespace Registered

variable {server : Server}

theorem live_eq_some (registered : Registered server) {session : SessionId}
    {identity : SessionIdentity} : server.registry.live session = some identity ↔
      server.state.sessionByIdentity[identity]? = some session := by
  simp only [Server.registry, Option.map_eq_some_iff, Option.bind_eq_some_iff]
  constructor
  · rintro ⟨label, ⟨ref, routed, labelled⟩, rfl⟩
    obtain ⟨known, labelled', -, indexed⟩ := registered.live session ref routed
    rw [labelled] at labelled'
    cases labelled'
    exact indexed
  · intro indexed
    obtain ⟨ref, label, routed, labelled, same⟩ := registered.indexed identity session indexed
    exact ⟨label, ⟨ref, routed, labelled⟩, same⟩

theorem live_eq_none (registered : Registered server) {session : SessionId} :
    server.registry.live session = none ↔ server.state.sessions[session]? = none := by
  simp only [Server.registry, Option.map_eq_none_iff, Option.bind_eq_none_iff]
  constructor
  · intro absent
    by_contra present
    obtain ⟨ref, routed⟩ := Option.ne_none_iff_exists'.mp present
    obtain ⟨label, labelled, -⟩ := registered.live session ref routed
    rw [absent ref routed] at labelled
    cases labelled
  · intro absent ref routed
    rw [absent] at routed
    cases routed

theorem claim_apart (registered : Registered server) {thread : Nat} {session : SessionId}
    {claimed : SessionId × SessionIdentity} {identity : SessionIdentity}
    (claim : server.registry.claim thread = some claimed)
    (live : server.registry.live session = some identity) :
    claimed.1 ≠ session ∧ claimed.2 ≠ identity := by
  obtain ⟨vacant, unknown⟩ := registered.fresh thread claimed.1 claimed.2 claim
  constructor
  · rintro rfl
    rw [registered.live_eq_none.mpr vacant] at live
    cases live
  · rintro rfl
    rw [registered.live_eq_some, unknown] at live
    cases live

theorem exclusive_registry (registered : Registered server) : server.registry.Exclusive := by
  intro first second one two held claimed shared
  cases first with
  | session first =>
    simp only [Registry.occupies, Option.map_eq_some_iff] at held
    obtain ⟨identity, live, rfl⟩ := held
    cases second with
    | session second =>
      simp only [Registry.occupies, Option.map_eq_some_iff] at claimed
      obtain ⟨other, alive, rfl⟩ := claimed
      rcases shared with same | same
      · exact congrArg _ same
      · obtain rfl : identity = other := same
        rw [registered.live_eq_some] at live alive
        rw [live] at alive
        cases alive
        rfl
    | create thread =>
      obtain ⟨number, name⟩ := registered.claim_apart claimed live
      rcases shared with same | same
      · exact absurd same.symm number
      · exact absurd same.symm name
  | create thread =>
    cases second with
    | session second =>
      simp only [Registry.occupies, Option.map_eq_some_iff] at claimed
      obtain ⟨other, alive, rfl⟩ := claimed
      obtain ⟨number, name⟩ := registered.claim_apart held alive
      rcases shared with same | same
      · exact absurd same number
      · exact absurd same name
    | create other =>
      exact congrArg _ (registered.exclusive thread other _ _ _ _ held claimed shared)

end Registered

/-! ## Every step is at most one change -/

theorem change_of {server next : Server} {events : List Event} {change : RegistryChange}
    {registry : Registry} (same : next.registry = registry)
    (changed : server.registry.Next change registry) (causes : server.Causes events change) :
    ∃ change, server.registry.Next change next.registry ∧ server.Causes events change :=
  ⟨change, same ▸ changed, causes⟩

theorem kept_change {server next : Server} {events : List Event}
    (same : next.registry = server.registry) :
    ∃ change, server.registry.Next change next.registry ∧ server.Causes events change :=
  change_of same .kept trivial

theorem held_change {server next : Server} {events : List Event}
    (tables : SameTables server.state next.state) (holdings : SameHoldings server next) :
    ∃ change, server.registry.Next change next.registry ∧ server.Causes events change :=
  kept_change (registry_same tables.sessions holdings.labels holdings.reservations)

theorem removed_change {server next : Server} {events : List Event} {session : SessionId}
    {ref : PaneRef} {owner : Option AttachmentOwner} (registered : Registered server)
    (tables : SameTables (server.state.removeSessionIfSame session ref) next.state)
    (holdings : SameHoldings server next) (event : .removed ref owner ∈ events) :
    ∃ change, server.registry.Next change next.registry ∧ server.Causes events change := by
  by_cases routed : server.state.sessions[session]? = some ref
  · rw [ServerState.removeSessionIfSame, if_pos routed] at tables
    obtain ⟨label, labelled, -, -⟩ := registered.live session ref routed
    have live : server.registry.live session = some label.identity := by
      simp [Server.registry, routed, labelled]
    have same : next.registry = server.registry.setLive session none := by
      unfold Server.registry Registry.setLive
      rw [tables.sessions, holdings.labels, holdings.reservations]
      congr 1
      funext other
      rw [TreeMap.getElem?_erase, Function.update_apply]
      by_cases here : other = session
      · subst here; simp
      · rw [if_neg here, if_neg fun same => here (Std.LawfulEqCmp.compare_eq_iff_eq.mp same).symm]
    exact change_of same (.removed live) ⟨ref, owner, event⟩
  · rw [ServerState.removeSessionIfSame, if_neg routed] at tables
    exact held_change tables holdings

theorem Effect.changes {server next : Server} {events : List Event}
    (effect : Effect server next events) (registered : Registered server) :
    ∃ change, server.registry.Next change next.registry ∧ server.Causes events change := by
  cases effect with
  | quiet quiet =>
    exact held_change quiet.tables (holdings_quiet (labelOf_same quiet.panes) quiet.handlers)
  | shutdown panes handlers tables =>
    have holdings := holdings_same (labelOf_same panes) handlers
    exact kept_change (registry_same tables.sessions holdings.labels holdings.reservations)
  | retryRefused quiet _ =>
    exact held_change quiet.tables (holdings_quiet (labelOf_same quiet.panes) quiet.handlers)
  | validated found _ => exact held_change (.refl _) (holdings_moved rfl found rfl rfl rfl)
  | queued found present _ same panes tables handlers =>
    exact held_change tables
      (holdings_moved (labelOf_set present panes (by rw [same]; rfl)) found handlers rfl rfl)
  | @reserved thread conn request session state found reserved =>
    obtain ⟨-, vacant, unreserved, unknown, unclaimed, tables⟩ := reserveSession_ok reserved
    -- What a create reserves, nothing else has: no session by the first table, no other create by
    -- the second.
    refine change_of (registry_moved found rfl rfl tables.sessions rfl)
      (.reserved (reservationOf_idle found) fun occupant held occupied => ?_)
      ⟨conn, request, found, rfl⟩
    cases occupant with
    | session other =>
      simp only [Registry.occupies, Option.map_eq_some_iff] at occupied
      obtain ⟨name, live, rfl⟩ := occupied
      constructor
      · rintro rfl
        rw [registered.live_eq_none.mpr vacant] at live
        cases live
      · rintro rfl
        rw [registered.live_eq_some, unknown] at live
        cases live
    | create other =>
      constructor
      · intro same
        rw [← same] at unreserved
        exact unreserved ((registered.reservedSessions _).mpr ⟨other, _, occupied⟩)
      · intro same
        rw [← same] at unclaimed
        exact unclaimed ((registered.reservedIdentities _).mpr ⟨other, _, occupied⟩)
  | @spawned thread conn request session child found =>
    refine kept_change ?_
    ext1
    · -- A pane behind the others is in no table yet, so that no live session changes.
      funext other
      simp only [Server.registry, Server.goto]
      cases routed : server.state.sessions[other]? with
      | none => rfl
      | some ref =>
        obtain ⟨label, labelled, -⟩ := registered.live other ref routed
        have inside : ref < server.panes.length := by
          simp only [Server.labelOf, Option.map_eq_some_iff] at labelled
          obtain ⟨pane, present, -⟩ := labelled
          exact (List.getElem?_eq_some_iff.mp present).1
        simp only [Option.bind_some, Server.labelOf, List.getElem?_append_left inside]
    · funext other
      show Server.reservationOf _ other = server.reservationOf other
      rw [reservationOf_set found rfl]
      split
      · next here => subst here; exact (reservationOf_idle found).symm
      · rfl
  | @published thread conn request session ref pane state found present free published =>
    obtain ⟨-, -, -, -, -, tables⟩ := publishReservedSession_ok published
    obtain ⟨label, labelled, held⟩ := registered.unpublished thread ref
      (by simp [Server.unpublishedOf, found, Handler.unpublished])
    have same : label = pane.label := by
      simp only [Server.labelOf, present, Option.map_some, Option.some.injEq] at labelled
      exact labelled.symm
    subst same
    -- The create publishes what it has claimed: the identity of the pane is the one reserved.
    have claimed : server.registry.claim thread = some (session, request.identity) :=
      reservationOf_idle found
    have identity : request.identity = pane.label.identity := by
      have both := (reservationOf_idle found).symm.trans held
      exact congrArg Prod.snd (Option.some.inj both)
    refine change_of ?_ (.published claimed) ⟨conn, request, session, ref, found, rfl⟩
    rw [identity]
    exact registry_published found rfl rfl tables.sessions (labelOf_set present rfl rfl) labelled
  | discarded found present =>
    refine kept_change (registry_same rfl (labelOf_set present rfl rfl) ?_)
    funext other
    rw [reservationOf_set found rfl]
    split
    · next here => subst here; exact (reservationOf_idle found).symm
    · rfl
  | @released thread conn request session rejection found =>
    obtain ⟨reservation, -, -⟩ := Server.afterRejection_holds conn request rejection
    refine change_of ?_ (.released (reservationOf_idle found))
      ⟨conn, request, session, rejection, found⟩
    exact registry_moved found rfl reservation rfl rfl
  | refitted present panes tables handlers =>
    exact held_change tables (holdings_quiet (labelOf_set present panes rfl) handlers)
  | rebound found attach _ panes tables handlers =>
    exact held_change tables
      (holdings_moved (labelOf_set attach.found panes rfl) found handlers rfl rfl)
  | granted found attach _ panes tables handlers =>
    have holdings := holdings_moved (labelOf_set attach.found panes rfl) found handlers rfl rfl
    exact kept_change (registry_same tables.sessions holdings.labels holdings.reservations)
  | unlocked found present =>
    exact held_change (.refl _) (holdings_moved (labelOf_set present rfl rfl) found rfl rfl rfl)
  | resized found accepted same =>
    subst same
    exact held_change (.refl _)
      (holdings_moved (labelOf_set accepted.found rfl rfl) found rfl rfl rfl)
  | detached found accepted =>
    exact held_change (.refl _)
      (holdings_moved (labelOf_set accepted.found rfl rfl) found rfl rfl rfl)
  | stopAccepted found present _ _ _ =>
    exact held_change (.refl _) (holdings_moved (labelOf_set present rfl rfl) found rfl rfl rfl)
  | stopSkipped found _ _ panes tables handlers =>
    exact held_change tables (holdings_moved (labelOf_same panes) found handlers rfl rfl)
  | stopStarted present _ _ panes tables handlers =>
    have labels := labelOf_set present panes rfl
    rcases handlers with handlers | ⟨thread, conn, found, handlers⟩
    · exact held_change tables (holdings_same labels handlers)
    · exact held_change tables (holdings_moved labels found handlers rfl rfl)
  | pane present stepped panes tables handlers =>
    exact held_change tables
      (holdings_same (labelOf_set present panes stepped.label) handlers)
  | finalized present _ _ _ _ finalizer panes tables handlers =>
    refine removed_change registered tables
      (holdings_same (labelOf_set present panes ?_) handlers)
      (List.mem_append_left _ (.tail _ (.tail _ (.head _))))
    cases finalizer <;> rfl

/-! ## A create that fails -/

def Action.creates (thread : Nat) : Action → Prop
  | .createNumeric other | .createLogical other | .createResolve other | .createReserve other
  | .createSpawn other _ | .createPublish other | .createDiscard other | .createRelease other
  | .createReport other => other = thread
  | _ => False

theorem creates_frame {server next : Server} {thread : Nat} {action : Action} {events : List Event}
    (creates : action.creates thread) (stepped : step server action = some (next, events)) :
    (∃ handler, next.handlers = server.handlers.set thread handler) ∧
      ∀ ref owner, .removed ref owner ∉ events := by
  cases action <;> simp only [Action.creates] at creates <;> subst creates <;>
    simp only [step] at stepped
  case createNumeric =>
    unfold Server.createNumeric at stepped
    split at stepped
    · cases stepped; exact ⟨⟨_, rfl⟩, by simp⟩
    · cases stepped
  case createLogical =>
    unfold Server.createLogical at stepped
    split at stepped
    · cases stepped; exact ⟨⟨_, rfl⟩, by simp⟩
    · cases stepped
  case createResolve =>
    unfold Server.createResolve at stepped
    split at stepped
    · split at stepped
      · cases stepped; exact ⟨⟨_, rfl⟩, by simp⟩
      · split at stepped
        · obtain ⟨pane, -, stepped⟩ := Option.bind_eq_some_iff.mp stepped
          cases stepped; exact ⟨⟨_, rfl⟩, by simp⟩
        · obtain ⟨pane, -, stepped⟩ := Option.bind_eq_some_iff.mp stepped
          cases stepped; exact ⟨⟨_, rfl⟩, by simp⟩
        · split at stepped <;> (cases stepped; exact ⟨⟨_, rfl⟩, by simp⟩)
    · cases stepped
  case createReserve =>
    unfold Server.createReserve at stepped
    split at stepped
    · split at stepped <;> (cases stepped; exact ⟨⟨_, rfl⟩, by simp⟩)
    · cases stepped
  case createSpawn =>
    unfold Server.createSpawn at stepped
    split at stepped
    · split at stepped <;> (cases stepped; exact ⟨⟨_, rfl⟩, by simp⟩)
    · cases stepped
  case createPublish =>
    unfold Server.createPublish at stepped
    split at stepped
    · obtain ⟨pane, -, stepped⟩ := Option.bind_eq_some_iff.mp stepped
      split at stepped <;> (cases stepped; exact ⟨⟨_, rfl⟩, by simp⟩)
    · cases stepped
  case createDiscard =>
    unfold Server.createDiscard at stepped
    split at stepped
    · obtain ⟨pane, -, stepped⟩ := Option.bind_eq_some_iff.mp stepped
      cases stepped; exact ⟨⟨_, rfl⟩, by simp⟩
    · cases stepped
  case createRelease =>
    unfold Server.createRelease at stepped
    split at stepped
    · cases stepped; exact ⟨⟨_, rfl⟩, by simp⟩
    · cases stepped
  case createReport =>
    unfold Server.createReport at stepped
    split at stepped
    · obtain ⟨pane, -, stepped⟩ := Option.bind_eq_some_iff.mp stepped
      cases stepped; exact ⟨⟨_, rfl⟩, by simp⟩
    · cases stepped

/-- Until it publishes, a create changes its own claim and nothing else of the registry. -/
theorem creates_own {server next : Server} {thread : Nat} {action : Action} {events : List Event}
    (registered : Registered server) (creates : action.creates thread)
    (stepped : step server action = some (next, events))
    (unpublished : ∀ ref session, .published ref session ∉ events) :
    next.registry = server.registry.setClaim thread (next.registry.claim thread) := by
  obtain ⟨⟨handler, handlers⟩, unremoved⟩ := creates_frame creates stepped
  -- The claims of other threads stay, so a claim that changed is the thread's own.
  have others {other : Nat} (elsewhere : thread ≠ other) :
      next.registry.claim other = server.registry.claim other := by
    show next.reservationOf other = server.reservationOf other
    unfold Server.reservationOf
    rw [handlers, List.getElem?_set_ne elsewhere]
  obtain ⟨change, changed, causes⟩ := (step_effect stepped).changes registered
  generalize next.registry = after at changed others
  cases changed with
  | kept => simp [Registry.setClaim]
  | @reserved other session identity idle =>
    obtain rfl : thread = other := by
      by_contra elsewhere
      have := others elsewhere
      simp [Registry.setClaim, idle] at this
    simp [Registry.setClaim]
  | published =>
    obtain ⟨-, -, session, ref, -, rfl⟩ := causes
    exact absurd (List.mem_singleton.mpr rfl) (unpublished ref session)
  | @released other claimed holds =>
    obtain rfl : thread = other := by
      by_contra elsewhere
      have := others elsewhere
      simp [Registry.setClaim, holds] at this
    simp [Registry.setClaim]
  | removed =>
    obtain ⟨ref, owner, removed⟩ := causes
    exact absurd removed (unremoved ref owner)

theorem Effect.spawned_claim {server next : Server} {events : List Event} {ref : PaneRef}
    {session : SessionId} {identity : SessionIdentity} (effect : Effect server next events)
    (member : .spawned ref session identity ∈ events) :
    ∃ thread, server.registry.claim thread = some (session, identity) := by
  cases effect.cause _ member with
  | ofPane own => exact own.elim
  | spawned found => exact ⟨_, reservationOf_idle found⟩

/-! ## The contract -/

/-- One create's own steps in a row, none of which publishes. -/
inductive CreatesAlone (thread : Nat) : Server → Server → Prop where
  | refl (server : Server) : CreatesAlone thread server server
  | step {server middle next : Server} {action : Action} {events : List Event} :
      CreatesAlone thread server middle → action.creates thread →
      step middle action = some (next, events) →
      (∀ ref session, .published ref session ∉ events) → CreatesAlone thread server next

/-- What the registry promises at every reachable state and in every step from there. -/
structure RegistryContract (server : Server) : Prop where
  /-- Every entry is a pane of that number, alive under its identity. -/
  sessions : ∀ session ref, server.state.sessions[session]? = some ref →
    ∃ pane, server.panes[ref]? = some pane ∧ pane.state.session = session ∧
      pane.state.pane.raw = session.raw ∧ server.registry.live session = some pane.state.identity
  /-- The second index is the inverse of the first. -/
  inverse : ∀ session identity, server.state.sessionByIdentity[identity]? = some session ↔
    server.registry.live session = some identity
  reservedSessions : ∀ session, session ∈ server.state.reservedSessions ↔
    ∃ thread identity, server.registry.claim thread = some (session, identity)
  reservedIdentities : ∀ identity, identity ∈ server.state.reservedIdentities ↔
    ∃ thread session, server.registry.claim thread = some (session, identity)
  exclusive : server.registry.Exclusive
  changes : ∀ next action events, step server action = some (next, events) →
    ∃ change, server.registry.Next change next.registry ∧ server.Causes events change
  /-- Nothing is spawned without a claim, which only a reservation gives. -/
  spawned : ∀ next action events ref session identity, step server action = some (next, events) →
    .spawned ref session identity ∈ events →
    ∃ thread, server.registry.claim thread = some (session, identity)
  /-- Unless it publishes, a create touches its own claim only. -/
  own : ∀ thread next action events, action.creates thread →
    step server action = some (next, events) →
    (∀ ref session, .published ref session ∉ events) →
    next.registry = server.registry.setClaim thread (next.registry.claim thread)
  undone : ∀ thread next, CreatesAlone thread server next → server.registry.claim thread = none →
    next.registry.claim thread = none → next.registry = server.registry
  refused : ∀ thread conn request rejection state,
    server.handlers[thread]? = some (.creating conn request .reserve) →
    server.state.reserveSession request.requestedId request.identity = (.error rejection, state) →
    ∃ next, step server (.createReserve thread) = some (next, []) ∧
      next.registry = server.registry
  spawnFailed : ∀ thread conn request session message,
    server.handlers[thread]? = some (.creating conn request (.spawn session)) →
    ∃ next, step server (.createSpawn thread (.error message)) = some (next, []) ∧
      next.registry = server.registry ∧ next.handlers[thread]? =
        some (.creating conn request (.release session ⟨.launchFailed, message⟩))
  publishFailed : ∀ thread conn request session ref pane rejection,
    server.handlers[thread]? = some (.creating conn request (.publish session ref)) →
    server.panes[ref]? = some pane →
    server.state.publishReservedSession session ref pane.state.identity pane.state.agent =
      .error rejection →
    ∃ next, step server (.createPublish thread) = some (next, []) ∧
      next.registry = server.registry ∧
      next.handlers[thread]? = some (.creating conn request (.discard session ref rejection))
  discarded : ∀ thread conn request session ref rejection,
    server.handlers[thread]? = some (.creating conn request (.discard session ref rejection)) →
    ∃ next, step server (.createDiscard thread) = some (next, []) ∧
      next.registry = server.registry ∧
      next.handlers[thread]? = some (.creating conn request (.release session rejection))
  released : ∀ thread conn request session rejection,
    server.handlers[thread]? = some (.creating conn request (.release session rejection)) →
    ∃ next, step server (.createRelease thread) = some (next, []) ∧
      next.registry = server.registry.setClaim thread none

theorem CreatesAlone.registry {thread : Nat} {server next : Server}
    (alone : CreatesAlone thread server next) (registered : Registered server) :
    Registered next ∧
      next.registry = server.registry.setClaim thread (next.registry.claim thread) := by
  induction alone with
  | refl => exact ⟨registered, by simp [Registry.setClaim]⟩
  | step _ creates stepped unpublished ih =>
    obtain ⟨registered, same⟩ := ih
    refine ⟨(step_effect stepped).registered registered, ?_⟩
    rw [creates_own registered creates stepped unpublished, same]
    simp [Registry.setClaim]

theorem registry_contract (server : Server) (past : List Event) (run : daemon.Reaches server past) :
    RegistryContract server := by
  have registered := registered_of_reaches run
  have unshared := unshared_of_reaches run
  refine
    { sessions := fun session ref routed => ?_
      inverse := fun session identity => registered.live_eq_some.symm
      reservedSessions := registered.reservedSessions
      reservedIdentities := registered.reservedIdentities
      exclusive := registered.exclusive_registry
      changes := fun next action events stepped => (step_effect stepped).changes registered
      spawned := fun next action events ref session identity stepped member =>
        (step_effect stepped).spawned_claim member
      own := fun thread next action events creates stepped unpublished =>
        creates_own registered creates stepped unpublished
      undone := fun thread next alone before after => ?_
      refused := fun thread conn request rejection state found refusal => ?_
      spawnFailed := fun thread conn request session message found => ?_
      publishFailed := fun thread conn request session ref pane rejection found present refusal => ?_
      discarded := fun thread conn request session ref rejection found => ?_
      released := fun thread conn request session rejection found => ?_ }
  · obtain ⟨label, labelled, number, indexed⟩ := registered.live session ref routed
    have numbered := registered.numbered ref label labelled
    simp only [Server.labelOf, Option.map_eq_some_iff] at labelled
    obtain ⟨pane, present, rfl⟩ := labelled
    refine ⟨pane, present, number, numbered.trans (congrArg SessionId.raw number), ?_⟩
    exact registered.live_eq_some.mpr indexed
  · have same := (alone.registry registered).2
    rw [same, after]
    exact Registry.setClaim_self before
  · refine ⟨_, by simp only [step, Server.createReserve, found, refusal]; rfl, ?_⟩
    exact registry_kept found rfl (Server.afterRejection_holds _ _ _).1
      (Server.reserveSession_refused_same refusal).sessions rfl
  · refine ⟨_, by simp only [step, Server.createSpawn, found]; rfl, ?_, ?_⟩
    · exact registry_kept found rfl rfl rfl rfl
    · simp [Server.goto, (List.getElem?_eq_some_iff.mp found).1]
  · -- A pane only its create knows is not locked, so that the step can be taken.
    obtain ⟨known, found', idle⟩ := unshared thread ref
      (by simp [Server.unpublishedOf, found, Handler.unpublished])
    rw [present] at found'
    cases found'
    refine ⟨_, by
      simp only [step, Server.createPublish, found, Server.lockPane, present, Option.filter_some,
        idle.free, Bool.not_false, if_true, Option.bind_some, refusal]
      rfl, ?_, ?_⟩
    · exact registry_kept found rfl rfl rfl rfl
    · simp [Server.goto, (List.getElem?_eq_some_iff.mp found).1]
  · obtain ⟨pane, present, idle⟩ := unshared thread ref
      (by simp [Server.unpublishedOf, found, Handler.unpublished])
    refine ⟨_, by
      simp only [step, Server.createDiscard, found, Server.lockPane, present, Option.filter_some,
        idle.free, Bool.not_false, if_true, Option.bind_some]
      rfl, ?_, ?_⟩
    · exact registry_kept found rfl rfl rfl (labelOf_set present rfl rfl)
    · simp [Server.goto, Server.setPane, (List.getElem?_eq_some_iff.mp found).1]
  · refine ⟨_, by simp only [step, Server.createRelease, found]; rfl, ?_⟩
    exact registry_moved found rfl (Server.afterRejection_holds _ _ _).1 rfl rfl

def otherCreate : ClientMessage :=
  .createSession .min ⟨⟨1, bytes_one⟩, ⟨2, bytes_two⟩⟩ (some ⟨2⟩) none "other" none [] .shell 24 80

/-- One session is live and another one reserved. -/
theorem registry_contract_reserved : ∃ server : Server, server.state.sessions.size = 1 ∧
    server.state.reservedSessions.size = 1 ∧ RegistryContract server := by
  obtain ⟨server, past, run, sizes⟩ := daemon.exists_reaches ⟨⟨0⟩, rfl⟩
    (sampleSession ++ (createSteps 1 otherCreate ⟨"sh", 8, 8⟩).take 6)
    (fun server _ => server.state.sessions.size = 1 ∧ server.state.reservedSessions.size = 1)
    (by decide)
  obtain ⟨live, reserved⟩ := of_decide_eq_true sizes
  exact ⟨server, live, reserved, registry_contract server past run⟩

end Mult.Daemon
