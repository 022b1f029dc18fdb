import Mult.Daemon.Handover
import Mult.Daemon.PlainSteps
import Mult.Daemon.Ownership

/-! What the clients are sent of the output under each lease, and what a replay still owes them:
the invariant that every step of the daemon keeps.
-/

set_option autoImplicit false

namespace Mult.Daemon
open Foundation Protocol

/-- What a client that takes everything queued for it has of the output under the lease. -/
def Server.received (server : Server) (client : ClientId) (lease : AttachmentLease) :
    Option (Receiver UInt8) :=
  Receiver.takes .idle (partsOf lease (server.transports.heard client))

/-! ## The panes that a replay keeps locked -/

/-- A locked pane keeps its owner and its output. -/
structure Pane.Held (pane after : Pane) : Prop where
  locked : after.replaying = true
  owner : after.state.owner = pane.state.owner
  backlog : after.state.backlog = pane.state.backlog
  pane : after.state.pane = pane.state.pane

/-- No pane gains an owner, and the locked ones are held. -/
structure PanesKept (server next : Server) : Prop where
  held : ∀ (ref : PaneRef) (pane : Pane), server.panes[ref]? = some pane → pane.replaying = true →
    ∃ after, next.panes[ref]? = some after ∧ pane.Held after
  owners : ∀ ref owner, next.ownerOf ref = some owner → server.ownerOf ref = some owner

section
variable {server next : Server} {ref : PaneRef} {pane after : Pane} {events : List Event}

theorem PanesKept.same (panes : next.panes = server.panes) : PanesKept server next :=
  ⟨fun _ pane found locked => ⟨pane, panes ▸ found, locked, rfl, rfl, rfl⟩,
    fun ref owner held => by rwa [ownerOf_same panes] at held⟩

theorem PanesKept.set (found : server.panes[ref]? = some pane)
    (panes : next.panes = server.panes.set ref after)
    (held : pane.replaying = true → pane.Held after)
    (owner : after.state.owner = pane.state.owner ∨ after.state.owner = none) :
    PanesKept server next := by
  refine ⟨fun other before there locked => ?_, fun other holder owned => ?_⟩
  · by_cases here : ref = other
    · subst here
      rw [found] at there
      cases there
      refine ⟨after, ?_, held locked⟩
      rw [panes, List.getElem?_set_self (List.getElem?_eq_some_iff.mp found).1]
    · refine ⟨before, ?_, locked, rfl, rfl, rfl⟩
      rw [panes, List.getElem?_set_ne here]
      exact there
  · rw [ownerOf_set found panes] at owned
    split at owned
    · next here =>
      subst here
      rw [ownerOf_found found]
      rcases owner with same | none
      · exact same ▸ owned
      · rw [none] at owned
        cases owned
    · exact owned

theorem PaneStep.held (stepped : PaneStep ref pane after events)
    (locked : pane.replaying = true) : pane.Held after := by
  cases stepped with
  | appended bytes sequence state scheduled poll free =>
    rw [locked] at free
    cases free
  | readFailed bytes state free =>
    rw [locked] at free
    cases free
  | _ => exact ⟨locked, rfl, rfl, rfl⟩

theorem Effect.panesKept (effect : Effect server next events)
    (replays : ∀ (thread : Nat) (handler : Handler), handler.replays ≠ none →
      (next.handlers[thread]? = some handler ↔ server.handlers[thread]? = some handler)) :
    PanesKept server next := by
  have freed {pane after : Pane} (free : pane.replaying = false) (locked : pane.replaying = true) :
      pane.Held after := by
    rw [locked] at free
    cases free
  -- A thread that attaches does not go on to a replay.
  have begun {thread : Nat} {conn other : Connection} {request : AttachRequest}
      {cached : Option AttachmentLease} {target : PaneRef} {targets : List ReplayTarget}
      (before : server.handlers[thread]? = some (.attaching conn request cached))
      (handlers : next.handlers = server.handlers.set thread (.replaying other target targets)) :
      False := by
    have now : next.handlers[thread]? = some (.replaying other target targets) := by
      rw [handlers, List.getElem?_set_self (List.getElem?_eq_some_iff.mp before).1]
    have was := (replays thread _ (by simp [Handler.replays])).mp now
    rw [before] at was
    cases was
  cases effect with
  | quiet quiet => exact .same quiet.panes
  | shutdown panes _ _ => exact .same panes
  | retryRefused quiet _ => exact .same quiet.panes
  | validated _ _ => exact .same rfl
  | queued found present _ same panes _ _ =>
    subst same
    exact .set present panes (fun locked => ⟨locked, rfl, rfl, rfl⟩) (.inl rfl)
  | reserved _ _ => exact .same rfl
  | @spawned thread conn request session child found =>
    refine ⟨fun ref pane there locked => ⟨pane, ?_, locked, rfl, rfl, rfl⟩, fun ref owner held => ?_⟩
    · show (server.panes ++ [spawnPane session request child])[ref]? = some pane
      rw [List.getElem?_append_left (List.getElem?_eq_some_iff.mp there).1]
      exact there
    · show server.panes[ref]?.bind (fun pane => pane.state.owner) = some owner
      exact (getElem?_append_bind _ _ rfl ref).symm.trans held
  | published _ present free _ => exact .set present rfl (freed free) (.inl rfl)
  | discarded _ present =>
    exact .set present rfl (fun locked => ⟨locked, rfl, rfl, rfl⟩) (.inl rfl)
  | released _ => exact .same rfl
  | refitted present panes _ _ =>
    exact .set present panes (fun locked => ⟨locked, rfl, rfl, rfl⟩) (.inl rfl)
  | rebound before _ _ _ _ handlers => exact (begun before handlers).elim
  | granted before _ _ _ _ handlers => exact (begun before handlers).elim
  | @unlocked thread conn target pane before present =>
    have still := (replays thread _ (by simp [Handler.replays])).mpr before
    rw [Server.goto, List.getElem?_set_self] at still
    · cases still
    · exact (List.getElem?_eq_some_iff.mp before).1
  | resized _ accepted same =>
    subst same
    exact .set accepted.found rfl (fun locked => ⟨locked, rfl, rfl, rfl⟩) (.inl rfl)
  | detached _ accepted => exact .set accepted.found rfl (freed accepted.free) (.inr rfl)
  | stopAccepted _ present _ _ _ =>
    exact .set present rfl (fun locked => ⟨locked, rfl, rfl, rfl⟩) (.inl rfl)
  | stopSkipped _ _ _ panes _ _ => exact .same panes
  | stopStarted present _ _ panes _ _ =>
    exact .set present panes (fun locked => ⟨locked, rfl, rfl, rfl⟩) (.inl rfl)
  | pane present stepped panes _ _ => exact .set present panes stepped.held (.inl stepped.owner)
  | finalized present free _ _ _ finalizer panes _ _ =>
    refine .set present panes (freed free) (.inr ?_)
    cases finalizer <;> rfl

end

/-! ## The invariant -/

def GrantedFor (past : List Event) (ref : PaneRef) (lease : AttachmentLease) : Prop :=
  ∃ owner, (ref, owner) ∈ Hold.grants (holds past) ∧ owner.lease = lease

/-- The receiver has nothing, or a part of the output of the pane the lease was granted for, or the
handover of that pane was broken off. -/
def Traced (past : List Event) (lease : AttachmentLease) (receiver : Receiver UInt8) : Prop :=
  receiver = .idle ∨ ∃ ref, GrantedFor past ref lease ∧
    (receiver = .broken ∨ receiver.Within (outputOf past ref))

section
variable {past : List Event} {ref : PaneRef} {lease : AttachmentLease} {server : Server}

theorem GrantedFor.append (granted : GrantedFor past ref lease) (more : List Event) :
    GrantedFor (past ++ more) ref lease := by
  obtain ⟨owner, member, same⟩ := granted
  refine ⟨owner, ?_, same⟩
  rw [holds_append, Hold.grants_append]
  exact List.mem_append_left _ member

theorem Traced.append {receiver : Receiver UInt8} (traced : Traced past lease receiver)
    (more : List Event) : Traced (past ++ more) lease receiver := by
  rcases traced with idle | ⟨ref, granted, within⟩
  · exact .inl idle
  · refine .inr ⟨ref, granted.append more, within.imp id fun within => ?_⟩
    rw [outputOf_append]
    exact within.append _

theorem Owned.grantedFor (owned : Owned server past) {owner : AttachmentOwner}
    (held : server.ownerOf ref = some owner) : GrantedFor past ref owner.lease := by
  rw [owned.owners] at held
  obtain ⟨first, member, same⟩ := owned.fenced.holding_granted held
  exact ⟨first, member, AttachmentLease.ext_get same⟩

theorem Owned.apart (owned : Owned server past) {other : PaneRef} {first second : AttachmentOwner}
    (held : server.ownerOf ref = some first) (also : server.ownerOf other = some second)
    (apart : ref ≠ other) : second.lease ≠ first.lease := by
  rw [owned.owners] at held also
  exact fun same => apart (owned.fenced.holding_unique held also
    (congrArg AttachmentLease.get same.symm))

end

/-- All parts of the waiter's handover are queued. -/
def ReplayTarget.handedOver (target : ReplayTarget) : Bool :=
  target.deliveries.all fun
    | .message (.replayEnd _ _ _ _) => false
    | _ => true

/-- The client is about to be told that the lease it was handed went to another one. -/
def Server.Leaving (server : Server) (client : ClientId) (ref : PaneRef) : Prop :=
  ∃ (thread : Nat) (conn : Connection) (target : ReplayTarget) (targets : List ReplayTarget),
    server.handlers[thread]? = some (.replaying conn ref (target :: targets)) ∧
      target.client = client ∧ target.displaced ≠ none ∧ target.handedOver = true

theorem Server.Leaving.kept {server next : Server} {client : ClientId} {ref : PaneRef}
    (leaving : server.Leaving client ref)
    (handlers : ∀ (thread : Nat) (handler : Handler), server.handlers[thread]? = some handler →
      handler.replays = some ref → next.handlers[thread]? = some handler) :
    next.Leaving client ref := by
  obtain ⟨thread, conn, target, targets, found, rest⟩ := leaving
  exact ⟨thread, conn, target, targets, handlers thread _ found rfl, rest⟩

/-- Every client is sent a lease's output in order, and whoever is past the handover keeps up. -/
structure Streams (server : Server) (past : List Event) : Prop where
  sound : ∀ client lease, Receiver.Sound (Traced past lease)
    (partsOf lease (server.transports.heard client))
  current : ∀ client receiver ref owner, server.ownerOf ref = some owner →
    server.received client owner.lease = some receiver → receiver.Live →
    server.transports.isActive client = true →
    receiver.CaughtUp (outputOf past ref) ∧ (owner.client = client ∨ server.Leaving client ref)

/-- The waiter is sent parts of the lease alone, and is told if another one has it. -/
structure ReplayTarget.Hands (target : ReplayTarget) (pane : PaneState) (owner : AttachmentOwner) :
    Prop where
  others : ∀ other, other ≠ owner.lease → partsOf other target.deliveries = []
  displaced : target.displaced = if target.client = owner.client then none
    else some (.takenOver pane.pane owner.lease)

/-- The whole handover of the pane is still to be sent. -/
def ReplayTarget.Whole (target : ReplayTarget) (pane : PaneState) (lease : AttachmentLease) : Prop :=
  ∃ chunks, chunks.flatten = pane.rawHistory.contents ∧
    partsOf lease target.deliveries = Receiver.handover pane.historyStart.get chunks

/-- The pane is held under the lease; of the first waiter's handover only the rest is to be sent. -/
structure Replaying (server : Server) (ref : PaneRef) (targets : List ReplayTarget) (pane : Pane)
    (owner : AttachmentOwner) : Prop where
  found : server.panes[ref]? = some pane
  locked : pane.replaying = true
  owned : pane.state.owner = some owner
  hands : ∀ target ∈ targets, target.Hands pane.state owner
  first : ∀ target, targets.head? = some target → ∃ receiver,
    server.received target.client owner.lease = some receiver ∧
      Receiver.Awaits pane.state.historyStart.get pane.state.rawHistory.contents receiver
        (partsOf owner.lease target.deliveries)
  rest : ∀ target ∈ targets.tail, target.Whole pane.state owner.lease

/-- What every step of the daemon keeps: nothing but a replay or a read sends an output, and the
clients' streams are as they should be. -/
structure Followed (server : Server) (past : List Event) : Prop where
  handlers : ∀ handler ∈ server.handlers, handler.Plain
  panes : ∀ pane ∈ server.panes, pane.Plain
  answers : ∀ key response, .answered key response ∈ past → Plain response
  clients : ∀ client, server.transports.contains client = true →
    client < server.state.nextClientId
  streams : Streams server past
  replays : ∀ (thread : Nat) (conn : Connection) (ref : PaneRef) (targets : List ReplayTarget),
    server.handlers[thread]? = some (.replaying conn ref targets) →
    ∃ pane owner, Replaying server ref targets pane owner
  alone : ∀ (one two : Nat) (first second : Handler) (ref : PaneRef),
    server.handlers[one]? = some first → first.replays = some ref →
    server.handlers[two]? = some second → second.replays = some ref → one = two

theorem Followed.tidy {server : Server} {past : List Event} (followed : Followed server past)
    (run : daemon.Reaches server past) : Tidy server where
  handlers := followed.handlers
  panes := followed.panes
  stored scope id response stored :=
    followed.answers ⟨scope, id⟩ response (answered_of_stored run stored)
  clients := followed.clients

theorem Replaying.kept {server next : Server} {ref : PaneRef} {targets : List ReplayTarget}
    {pane after : Pane} {owner : AttachmentOwner} (replaying : Replaying server ref targets pane owner)
    (found : next.panes[ref]? = some after) (held : pane.Held after)
    (received : ∀ client, next.received client owner.lease = server.received client owner.lease) :
    Replaying next ref targets after owner := by
  obtain ⟨history, start, -⟩ : after.state.rawHistory = pane.state.rawHistory ∧
      after.state.historyStart = pane.state.historyStart ∧ _ := by
    simpa [PaneState.backlog] using held.backlog
  refine ⟨found, held.locked, held.owner.trans replaying.owned, fun target member => ?_,
    fun target head => ?_, fun target member => ?_⟩
  · obtain ⟨others, displaced⟩ := replaying.hands target member
    exact ⟨others, held.pane ▸ displaced⟩
  · obtain ⟨receiver, has, awaits⟩ := replaying.first target head
    exact ⟨receiver, (received _).trans has, history ▸ start ▸ awaits⟩
  · obtain ⟨chunks, whole, parts⟩ := replaying.rest target member
    exact ⟨chunks, history ▸ whole, start ▸ parts⟩

section
variable {server next : Server} {past events : List Event} {ref : PaneRef}

theorem Followed.locked (followed : Followed server past) {thread : Nat} {handler : Handler}
    (found : server.handlers[thread]? = some handler) (replays : handler.replays = some ref) :
    ∃ pane, server.panes[ref]? = some pane ∧ pane.replaying = true := by
  cases handler with
  | replaying conn target targets =>
    cases replays
    obtain ⟨pane, owner, replaying⟩ := followed.replays thread conn ref targets found
    exact ⟨pane, replaying.found, replaying.locked⟩
  | _ => cases replays

theorem received_plain (plain : OnlyPlain server.transports next.transports) (client : ClientId)
    (lease : AttachmentLease) : next.received client lease = server.received client lease := by
  obtain ⟨more, told, silent⟩ := plain.heard client
  rw [Server.received, told, partsOf_append, silent lease, List.append_nil]
  rfl

theorem Followed.tame (followed : Followed server past) (tame : Tame server next events)
    (effect : Effect server next events) : Followed next (past ++ events) := by
  have kept := effect.panesKept tame.replays
  have output (ref : PaneRef) : outputOf (past ++ events) ref = outputOf past ref := by
    rw [outputOf_append, outputOf_silent (tame.unpublished ref), List.append_nil]
  refine
    { handlers := tame.handlers
      panes := tame.panes
      answers := fun key response member => ?_
      clients := tame.clients
      streams := ⟨fun client lease => ?_, fun client receiver ref owner held has live active => ?_⟩
      replays := fun thread conn ref targets found => ?_
      alone := fun one two first second ref found replays also same => ?_ }
  · rcases List.mem_append.mp member with before | now
    · exact followed.answers key response before
    · exact tame.answers key response now
  · obtain ⟨more, told, silent⟩ := tame.transports.heard client
    rw [told, partsOf_append, silent lease, List.append_nil]
    exact (followed.streams.sound client lease).mono fun _ traced => traced.append events
  · rw [received_plain tame.transports] at has
    rcases tame.transports.active client active with was | plain
    · obtain ⟨caught, holds⟩ := followed.streams.current client receiver ref owner
        (kept.owners ref owner held) has live was
      exact ⟨output ref ▸ caught, holds.imp id fun leaving =>
        leaving.kept fun thread handler found replays =>
          (tame.replays thread handler (by simp [replays])).mpr found⟩
    · -- A new connection has been sent nothing of an output.
      rw [← received_plain tame.transports, Server.received, plain owner.lease] at has
      cases has
      exact live.elim
  · have before := (tame.replays thread _ (by simp [Handler.replays])).mp found
    obtain ⟨pane, owner, replaying⟩ := followed.replays thread conn ref targets before
    obtain ⟨after, there, held⟩ := kept.held ref pane replaying.found replaying.locked
    exact ⟨after, owner, replaying.kept there held
      fun client => received_plain tame.transports client owner.lease⟩
  · have former := (tame.replays one first (by simp [replays])).mp found
    have latter := (tame.replays two second (by simp [same])).mp also
    exact followed.alone one two first second ref former replays latter same

end

end Mult.Daemon
