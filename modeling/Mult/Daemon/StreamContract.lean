import Mult.Daemon.Streams

/-! What a client is sent of a pane's output: each lease's output in one piece and in order, first
what the pane kept and then what it publishes, to its end for whoever holds the pane.
-/

set_option autoImplicit false

namespace Mult.Daemon
open Foundation Protocol
open Std (TreeMap)

namespace Transports

variable {transports : Transports} {client : ClientId} {delivery : ClientDelivery}

theorem isActive_disconnected : (transports.disconnect client).isActive client = false :=
  Bool.eq_false_iff.mpr fun active => (isActive_disconnect client active).2 rfl

/-- A delivery goes to the end of the queue, or the connection is no longer active. -/
theorem deliverOrDisconnect_cases (transports : Transports) (client : ClientId)
    (delivery : ClientDelivery) :
    ((∀ other, (transports.deliverOrDisconnect client delivery).heard other =
        transports.heard other) ∧
      (transports.deliverOrDisconnect client delivery).isActive client = false ∨
    (∀ other, (transports.deliverOrDisconnect client delivery).heard other =
        if client = other then transports.heard other ++ [delivery] else transports.heard other) ∧
      transports.isActive client = true) ∧
    (∀ other, (transports.deliverOrDisconnect client delivery).isActive other = true →
      transports.isActive other = true) ∧
    ∀ other, (transports.deliverOrDisconnect client delivery).contains other = true →
      transports.contains other = true := by
  unfold deliverOrDisconnect
  simp only
  rcases tryEnqueue_cases transports client delivery with ⟨refused, same⟩ |
    ⟨accepted, active, queued⟩
  -- A refusal costs the connection its activity, and what it was sent stays.
  · rw [refused, if_neg Bool.false_ne_true]
    refine ⟨.inl ⟨fun other => ?_, isActive_disconnected⟩, fun other active => ?_,
      fun other known => ?_⟩
    · rw [heard_disconnect, same]
    · have before := (isActive_disconnect other active).1
      rwa [isActive_tryEnqueue] at before
    · have before := Tame.contains_disconnect known
      rwa [contains_tryEnqueue] at before
  · rw [accepted, if_pos rfl]
    refine ⟨.inr ⟨queued, active⟩, fun other now => ?_, fun other known => ?_⟩
    · rwa [isActive_tryEnqueue] at now
    · rwa [contains_tryEnqueue] at known

end Transports

section
variable {server next : Server} {past events : List Event} {ref : PaneRef}

theorem Streams.receives (streams : Streams server past) (client : ClientId)
    (lease : AttachmentLease) : ∃ receiver, server.received client lease = some receiver := by
  obtain ⟨receiver, has, -⟩ := (streams.sound client lease).all
  exact ⟨receiver, has⟩

theorem received_same {client : ClientId} {lease : AttachmentLease}
    (parts : partsOf lease (next.transports.heard client) =
      partsOf lease (server.transports.heard client)) :
    next.received client lease = server.received client lease := by
  rw [Server.received, parts]
  rfl

theorem received_queued {client : ClientId} {lease : AttachmentLease} {delivery : ClientDelivery}
    {part : Portion UInt8} {receiver : Receiver UInt8}
    (queued : next.transports.heard client = server.transports.heard client ++ [delivery])
    (single : partsOf lease [delivery] = [part])
    (has : server.received client lease = some receiver) :
    next.received client lease = receiver.take part := by
  rw [Server.received, queued, partsOf_append, single, Receiver.takes_append]
  show (server.received client lease).bind _ = _
  rw [has, Option.bind_some, Receiver.takes_cons]
  cases receiver.take part <;> rfl

theorem Followed.stays (followed : Followed server past) {pane : Pane}
    (found : server.panes[ref]? = some pane) (free : pane.replaying = false) (client : ClientId) :
    ¬ server.Leaving client ref := by
  rintro ⟨thread, conn, target, targets, there, -⟩
  obtain ⟨other, same, locked⟩ := followed.locked there rfl
  rw [found] at same
  cases same
  rw [free] at locked
  cases locked

/-! ## Reading -/

/-- A read that is published, with what becomes of the pane and of the owner's queue. -/
structure Reads (server next : Server) (ref : PaneRef) (pane after : Pane) (bytes : Bytes)
    (sequence : OutputSequence) : Prop where
  found : server.panes[ref]? = some pane
  free : pane.replaying = false
  appended : ∃ state, pane.state.appendRawHistory bytes = (some sequence, state)
  panes : next.panes = server.panes.set ref after
  owner : after.state.owner = pane.state.owner
  plain : after.Plain
  handlers : next.handlers = server.handlers
  state : next.state = server.state
  transports : next.transports = (pane.state.owner.elim server.transports fun owner =>
    server.transports.deliverOrDisconnect owner.client
      (.output pane.state.pane owner.lease sequence bytes))

theorem outputOf_single {past : List Event} {sequence : OutputSequence} {bytes : Bytes}
    (other : PaneRef) : outputOf (past ++ [.output ref sequence bytes]) other =
      if ref = other then outputOf past other ++ bytes else outputOf past other := by
  rw [outputOf_append]
  by_cases here : ref = other
  · simp [outputOf, Event.outputOf, here]
  · simp [outputOf, Event.outputOf, here]

theorem Reads.ownerOf {pane after : Pane} {bytes : Bytes} {sequence : OutputSequence}
    (reads : Reads server next ref pane after bytes sequence) : next.ownerOf = server.ownerOf :=
  ownerOf_kept reads.found reads.panes reads.owner

theorem Reads.parts {pane after : Pane} {bytes : Bytes} {sequence : OutputSequence}
    (reads : Reads server next ref pane after bytes sequence) {lease : AttachmentLease}
    (apart : ∀ owner, pane.state.owner = some owner → lease ≠ owner.lease) (client : ClientId) :
    partsOf lease (next.transports.heard client) =
      partsOf lease (server.transports.heard client) := by
  rw [reads.transports]
  cases owned : pane.state.owner with
  | none => rfl
  | some owner =>
    rw [Option.elim_some]
    obtain ⟨⟨same, -⟩ | ⟨queued, -⟩, -⟩ := Transports.deliverOrDisconnect_cases server.transports
      owner.client (.output pane.state.pane owner.lease sequence bytes)
    · rw [same]
    · rw [queued]
      split
      · rw [partsOf_append]
        simp [partsOf, deliveryMessage, streamPart, (apart owner owned).symm]
      · rfl

theorem Reads.owner_takes {pane after : Pane} {bytes : Bytes} {sequence : OutputSequence}
    (reads : Reads server next ref pane after bytes sequence) {owner : AttachmentOwner}
    (owned : pane.state.owner = some owner) :
    ((∀ client, next.transports.heard client = server.transports.heard client) ∧
      next.transports.isActive owner.client = false ∨
    (next.transports.heard owner.client = server.transports.heard owner.client ++
        [.output pane.state.pane owner.lease sequence bytes] ∧
      ∀ client, client ≠ owner.client →
        next.transports.heard client = server.transports.heard client) ∧
      server.transports.isActive owner.client = true) ∧
    (∀ client, next.transports.isActive client = true →
      server.transports.isActive client = true) := by
  rw [reads.transports, owned, Option.elim_some]
  obtain ⟨told, active, -⟩ := Transports.deliverOrDisconnect_cases server.transports owner.client
    (.output pane.state.pane owner.lease sequence bytes)
  refine ⟨told.imp id fun ⟨queued, was⟩ => ⟨⟨?_, fun client other => ?_⟩, was⟩, active⟩
  · rw [queued, if_pos rfl]
  · rw [queued, if_neg other.symm]

theorem Reads.active {pane after : Pane} {bytes : Bytes} {sequence : OutputSequence}
    (reads : Reads server next ref pane after bytes sequence) (client : ClientId)
    (active : next.transports.isActive client = true) :
    server.transports.isActive client = true := by
  cases owned : pane.state.owner with
  | none =>
    rw [reads.transports, owned] at active
    exact active
  | some owner => exact (reads.owner_takes owned).2 client active

theorem Reads.known {pane after : Pane} {bytes : Bytes} {sequence : OutputSequence}
    (reads : Reads server next ref pane after bytes sequence) (client : ClientId)
    (known : next.transports.contains client = true) :
    server.transports.contains client = true := by
  rw [reads.transports] at known
  cases owned : pane.state.owner with
  | none =>
    rw [owned] at known
    exact known
  | some owner =>
    rw [owned, Option.elim_some] at known
    exact (Transports.deliverOrDisconnect_cases server.transports owner.client _).2.2 client known

theorem partsOf_output (pane : PaneId) (lease : AttachmentLease) (sequence : OutputSequence)
    (bytes : Bytes) : partsOf lease [.output pane lease sequence bytes] =
      [.comes sequence.get bytes] := by
  simp [partsOf, deliveryMessage, streamPart]

theorem Followed.read (followed : Followed server past) (run : daemon.Reaches server past)
    {pane after : Pane} {bytes : Bytes} {sequence : OutputSequence}
    (reads : Reads server next ref pane after bytes sequence) :
    Followed next (past ++ [.output ref sequence bytes]) := by
  have owned := owned_of_reaches run
  have held : server.ownerOf ref = pane.state.owner := ownerOf_found reads.found
  obtain ⟨state, appended⟩ := reads.appended
  have position : sequence.get = (outputOf past ref).length :=
    (((outputKept_of_reaches run).panes ref pane reads.found).appended appended).1
  have others {lease : AttachmentLease}
      (apart : ∀ owner, pane.state.owner = some owner → lease ≠ owner.lease) (client : ClientId) :
      next.received client lease = server.received client lease :=
    received_same (reads.parts apart client)
  have elsewhere {other : PaneRef} {holder : AttachmentOwner} (away : ref ≠ other)
      (holds : server.ownerOf other = some holder) :
      ∀ owner, pane.state.owner = some owner → holder.lease ≠ owner.lease :=
    fun owner has => owned.apart (held.trans has) holds away
  -- While the pane is free, its owner has all of the output so far.
  have takes {owner : AttachmentOwner} (has : pane.state.owner = some owner)
      (active : server.transports.isActive owner.client = true) {receiver : Receiver UInt8}
      (had : server.received owner.client owner.lease = some receiver) :
      ∃ now, receiver.take (.comes sequence.get bytes) = some now ∧
        now.CaughtUp (outputOf past ref ++ bytes) ∧
          (now = .broken ∨ now.Within (outputOf past ref ++ bytes)) := by
    rw [position]
    refine Receiver.take_comes ?_ bytes
    cases receiver with
    | live first items =>
      exact (followed.streams.current owner.client _ ref owner (held.trans has) had trivial
        active).1
    | _ => trivial
  have sound (client : ClientId) (lease : AttachmentLease) :=
    (followed.streams.sound client lease).mono
      fun _ traced => traced.append [.output ref sequence bytes]
  refine
    { handlers := reads.handlers ▸ followed.handlers
      panes := reads.panes ▸ forall_mem_set followed.panes reads.plain
      answers := fun key response member => ?_
      clients := fun client known => reads.state ▸ followed.clients client (reads.known client known)
      streams := ⟨fun client lease => ?_, fun client receiver other owner holds has live active => ?_⟩
      replays := fun thread conn other targets found => ?_
      alone := reads.handlers ▸ followed.alone }
  · rcases List.mem_append.mp member with before | now
    · exact followed.answers key response before
    · cases List.mem_singleton.mp now
  -- Only the lease that the pane is held under gains a part.
  · by_cases mine : ∃ owner, pane.state.owner = some owner ∧ lease = owner.lease
    · obtain ⟨owner, has, rfl⟩ := mine
      obtain ⟨⟨same, -⟩ | ⟨⟨queued, rest⟩, active⟩, -⟩ := reads.owner_takes has
      · rw [same]
        exact sound client owner.lease
      · by_cases here : client = owner.client
        · subst here
          obtain ⟨receiver, had, -⟩ := (followed.streams.sound owner.client owner.lease).all
          obtain ⟨now, took, -, within⟩ := takes has active had
          rw [queued, partsOf_append, partsOf_output]
          refine (sound owner.client owner.lease).snoc had took (.inr ⟨ref, ?_, ?_⟩)
          · exact (owned.grantedFor (held.trans has)).append _
          · rw [outputOf_single, if_pos rfl]
            exact within
        · rw [rest client here]
          exact sound client owner.lease
    · rw [reads.parts (fun owner has same => mine ⟨owner, has, same⟩)]
      exact sound client lease
  · rw [reads.ownerOf] at holds
    by_cases here : ref = other
    · subst here
      have has' := held.symm.trans holds
      obtain ⟨sent, -⟩ := reads.owner_takes has'
      by_cases mine : client = owner.client
      · subst mine
        rcases sent with ⟨-, gone⟩ | ⟨⟨queued, -⟩, was⟩
        · rw [gone] at active
          cases active
        · obtain ⟨before, had⟩ := followed.streams.receives owner.client owner.lease
          obtain ⟨now, took, keeps, -⟩ := takes has' was had
          rw [received_queued queued (partsOf_output ..) had, took] at has
          cases has
          rw [outputOf_single, if_pos rfl]
          exact ⟨keeps, .inl rfl⟩
      · have same : next.received client owner.lease = server.received client owner.lease := by
          refine received_same ?_
          rcases sent with ⟨same, -⟩ | ⟨⟨-, rest⟩, -⟩
          · rw [same]
          · rw [rest client mine]
        rw [same] at has
        -- Another client that had kept up would be leaving, but the pane is free.
        obtain ⟨-, owns | leaves⟩ := followed.streams.current client receiver ref owner holds has
          live (reads.active client active)
        · exact absurd owns.symm mine
        · exact absurd leaves (followed.stays reads.found reads.free client)
    · rw [others (elsewhere here holds)] at has
      rw [outputOf_single, if_neg here]
      obtain ⟨caught, owns⟩ := followed.streams.current client receiver other owner holds has live
        (reads.active client active)
      exact ⟨caught, owns.imp id fun leaving =>
        leaving.kept fun _ _ there _ => reads.handlers ▸ there⟩
  · rw [reads.handlers] at found
    obtain ⟨before, owner, replaying⟩ := followed.replays thread conn other targets found
    have away : ref ≠ other := by
      rintro rfl
      have same := reads.found.symm.trans replaying.found
      cases same
      exact absurd replaying.locked (by rw [reads.free]; exact Bool.false_ne_true)
    refine ⟨before, owner, replaying.kept ?_ ⟨replaying.locked, rfl, rfl, rfl⟩ fun client => ?_⟩
    · rw [reads.panes, List.getElem?_set_ne away]
      exact replaying.found
    · exact others (elsewhere away ((ownerOf_found replaying.found).trans replaying.owned)) client

/-! ## Attaching -/

theorem take_revoked (receiver : Receiver UInt8) : receiver.take .revoked = some .idle := by
  cases receiver <;> rfl

theorem partsOf_takenOver (pane : PaneId) (lease : AttachmentLease) :
    partsOf lease [.message (.takenOver pane lease)] = [.revoked] := by
  simp [partsOf, deliveryMessage, streamPart]

theorem partsOf_takenOver_other (pane : PaneId) {lease other : AttachmentLease}
    (apart : other ≠ lease) : partsOf other [.message (.takenOver pane lease)] = [] := by
  simp [partsOf, deliveryMessage, streamPart, apart.symm]

/-- The pane is bound to an owner, and a replay to every waiter begins. -/
structure Binds (server next : Server) (past : List Event) (thread : Nat) (ref : PaneRef)
    (pane after : Pane) (owner : AttachmentOwner) (targets : List ReplayTarget) : Prop where
  before : ∃ conn request cached, server.handlers[thread]? = some (.attaching conn request cached)
  found : server.panes[ref]? = some pane
  free : pane.replaying = false
  panes : next.panes = server.panes.set ref after
  locked : after.replaying = true
  owned : after.state.owner = some owner
  plain : after.Plain
  handlers : ∃ conn, next.handlers = server.handlers.set thread (.replaying conn ref targets)
  clients : ∀ client, next.transports.contains client = true → client < next.state.nextClientId
  active : ∀ client, next.transports.isActive client = true →
    server.transports.isActive client = true
  sound : ∀ client lease (property : Receiver UInt8 → Prop), property .idle →
    Receiver.Sound property (partsOf lease (server.transports.heard client)) →
    Receiver.Sound property (partsOf lease (next.transports.heard client))
  parts : ∀ lease, (∀ previous, pane.state.owner = some previous → lease ≠ previous.lease) →
    ∀ client,
      partsOf lease (next.transports.heard client) = partsOf lease (server.transports.heard client)
  current : ∀ client receiver, next.received client owner.lease = some receiver → receiver.Live →
    next.transports.isActive client = true →
    receiver.CaughtUp (outputOf past ref) ∧ owner.client = client
  hands : ∀ target ∈ targets, target.Hands after.state owner ∧
    target.Whole after.state owner.lease

theorem Followed.bind (followed : Followed server past) (run : daemon.Reaches server past)
    {thread : Nat} {pane after : Pane} {owner : AttachmentOwner} {targets : List ReplayTarget}
    (binds : Binds server next past thread ref pane after owner targets)
    (answers : ∀ key response, .answered key response ∈ events → Plain response)
    (unpublished : ∀ other sequence bytes, .output other sequence bytes ∉ events) :
    Followed next (past ++ events) := by
  have owned := owned_of_reaches run
  have held : server.ownerOf ref = pane.state.owner := ownerOf_found binds.found
  obtain ⟨conn, handlers⟩ := binds.handlers
  obtain ⟨asking, request, cached, before⟩ := binds.before
  have here : next.handlers[thread]? = some (.replaying conn ref targets) := by
    rw [handlers, List.getElem?_set_self (List.getElem?_eq_some_iff.mp before).1]
  have away {place : Nat} (other : thread ≠ place) :
      next.handlers[place]? = server.handlers[place]? := by
    rw [handlers, List.getElem?_set_ne other]
  have output (other : PaneRef) : outputOf (past ++ events) other = outputOf past other := by
    rw [outputOf_append, outputOf_silent (unpublished other), List.append_nil]
  have others {other : PaneRef} {holder : AttachmentOwner} (apart : ref ≠ other)
      (holds : server.ownerOf other = some holder) (client : ClientId) :
      next.received client holder.lease = server.received client holder.lease := by
    refine received_same (binds.parts _ (fun previous has => ?_) client)
    exact owned.apart (held.trans has) holds apart
  have sound (client : ClientId) (lease : AttachmentLease) :
      Receiver.Sound (Traced (past ++ events) lease)
        (partsOf lease (next.transports.heard client)) :=
    binds.sound client lease _ (.inl rfl)
      ((followed.streams.sound client lease).mono fun _ traced => traced.append events)
  -- Nobody else replays the pane, as it was free.
  have unshared {place : Nat} {handler : Handler} (found : server.handlers[place]? = some handler)
      (replays : handler.replays = some ref) : False := by
    obtain ⟨other, same, locked⟩ := followed.locked found replays
    rw [binds.found] at same
    cases same
    rw [binds.free] at locked
    cases locked
  refine
    { handlers := handlers ▸ forall_mem_set followed.handlers (Handler.plain_of_nil rfl)
      panes := binds.panes ▸ forall_mem_set followed.panes binds.plain
      answers := fun key response member => ?_
      clients := binds.clients
      streams := ⟨sound, fun client receiver other holder holds has live active => ?_⟩
      replays := fun place asked other waiting found => ?_
      alone := fun one two first second other found replays also same => ?_ }
  · rcases List.mem_append.mp member with earlier | now
    · exact followed.answers key response earlier
    · exact answers key response now
  · rw [ownerOf_set binds.found binds.panes] at holds
    split at holds
    · next same =>
      subst same
      rw [binds.owned] at holds
      cases holds
      obtain ⟨caught, owns⟩ := binds.current client receiver has live active
      exact ⟨output ref ▸ caught, .inl owns⟩
    · next apart =>
      rw [others apart holds] at has
      obtain ⟨caught, owns⟩ := followed.streams.current client receiver other holder holds has live
        (binds.active client active)
      refine ⟨output other ▸ caught, owns.imp id fun leaving =>
        leaving.kept fun place handler there replays => ?_⟩
      -- The thread that binds the lease was attaching, and replayed nothing.
      rw [away]
      · exact there
      · rintro rfl
        rw [before] at there
        cases there
        cases replays
  · by_cases mine : thread = place
    · subst mine
      rw [here] at found
      cases found
      refine ⟨after, owner, ?_, binds.locked, binds.owned, fun target member =>
        (binds.hands target member).1, fun target head => ?_, fun target member =>
        (binds.hands target (List.mem_of_mem_tail member)).2⟩
      · rw [binds.panes, List.getElem?_set_self (List.getElem?_eq_some_iff.mp binds.found).1]
      · obtain ⟨receiver, has, -⟩ := (sound target.client owner.lease).all
        obtain ⟨chunks, whole, parts⟩ := (binds.hands target (List.mem_of_head? head)).2
        exact ⟨receiver, has, parts ▸ .before whole⟩
    · rw [away mine] at found
      obtain ⟨old, holder, replaying⟩ := followed.replays place asked other waiting found
      have apart : ref ≠ other := by
        rintro rfl
        exact unshared found rfl
      refine ⟨old, holder, replaying.kept ?_ ⟨replaying.locked, rfl, rfl, rfl⟩ fun client => ?_⟩
      · rw [binds.panes, List.getElem?_set_ne apart]
        exact replaying.found
      · exact others apart ((ownerOf_found replaying.found).trans replaying.owned) client
  · have mine {place : Nat} {handler : Handler} (there : next.handlers[place]? = some handler)
        (replays : handler.replays = some other) : thread = place ∧ ref = other ∨
          server.handlers[place]? = some handler ∧ ref ≠ other := by
      by_cases at_ : thread = place
      · subst at_
        rw [here] at there
        cases there
        exact .inl ⟨rfl, Option.some.inj replays⟩
      · rw [away at_] at there
        refine .inr ⟨there, ?_⟩
        rintro rfl
        exact unshared there replays
    rcases mine found replays with ⟨rfl, rfl⟩ | ⟨there, apart⟩
    · rcases mine also same with ⟨rfl, -⟩ | ⟨-, apart⟩
      · rfl
      · exact absurd rfl apart
    · rcases mine also same with ⟨-, rfl⟩ | ⟨too, -⟩
      · exact absurd rfl apart
      · exact followed.alone one two first second other there replays too same

theorem handedOver_of_silent {target : ReplayTarget}
    (silent : ∀ lease, partsOf lease target.deliveries = []) : target.handedOver = true := by
  refine List.all_eq_true.mpr fun delivery member => ?_
  split
  · next lease _ =>
    have none := List.filterMap_eq_nil_iff.mp (silent lease) _
      (List.mem_filterMap.mpr ⟨_, member, rfl⟩)
    simp [streamPart] at none
  · rfl

/-- One step of a replay: what is sent goes to the waiter in turn, under the lease alone. -/
structure Advances (server next : Server) (past : List Event) (thread : Nat) (ref : PaneRef)
    (pane : Pane) (owner : AttachmentOwner) (target : ReplayTarget) (left : List ReplayTarget) :
    Prop where
  panes : next.panes = server.panes
  state : next.state = server.state
  handlers : ∃ conn, next.handlers = server.handlers.set thread (.replaying conn ref left)
  active : ∀ client, next.transports.isActive client = server.transports.isActive client
  known : ∀ client, next.transports.contains client = server.transports.contains client
  parts : ∀ lease, lease ≠ owner.lease → ∀ client,
    partsOf lease (next.transports.heard client) = partsOf lease (server.transports.heard client)
  others : ∀ client, client ≠ target.client →
    next.transports.heard client = server.transports.heard client
  sound : Receiver.Sound (Traced past owner.lease)
    (partsOf owner.lease (next.transports.heard target.client))
  current : ∀ receiver, next.received target.client owner.lease = some receiver → receiver.Live →
    server.transports.isActive target.client = true →
    receiver.CaughtUp (outputOf past ref) ∧
      (owner.client = target.client ∨ next.Leaving target.client ref)
  hands : ∀ one ∈ left, one.Hands pane.state owner
  first : ∀ one, left.head? = some one → ∃ receiver,
    next.received one.client owner.lease = some receiver ∧
      Receiver.Awaits pane.state.historyStart.get pane.state.rawHistory.contents receiver
        (partsOf owner.lease one.deliveries)
  rest : ∀ one ∈ left.tail, one.Whole pane.state owner.lease

theorem Followed.advance (followed : Followed server past) (run : daemon.Reaches server past)
    {thread : Nat} {conn : Connection} {pane : Pane} {owner : AttachmentOwner}
    {target : ReplayTarget} {targets left : List ReplayTarget}
    (found : server.handlers[thread]? = some (.replaying conn ref (target :: targets)))
    (replaying : Replaying server ref (target :: targets) pane owner)
    (advances : Advances server next past thread ref pane owner target left) :
    Followed next (past ++ []) := by
  have owned := owned_of_reaches run
  have held : server.ownerOf ref = some owner := (ownerOf_found replaying.found).trans replaying.owned
  obtain ⟨asked, handlers⟩ := advances.handlers
  have here : next.handlers[thread]? = some (.replaying asked ref left) := by
    rw [handlers, List.getElem?_set_self (List.getElem?_eq_some_iff.mp found).1]
  have away {place : Nat} (other : thread ≠ place) :
      next.handlers[place]? = server.handlers[place]? := by
    rw [handlers, List.getElem?_set_ne other]
  -- The pane is replayed by no other thread.
  have unshared {place : Nat} {handler : Handler} (there : server.handlers[place]? = some handler)
      (replays : handler.replays = some ref) : place = thread :=
    followed.alone place thread handler _ ref there replays found rfl
  have others {lease : AttachmentLease} (apart : lease ≠ owner.lease) (client : ClientId) :
      next.received client lease = server.received client lease :=
    received_same (advances.parts lease apart client)
  have elsewhere {other : PaneRef} {holder : AttachmentOwner} (apart : ref ≠ other)
      (holds : server.ownerOf other = some holder) : holder.lease ≠ owner.lease :=
    owned.apart held holds apart
  rw [List.append_nil]
  refine
    { handlers := handlers ▸ forall_mem_set followed.handlers (Handler.plain_of_nil rfl)
      panes := advances.panes ▸ followed.panes
      answers := followed.answers
      clients := fun client known =>
        advances.state ▸ followed.clients client (advances.known client ▸ known)
      streams := ⟨fun client lease => ?_, fun client receiver other holder holds has live active => ?_⟩
      replays := fun place who other waiting there => ?_
      alone := fun one two former latter other there replays also same => ?_ }
  · by_cases mine : lease = owner.lease
    · subst mine
      by_cases told : client = target.client
      · exact told ▸ advances.sound
      · rw [advances.others client told]
        exact followed.streams.sound client owner.lease
    · rw [advances.parts lease mine]
      exact followed.streams.sound client lease
  · rw [ownerOf_same advances.panes] at holds
    rw [advances.active] at active
    by_cases mine : ref = other
    · subst mine
      rw [held] at holds
      cases holds
      by_cases told : client = target.client
      · subst told
        exact advances.current receiver has live active
      · rw [received_same (congrArg _ (advances.others client told))] at has
        obtain ⟨caught, owns | leaves⟩ :=
          followed.streams.current client receiver ref owner held has live active
        · exact ⟨caught, .inl owns⟩
        · obtain ⟨place, who, head, waiting, there, same, -⟩ := leaves
          obtain rfl := unshared there rfl
          rw [found] at there
          cases there
          exact absurd same.symm told
    · rw [others (elsewhere mine holds)] at has
      obtain ⟨caught, owns⟩ :=
        followed.streams.current client receiver other holder holds has live active
      refine ⟨caught, owns.imp id fun leaving =>
        leaving.kept fun place handler there replays => ?_⟩
      rw [away]
      · exact there
      · rintro rfl
        rw [found] at there
        cases there
        exact mine (Option.some.inj replays)
  · by_cases mine : thread = place
    · subst mine
      rw [here] at there
      cases there
      exact ⟨pane, owner, advances.panes ▸ replaying.found, replaying.locked, replaying.owned,
        advances.hands, advances.first, advances.rest⟩
    · rw [away mine] at there
      obtain ⟨old, holder, before⟩ := followed.replays place who other waiting there
      have apart : ref ≠ other := by
        rintro rfl
        exact mine (unshared there rfl).symm
      exact ⟨old, holder, before.kept (advances.panes ▸ before.found) ⟨before.locked, rfl, rfl, rfl⟩
        fun client => others (elsewhere apart ((ownerOf_found before.found).trans before.owned)) client⟩
  · have was {place : Nat} {handler : Handler} (now : next.handlers[place]? = some handler)
        (replays : handler.replays = some other) : ∃ old,
          server.handlers[place]? = some old ∧ old.replays = some other := by
      by_cases mine : thread = place
      · subst mine
        rw [here] at now
        cases now
        exact ⟨_, found, replays⟩
      · exact ⟨handler, away mine ▸ now, replays⟩
    obtain ⟨first, before, replayed⟩ := was there replays
    obtain ⟨second, too, also⟩ := was also same
    exact followed.alone one two first second other before replayed too also

theorem Followed.unlock (followed : Followed server past) {thread : Nat} {conn : Connection}
    {pane : Pane} (found : server.handlers[thread]? = some (.replaying conn ref []))
    (present : server.panes[ref]? = some pane) :
    Followed ((server.setPane ref { pane with replaying := false }).goto thread (.serving conn))
      (past ++ []) := by
  let next := (server.setPane ref { pane with replaying := false }).goto thread (.serving conn)
  have here : next.handlers[thread]? = some (.serving conn) :=
    List.getElem?_set_self (List.getElem?_eq_some_iff.mp found).1
  have away {place : Nat} (other : thread ≠ place) :
      next.handlers[place]? = server.handlers[place]? := List.getElem?_set_ne other
  -- The thread that lets go of the pane was the only one replaying from it.
  have old {place : Nat} {handler : Handler} {other : PaneRef}
      (there : next.handlers[place]? = some handler) (replays : handler.replays = some other) :
      server.handlers[place]? = some handler ∧ ref ≠ other := by
    by_cases mine : thread = place
    · subst mine
      rw [here] at there
      cases there
      cases replays
    · rw [away mine] at there
      refine ⟨there, ?_⟩
      rintro rfl
      exact mine (followed.alone thread place _ handler ref found rfl there replays)
  have owners : next.ownerOf = server.ownerOf := by
    funext other
    refine (ownerOf_set present rfl other).trans ?_
    split
    · next same => rw [← same, ownerOf_found present]
    · rfl
  have plain := followed.panes pane (List.mem_of_getElem? present)
  rw [List.append_nil]
  refine
    { handlers := forall_mem_set followed.handlers (Handler.plain_of_nil rfl)
      panes := forall_mem_set followed.panes ⟨plain.reader, plain.waiter, plain.drivers⟩
      answers := followed.answers
      clients := followed.clients
      streams := ⟨followed.streams.sound, fun client receiver other holder holds has live active => ?_⟩
      replays := fun place who other waiting there => ?_
      alone := fun one two former latter other there replays also same => ?_ }
  · -- A notice still to be sent stands with another thread: this one has nothing left to send.
    obtain ⟨caught, owns⟩ := followed.streams.current client receiver other holder
      (owners ▸ holds) has live active
    refine ⟨caught, owns.imp id ?_⟩
    rintro ⟨place, who, head, waiting, there, leaving⟩
    refine ⟨place, who, head, waiting, ?_, leaving⟩
    rw [← there]
    refine away ?_
    rintro rfl
    rw [found] at there
    cases there
  · obtain ⟨before, apart⟩ := old there rfl
    obtain ⟨kept, holder, replaying⟩ := followed.replays place who other waiting before
    refine ⟨kept, holder, replaying.kept ?_ ⟨replaying.locked, rfl, rfl, rfl⟩ fun _ => rfl⟩
    exact (List.getElem?_set_ne apart).trans replaying.found
  · exact followed.alone one two former latter other (old there replays).1 replays
      (old also same).1 same

/-- A step that sends these to one client, and changes no pane. -/
structure Sends (server next : Server) (client : ClientId) (more : List ClientDelivery) :
    Prop where
  panes : next.panes = server.panes
  state : next.state = server.state
  heard : ∀ other, next.transports.heard other = if client = other then
    server.transports.heard other ++ more else server.transports.heard other
  active : ∀ other, next.transports.isActive other = server.transports.isActive other
  known : ∀ other, next.transports.contains other = server.transports.contains other

theorem partsOf_one (lease : AttachmentLease) (delivery : ClientDelivery) :
    partsOf lease [delivery] = [] ∨ ∃ part, partsOf lease [delivery] = [part] := by
  rw [partsOf_cons, partsOf_nil, List.append_nil]
  cases (deliveryMessage delivery).bind (streamPart lease) with
  | none => exact .inl rfl
  | some part => exact .inr ⟨part, rfl⟩

theorem Sends.parts {client : ClientId} {more : List ClientDelivery}
    (sends : Sends server next client more) {lease : AttachmentLease}
    (silent : partsOf lease more = []) (other : ClientId) :
    partsOf lease (next.transports.heard other) =
      partsOf lease (server.transports.heard other) := by
  rw [sends.heard]
  split
  · rw [partsOf_append, silent, List.append_nil]
  · rfl

theorem Sends.others {client other : ClientId} {more : List ClientDelivery}
    (sends : Sends server next client more) (apart : other ≠ client) :
    next.transports.heard other = server.transports.heard other := by
  rw [sends.heard, if_neg apart.symm]

theorem sends_enqueued (server : Server) (client : ClientId) (delivery : ClientDelivery)
    (thread : Nat) (handler : Handler) :
    ((server.transports.tryEnqueue client delivery).1 = true ∧
      Sends server ((server.setTransports
        (server.transports.tryEnqueue client delivery).2).goto thread handler) client [delivery]) ∨
    ((server.transports.tryEnqueue client delivery).1 = false ∧
      Sends server ((server.setTransports
        (server.transports.tryEnqueue client delivery).2).goto thread handler) client []) := by
  rcases Transports.tryEnqueue_cases server.transports client delivery with
    ⟨refused, same⟩ | ⟨accepted, -, queued⟩
  · refine .inr ⟨refused, rfl, rfl, fun other => ?_, fun other => Transports.isActive_tryEnqueue other,
      fun other => Transports.contains_tryEnqueue other⟩
    rw [List.append_nil, ite_self]
    exact same other
  · exact .inl ⟨accepted, rfl, rfl, queued, fun other => Transports.isActive_tryEnqueue other,
      fun other => Transports.contains_tryEnqueue other⟩

theorem Followed.pass (followed : Followed server past) {thread : Nat} {pane : Pane}
    {owner : AttachmentOwner} {target : ReplayTarget} {targets : List ReplayTarget}
    {more : List ClientDelivery} (replaying : Replaying server ref (target :: targets) pane owner)
    (sends : Sends server next target.client more)
    (handlers : ∃ conn, next.handlers = server.handlers.set thread (.replaying conn ref targets))
    (silent : ∀ lease, lease ≠ owner.lease → partsOf lease more = [])
    (sound : Receiver.Sound (Traced past owner.lease)
      (partsOf owner.lease (next.transports.heard target.client)))
    (current : ∀ receiver, next.received target.client owner.lease = some receiver →
      receiver.Live → server.transports.isActive target.client = true →
      receiver.CaughtUp (outputOf past ref) ∧ owner.client = target.client) :
    Advances server next past thread ref pane owner target targets where
  panes := sends.panes
  state := sends.state
  handlers := handlers
  active := sends.active
  known := sends.known
  parts lease apart := sends.parts (silent lease apart)
  others client apart := sends.others apart
  sound := sound
  current receiver has live active := (current receiver has live active).imp id .inl
  hands one member := replaying.hands one (List.mem_cons_of_mem _ member)
  first one head := by
    obtain ⟨chunks, whole, parts⟩ := replaying.rest one (List.mem_of_head? head)
    obtain ⟨receiver, has⟩ : ∃ receiver, next.received one.client owner.lease = some receiver := by
      by_cases told : one.client = target.client
      · obtain ⟨receiver, has, -⟩ := sound.all
        exact ⟨receiver, told ▸ has⟩
      · rw [received_same (congrArg _ (sends.others told))]
        exact followed.streams.receives one.client owner.lease
    exact ⟨receiver, has, parts ▸ .before whole⟩
  rest one member := replaying.rest one (List.mem_of_mem_tail member)

theorem Followed.hand (followed : Followed server past) (run : daemon.Reaches server past)
    {thread : Nat} {asking conn : Connection} {pane : Pane} {owner : AttachmentOwner}
    {target : ReplayTarget} {targets : List ReplayTarget} {delivery : ClientDelivery}
    {rest : List ClientDelivery}
    (found : server.handlers[thread]? = some (.replaying asking ref (target :: targets)))
    (replaying : Replaying server ref (target :: targets) pane owner)
    (ahead : target.deliveries = delivery :: rest)
    (sends : Sends server next target.client [delivery])
    (handlers : next.handlers = server.handlers.set thread
      (.replaying conn ref ({ target with deliveries := rest } :: targets))) :
    Advances server next past thread ref pane owner target
      ({ target with deliveries := rest } :: targets) := by
  have owned := owned_of_reaches run
  have held : server.ownerOf ref = some owner := (ownerOf_found replaying.found).trans replaying.owned
  have hands := replaying.hands target List.mem_cons_self
  have split (lease : AttachmentLease) : partsOf lease target.deliveries =
      partsOf lease [delivery] ++ partsOf lease rest := by
    rw [ahead]
    exact partsOf_append lease [delivery] rest
  have silent {lease : AttachmentLease} (apart : lease ≠ owner.lease) :
      partsOf lease [delivery] = [] ∧ partsOf lease rest = [] :=
    List.append_eq_nil_iff.mp ((split lease).symm.trans (hands.others lease apart))
  have here : next.handlers[thread]? =
      some (.replaying conn ref ({ target with deliveries := rest } :: targets)) := by
    rw [handlers, List.getElem?_set_self (List.getElem?_eq_some_iff.mp found).1]
  -- Another waiter than the one the lease is bound to is told of it once it has everything.
  have leaves (apart : owner.client ≠ target.client)
      (handed : ({ target with deliveries := rest } : ReplayTarget).handedOver = true) :
      next.Leaving target.client ref := by
    refine ⟨thread, conn, _, targets, here, rfl, ?_, handed⟩
    show target.displaced ≠ none
    rw [hands.displaced, if_neg apart.symm]
    exact Option.some_ne_none _
  have queued : next.transports.heard target.client =
      server.transports.heard target.client ++ [delivery] := by
    rw [sends.heard, if_pos rfl]
  obtain ⟨receiver, had, awaits⟩ := replaying.first target rfl
  have sound := followed.streams.sound target.client owner.lease
  -- What the waiter has next, and how much of the handover it still awaits.
  obtain ⟨now, has, awaiting, traced, current⟩ : ∃ now,
      next.received target.client owner.lease = some now ∧
      Receiver.Awaits pane.state.historyStart.get pane.state.rawHistory.contents now
        (partsOf owner.lease rest) ∧
      Receiver.Sound (Traced past owner.lease)
        (partsOf owner.lease (next.transports.heard target.client)) ∧
      (now.Live → server.transports.isActive target.client = true →
        now.CaughtUp (outputOf past ref) ∧
          (owner.client = target.client ∨ next.Leaving target.client ref)) := by
    rcases partsOf_one owner.lease delivery with none | ⟨part, single⟩
    · refine ⟨receiver, ?_, ?_, ?_, fun live active => ?_⟩
      · exact (received_same (sends.parts none target.client)).trans had
      · rwa [split, none] at awaits
      · rwa [sends.parts none]
      · obtain ⟨caught, owns | leaving⟩ :=
          followed.streams.current target.client receiver ref owner held had live active
        · exact ⟨caught, .inl owns⟩
        · obtain ⟨place, who, head, waiting, there, -, displaced, handed⟩ := leaving
          obtain rfl := followed.alone place thread _ _ ref there rfl found rfl
          rw [found] at there
          cases there
          refine ⟨caught, .inr ⟨place, conn, _, targets, here, rfl, displaced, ?_⟩⟩
          unfold ReplayTarget.handedOver at handed ⊢
          rw [ahead, List.all_cons, Bool.and_eq_true] at handed
          exact handed.2
    · rw [split, single] at awaits
      obtain ⟨now, took, awaiting, within, last⟩ := awaits.take
      have ends := ((outputKept_of_reaches run).panes ref pane replaying.found).ends
      refine ⟨now, (received_queued queued single had).trans took, awaiting, ?_, fun live active => ?_⟩
      · rw [queued, partsOf_append, single]
        exact sound.snoc had took (.inr ⟨ref, owned.grantedFor held, .inr (within _ ends)⟩)
      · obtain ⟨rfl, nothing⟩ := last live
        refine ⟨ends, ?_⟩
        by_cases mine : owner.client = target.client
        · exact .inl mine
        · refine .inr (leaves mine (handedOver_of_silent fun lease => ?_))
          by_cases same : lease = owner.lease
          · exact same ▸ nothing
          · exact (silent same).2
  exact
    { panes := sends.panes, state := sends.state, handlers := ⟨conn, handlers⟩
      active := sends.active, known := sends.known
      parts := fun lease apart => sends.parts (silent apart).1
      others := fun client apart => sends.others apart
      sound := traced
      current := fun other also live active => by
        cases Option.some.inj (also.symm.trans has)
        exact current live active
      hands := fun one member => by
        rcases List.mem_cons.mp member with rfl | later
        · exact ⟨fun lease apart => (silent apart).2, hands.displaced⟩
        · exact replaying.hands one (List.mem_cons_of_mem _ later)
      first := fun one head => by
        cases head
        exact ⟨now, has, awaiting⟩
      rest := fun one member => replaying.rest one member }

end

/-! ## Runs -/

/-- What the thread sends the waiter next. -/
def ReplayTarget.next (target : ReplayTarget) : Option ClientDelivery :=
  match target.deliveries with
  | delivery :: _ => some delivery
  | [] => target.displaced.map .message

/-- A waiter that was handed everything although the lease is bound to another one has room for
what follows, the notice of it, or is gone. The daemon does not look at whether it was taken. -/
def noticesHeard (server : Server) : Action → Bool
  | .replay thread =>
      match server.handlers[thread]? with
      | some (.replaying _ _ (target :: _)) =>
          !(target.displaced.isSome && target.handedOver) ||
            !server.transports.isActive target.client ||
            target.next.all fun delivery => (server.transports.tryEnqueue target.client delivery).1
      | _ => true
  | _ => true

section
variable {server next : Server} {past events : List Event} {ref : PaneRef}

theorem noticesHeard_replay {thread : Nat} {conn : Connection} {target : ReplayTarget}
    {targets : List ReplayTarget} (heard : noticesHeard server (.replay thread) = true)
    (found : server.handlers[thread]? = some (.replaying conn ref (target :: targets)))
    (displaced : target.displaced ≠ none) (handed : target.handedOver = true)
    (active : server.transports.isActive target.client = true) {delivery : ClientDelivery}
    (ahead : target.next = some delivery) :
    (server.transports.tryEnqueue target.client delivery).1 = true := by
  simp only [noticesHeard, found, Option.isSome_iff_ne_none.mpr displaced, handed, active, ahead,
    Bool.and_self, Bool.not_true, Bool.false_or, Option.all_some] at heard
  exact heard

theorem Followed.replay (followed : Followed server past) (run : daemon.Reaches server past)
    {thread : Nat} (heard : noticesHeard server (.replay thread) = true)
    (stepped : server.replay thread = some (next, events)) : Followed next (past ++ events) := by
  unfold Server.replay at stepped
  split at stepped
  · next conn ref target targets found =>
    obtain ⟨pane, owner, replaying⟩ := followed.replays thread conn ref _ found
    have held : server.ownerOf ref = some owner :=
      (ownerOf_found replaying.found).trans replaying.owned
    have hands := replaying.hands target List.mem_cons_self
    have sound := followed.streams.sound target.client owner.lease
    -- Nobody is passed over who is still to be told that another one has the lease.
    have current (told : target.displaced ≠ none → target.handedOver = true →
          server.transports.isActive target.client = true → False)
        (receiver : Receiver UInt8)
        (has : server.received target.client owner.lease = some receiver) (live : receiver.Live)
        (active : server.transports.isActive target.client = true) :
        receiver.CaughtUp (outputOf past ref) ∧ owner.client = target.client := by
      obtain ⟨caught, owns | leaving⟩ :=
        followed.streams.current target.client receiver ref owner held has live active
      · exact ⟨caught, owns⟩
      · obtain ⟨place, who, head, waiting, there, -, displaced, handed⟩ := leaving
        obtain rfl := followed.alone place thread _ _ ref there rfl found rfl
        rw [found] at there
        cases there
        exact (told displaced handed active).elim
    have passes (middle : Server) (sends : Sends server middle target.client [])
        (handlers : middle.handlers = server.handlers.set thread (.replaying conn ref targets))
        (told : target.displaced ≠ none → target.handedOver = true →
          server.transports.isActive target.client = true → False) :
        Followed middle (past ++ []) := by
      refine followed.advance run found replaying (followed.pass replaying sends ⟨conn, handlers⟩
        (fun _ _ => rfl) ?_ fun receiver has => ?_)
      · rwa [sends.parts rfl]
      · exact current told receiver ((received_same (sends.parts rfl target.client)).symm.trans has)
    have refuses {delivery : ClientDelivery} (ahead : target.next = some delivery)
        (refused : (server.transports.tryEnqueue target.client delivery).1 = false)
        (displaced : target.displaced ≠ none) (handed : target.handedOver = true)
        (active : server.transports.isActive target.client = true) : False := by
      have accepted := noticesHeard_replay heard found displaced handed active ahead
      rw [refused] at accepted
      cases accepted
    split at stepped
    · next delivery rest ahead =>
      have told : some (((server.setTransports
          (server.transports.tryEnqueue target.client delivery).2).goto thread (.replaying conn ref
            (if (server.transports.tryEnqueue target.client delivery).1 = true then
              { target with deliveries := rest } :: targets else targets))), []) =
          some (next, events) := stepped
      cases told
      rcases sends_enqueued server target.client delivery thread (.replaying conn ref
          (if (server.transports.tryEnqueue target.client delivery).1 = true then
            { target with deliveries := rest } :: targets else targets)) with
        ⟨accepted, sends⟩ | ⟨refused, sends⟩
      · rw [if_pos accepted] at sends ⊢
        exact followed.advance run found replaying
          (followed.hand run found replaying ahead sends rfl)
      -- What is left of the handover is dropped with the waiter.
      · refine passes _ sends ?_ (refuses ?_ refused)
        · rw [if_neg (by rw [refused]; exact Bool.false_ne_true)]
          rfl
        · simp only [ReplayTarget.next, ahead]
    · next ahead =>
      cases displaced : target.displaced with
      | none =>
        simp only [displaced, Option.some.injEq, Prod.mk.injEq] at stepped
        obtain ⟨rfl, rfl⟩ := stepped
        refine passes _ ⟨rfl, rfl, fun other => ?_, fun _ => rfl, fun _ => rfl⟩ rfl
          fun told _ _ => told displaced
        rw [List.append_nil, ite_self]
        rfl
      | some notice =>
        have sent : server.send ⟨target.client, notice, false⟩ = server.setTransports
            (server.transports.tryEnqueue target.client (.message notice)).2 := by
          simp [Server.send, Transports.tryDeliver]
        simp only [displaced, sent, Option.some.injEq, Prod.mk.injEq] at stepped
        obtain ⟨rfl, rfl⟩ := stepped
        have revokes : notice = .takenOver pane.state.pane owner.lease := by
          have same := hands.displaced
          rw [displaced] at same
          split at same
          · cases same
          · exact Option.some.inj same
        rcases sends_enqueued server target.client (.message notice) thread
            (.replaying conn ref targets) with ⟨-, sends⟩ | ⟨refused, sends⟩
        · have revoked : partsOf owner.lease [.message notice] = [.revoked] :=
            revokes ▸ partsOf_takenOver pane.state.pane owner.lease
          have queued := sends.heard target.client
          rw [if_pos rfl] at queued
          obtain ⟨receiver, had, -⟩ := sound.all
          refine followed.advance run found replaying (followed.pass replaying sends ⟨conn, rfl⟩
            (fun lease apart => ?_) ?_ fun now has live _ => ?_)
          · rw [revokes]
            exact partsOf_takenOver_other pane.state.pane apart
          · rw [queued, partsOf_append, revoked]
            exact sound.snoc had (take_revoked receiver) (.inl rfl)
          · rw [received_queued queued revoked had, take_revoked] at has
            cases has
            exact live.elim
        · refine passes _ sends rfl (refuses ?_ refused)
          simp only [ReplayTarget.next, ahead, displaced, Option.map_some]
  · next conn ref found =>
    obtain ⟨pane, present, told⟩ := Option.bind_eq_some_iff.mp stepped
    cases told
    exact followed.unlock found present
  · cases stepped

end

end Mult.Daemon
