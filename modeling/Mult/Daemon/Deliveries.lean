import Mult.Foundation.Receivers
import Mult.Daemon.StoredAnswers

/-! What the daemon queues for a connection: the parts of a lease's output, and everything else.

Only attaching, replaying and publishing output queue parts; all other steps queue plain messages.
-/

set_option autoImplicit false

namespace Mult.Daemon
open Foundation Protocol
open Std (TreeMap)

def streamPart (lease : AttachmentLease) : ServerMessage → Option (Portion UInt8)
  | .replayBegin _ _ other first _ _ => if other = lease then some (.begins first.get) else none
  | .replayChunk _ _ other sequence bytes =>
      if other = lease then some (.kept sequence.get bytes) else none
  | .replayEnd _ _ other watermark => if other = lease then some (.ends watermark.get) else none
  | .ptyOutput _ other sequence bytes =>
      if other = lease then some (.comes sequence.get bytes) else none
  | .takenOver _ other => if other = lease then some .revoked else none
  | _ => none

def partsOf (lease : AttachmentLease) (deliveries : List ClientDelivery) : List (Portion UInt8) :=
  (deliveries.filterMap deliveryMessage).filterMap (streamPart lease)

@[simp] theorem partsOf_nil (lease : AttachmentLease) : partsOf lease [] = [] := rfl

theorem partsOf_cons (lease : AttachmentLease) (delivery : ClientDelivery)
    (rest : List ClientDelivery) : partsOf lease (delivery :: rest) =
      ((deliveryMessage delivery).bind (streamPart lease)).toList ++ partsOf lease rest := by
  cases sent : deliveryMessage delivery with
  | none => simp [partsOf, sent]
  | some message =>
    cases part : streamPart lease message with
    | none => simp [partsOf, sent, part]
    | some portion => simp [partsOf, sent, part]

theorem partsOf_append (lease : AttachmentLease) (first second : List ClientDelivery) :
    partsOf lease (first ++ second) = partsOf lease first ++ partsOf lease second := by
  simp [partsOf]

/-- A message that is no part of any output. -/
def Plain (message : ServerMessage) : Prop := ∀ lease, streamPart lease message = none

def AllPlain (deliveries : List ClientDelivery) : Prop := ∀ lease, partsOf lease deliveries = []

theorem AllPlain.append {first second : List ClientDelivery} (former : AllPlain first)
    (latter : AllPlain second) : AllPlain (first ++ second) := by
  intro lease
  rw [partsOf_append, former lease, latter lease]
  rfl

theorem allPlain_nil : AllPlain [] := fun _ => rfl

theorem Plain.single {message : ServerMessage} (plain : Plain message) :
    AllPlain [.message message] := by
  intro lease
  simp [partsOf, deliveryMessage, plain lease]

/-! ## Queues -/

namespace Transports

/-- Everything the queue of a connection ever accepted, oldest first. -/
def heard (transports : Transports) (client : ClientId) : List ClientDelivery :=
  (transports[client]?).elim [] Transport.accepted

variable {transports : Transports} {client : ClientId} {delivery : ClientDelivery}

theorem trySend_cases (transport : Transport) (delivery : ClientDelivery) :
    transport.trySend delivery = (false, transport) ∨
      transport.trySend delivery =
        (true, { transport with accepted := transport.accepted ++ [delivery] }) := by
  unfold Transport.trySend
  repeat' split
  all_goals simp

/-- A delivery is refused, or goes to the end of the queue of a connection that is active. -/
theorem tryEnqueue_cases (transports : Transports) (client : ClientId)
    (delivery : ClientDelivery) :
    ((transports.tryEnqueue client delivery).1 = false ∧
      (∀ other, heard (transports.tryEnqueue client delivery).2 other = heard transports other)) ∨
    ((transports.tryEnqueue client delivery).1 = true ∧ transports.isActive client = true ∧
      ∀ other, heard (transports.tryEnqueue client delivery).2 other =
        if client = other then heard transports other ++ [delivery] else heard transports other) := by
  unfold tryEnqueue heard isActive
  cases present : transports[client]? with
  | none => simp
  | some transport =>
    simp only [Transport.tryEnqueue]
    split
    · next active =>
      rcases trySend_cases transport delivery with refused | sent
      · refine .inl ⟨by rw [refused], fun other => ?_⟩
        rw [refused, TreeMap.getElem?_insert]
        split
        · next same => rw [← Std.LawfulEqCmp.compare_eq_iff_eq.mp same, present]
        · rfl
      · refine .inr ⟨by rw [sent], by simpa using active, fun other => ?_⟩
        rw [sent, TreeMap.getElem?_insert]
        simp only [Std.LawfulEqCmp.compare_eq_iff_eq]
        split
        · next same => rw [← same, present]; rfl
        · rfl
    · refine .inl ⟨rfl, fun other => ?_⟩
      rw [TreeMap.getElem?_insert]
      split
      · next same => rw [← Std.LawfulEqCmp.compare_eq_iff_eq.mp same, present]
      · rfl

theorem isActive_tryEnqueue (other : ClientId) :
    isActive (transports.tryEnqueue client delivery).2 other = isActive transports other := by
  unfold tryEnqueue isActive
  cases present : transports[client]? with
  | none => rfl
  | some transport =>
    simp only
    rw [TreeMap.getElem?_insert]
    split
    · next same =>
      rw [← Std.LawfulEqCmp.compare_eq_iff_eq.mp same, present]
      simp only [Transport.tryEnqueue, Option.any_some]
      split
      · rcases trySend_cases transport delivery with refused | sent
        · rw [refused]
        · rw [sent]
      · rfl
    · rfl

theorem contains_tryEnqueue (other : ClientId) :
    (transports.tryEnqueue client delivery).2.contains other = transports.contains other := by
  unfold tryEnqueue
  cases present : transports[client]? with
  | none => rfl
  | some transport =>
    simp only
    rw [TreeMap.contains_insert]
    by_cases same : client = other
    · subst same
      simp [TreeMap.contains_eq_isSome_getElem?, present]
    · simp [same]

theorem heard_update {change : Transport → Transport} {more : List ClientDelivery}
    (other : ClientId) (changed : ∀ transport, transports[client]? = some transport →
      (change transport).accepted = transport.accepted ++ more) :
    heard (transports.update client change) other =
      if client = other ∧ transports.contains client then heard transports other ++ more
      else heard transports other := by
  unfold heard update
  rw [TreeMap.getElem?_modify]
  by_cases same : client = other
  · subst same
    cases present : transports[client]? with
    | none => simp [TreeMap.contains_eq_isSome_getElem?, present]
    | some transport => simp [TreeMap.contains_eq_isSome_getElem?, present, changed _ present]
  · simp [same]

theorem isActive_disconnect (other : ClientId)
    (active : isActive (transports.disconnect client) other = true) :
    isActive transports other = true ∧ client ≠ other := by
  unfold isActive disconnect update at *
  rw [TreeMap.getElem?_modify] at active
  by_cases same : client = other
  · subst same
    cases present : transports[client]? with
    | none => simp [present] at active
    | some transport => simp [present, Transport.disconnect] at active
  · refine ⟨?_, same⟩
    simpa [same] using active

theorem heard_disconnect (other : ClientId) :
    heard (transports.disconnect client) other = heard transports other := by
  have still := @heard_update transports client Transport.disconnect [] other
    fun transport _ => (List.append_nil _).symm
  simpa [disconnect] using still

end Transports

/-- From one state of the connections to the other, nothing but plain deliveries is queued, and
a connection that is new has been sent nothing else. -/
structure OnlyPlain (before after : Transports) : Prop where
  heard : ∀ client, ∃ more, after.heard client = before.heard client ++ more ∧ AllPlain more
  active : ∀ client, after.isActive client = true →
    before.isActive client = true ∨ AllPlain (after.heard client)

namespace OnlyPlain

variable {before middle after : Transports} {client : ClientId}

theorem refl (transports : Transports) : OnlyPlain transports transports :=
  ⟨fun _ => ⟨[], (List.append_nil _).symm, allPlain_nil⟩, fun _ active => .inl active⟩

theorem trans (earlier : OnlyPlain before middle) (later : OnlyPlain middle after) :
    OnlyPlain before after := by
  refine ⟨fun client => ?_, fun client active => ?_⟩
  · obtain ⟨first, told, plain⟩ := earlier.heard client
    obtain ⟨second, more, also⟩ := later.heard client
    exact ⟨first ++ second, by rw [more, told, List.append_assoc], plain.append also⟩
  · rcases later.active client active with was | plain
    · rcases earlier.active client was with first | plain
      · exact .inl first
      · obtain ⟨more, told, also⟩ := later.heard client
        exact .inr (told ▸ plain.append also)
    · exact .inr plain

theorem of_heard (heard : ∀ client, after.heard client = before.heard client)
    (active : ∀ client, after.isActive client = true → before.isActive client = true) :
    OnlyPlain before after :=
  ⟨fun client => ⟨[], by rw [heard, List.append_nil], allPlain_nil⟩,
    fun client now => .inl (active client now)⟩

theorem tryEnqueue (transports : Transports) (client : ClientId) {delivery : ClientDelivery}
    (plain : AllPlain [delivery]) :
    OnlyPlain transports (transports.tryEnqueue client delivery).2 := by
  refine ⟨fun other => ?_, fun other active => .inl ?_⟩
  · rcases Transports.tryEnqueue_cases transports client delivery with
      ⟨-, same⟩ | ⟨-, -, queued⟩
    · exact ⟨[], by rw [same, List.append_nil], allPlain_nil⟩
    · rw [queued]
      split
      · exact ⟨[delivery], rfl, plain⟩
      · exact ⟨[], (List.append_nil _).symm, allPlain_nil⟩
  · rwa [Transports.isActive_tryEnqueue] at active

theorem disconnect (transports : Transports) (client : ClientId) :
    OnlyPlain transports (transports.disconnect client) :=
  .of_heard (fun other => Transports.heard_disconnect other)
    fun other active => (Transports.isActive_disconnect other active).1

theorem deliverOrDisconnect (transports : Transports) (client : ClientId)
    {delivery : ClientDelivery} (plain : AllPlain [delivery]) :
    OnlyPlain transports (transports.deliverOrDisconnect client delivery) := by
  unfold Transports.deliverOrDisconnect
  have sent := tryEnqueue transports client plain
  simp only
  split
  · exact sent
  · exact sent.trans (disconnect _ client)

end OnlyPlain

/-! ## What is still to be sent -/

/-- The messages a thread is to send, or to answer a request with. -/
def Handler.messages : Handler → List ServerMessage
  | .delivering _ outgoing => outgoing.map Outgoing.message
  | .completing _ _ response => [response]
  | _ => []

def Reader.outgoing : Reader → List Outgoing
  | .notifying outgoing => outgoing
  | _ => []

def Waiter.outgoing : Waiter → List Outgoing
  | .reporting outgoing | .notifying outgoing => outgoing
  | _ => []

def Termination.outgoing : Termination → List Outgoing
  | .reporting outgoing => outgoing
  | _ => []

def Handler.Plain (handler : Handler) : Prop := ∀ message ∈ handler.messages, Daemon.Plain message

def PlainAll (outgoing : List Outgoing) : Prop := ∀ one ∈ outgoing, Plain one.message

structure Pane.Plain (pane : Pane) : Prop where
  reader : PlainAll pane.reader.outgoing
  waiter : PlainAll pane.waiter.outgoing
  drivers : ∀ driver ∈ pane.drivers, PlainAll driver.phase.outgoing

/-- No thread has a part of an output to send but one that replays, and no such part is stored
as the answer to a request. -/
structure Tidy (server : Server) : Prop where
  handlers : ∀ handler ∈ server.handlers, handler.Plain
  panes : ∀ pane ∈ server.panes, pane.Plain
  stored : ∀ scope id response, (server.state.scopeOf scope).responseOf id = some response →
    Plain response
  clients : ∀ client, server.transports.contains client = true →
    client < server.state.nextClientId

def Event.speaks : Event → Bool
  | .answered _ _ | .output _ _ _ => true
  | _ => false

theorem forall_mem_set {Entry : Type} {entries : List Entry} {place : Nat} {value : Entry}
    {property : Entry → Prop} (all : ∀ entry ∈ entries, property entry) (new : property value) :
    ∀ entry ∈ entries.set place value, property entry := by
  intro entry member
  rcases List.mem_or_eq_of_mem_set member with old | rfl
  · exact all entry old
  · exact new

/-- A step that sends and publishes no part of an output and lets every replay be. -/
structure Tame (server next : Server) (events : List Event) : Prop where
  handlers : ∀ handler ∈ next.handlers, handler.Plain
  replays : ∀ (thread : Nat) (handler : Handler), handler.replays ≠ none →
    (next.handlers[thread]? = some handler ↔ server.handlers[thread]? = some handler)
  panes : ∀ pane ∈ next.panes, pane.Plain
  answers : ∀ key response, .answered key response ∈ events → Plain response
  unpublished : ∀ ref sequence bytes, .output ref sequence bytes ∉ events
  transports : OnlyPlain server.transports next.transports
  clients : ∀ client, next.transports.contains client = true → client < next.state.nextClientId

theorem PlainAll.map {clients : List ClientId} {message : ServerMessage} {disconnect : Bool}
    (plain : Plain message) : PlainAll (toWaiters clients message disconnect) := by
  intro one member
  obtain ⟨client, -, rfl⟩ := List.mem_map.mp member
  exact plain

theorem PlainAll.delivering {conn : Connection} {outgoing : List Outgoing}
    (plain : PlainAll outgoing) : (Handler.delivering conn outgoing).Plain := by
  intro message member
  obtain ⟨one, there, rfl⟩ := List.mem_map.mp member
  exact plain one there

theorem Pane.Plain.setState {pane : Pane} (plain : pane.Plain) (state : PaneState) :
    Pane.Plain { pane with state } :=
  ⟨plain.reader, plain.waiter, plain.drivers⟩

theorem Handler.plain_of_nil {handler : Handler} (none : handler.messages = []) :
    handler.Plain := by
  intro message member
  rw [none] at member
  cases member

namespace Tame

variable {server middle next : Server} {events : List Event} {thread : Nat} {ref : PaneRef}

theorem refl (tidy : Tidy server) : Tame server server [] where
  handlers := tidy.handlers
  replays _ _ _ := Iff.rfl
  panes := tidy.panes
  answers _ _ member := absurd member List.not_mem_nil
  unpublished _ _ _ := List.not_mem_nil
  transports := .refl _
  clients := tidy.clients

theorem reporting (tame : Tame server middle []) {more : List Event}
    (answers : ∀ event ∈ more, event.speaks = true →
      ∃ key response, event = .answered key response ∧ Plain response) :
    Tame server middle more := by
  refine { tame with answers := fun key response member => ?_, unpublished := ?_ }
  · obtain ⟨_, _, same, plain⟩ := answers _ member rfl
    cases same
    exact plain
  · intro ref sequence bytes member
    obtain ⟨_, _, same, -⟩ := answers _ member rfl
    cases same

theorem silent (tame : Tame server middle []) {more : List Event}
    (silent : ∀ event ∈ more, event.speaks = false) : Tame server middle more :=
  tame.reporting fun event member speaks => absurd (silent event member) (by simp [speaks])

theorem setState (tame : Tame server middle events) {state : ServerState}
    (counter : middle.state.nextClientId ≤ state.nextClientId) :
    Tame server (middle.setState state) events :=
  { tame with clients := fun client known => (tame.clients client known).trans_le counter }

theorem setPane (tame : Tame server middle events) {pane : Pane} (plain : pane.Plain) :
    Tame server (middle.setPane ref pane) events :=
  { tame with panes := forall_mem_set tame.panes plain }

theorem goto (tame : Tame server middle events) {before handler : Handler}
    (found : server.handlers[thread]? = some before) (same : middle.handlers = server.handlers)
    (passed : before.replays = none) (other : handler.replays = none) (plain : handler.Plain) :
    Tame server (middle.goto thread handler) events := by
  refine { tame with
    handlers := forall_mem_set tame.handlers plain, replays := fun place one replaying => ?_ }
  · show (middle.handlers.set thread handler)[place]? = some one ↔ _
    rw [same, List.getElem?_set]
    split
    · next here =>
      subst here
      rw [found, if_pos (List.getElem?_eq_some_iff.mp found).1]
      constructor
      · rintro ⟨⟩
        exact absurd other replaying
      · rintro ⟨⟩
        exact absurd passed replaying
    · rfl

theorem setTransports (tame : Tame server middle events) {transports : Transports}
    (plain : OnlyPlain middle.transports transports)
    (known : ∀ client, transports.contains client = true → middle.transports.contains client = true) :
    Tame server (middle.setTransports transports) events :=
  { tame with
    transports := tame.transports.trans plain
    clients := fun client there => tame.clients client (known client there) }

theorem contains_disconnect {transports : Transports} {client other : ClientId}
    (known : (transports.disconnect client).contains other = true) :
    transports.contains other = true := by
  unfold Transports.disconnect Transports.update at known
  rwa [TreeMap.contains_modify] at known

theorem tryDeliver (tame : Tame server middle events) {client : ClientId}
    {message : ServerMessage} (plain : Plain message) : Tame server
      (middle.setTransports (middle.transports.tryDeliver client message).2) events := by
  refine tame.setTransports (.tryEnqueue _ _ plain.single) fun other known => ?_
  rwa [Transports.tryDeliver, Transports.contains_tryEnqueue] at known

theorem send (tame : Tame server middle events) {outgoing : Outgoing}
    (plain : Plain outgoing.message) : Tame server (middle.send outgoing) events := by
  unfold Server.send Transports.tryDeliver
  have sent := OnlyPlain.tryEnqueue middle.transports outgoing.client plain.single
  simp only
  split
  · refine tame.setTransports (sent.trans (.disconnect _ _)) fun client known => ?_
    have known := contains_disconnect known
    rwa [Transports.contains_tryEnqueue] at known
  · refine tame.setTransports sent fun client known => ?_
    rwa [Transports.contains_tryEnqueue] at known

theorem deliverOrDisconnect (tame : Tame server middle events) {client : ClientId}
    {message : ServerMessage} (plain : Plain message) : Tame server
      (middle.setTransports (middle.transports.deliverOrDisconnect client (.message message)))
      events := by
  refine tame.setTransports (.deliverOrDisconnect _ _ plain.single) fun other known => ?_
  unfold Transports.deliverOrDisconnect at known
  simp only at known
  split at known
  · rwa [Transports.contains_tryEnqueue] at known
  · have known := contains_disconnect known
    rwa [Transports.contains_tryEnqueue] at known

end Tame

end Mult.Daemon
