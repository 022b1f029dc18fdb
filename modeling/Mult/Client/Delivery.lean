import Mult.Client.Requests
import Mult.Foundation.Machine
import Mult.Foundation.Traces
import Mult.Protocol.Framing

/-! Frames that are never sent again: what is reported of each, byte by byte, and what becomes of
the socket that one of them was left half on.
-/

set_option autoImplicit false

namespace Mult.Client
open Foundation Protocol Storage

/-- A writer, and whether any bytes were ever handed to it. -/
structure AttemptTrackingWriter where
  inner : Writer
  attempted : Bool

namespace AttemptTrackingWriter

/-- `write_all`: the first turn of its loop is taken where there are bytes. -/
def writeAll (bytes : Bytes) (tracked : AttemptTrackingWriter) :
    Except IoError Unit × AttemptTrackingWriter :=
  let (result, inner) := tracked.inner.writeAll writesNothing bytes
  (result, ⟨inner, tracked.attempted || !bytes.isEmpty⟩)

def flush (tracked : AttemptTrackingWriter) : Except IoError Unit × AttemptTrackingWriter :=
  let (result, inner) := tracked.inner.flush
  (result, { tracked with inner })

end AttemptTrackingWriter

section
variable {T : Type} (codec : Codec T)

/-- `write_message` to such a writer. -/
def writeTracked (message : T) (tracked : AttemptTrackingWriter) :
    Except IoError Unit × AttemptTrackingWriter :=
  match codec.toAllocvec message with
  | .error error => (.error (.invalidData error), tracked)
  | .ok payload =>
    if payload.length > maxMessageBytes then
      (.error (messageTooLarge .invalidInput payload.length), tracked)
    else if u32Bound ≤ payload.length then (.error ⟨.invalidInput, "message too large"⟩, tracked)
    else
      match tracked.writeAll (toBeBytes payload.length) with
      | (.error error, tracked) => (.error error, tracked)
      | (.ok (), tracked) =>
        match tracked.writeAll payload with
        | (.error error, tracked) => (.error error, tracked)
        | (.ok (), tracked) => tracked.flush

/-- A failure before any byte was attempted is none of those that tell of a lost connection. -/
def unsentError (error : IoError) : PtyError := .io .other error.text

def writeNonReplayableFrame (message : T) (operation : PtyDeliveryOperation) (pane : PaneId)
    (writer : Writer) : Except PtyError Unit × Writer :=
  match writeTracked codec message ⟨writer, false⟩ with
  | (.ok (), tracked) => (.ok (), tracked.inner)
  | (.error error, tracked) =>
    if !tracked.attempted then (.error (unsentError error), tracked.inner)
    else (.error (.deliveryUncertain operation pane), tracked.inner)

/-- The socket in use, and those given up, oldest first. -/
structure Sockets where
  connection : Option Writer
  abandoned : List Writer

def Sockets.disconnect (sockets : Sockets) : Sockets :=
  ⟨none, sockets.abandoned ++ sockets.connection.toList⟩

def notConnected : PtyError := .offline "not connected to mult-server"

namespace Sockets

def writeNonReplayable (message : T) (operation : PtyDeliveryOperation) (pane : PaneId)
    (sockets : Sockets) : Except PtyError Unit × Sockets :=
  match sockets.connection with
  | none => (.error notConnected, sockets)
  | some writer =>
    let (result, writer) := writeNonReplayableFrame codec message operation pane writer
    let sockets := { sockets with connection := some writer }
    match result with
    | .ok () => (.ok (), sockets)
    | .error error =>
      if error.delivery.isSome then (.error error, sockets.disconnect) else (.error error, sockets)

/-- Any other frame. -/
def write (message : T) (sockets : Sockets) : Except PtyError Unit × Sockets :=
  match sockets.connection with
  | none => (.error notConnected, sockets)
  | some writer =>
    let (result, writer) := writeMessage codec message writer
    (result.mapError unsentError, { sockets with connection := some writer })

end Sockets

inductive SocketStep (T : Type) where
  /-- A new socket, with what the writes and flushes to come come to. -/
  | connect (writes : List (Acceptance IoError)) (flushes : List (Except IoError Unit))
  | send (message : T) (operation : PtyDeliveryOperation) (pane : PaneId)
  | request (message : T)
  | disconnect

/-- What was reported of a frame, with what was taken of it and by which socket, and whether that
socket's next flush succeeds. -/
structure Delivery (T : Type) where
  message : T
  /-- How it was to be delivered, for a frame that is never sent again. -/
  once : Option (PtyDeliveryOperation × PaneId)
  socket : Option Nat
  taken : Bytes
  flushed : Bool
  result : Except PtyError Unit

namespace Sockets

/-- All sockets there ever were, oldest first. -/
def opened (sockets : Sockets) : List Writer := sockets.abandoned ++ sockets.connection.toList

/-- The record of a frame, from the sockets before and after. -/
def delivery (sockets : Sockets) (message : T) (once : Option (PtyDeliveryOperation × PaneId))
    (ended : Except PtyError Unit × Sockets) : Delivery T where
  message
  once
  socket := sockets.connection.map fun _ => sockets.abandoned.length
  taken := (ended.2.opened.getD sockets.abandoned.length ⟨[], [], []⟩).written.drop
    (sockets.connection.elim 0 fun writer => writer.written.length)
  flushed := sockets.connection.any fun writer => (writer.flushes.head?.getD (.ok ())).isOk
  result := ended.1

def step (sockets : Sockets) : SocketStep T → Sockets × List (Delivery T)
  | .connect writes flushes => (⟨some ⟨[], writes, flushes⟩, sockets.opened⟩, [])
  | .send message operation pane =>
      let ended := sockets.writeNonReplayable codec message operation pane
      (ended.2, [sockets.delivery message (some (operation, pane)) ended])
  | .request message =>
      let ended := sockets.write codec message
      (ended.2, [sockets.delivery message none ended])
  | .disconnect => (sockets.disconnect, [])

end Sockets

def socketMachine : Machine Sockets (SocketStep T) (Delivery T) where
  start sockets := sockets.connection = none ∧ sockets.abandoned = []
  step sockets action := some (sockets.step codec action)

/-- What is reported of a frame that is never sent again is what became of it. -/
def Delivery.Truthful (delivery : Delivery T) (operation : PtyDeliveryOperation) (pane : PaneId) :
    Prop :=
  match delivery.result with
  | .ok () => codec.frame? delivery.message = some delivery.taken ∧ delivery.flushed = true
  | .error (.deliveryUncertain told place) =>
      told = operation ∧ place = pane ∧
        ∃ rest, codec.frame? delivery.message = some (delivery.taken ++ rest)
  | .error _ =>
      delivery.taken = [] ∧ (delivery.socket = none ∨ codec.frame? delivery.message = none)

def Delivery.uncertain (delivery : Delivery T) : Bool :=
  match delivery.result with
  | .error error => error.delivery.isSome
  | .ok () => false

/-- Every frame is reported truthfully, its bytes are on one socket only, and none follows one whose
delivery is uncertain. -/
structure Accounted (sockets : Sockets) (past : List (Delivery T)) : Prop where
  reported : ∀ delivery ∈ past, ∀ operation pane, delivery.once = some (operation, pane) →
    delivery.Truthful codec operation pane
  written : ∀ index socket, sockets.opened[index]? = some socket →
    socket.written = (past.filter fun delivery => delivery.socket = some index).flatMap
      Delivery.taken
  last : ∀ before delivery after, past = before ++ delivery :: after →
    delivery.uncertain = true → ∀ later ∈ after, later.socket ≠ delivery.socket

/-- The accounts of a run, with what it takes to go on: every frame went to a socket there was, and
one whose delivery is uncertain to a socket that is given up. -/
structure Kept (sockets : Sockets) (past : List (Delivery T)) : Prop extends
    Accounted codec sockets past where
  placed : ∀ delivery ∈ past, ∀ index, delivery.socket = some index →
    index < sockets.opened.length
  gone : ∀ delivery ∈ past, delivery.uncertain = true →
    ∃ index, delivery.socket = some index ∧ index < sockets.abandoned.length

/-! ## What is reported of it -/

variable {codec}

/-- The flag says whether the message has a frame at all; but for that, this is `writeMessage`. -/
theorem writeTracked_eq (message : T) (writer : Writer) :
    writeTracked codec message ⟨writer, false⟩ =
      ((writeMessage codec message writer).1,
        ⟨(writeMessage codec message writer).2, (codec.frame? message).isSome⟩) := by
  unfold writeTracked writeMessage Codec.frame?
  cases codec.toAllocvec message with
  | error error => rfl
  | ok payload =>
    dsimp only
    by_cases beyond : payload.length > maxMessageBytes
    · rw [if_pos beyond, if_pos beyond, if_neg (Nat.not_le.mpr beyond)]
      rfl
    · have within := Nat.not_lt.mp beyond
      have small : payload.length < u32Bound := Nat.lt_of_le_of_lt within maxMessageBytes_lt
      rw [if_neg beyond, if_neg beyond, if_neg (Nat.not_le.mpr small),
        if_neg (Nat.not_le.mpr small), if_pos within]
      unfold AttemptTrackingWriter.writeAll AttemptTrackingWriter.flush
      dsimp only
      rcases writer.writeAll writesNothing (toBeBytes payload.length) with ⟨_ | _, middle⟩
      · rfl
      · dsimp only
        rcases middle.writeAll writesNothing payload with ⟨_ | _, after⟩ <;> rfl

/-- A frame leaves what it was taken of at the end of its socket, which goes where its delivery is
uncertain. -/
def Sockets.Took (sockets : Sockets) (delivery : Delivery T) (next : Sockets) : Prop :=
  match sockets.connection with
  | none => delivery.socket = none ∧ delivery.uncertain = false ∧ next = sockets
  | some writer =>
      delivery.socket = some sockets.abandoned.length ∧
        ∃ after : Writer, next.opened = sockets.abandoned ++ [after] ∧
          after.written = writer.written ++ delivery.taken ∧
          sockets.abandoned.length ≤ next.abandoned.length ∧
          (delivery.uncertain = true → sockets.abandoned.length < next.abandoned.length)

theorem delivery_taken {sockets : Sockets} {writer after : Writer}
    (connected : sockets.connection = some writer) {message : T}
    {once : Option (PtyDeliveryOperation × PaneId)} {ended : Except PtyError Unit × Sockets}
    (opened : ended.2.opened = sockets.abandoned ++ [after]) {taken : Bytes}
    (written : after.written = writer.written ++ taken) :
    (sockets.delivery message once ended).taken = taken := by
  rw [Sockets.delivery, opened, connected]
  simp [written]

theorem writeNonReplayable_eq {sockets : Sockets} {writer : Writer}
    (connected : sockets.connection = some writer) (message : T)
    (operation : PtyDeliveryOperation) (pane : PaneId) :
    sockets.writeNonReplayable codec message operation pane =
      let written := writeMessage codec message writer
      match written.1 with
      | .ok () => (.ok (), { sockets with connection := some written.2 })
      | .error error =>
        if (codec.frame? message).isSome then
          (.error (.deliveryUncertain operation pane), ⟨none, sockets.abandoned ++ [written.2]⟩)
        else (.error (unsentError error), { sockets with connection := some written.2 }) := by
  unfold Sockets.writeNonReplayable writeNonReplayableFrame
  rw [connected]
  dsimp only
  rw [writeTracked_eq]
  cases (writeMessage codec message writer).1 with
  | ok done => rfl
  | error error => cases (codec.frame? message).isSome <;> rfl

theorem send_took (sockets : Sockets) (message : T) (operation : PtyDeliveryOperation)
    (pane : PaneId) :
    let ended := sockets.writeNonReplayable codec message operation pane
    let delivery := sockets.delivery message (some (operation, pane)) ended
    delivery.Truthful codec operation pane ∧ sockets.Took delivery ended.2 := by
  intro ended delivery
  cases connected : sockets.connection with
  | none =>
    have same : ended = (.error notConnected, sockets) := by
      simp only [ended, Sockets.writeNonReplayable, connected]
    have result : delivery.result = .error notConnected := congrArg Prod.fst same
    have nothing : delivery.taken = [] := by
      simp [delivery, Sockets.delivery, same, Sockets.opened, connected]
    have unplaced : delivery.socket = none := by simp [delivery, Sockets.delivery, connected]
    refine ⟨?_, ?_⟩
    · unfold Delivery.Truthful
      rw [result]
      exact ⟨nothing, .inl unplaced⟩
    · unfold Sockets.Took Delivery.uncertain
      rw [connected, result, same]
      exact ⟨unplaced, rfl, rfl⟩
  | some writer =>
    have place : delivery.socket = some sockets.abandoned.length := by
      simp [delivery, Sockets.delivery, connected]
    have spec : ended = _ := writeNonReplayable_eq connected message operation pane
    rcases writeMessage_taken codec message writer with
      -- Too long or not to be encoded, and then nothing was written; or some of its frame was.
      ⟨unframed, error, same⟩ | ⟨taken, rest, framed, written, done⟩
    · rw [same, unframed] at spec
      have opened : ended.2.opened = sockets.abandoned ++ [writer] := by
        rw [spec]
        rfl
      have nothing : delivery.taken = [] :=
        delivery_taken connected opened (List.append_nil _).symm
      have result : delivery.result = .error (unsentError error) := congrArg Prod.fst spec
      refine ⟨?_, ?_⟩
      · unfold Delivery.Truthful
        rw [result]
        exact ⟨nothing, .inr unframed⟩
      · unfold Sockets.Took Delivery.uncertain
        rw [connected, result, nothing]
        refine ⟨place, writer, opened, by simp, ?_, fun uncertain => by cases uncertain⟩
        rw [spec]
        exact Nat.le_refl _
    · generalize writeMessage codec message writer = ran at spec written done
      obtain ⟨came, after⟩ := ran
      rw [framed] at spec
      cases came with
      | ok success =>
        obtain ⟨all, flushed⟩ := done rfl
        have opened : ended.2.opened = sockets.abandoned ++ [after] := by
          rw [spec]
          rfl
        have took : delivery.taken = taken := delivery_taken connected opened written
        have result : delivery.result = .ok () := congrArg Prod.fst spec
        refine ⟨?_, ?_⟩
        · unfold Delivery.Truthful
          rw [result, took]
          refine ⟨framed.trans (by rw [all, List.append_nil]), ?_⟩
          simp [delivery, Sockets.delivery, connected, flushed, Except.isOk, Except.toBool]
        · unfold Sockets.Took Delivery.uncertain
          rw [connected, result, took]
          refine ⟨place, after, opened, written, ?_, fun uncertain => by cases uncertain⟩
          rw [spec]
      | error error =>
        have opened : ended.2.opened = sockets.abandoned ++ [after] := by
          rw [spec]
          exact List.append_nil _
        have took : delivery.taken = taken := delivery_taken connected opened written
        have result : delivery.result = .error (.deliveryUncertain operation pane) :=
          congrArg Prod.fst spec
        have longer : sockets.abandoned.length < ended.2.abandoned.length := by
          rw [spec]
          simp
        refine ⟨?_, ?_⟩
        · unfold Delivery.Truthful
          rw [result, took]
          exact ⟨rfl, rfl, rest, framed⟩
        · unfold Sockets.Took
          rw [connected, took]
          exact ⟨place, after, opened, written, longer.le, fun _ => longer⟩

theorem request_took (sockets : Sockets) (message : T) :
    let ended := sockets.write codec message
    sockets.Took (sockets.delivery message none ended) ended.2 := by
  intro ended
  cases connected : sockets.connection with
  | none =>
    have same : ended = (.error notConnected, sockets) := by
      simp only [ended, Sockets.write, connected]
    unfold Sockets.Took Delivery.uncertain
    rw [connected, same]
    exact ⟨by simp [Sockets.delivery, connected], rfl, rfl⟩
  | some writer =>
    obtain ⟨taken, written⟩ : ∃ taken,
        (writeMessage codec message writer).2.written = writer.written ++ taken := by
      rcases writeMessage_taken codec message writer with ⟨-, error, same⟩ | ⟨taken, -, -, all, -⟩
      · exact ⟨[], by rw [same, List.append_nil]⟩
      · exact ⟨taken, all⟩
    have spec : ended = ((writeMessage codec message writer).1.mapError unsentError,
        { sockets with connection := some (writeMessage codec message writer).2 }) := by
      simp only [ended, Sockets.write, connected]
    have opened : ended.2.opened = sockets.abandoned ++ [(writeMessage codec message writer).2] := by
      rw [spec]
      rfl
    have kept : ended.2.abandoned = sockets.abandoned := by rw [spec]
    have certain : (sockets.delivery message none ended).uncertain = false := by
      rw [Delivery.uncertain, Sockets.delivery, spec]
      cases (writeMessage codec message writer).1 <;> rfl
    unfold Sockets.Took
    rw [connected, delivery_taken connected opened written, certain, kept]
    exact ⟨by simp [Sockets.delivery, connected], _, opened, written, Nat.le_refl _,
      fun uncertain => nomatch uncertain⟩

/-! ## Runs -/

variable {sockets next : Sockets} {past : List (Delivery T)}

theorem length_opened (sockets : Sockets) : sockets.abandoned.length ≤ sockets.opened.length := by
  simp [Sockets.opened]

/-- One more frame keeps the accounts, where it stays off the sockets of uncertain ones. -/
theorem Kept.told (kept : Kept codec sockets past) {delivery : Delivery T}
    (told : ∀ operation pane, delivery.once = some (operation, pane) →
      delivery.Truthful codec operation pane)
    (apart : ∀ earlier ∈ past, earlier.uncertain = true → delivery.socket ≠ earlier.socket)
    (written : ∀ index socket, next.opened[index]? = some socket →
      socket.written = ((past ++ [delivery]).filter fun delivery =>
        delivery.socket = some index).flatMap Delivery.taken)
    (wider : sockets.opened.length ≤ next.opened.length)
    (given : sockets.abandoned.length ≤ next.abandoned.length)
    (placed : ∀ index, delivery.socket = some index → index < next.opened.length)
    (gone : delivery.uncertain = true →
      ∃ index, delivery.socket = some index ∧ index < next.abandoned.length) :
    Kept codec next (past ++ [delivery]) where
  reported := by
    intro other member
    rcases List.mem_append.mp member with earlier | here
    · exact kept.reported other earlier
    · rw [List.mem_singleton.mp here]
      exact told
  written := written
  last := by
    intro before other after split uncertain later member
    rcases snoc_split split with ⟨-, -, rfl⟩ | ⟨between, same, rfl⟩
    · nomatch member
    · rcases List.mem_append.mp member with earlier | here
      · exact kept.last before other between same uncertain later earlier
      · rw [List.mem_singleton.mp here]
        exact apart other (same ▸ by simp) uncertain
  placed := by
    intro other member index same
    rcases List.mem_append.mp member with earlier | here
    · exact Nat.lt_of_lt_of_le (kept.placed other earlier index same) wider
    · exact placed index (List.mem_singleton.mp here ▸ same)
  gone := by
    intro other member uncertain
    rcases List.mem_append.mp member with earlier | here
    · obtain ⟨index, same, below⟩ := kept.gone other earlier uncertain
      exact ⟨index, same, Nat.lt_of_lt_of_le below given⟩
    · rw [List.mem_singleton.mp here] at uncertain ⊢
      exact gone uncertain

theorem Kept.took (kept : Kept codec sockets past) {delivery : Delivery T}
    (told : ∀ operation pane, delivery.once = some (operation, pane) →
      delivery.Truthful codec operation pane)
    (took : sockets.Took delivery next) : Kept codec next (past ++ [delivery]) := by
  unfold Sockets.Took at took
  cases connected : sockets.connection with
  | none =>
    rw [connected] at took
    obtain ⟨nowhere, certain, rfl⟩ := took
    refine kept.told told ?_ ?_ (Nat.le_refl _) (Nat.le_refl _) ?_ ?_
    · intro earlier member uncertain
      obtain ⟨index, same, -⟩ := kept.gone earlier member uncertain
      rw [nowhere, same]
      exact nofun
    · intro index socket found
      rw [List.filter_append, List.filter_singleton]
      simpa [nowhere] using kept.written index socket found
    · intro index same
      exact nomatch nowhere.symm.trans same
    · intro uncertain
      exact nomatch certain.symm.trans uncertain
  | some writer =>
    rw [connected] at took
    obtain ⟨here, after, opened, written, given, gone⟩ := took
    have was : sockets.opened = sockets.abandoned ++ [writer] := by simp [Sockets.opened, connected]
    refine kept.told told ?_ ?_ ?_ given ?_ fun uncertain => ⟨_, here, gone uncertain⟩
    · intro earlier member uncertain
      obtain ⟨index, same, below⟩ := kept.gone earlier member uncertain
      rw [here, same]
      exact fun equal => Nat.ne_of_gt below (Option.some.inj equal)
    · intro index socket found
      rw [opened] at found
      rw [List.filter_append, List.flatMap_append]
      rcases Nat.lt_trichotomy index sockets.abandoned.length with below | rfl | above
      · rw [List.getElem?_append_left below] at found
        have stays := kept.written index socket
          (by rw [was, List.getElem?_append_left below, found])
        simpa [here, Nat.ne_of_gt below] using stays
      · rw [List.getElem?_concat_length] at found
        cases found
        have stays := kept.written _ writer (by rw [was, List.getElem?_concat_length])
        simp [here, written, stays]
      · rw [List.getElem?_eq_none (by simpa using above)] at found
        cases found
    · rw [was, opened]
      simp
    · intro index same
      rw [here] at same
      cases same
      simp [opened]

theorem Kept.switched (kept : Kept codec sockets past) {fresh : List Writer}
    (opened : next.opened = sockets.opened ++ fresh)
    (empty : ∀ socket ∈ fresh, socket.written = [])
    (given : sockets.abandoned.length ≤ next.abandoned.length) : Kept codec next past where
  reported := kept.reported
  written := by
    intro index socket found
    rw [opened] at found
    by_cases below : index < sockets.opened.length
    · exact kept.written index socket (by rwa [List.getElem?_append_left below] at found)
    · have unused : (past.filter fun delivery => delivery.socket = some index) = [] := by
        rw [List.filter_eq_nil_iff]
        intro delivery member same
        exact below (kept.placed delivery member index (of_decide_eq_true same))
      rw [List.getElem?_append_right (Nat.not_lt.mp below)] at found
      rw [unused]
      exact empty socket (List.mem_of_getElem? found)
  last := kept.last
  placed := by
    intro delivery member index same
    rw [opened, List.length_append]
    exact Nat.lt_add_right _ (kept.placed delivery member index same)
  gone := by
    intro delivery member uncertain
    obtain ⟨index, same, below⟩ := kept.gone delivery member uncertain
    exact ⟨index, same, Nat.lt_of_lt_of_le below given⟩

theorem Kept.step (kept : Kept codec sockets past) (action : SocketStep T) :
    Kept codec (sockets.step codec action).1 (past ++ (sockets.step codec action).2) := by
  cases action with
  | connect writes flushes =>
    simp only [Sockets.step, List.append_nil]
    refine kept.switched rfl (fun socket member => ?_) (length_opened sockets)
    rw [List.mem_singleton.mp member]
  | send message operation pane =>
    obtain ⟨truthful, took⟩ := @send_took _ codec sockets message operation pane
    refine kept.took (fun told place same => ?_) took
    cases same
    exact truthful
  | request message => exact kept.took (fun _ _ same => nomatch same) (request_took sockets message)
  | disconnect =>
    simp only [Sockets.step, List.append_nil]
    have same : sockets.disconnect.opened = sockets.opened ++ [] := by
      simp [Sockets.disconnect, Sockets.opened]
    exact kept.switched same nofun (by simp [Sockets.disconnect])

/-- Whatever the writers do, frames that are never sent again are reported truthfully in every run:
as written, as not attempted at all, or as uncertain, and then nothing follows them. -/
theorem deliveries_accounted (run : (socketMachine codec).Reaches sockets past) :
    Accounted codec sockets past := by
  refine (run.invariant (motive := Kept codec) ?_ ?_).toAccounted
  · rintro ⟨_, _⟩ ⟨rfl, rfl⟩
    exact {
      reported := fun _ member => nomatch member
      written := fun index socket found => absurd found (by simp [Sockets.opened])
      last := fun before _ _ split => absurd split (by simp)
      placed := fun _ member => nomatch member
      gone := fun _ member => nomatch member }
  · intro state next _ events action _ kept _ stepped
    have same : state.step codec action = (next, events) := Option.some.inj stepped
    have taken := kept.step action
    rwa [same] at taken

/-- A socket that stalls inside a frame is given up, and the frame after it has one of its own. -/
theorem deliveries_accounted_torn : ∃ sockets past,
    (past.map Delivery.uncertain = [true, false] ∧
      past.map (fun delivery => delivery.taken.length) = [3, 5] ∧
      past.map Delivery.socket = [some 0, some 1]) ∧
    Accounted leaseOperationCodec sockets past := by
  obtain ⟨sockets, past, reached, seen⟩ :=
    (socketMachine leaseOperationCodec).exists_reaches
      (show (socketMachine leaseOperationCodec).start ⟨none, []⟩ from ⟨rfl, rfl⟩)
      [.connect [.takes 3, .takes 0] [], .send .input .input ⟨1⟩, .connect [] [],
        .send .paste .paste ⟨1⟩]
      (fun _ past => past.map Delivery.uncertain = [true, false] ∧
        past.map (fun delivery => delivery.taken.length) = [3, 5] ∧
        past.map Delivery.socket = [some 0, some 1]) (by decide)
  exact ⟨sockets, past, of_decide_eq_true seen, deliveries_accounted reached⟩

end

end Mult.Client
