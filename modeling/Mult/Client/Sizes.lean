import Mult.Client.Operations

/-! What becomes of the size of a pane's screen while the client serves its daemon.

The screen has it from the client itself, which asks the daemon for it with every attachment, and
from the daemon's answers: whatever is so of all of these stays so of the screen.
-/

set_option autoImplicit false

namespace Mult.Client
open Foundation Protocol
open Foundation.Program (Keeps)
open Project (PtyKey)

@[simp]
theorem Parser.size_apply (parser : Parser) (operation : ScreenOperation) :
    (parser.apply operation).size =
      match operation with
      | .resize size => size
      | _ => parser.size := by
  rw [size, apply, List.foldl_append]
  rfl

def PtyPane.HasSize (right : PtyDimensions → Prop) (pane : PtyPane) : Prop :=
  ∃ parser, pane.parser = some parser ∧ right parser.size

namespace PtyPane

variable {right : PtyDimensions → Prop} {pane : PtyPane} {size : PtyDimensions}

theorem HasSize.feed (sized : pane.HasSize right) (bytes : Bytes) :
    (pane.feed bytes).HasSize right := by
  obtain ⟨parser, present, is⟩ := sized
  unfold PtyPane.feed
  split
  · exact ⟨parser, present, is⟩
  · refine ⟨_, rfl, ?_⟩
    rw [screen, present]
    simpa using is

theorem hasSize_resize (is : right size.clamped) : (pane.resize size).HasSize right :=
  ⟨_, rfl, by simpa using is⟩

theorem hasSize_resetParser (is : right size.clamped) : (pane.resetParser size).HasSize right :=
  ⟨_, rfl, is⟩

end PtyPane

/-- Where the message accepts an attachment of the terminal's pane, its size is right. -/
def Names (terminal : PtyKey) (right : PtyDimensions → Prop) (message : ServerMessage) : Prop :=
  ∀ requestId session pane lease,
    message = .attachResult requestId (.attached session pane lease) →
      pane.id = paneForKey terminal → right (⟨pane.rows, pane.cols⟩ : PtyDimensions).clamped

def Input.Names (terminal : PtyKey) (right : PtyDimensions → Prop) : Input → Prop
  | .received (.message message) => Client.Names terminal right message
  | _ => True

/-- The daemon gives the terminal's pane a right size whenever it accepts an attachment of it. -/
structure Answers {H : Type} (terminal : PtyKey) (right : PtyDimensions → Prop) (world : World H) :
    Prop where
  deferred : ∀ message ∈ world.runtime.deferredMessages, Names terminal right message
  coming : ∀ input ∈ world.inputs, input.Names terminal right

/-- The screen of the terminal has a right size, and no answer of the daemon gives it another. -/
structure Sized {H : Type} (terminal : PtyKey) (right : PtyDimensions → Prop) (world : World H) :
    Prop extends Answers terminal right world where
  screen : (world.runtime.panes terminal).HasSize right

variable {H A : Type} {terminal : PtyKey} {right : PtyDimensions → Prop}

theorem names_of_accept {message : ServerMessage} (names : Names terminal right message)
    {progress accepted : AttachProgress} {session : SessionId} {other : PtyKey}
    {requestId : RequestId} {named : PtyDimensions}
    (judged : progress.judge session (paneForKey other) requestId message = .accept accepted named)
    (same : other = terminal) : right named.clamped := by
  subst same
  unfold AttachProgress.judge at judged
  split at judged
  · next received outcome =>
    split at judged
    · unfold AttachProgress.judgeOutcome at judged
      split at judged
      · next attached pane lease =>
        split at judged
        · next right =>
          split at judged
          · cases judged
          · cases judged
            exact names _ _ _ _ rfl right.2
        · cases judged
      · cases judged
    · cases judged
  · split at judged
    · unfold AttachProgress.judgeBegin at judged
      split_ifs at judged
    · cases judged
  · split at judged
    · unfold AttachProgress.judgeChunk at judged
      split at judged
      · cases judged
      · split_ifs at judged
        split at judged
        · cases judged
        · split_ifs at judged
    · cases judged
  · split at judged
    · unfold AttachProgress.judgeEnd at judged
      split_ifs at judged
    · cases judged
  · split_ifs at judged
  · cases judged
  · cases judged

/-! ## Single steps -/

/-- A change of the client's state that leaves the size of the screen, and puts no answer aside. -/
structure KeepsSize (terminal : PtyKey) (right : PtyDimensions → Prop) (runtime next : PtyRuntime) :
    Prop where
  screen : (runtime.panes terminal).HasSize right → (next.panes terminal).HasSize right
  deferred : ∀ message ∈ next.deferredMessages, message ∈ runtime.deferredMessages

theorem KeepsSize.of_eq {runtime next : PtyRuntime} (panes : next.panes = runtime.panes)
    (deferred : next.deferredMessages = runtime.deferredMessages) :
    KeepsSize terminal right runtime next :=
  ⟨fun held => panes ▸ held, fun _ member => deferred ▸ member⟩

theorem KeepsSize.editPane (runtime : PtyRuntime) (other : PtyKey) {change : PtyPane → PtyPane}
    (keeps : other = terminal → ∀ pane, PtyPane.HasSize right pane →
      (change pane).HasSize right) :
    KeepsSize terminal right runtime (runtime.editPane other change) := by
  refine ⟨fun held => ?_, fun _ member => member⟩
  dsimp only [PtyRuntime.editPane]
  by_cases same : other = terminal
  · subst same
    rw [Function.update_self]
    exact keeps rfl _ held
  · rw [Function.update_of_ne (Ne.symm same)]
    exact held

theorem Sized.runtime {world : World H} (sized : Sized terminal right world) {next : PtyRuntime}
    (keeps : KeepsSize terminal right world.runtime next) :
    Sized terminal right { world with runtime := next } where
  deferred message member := sized.deferred message (keeps.deferred message member)
  coming := sized.coming
  screen := keeps.screen sized.screen

theorem sized_view {look : PtyRuntime → A} {yields : A → Prop}
    (known : ∀ world : World H, Sized terminal right world → yields (look world.runtime)) :
    Keeps (Sized terminal right) (view look : ClientProgram H A) yields :=
  .read known

theorem sized_look (look : PtyRuntime → A) :
    Keeps (Sized terminal right) (view look : ClientProgram H A) fun _ => True :=
  .read fun _ _ => trivial

theorem sized_change {next : PtyRuntime → PtyRuntime}
    (keeps : ∀ runtime, KeepsSize terminal right runtime (next runtime)) :
    Keeps (Sized terminal right) (change next : ClientProgram H Unit) fun _ => True :=
  .update trivial fun _ sized => sized.runtime (keeps _)

theorem sized_act (event : TraceEvent) {next : PtyRuntime → PtyRuntime}
    (keeps : ∀ runtime, KeepsSize terminal right runtime (next runtime)) :
    Keeps (Sized terminal right) (act event next : ClientProgram H Unit) fun _ => True :=
  .update trivial fun _ sized =>
    have acted := sized.runtime (keeps _)
    ⟨⟨acted.deferred, acted.coming⟩, acted.screen⟩

theorem sized_note (event : TraceEvent) :
    Keeps (Sized terminal right) (note event : ClientProgram H Unit) fun _ => True :=
  sized_act event fun _ => .of_eq rfl rfl

theorem sized_pushEvents (events : List Raised) :
    Keeps (Sized terminal right) (pushEvents events : ClientProgram H Unit) fun _ => True :=
  sized_change fun _ => .of_eq rfl rfl

theorem sized_raised (event : PtyEvent) :
    Keeps (Sized terminal right) (raised event : ClientProgram H Raised) fun _ => True :=
  .read fun _ _ => trivial

theorem sized_pushEvent (event : PtyEvent) :
    Keeps (Sized terminal right) (pushEvent event : ClientProgram H Unit) fun _ => True :=
  (sized_raised event).andThen fun _ => sized_pushEvents _

theorem sized_take {select : Input → Option A} {yields : A → Prop}
    (known : ∀ input value, input.Names terminal right → select input = some value → yields value) :
    Keeps (Sized terminal right) (take select : ClientProgram H A) yields := by
  intro world sized
  unfold take
  split
  · exact ⟨sized, fun _ other => nomatch other⟩
  · next input rest inputs =>
    have coming := sized.coming
    rw [inputs] at coming
    split
    · next value selected =>
      refine ⟨⟨⟨sized.deferred, fun other member => coming other (.tail _ member)⟩, sized.screen⟩, ?_⟩
      rintro _ ⟨⟩
      exact known input value (coming input (.head _)) selected
    · exact ⟨sized, fun _ other => nomatch other⟩

theorem sized_next (select : Input → Option A) :
    Keeps (Sized terminal right) (take select : ClientProgram H A) fun _ => True :=
  sized_take fun _ _ _ _ => trivial

theorem sized_now : Keeps (Sized terminal right) (now : ClientProgram H Nat) fun _ => True :=
  (sized_next _).andThen fun _ =>
    .perform fun _ sized => ⟨⟨⟨sized.deferred, sized.coming⟩, sized.screen⟩, trivial⟩

theorem sized_receive : Keeps (Sized terminal right) (receive : ClientProgram H Received)
    fun received => ∀ message, received = .message message → Names terminal right message := by
  unfold receive
  refine @Keeps.bind _ _ _ _ _ (fun received => ∀ message, received = .message message →
    Names terminal right message) _ _ _ (sized_take ?_) fun received named => ?_
  · rintro (_ | _ | _ | received | _ | _) value names selected
    all_goals cases selected
    rintro message rfl
    exact names
  split
  · next message =>
    refine (sized_note _).andThen fun _ => .pure fun other same => ?_
    cases same
    exact named message rfl
  · exact .pure named

theorem sized_disconnect :
    Keeps (Sized terminal right) (change PtyRuntime.disconnect : ClientProgram H Unit)
      fun _ => True :=
  sized_change fun _ => ⟨id, fun _ member => List.mem_of_mem_filter member⟩

theorem sized_iterationOrder :
    Keeps (Sized terminal right) (iterationOrder : ClientProgram H (List PtyKey)) fun _ => True :=
  (sized_look _).andThen fun _ => sized_next _

theorem sized_write (message : ClientMessage) (again : Bool) :
    Keeps (Sized terminal right) (write message again : ClientProgram H Unit) fun _ => True := by
  refine (sized_look _).andThen fun connection => ?_
  cases connection with
  | none => exact .fail _
  | some number =>
    refine (sized_next _).andThen fun outcome => ?_
    cases outcome with
    | written => exact sized_note _
    | unattempted kind text => exact .fail _
    | attempted kind text => exact (sized_note _).andThen fun _ => .fail _

theorem sized_writeNonReplayable (message : ClientMessage) (operation : PtyDeliveryOperation)
    (pane : PaneId) : Keeps (Sized terminal right)
      (writeNonReplayable message operation pane : ClientProgram H Unit) fun _ => True := by
  refine (sized_look _).andThen fun connection => ?_
  cases connection with
  | none => exact .fail _
  | some number =>
    refine (sized_next _).andThen fun outcome => ?_
    cases outcome with
    | written => exact sized_note _
    | unattempted kind text => exact .fail _
    | attempted kind text =>
      refine (sized_note _).andThen fun _ => (sized_disconnect).andThen fun _ => .fail _

theorem sized_reportDisconnect (reason : String) :
    Keeps (Sized terminal right) (reportDisconnect reason : ClientProgram H Unit) fun _ => True := by
  refine (sized_look _).andThen fun reported => ?_
  split
  · exact .pure trivial
  · exact Keeps.andThen (sized_change fun _ => .of_eq rfl rfl) fun _ => sized_pushEvent _

theorem KeepsSize.installConnection (runtime : PtyRuntime) (number : Nat) (hello : ServerHello)
    (requestedResume : Option ClientScopeId) (order : List PtyKey) :
    KeepsSize terminal right runtime
      (runtime.installConnection number hello requestedResume order) := by
  unfold PtyRuntime.installConnection
  dsimp only
  split
  · exact ⟨id, fun _ member => nomatch member⟩
  · exact .of_eq rfl rfl

theorem sized_installConnection (hello : ServerHello) (requestedResume : Option ClientScopeId) :
    Keeps (Sized terminal right) (installConnection hello requestedResume : ClientProgram H Bool)
      fun _ => True := by
  refine sized_iterationOrder.andThen fun order => (sized_look _).andThen fun same => ?_
  refine Keeps.bind (.update trivial fun world sized => ?_) fun _ (_ : True) => .pure trivial
  have installed := sized.runtime
    (.installConnection world.runtime world.connections hello requestedResume order)
  exact ⟨⟨installed.deferred, installed.coming⟩, installed.screen⟩

theorem sized_connectInner :
    Keeps (Sized terminal right) (connectInner : ClientProgram H Bool) fun _ => True := by
  refine (sized_look _).andThen fun resume => (sized_next _).andThen fun result => ?_
  cases result with
  | ok hello => exact sized_installConnection hello resume
  | error error => exact .fail error

theorem sized_startConnector :
    Keeps (Sized terminal right) (startConnector : ClientProgram H Unit) fun _ => True := by
  refine sized_change fun runtime => ?_
  split
  · exact .of_eq rfl rfl
  · exact .of_eq rfl rfl

theorem sized_advanceRetryBackoff :
    Keeps (Sized terminal right) (advanceRetryBackoff : ClientProgram H Unit) fun _ => True :=
  sized_now.andThen fun _ => sized_change fun _ => .of_eq rfl rfl

theorem sized_pollConnector :
    Keeps (Sized terminal right) (pollConnector : ClientProgram H Unit) fun _ => True := by
  refine (sized_look _).andThen fun pending => ?_
  cases pending with
  | none => exact .pure trivial
  | some resume =>
    refine (sized_next _).andThen fun finished => ?_
    cases finished with
    | none => exact .pure trivial
    | some result =>
      dsimp only
      refine Keeps.andThen (sized_change fun _ => .of_eq rfl rfl) fun _ => ?_
      cases result with
      | ok hello =>
        refine (sized_look _).andThen fun connected => ?_
        split
        · exact .pure trivial
        · exact (sized_installConnection hello resume).andThen fun _ =>
            sized_change fun _ => .of_eq rfl rfl
      | error error =>
        exact (sized_reportDisconnect _).andThen fun _ => sized_advanceRetryBackoff

theorem sized_resumeAndResend (message : ClientMessage) :
    Keeps (Sized terminal right) (resumeAndResend message : ClientProgram H Unit) fun _ => True := by
  refine (sized_look _).andThen fun scope => (sized_look _).andThen fun server =>
    sized_disconnect.andThen fun _ => sized_connectInner.andThen fun same =>
      (sized_look _).andThen fun nextScope => (sized_look _).andThen fun nextServer => ?_
  split
  · exact sized_write message true
  · exact .fail _

theorem sized_allocateRequest :
    Keeps (Sized terminal right) (allocateRequest : ClientProgram H RequestId) fun _ => True := by
  refine (sized_look _).andThen fun pending => ?_
  split
  · exact .fail _
  · refine (sized_look _).andThen fun requestId => ?_
    cases requestId with
    | none => exact .fail _
    | some requestId =>
      exact Keeps.andThen (sized_act _ fun _ => .of_eq rfl rfl) fun _ => .pure trivial

theorem sized_finishRequest (requestId : RequestId) :
    Keeps (Sized terminal right) (finishRequest requestId : ClientProgram H Unit) fun _ => True :=
  sized_change fun _ => ⟨id, fun _ member => List.mem_of_mem_filter member⟩

theorem sized_defer {message : ServerMessage} (names : Names terminal right message) :
    Keeps (Sized terminal right) (defer message : ClientProgram H Unit) fun _ => True := by
  refine .update trivial fun world sized => ⟨⟨fun other member => ?_, sized.coming⟩, sized.screen⟩
  rcases List.mem_append.mp member with before | now
  · exact sized.deferred other before
  · rw [List.mem_singleton.mp now]
    exact names

theorem mem_takeDeferred {requestId : RequestId} {messages : List ServerMessage}
    {message : ServerMessage} {others : List ServerMessage}
    (taken : PtyRuntime.takeDeferred requestId messages = some (message, others)) :
    message ∈ messages ∧ ∀ other ∈ others, other ∈ messages := by
  induction messages generalizing message others with
  | nil => cases taken
  | cons first rest ih =>
    unfold PtyRuntime.takeDeferred at taken
    split at taken
    · cases taken
      exact ⟨.head _, fun _ member => .tail _ member⟩
    · obtain ⟨⟨found, left⟩, later, same⟩ := Option.map_eq_some_iff.mp taken
      cases same
      obtain ⟨member, kept⟩ := ih later
      refine ⟨.tail _ member, fun other among => ?_⟩
      rcases List.mem_cons.mp among with rfl | among
      · exact .head _
      · exact .tail _ (kept other among)

theorem sized_takeDeferred (requestId : RequestId) :
    Keeps (Sized terminal right) (takeDeferred requestId : ClientProgram H (Option ServerMessage))
      fun taken => ∀ message, taken = some message → Names terminal right message := by
  refine .perform fun world sized => ?_
  cases taken : PtyRuntime.takeDeferred requestId world.runtime.deferredMessages with
  | none => exact ⟨sized, nofun⟩
  | some found =>
    obtain ⟨message, others⟩ := found
    obtain ⟨member, kept⟩ := mem_takeDeferred taken
    refine ⟨⟨⟨fun other among => sized.deferred other (kept other among), sized.coming⟩,
      sized.screen⟩, ?_⟩
    rintro _ ⟨⟩
    exact sized.deferred message member

theorem sized_awaitResponse (requestId : RequestId) (deadline fuel : Nat) :
    Keeps (Sized terminal right) (awaitResponse requestId deadline fuel : ClientProgram H ServerMessage)
      (Names terminal right) := by
  induction fuel with
  | zero => exact .wait
  | succ fuel ih =>
    refine sized_now.andThen fun time => ?_
    split
    · exact .fail _
    · refine (sized_look _).andThen fun connection => ?_
      cases connection with
      | none => exact .fail _
      | some number =>
        refine sized_receive.bind fun received named => ?_
        cases received with
        | nothing => exact .fail _
        | closed => exact sized_disconnect.andThen fun _ => .fail _
        | message message =>
          have names := named message rfl
          dsimp only
          split
          · split
            · exact (sized_defer names).andThen fun _ => ih
            · exact .pure names
          · exact .pure names

theorem sized_receiveForRequest (fuel : Nat) (requestId : RequestId) (deadline : Nat) :
    Keeps (Sized terminal right)
      (receiveForRequest fuel requestId deadline : ClientProgram H ServerMessage)
      (Names terminal right) := by
  refine (sized_takeDeferred requestId).bind fun taken named => ?_
  cases taken with
  | none => exact sized_awaitResponse requestId deadline fuel
  | some message => exact .pure (named message rfl)

theorem KeepsSize.clearAttachment (runtime : PtyRuntime) (pane : PaneId) :
    KeepsSize terminal right runtime (runtime.clearAttachment pane) := by
  unfold PtyRuntime.clearAttachment
  split
  · exact .of_eq rfl rfl
  · next other _ =>
    refine ⟨fun held => ?_, fun _ member => member⟩
    dsimp only
    by_cases same : other = terminal
    · subst same
      rw [Function.update_self]
      exact held
    · rw [Function.update_of_ne (Ne.symm same)]
      exact held

theorem sized_clearAttachment (pane : PaneId) :
    Keeps (Sized terminal right) (clearAttachment pane : ClientProgram H (Option PtyKey))
      fun _ => True := by
  refine (sized_look _).andThen fun found => ?_
  cases found with
  | none => exact .pure trivial
  | some other =>
    exact Keeps.andThen (sized_act _ fun runtime => .clearAttachment runtime pane) fun _ =>
      .pure trivial

theorem sized_leaseForPane (pane : PaneId) :
    Keeps (Sized terminal right) (leaseForPane pane : ClientProgram H AttachmentLease)
      fun _ => True := by
  refine (sized_look _).andThen fun lease => ?_
  cases lease with
  | none => exact .fail _
  | some lease => exact .pure trivial

theorem KeepsSize.endScrollback (runtime : PtyRuntime) (other : PtyKey) :
    KeepsSize terminal right runtime (runtime.endScrollback other) := by
  unfold PtyRuntime.endScrollback
  split
  · exact .of_eq rfl rfl
  · next parser present =>
    refine ⟨fun held => ?_, fun _ member => member⟩
    dsimp only [PtyRuntime.editPane]
    by_cases same : other = terminal
    · subst same
      rw [Function.update_self]
      obtain ⟨shown, shows, is⟩ := held
      cases present.symm.trans shows
      exact ⟨_, rfl, by simpa using is⟩
    · rw [Function.update_of_ne (Ne.symm same)]
      exact held

section
variable {around : Surroundings} {ensureConnected : ClientProgram H Unit}
  (ensured : Keeps (Sized terminal right) ensureConnected fun _ => True)

include ensured

theorem sized_sendInputInner (other : PtyKey) (pane : PaneId) (input : Bytes)
    (origin : InputOrigin) : Keeps (Sized terminal right)
      (sendInputInner ensureConnected other pane input origin) fun _ => True := by
  have delivered : Keeps (Sized terminal right)
      (ensureConnected >>= fun _ => leaseForPane pane >>= fun lease =>
        writeNonReplayable (.input pane lease input) .input pane) fun _ => True :=
    ensured.andThen fun _ => (sized_leaseForPane pane).andThen fun lease =>
      sized_writeNonReplayable _ _ _
  unfold sendInputInner
  dsimp only
  split
  · exact Keeps.andThen (sized_change fun runtime => .endScrollback runtime other) fun _ => delivered
  · exact delivered

theorem sized_respond (other : PtyKey) (response : Bytes) :
    Keeps (Sized terminal right) (respond ensureConnected other response) fun _ => True := by
  unfold respond
  split
  · exact .pure trivial
  · refine (sized_look _).andThen fun attachment => ?_
    cases attachment with
    | none => exact .pure trivial
    | some pane =>
      exact (sized_sendInputInner ensured other pane response .synthetic).attempt.andThen fun _ =>
        .pure trivial

omit ensured in
theorem sized_raise (event : PtyEvent) (events : List Raised) :
    Keeps (Sized terminal right) (raised event >>= fun event => pure (events ++ [event]) :
      ClientProgram H (List Raised)) fun _ => True :=
  (sized_raised event).andThen fun _ => .pure trivial

omit ensured in
theorem sized_editPane (other : PtyKey) {change : PtyPane → PtyPane}
    (keeps : ∀ pane, (change pane).parser = PtyPane.parser pane) :
    Keeps (Sized terminal right)
      (Client.change fun runtime => runtime.editPane other change : ClientProgram H Unit)
      fun _ => True :=
  sized_change fun runtime => .editPane runtime other fun _ pane held => by
    obtain ⟨parser, present, is⟩ := held
    exact ⟨parser, (keeps pane).trans present, is⟩

omit ensured in
theorem sized_markAttachmentUnreconciled (pane : PaneId) (events : List Raised) (message : String) :
    Keeps (Sized terminal right)
      (markAttachmentUnreconciled pane events message : ClientProgram H (List Raised))
      fun _ => True := by
  refine (sized_look _).andThen fun found => ?_
  cases found with
  | none => exact .pure trivial
  | some other =>
    exact Keeps.andThen (sized_editPane other fun _ => rfl) fun _ => sized_raise _ _

theorem sized_handlePtyOutput (pane : PaneId) (lease : AttachmentLease) (sequence : OutputSequence)
    (bytes : Bytes) (events : List Raised) : Keeps (Sized terminal right)
      (handlePtyOutput around ensureConnected pane lease sequence bytes events) fun _ => True := by
  refine (sized_look _).andThen fun held => ?_
  split
  · exact .pure trivial
  · refine (sized_look _).andThen fun found => ?_
    cases found with
    | none => exact .pure trivial
    | some other =>
      refine (sized_look _).andThen fun expectedOutput => ?_
      cases expectedOutput with
      | none => exact sized_raise _ _
      | some expected =>
        dsimp only
        split
        · exact sized_markAttachmentUnreconciled pane events _
        · split
          · exact sized_markAttachmentUnreconciled pane events _
          · next after grown =>
            refine (sized_look _).andThen fun response => ?_
            refine Keeps.andThen (sized_change fun runtime => ?_) fun _ =>
              (sized_respond ensured other _).andThen fun _ =>
                Keeps.bind (.read fun _ _ => trivial) fun _ (_ : True) => .pure trivial
            exact .editPane runtime other fun _ pane held =>
              @PtyPane.HasSize.feed right { pane with expectedOutput := some after } held bytes

omit ensured in
theorem sized_handlePaneExited (pane : PaneId) (lease : AttachmentLease) (exit : ExitInfo)
    (events : List Raised) : Keeps (Sized terminal right)
      (handlePaneExited pane lease exit events : ClientProgram H (List Raised)) fun _ => True := by
  refine (sized_look _).andThen fun held => ?_
  split
  · exact .pure trivial
  · refine (sized_clearAttachment pane).andThen fun cleared => ?_
    cases cleared with
    | none => exact .pure trivial
    | some other =>
      exact Keeps.andThen (sized_editPane other fun _ => rfl) fun _ => sized_raise _ _

omit ensured in
theorem sized_handleLeaseRejected (pane : PaneId) (lease : AttachmentLease)
    (operation : LeaseOperation) (reason : LeaseRejectionReason) (events : List Raised) :
    Keeps (Sized terminal right)
      (handleLeaseRejected pane lease operation reason events : ClientProgram H (List Raised))
      fun _ => True := by
  refine (sized_look _).andThen fun held => ?_
  split
  · exact .pure trivial
  · dsimp only
    split
    · exact (sized_look _).andThen fun _ => sized_raise _ _
    · exact (sized_clearAttachment pane).andThen fun _ => sized_raise _ _

theorem sized_handleServerMessage {message : ServerMessage} (names : Names terminal right message)
    (events : List Raised) : Keeps (Sized terminal right)
      (handleServerMessage around ensureConnected message events) fun _ => True := by
  unfold handleServerMessage
  split
  any_goals exact .pure trivial
  any_goals exact (sized_defer names).andThen fun _ => .pure trivial
  · exact sized_handlePtyOutput ensured _ _ _ _ _
  · exact sized_handlePaneExited _ _ _ _
  · refine (sized_look _).andThen fun held => ?_
    split
    · exact .pure trivial
    · refine (sized_clearAttachment _).andThen fun cleared => ?_
      cases cleared with
      | none => exact .pure trivial
      | some other => exact sized_raise _ _
  · exact sized_handleLeaseRejected _ _ _ _ _
  · exact sized_raise _ _

theorem sized_routeDuringRequest {message : ServerMessage} (names : Names terminal right message) :
    Keeps (Sized terminal right) (routeDuringRequest around ensureConnected message) fun _ => True :=
  (sized_handleServerMessage ensured names []).andThen fun _ => sized_pushEvents _

/-! ## Attaching -/

omit ensured in
theorem sized_transaction (other : PtyKey) {program : ClientProgram H Unit}
    (runs : Keeps (Sized terminal right) program fun _ => True) :
    Keeps (Sized terminal right) (transaction other program) fun _ => True := by
  refine Keeps.bind (.read fun _ _ => trivial) fun outer (_ : True) => ?_
  refine Keeps.bind (.update trivial fun _ sized => ⟨⟨sized.deferred, sized.coming⟩, sized.screen⟩)
    fun _ (_ : True) => runs.attempt.andThen fun result => ?_
  refine Keeps.bind (.update trivial fun _ sized => ⟨⟨sized.deferred, sized.coming⟩, sized.screen⟩)
    fun _ (_ : True) => ?_
  cases result with
  | ok done => exact .pure trivial
  | error error => exact .fail _

omit ensured in
theorem sized_resetParser (other : PtyKey) {wanted : PtyDimensions}
    (asks : other = terminal → right wanted.clamped) :
    Keeps (Sized terminal right) (resetParser other wanted : ClientProgram H Unit) fun _ => True :=
  sized_act _ fun runtime => .editPane runtime other fun same _ _ =>
    PtyPane.hasSize_resetParser (asks same)

omit ensured in
theorem sized_popReattach :
    Keeps (Sized terminal right) (popReattach : ClientProgram H (Option PtyKey)) fun _ => True := by
  refine .perform fun world sized => ⟨?_, trivial⟩
  split
  · exact sized
  · exact ⟨⟨sized.deferred, sized.coming⟩, sized.screen⟩

omit ensured in
theorem sized_backingOff :
    Keeps (Sized terminal right) (backingOff : ClientProgram H Bool) fun _ => True := by
  refine (sized_look _).andThen fun notBefore => ?_
  cases notBefore with
  | none => exact .pure trivial
  | some notBefore => exact sized_now.andThen fun _ => .pure trivial

theorem sized_writeIdempotentRequest (message : ClientMessage) :
    Keeps (Sized terminal right) (writeIdempotentRequest ensureConnected message)
      fun _ => True := by
  refine ensured.andThen fun _ => (sized_write message false).attempt.andThen fun result => ?_
  cases result with
  | ok done => exact .pure trivial
  | error error =>
    dsimp only
    split
    · exact sized_resumeAndResend message
    · exact .fail _

omit ensured in
theorem sized_commitReplay (other : PtyKey) (progress : AttachProgress) (lease : AttachmentLease)
    (watermark : OutputSequence) : Keeps (Sized terminal right)
      (commitReplay other progress lease watermark : ClientProgram H Unit) fun _ => True := by
  refine Keeps.andThen (sized_act _ fun runtime => ?_) fun _ =>
    (sized_pushEvent _).andThen fun _ => ?_
  · have edited := @KeepsSize.editPane terminal right runtime other
      (fun entry => { entry.feed progress.replayBytes with
        lease := some lease, expectedOutput := some watermark })
      fun _ pane held => held.feed _
    exact ⟨edited.screen, edited.deferred⟩
  · split
    · exact sized_pushEvent _
    · exact .pure trivial

/-- An attach transaction gives the screen the size it asks for, or what the daemon answers. -/
theorem sized_attachLoop (other : PtyKey) (session : SessionId) {wanted : PtyDimensions}
    (asks : other = terminal → right wanted.clamped) (requestId : RequestId) (request : ClientMessage)
    (fuel deadline : Nat) (progress : AttachProgress) : Keeps (Sized terminal right)
      (attachLoop around ensureConnected other session wanted requestId request fuel deadline
        progress) fun _ => True := by
  induction fuel generalizing deadline progress with
  | zero => exact .wait
  | succ fuel ih =>
    refine (sized_receiveForRequest fuel requestId deadline).attempt.bind fun result named => ?_
    cases result with
    | error error =>
      dsimp only
      split
      · refine (sized_resumeAndResend request).andThen fun _ =>
          Keeps.andThen (sized_act _ fun runtime => ?_) fun _ => ih deadline .initial
        exact .editPane runtime other fun same _ _ => ⟨_, rfl, asks same⟩
      · exact .fail _
    | ok message =>
      have names := named message rfl
      refine sized_now.andThen fun time => ?_
      dsimp only
      cases judged : progress.judge session (paneForKey other) requestId message with
      | refuse error => exact .fail _
      | accept progress accepted =>
        exact Keeps.andThen (sized_change fun runtime => .editPane runtime other
          fun same _ _ => PtyPane.hasSize_resize (names_of_accept names judged same))
          fun _ => ih _ progress
      | proceed progress => exact ih _ progress
      | complete lease watermark => exact sized_commitReplay _ _ _ _
      | other =>
        exact (sized_routeDuringRequest ensured names).andThen fun _ => ih _ progress

theorem sized_performAttach (fuel : Nat) (other : PtyKey) (session : SessionId)
    {wanted : PtyDimensions} (asks : other = terminal → right wanted.clamped) (requestId : RequestId)
    (request : ClientMessage) : Keeps (Sized terminal right)
      (performAttach around ensureConnected fuel other session wanted requestId request)
      fun _ => True := by
  refine sized_transaction other ?_
  refine Keeps.andThen (sized_change fun _ => .of_eq rfl rfl) fun _ => ?_
  exact (sized_writeIdempotentRequest ensured request).andThen fun _ => sized_now.andThen fun _ =>
    sized_attachLoop ensured other session asks requestId request _ _ _

variable (clamped : ∀ size, right size → right size.clamped)

include clamped

theorem sized_reattachTerminal (fuel : Nat) (other : PtyKey) : Keeps (Sized terminal right)
    (reattachTerminal around ensureConnected fuel other) fun _ => True := by
  have has : Keeps (Sized (H := H) terminal right)
      (view fun runtime => runtime.parserDimensions other)
      fun wanted => other = terminal → right wanted.clamped := by
    refine sized_view fun world sized same => ?_
    subst same
    obtain ⟨parser, present, is⟩ := sized.screen
    rw [PtyRuntime.parserDimensions, PtyRuntime.parser, present]
    exact clamped _ is
  refine has.bind fun wanted asks => ?_
  refine Keeps.andThen (sized_resetParser other asks) fun _ =>
    (sized_look _).andThen fun identity => ?_
  cases identity with
  | none => exact .pure trivial
  | some identity =>
    refine sized_allocateRequest.attempt.andThen fun result => ?_
    cases result with
    | error error => exact .pure trivial
    | ok requestId =>
      refine (sized_performAttach ensured fuel other _ asks requestId _).attempt.andThen
        fun result => (sized_finishRequest requestId).andThen fun _ => ?_
      cases result with
      | ok done => exact .pure trivial
      | error error =>
        dsimp only
        split
        · exact (sized_clearAttachment _).andThen fun _ =>
            Keeps.andThen (sized_editPane other fun _ => rfl) fun _ =>
              (sized_pushEvent _).andThen fun _ => .pure trivial
        · exact (sized_reportDisconnect _).andThen fun _ => .pure trivial

theorem sized_reattachLoop (fuel started turns : Nat) : Keeps (Sized terminal right)
    (reattachLoop around ensureConnected fuel started turns) fun _ => True := by
  induction turns with
  | zero => exact .wait
  | succ turns ih =>
    refine (sized_look _).andThen fun offline => ?_
    split
    · exact .pure trivial
    · refine sized_popReattach.andThen fun popped => ?_
      cases popped with
      | none => exact .pure trivial
      | some other =>
        refine (sized_look _).andThen fun retired => ?_
        split
        · exact ih
        · refine (sized_reattachTerminal ensured clamped fuel other).andThen fun attached => ?_
          split
          · refine Keeps.andThen (sized_change fun _ => .of_eq rfl rfl) fun _ =>
              sized_now.andThen fun time => ?_
            split
            · exact .pure trivial
            · exact ih
          · exact Keeps.andThen (sized_change fun _ => .of_eq rfl rfl) fun _ =>
              sized_advanceRetryBackoff

theorem sized_serviceReattachments (fuel : Nat) : Keeps (Sized terminal right)
    (serviceReattachments around ensureConnected fuel) fun _ => True := by
  refine (sized_look _).andThen fun busy => ?_
  split
  · exact .pure trivial
  · refine sized_backingOff.andThen fun waits => ?_
    split
    · exact .pure trivial
    · exact sized_now.andThen fun started => sized_reattachLoop ensured clamped fuel started fuel

end

/-- Whatever is served while the connection is made sure of, the screen keeps its size. -/
theorem sized_ensureConnected (around : Surroundings)
    (clamped : ∀ size, right size → right size.clamped) (fuel : Nat) :
    Keeps (Sized terminal right) (ensureConnected around fuel : ClientProgram H Unit)
      fun _ => True := by
  induction fuel with
  | zero => exact .wait
  | succ fuel ih =>
    refine sized_pollConnector.andThen fun _ => (sized_look _).andThen fun offline => ?_
    split
    · exact sized_startConnector.andThen fun _ => .fail _
    · exact sized_serviceReattachments ih clamped fuel

end Mult.Client
