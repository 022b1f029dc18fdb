import Mult.Client.Resizing

/-! What the client does from one frame to the next, and that the size of a screen outlasts it.

Only what starts, attaches, resizes or removes the very pane can give its screen another size.
-/

set_option autoImplicit false

namespace Mult.Client
open Foundation Protocol
open Foundation.Program (Keeps)
open Project (PtyKey)

section
variable {H : Type} {terminal : PtyKey} {right : PtyDimensions → Prop}

theorem sized_identityForKey (other : PtyKey) :
    Keeps (Sized terminal right) (identityForKey other : ClientProgram H SessionIdentity)
      fun _ => True := by
  refine (sized_look _).andThen fun identity => ?_
  cases identity with
  | none => exact .fail _
  | some identity => exact .pure trivial

theorem sized_registerSessionIdentity (other : PtyKey) (identity : SessionIdentity) :
    Keeps (Sized terminal right) (registerSessionIdentity other identity : ClientProgram H Unit)
      fun _ => True := by
  refine (sized_look _).andThen fun bound => ?_
  cases bound with
  | none => exact sized_editPane other fun _ => rfl
  | some current =>
    dsimp only
    split
    · exact .fail _
    · exact sized_editPane other fun _ => rfl

theorem sized_registerAgentSession (other : PtyKey) (metadata : AgentSessionMetadata) :
    Keeps (Sized terminal right) (registerAgentSession other metadata : ClientProgram H Unit)
      fun _ => True := by
  refine (sized_look _).andThen fun running => (sized_look _).andThen fun entry => ?_
  split
  · exact .fail _
  · split
    · exact .fail _
    · split
      · exact .fail _
      · exact sized_editPane other fun _ => rfl

theorem sized_appendTerminalSystemLine (other : PtyKey) (message : String) :
    Keeps (Sized terminal right) (appendTerminalSystemLine other message : ClientProgram H Unit)
      fun _ => True :=
  sized_act _ fun runtime => .editPane runtime other fun _ _ held => held.feed _

theorem KeepsSize.removeTerminal (runtime : PtyRuntime) {other : PtyKey} (spared : other ≠ terminal) :
    KeepsSize terminal right runtime (runtime.removeTerminal other) := by
  refine ⟨fun held => ?_, fun _ member => member⟩
  dsimp only [PtyRuntime.removeTerminal]
  rw [Function.update_of_ne (Ne.symm spared)]
  exact held

theorem sized_removeTerminal {other : PtyKey} (spared : other ≠ terminal) :
    Keeps (Sized terminal right) (removeTerminal other : ClientProgram H Unit) fun _ => True :=
  sized_change fun runtime => .removeTerminal runtime spared

theorem sized_setStarting (starting : Option PtyKey) :
    Keeps (Sized terminal right) (setStarting starting : ClientProgram H Unit) fun _ => True :=
  sized_change fun _ => .of_eq rfl rfl

theorem sized_bindPane (other : PtyKey) (pane : PaneId) :
    Keeps (Sized terminal right)
      (change fun runtime => runtime.bindPane other pane : ClientProgram H Unit) fun _ => True :=
  sized_change fun runtime => by
    have edited := @KeepsSize.editPane terminal right runtime other
      (fun entry => { entry with attachment := some pane }) fun _ _ held => held
    exact ⟨edited.screen, edited.deferred⟩

end

/-! ## Sessions -/

section
variable {H : Type} {terminal : PtyKey} {right : PtyDimensions → Prop} (around : Surroundings)
  (clamped : ∀ size, right size → right size.clamped) (fuel : Nat)

theorem mem_reapStops {time since : Nat} {stops : List PendingStop} {deferred : List ServerMessage}
    {message : ServerMessage} (left : message ∈ (reapStops time since stops deferred).2.2) :
    message ∈ deferred := by
  induction stops generalizing deferred with
  | nil => exact left
  | cons stop rest ih =>
    unfold reapStops at left
    split at left
    · next taken => exact (mem_takeDeferred taken).2 _ (ih left)
    · next taken => exact (mem_takeDeferred taken).2 _ (ih left)
    · dsimp only at left
      split at left
      · exact ih left
      · exact ih left

theorem sized_reapPendingStops :
    Keeps (Sized terminal right) (reapPendingStops : ClientProgram H (List Raised))
      fun _ => True := by
  refine (sized_look _).andThen fun pending => ?_
  split
  · exact .pure trivial
  · refine sized_now.andThen fun time => .perform fun world sized => ⟨?_, trivial⟩
    exact ⟨⟨fun message member => sized.deferred message (mem_reapStops member), sized.coming⟩,
      sized.screen⟩

theorem sized_scrollParser (other : PtyKey) (up : Bool) (rows : Nat) :
    Keeps (Sized terminal right) (scrollParser around other up rows : ClientProgram H Bool)
      fun _ => True := by
  have has : Keeps (Sized (H := H) terminal right) (view fun runtime => runtime.parser other)
      fun found => ∀ parser, found = some parser → other = terminal → right parser.size := by
    refine sized_view fun world sized parser found same => ?_
    subst same
    obtain ⟨shown, present, is⟩ := sized.screen
    cases found.symm.trans present
    exact is
  refine has.bind fun found known => ?_
  cases found with
  | none => exact .pure trivial
  | some parser =>
    dsimp only
    split
    · exact .pure trivial
    · refine Keeps.andThen (sized_change fun runtime => .editPane runtime other
        fun same _ _ => ⟨_, rfl, ?_⟩) fun _ => .pure trivial
      simpa using known parser rfl same

theorem sized_allocateStopRequest :
    Keeps (Sized terminal right) (allocateStopRequest : ClientProgram H RequestId)
      fun _ => True := by
  refine (sized_look _).andThen fun pending => ?_
  split
  · exact .fail _
  · refine (sized_look _).andThen fun requestId => ?_
    cases requestId with
    | none => exact .fail _
    | some requestId =>
      exact Keeps.andThen (sized_act _ fun _ => .of_eq rfl rfl) fun _ => .pure trivial

include clamped

theorem sized_attachExisting (other : PtyKey) {wanted : PtyDimensions}
    (asks : other = terminal → right wanted.clamped) : Keeps (Sized terminal right)
      (attachExisting around fuel other wanted : ClientProgram H AttachExistingResult)
      fun _ => True := by
  have again : other = terminal → right wanted.clamped.clamped := fun same => clamped _ (asks same)
  have ensured := @sized_ensureConnected H terminal right around clamped fuel
  refine (sized_look _).andThen fun running => ?_
  split
  · exact .pure trivial
  · refine ensured.andThen fun _ => (sized_identityForKey other).andThen fun identity =>
      (sized_look _).andThen fun attached => ?_
    split
    · exact .pure trivial
    · refine Keeps.andThen (sized_resetParser other again) fun _ =>
        (sized_bindPane other _).andThen fun _ => sized_allocateRequest.andThen fun requestId =>
          (sized_performAttach ensured fuel other _ again requestId _).attempt.andThen
            fun result => (sized_finishRequest requestId).andThen fun _ => ?_
      cases result with
      | ok done => exact .pure trivial
      | error error =>
        dsimp only
        split
        · exact (sized_clearAttachment _).andThen fun _ => .pure trivial
        · split
          · exact .fail _
          · exact (sized_clearAttachment _).andThen fun _ => .fail _

theorem sized_awaitStopForSession (session : SessionId) (turns : Nat) :
    Keeps (Sized terminal right)
      (awaitStopForSession around fuel session turns : ClientProgram H Unit) fun _ => True := by
  induction turns with
  | zero => exact .wait
  | succ turns ih =>
    refine sized_reapPendingStops.andThen fun events => (sized_pushEvents events).andThen fun _ =>
      (sized_look _).andThen fun stop => ?_
    cases stop with
    | none => exact .pure trivial
    | some stop =>
      refine sized_now.andThen fun time => ?_
      split
      · exact ih
      · refine (sized_look _).andThen fun connection => ?_
        cases connection with
        | none => exact .pure trivial
        | some number =>
          refine sized_receive.bind fun received named => ?_
          cases received with
          | message message =>
            exact (sized_routeDuringRequest (sized_ensureConnected around clamped fuel)
              (named message rfl)).andThen fun _ => ih
          | nothing => exact ih
          | closed => exact sized_disconnect

theorem sized_createLoop (identity : SessionIdentity) (session : SessionId) (requestId : RequestId)
    (request : ClientMessage) (deadline turns : Nat) : Keeps (Sized terminal right)
      (createLoop around fuel identity session requestId request deadline turns :
        ClientProgram H Unit) fun _ => True := by
  induction turns with
  | zero => exact .wait
  | succ turns ih =>
    refine (sized_receiveForRequest turns requestId deadline).attempt.bind fun result named => ?_
    cases result with
    | error error =>
      dsimp only
      split
      · exact (sized_resumeAndResend request).andThen fun _ => ih
      · exact .fail _
    | ok message =>
      have routed := @sized_routeDuringRequest H terminal right around _
        (sized_ensureConnected around clamped fuel) message (named message rfl)
      cases message with
      | createResult received outcome =>
        dsimp only
        split
        · cases outcome with
          | created created =>
            dsimp only
            split
            · exact .pure trivial
            · exact .fail _
          | error error => exact .fail _
        · exact routed.andThen fun _ => ih
      | error code message => exact .fail _
      | _ => exact routed.andThen fun _ => ih

theorem sized_performCreate (identity : SessionIdentity) (session : SessionId)
    (requestId : RequestId) (request : ClientMessage) : Keeps (Sized terminal right)
      (performCreate around fuel identity session requestId request : ClientProgram H Unit)
      fun _ => True :=
  (sized_writeIdempotentRequest (sized_ensureConnected around clamped fuel) request).andThen
    fun _ => sized_now.andThen fun _ => sized_createLoop around clamped fuel _ _ _ _ _ _

omit clamped in
theorem sized_settle {A : Type} (pane : PaneId) (requestId : RequestId)
    {program : ClientProgram H A} (runs : Keeps (Sized terminal right) program fun _ => True) :
    Keeps (Sized terminal right) (settle pane requestId program) fun _ => True := by
  refine runs.attempt.andThen fun result => (sized_finishRequest requestId).andThen fun _ => ?_
  cases result with
  | ok value => exact .pure trivial
  | error error =>
    dsimp only
    split
    · exact .fail _
    · exact (sized_clearAttachment pane).andThen fun _ => .fail _

theorem sized_startAttached (spawn : PtySpawn)
    (asks : spawn.terminal = terminal → right spawn.size.clamped) : Keeps (Sized terminal right)
      (startAttached around fuel spawn : ClientProgram H Unit) fun _ => True := by
  have ensured := @sized_ensureConnected H terminal right around clamped fuel
  refine ensured.andThen fun _ => Keeps.andThen (sized_resetParser spawn.terminal asks) fun _ =>
    (sized_look _).andThen fun agent => (sized_identityForKey spawn.terminal).andThen
      fun identity => ?_
  exact (sized_awaitStopForSession around clamped fuel _ fuel).andThen fun _ =>
    (sized_bindPane spawn.terminal _).andThen fun _ => sized_allocateRequest.andThen
      fun createId => (sized_settle _ _ (sized_performCreate around clamped fuel _ _ _ _)).andThen
        fun _ => sized_allocateRequest.andThen fun attachId =>
          sized_settle _ _ (sized_performAttach ensured fuel spawn.terminal _ asks attachId _)

theorem sized_launch (spawn : PtySpawn)
    (asks : spawn.terminal = terminal → right spawn.size.clamped) : Keeps (Sized terminal right)
      (launch around fuel spawn : ClientProgram H Unit) fun _ => True := by
  refine (sized_setStarting _).andThen fun _ =>
    (sized_startAttached around clamped fuel spawn asks).attempt.andThen fun result =>
      (sized_setStarting _).andThen fun _ => ?_
  cases result with
  | ok done => exact .pure trivial
  | error error => exact .fail _

theorem sized_start (spawn : PtySpawn)
    (asks : spawn.terminal = terminal → right spawn.size.clamped) : Keeps (Sized terminal right)
      (start around fuel spawn : ClientProgram H Unit) fun _ => True := by
  have again : spawn.terminal = terminal → right spawn.size.clamped.clamped :=
    fun same => clamped _ (asks same)
  have launched := @sized_launch H terminal right around clamped fuel
    { spawn with size := spawn.size.clamped } again
  refine (sized_look _).andThen fun running => ?_
  split
  · exact .fail _
  · refine (sized_look _).andThen fun bound => ?_
    split
    · refine (sized_attachExisting around clamped fuel spawn.terminal again).andThen
        fun found => ?_
      cases found with
      | attached => exact .pure trivial
      | missing => exact launched
    · exact launched

theorem sized_stopAsync (other : PtyKey) : Keeps (Sized terminal right)
    (stopAsync around fuel other : ClientProgram H Bool) fun _ => True := by
  have ensured := @sized_ensureConnected H terminal right around clamped fuel
  refine (sized_look _).andThen fun attached => ?_
  cases attached with
  | none => exact .pure trivial
  | some pane =>
    exact ensured.andThen fun _ => (sized_leaseForPane pane).andThen fun lease =>
      (sized_note _).andThen fun _ => (sized_identityForKey other).andThen fun identity =>
        sized_allocateStopRequest.andThen fun requestId => (sized_look _).andThen fun label =>
          (sized_writeIdempotentRequest ensured _).andThen fun _ =>
            (sized_clearAttachment pane).andThen fun _ =>
              Keeps.andThen (sized_editPane other fun _ => rfl) fun _ => sized_now.andThen fun time =>
                Keeps.andThen (sized_change fun _ => .of_eq rfl rfl) fun _ => .pure trivial

theorem sized_agentStatusLoop (requestId : RequestId) (request : ClientMessage)
    (deadline turns : Nat) : Keeps (Sized terminal right)
      (agentStatusLoop around fuel requestId request deadline turns :
        ClientProgram H AgentStatusOutcome) fun _ => True := by
  induction turns with
  | zero => exact .wait
  | succ turns ih =>
    refine (sized_receiveForRequest turns requestId deadline).attempt.bind fun result named => ?_
    cases result with
    | error error =>
      dsimp only
      split
      · exact (sized_resumeAndResend request).andThen fun _ => ih
      · exact .fail _
    | ok message =>
      have routed := @sized_routeDuringRequest H terminal right around _
        (sized_ensureConnected around clamped fuel) message (named message rfl)
      cases message with
      | agentStatusResult received outcome =>
        dsimp only
        split
        · exact .pure trivial
        · exact routed.andThen fun _ => ih
      | error code message => exact .fail _
      | _ => exact routed.andThen fun _ => ih

theorem sized_statusRequest (request : RequestId → ClientMessage) : Keeps (Sized terminal right)
    (statusRequest around fuel request : ClientProgram H AgentStatusOutcome) fun _ => True := by
  have performed (requestId : RequestId) : Keeps (Sized (H := H) terminal right)
      (performAgentStatus around fuel requestId (request requestId)) fun _ => True :=
    (sized_writeIdempotentRequest (sized_ensureConnected around clamped fuel) _).andThen
      fun _ => sized_now.andThen fun _ => sized_agentStatusLoop around clamped fuel _ _ _ _
  refine sized_allocateRequest.andThen fun requestId =>
    (performed requestId).attempt.andThen fun result =>
      (sized_finishRequest requestId).andThen fun _ => ?_
  cases result with
  | ok outcome => exact .pure trivial
  | error error => exact .fail _

theorem sized_updateAgentStatus (record : AgentStatusRecord) : Keeps (Sized terminal right)
    (updateAgentStatus around fuel record : ClientProgram H AgentStatusRecord)
    fun _ => True := by
  refine (sized_statusRequest around clamped fuel _).andThen fun outcome => ?_
  cases outcome with
  | updated record => exact .pure trivial
  | _ => exact .fail _

theorem sized_getAgentStatus (query : AgentStatusQuery) : Keeps (Sized terminal right)
    (getAgentStatus around fuel query : ClientProgram H (Option AgentStatusRecord))
    fun _ => True := by
  refine (sized_statusRequest around clamped fuel _).andThen fun outcome => ?_
  cases outcome with
  | current record => exact .pure trivial
  | _ => exact .fail _

theorem sized_sendInput (other : PtyKey) (input : Bytes) : Keeps (Sized terminal right)
    (sendInput around fuel other input : ClientProgram H Bool) fun _ => True := by
  refine (sized_look _).andThen fun attached => ?_
  cases attached with
  | none => exact .pure trivial
  | some pane =>
    exact (sized_sendInputInner (sized_ensureConnected around clamped fuel) _ _ _ _).andThen
      fun _ => .pure trivial

theorem sized_sendPaste (other : PtyKey) (pasteBytes : Bool → Bytes) : Keeps (Sized terminal right)
    (sendPaste around fuel other pasteBytes : ClientProgram H Bool) fun _ => True := by
  refine (sized_look _).andThen fun attached => ?_
  cases attached with
  | none => exact .pure trivial
  | some pane =>
    have sends (bytes : Bytes) : Keeps (Sized (H := H) terminal right)
        (ensureConnected around fuel >>= fun _ => leaseForPane pane >>= fun lease =>
          writeNonReplayable (.paste pane lease bytes) .paste pane >>= fun _ => pure true)
        fun _ => True :=
      (sized_ensureConnected around clamped fuel).andThen fun _ =>
        (sized_leaseForPane pane).andThen fun _ =>
          (sized_writeNonReplayable _ _ _).andThen fun _ => .pure trivial
    refine (sized_look _).andThen fun bracketed => ?_
    dsimp only
    split
    · exact sends _
    · exact Keeps.andThen (sized_change fun runtime => .endScrollback runtime other)
        fun _ => sends _

theorem sized_sendSynthetic (other : PtyKey) (bytes : Bytes) : Keeps (Sized terminal right)
    (sendSynthetic around fuel other bytes : ClientProgram H Bool) fun _ => True := by
  refine (sized_look _).andThen fun attached => ?_
  cases attached with
  | none => exact .pure trivial
  | some pane =>
    refine (sized_sendInputInner (sized_ensureConnected around clamped fuel) _ _ _ _).attempt.andThen
      fun result => ?_
    cases result with
    | ok done => exact .pure trivial
    | error error => exact (sized_pushEvent _).andThen fun _ => .pure trivial

theorem sized_forwardMouse (other : PtyKey) (report : Parser → Option Bytes) :
    Keeps (Sized terminal right) (forwardMouse around fuel other report : ClientProgram H Bool)
      fun _ => True := by
  refine (sized_look _).andThen fun bytes => ?_
  cases bytes with
  | none => exact .pure trivial
  | some bytes => exact sized_sendSynthetic around clamped fuel other bytes

theorem sized_forwardAlternateScroll (other : PtyKey) (keys : Parser → Option Bytes) :
    Keeps (Sized terminal right)
      (forwardAlternateScroll around fuel other keys : ClientProgram H Bool) fun _ => True := by
  refine (sized_look _).andThen fun running => ?_
  split
  · refine (sized_look _).andThen fun bytes => ?_
    cases bytes with
    | none => exact .pure trivial
    | some bytes =>
      exact (sized_sendSynthetic around clamped fuel other bytes).andThen fun _ => .pure trivial
  · exact .pure trivial

theorem sized_sendFocus (other : PtyKey) (gained : Bool) : Keeps (Sized terminal right)
    (sendFocus around fuel other gained : ClientProgram H Bool) fun _ => True := by
  refine (sized_look _).andThen fun reports => ?_
  split
  · exact sized_sendSynthetic around clamped fuel other _
  · exact .pure trivial

theorem sized_setFocusedPane (focused : Option PtyKey) : Keeps (Sized terminal right)
    (setFocusedPane around fuel focused : ClientProgram H Unit) fun _ => True := by
  refine (sized_look _).andThen fun before => ?_
  split
  · exact .pure trivial
  · cases before with
    | none =>
      refine Keeps.andThen (sized_change fun _ => .of_eq rfl rfl) fun _ => ?_
      cases focused with
      | none => exact .pure trivial
      | some gaining =>
        exact (sized_sendFocus around clamped fuel gaining true).andThen fun _ => .pure trivial
    | some previous =>
      refine Keeps.andThen (sized_change fun _ => .of_eq rfl rfl) fun _ =>
        (sized_sendFocus around clamped fuel previous false).andThen fun _ =>
          Keeps.andThen (sized_change fun _ => .of_eq rfl rfl) fun _ => ?_
      cases focused with
      | none => exact .pure trivial
      | some gaining =>
        exact (sized_sendFocus around clamped fuel gaining true).andThen fun _ => .pure trivial

theorem sized_resizeAgain (other : PtyKey) {wanted : PtyDimensions}
    (asks : other = terminal → right wanted.clamped) : Keeps (Sized terminal right)
      (resize around fuel other wanted : ClientProgram H Unit) fun _ => True := by
  refine Keeps.andThen (sized_change fun runtime => .editPane runtime other fun same _ _ =>
    PtyPane.hasSize_resize (clamped _ (asks same))) fun _ => (sized_look _).andThen fun attached => ?_
  cases attached with
  | none => exact .pure trivial
  | some pane =>
    refine (sized_ensureConnected around clamped fuel).andThen fun _ =>
      (sized_leaseForPane pane).andThen fun lease =>
        (sized_writeNonReplayable _ _ _).attempt.andThen fun result => ?_
    cases result with
    | ok done => exact .pure trivial
    | error error => exact (sized_pushEvent _).andThen fun _ => .fail error

theorem sized_drainLoop (messages outputBytes : Nat) (events : List Raised) (turns : Nat) :
    Keeps (Sized terminal right)
      (drainLoop around fuel messages outputBytes events turns : ClientProgram H (List Raised))
      fun _ => True := by
  induction turns generalizing messages outputBytes events with
  | zero => exact .wait
  | succ turns ih =>
    refine (sized_look _).andThen fun connection => ?_
    cases connection with
    | none => exact .pure trivial
    | some number =>
      dsimp only
      split
      · exact Keeps.andThen (sized_change fun _ => .of_eq rfl rfl) fun _ => .pure trivial
      · refine sized_receive.bind fun received named => ?_
        cases received with
        | message message =>
          exact (sized_handleServerMessage (sized_ensureConnected around clamped fuel)
            (named message rfl) events).andThen fun events => ih _ _ events
        | nothing => exact .pure trivial
        | closed => exact sized_disconnect.andThen fun _ => .pure trivial

omit clamped in
theorem sized_retryConnectionIfDue :
    Keeps (Sized terminal right) (retryConnectionIfDue : ClientProgram H Unit) fun _ => True := by
  refine (sized_look _).andThen fun idle => ?_
  split
  · exact .pure trivial
  · refine sized_backingOff.andThen fun waits => ?_
    split
    · exact .pure trivial
    · exact sized_startConnector

omit clamped in
theorem sized_takePendingEvents :
    Keeps (Sized terminal right) (takePendingEvents : ClientProgram H (List Raised))
      fun _ => True :=
  .perform fun _ sized => ⟨⟨⟨sized.deferred, sized.coming⟩, sized.screen⟩, trivial⟩

theorem sized_drainEvents : Keeps (Sized terminal right)
    (drainEvents around fuel : ClientProgram H (List Raised)) fun _ => True := by
  have rest (events : List Raised) : Keeps (Sized (H := H) terminal right) (do
      let failed ← reapPendingStops
      serviceReattachments around (ensureConnected around fuel) fuel
      retryConnectionIfDue
      let later ← takePendingEvents
      pure (events ++ failed ++ later)) fun _ => True :=
    sized_reapPendingStops.andThen fun _ =>
      (sized_serviceReattachments (sized_ensureConnected around clamped fuel) clamped fuel).andThen
        fun _ => sized_retryConnectionIfDue.andThen fun _ =>
          sized_takePendingEvents.andThen fun _ => .pure trivial
  refine sized_takePendingEvents.andThen fun events =>
    Keeps.andThen (sized_change fun _ => .of_eq rfl rfl) fun _ => sized_pollConnector.andThen
      fun _ => (sized_look _).andThen fun wasConnected =>
        (sized_drainLoop around clamped fuel 0 0 events fuel).andThen fun events =>
          (sized_look _).andThen fun lost => ?_
  dsimp only
  split
  · exact sized_startConnector.andThen fun _ => (sized_reportDisconnect _).andThen fun _ =>
      rest events
  · exact rest events

omit clamped in
theorem sized_connectToSocket :
    Keeps (Sized terminal right) (connectToSocket : ClientProgram H Unit) fun _ => True := by
  refine sized_connectInner.attempt.andThen fun result => ?_
  cases result with
  | ok same => exact .pure trivial
  | error error => exact sized_pushEvent _

omit clamped in
theorem sized_detachAll (keys : List PtyKey) :
    Keeps (Sized terminal right) (detachAll keys : ClientProgram H Unit) fun _ => True := by
  induction keys with
  | nil => exact .pure trivial
  | cons key rest ih =>
    refine (sized_look _).andThen fun entry => ?_
    split
    · exact (sized_write _ false).attempt.andThen fun _ => ih
    · exact ih

omit clamped in
theorem sized_drop :
    Keeps (Sized terminal right) (drop : ClientProgram H Unit) fun _ => True := by
  refine (sized_look _).andThen fun connected => ?_
  dsimp only
  split
  · exact sized_iterationOrder.andThen fun order => (sized_detachAll order).andThen fun _ =>
      sized_disconnect
  · exact sized_disconnect

end

/-! ## From frame to frame -/

/-- What the client is asked to do. -/
inductive Operation where
  | registerSessionIdentity (terminal : PtyKey) (identity : SessionIdentity)
  | registerAgentSession (terminal : PtyKey) (metadata : AgentSessionMetadata)
  | appendTerminalSystemLine (terminal : PtyKey) (message : String)
  | removeTerminal (terminal : PtyKey)
  | scrollParser (terminal : PtyKey) (up : Bool) (rows : Nat)
  | attachExisting (terminal : PtyKey) (size : PtyDimensions)
  | start (spawn : PtySpawn)
  | stopAsync (terminal : PtyKey)
  | updateAgentStatus (record : AgentStatusRecord)
  | getAgentStatus (query : AgentStatusQuery)
  | sendInput (terminal : PtyKey) (input : Bytes)
  | sendPaste (terminal : PtyKey) (pasteBytes : Bool → Bytes)
  | forwardMouse (terminal : PtyKey) (report : Parser → Option Bytes)
  | forwardAlternateScroll (terminal : PtyKey) (keys : Parser → Option Bytes)
  | setFocusedPane (terminal : Option PtyKey)
  | resize (terminal : PtyKey) (size : PtyDimensions)
  | drainEvents
  | connectToSocket
  | drop

namespace Operation

variable {H : Type}

/-- The world behind an operation, however it ends. -/
def perform (around : Surroundings) (fuel : Nat) (world : World H) : Operation → World H
  | registerSessionIdentity terminal identity =>
      (Client.registerSessionIdentity terminal identity world).2
  | registerAgentSession terminal metadata =>
      (Client.registerAgentSession terminal metadata world).2
  | appendTerminalSystemLine terminal message =>
      (Client.appendTerminalSystemLine terminal message world).2
  | removeTerminal terminal => (Client.removeTerminal terminal world).2
  | scrollParser terminal up rows => (Client.scrollParser around terminal up rows world).2
  | attachExisting terminal size => (Client.attachExisting around fuel terminal size world).2
  | start spawn => (Client.start around fuel spawn world).2
  | stopAsync terminal => (Client.stopAsync around fuel terminal world).2
  | updateAgentStatus record => (Client.updateAgentStatus around fuel record world).2
  | getAgentStatus query => (Client.getAgentStatus around fuel query world).2
  | sendInput terminal input => (Client.sendInput around fuel terminal input world).2
  | sendPaste terminal pasteBytes => (Client.sendPaste around fuel terminal pasteBytes world).2
  | forwardMouse terminal report => (Client.forwardMouse around fuel terminal report world).2
  | forwardAlternateScroll terminal keys =>
      (Client.forwardAlternateScroll around fuel terminal keys world).2
  | setFocusedPane terminal => (Client.setFocusedPane around fuel terminal world).2
  | resize terminal size => (Client.resize around fuel terminal size world).2
  | drainEvents => (Client.drainEvents around fuel world).2
  | connectToSocket => (Client.connectToSocket world).2
  | drop => (Client.drop world).2

/-- The operation does not remove the terminal, and asks for a right size where it asks for one. -/
def Spares (terminal : PtyKey) (right : PtyDimensions → Prop) : Operation → Prop
  | removeTerminal other => other ≠ terminal
  | attachExisting other size | resize other size => other = terminal → right size.clamped
  | start spawn => spawn.terminal = terminal → right spawn.size.clamped
  | _ => True

variable {terminal : PtyKey} {right : PtyDimensions → Prop}

theorem sized_perform (around : Surroundings) (fuel : Nat)
    (clamped : ∀ size, right size → right size.clamped) {world : World H} {operation : Operation}
    (spares : operation.Spares terminal right) (sized : Sized terminal right world) :
    Sized terminal right (operation.perform around fuel world) := by
  cases operation with
  | registerSessionIdentity other identity =>
    exact (sized_registerSessionIdentity other identity world sized).1
  | registerAgentSession other metadata =>
    exact (sized_registerAgentSession other metadata world sized).1
  | appendTerminalSystemLine other message =>
    exact (sized_appendTerminalSystemLine other message world sized).1
  | removeTerminal other => exact (sized_removeTerminal spares world sized).1
  | scrollParser other up rows => exact (sized_scrollParser around other up rows world sized).1
  | attachExisting other size =>
    exact (sized_attachExisting around clamped fuel other spares world sized).1
  | start spawn => exact (sized_start around clamped fuel spawn spares world sized).1
  | stopAsync other => exact (sized_stopAsync around clamped fuel other world sized).1
  | updateAgentStatus record =>
    exact (sized_updateAgentStatus around clamped fuel record world sized).1
  | getAgentStatus query => exact (sized_getAgentStatus around clamped fuel query world sized).1
  | sendInput other input => exact (sized_sendInput around clamped fuel other input world sized).1
  | sendPaste other pasteBytes =>
    exact (sized_sendPaste around clamped fuel other pasteBytes world sized).1
  | forwardMouse other report =>
    exact (sized_forwardMouse around clamped fuel other report world sized).1
  | forwardAlternateScroll other keys =>
    exact (sized_forwardAlternateScroll around clamped fuel other keys world sized).1
  | setFocusedPane focused =>
    exact (sized_setFocusedPane around clamped fuel focused world sized).1
  | resize other size => exact (sized_resizeAgain around clamped fuel other spares world sized).1
  | drainEvents => exact (sized_drainEvents around clamped fuel world sized).1
  | connectToSocket => exact (sized_connectToSocket world sized).1
  | drop => exact (sized_drop world sized).1

theorem sized_run (around : Surroundings) (fuel : Nat)
    (clamped : ∀ size, right size → right size.clamped) {operations : List Operation}
    (spares : ∀ operation ∈ operations, operation.Spares terminal right) {world : World H}
    (sized : Sized terminal right world) :
    Sized terminal right (operations.foldl (perform around fuel) world) := by
  induction operations generalizing world with
  | nil => exact sized
  | cons operation rest ih =>
    exact ih (fun other member => spares other (.tail _ member))
      (sized_perform around fuel clamped (spares operation (.head _)) sized)

/-- A pane within the limits that has been given the size of its area is not resized again, whatever
the client does until the area changes. -/
theorem resize_settles {around : Surroundings} {fuel later : Nat} {size : PtyDimensions}
    {world : World H} {operations : List Operation} (within : size.clamped = size)
    (answers : Answers terminal (· = size) world)
    (spares : ∀ operation ∈ operations, operation.Spares terminal (· = size)) :
    let settled := operations.foldl (perform around fuel)
      (Client.resize around fuel terminal size world).2
    resizeIfChanged around later terminal size settled = (.ok false, settled) := by
  have clamped : ∀ other, other = size → other.clamped = size := by
    rintro _ rfl
    exact within
  have resized : Sized terminal (· = size) (Client.resize around fuel terminal size world).2 :=
    sized_resize within clamped answers
  have sized := sized_run around fuel clamped spares resized
  intro settled
  obtain ⟨shown, is, decides⟩ := @ptyDimensionsChanged_iff _ _ size _ _ sized.screen
  refine resizeIfChanged_of_unchanged ?_
  rw [decides, is]
  exact decide_eq_false (not_not.mpr rfl)

end Operation

end Mult.Client
