import Mult.Daemon.Inversion

/-! What a step must have found for each event it causes.
-/

set_option autoImplicit false

namespace Mult.Daemon
open Foundation Protocol

theorem mem_stopAnswers {pane : Pane} {outcome : StopOutcome} {event : Event}
    (member : event ∈ stopAnswers pane outcome) :
    ∃ key response, event = .answered key response := by
  obtain ⟨key, -, rfl⟩ := List.mem_map.mp member
  exact ⟨key, _, rfl⟩

theorem mem_lifecycleEdge {ref : PaneRef} {before after : PaneLifecycle} {event : Event}
    (member : event ∈ lifecycleEdge ref before after) : event = .lifecycle ref before after := by
  unfold lifecycleEdge at member
  split at member
  · cases member
  · exact List.mem_singleton.mp member

theorem mem_exitNotice {ref : PaneRef} {outgoing : Outgoing} {event : Event}
    (member : event ∈ Server.exitNotice ref outgoing) :
    ∃ client lease, event = .exitSent ref client lease := by
  unfold Server.exitNotice at member
  split at member
  · exact ⟨_, _, List.mem_singleton.mp member⟩
  · cases member

def Event.ofPane : Event → Prop
  | .output .. | .lifecycle .. | .exitSent .. | .answered .. | .gaveUp .. | .signalled ..
  | .wrote .. => True
  | _ => False

theorem PaneStep.events_ofPane {ref : PaneRef} {pane after : Pane} {events : List Event}
    (stepped : PaneStep ref pane after events) : ∀ event ∈ events, event.ofPane := by
  intro event member
  cases stepped with
  | ptyWriter _ _ _ _ wrote => obtain ⟨bytes, rfl⟩ := wrote _ member; trivial
  | appended => obtain rfl := List.mem_singleton.mp member; trivial
  | waiterFailed _ _ _ _ => obtain ⟨key, response, rfl⟩ := mem_stopAnswers member; trivial
  | driverFailed _ _ _ _ _ _ =>
    obtain ⟨key, response, rfl⟩ := mem_stopAnswers member; trivial
  | readerNotified _ _ _ => obtain ⟨client, lease, rfl⟩ := mem_exitNotice member; trivial
  | waiterNotified _ _ _ => obtain ⟨client, lease, rfl⟩ := mem_exitNotice member; trivial
  | driverRestored _ _ _ _ _ _ _ _ =>
    rcases List.mem_cons.mp member with rfl | member
    · trivial
    · obtain rfl := mem_lifecycleEdge member; trivial
  | driverMoved _ _ _ _ _ move => obtain ⟨-, group, kill, -, rfl⟩ := move.events _ member; trivial
  | _ => cases member

/-- Why an event happens. -/
inductive Cause (server : Server) : Event → Prop where
  | ofPane {event : Event} : event.ofPane → Cause server event
  | spawned {thread : Nat} {conn : Connection} {request : CreateRequest} {session : SessionId} :
      server.handlers[thread]? = some (.creating conn request (.spawn session)) →
      Cause server (.spawned server.panes.length session request.identity)
  | published {thread : Nat} {conn : Connection} {request : CreateRequest} {session : SessionId}
      {ref : PaneRef} :
      server.handlers[thread]? = some (.creating conn request (.publish session ref)) →
      Cause server (.published ref session)
  | granted {thread : Nat} {conn : Connection} {request : AttachRequest} {ref : PaneRef}
      {pane : Pane} {lease : AttachmentLease} {client : ClientId} :
      server.handlers[thread]? = some (.attaching conn request none) →
      AttachFound server request ref pane → server.state.nextLease = some lease →
      Cause server (.granted ref ⟨conn.scope, lease, client⟩)
  | rebound {thread : Nat} {conn : Connection} {request : AttachRequest} {ref : PaneRef}
      {pane : Pane} {lease : AttachmentLease} :
      server.handlers[thread]? = some (.attaching conn request (some lease)) →
      AttachFound server request ref pane →
      usable pane.state server.transports.isActive conn lease = true →
      Cause server (.rebound ref ⟨conn.scope, lease, conn.client⟩)
  | retryRefused {conn : Connection} {request : AttachRequest} {lease : AttachmentLease}
      {error : AttachError} : RetryRefusal server conn request lease error →
      Cause server (.retryRefused conn request lease error)
  | validated {thread : Nat} {conn : Connection} {paneId : PaneId} {ref : PaneRef} {pane : Pane}
      {lease : AttachmentLease} {bytes : Bytes} {operation : LeaseOperation} :
      server.handlers[thread]? = some (.validating conn paneId lease bytes operation) →
      LeaseAccepted server conn paneId lease ref pane →
      Cause server (.accepted (.leased operation) ref ⟨conn.scope, lease, conn.client⟩)
  | resized {thread : Nat} {conn : Connection} {paneId : PaneId} {ref : PaneRef} {pane : Pane}
      {lease : AttachmentLease} {rows cols : Nat} :
      server.handlers[thread]? = some (.resizing conn paneId lease rows cols) →
      LeaseAccepted server conn paneId lease ref pane →
      Cause server (.accepted (.leased .resize) ref ⟨conn.scope, lease, conn.client⟩)
  | detached {thread : Nat} {conn : Connection} {paneId : PaneId} {ref : PaneRef} {pane : Pane}
      {lease : AttachmentLease} :
      server.handlers[thread]? = some (.detaching conn paneId lease) →
      LeaseAccepted server conn paneId lease ref pane →
      Cause server (.accepted (.leased .detach) ref ⟨conn.scope, lease, conn.client⟩)
  | dropped {ref : PaneRef} : Cause server (.detached ref)
  | queued {thread : Nat} {conn : Connection} {paneId : PaneId} {ref : PaneRef} {pane : Pane}
      {lease : AttachmentLease} {bytes : Bytes} {operation : LeaseOperation}
      {writes : PtyWriteQueue} :
      server.handlers[thread]? = some (.enqueueing conn paneId ref lease bytes operation) →
      server.panes[ref]? = some pane → bytes ≠ [] →
      pane.state.writes.enqueue bytes = .ok writes → Cause server (.queued ref lease bytes)
  | stopped {thread : Nat} {conn : Connection} {request : StopRequest} {ref : PaneRef}
      {pane : Pane} :
      server.handlers[thread]? = some (.stoppingPane conn request ref) →
      server.panes[ref]? = some pane → pane.state.terminated = false →
      pane.state.validateStopLease server.transports.isActive conn.scope conn.client
        request.lease = .ok () →
      Cause server (.accepted .stop ref ⟨conn.scope, request.lease, conn.client⟩)
  | stopAccepted {thread : Nat} {conn : Connection} {request : StopRequest} {ref : PaneRef} :
      server.handlers[thread]? = some (.stoppingPane conn request ref) →
      Cause server (.stopAccepted ref ⟨conn.scope, request.requestId⟩)
  | removed {ref : PaneRef} {pane : Pane} : server.panes[ref]? = some pane →
      pane.finalizable = true → Cause server (.removed ref pane.state.owner)

theorem Effect.cause {server next : Server} {events : List Event}
    (effect : Effect server next events) : ∀ event ∈ events, Cause server event := by
  intro event member
  cases effect with
  | quiet quiet =>
    obtain ⟨key, response, rfl⟩ := quiet.handlers.answers _ member
    exact .ofPane trivial
  | retryRefused _ refusal => obtain rfl := List.mem_singleton.mp member; exact .retryRefused refusal
  | validated found accepted =>
    obtain rfl := List.mem_singleton.mp member
    exact .validated found accepted
  | queued found present queued =>
    split at member
    · cases member
    · next nonempty =>
      obtain rfl := List.mem_singleton.mp member
      exact .queued found present nonempty queued
  | spawned found => obtain rfl := List.mem_singleton.mp member; exact .spawned found
  | published found => obtain rfl := List.mem_singleton.mp member; exact .published found
  | refitted _ _ _ handlers =>
    obtain ⟨key, response, rfl⟩ := handlers.answers _ member
    exact .ofPane trivial
  | rebound found attach bindable =>
    obtain rfl := List.mem_singleton.mp member
    exact .rebound found attach bindable
  | granted found attach available =>
    rcases List.mem_pair.mp member with rfl | rfl
    · exact .ofPane trivial
    · exact .granted found attach available
  | resized found accepted =>
    obtain rfl := List.mem_singleton.mp member
    exact .resized found accepted
  | detached found accepted =>
    rcases List.mem_pair.mp member with rfl | rfl
    · exact .detached found accepted
    · exact .dropped
  | stopAccepted found present alive valid _ =>
    rcases List.mem_append.mp member with member | member
    · rcases List.mem_pair.mp member with rfl | rfl
      · exact .stopped found present alive valid
      · exact .stopAccepted found
    · obtain rfl := mem_lifecycleEdge member
      exact .ofPane trivial
  | stopStarted => obtain rfl := mem_lifecycleEdge member; exact .ofPane trivial
  | pane _ stepped _ _ _ => exact .ofPane (stepped.events_ofPane _ member)
  | finalized present _ ready =>
    rcases List.mem_append.mp member with member | member
    · simp only [List.mem_cons, List.not_mem_nil, or_false] at member
      rcases member with rfl | rfl | rfl
      · exact .ofPane trivial
      · exact .ofPane trivial
      · exact .removed present ready
    · obtain ⟨key, response, rfl⟩ := mem_stopAnswers member
      exact .ofPane trivial
  | _ => cases member

end Mult.Daemon
