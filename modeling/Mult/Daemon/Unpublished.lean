import Mult.Daemon.RegistryInvariant

/-! A spawned pane that is not published yet: only its create knows it, so no session number
leads to it and its reader and waiter have not started.
-/

set_option autoImplicit false

namespace Mult.Daemon
open Foundation Protocol
open Std (TreeMap)

/-- Nobody works on the pane yet. -/
structure Pane.Idle (pane : Pane) : Prop where
  free : pane.replaying = false
  reader : pane.reader = .unstarted
  waiter : pane.waiter = .unstarted

def Unshared (server : Server) : Prop :=
  ∀ thread ref, server.unpublishedOf thread = some ref →
    ∃ pane, server.panes[ref]? = some pane ∧ pane.Idle

theorem Registered.unrouted {server : Server} (registered : Registered server) {thread : Nat}
    {ref : PaneRef} (unpublished : server.unpublishedOf thread = some ref) (session : SessionId) :
    server.state.sessions[session]? ≠ some ref := by
  intro routed
  obtain ⟨label, labelled, held⟩ := registered.unpublished thread ref unpublished
  obtain ⟨known, labelled', rfl, -⟩ := registered.live session ref routed
  rw [labelled] at labelled'
  cases labelled'
  rw [(registered.fresh _ _ _ held).1] at routed
  cases routed

section
variable {server next : Server} {ref : PaneRef} {pane after : Pane}

theorem unshared_kept (unshared : Unshared server) (panes : next.panes = server.panes)
    (unpublished : ∀ thread ref, next.unpublishedOf thread = some ref →
      server.unpublishedOf thread = some ref) : Unshared next := by
  intro thread target known
  rw [panes]
  exact unshared thread target (unpublished thread target known)

theorem unshared_set (unshared : Unshared server) (present : server.panes[ref]? = some pane)
    (panes : next.panes = server.panes.set ref after)
    (unpublished : ∀ thread ref, next.unpublishedOf thread = some ref →
      server.unpublishedOf thread = some ref)
    (still : ∀ thread, next.unpublishedOf thread = some ref → pane.Idle → after.Idle) :
    Unshared next := by
  intro thread target known
  have before := unpublished thread target known
  obtain ⟨old, found, free⟩ := unshared thread target before
  rw [panes, List.getElem?_set]
  split
  · next here =>
    subst here
    rw [present] at found
    cases found
    exact ⟨after, by simp [(List.getElem?_eq_some_iff.mp present).1], still thread known free⟩
  · exact ⟨old, found, free⟩

theorem unpublished_of (holdings : SameHoldings server next) (thread : Nat) (ref : PaneRef)
    (known : next.unpublishedOf thread = some ref) : server.unpublishedOf thread = some ref := by
  rw [← holdings.unpublished]
  exact known

end

theorem PaneStep.idle {ref : PaneRef} {pane after : Pane} {events : List Event}
    (stepped : PaneStep ref pane after events) (idle : pane.Idle) : after.Idle := by
  obtain ⟨free, reader, waiter⟩ := idle
  -- Every step of the reader or the waiter needs it to have started.
  cases stepped with
  | ptyWriter => exact ⟨free, reader, waiter⟩
  | probed => exact ⟨free, reader, waiter⟩
  | driverMoved => exact ⟨free, reader, waiter⟩
  | driverRestored => exact ⟨free, reader, waiter⟩
  | driverFailed => exact ⟨free, reader, waiter⟩
  | _ => simp_all

theorem Effect.unshared {server next : Server} {events : List Event}
    (effect : Effect server next events) (registered : Registered server)
    (unshared : Unshared server) : Unshared next := by
  -- A thread that moves on without its pane leaves the other threads' panes alone.
  have dropped {thread : Nat} {before after : Handler} {next : Server}
      (found : server.handlers[thread]? = some before)
      (handlers : next.handlers = server.handlers.set thread after)
      (nothing : after.unpublished = none) (other : Nat) (ref : PaneRef)
      (known : next.unpublishedOf other = some ref) : server.unpublishedOf other = some ref := by
    rw [unpublishedOf_set found handlers, nothing] at known
    split at known
    · cases known
    · exact known
  cases effect with
  | quiet quiet =>
    exact unshared_kept unshared quiet.panes
      (unpublished_of (holdings_quiet (labelOf_same quiet.panes) quiet.handlers))
  | shutdown panes handlers _ =>
    exact unshared_kept unshared panes (unpublished_of (holdings_same (labelOf_same panes) handlers))
  | retryRefused quiet _ =>
    exact unshared_kept unshared quiet.panes
      (unpublished_of (holdings_quiet (labelOf_same quiet.panes) quiet.handlers))
  | validated found _ => exact unshared_kept unshared rfl (dropped found rfl rfl)
  | queued found present _ same panes _ handlers =>
    exact unshared_set unshared present panes (dropped found handlers rfl)
      fun _ _ idle => by rw [same]; exact ⟨idle.free, idle.reader, idle.waiter⟩
  | reserved found _ => exact unshared_kept unshared rfl (dropped found rfl rfl)
  | @spawned thread conn request session child found =>
    intro other target known
    rw [unpublishedOf_set found rfl] at known
    simp only [Server.goto, List.getElem?_append]
    split at known
    · cases known
      refine ⟨spawnPane session request child, ?_, rfl, rfl, rfl⟩
      simp
    · obtain ⟨pane, present, free⟩ := unshared other target known
      rw [if_pos (List.getElem?_eq_some_iff.mp present).1]
      exact ⟨pane, present, free⟩
  | @published thread conn request session ref pane state found present _ _ =>
    refine unshared_set unshared present rfl (dropped found rfl rfl) fun other known _ => ?_
    -- No other create can know the pane: it would hold the same reservation.
    rw [unpublishedOf_set found rfl] at known
    split at known
    · cases known
    · next elsewhere =>
      obtain ⟨label, labelled, held⟩ := registered.unpublished other ref known
      obtain ⟨own, labelled', mine⟩ := registered.unpublished thread ref
        (by simp [Server.unpublishedOf, found, Handler.unpublished])
      rw [labelled] at labelled'
      cases labelled'
      exact absurd (registered.exclusive _ _ _ _ _ _ mine held (.inl rfl)) elsewhere
  | discarded found present =>
    exact unshared_set unshared present rfl (dropped found rfl rfl) fun _ _ idle => ⟨idle.free, idle.reader, idle.waiter⟩
  | released found =>
    exact unshared_kept unshared rfl (dropped found rfl (Server.afterRejection_holds _ _ _).2.1)
  | refitted present panes _ handlers =>
    exact unshared_set unshared present panes
      (unpublished_of (holdings_quiet (labelOf_set present panes rfl) handlers))
      fun _ _ idle => ⟨idle.free, idle.reader, idle.waiter⟩
  | rebound found attach _ panes _ handlers =>
    exact unshared_set unshared attach.found panes (dropped found handlers rfl)
      fun other known _ => absurd attach.routed
        (registered.unrouted (dropped found handlers rfl other _ known) _)
  | granted found attach _ panes _ handlers =>
    exact unshared_set unshared attach.found panes (dropped found handlers rfl)
      fun other known _ => absurd attach.routed
        (registered.unrouted (dropped found handlers rfl other _ known) _)
  | unlocked found present =>
    exact unshared_set unshared present rfl (dropped found rfl rfl)
      fun _ _ idle => ⟨rfl, idle.reader, idle.waiter⟩
  | resized found accepted same =>
    subst same
    exact unshared_set unshared accepted.found rfl (dropped found rfl rfl) fun _ _ idle => ⟨idle.free, idle.reader, idle.waiter⟩
  | detached found accepted =>
    exact unshared_set unshared accepted.found rfl (dropped found rfl rfl) fun _ _ idle => ⟨idle.free, idle.reader, idle.waiter⟩
  | stopAccepted found present _ _ _ =>
    exact unshared_set unshared present rfl (dropped found rfl rfl) fun _ _ idle => ⟨idle.free, idle.reader, idle.waiter⟩
  | stopSkipped found _ _ panes _ handlers =>
    exact unshared_kept unshared panes (dropped found handlers rfl)
  | stopStarted present _ _ panes _ handlers =>
    have unpublished : ∀ thread ref, next.unpublishedOf thread = some ref →
        server.unpublishedOf thread = some ref := by
      rcases handlers with handlers | ⟨thread, conn, found, handlers⟩
      · exact unpublished_of (holdings_same (labelOf_set present panes rfl) handlers)
      · exact dropped found handlers rfl
    exact unshared_set unshared present panes unpublished fun _ _ idle => ⟨idle.free, idle.reader, idle.waiter⟩
  | pane present stepped panes _ handlers =>
    exact unshared_set unshared present panes
      (unpublished_of (holdings_same (labelOf_set present panes stepped.label) handlers))
      fun _ _ idle => stepped.idle idle
  | finalized present _ _ _ _ finalizer panes _ handlers =>
    refine unshared_set unshared present panes
      (unpublished_of (holdings_same (labelOf_set present panes ?_) handlers)) fun _ _ free => ?_
    · cases finalizer <;> rfl
    · obtain ⟨-, reader, waiter⟩ := free
      cases finalizer with
      | reader phase => rw [phase] at reader; cases reader
      | waiter phase => rw [phase] at waiter; cases waiter

theorem unshared_of_reaches {server : Server} {past : List Event}
    (run : daemon.Reaches server past) : Unshared server := by
  refine run.invariant (motive := fun server _ => Unshared server) ?_ ?_
  · rintro state ⟨serverInstance, rfl⟩ thread ref known
    simp [Server.new, Server.unpublishedOf] at known
  · intro state next past events action earlier unshared _ stepped
    exact (step_effect stepped).unshared (registered_of_reaches earlier) unshared

end Mult.Daemon
