import Mult.Daemon.Ownership

/-! When input is queued under the lease that is current: its thread checks the lease under
the locks, but queues the bytes after releasing them, so another thread must not change the
owner in between.
-/

set_option autoImplicit false

namespace Mult.Daemon
open Foundation Protocol

/-- Whether a step took the pane's lease from whoever held it. -/
def takesLease (events : List Event) (ref : PaneRef) : Bool :=
  events.any fun
    | .granted other _ | .detached other => other = ref
    | _ => false

/-- No lease is taken from a pane that a validated input is still to be queued on. -/
def Serialized (server : Server) (action : Action) : Prop :=
  ∀ stepped ∈ step server action, ∀ handler ∈ server.handlers, ∀ window ∈ handler.window,
    takesLease stepped.2 window.1 = false

instance (server : Server) (action : Action) : Decidable (Serialized server action) :=
  inferInstanceAs (Decidable (∀ stepped ∈ step server action, ∀ handler ∈ server.handlers,
    ∀ window ∈ handler.window, takesLease stepped.2 window.1 = false))

/-- The input may still be queued under its lease, or nothing will be. -/
def Queueable (pane : Pane) (lease : AttachmentLease) : Prop :=
  pane.state.writes.closed = true ∨ pane.state.owner.map AttachmentOwner.lease = some lease

def WindowsCurrent (server : Server) : Prop :=
  ∀ thread ref lease, server.windowOf thread = some (ref, lease) →
    ∃ pane, server.panes[ref]? = some pane ∧ Queueable pane lease

section
variable {server next : Server} {ref : PaneRef} {pane after : Pane}

theorem windowOf_set {thread : Nat} {before after : Handler}
    (found : server.handlers[thread]? = some before)
    (handlers : next.handlers = server.handlers.set thread after) (other : Nat) :
    next.windowOf other = if thread = other then after.window else server.windowOf other := by
  unfold Server.windowOf
  rw [handlers, getElem?_set_bind _ _ found]

/-- A thread that goes on without an input leaves the other threads' inputs alone. -/
theorem windowOf_dropped {thread : Nat} {before after : Handler}
    (found : server.handlers[thread]? = some before)
    (handlers : next.handlers = server.handlers.set thread after) (nothing : after.window = none)
    (other : Nat) (window : PaneRef × AttachmentLease)
    (known : next.windowOf other = some window) : server.windowOf other = some window := by
  rw [windowOf_set found handlers, nothing] at known
  split at known
  · cases known
  · exact known

theorem windowOf_quiet {events : List Event} (quiet : QuietHandlers server next events) (other : Nat)
    (window : PaneRef × AttachmentLease) (known : next.windowOf other = some window) :
    server.windowOf other = some window := by
  cases quiet with
  | same handlers => unfold Server.windowOf at known ⊢; rwa [handlers] at known
  | joined client handlers =>
    unfold Server.windowOf at known ⊢
    rwa [handlers, getElem?_append_bind _ _ rfl] at known
  | moved found handlers move _ =>
    exact windowOf_dropped found handlers move.window other window known

theorem windowsCurrent_kept (current : WindowsCurrent server) (panes : next.panes = server.panes)
    (windows : ∀ thread window, next.windowOf thread = some window →
      server.windowOf thread = some window) : WindowsCurrent next := by
  intro thread target lease known
  rw [panes]
  exact current thread target lease (windows thread _ known)

theorem windowsCurrent_set (current : WindowsCurrent server)
    (present : server.panes[ref]? = some pane) (panes : next.panes = server.panes.set ref after)
    (windows : ∀ thread window, next.windowOf thread = some window →
      server.windowOf thread = some window)
    (still : ∀ thread lease, server.windowOf thread = some (ref, lease) →
      Queueable pane lease → Queueable after lease) : WindowsCurrent next := by
  intro thread target lease known
  have before := windows thread _ known
  obtain ⟨old, found, queueable⟩ := current thread target lease before
  rw [panes, List.getElem?_set]
  split
  · next here =>
    subst here
    rw [present] at found
    cases found
    exact ⟨after, by simp [(List.getElem?_eq_some_iff.mp present).1],
      still thread lease before queueable⟩
  · exact ⟨old, found, queueable⟩

end

theorem enqueue_closed {queue queued : PtyWriteQueue} {bytes : Bytes}
    (accepted : queue.enqueue bytes = .ok queued) : queued.closed = queue.closed := by
  unfold PtyWriteQueue.enqueue at accepted
  split at accepted
  · cases accepted; rfl
  · split at accepted
    · cases accepted
    · split at accepted
      · cases accepted
      · cases accepted; rfl

theorem PaneStep.closed {ref : PaneRef} {pane after : Pane} {events : List Event}
    (stepped : PaneStep ref pane after events) (closed : pane.state.writes.closed = true) :
    after.state.writes.closed = true := by
  cases stepped with
  | ptyWriter _ _ _ kept _ => exact kept closed
  | appended bytes sequence state scheduled poll free reading appended =>
    obtain ⟨nextOutput, rawHistory, historyStart, rfl⟩ := appendRawHistory_frame appended
    exact closed
  | readFailed bytes state free reading appended =>
    obtain ⟨nextOutput, rawHistory, historyStart, rfl⟩ := appendRawHistory_frame appended
    exact closed
  | _ => exact closed

theorem PaneStep.queueable {ref : PaneRef} {pane after : Pane} {events : List Event}
    {lease : AttachmentLease} (stepped : PaneStep ref pane after events)
    (queueable : Queueable pane lease) : Queueable after lease := by
  rcases queueable with closed | current
  · exact .inl (stepped.closed closed)
  · exact .inr (stepped.owner ▸ current)

theorem Effect.windowsCurrent {server next : Server} {events : List Event}
    (effect : Effect server next events)
    (serialized : ∀ thread window, server.windowOf thread = some window →
      takesLease events window.1 = false)
    (current : WindowsCurrent server) : WindowsCurrent next := by
  cases effect with
  | quiet quiet => exact windowsCurrent_kept current quiet.panes (windowOf_quiet quiet.handlers)
  | shutdown panes handlers _ =>
    exact windowsCurrent_kept current panes (windowOf_quiet (.same handlers))
  | retryRefused quiet _ =>
    exact windowsCurrent_kept current quiet.panes (windowOf_quiet quiet.handlers)
  | @validated thread conn paneId ref pane lease bytes operation found accepted =>
    intro other target known window
    rw [windowOf_set found rfl] at window
    split at window
    · -- The lease was checked against the owner in this very step.
      cases window
      obtain ⟨-, -, valid⟩ := validateMutationLease_ok accepted.valid
      obtain ⟨owned, -⟩ := validateLease_ok valid
      exact ⟨pane, accepted.found, .inr (by rw [owned]; rfl)⟩
    · exact current other target known window
  | queued found present accepted same panes _ handlers =>
    refine windowsCurrent_set current present panes (windowOf_dropped found handlers rfl)
      fun _ _ _ queueable => ?_
    subst same
    rcases queueable with closed | owned
    · exact .inl ((enqueue_closed accepted).trans closed)
    · exact .inr owned
  | reserved found _ => exact windowsCurrent_kept current rfl (windowOf_dropped found rfl rfl)
  | spawned found =>
    intro other target lease window
    obtain ⟨pane, present, queueable⟩ :=
      current other target lease (windowOf_dropped found rfl rfl other _ window)
    -- The pane is where it was: a new one goes behind the others.
    refine ⟨pane, ?_, queueable⟩
    simp only [Server.goto, List.getElem?_append]
    rw [if_pos (List.getElem?_eq_some_iff.mp present).1]
    exact present
  | published found present _ _ =>
    exact windowsCurrent_set current present rfl (windowOf_dropped found rfl rfl)
      fun _ _ _ queueable => queueable
  | discarded found present =>
    exact windowsCurrent_set current present rfl (windowOf_dropped found rfl rfl)
      fun _ _ _ _ => .inl rfl
  | released found =>
    exact windowsCurrent_kept current rfl
      (windowOf_dropped found rfl (Server.afterRejection_holds _ _ _).2.2.1)
  | refitted present panes _ handlers =>
    exact windowsCurrent_set current present panes (windowOf_quiet handlers)
      fun _ _ _ queueable => queueable
  | rebound found attach bindable panes _ handlers =>
    refine windowsCurrent_set current attach.found panes (windowOf_dropped found handlers rfl)
      fun _ _ _ queueable => ?_
    obtain ⟨previous, owned, same, -⟩ := usable_owner bindable
    rcases queueable with closed | held
    · exact .inl closed
    · refine .inr ?_
      rw [owned] at held
      exact same ▸ held
  | granted found attach _ panes _ handlers =>
    exact windowsCurrent_set current attach.found panes (windowOf_dropped found handlers rfl)
      -- Taking the lease away while a write of it is in its window is what is excluded here.
      fun thread lease window => by simp [takesLease] at serialized; exact absurd rfl (serialized _ _ _ window)
  | unlocked found present =>
    exact windowsCurrent_set current present rfl (windowOf_dropped found rfl rfl)
      fun _ _ _ queueable => queueable
  | resized found accepted same =>
    subst same
    exact windowsCurrent_set current accepted.found rfl (windowOf_dropped found rfl rfl)
      fun _ _ _ queueable => queueable
  | detached found accepted =>
    exact windowsCurrent_set current accepted.found rfl (windowOf_dropped found rfl rfl)
      fun thread lease window => by simp [takesLease] at serialized; exact absurd rfl (serialized _ _ _ window)
  | stopAccepted found present _ _ _ =>
    exact windowsCurrent_set current present rfl (windowOf_dropped found rfl rfl)
      fun _ _ _ queueable => queueable
  | stopSkipped found _ _ panes _ handlers =>
    exact windowsCurrent_kept current panes (windowOf_dropped found handlers rfl)
  | stopStarted present _ _ panes _ handlers =>
    refine windowsCurrent_set current present panes ?_ fun _ _ _ queueable => queueable
    rcases handlers with handlers | ⟨thread, conn, found, handlers⟩
    · exact windowOf_quiet (.same handlers)
    · exact windowOf_dropped found handlers rfl
  | pane present stepped panes _ handlers =>
    exact windowsCurrent_set current present panes (windowOf_quiet (.same handlers))
      fun _ _ _ queueable => stepped.queueable queueable
  | finalized present _ _ _ _ finalizer panes _ handlers =>
    refine windowsCurrent_set current present panes (windowOf_quiet (.same handlers))
      fun _ _ _ _ => .inl ?_
    cases finalizer <;> rfl

theorem windowsCurrent_of_run {server : Server} {past : List Event}
    (run : daemon.Run Serialized server past) : WindowsCurrent server := by
  refine run.invariant (motive := fun server _ => WindowsCurrent server) ?_ ?_
  · rintro state ⟨serverInstance, rfl⟩ thread ref lease window
    simp [Server.new, Server.windowOf] at window
  · intro state next past events action _ current serialized stepped
    refine (step_effect stepped).windowsCurrent (fun thread window known => ?_) current
    obtain ⟨handler, found, held⟩ := Option.bind_eq_some_iff.mp known
    exact serialized _ stepped handler (List.mem_of_getElem? found) window held

/-- Bytes queued in the next step are queued under the pane's current lease, which no lease
granted for the pane so far exceeds. -/
def InputLinearized (server : Server) (past : List Event) : Prop :=
  ∀ next action events ref lease bytes, step server action = some (next, events) →
    .queued ref lease bytes ∈ events →
    (∃ owner, server.ownerOf ref = some owner ∧ owner.lease = lease) ∧
      ∀ owner, .granted ref owner ∈ past → owner.lease.get ≤ lease.get

theorem enqueue_open {queue queued : PtyWriteQueue} {bytes : Bytes} (nonempty : bytes ≠ [])
    (accepted : queue.enqueue bytes = .ok queued) : queue.closed = false := by
  unfold PtyWriteQueue.enqueue at accepted
  rw [if_neg nonempty] at accepted
  split at accepted
  · cases accepted
  · next opened => simpa using opened

theorem mem_grants {past : List Event} {ref : PaneRef} {owner : AttachmentOwner}
    (member : .granted ref owner ∈ past) : (ref, owner) ∈ Hold.grants (holds past) :=
  List.mem_filterMap.mpr ⟨_, List.mem_filterMap.mpr ⟨_, member, rfl⟩, rfl⟩

/-- While takeovers and detaches wait for validated input, input is linearized. -/
theorem input_linearized (server : Server) (past : List Event)
    (run : daemon.Run Serialized server past) : InputLinearized server past := by
  intro next action events ref lease bytes stepped member
  have owned := owned_of_reaches run.reaches
  have queueable : ∃ owner, server.ownerOf ref = some owner ∧ owner.lease = lease := by
    cases (step_effect stepped).cause _ member with
    | ofPane own => exact own.elim
    | @queued thread conn paneId ref pane lease bytes operation writes found present nonempty accepted =>
      obtain ⟨known, found', queueable⟩ := windowsCurrent_of_run run thread ref lease
        (by simp [Server.windowOf, found, Handler.window])
      rw [present] at found'
      cases found'
      rcases queueable with closed | current
      · rw [enqueue_open nonempty accepted] at closed
        cases closed
      · obtain ⟨owner, held, same⟩ := Option.map_eq_some_iff.mp current
        exact ⟨owner, (ownerOf_found present).trans held, same⟩
  refine ⟨queueable, fun granted grant => ?_⟩
  obtain ⟨owner, held, rfl⟩ := queueable
  rw [owned.owners] at held
  exact owned.fenced.latest held (mem_grants grant)

/-- The first client's input is queued, then the second client takes the pane over. -/
theorem input_linearized_takenOver : ∃ server past, InputLinearized server past ∧
    .queued 0 .min [65] ∈ past ∧ .granted 0 ⟨⟨2⟩, secondLease, 2⟩ ∈ past := by
  obtain ⟨server, past, run, passed⟩ := daemon.exists_run Serialized ⟨⟨0⟩, rfl⟩
    (sampleSession ++ [.receive 0 (.input ⟨1⟩ .min [65]), .validateInput 0, .enqueueInput 0] ++
      attachSteps 1 (sampleAttach .min))
    (fun _ past => .queued 0 .min [65] ∈ past ∧ .granted 0 ⟨⟨2⟩, secondLease, 2⟩ ∈ past)
    (by decide)
  obtain ⟨queued, granted⟩ := of_decide_eq_true passed
  exact ⟨server, past, input_linearized server past run, queued, granted⟩

/-- An input validated before a takeover is queued after it. -/
theorem input_overtaken : ∃ server past, daemon.Reaches server past ∧
    ¬ InputLinearized server past := by
  obtain ⟨server, past, run, passed⟩ := daemon.exists_reaches ⟨⟨0⟩, rfl⟩
    (sampleSession ++ [.receive 0 (.input ⟨1⟩ .min [65]), .validateInput 0] ++
      attachSteps 1 (sampleAttach .min))
    (fun server _ => server.ownerOf 0 = some ⟨⟨2⟩, secondLease, 2⟩ &&
      (step server (.enqueueInput 0)).any fun stepped => .queued 0 .min [65] ∈ stepped.2)
    (by decide)
  simp only [Bool.and_eq_true, Option.any_eq_true, decide_eq_true_eq] at passed
  obtain ⟨owned, ⟨next, events⟩, stepped, queued⟩ := passed
  refine ⟨server, past, run, fun linearized => ?_⟩
  obtain ⟨⟨owner, held, same⟩, -⟩ := linearized _ _ _ _ _ _ stepped queued
  rw [owned] at held
  cases held
  cases same

end Mult.Daemon
