import Mult.Daemon.Ownership

/-! Single owner per pane: what a mutation must show before it is accepted, and when a
retried attach binds its lease again.
-/

set_option autoImplicit false

namespace Mult.Daemon
open Foundation Protocol

/-- A thread is about to decide a mutation of the pane for this connection and lease. -/
inductive Asked (server : Server) : Mutation → PaneRef → AttachmentOwner → Prop where
  | input {thread : Nat} {conn : Connection} {pane : PaneId} {lease : AttachmentLease}
      {bytes : Bytes} {operation : LeaseOperation} {ref : PaneRef} :
      server.handlers[thread]? = some (.validating conn pane lease bytes operation) →
      server.state.paneById pane = some ref →
      Asked server (.leased operation) ref ⟨conn.scope, lease, conn.client⟩
  | resize {thread : Nat} {conn : Connection} {pane : PaneId} {lease : AttachmentLease}
      {rows cols : Nat} {ref : PaneRef} :
      server.handlers[thread]? = some (.resizing conn pane lease rows cols) →
      server.state.paneById pane = some ref →
      Asked server (.leased .resize) ref ⟨conn.scope, lease, conn.client⟩
  | detach {thread : Nat} {conn : Connection} {pane : PaneId} {lease : AttachmentLease}
      {ref : PaneRef} :
      server.handlers[thread]? = some (.detaching conn pane lease) →
      server.state.paneById pane = some ref →
      Asked server (.leased .detach) ref ⟨conn.scope, lease, conn.client⟩
  | stop {thread : Nat} {conn : Connection} {request : StopRequest} {ref : PaneRef} :
      server.handlers[thread]? = some (.stoppingPane conn request ref) →
      Asked server .stop ref ⟨conn.scope, request.lease, conn.client⟩

/-- Whether the mutation may still happen to the pane. -/
def Mutation.permitted (server : Server) (pane : Pane) : Mutation → Prop
  | .leased _ => pane.state.lifecycle = .running ∧ server.state.shuttingDown = false
  | .stop => pane.state.terminated = false

/-- What an accepted mutation has shown. -/
structure Permitted (server : Server) (mutation : Mutation) (ref : PaneRef)
    (owner : AttachmentOwner) : Prop where
  asked : Asked server mutation ref owner
  current : server.ownerOf ref = some owner
  connected : server.transports.isActive owner.client = true
  phase : ∃ pane, server.panes[ref]? = some pane ∧ mutation.permitted server pane

theorem LeaseAccepted.permitted {server : Server} {conn : Connection} {paneId : PaneId}
    {lease : AttachmentLease} {ref : PaneRef} {pane : Pane} {operation : LeaseOperation}
    (accepted : LeaseAccepted server conn paneId lease ref pane)
    (asked : Asked server (.leased operation) ref ⟨conn.scope, lease, conn.client⟩) :
    Permitted server (.leased operation) ref ⟨conn.scope, lease, conn.client⟩ := by
  obtain ⟨running, serving, valid⟩ := validateMutationLease_ok accepted.valid
  obtain ⟨owned, active⟩ := validateLease_ok valid
  exact ⟨asked, (ownerOf_found accepted.found).trans owned, active, pane, accepted.found,
    running, serving⟩

theorem Effect.accepted {server next : Server} {events : List Event} {mutation : Mutation}
    {ref : PaneRef} {owner : AttachmentOwner} (effect : Effect server next events)
    (member : .accepted mutation ref owner ∈ events) : Permitted server mutation ref owner := by
  cases effect.cause _ member with
  | ofPane own => exact own.elim
  | validated found accepted => exact accepted.permitted (.input found accepted.routed)
  | resized found accepted => exact accepted.permitted (.resize found accepted.routed)
  | detached found accepted => exact accepted.permitted (.detach found accepted.routed)
  | stopped found present alive valid =>
    obtain ⟨owned, active⟩ := validateLease_ok valid
    exact ⟨.stop found, (ownerOf_found present).trans owned, active, _, present, alive⟩

/-- A lease that is bound again is still the pane's, and was granted in the same scope. -/
structure Rebindable (server : Server) (ref : PaneRef) (owner : AttachmentOwner) : Prop where
  serving : server.state.shuttingDown = false
  current : ∃ previous, server.ownerOf ref = some previous ∧ previous.lease = owner.lease ∧
    previous.scope = owner.scope
  connected : server.transports.isActive owner.client = true

theorem Effect.rebindable {server next : Server} {events : List Event} {ref : PaneRef}
    {owner : AttachmentOwner} (effect : Effect server next events)
    (member : .rebound ref owner ∈ events) : Rebindable server ref owner := by
  cases effect.cause _ member with
  | ofPane own => exact own.elim
  | rebound _ attach bindable =>
    obtain ⟨previous, owned, current, scope, active⟩ := usable_owner bindable
    exact ⟨attach.serving, ⟨previous, (ownerOf_found attach.found).trans owned, current, scope⟩,
      active⟩

theorem Effect.refusal {server next : Server} {events : List Event} {conn : Connection}
    {request : AttachRequest} {lease : AttachmentLease} {error : AttachError}
    (effect : Effect server next events)
    (member : .retryRefused conn request lease error ∈ events) :
    RetryRefusal server conn request lease error := by
  cases effect.cause _ member with
  | ofPane own => exact own.elim
  | retryRefused refusal => exact refusal

/-- A retried attach binds its lease again or is refused; it is never granted a new one. -/
theorem attachCommit_retried {server next : Server} {thread : Nat} {conn : Connection}
    {request : AttachRequest} {lease : AttachmentLease} {failure : Option String}
    {leader : GroupLeader} {events : List Event}
    (found : server.handlers[thread]? = some (.attaching conn request (some lease)))
    (stepped : server.attachCommit thread failure leader = some (next, events)) :
    (∃ ref, events = [.rebound ref ⟨conn.scope, lease, conn.client⟩]) ∨
      ∃ error, events = [.retryRefused conn request lease error] := by
  unfold Server.attachCommit at stepped
  simp only [found] at stepped
  split at stepped
  · cases stepped; exact .inr ⟨_, rfl⟩
  · split at stepped
    · cases stepped; exact .inr ⟨_, rfl⟩
    · obtain ⟨pane, -, stepped⟩ := Option.bind_eq_some_iff.mp stepped
      split at stepped
      · cases stepped; exact .inr ⟨_, rfl⟩
      · split at stepped
        · cases stepped; exact .inr ⟨_, rfl⟩
        · split at stepped
          · cases stepped; exact .inr ⟨_, rfl⟩
          · split at stepped
            · cases stepped; exact .inr ⟨_, rfl⟩
            · cases stepped; exact .inl ⟨_, rfl⟩

structure OwnershipContract (server : Server) (past : List Event) : Prop where
  /-- No lease is granted twice, and later ones are larger. -/
  increasing : (grantedLeases past).Pairwise fun earlier later => earlier.get < later.get
  /-- A pane has the owner its history gives it, and no lease owns two panes. -/
  current : ∀ ref, server.ownerOf ref = holder past ref
  single : ∀ one two first second, server.ownerOf one = some first →
    server.ownerOf two = some second → first.lease = second.lease → one = two
  granted : ∀ ref owner, server.ownerOf ref = some owner → owner.lease ∈ grantedLeases past
  accepted : ∀ next action events mutation ref owner, step server action = some (next, events) →
    .accepted mutation ref owner ∈ events → Permitted server mutation ref owner
  retried : ∀ next thread failure leader events conn request lease,
    server.handlers[thread]? = some (.attaching conn request (some lease)) →
    step server (.attachCommit thread failure leader) = some (next, events) →
    (∃ ref, events = [.rebound ref ⟨conn.scope, lease, conn.client⟩] ∧
      Rebindable server ref ⟨conn.scope, lease, conn.client⟩) ∨
    ∃ error, events = [.retryRefused conn request lease error] ∧
      next.ownerOf = server.ownerOf ∧ RetryRefusal server conn request lease error
  rebound : ∀ next action events ref owner, step server action = some (next, events) →
    .rebound ref owner ∈ events → Rebindable server ref owner

theorem ownership_contract (server : Server) (past : List Event)
    (run : daemon.Reaches server past) : OwnershipContract server past := by
  have owned := owned_of_reaches run
  refine
    { increasing := ?_
      current := owned.owners
      single := fun one two first second held other same => ?_
      granted := fun ref owner held => ?_
      accepted := fun next action events mutation ref owner stepped member =>
        (step_effect stepped).accepted member
      retried := fun next thread failure leader events conn request lease found stepped => ?_
      rebound := fun next action events ref owner stepped member =>
        (step_effect stepped).rebindable member }
  · exact List.pairwise_map.mpr owned.fenced.increasing
  · rw [owned.owners] at held other
    exact owned.fenced.holding_unique held other (congrArg AttachmentLease.get same)
  · rw [owned.owners] at held
    obtain ⟨first, member, same⟩ := owned.fenced.holding_granted held
    exact List.mem_map.mpr ⟨_, member, AttachmentLease.ext_get same⟩
  · have effect := step_effect stepped
    rcases attachCommit_retried found stepped with ⟨ref, rfl⟩ | ⟨error, rfl⟩
    · exact .inl ⟨ref, rfl, effect.rebindable (List.mem_singleton_self _)⟩
    · refine .inr ⟨error, rfl, ?_, effect.refusal (List.mem_singleton_self _)⟩
      cases effect.holds with
      | kept owners _ => exact owners

/-- The second client has taken the pane over. -/
theorem ownership_contract_takenOver : ∃ server past,
    (grantedLeases past).length = 2 ∧ OwnershipContract server past := by
  obtain ⟨server, past, run, granted⟩ := daemon.exists_reaches ⟨⟨0⟩, rfl⟩
    (sampleSession ++ attachSteps 1 (sampleAttach .min))
    (fun _ past => (grantedLeases past).length = 2) (by decide)
  exact ⟨server, past, of_decide_eq_true granted, ownership_contract server past run⟩

/-- A stop is accepted although a shutdown has begun, and a retried attach whose lease is no
longer current reports the shutdown. -/
theorem ownership_while_shuttingDown :
    (∃ server past next events owner, daemon.Reaches server past ∧
      server.state.shuttingDown = true ∧ step server (.stopPane 0) = some (next, events) ∧
      .accepted .stop 0 owner ∈ events) ∧
    ∃ server past next events conn request lease error, daemon.Reaches server past ∧
      (∀ owner, server.ownerOf 0 = some owner → owner.lease ≠ lease) ∧
      step server (.attachCommit 0 none none) = some (next, events) ∧
      .retryRefused conn request lease error ∈ events ∧ error ≠ .superseded := by
  constructor
  · obtain ⟨server, past, run, passed⟩ := daemon.exists_reaches ⟨⟨0⟩, rfl⟩
      (sampleSession ++ [.beginShutdown,
        .receive 0 (.stop thirdRequest sampleIdentity ⟨1⟩ .min), .begin 0,
        .stopLookup 0])
      (fun server _ => server.state.shuttingDown && (step server (.stopPane 0)).any fun stepped =>
        .accepted .stop 0 ⟨⟨1⟩, .min, 1⟩ ∈ stepped.2) (by decide)
    simp only [Bool.and_eq_true, Option.any_eq_true, decide_eq_true_eq] at passed
    obtain ⟨closing, ⟨next, events⟩, stepped, accepted⟩ := passed
    exact ⟨server, past, next, events, _, run, closing, stepped, accepted⟩
  · obtain ⟨server, past, run, passed⟩ := daemon.exists_reaches ⟨⟨0⟩, rfl⟩
      (sampleSession ++ attachSteps 1 (sampleAttach .min) ++
        [.beginShutdown, .receive 0 (sampleAttach secondRequest), .begin 0])
      (fun server _ => server.ownerOf 0 = some ⟨⟨2⟩, secondLease, 2⟩ &&
        (step server (.attachCommit 0 none none)).any fun stepped =>
          .retryRefused ⟨1, ⟨1⟩, false⟩ ⟨secondRequest, sampleIdentity, ⟨1⟩, 24, 80⟩ .min
            (.failed .shuttingDown shutdownErrorMessage) ∈ stepped.2) (by decide)
    simp only [Bool.and_eq_true, Option.any_eq_true, decide_eq_true_eq] at passed
    obtain ⟨owned, ⟨next, events⟩, stepped, refused⟩ := passed
    refine ⟨server, past, next, events, _, _, _, _, run, fun owner held => ?_, stepped, refused,
      by decide⟩
    rw [owned] at held
    cases held
    decide

end Mult.Daemon
