import Mult.Foundation.Fencing
import Mult.Daemon.RegistryContract

/-! Who owns a pane: the lease a pane is held under is the last one granted for it, unless
it was given up, and only its owner may change the pane.
-/

set_option autoImplicit false

namespace Mult.Daemon
open Foundation Protocol

/-- What an event does to the hold on a pane. -/
def Event.hold : Event → Option (Hold PaneRef AttachmentOwner)
  | .granted ref owner => some (.grant ref owner)
  | .rebound ref owner => some (.rebind ref owner)
  | .detached ref | .removed ref _ => some (.drop ref)
  | _ => none

def holds (past : List Event) : List (Hold PaneRef AttachmentOwner) := past.filterMap Event.hold

def holder (past : List Event) (ref : PaneRef) : Option AttachmentOwner :=
  Hold.holding (holds past) ref

def grantedLeases (past : List Event) : List AttachmentLease :=
  (Hold.grants (holds past)).map fun (_, owner) => owner.lease

def AttachmentOwner.token (owner : AttachmentOwner) : Nat := owner.lease.get

def Server.ownerOf (server : Server) (ref : PaneRef) : Option AttachmentOwner :=
  server.panes[ref]?.bind fun pane => pane.state.owner

theorem holds_append (past more : List Event) : holds (past ++ more) = holds past ++ holds more :=
  List.filterMap_append ..

theorem validateLease_ok {pane : PaneState} {isActive : ClientId → Bool} {scope : ClientScopeId}
    {client : ClientId} {lease : AttachmentLease}
    (valid : pane.validateLease isActive scope client lease = .ok ()) :
    pane.owner = some ⟨scope, lease, client⟩ ∧ isActive client = true := by
  unfold PaneState.validateLease at valid
  split at valid
  · cases valid
  · next owner owned =>
    split at valid
    · cases valid
    · next current =>
      split at valid
      · cases valid
      · next bound =>
        simp only [not_or, Decidable.not_not, Bool.not_eq_false] at current bound
        obtain ⟨rfl, rfl, active⟩ := bound
        subst current
        exact ⟨owned, active⟩

theorem validateMutationLease_ok {pane : PaneState} {isActive : ClientId → Bool}
    {shuttingDown : Bool} {scope : ClientScopeId} {client : ClientId} {lease : AttachmentLease}
    (valid : pane.validateMutationLease isActive shuttingDown scope client lease = .ok ()) :
    pane.lifecycle = .running ∧ shuttingDown = false ∧
      pane.validateLease isActive scope client lease = .ok () := by
  unfold PaneState.validateMutationLease at valid
  split at valid
  · cases valid
  · next running =>
    simp only [not_or, Bool.not_eq_true, Decidable.not_not] at running
    exact ⟨running.2, running.1, valid⟩

theorem usable_owner {pane : PaneState} {isActive : ClientId → Bool} {conn : Connection}
    {lease : AttachmentLease} (usable : usable pane isActive conn lease = true) :
    ∃ previous, pane.owner = some previous ∧ previous.lease = lease ∧
      previous.scope = conn.scope ∧ isActive conn.client = true := by
  unfold Daemon.usable at usable
  cases owned : pane.owner with
  | none => simp [owned] at usable
  | some previous =>
    simp only [owned, Option.any_some, Bool.and_eq_true, decide_eq_true_eq] at usable
    exact ⟨previous, rfl, usable.1.1.2, usable.1.1.1, usable.1.2⟩

inductive HoldStep (server next : Server) : List (Hold PaneRef AttachmentOwner) → Prop where
  | kept : next.ownerOf = server.ownerOf → next.state.nextLease = server.state.nextLease →
      HoldStep server next []
  | granted {ref : PaneRef} {owner : AttachmentOwner} :
      server.state.nextLease = some owner.lease →
      next.state.nextLease = owner.lease.checkedNext →
      (∀ other, next.ownerOf other = if ref = other then some owner else server.ownerOf other) →
      HoldStep server next [.grant ref owner]
  | rebound {ref : PaneRef} {previous owner : AttachmentOwner} :
      server.ownerOf ref = some previous → owner.lease = previous.lease →
      next.state.nextLease = server.state.nextLease →
      (∀ other, next.ownerOf other = if ref = other then some owner else server.ownerOf other) →
      HoldStep server next [.rebind ref owner]
  | dropped {ref : PaneRef} : next.state.nextLease = server.state.nextLease →
      (∀ other, next.ownerOf other = if ref = other then none else server.ownerOf other) →
      HoldStep server next [.drop ref]

section
variable {server next : Server} {ref : PaneRef} {pane after : Pane}

theorem ownerOf_set (found : server.panes[ref]? = some pane)
    (panes : next.panes = server.panes.set ref after) (other : PaneRef) :
    next.ownerOf other = if ref = other then after.state.owner else server.ownerOf other := by
  unfold Server.ownerOf
  rw [panes, getElem?_set_bind _ _ found]

theorem ownerOf_setPane {thread : Nat} {handler : Handler}
    (found : server.panes[ref]? = some pane) (other : PaneRef) :
    ((server.setPane ref after).goto thread handler).ownerOf other =
      if ref = other then after.state.owner else server.ownerOf other :=
  ownerOf_set found rfl other

theorem ownerOf_kept (found : server.panes[ref]? = some pane)
    (panes : next.panes = server.panes.set ref after)
    (same : after.state.owner = pane.state.owner) : next.ownerOf = server.ownerOf := by
  funext other
  rw [ownerOf_set found panes]
  split
  · next here => subst here; simp [Server.ownerOf, found, same]
  · rfl

theorem ownerOf_same (panes : next.panes = server.panes) : next.ownerOf = server.ownerOf := by
  funext other
  simp only [Server.ownerOf, panes]

theorem ownerOf_found (found : server.panes[ref]? = some pane) :
    server.ownerOf ref = pane.state.owner := by
  simp [Server.ownerOf, found]

end

theorem PaneStep.owner {ref : PaneRef} {pane after : Pane} {events : List Event}
    (stepped : PaneStep ref pane after events) : after.state.owner = pane.state.owner := by
  cases stepped with
  | appended bytes sequence state scheduled poll free reading appended =>
    obtain ⟨nextOutput, rawHistory, historyStart, rfl⟩ := appendRawHistory_frame appended
    rfl
  | readFailed bytes state free reading appended =>
    obtain ⟨nextOutput, rawHistory, historyStart, rfl⟩ := appendRawHistory_frame appended
    rfl
  | _ => rfl

theorem holds_eq_nil {events : List Event} (silent : ∀ event ∈ events, event.hold = none) :
    holds events = [] := List.filterMap_eq_nil_iff.mpr silent

theorem holds_answers {events : List Event}
    (answers : ∀ event ∈ events, ∃ key response, event = .answered key response) :
    holds events = [] := holds_eq_nil fun event member => by
  obtain ⟨key, response, rfl⟩ := answers event member
  rfl

theorem holds_stopAnswers (pane : Pane) (outcome : StopOutcome) :
    holds (stopAnswers pane outcome) = [] :=
  holds_answers fun _ member => mem_stopAnswers member

theorem holds_lifecycleEdge (ref : PaneRef) (before after : PaneLifecycle) :
    holds (lifecycleEdge ref before after) = [] := holds_eq_nil fun event member => by
  rw [mem_lifecycleEdge member]
  rfl

theorem PaneStep.holds {ref : PaneRef} {pane after : Pane} {events : List Event}
    (stepped : PaneStep ref pane after events) : holds events = [] :=
  holds_eq_nil fun event member => by
    have own := stepped.events_ofPane event member
    cases event <;> first | rfl | exact own.elim

theorem Effect.holds {server next : Server} {events : List Event}
    (effect : Effect server next events) : HoldStep server next (holds events) := by
  cases effect with
  | quiet quiet =>
    rw [holds_answers quiet.handlers.answers]
    exact .kept (ownerOf_same quiet.panes) quiet.tables.nextLease
  | shutdown panes _ tables => exact .kept (ownerOf_same panes) tables.nextLease
  | retryRefused quiet _ => exact .kept (ownerOf_same quiet.panes) quiet.tables.nextLease
  | validated _ _ => exact .kept rfl rfl
  | queued found present _ same panes tables _ =>
    split <;> exact .kept (ownerOf_kept present panes (by rw [same])) tables.nextLease
  | reserved _ reserved =>
    obtain ⟨-, -, -, -, -, tables⟩ := reserveSession_ok reserved
    exact .kept rfl tables.nextLease
  | spawned _ =>
    refine .kept (funext fun other => ?_) rfl
    exact getElem?_append_bind _ _ rfl other
  | published _ present _ published =>
    obtain ⟨-, -, -, -, -, tables⟩ := publishReservedSession_ok published
    exact .kept (ownerOf_kept present rfl rfl) tables.nextLease
  | discarded _ present => exact .kept (ownerOf_kept present rfl rfl) rfl
  | released _ => exact .kept rfl rfl
  | refitted present panes tables handlers =>
    rw [holds_answers handlers.answers]
    exact .kept (ownerOf_kept present panes rfl) tables.nextLease
  | rebound _ attach usable panes tables _ =>
    obtain ⟨previous, owned, current, -⟩ := usable_owner usable
    -- A retry under the same lease changes the connection of the owner and not the lease.
    exact .rebound ((ownerOf_found attach.found).trans owned) current.symm tables.nextLease
      (ownerOf_set attach.found panes)
  | granted _ attach allocated panes tables _ =>
    exact .granted allocated tables.nextLease (ownerOf_set attach.found panes)
  | unlocked _ present => exact .kept (ownerOf_kept present rfl rfl) rfl
  | resized _ accepted same =>
    subst same
    exact .kept (ownerOf_kept accepted.found rfl rfl) rfl
  | detached _ accepted =>
    exact .dropped rfl fun other => ownerOf_setPane accepted.found other
  | stopAccepted _ present _ _ _ =>
    rw [holds_append, holds_lifecycleEdge]
    exact .kept (ownerOf_kept present rfl rfl) rfl
  | stopSkipped _ _ _ panes tables _ => exact .kept (ownerOf_same panes) tables.nextLease
  | stopStarted present _ _ panes tables _ =>
    rw [holds_lifecycleEdge]
    exact .kept (ownerOf_kept present panes rfl) tables.nextLease
  | pane present stepped panes tables _ =>
    rw [stepped.holds]
    exact .kept (ownerOf_kept present panes stepped.owner) tables.nextLease
  | finalized present _ _ _ _ finalizer panes tables _ =>
    rw [holds_append, holds_stopAnswers]
    refine .dropped (tables.nextLease.trans ?_) fun other => ?_
    · unfold ServerState.removeSessionIfSame
      split <;> rfl
    · rw [ownerOf_set present panes]
      cases finalizer <;> rfl

structure Owned (server : Server) (past : List Event) : Prop where
  fenced : Hold.Fenced AttachmentOwner.token (holds past)
  owners : ∀ ref, server.ownerOf ref = holder past ref
  unused : ∀ lease, server.state.nextLease = some lease →
    ∀ grant ∈ Hold.grants (holds past), grant.2.token < lease.get

theorem HoldStep.owned {server next : Server} {past events : List Event}
    (stepped : HoldStep server next (holds events)) (owned : Owned server past) :
    Owned next (past ++ events) := by
  -- The owner after the step, from the log: who the log left it with, moved by the new entries.
  have after (ref : PaneRef) : holder (past ++ events) ref =
      (holds events).foldl (Hold.after ref) (server.ownerOf ref) := by
    rw [owned.owners, holder, holds_append, Hold.holding_append]
    rfl
  have log := holds_append past events
  generalize holds events = more at stepped after log
  cases stepped with
  | kept owners counter =>
    rw [List.append_nil] at log
    refine ⟨log ▸ owned.fenced, fun ref => ?_, ?_⟩
    · rw [after, owners]; rfl
    · rw [log, counter]; exact owned.unused
  | @granted ref owner available counter owners =>
    refine ⟨log ▸ owned.fenced.grant (owned.unused _ available), fun other => ?_, ?_⟩
    · rw [after, owners]; rfl
    · intro lease following grant member
      rw [counter] at following
      -- The counter has passed the lease, so that no later lease repeats it.
      have successor := AttachmentLease.get_checkedNext following
      rw [log, Hold.grants_append] at member
      rcases List.mem_append.mp member with earlier | latest
      · have below := owned.unused _ available grant earlier
        omega
      · obtain rfl := List.mem_singleton.mp latest
        simp only [AttachmentOwner.token]
        omega
  | @rebound ref previous owner holding same counter owners =>
    have held : Hold.holding (holds past) ref = some previous :=
      (owned.owners ref).symm.trans holding
    refine ⟨log ▸ owned.fenced.rebind held (congrArg AttachmentLease.get same),
      fun other => ?_, ?_⟩
    · rw [after, owners]; rfl
    · rw [log, counter, Hold.grants_append]
      simpa [Hold.grants, Hold.granted] using owned.unused
  | @dropped ref counter owners =>
    refine ⟨log ▸ owned.fenced.drop, fun other => ?_, ?_⟩
    · rw [after, owners]; rfl
    · rw [log, counter, Hold.grants_append]
      simpa [Hold.grants, Hold.granted] using owned.unused

theorem owned_of_reaches {server : Server} {past : List Event}
    (run : daemon.Reaches server past) : Owned server past := by
  refine run.invariant (motive := Owned) ?_ ?_
  · rintro state ⟨serverInstance, rfl⟩
    exact ⟨.nil, fun _ => rfl, fun _ _ _ member => by cases member⟩
  · intro state next past events action _ owned _ stepped
    exact (step_effect stepped).holds.owned owned

end Mult.Daemon
