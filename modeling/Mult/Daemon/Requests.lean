import Mult.Foundation.Tallies
import Mult.Daemon.Causes
import Mult.Daemon.RegistryInvariant

/-! Every request that is let through is held in exactly one place, a thread or the pending
stops of a pane, until it is answered, and is answered once.
-/

set_option autoImplicit false

namespace Mult.Daemon
open Foundation Protocol

def Handler.holds (key : RequestKey) (handler : Handler) : Nat :=
  if handler.key = some key then 1 else 0

def Pane.holds (key : RequestKey) (pane : Pane) : Nat := pane.state.pendingStops.count key

/-- In how many places the request is held. -/
def Server.held (server : Server) (key : RequestKey) : Nat :=
  tally (Handler.holds key) server.handlers + tally (Pane.holds key) server.panes

def Event.answers (key : RequestKey) : Event → Bool
  | .answered other _ => other = key
  | _ => false

/-- How often the request was answered. -/
def answered (past : List Event) (key : RequestKey) : Nat := past.countP (Event.answers key)

theorem answered_append (past more : List Event) (key : RequestKey) :
    answered (past ++ more) key = answered past key + answered more key := List.countP_append ..

/-- A step keeps a request held or answers it, or lets a new one through. -/
def Conserves (server next : Server) (events : List Event) (key : RequestKey) : Prop :=
  next.held key + answered events key = server.held key ∨
    (next.held key + answered events key = server.held key + 1 ∧
      server.state.seen key = false ∧ next.state.seen key = true)

section
variable {server next : Server} {ref : PaneRef} {pane after : Pane} {thread : Nat}
  {before moved : Handler} {key : RequestKey} {events : List Event}

theorem held_handlers (key : RequestKey) (found : server.handlers[thread]? = some before)
    (handlers : next.handlers = server.handlers.set thread moved) :
    tally (Handler.holds key) next.handlers + before.holds key =
      tally (Handler.holds key) server.handlers + moved.holds key := by
  rw [handlers]
  exact tally_set found moved

theorem held_panes (key : RequestKey) (found : server.panes[ref]? = some pane)
    (panes : next.panes = server.panes.set ref after) :
    tally (Pane.holds key) next.panes + pane.holds key =
      tally (Pane.holds key) server.panes + after.holds key := by
  rw [panes]
  exact tally_set found after

theorem answered_silent (silent : ∀ event ∈ events, event.answers key = false) :
    answered events key = 0 := by
  rw [answered, List.countP_eq_zero]
  intro event member
  simp [silent event member]

theorem answered_answers (pane : Pane) (outcome : StopOutcome) :
    answered (stopAnswers pane outcome) key = pane.holds key := by
  unfold answered stopAnswers Pane.holds
  rw [List.countP_map, List.count]
  exact List.countP_congr fun other _ => by simp [Event.answers]

theorem answered_lifecycleEdge (earlier later : PaneLifecycle) :
    answered (lifecycleEdge ref earlier later) key = 0 :=
  answered_silent fun event member => by rw [mem_lifecycleEdge member]; rfl

theorem KeyMove.holds {old new : ServerState}
    (move : KeyMove old new before.key moved.key events) (key : RequestKey) :
    moved.holds key + Daemon.answered events key = before.holds key ∨
      (moved.holds key + Daemon.answered events key = before.holds key + 1 ∧
        old.seen key = false ∧ new.seen key = true) := by
  unfold Handler.holds
  generalize before.key = given at move
  generalize moved.key = left at move
  cases move with
  | kept => exact .inl rfl
  | @begun fresh unseen seen =>
    by_cases same : fresh = key
    · subst same
      exact .inr ⟨by simp [Daemon.answered], unseen, seen⟩
    · exact .inl (by simp [Daemon.answered, same])
  | @answered done response =>
    by_cases same : done = key <;> simp [Daemon.answered, Event.answers, same]

theorem conserves_quiet (quiet : QuietHandlers server next events)
    (panes : tally (Pane.holds key) next.panes = tally (Pane.holds key) server.panes) :
    Conserves server next events key := by
  unfold Conserves Server.held
  rw [panes]
  cases quiet with
  | same handlers => rw [handlers]; exact .inl rfl
  | joined client handlers => rw [handlers, tally_append]; exact .inl rfl
  | moved found handlers _ keys =>
    have total := held_handlers key found handlers
    rcases keys.holds key with kept | ⟨begun, seen⟩
    · exact .inl (by omega)
    · exact .inr ⟨by omega, seen⟩

theorem conserves_thread (found : server.handlers[thread]? = some before)
    (handlers : next.handlers = server.handlers.set thread moved)
    (panes : next.panes = server.panes)
    (total : moved.holds key + answered events key = before.holds key) :
    Conserves server next events key := by
  have moves := held_handlers key found handlers
  unfold Conserves Server.held
  rw [panes]
  omega

theorem conserves_at (found : server.handlers[thread]? = some before)
    (handlers : next.handlers = server.handlers.set thread moved)
    (present : server.panes[ref]? = some pane) (panes : next.panes = server.panes.set ref after)
    (total : moved.holds key + after.holds key + answered events key =
      before.holds key + pane.holds key) :
    Conserves server next events key := by
  have moves := held_handlers key found handlers
  have changes := held_panes key present panes
  unfold Conserves Server.held
  omega

theorem conserves_pane (present : server.panes[ref]? = some pane)
    (panes : next.panes = server.panes.set ref after) (handlers : next.handlers = server.handlers)
    (total : after.holds key + answered events key = pane.holds key) :
    Conserves server next events key := by
  have changes := held_panes key present panes
  unfold Conserves Server.held
  rw [handlers]
  omega

end

theorem Server.afterRejection_key (conn : Connection) (request : CreateRequest)
    (rejection : Rejection) :
    (Server.afterRejection conn request rejection).key = some ⟨conn.scope, request.requestId⟩ := by
  unfold Server.afterRejection
  split <;> rfl

theorem PaneStep.conserves {ref : PaneRef} {pane after : Pane} {events : List Event}
    (stepped : PaneStep ref pane after events) (key : RequestKey) :
    after.holds key + answered events key = pane.holds key := by
  cases stepped with
  | ptyWriter _ _ _ _ wrote =>
    rw [answered_silent fun event member => by obtain ⟨bytes, rfl⟩ := wrote _ member; rfl]
    rfl
  | appended _ _ _ _ _ _ _ appended =>
    obtain ⟨_, _, _, rfl⟩ := appendRawHistory_frame appended
    rfl
  | readFailed _ _ _ _ failed =>
    obtain ⟨_, _, _, rfl⟩ := appendRawHistory_frame failed
    rfl
  | readerNotified _ _ _ =>
    rw [answered_silent fun event member => by
      obtain ⟨client, lease, rfl⟩ := mem_exitNotice member; rfl]
    rfl
  | waiterNotified _ _ _ =>
    rw [answered_silent fun event member => by
      obtain ⟨client, lease, rfl⟩ := mem_exitNotice member; rfl]
    rfl
  | waiterFailed => rw [answered_answers]; exact Nat.zero_add _
  | driverFailed => rw [answered_answers]; exact Nat.zero_add _
  | driverMoved _ _ _ _ _ move =>
    rw [answered_silent fun event member => by
      obtain ⟨-, group, kill, -, rfl⟩ := move.events _ member; rfl]
    rfl
  | driverRestored =>
    rw [answered_silent fun event member => by
      rcases List.mem_cons.mp member with rfl | member
      · rfl
      · rw [mem_lifecycleEdge member]; rfl]
    rfl
  | _ => rfl

theorem Effect.seen {server next : Server} {events : List Event}
    (effect : Effect server next events) (key : RequestKey)
    (known : server.state.seen key = true) : next.state.seen key = true := by
  cases effect with
  | quiet quiet => exact quiet.tables.seen key known
  | shutdown _ _ tables => exact tables.seen key known
  | retryRefused quiet _ => exact quiet.tables.seen key known
  | queued _ _ _ _ _ tables _ => exact tables.seen key known
  | reserved _ reserved =>
    obtain ⟨-, -, -, -, -, tables⟩ := reserveSession_ok reserved
    exact tables.seen key known
  | published _ _ _ published =>
    obtain ⟨-, -, -, -, -, tables⟩ := publishReservedSession_ok published
    exact tables.seen key known
  | released _ => exact known
  | refitted _ _ tables _ => exact tables.seen key known
  | rebound _ _ _ _ tables _ => exact tables.seen key known
  | granted _ _ _ _ tables _ => exact tables.seen key known
  | resized _ _ same => subst same; exact known
  | stopSkipped _ _ _ _ tables _ => exact tables.seen key known
  | stopStarted _ _ _ _ tables _ => exact tables.seen key known
  | pane _ _ _ tables _ => exact tables.seen key known
  | finalized _ _ _ _ _ _ _ tables _ =>
    refine tables.seen key ?_
    unfold ServerState.removeSessionIfSame
    split <;> exact known
  | _ => exact known

/-- Every step keeps each request held in as many places as it was, or answers it. -/
theorem Effect.conserves {server next : Server} {events : List Event}
    (effect : Effect server next events) (key : RequestKey) :
    Conserves server next events key := by
  cases effect with
  | quiet quiet => exact conserves_quiet quiet.handlers (by rw [quiet.panes])
  | shutdown panes handlers _ =>
    exact .inl (by unfold Server.held; rw [panes, handlers]; rfl)
  | retryRefused quiet _ =>
    have kept : Conserves server next [] key := conserves_quiet quiet.handlers (by rw [quiet.panes])
    exact kept
  | validated found _ => exact conserves_thread found rfl rfl rfl
  | queued found present _ same panes _ handlers =>
    subst same
    refine conserves_at found handlers present panes ?_
    rw [answered_silent (by split <;> simp [Event.answers])]
    rfl
  | reserved found _ => exact conserves_thread found rfl rfl rfl
  | @spawned thread conn request session child found =>
    -- The create goes on with the same request, and the new pane holds none.
    have moves : tally (Handler.holds key) (server.handlers.set thread _) + _ = _ + _ :=
      tally_set found (.creating conn request (.publish session server.panes.length))
    refine .inl ?_
    unfold Server.held
    simp only [Server.goto, tally_append]
    have fresh : tally (Pane.holds key) [spawnPane session request child] = 0 := rfl
    have same : Handler.holds key (.creating conn request (.publish session server.panes.length)) =
      Handler.holds key (.creating conn request (.spawn session)) := rfl
    have silent : answered [.spawned server.panes.length session request.identity] key = 0 := rfl
    omega
  | published found present _ _ => exact conserves_at found rfl present rfl rfl
  | discarded found present => exact conserves_at found rfl present rfl rfl
  | released found =>
    refine conserves_thread found rfl rfl ?_
    unfold Handler.holds
    rw [Server.afterRejection_key]
    rfl
  | refitted present panes _ handlers =>
    have changes := held_panes key present panes
    exact conserves_quiet handlers (Nat.add_right_cancel changes)
  | rebound found attach _ panes _ handlers =>
    exact conserves_at found handlers attach.found panes rfl
  | @granted _ _ conn request _ _ _ _ _ _ _ _ _ found attach _ panes _ handlers =>
    -- The request moves from the thread to the pane, where it waits for its handover.
    refine conserves_at found handlers attach.found panes ?_
    by_cases same : (⟨conn.scope, request.requestId⟩ : RequestKey) = key <;>
      simp [answered, Event.answers, Handler.holds, Handler.key, Pane.holds, same, Nat.add_comm]
  | unlocked found present => exact conserves_at found rfl present rfl rfl
  | resized found accepted same =>
    subst same
    exact conserves_at found rfl accepted.found rfl rfl
  | detached found accepted => exact conserves_at found rfl accepted.found rfl rfl
  | @stopAccepted _ conn request _ _ _ found present _ _ _ =>
    refine conserves_at found rfl present rfl ?_
    rw [answered_append, answered_lifecycleEdge]
    by_cases same : (⟨conn.scope, request.requestId⟩ : RequestKey) = key <;>
      simp [answered, Event.answers, Handler.holds, Handler.key, Pane.holds, same, Nat.add_comm]
  | stopSkipped found _ _ panes _ handlers => exact conserves_thread found handlers panes rfl
  | stopStarted present _ _ panes _ handlers =>
    rcases handlers with handlers | ⟨thread, conn, found, handlers⟩
    · refine conserves_pane present panes handlers ?_
      rw [answered_lifecycleEdge]
      rfl
    · refine conserves_at found handlers present panes ?_
      rw [answered_lifecycleEdge]
      rfl
  | pane present stepped panes _ handlers =>
    exact conserves_pane present panes handlers (stepped.conserves key)
  | @finalized _ ref pane after _ _ present _ _ _ _ finalizer panes _ handlers =>
    refine conserves_pane present panes handlers ?_
    rw [answered_append, answered_answers]
    -- All stops pending on the pane are answered now, and it holds none any more.
    have silent : answered [.lifecycle ref pane.state.lifecycle .exited,
      .lifecycle ref .exited .removed, .removed ref pane.state.owner] key = 0 := rfl
    have cleared : after.holds key = 0 := by cases finalizer <;> rfl
    omega

/-- Only requests that were let through are held or answered, and each at most once. -/
def Accounted (server : Server) (past : List Event) : Prop :=
  ∀ key, server.held key + answered past key ≤ 1 ∧
    (0 < server.held key + answered past key → server.state.seen key = true)

theorem Effect.accounted {server next : Server} {past events : List Event}
    (effect : Effect server next events) (accounted : Accounted server past) :
    Accounted next (past ++ events) := by
  intro key
  obtain ⟨once, known⟩ := accounted key
  rw [answered_append]
  rcases effect.conserves key with kept | ⟨begun, unseen, seen⟩
  · refine ⟨by omega, fun present => effect.seen key (known (by omega))⟩
  · -- A request that is let through now was neither held nor answered before.
    have fresh : server.held key + answered past key = 0 := by
      by_contra present
      rw [known (by omega)] at unseen
      cases unseen
    exact ⟨by omega, fun _ => seen⟩

theorem accounted_of_reaches {server : Server} {past : List Event}
    (run : daemon.Reaches server past) : Accounted server past := by
  refine run.invariant (motive := Accounted) ?_ ?_
  · rintro state ⟨serverInstance, rfl⟩ key
    simp [Server.held, Server.new, answered, tally]
  · intro state next past events action _ accounted _ stepped
    exact (step_effect stepped).accounted accounted

end Mult.Daemon
