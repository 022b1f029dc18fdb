import Mult.Daemon.Causes

/-! The course of one pane: its lifecycle, its pending stops, its output and where its own
threads stand. Each step moves it in one of a few ways, or leaves it alone.
-/

set_option autoImplicit false

namespace Mult.Daemon
open Foundation Protocol

/-- What the lifecycle of a pane works on. -/
structure PaneCourse where
  session : SessionId
  identity : SessionIdentity
  pane : PaneId
  rawHistory : RawHistory
  historyStart : OutputSequence
  nextOutput : OutputSequence
  lifecycle : PaneLifecycle
  readerDone : Bool
  childExit : Option ExitInfo
  stopDriverActive : Bool
  pendingStops : List RequestKey
  reader : Reader
  waiter : Waiter
  drivers : List StopDriver

def Pane.course (pane : Pane) : PaneCourse where
  session := pane.state.session
  identity := pane.state.identity
  pane := pane.state.pane
  rawHistory := pane.state.rawHistory
  historyStart := pane.state.historyStart
  nextOutput := pane.state.nextOutput
  lifecycle := pane.state.lifecycle
  readerDone := pane.state.readerDone
  childExit := pane.state.childExit
  stopDriverActive := pane.state.stopDriverActive
  pendingStops := pane.state.pendingStops
  reader := pane.reader
  waiter := pane.waiter
  drivers := pane.drivers

def Event.courseOf : Event → Option PaneRef
  | .output ref .. | .lifecycle ref .. | .removed ref _ | .exitSent ref .. | .stopAccepted ref _
  | .gaveUp ref _ | .signalled ref .. => some ref
  | _ => none

inductive Course (server next : Server) (ref : PaneRef) (pane : Pane) :
    Pane → List Event → Prop where
  | kept {after : Pane} {events : List Event} : after.course = pane.course →
      (∀ event ∈ events, event.courseOf ≠ some ref) → Course server next ref pane after events
  | started {thread : Nat} {session : SessionId} : server.unpublishedOf thread = some ref →
      Course server next ref pane { pane with reader := .reading, waiter := .waiting }
        [.published ref session]
  | stopAccepted {thread : Nat} {conn : Connection} {request : StopRequest}
      {lifecycle : PaneLifecycle} :
      server.handlers[thread]? = some (.stoppingPane conn request ref) →
      next.handlers[thread]? = some (.starting conn ref) →
      pane.state.terminated = false →
      lifecycle = (if pane.state.lifecycle = .running then .stopping
        else pane.state.lifecycle) →
      Course server next ref pane { pane with state := { pane.state with
        pendingStops := pane.state.pendingStops ++ [⟨conn.scope, request.requestId⟩]
        lifecycle } }
        ([.accepted .stop ref ⟨conn.scope, request.lease, conn.client⟩,
          .stopAccepted ref ⟨conn.scope, request.requestId⟩] ++
          lifecycleEdge ref pane.state.lifecycle lifecycle)
  | stopStarted {foreground : Option Nat} : pane.state.terminated = false →
      pane.state.stopDriverActive = false →
      Course server next ref pane { pane with
        state := { pane.state with lifecycle := .stopping, stopDriverActive := true }
        drivers := pane.drivers ++ [⟨pane.state.processGroup, foreground, .term⟩] }
        (lifecycleEdge ref pane.state.lifecycle .stopping)
  | stepped {after : Pane} {events : List Event} : PaneStep ref pane after events →
      Course server next ref pane after events
  | finalized {after : Pane} {exit : ExitInfo} {answers : List Outgoing} :
      pane.finalizable = true → pane.state.childExit = some exit →
      (∀ answer ∈ answers, ∃ requestId outcome, answer.message = .stopResult requestId outcome) →
      Finalizer { pane with state := pane.state.finalized } (finalNotices pane exit answers)
        after →
      Course server next ref pane after
        ([.lifecycle ref pane.state.lifecycle .exited, .lifecycle ref .exited .removed,
          .removed ref pane.state.owner] ++ stopAnswers pane (.stopped exit))

/-- What a step does to the pane behind a reference. -/
inductive CourseStep (server next : Server) (ref : PaneRef) (events : List Event) : Prop where
  | absent : server.panes[ref]? = none → next.panes[ref]? = none →
      (∀ event ∈ events, event.courseOf ≠ some ref) → CourseStep server next ref events
  | spawned {session : SessionId} {request : CreateRequest} {child : SpawnedChild} :
      server.panes[ref]? = none → next.panes[ref]? = some (spawnPane session request child) →
      (∀ event ∈ events, event.courseOf ≠ some ref) → CourseStep server next ref events
  | moved {pane after : Pane} : server.panes[ref]? = some pane → next.panes[ref]? = some after →
      Course server next ref pane after events → CourseStep server next ref events

section
variable {server next : Server} {ref : PaneRef} {pane after : Pane} {events : List Event}

theorem course_same (panes : next.panes = server.panes)
    (quiet : ∀ event ∈ events, event.courseOf ≠ some ref) : CourseStep server next ref events := by
  cases found : server.panes[ref]? with
  | none => exact .absent found (panes ▸ found) quiet
  | some pane => exact .moved found (panes ▸ found) (.kept rfl quiet)

theorem course_set (found : server.panes[ref]? = some pane)
    (panes : next.panes = server.panes.set ref after)
    (course : Course server next ref pane after events)
    (own : ∀ event ∈ events, ∀ other, event.courseOf = some other → other = ref) (other : PaneRef) :
    CourseStep server next other events := by
  by_cases here : ref = other
  · subst here
    refine .moved found ?_ course
    rw [panes, List.getElem?_set_self (List.getElem?_eq_some_iff.mp found).1]
  · have quiet : ∀ event ∈ events, event.courseOf ≠ some other := fun event member same =>
      here (own event member other same).symm
    have same : next.panes[other]? = server.panes[other]? := by
      rw [panes, List.getElem?_set_ne here]
    cases present : server.panes[other]? with
    | none => exact .absent present (same.trans present) quiet
    | some pane => exact .moved present (same.trans present) (.kept rfl quiet)

theorem course_frame (found : server.panes[ref]? = some pane)
    (panes : next.panes = server.panes.set ref after) (same : after.course = pane.course)
    (quiet : ∀ event ∈ events, event.courseOf = none) (other : PaneRef) :
    CourseStep server next other events := by
  refine course_set found panes (.kept same fun event member here => ?_)
    (fun event member _ here => ?_) other
  · rw [quiet event member] at here; cases here
  · rw [quiet event member] at here; cases here

theorem course_setPane {thread : Nat} {handler : Handler} (found : server.panes[ref]? = some pane)
    (same : after.course = pane.course) (quiet : ∀ event ∈ events, event.courseOf = none)
    (other : PaneRef) :
    CourseStep server ((server.setPane ref after).goto thread handler) other events :=
  course_frame found rfl same quiet other

end

theorem QuietHandlers.courseOf {server next : Server} {events : List Event}
    (quiet : QuietHandlers server next events) : ∀ event ∈ events, event.courseOf = none := by
  intro event member
  obtain ⟨key, response, rfl⟩ := quiet.answers event member
  rfl

theorem PaneStep.courseOf {ref : PaneRef} {pane after : Pane} {events : List Event}
    (stepped : PaneStep ref pane after events) :
    ∀ event ∈ events, ∀ other, event.courseOf = some other → other = ref := by
  intro event member other same
  cases stepped with
  | ptyWriter _ _ _ _ wrote => obtain ⟨bytes, rfl⟩ := wrote _ member; cases same
  | appended => obtain rfl := List.mem_singleton.mp member; cases same; rfl
  | waiterFailed _ _ _ _ => obtain ⟨key, response, rfl⟩ := mem_stopAnswers member; cases same
  | driverFailed _ _ _ _ _ _ =>
    obtain ⟨key, response, rfl⟩ := mem_stopAnswers member; cases same
  | readerNotified _ _ _ =>
    obtain ⟨client, lease, rfl⟩ := mem_exitNotice member; cases same; rfl
  | waiterNotified _ _ _ =>
    obtain ⟨client, lease, rfl⟩ := mem_exitNotice member; cases same; rfl
  | driverRestored _ _ _ _ _ _ _ _ =>
    rcases List.mem_cons.mp member with rfl | member
    · cases same; rfl
    · obtain rfl := mem_lifecycleEdge member; cases same; rfl
  | driverMoved _ _ _ _ _ move =>
    obtain ⟨-, group, kill, -, rfl⟩ := move.events _ member
    cases same
    rfl
  | _ => cases member

theorem Effect.course {server next : Server} {events : List Event}
    (effect : Effect server next events) (ref : PaneRef) : CourseStep server next ref events := by
  have silent {events : List Event} (quiet : ∀ event ∈ events, event.courseOf = none) :
      ∀ event ∈ events, event.courseOf ≠ some ref := fun event member here => by
    rw [quiet event member] at here; cases here
  cases effect with
  | quiet quiet => exact course_same quiet.panes (silent quiet.handlers.courseOf)
  | shutdown panes _ _ => exact course_same panes (by simp)
  | retryRefused quiet _ => exact course_same quiet.panes (silent (by simp [Event.courseOf]))
  | validated _ _ => exact course_same rfl (silent (by simp [Event.courseOf]))
  | queued found present _ same panes _ _ =>
    subst same
    refine course_frame present panes rfl ?_ ref
    split <;> simp [Event.courseOf]
  | reserved _ _ => exact course_same rfl (by simp)
  | @spawned thread conn request session child found =>
    -- The new pane is behind all others, and those are where they were.
    by_cases here : server.panes.length = ref
    · subst here
      refine @CourseStep.spawned _ _ _ _ session request child (by simp) ?_
        (silent (by simp [Event.courseOf]))
      simp [Server.goto]
    · have same : (server.panes ++ [spawnPane session request child])[ref]? =
          server.panes[ref]? := by
        rw [List.getElem?_append]
        split
        · rfl
        · next outside =>
          have beyond : server.panes.length < ref := by omega
          rw [List.getElem?_eq_none (by rw [List.length_singleton]; omega),
            List.getElem?_eq_none (by omega)]
      cases present : server.panes[ref]? with
      | none => exact .absent present (same.trans present) (silent (by simp [Event.courseOf]))
      | some pane =>
        exact .moved present (same.trans present) (.kept rfl (silent (by simp [Event.courseOf])))
  | @published thread conn request session target pane state found present _ _ =>
    have unpublished : server.unpublishedOf thread = some target := by
      simp [Server.unpublishedOf, found, Handler.unpublished]
    exact course_set present rfl (.started unpublished) (by simp [Event.courseOf]) ref
  | discarded _ present =>
    refine course_setPane present ?_ ?_ ref
    · rfl
    · simp
  | released _ => exact course_same rfl (by simp)
  | refitted present panes _ handlers => exact course_frame present panes rfl handlers.courseOf ref
  | rebound _ attach _ panes _ _ =>
    exact course_frame attach.found panes rfl (by simp [Event.courseOf]) ref
  | granted _ attach _ panes _ _ =>
    exact course_frame attach.found panes rfl (by simp [Event.courseOf]) ref
  | unlocked _ present =>
    refine course_setPane present ?_ ?_ ref
    · rfl
    · simp
  | resized _ accepted same =>
    subst same
    refine course_setPane accepted.found ?_ ?_ ref
    · rfl
    · simp [Event.courseOf]
  | detached _ accepted =>
    refine course_setPane accepted.found ?_ ?_ ref
    · rfl
    · simp [Event.courseOf]
  | stopAccepted found present alive _ moves =>
    refine course_set present rfl (.stopAccepted found ?_ alive moves) ?_ ref
    · exact List.getElem?_set_self (List.getElem?_eq_some_iff.mp found).1
    intro event member other same
    rcases List.mem_append.mp member with member | member
    · rcases List.mem_pair.mp member with rfl | rfl
      · cases same
      · cases same; rfl
    · obtain rfl := mem_lifecycleEdge member; cases same; rfl
  | stopSkipped _ _ _ panes _ _ => exact course_same panes (by simp)
  | stopStarted present alive idle panes _ _ =>
    refine course_set present panes (.stopStarted alive idle) ?_ ref
    intro event member other same
    obtain rfl := mem_lifecycleEdge member
    cases same
    rfl
  | pane present stepped panes _ _ =>
    exact course_set present panes (.stepped stepped) stepped.courseOf ref
  | finalized present _ ready exited stops finalizer panes _ _ =>
    refine course_set present panes (.finalized ready exited stops finalizer) ?_ ref
    intro event member other same
    rcases List.mem_append.mp member with member | member
    · simp only [List.mem_cons, List.not_mem_nil, or_false] at member
      rcases member with rfl | rfl | rfl <;> (cases same; rfl)
    · obtain ⟨key, response, rfl⟩ := mem_stopAnswers member
      cases same

end Mult.Daemon
