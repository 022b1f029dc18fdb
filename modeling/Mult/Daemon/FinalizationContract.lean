import Mult.Daemon.Finalization

/-! The contract of finalization, over every run of the daemon.
-/

set_option autoImplicit false

namespace Mult.Daemon
open Foundation Protocol
open Std (TreeMap)

/-! ## Sessions are listed from their publication to their removal -/

/-- The event enters a session into the registry, or takes one out. -/
def Event.lists : Event → Bool
  | .published .. | .removed .. => true
  | _ => false

/-- What a step does to the listed sessions. -/
inductive Listing (server next : Server) : List Event → Prop where
  | kept {events : List Event} : next.state.sessions = server.state.sessions →
      (∀ event ∈ events, event.lists = false) → Listing server next events
  | published {thread : Nat} {session : SessionId} {ref : PaneRef} :
      server.unpublishedOf thread = some ref → server.state.sessions[session]? = none →
      next.state.sessions = server.state.sessions.insert session ref →
      Listing server next [.published ref session]
  | removed {ref : PaneRef} {pane : Pane} {outcome : StopOutcome} :
      server.panes[ref]? = some pane →
      next.state.sessions =
        (server.state.removeSessionIfSame pane.state.session ref).sessions →
      Listing server next
        ([.lifecycle ref pane.state.lifecycle .exited, .lifecycle ref .exited .removed,
          .removed ref pane.state.owner] ++ stopAnswers pane outcome)

theorem Event.ofPane.lists {event : Event} (own : event.ofPane) : event.lists = false := by
  cases event <;> first | rfl | cases own

theorem Effect.listing {server next : Server} {events : List Event}
    (effect : Effect server next events) : Listing server next events := by
  have answers (quiet : QuietHandlers server next events) :
      ∀ event ∈ events, event.lists = false := by
    intro event member
    obtain ⟨key, response, rfl⟩ := quiet.answers event member
    rfl
  cases effect with
  | quiet quiet => exact .kept quiet.tables.sessions (answers quiet.handlers)
  | shutdown _ _ tables => exact .kept tables.sessions (by simp)
  | retryRefused quiet _ => exact .kept quiet.tables.sessions (by simp [Event.lists])
  | validated _ _ => exact .kept rfl (by simp [Event.lists])
  | queued _ _ _ _ _ tables _ =>
    exact .kept tables.sessions (by split <;> simp [Event.lists])
  | reserved _ reserved =>
    obtain ⟨-, -, -, -, -, tables⟩ := reserveSession_ok reserved
    exact .kept tables.sessions (by simp)
  | spawned _ => exact .kept rfl (by simp [Event.lists])
  | @published thread _ _ _ ref _ _ found _ _ published =>
    obtain ⟨-, vacant, -, -, -, tables⟩ := publishReservedSession_ok published
    have unpublished : server.unpublishedOf thread = some ref := by
      simp [Server.unpublishedOf, found, Handler.unpublished]
    exact .published unpublished vacant tables.sessions
  | discarded _ _ => exact .kept rfl (by simp)
  | released _ => exact .kept rfl (by simp)
  | refitted _ _ tables handlers => exact .kept tables.sessions (answers handlers)
  | rebound _ _ _ _ tables _ => exact .kept tables.sessions (by simp [Event.lists])
  | granted _ _ _ _ tables _ => exact .kept tables.sessions (by simp [Event.lists])
  | unlocked _ _ => exact .kept rfl (by simp)
  | resized _ _ same => subst same; exact .kept rfl (by simp [Event.lists])
  | detached _ _ => exact .kept rfl (by simp [Event.lists])
  | stopAccepted _ _ _ _ _ =>
    refine .kept rfl fun event member => ?_
    rcases List.mem_append.mp member with member | member
    · rcases List.mem_pair.mp member with rfl | rfl <;> rfl
    · rw [mem_lifecycleEdge member]; rfl
  | stopSkipped _ _ _ _ tables _ => exact .kept tables.sessions (by simp)
  | stopStarted _ _ _ _ tables _ =>
    exact .kept tables.sessions fun event member => by rw [mem_lifecycleEdge member]; rfl
  | pane _ stepped _ tables _ =>
    exact .kept tables.sessions fun event member => (stepped.events_ofPane event member).lists
  | finalized present _ _ _ _ _ _ tables _ => exact .removed present tables.sessions

def Published (past : List Event) (ref : PaneRef) : Prop :=
  ∃ session, .published ref session ∈ past

/-- A pane is listed from its publication to its removal. -/
def Listed (server : Server) (past : List Event) : Prop :=
  ∀ ref : PaneRef, (∃ session : SessionId, server.state.sessions[session]? = some ref) ↔
    Published past ref ∧ removals past ref = []

section
variable {server next : Server} {past events : List Event} {ref : PaneRef}

theorem listed_quiet (quiet : ∀ event ∈ events, event.lists = false) :
    (Published (past ++ events) ref ↔ Published past ref) ∧
      removals (past ++ events) ref = removals past ref := by
  constructor
  · constructor
    · rintro ⟨session, member⟩
      rcases List.mem_append.mp member with earlier | now
      · exact ⟨session, earlier⟩
      · cases quiet _ now
    · exact fun ⟨session, member⟩ => ⟨session, List.mem_append_left _ member⟩
  · have none : removals events ref = [] := by
      refine List.filterMap_eq_nil_iff.mpr fun event member => ?_
      have apart := quiet event member
      cases event <;> first | rfl | cases apart
    rw [removals_append, none, List.append_nil]

theorem Recorded.fresh {pane : Pane} (recorded : Recorded server past) (coherent : Coherent server)
    (present : server.panes[ref]? = some pane) (idle : pane.Idle) : removals past ref = [] := by
  have agrees := recorded ref
  rw [present] at agrees
  refine List.eq_nil_of_length_eq_zero (agrees.removed.trans (if_neg fun gone => ?_))
  have settled := coherent ref pane present
  have told := settled.readerDone.symm.trans (settled.removed gone).1
  rw [show pane.course.reader = .unstarted from idle.reader] at told
  cases told

theorem removeSessionIfSame_sessions (registered : Registered server) {pane : Pane}
    (present : server.panes[ref]? = some pane) (session : SessionId) (other : PaneRef) :
    (server.state.removeSessionIfSame pane.state.session ref).sessions[session]? = some other ↔
      server.state.sessions[session]? = some other ∧ other ≠ ref := by
  have own (routed : server.state.sessions[session]? = some ref) :
      pane.state.session = session := by
    obtain ⟨label, labelled, same, -⟩ := registered.live session ref routed
    rw [Server.labelOf, present] at labelled
    cases labelled
    exact same
  unfold ServerState.removeSessionIfSame
  split
  · next routed =>
    rw [TreeMap.getElem?_erase]
    split
    · next same =>
      obtain rfl := Std.LawfulEqCmp.compare_eq_iff_eq.mp same
      rw [routed]
      simp only [reduceCtorEq, Option.some.injEq, ne_eq, false_iff, not_and, not_not]
      exact fun there => there.symm
    · next apart =>
      refine ⟨fun found => ⟨found, fun clash => apart ?_⟩, And.left⟩
      rw [own (clash ▸ found)]
      exact Std.compare_self
  · next elsewhere =>
    refine ⟨fun found => ⟨found, fun clash => elsewhere ?_⟩, And.left⟩
    rw [clash] at found
    rw [own found]
    exact found

theorem Listing.listed (listing : Listing server next events) (registered : Registered server)
    (unshared : Unshared server) (coherent : Coherent server) (recorded : Recorded server past)
    (listed : Listed server past) : Listed next (past ++ events) := by
  intro ref
  cases listing with
  | kept sessions quiet =>
    obtain ⟨published, removed⟩ := @listed_quiet past _ ref quiet
    rw [sessions, published, removed]
    exact listed ref
  | @published thread session target unpublished vacant sessions =>
    have removed : removals (past ++ [.published target session]) ref = removals past ref := by
      rw [removals_append]
      exact List.append_nil _
    rw [removed]
    by_cases here : target = ref
    · subst here
      -- It was known to its create alone until now, so it cannot have been removed.
      obtain ⟨pane, present, idle⟩ := unshared thread target unpublished
      have fresh : removals past target = [] := recorded.fresh coherent present idle
      have found : next.state.sessions[session]? = some target := by
        rw [sessions, TreeMap.getElem?_insert_self]
      exact iff_of_true ⟨session, found⟩
        ⟨⟨session, List.mem_append_right _ List.mem_cons_self⟩, fresh⟩
    · have published : Published (past ++ [.published target session]) ref ↔ Published past ref := by
        simp only [Published, List.mem_append, List.mem_singleton, Event.published.injEq]
        simp [Ne.symm here]
      rw [published, ← listed ref]
      refine exists_congr fun other => ?_
      -- Another pane keeps its place, since the number that is taken was vacant.
      rw [sessions, TreeMap.getElem?_insert]
      split
      · next same =>
        rw [← Std.LawfulEqCmp.compare_eq_iff_eq.mp same, vacant]
        simp [here]
      · rfl
  | @removed target pane outcome present sessions =>
    have silent : Unrecorded (stopAnswers pane outcome) ref := unrecorded_answers outcome
    rw [exists_congr fun session => by rw [sessions, removeSessionIfSame_sessions registered present],
      removals_append, removals_append, silent.removals, List.append_nil]
    by_cases here : target = ref
    · subst here
      rw [(recorded_removal pane.state.lifecycle pane.state.owner).2.1]
      simp
    · -- The removal is that of another pane, and the events tell nothing of this one.
      have other : removals [.lifecycle target pane.state.lifecycle .exited,
          .lifecycle target .exited .removed, .removed target pane.state.owner] ref = [] := by
        simp [removals, Event.removal, here]
      have published : Published (past ++ ([.lifecycle target pane.state.lifecycle .exited,
          .lifecycle target .exited .removed, .removed target pane.state.owner] ++
            stopAnswers pane outcome)) ref ↔ Published past ref := by
        refine exists_congr fun session => ?_
        refine ⟨fun member => ?_, fun member => List.mem_append_left _ member⟩
        rcases List.mem_append.mp member with earlier | now
        · exact earlier
        · rcases List.mem_append.mp now with first | answer
          · simp at first
          · obtain ⟨key, response, same⟩ := mem_stopAnswers answer
            cases same
      rw [published, other, List.append_nil, ← listed ref]
      exact exists_congr fun session => and_iff_left (Ne.symm here)

theorem listed_of_reaches (run : daemon.Reaches server past) : Listed server past := by
  refine run.invariant (motive := Listed) ?_ ?_
  · rintro state ⟨serverInstance, rfl⟩ ref
    simp [Server.new, ServerState.new, Published]
  · intro state next past events action earlier listed _ stepped
    exact (step_effect stepped).listing.listed (registered_of_reaches earlier)
      (unshared_of_reaches earlier) (coherent_of_reaches earlier) (recorded_of_reaches earlier)
      listed

end

/-! ## Nothing of a pane follows its removal -/

/-- The event ends the history of the pane. -/
def Event.closes (ref : PaneRef) : Event → Bool
  | .removed other _ | .exitSent other .. => other = ref
  | _ => false

def Event.produces (ref : PaneRef) : Event → Bool
  | .output other .. | .lifecycle other .. | .removed other _ => other = ref
  | _ => false

/-- The later event is none of the pane's output or lifecycle once the earlier closed it. -/
def Final (ref : PaneRef) (earlier later : Event) : Prop :=
  earlier.closes ref = true → later.produces ref = false

section
variable {server next : Server} {past events : List Event} {ref : PaneRef} {pane after : Pane}

theorem Event.courseOf_of_produces {event : Event} (produces : event.produces ref = true) :
    event.courseOf = some ref := by
  cases event <;> simp_all [Event.produces, Event.courseOf]

theorem Event.courseOf_of_closes {event : Event} (closes : event.closes ref = true) :
    event.courseOf = some ref := by
  cases event <;> simp_all [Event.closes, Event.courseOf]

theorem ordered_open (opened : ∀ event ∈ events, event.closes ref = false) :
    events.Pairwise (Final ref) :=
  List.pairwise_of_forall_mem_list fun earlier member later _ closes => by
    rw [opened earlier member] at closes; cases closes

theorem ordered_quiet (quiet : ∀ event ∈ events, event.courseOf ≠ some ref) :
    events.Pairwise (Final ref) :=
  ordered_open fun event member => by
    by_contra closes
    exact quiet event member (Event.courseOf_of_closes (by simpa using closes))

theorem PaneStep.ordered (stepped : PaneStep ref pane after events) :
    events.Pairwise (Final ref) := by
  cases stepped with
  | ptyWriter _ _ _ _ wrote =>
    exact ordered_open fun event member => by obtain ⟨bytes, rfl⟩ := wrote event member; rfl
  | appended => exact List.pairwise_singleton ..
  | readerNotified =>
    unfold Server.exitNotice
    split <;> simp
  | waiterNotified =>
    unfold Server.exitNotice
    split <;> simp
  | waiterFailed =>
    exact ordered_open fun event member => by
      obtain ⟨key, response, rfl⟩ := mem_stopAnswers member; rfl
  | driverFailed =>
    exact ordered_open fun event member => by
      obtain ⟨key, response, rfl⟩ := mem_stopAnswers member; rfl
  | driverMoved _ _ _ _ _ move =>
    exact ordered_open fun event member => by
      obtain ⟨-, group, kill, -, rfl⟩ := move.events event member; rfl
  | driverRestored =>
    refine ordered_open fun event member => ?_
    rcases List.mem_cons.mp member with rfl | member
    · rfl
    · rw [mem_lifecycleEdge member]; rfl
  | _ => exact .nil

theorem Course.ordered (course : Course server next ref pane after events) :
    events.Pairwise (Final ref) := by
  cases course with
  | kept _ quiet => exact ordered_quiet quiet
  | started => exact List.pairwise_singleton ..
  | stopAccepted =>
    refine ordered_open fun event member => ?_
    rcases List.mem_append.mp member with member | member
    · rcases List.mem_pair.mp member with rfl | rfl <;> rfl
    · rw [mem_lifecycleEdge member]; rfl
  | stopStarted => exact ordered_open fun event member => by rw [mem_lifecycleEdge member]; rfl
  | stepped stepped => exact stepped.ordered
  | finalized =>
    refine List.pairwise_append.mpr ⟨?_, ?_, ?_⟩
    · simp [Final, Event.closes]
    · exact ordered_open fun event member => by
        obtain ⟨key, response, rfl⟩ := mem_stopAnswers member; rfl
    · intro earlier _ later member _
      obtain ⟨key, response, rfl⟩ := mem_stopAnswers member
      rfl

theorem PaneStep.silent (stepped : PaneStep ref pane after events)
    (coherent : pane.course.Coherent) (gone : pane.state.lifecycle = .removed) :
    ∀ event ∈ events, event.produces ref = false := by
  intro event member
  cases stepped with
  | ptyWriter _ _ _ _ wrote => obtain ⟨bytes, rfl⟩ := wrote event member; rfl
  | appended _ _ _ _ _ _ reading _ =>
    -- A reader that still reads has not told the pane, so the pane is not removed.
    have told := coherent.readerDone.symm.trans (coherent.removed gone).1
    rw [show pane.course.reader = .reading from reading] at told
    cases told
  | readerNotified => obtain ⟨client, lease, rfl⟩ := mem_exitNotice member; rfl
  | waiterNotified => obtain ⟨client, lease, rfl⟩ := mem_exitNotice member; rfl
  | waiterFailed => obtain ⟨key, response, rfl⟩ := mem_stopAnswers member; rfl
  | driverFailed => obtain ⟨key, response, rfl⟩ := mem_stopAnswers member; rfl
  | driverMoved _ _ _ _ _ move => obtain ⟨-, group, kill, -, rfl⟩ := move.events event member; rfl
  | driverRestored _ _ _ _ _ _ _ edge =>
    rcases List.mem_cons.mp member with rfl | member
    · rfl
    · simp [edge, gone, lifecycleEdge] at member
  | _ => cases member

theorem Course.silent (course : Course server next ref pane after events)
    (coherent : pane.course.Coherent) (gone : pane.state.lifecycle = .removed) :
    ∀ event ∈ events, event.produces ref = false := by
  intro event member
  cases course with
  | kept _ quiet =>
    by_contra produces
    exact quiet event member (Event.courseOf_of_produces (by simpa using produces))
  | started => obtain rfl := List.mem_singleton.mp member; rfl
  | stopAccepted _ _ alive _ => simp [PaneState.terminated, gone] at alive
  | stopStarted alive _ => simp [PaneState.terminated, gone] at alive
  | stepped stepped => exact stepped.silent coherent gone event member
  | finalized ready _ _ _ => simp [Pane.finalizable, gone] at ready

theorem Recorded.removed (recorded : Recorded server past) (removed : removals past ref ≠ []) :
    ∃ pane : Pane, server.panes[ref]? = some pane ∧ pane.state.lifecycle = .removed := by
  have agrees := recorded ref
  cases present : server.panes[ref]? with
  | none => rw [present] at agrees; exact absurd agrees.removals removed
  | some pane =>
    rw [present] at agrees
    refine ⟨pane, rfl, ?_⟩
    by_contra live
    exact removed (List.eq_nil_of_length_eq_zero (agrees.removed.trans (if_neg live)))

theorem Recorded.exit (recorded : Recorded server past) {client : ClientId}
    {lease : AttachmentLease} (sent : .exitSent ref client lease ∈ past) :
    ∃ scope, removals past ref = [some ⟨scope, lease, client⟩] := by
  have known : (client, lease) ∈ exits past ref :=
    List.mem_filterMap.mpr ⟨_, sent, by simp [Event.exit]⟩
  have agrees := recorded ref
  cases present : server.panes[ref]? with
  | none =>
    rw [present] at agrees
    rw [agrees.exits] at known
    cases known
  | some pane =>
    rw [present] at agrees
    have told := agrees.told.subset (List.mem_append_left _ known)
    obtain ⟨owner, removed, address⟩ := List.mem_filterMap.mp told
    obtain ⟨owner, rfl, address⟩ := Option.map_eq_some_iff.mp address
    obtain ⟨scope, lease, client⟩ := owner
    cases address
    refine ⟨scope, ?_⟩
    have once := agrees.removed
    have bound : (removals past ref).length ≤ 1 := by split at once <;> omega
    have some := List.length_pos_of_mem removed
    obtain ⟨only, same⟩ := List.length_eq_one_iff.mp (Nat.le_antisymm bound some)
    rw [same] at removed ⊢
    rw [List.mem_singleton.mp removed]

theorem Recorded.closed (recorded : Recorded server past) {event : Event} (member : event ∈ past)
    (closes : event.closes ref = true) :
    ∃ pane : Pane, server.panes[ref]? = some pane ∧ pane.state.lifecycle = .removed := by
  refine recorded.removed ?_
  cases event with
  | removed other owner =>
    have known : owner ∈ removals past ref :=
      List.mem_filterMap.mpr ⟨_, member, by simpa [Event.removal, Event.closes] using closes⟩
    exact List.ne_nil_of_mem known
  | exitSent other client lease =>
    obtain rfl : other = ref := by simpa [Event.closes] using closes
    obtain ⟨scope, removed⟩ := recorded.exit member
    rw [removed]
    exact List.cons_ne_nil _ _
  | _ => cases closes

theorem Effect.ordered (effect : Effect server next events) (coherent : Coherent server)
    (recorded : Recorded server past) (ordered : past.Pairwise (Final ref)) :
    (past ++ events).Pairwise (Final ref) := by
  have step := effect.course ref
  refine List.pairwise_append.mpr ⟨ordered, ?_, fun earlier known later member closes => ?_⟩
  · rcases step with ⟨-, -, quiet⟩ | ⟨-, -, quiet⟩ | ⟨-, -, course⟩
    · exact ordered_quiet quiet
    · exact ordered_quiet quiet
    · exact course.ordered
  · obtain ⟨pane, present, gone⟩ := recorded.closed known closes
    rcases step with ⟨absent, -, -⟩ | ⟨absent, -, -⟩ | ⟨here, -, course⟩
    · rw [present] at absent; cases absent
    · rw [present] at absent; cases absent
    · rw [present] at here
      cases here
      exact course.silent (coherent ref pane present) gone later member

theorem ordered_of_reaches (run : daemon.Reaches server past) (ref : PaneRef) :
    past.Pairwise (Final ref) := by
  refine run.invariant (motive := fun _ past => past.Pairwise (Final ref)) ?_ ?_
  · exact fun _ _ => .nil
  · intro state next past events action earlier ordered _ stepped
    exact (step_effect stepped).ordered (coherent_of_reaches earlier) (recorded_of_reaches earlier)
      ordered

theorem PaneStep.restored (stepped : PaneStep ref pane after events)
    (back : .lifecycle ref .stopping .running ∈ events) :
    ∃ position driver message, pane.drivers[position]? = some driver ∧
      driver.phase = .restoring true message ∧ .gaveUp ref position ∈ events := by
  cases stepped with
  | driverRestored position driver restore message lifecycle present restoring same =>
    refine ⟨position, driver, message, present, ?_, List.mem_cons_self⟩
    rcases List.mem_cons.mp back with other | edge
    · cases other
    · have turned := mem_lifecycleEdge edge
      simp only [Event.lifecycle.injEq, true_and] at turned
      obtain ⟨was, now⟩ := turned
      -- Where nothing was to be restored the lifecycle stayed, and there is no such edge.
      cases restore with
      | true => exact restoring
      | false =>
        rw [← now, ← was] at same
        cases same
  | driverMoved _ _ _ _ _ move =>
    obtain ⟨-, _, _, -, other⟩ := move.events _ back
    cases other
  | ptyWriter _ _ _ _ wrote =>
    obtain ⟨_, other⟩ := wrote _ back
    cases other
  | appended => cases List.mem_singleton.mp back
  | readerNotified =>
    obtain ⟨_, _, other⟩ := mem_exitNotice back
    cases other
  | waiterNotified =>
    obtain ⟨_, _, other⟩ := mem_exitNotice back
    cases other
  | waiterFailed =>
    obtain ⟨_, _, other⟩ := mem_stopAnswers back
    cases other
  | driverFailed =>
    obtain ⟨_, _, other⟩ := mem_stopAnswers back
    cases other
  | _ => cases back

theorem Course.restored (course : Course server next ref pane after events)
    (back : .lifecycle ref .stopping .running ∈ events) :
    ∃ position driver message, pane.drivers[position]? = some driver ∧
      driver.phase = .restoring true message ∧ .gaveUp ref position ∈ events := by
  cases course with
  | kept _ quiet => exact absurd rfl (quiet _ back)
  | started => cases List.mem_singleton.mp back
  | @stopAccepted _ _ _ lifecycle _ _ _ edge =>
    rcases List.mem_append.mp back with first | turn
    · simp at first
    · have turned := mem_lifecycleEdge turn
      simp only [Event.lifecycle.injEq, true_and] at turned
      rw [← turned.1, ← turned.2] at edge
      cases edge
  | stopStarted =>
    have turned := mem_lifecycleEdge back
    simp at turned
  | stepped stepped => exact stepped.restored back
  | finalized =>
    rcases List.mem_append.mp back with first | answer
    · simp at first
    · obtain ⟨_, _, other⟩ := mem_stopAnswers answer
      cases other

theorem restored_of_step {action : Action} (stepped : step server action = some (next, events))
    (back : .lifecycle ref .stopping .running ∈ events) :
    ∃ pane position driver message, server.panes[ref]? = some pane ∧
      pane.drivers[position]? = some driver ∧ driver.phase = .restoring true message ∧
      .gaveUp ref position ∈ events := by
  rcases (step_effect stepped).course ref with ⟨-, -, quiet⟩ | ⟨-, -, quiet⟩ | ⟨here, -, course⟩
  · exact absurd rfl (quiet _ back)
  · exact absurd rfl (quiet _ back)
  · obtain ⟨position, driver, message, present, failed, gave⟩ := course.restored back
    exact ⟨_, position, driver, message, here, present, failed, gave⟩

end

/-- A stop that was accepted is answered, or pending on its pane. -/
def StopsKept (server : Server) (past : List Event) : Prop :=
  ∀ (ref : PaneRef) (key : RequestKey), .stopAccepted ref key ∈ past →
    0 < answered past key ∨ ∃ pane : Pane, server.panes[ref]? = some pane ∧
      key ∈ pane.state.pendingStops

section
variable {server next : Server} {past events : List Event} {ref : PaneRef} {pane after : Pane}
  {key : RequestKey}

theorem PaneStep.pending (stepped : PaneStep ref pane after events)
    (pending : key ∈ pane.state.pendingStops) :
    0 < answered events key ∨ key ∈ after.state.pendingStops := by
  have total := stepped.conserves key
  have held : 0 < pane.holds key := List.count_pos_iff.mpr pending
  by_cases answers : 0 < answered events key
  · exact .inl answers
  · exact .inr (List.count_pos_iff.mp (show 0 < after.holds key by omega))

theorem Course.pending (course : Course server next ref pane after events)
    (pending : key ∈ pane.state.pendingStops) :
    0 < answered events key ∨ key ∈ after.state.pendingStops := by
  cases course with
  | kept same _ =>
    have stops : after.state.pendingStops = _ := congrArg PaneCourse.pendingStops same
    exact .inr (stops ▸ pending)
  | started => exact .inr pending
  | stopAccepted => exact .inr (List.mem_append_left _ pending)
  | stopStarted => exact .inr pending
  | stepped stepped => exact stepped.pending pending
  | finalized =>
    refine .inl ?_
    rw [answered_append, answered_answers]
    have held : 0 < pane.holds key := List.count_pos_iff.mpr pending
    omega

theorem Course.accepts (course : Course server next ref pane after events)
    (accepted : .stopAccepted ref key ∈ events) : key ∈ after.state.pendingStops := by
  cases course with
  | kept _ quiet => exact absurd rfl (quiet _ accepted)
  | stopAccepted _ _ _ _ =>
    rcases List.mem_append.mp accepted with here | edge
    · simp only [List.mem_cons, List.not_mem_nil, or_false] at here
      rcases here with here | here
      · cases here
      · cases here
        exact List.mem_append_right _ List.mem_cons_self
    · cases mem_lifecycleEdge edge
  | started => simp at accepted
  | stopStarted => cases mem_lifecycleEdge accepted
  | stepped stepped => cases stepped.events_ofPane _ accepted
  | finalized =>
    rcases List.mem_append.mp accepted with here | answer
    · simp at here
    · obtain ⟨key, response, same⟩ := mem_stopAnswers answer
      cases same

theorem Effect.stopsKept (effect : Effect server next events) (kept : StopsKept server past) :
    StopsKept next (past ++ events) := by
  intro ref key accepted
  rw [answered_append]
  rcases List.mem_append.mp accepted with earlier | now
  · rcases kept ref key earlier with done | ⟨pane, present, pending⟩
    · exact .inl (by omega)
    · rcases effect.course ref with ⟨absent, -, -⟩ | ⟨absent, -, -⟩ | ⟨here, there, course⟩
      · rw [present] at absent; cases absent
      · rw [present] at absent; cases absent
      · rw [present] at here
        cases here
        rcases course.pending pending with answers | still
        · exact .inl (by omega)
        · exact .inr ⟨_, there, still⟩
  · rcases effect.course ref with ⟨-, -, quiet⟩ | ⟨-, -, quiet⟩ | ⟨-, there, course⟩
    · exact absurd rfl (quiet _ now)
    · exact absurd rfl (quiet _ now)
    · exact .inr ⟨_, there, course.accepts now⟩

theorem stopsKept_of_reaches (run : daemon.Reaches server past) : StopsKept server past := by
  refine run.invariant (motive := StopsKept) ?_ ?_
  · exact fun _ _ _ _ member => by cases member
  · intro state next past events action _ kept _ stepped
    exact (step_effect stepped).stopsKept kept

end

/-! ## The contract -/

/-- The stop was answered, once, and is held nowhere any more. -/
def StopCompleted (server : Server) (past : List Event) (key : RequestKey) : Prop :=
  answered past key = 1 ∧ server.held key = 0

/-- The stop is pending, once, on a pane that is still there and attended to. -/
def StopWaiting (server : Server) (past : List Event) (ref : PaneRef) (key : RequestKey) : Prop :=
  answered past key = 0 ∧ server.held key = 1 ∧ ∃ pane : Pane, server.panes[ref]? = some pane ∧
    key ∈ pane.state.pendingStops ∧ pane.state.lifecycle ≠ .removed ∧ Attends server ref pane

structure FinalizationContract (server : Server) (past : List Event) : Prop where
  /-- A session is in the registry from its publication to its one removal. -/
  listed : ∀ ref : PaneRef, (∃ session : SessionId, server.state.sessions[session]? = some ref) ↔
    Published past ref ∧ removals past ref = []
  once : ∀ ref, (removals past ref).length ≤ 1
  removed : ∀ (ref : PaneRef) (pane : Pane), server.panes[ref]? = some pane →
    (removals past ref ≠ [] ↔ pane.state.lifecycle = .removed)
  /-- The removal finds the reader through and the exit recorded. -/
  ready : ∀ (action : Action) (next : Server) (events : List Event) (ref : PaneRef)
    (owner : Option AttachmentOwner), step server action = some (next, events) →
    .removed ref owner ∈ events → ∃ pane : Pane, server.panes[ref]? = some pane ∧
      pane.reader.done = true ∧ pane.state.readerDone = true ∧
      pane.state.childExit.isSome = true ∧ owner = pane.state.owner
  /-- Whichever of the two threads is last removes the pane. -/
  notMissed : ∀ (ref : PaneRef) (pane : Pane), server.panes[ref]? = some pane →
    pane.reader = .finished → pane.waiter = .finished → pane.state.lifecycle = .removed
  exit : ∀ ref, (exits past ref).length ≤ 1 ∧ ∀ client lease, .exitSent ref client lease ∈ past →
    ∃ scope, removals past ref = [some ⟨scope, lease, client⟩]
  notified : ∀ (ref : PaneRef) (pane : Pane), server.panes[ref]? = some pane →
    pane.reader = .finished → pane.waiter = .finished →
    List.Perm (exits past ref) ((removals past ref).filterMap (Option.map AttachmentOwner.address))
  ordered : ∀ ref, past.Pairwise (Final ref)
  stops : ∀ ref key, .stopAccepted ref key ∈ past →
    StopCompleted server past key ∨ StopWaiting server past ref key
  settled : ∀ (ref : PaneRef) (pane : Pane), server.panes[ref]? = some pane →
    pane.state.lifecycle = .removed → pane.state.pendingStops = []
  lifecycle : ∀ (ref : PaneRef) (pane : Pane), server.panes[ref]? = some pane →
    Walk PaneLifecycle.Edge .running (edges past ref) pane.state.lifecycle
  /-- Only a termination that failed to signal brings a pane back to running. -/
  restored : ∀ (action : Action) (next : Server) (events : List Event) (ref : PaneRef),
    step server action = some (next, events) → .lifecycle ref .stopping .running ∈ events →
    ∃ pane position driver message, server.panes[ref]? = some pane ∧
      pane.drivers[position]? = some driver ∧ driver.phase = .restoring true message ∧
      .gaveUp ref position ∈ events

theorem held_pos {server : Server} {ref : PaneRef} {pane : Pane} {key : RequestKey}
    (present : server.panes[ref]? = some pane) (pending : key ∈ pane.state.pendingStops) :
    0 < server.held key := by
  have weight : pane.holds key ≤ tally (Pane.holds key) server.panes := weigh_le_tally present
  have own : 0 < pane.holds key := List.count_pos_iff.mpr pending
  unfold Server.held
  omega

theorem finalization_contract (server : Server) (past : List Event)
    (run : daemon.Reaches server past) : FinalizationContract server past := by
  have coherent := coherent_of_reaches run
  have recorded := recorded_of_reaches run
  have agrees {ref : PaneRef} {pane : Pane} (present : server.panes[ref]? = some pane) :
      pane.course.Recorded past ref := by
    have agrees := recorded ref
    rwa [present] at agrees
  -- Removals are counted by the record of the pane; where there is no pane there is none.
  have once (ref : PaneRef) : (removals past ref).length ≤ 1 := by
    by_cases removed : removals past ref = []
    · simp [removed]
    · obtain ⟨pane, present, gone⟩ := recorded.removed removed
      exact ((agrees present).removed.trans (if_pos gone)).le
  refine ⟨listed_of_reaches run, once, fun ref pane present => ?_, ?_, fun ref pane present read
    reaped => ?_, fun ref => ⟨?_, fun client lease sent => recorded.exit sent⟩,
    fun ref pane present read reaped => ?_, ordered_of_reaches run, fun ref key accepted => ?_,
    fun ref pane present gone => ((coherent ref pane present).removed gone).2.2.1,
    fun ref pane present => (agrees present).walk,
    fun action next events ref stepped back => restored_of_step stepped back⟩
  · have total := (agrees present).removed
    constructor
    · intro removed
      by_contra live
      exact removed (List.eq_nil_of_length_eq_zero (total.trans (if_neg live)))
    · intro gone removed
      rw [removed, if_pos (show pane.course.lifecycle = .removed from gone)] at total
      cases total
  · intro action next events ref owner stepped removed
    cases (step_effect stepped).cause _ removed with
    | ofPane own => cases own
    | @removed _ pane present ready =>
      simp only [Pane.finalizable, Bool.and_eq_true] at ready
      have told : pane.state.readerDone = pane.reader.done := (coherent ref pane present).readerDone
      exact ⟨pane, present, told ▸ ready.2, ready.2, ready.1.1, rfl⟩
  · by_contra live
    exact (coherent ref pane present).awaited live read reaped
  · refine le_trans ?_ (once ref)
    cases present : server.panes[ref]? with
    | none =>
      have unrecorded := recorded ref
      rw [present] at unrecorded
      simp [unrecorded.exits]
    | some pane =>
      have told := (agrees present).told.length_eq
      have kept := List.length_filterMap_le (Option.map AttachmentOwner.address)
        (removals past ref)
      rw [List.length_append] at told
      omega
  · have told := (agrees present).told
    have none : pane.course.notices = [] := by
      simp [PaneCourse.notices, Pane.course, read, reaped]
    rwa [none, List.append_nil] at told
  · -- A stop is held or answered once in all, and what is held of it is either pending or done.
    obtain ⟨total, -⟩ := accounted_of_reaches run key
    rcases stopsKept_of_reaches run ref key accepted with done | ⟨pane, present, pending⟩
    · exact .inl ⟨by omega, by omega⟩
    · have held := held_pos present pending
      have waits : pane.state.pendingStops ≠ [] := List.ne_nil_of_mem pending
      exact .inr ⟨by omega, by omega, pane, present, pending,
        fun gone => waits ((coherent ref pane present).removed gone).2.2.1,
        attended_of_reaches run ref pane present waits⟩

/-- The owner's stop is accepted and the termination started; the child exits, the stream
ends, and the reader removes the pane and tells the owner. -/
theorem finalization_contract_stopped : ∃ server past,
    answered past ⟨⟨1⟩, thirdRequest⟩ = 1 ∧ exits past 0 = [(1, .min)] ∧
      FinalizationContract server past := by
  obtain ⟨server, past, run, passed⟩ := daemon.exists_reaches ⟨⟨0⟩, rfl⟩
    (sampleSession ++ stopSteps 0 thirdRequest ++
      [.drive 0 0 .proceed, .waiter 0 (.exited ⟨0, none⟩), .waiter 0 .proceed, .readEnd 0,
        .reader 0, .reader 0, .reader 0])
    (fun _ past => answered past ⟨⟨1⟩, thirdRequest⟩ = 1 ∧ exits past 0 = [(1, .min)])
    (by decide)
  obtain ⟨done, sent⟩ := of_decide_eq_true passed
  exact ⟨server, past, done, sent, finalization_contract server past run⟩

end Mult.Daemon
