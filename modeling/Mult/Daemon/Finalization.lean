import Mult.Foundation.Walks
import Mult.Daemon.Attended
import Mult.Daemon.Requests

/-! Finalization happens once: what the history of a run shows of each pane's removal, of
its exit notice, its lifecycle and the stops accepted on it.
-/

set_option autoImplicit false

namespace Mult.Daemon
open Foundation Protocol

/-! ## What a history shows of one pane -/

def Event.removal (ref : PaneRef) : Event → Option (Option AttachmentOwner)
  | .removed other owner => if other = ref then some owner else none
  | _ => none

def Event.exit (ref : PaneRef) : Event → Option (ClientId × AttachmentLease)
  | .exitSent other client lease => if other = ref then some (client, lease) else none
  | _ => none

def Event.edge (ref : PaneRef) : Event → Option (PaneLifecycle × PaneLifecycle)
  | .lifecycle other before after => if other = ref then some (before, after) else none
  | _ => none

def removals (past : List Event) (ref : PaneRef) : List (Option AttachmentOwner) :=
  past.filterMap (Event.removal ref)

/-- The exit notices sent for the pane. -/
def exits (past : List Event) (ref : PaneRef) : List (ClientId × AttachmentLease) :=
  past.filterMap (Event.exit ref)

/-- The lifecycle edges the pane took. -/
def edges (past : List Event) (ref : PaneRef) : List (PaneLifecycle × PaneLifecycle) :=
  past.filterMap (Event.edge ref)

/-- The edges a pane's lifecycle may take. -/
inductive PaneLifecycle.Edge : PaneLifecycle → PaneLifecycle → Prop where
  | stop : Edge .running .stopping
  /-- A termination that could not signal the pane gives it back. -/
  | restore : Edge .stopping .running
  | exit : Edge .running .exited
  | exitStopped : Edge .stopping .exited
  | remove : Edge .exited .removed

def noticeOf (outgoing : Outgoing) : Option (ClientId × AttachmentLease) :=
  match outgoing.message with
  | .paneExited _ lease _ => some (outgoing.client, lease)
  | _ => none

/-- The exit notices a thread of the pane has still to send. -/
def PaneCourse.notices (course : PaneCourse) : List (ClientId × AttachmentLease) :=
  (match course.reader with
    | .notifying outgoing => outgoing.filterMap noticeOf
    | _ => []) ++
  match course.waiter with
    | .notifying outgoing => outgoing.filterMap noticeOf
    | _ => []

def AttachmentOwner.address (owner : AttachmentOwner) : ClientId × AttachmentLease :=
  (owner.client, owner.lease)

/-- How a pane agrees with the history that led to it. -/
structure PaneCourse.Recorded (past : List Event) (ref : PaneRef) (course : PaneCourse) :
    Prop where
  walk : Walk PaneLifecycle.Edge .running (edges past ref) course.lifecycle
  removed : (removals past ref).length = if course.lifecycle = .removed then 1 else 0
  told : List.Perm (exits past ref ++ course.notices)
    ((removals past ref).filterMap (Option.map AttachmentOwner.address))

/-- A pane that does not exist yet has no history. -/
structure Unrecorded (past : List Event) (ref : PaneRef) : Prop where
  edges : edges past ref = []
  removals : removals past ref = []
  exits : exits past ref = []

def Recorded (server : Server) (past : List Event) : Prop :=
  ∀ ref : PaneRef, match server.panes[ref]? with
    | none => Unrecorded past ref
    | some pane => pane.course.Recorded past ref

section
variable {past more events : List Event} {ref : PaneRef} {pane after : Pane}

theorem removals_append : removals (past ++ more) ref = removals past ref ++ removals more ref :=
  List.filterMap_append ..

theorem exits_append : exits (past ++ more) ref = exits past ref ++ exits more ref :=
  List.filterMap_append ..

theorem edges_append : edges (past ++ more) ref = edges past ref ++ edges more ref :=
  List.filterMap_append ..

theorem unrecorded_quiet (quiet : ∀ event ∈ events, event.courseOf ≠ some ref) :
    Unrecorded events ref := by
  constructor <;> (
    refine List.filterMap_eq_nil_iff.mpr fun event member => ?_
    have apart := quiet event member
    cases event <;> simp_all [Event.courseOf, Event.edge, Event.removal, Event.exit])

theorem edges_lifecycleEdge (before after : PaneLifecycle) :
    edges (lifecycleEdge ref before after) ref =
      if before = after then [] else [(before, after)] := by
  unfold lifecycleEdge
  split <;> simp [edges, Event.edge]

theorem recorded_removal (lifecycle : PaneLifecycle) (owner : Option AttachmentOwner) :
    edges [.lifecycle ref lifecycle .exited, .lifecycle ref .exited .removed, .removed ref owner]
        ref = [(lifecycle, .exited), (.exited, .removed)] ∧
      removals [.lifecycle ref lifecycle .exited, .lifecycle ref .exited .removed,
        .removed ref owner] ref = [owner] ∧
      exits [.lifecycle ref lifecycle .exited, .lifecycle ref .exited .removed,
        .removed ref owner] ref = [] := by
  refine ⟨?_, ?_, rfl⟩ <;> simp [edges, removals, List.filterMap_cons, Event.edge, Event.removal]

theorem silent_lifecycleEdge (before after : PaneLifecycle) :
    removals (lifecycleEdge ref before after) ref = [] ∧
      exits (lifecycleEdge ref before after) ref = [] := by
  unfold lifecycleEdge
  split <;> exact ⟨rfl, rfl⟩

theorem unrecorded_answers (outcome : StopOutcome) : Unrecorded (stopAnswers pane outcome) ref := by
  refine unrecorded_quiet fun event member => ?_
  obtain ⟨key, response, rfl⟩ := mem_stopAnswers member
  simp [Event.courseOf]

theorem exits_exitNotice (outgoing : Outgoing) :
    exits (Server.exitNotice ref outgoing) ref = (noticeOf outgoing).toList := by
  obtain ⟨client, message, disconnect⟩ := outgoing
  cases message <;> simp [Server.exitNotice, noticeOf, exits, Event.exit]

theorem notices_finalNotices (exit : ExitInfo) {answers : List Outgoing}
    (stops : ∀ answer ∈ answers,
      ∃ requestId outcome, answer.message = .stopResult requestId outcome) :
    (finalNotices pane exit answers).filterMap noticeOf =
      (pane.state.owner.map AttachmentOwner.address).toList := by
  have silent : answers.filterMap noticeOf = [] := by
    refine List.filterMap_eq_nil_iff.mpr fun answer member => ?_
    obtain ⟨requestId, outcome, same⟩ := stops answer member
    simp [noticeOf, same]
  unfold finalNotices
  rw [List.filterMap_append, silent, List.append_nil]
  cases pane.state.owner <;> rfl

theorem PaneCourse.Recorded.quiet {course moved : PaneCourse}
    (recorded : course.Recorded past ref) (silent : Unrecorded events ref)
    (lifecycle : moved.lifecycle = course.lifecycle) (notices : moved.notices = course.notices) :
    moved.Recorded (past ++ events) ref := by
  constructor
  · rw [edges_append, silent.edges, List.append_nil, lifecycle]
    exact recorded.walk
  · rw [removals_append, silent.removals, List.append_nil, lifecycle]
    exact recorded.removed
  · rw [exits_append, silent.exits, List.append_nil, notices, removals_append, silent.removals,
      List.append_nil]
    exact recorded.told

theorem PaneCourse.Recorded.moveTo {course moved : PaneCourse} (recorded : course.Recorded past ref)
    (edge : edges events ref = if course.lifecycle = moved.lifecycle then [] else
      [(course.lifecycle, moved.lifecycle)])
    (silent : removals events ref = [] ∧ exits events ref = [])
    (allowed : course.lifecycle ≠ moved.lifecycle →
      PaneLifecycle.Edge course.lifecycle moved.lifecycle)
    (kept : moved.lifecycle = .removed ↔ course.lifecycle = .removed)
    (notices : moved.notices = course.notices) : moved.Recorded (past ++ events) ref := by
  constructor
  · rw [edges_append, edge]
    exact recorded.walk.moveTo allowed
  · rw [removals_append, silent.1, List.append_nil, recorded.removed]
    simp only [kept]
  · rw [exits_append, silent.2, List.append_nil, notices, removals_append, silent.1,
      List.append_nil]
    exact recorded.told

theorem PaneCourse.Recorded.notified {course moved : PaneCourse} {outgoing : Outgoing}
    (recorded : course.Recorded past ref) (lifecycle : moved.lifecycle = course.lifecycle)
    (notices : List.Perm course.notices ((noticeOf outgoing).toList ++ moved.notices)) :
    moved.Recorded (past ++ Server.exitNotice ref outgoing) ref := by
  have silent : edges (Server.exitNotice ref outgoing) ref = [] ∧
      removals (Server.exitNotice ref outgoing) ref = [] := by
    unfold Server.exitNotice
    split <;> simp [edges, removals, Event.edge, Event.removal]
  constructor
  · rw [edges_append, silent.1, List.append_nil, lifecycle]
    exact recorded.walk
  · rw [removals_append, silent.2, List.append_nil, lifecycle]
    exact recorded.removed
  · rw [exits_append, exits_exitNotice, removals_append, silent.2, List.append_nil,
      List.append_assoc]
    exact (notices.symm.append_left _).trans recorded.told

theorem PaneStep.recorded (stepped : PaneStep ref pane after events)
    (recorded : pane.course.Recorded past ref) :
    after.course.Recorded (past ++ events) ref := by
  cases stepped with
  | ptyWriter _ _ _ _ wrote =>
    refine recorded.quiet (unrecorded_quiet fun event member => ?_) rfl rfl
    obtain ⟨bytes, rfl⟩ := wrote event member
    simp [Event.courseOf]
  | appended _ _ _ _ _ _ _ appended =>
    obtain ⟨_, _, _, rfl⟩ := appendRawHistory_frame appended
    exact recorded.quiet ⟨rfl, rfl, rfl⟩ rfl rfl
  | readFailed _ _ _ reading failed =>
    obtain ⟨_, _, _, rfl⟩ := appendRawHistory_frame failed
    refine recorded.quiet ⟨rfl, rfl, rfl⟩ rfl ?_
    simp [PaneCourse.notices, Pane.course, reading]
  | readEnded reading =>
    refine recorded.quiet ⟨rfl, rfl, rfl⟩ rfl ?_
    simp [PaneCourse.notices, Pane.course, reading]
  | readerDone ended =>
    refine recorded.quiet ⟨rfl, rfl, rfl⟩ rfl ?_
    simp [PaneCourse.notices, Pane.course, ended]
  | readerKept finalizing _ =>
    refine recorded.quiet ⟨rfl, rfl, rfl⟩ rfl ?_
    simp [PaneCourse.notices, Pane.course, finalizing]
  | readerNotified outgoing rest notifying =>
    refine recorded.notified rfl ?_
    simp only [PaneCourse.notices, Pane.course, notifying, List.filterMap_cons]
    cases noticeOf outgoing <;> exact .refl _
  | readerFinished notifying =>
    refine recorded.quiet ⟨rfl, rfl, rfl⟩ rfl ?_
    simp [PaneCourse.notices, Pane.course, notifying]
  | waiterNotified outgoing rest notifying =>
    refine recorded.notified rfl ?_
    simp only [PaneCourse.notices, Pane.course, notifying, List.filterMap_cons]
    cases noticeOf outgoing with
    | none => exact .refl _
    | some notice => exact List.perm_middle
  | waiterFailed _ _ _ failing =>
    refine recorded.quiet (unrecorded_answers _) rfl ?_
    simp [PaneCourse.notices, Pane.course, failing]
  | driverMoved _ _ _ _ _ move =>
    refine recorded.quiet ?_ rfl rfl
    constructor <;> (
      refine List.filterMap_eq_nil_iff.mpr fun event member => ?_
      obtain ⟨-, group, kill, -, rfl⟩ := move.events event member
      rfl)
  | driverRestored position driver restore message lifecycle present restoring edge =>
    refine recorded.moveTo (edges_lifecycleEdge _ _) (silent_lifecycleEdge _ _) ?_ ?_ rfl
    · intro apart
      change pane.state.lifecycle ≠ lifecycle at apart
      change PaneLifecycle.Edge pane.state.lifecycle lifecycle
      split at edge
      · next restored => rw [edge, restored.2]; exact .restore
      · exact absurd edge.symm apart
    · change lifecycle = .removed ↔ pane.state.lifecycle = .removed
      rw [edge]
      split
      · next restored => simp [restored.2]
      · rfl
  | driverFailed => exact recorded.quiet (unrecorded_answers _) rfl rfl
  | _ =>
    -- One step of the waiter.
    refine recorded.quiet ⟨rfl, rfl, rfl⟩ rfl ?_
    simp_all [PaneCourse.notices, Pane.course]

theorem Unrecorded.append (first : Unrecorded past ref) (second : Unrecorded more ref) :
    Unrecorded (past ++ more) ref :=
  ⟨by rw [edges_append, first.edges, second.edges, List.nil_append],
    by rw [removals_append, first.removals, second.removals, List.nil_append],
    by rw [exits_append, first.exits, second.exits, List.nil_append]⟩

namespace PaneCourse.Coherent

variable (coherent : pane.course.Coherent) (live : pane.state.lifecycle ≠ .removed)
include coherent live

theorem notices_reader (state : PaneState) (outgoing : List Outgoing) :
    ({ pane with state, reader := .notifying outgoing } : Pane).course.notices =
      outgoing.filterMap noticeOf := by
  have quiet := coherent.waiter live
  simp only [PaneCourse.notices, Pane.course]
  split
  · next told => exact absurd told (quiet _)
  · rw [List.append_nil]

theorem notices_waiter (state : PaneState) (outgoing : List Outgoing) :
    ({ pane with state, waiter := .notifying outgoing } : Pane).course.notices =
      outgoing.filterMap noticeOf := by
  have quiet := coherent.reader live
  simp only [PaneCourse.notices, Pane.course]
  split
  · next told => exact absurd told (quiet _)
  · rw [List.nil_append]

theorem notices_nil : pane.course.notices = [] := by
  have reader := coherent.reader live
  have waiter := coherent.waiter live
  unfold PaneCourse.notices
  split
  · next told => exact absurd told (reader _)
  · rw [List.nil_append]
    split
    · next told => exact absurd told (waiter _)
    · rfl

end PaneCourse.Coherent

theorem Course.recorded {server next : Server} (course : Course server next ref pane after events)
    (recorded : pane.course.Recorded past ref) (coherent : pane.course.Coherent)
    (unshared : Unshared server) (found : server.panes[ref]? = some pane) :
    after.course.Recorded (past ++ events) ref := by
  cases course with
  | kept same quiet => rw [same]; exact recorded.quiet (unrecorded_quiet quiet) rfl rfl
  | started unpublished =>
    -- A pane only its create knows has told nobody anything yet.
    obtain ⟨known, present, -, reader, waiter⟩ := unshared _ ref unpublished
    rw [found] at present
    cases present
    refine recorded.quiet ⟨rfl, rfl, rfl⟩ rfl ?_
    simp [PaneCourse.notices, Pane.course, reader, waiter]
  | @stopAccepted thread conn request lifecycle _ _ alive edge =>
    refine recorded.moveTo (edges_lifecycleEdge _ _) (silent_lifecycleEdge _ _) ?_ ?_ rfl
    · intro apart
      change pane.state.lifecycle ≠ lifecycle at apart
      change PaneLifecycle.Edge pane.state.lifecycle lifecycle
      split at edge
      · next running => rw [edge, running]; exact .stop
      · exact absurd edge.symm apart
    · change lifecycle = .removed ↔ pane.state.lifecycle = .removed
      rw [edge]
      split
      · next running => simp [running]
      · rfl
  | stopStarted alive idle =>
    have live : pane.state.lifecycle ≠ .removed := by
      intro gone
      simp [PaneState.terminated, gone] at alive
    refine recorded.moveTo (edges_lifecycleEdge _ _) (silent_lifecycleEdge _ _) ?_ ?_ rfl
    · intro apart
      change pane.state.lifecycle ≠ .stopping at apart
      have exited : pane.state.lifecycle ≠ .exited := coherent.notExited
      change PaneLifecycle.Edge pane.state.lifecycle .stopping
      cases here : pane.state.lifecycle with
      | running => exact .stop
      | stopping => exact absurd here apart
      | exited => exact absurd here exited
      | removed => exact absurd here live
    · change PaneLifecycle.stopping = .removed ↔ pane.state.lifecycle = .removed
      simp [live]
  | stepped stepped => exact stepped.recorded recorded
  | @finalized after exit answers ready exited stops finalizer =>
    -- The one step that removes the pane; until then it told nothing and was not removed.
    have live : pane.state.lifecycle ≠ .removed := by
      simp only [Pane.finalizable, ne_eq, decide_not, Bool.and_eq_true, Bool.not_eq_true',
        decide_eq_false_iff_not] at ready
      exact ready.1.2
    have closed : after.course.lifecycle = .removed := by cases finalizer <;> rfl
    have before : pane.course.notices = [] := coherent.notices_nil live
    have notices : after.course.notices = (pane.state.owner.map AttachmentOwner.address).toList := by
      rw [← notices_finalNotices exit stops]
      cases finalizer with
      | reader finalizing => exact coherent.notices_reader live _ _
      | waiter finalizing => exact coherent.notices_waiter live _ _
    have silent : Unrecorded (stopAnswers pane (.stopped exit)) ref := unrecorded_answers _
    obtain ⟨taken, removed, sent⟩ := @recorded_removal ref pane.state.lifecycle pane.state.owner
    constructor
    · have exits : PaneLifecycle.Edge pane.state.lifecycle .exited := by
        cases here : pane.state.lifecycle with
        | running => exact .exit
        | stopping => exact .exitStopped
        | exited => exact absurd here coherent.notExited
        | removed => exact absurd here live
      have walked := (recorded.walk.move exits).move .remove
      rw [List.append_assoc] at walked
      rw [edges_append, edges_append, silent.edges, List.append_nil, closed, taken]
      exact walked
    · have once : (removals past ref).length = 0 := recorded.removed.trans (if_neg live)
      rw [removals_append, removals_append, silent.removals, List.append_nil, closed, removed,
        List.length_append, once]
      rfl
    · have told := recorded.told
      rw [before, List.append_nil] at told
      rw [exits_append, exits_append, silent.exits, sent, notices, removals_append,
        removals_append, silent.removals, removed]
      simp only [List.append_nil, List.filterMap_append]
      refine List.Perm.append told ?_
      cases pane.state.owner <;> exact .refl _

theorem Effect.recorded {server next : Server} (effect : Effect server next events)
    (coherent : Coherent server) (unshared : Unshared server)
    (recorded : Recorded server past) : Recorded next (past ++ events) := by
  intro ref
  have before := recorded ref
  rcases effect.course ref with ⟨absent, still, quiet⟩ | ⟨absent, spawned, quiet⟩ |
    ⟨present, after, course⟩
  · rw [absent] at before
    rw [still]
    exact before.append (unrecorded_quiet quiet)
  · rw [absent] at before
    rw [spawned]
    have both := before.append (unrecorded_quiet quiet)
    constructor
    · rw [both.edges]; exact .stay
    · rw [both.removals]; rfl
    · rw [both.exits, both.removals]; exact .refl _
  · rw [present] at before
    rw [after]
    exact course.recorded before (coherent ref _ present) unshared present

theorem recorded_of_reaches {server : Server} (run : daemon.Reaches server past) :
    Recorded server past := by
  refine run.invariant (motive := Recorded) ?_ ?_
  · rintro state ⟨serverInstance, rfl⟩ ref
    exact ⟨rfl, rfl, rfl⟩
  · intro state next past events action earlier recorded _ stepped
    exact (step_effect stepped).recorded (coherent_of_reaches earlier) (unshared_of_reaches earlier)
      recorded

end

end Mult.Daemon
