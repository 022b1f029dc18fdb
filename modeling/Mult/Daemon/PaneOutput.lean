import Mult.Foundation.Receivers
import Mult.Daemon.Course
import Mult.Daemon.Attach

/-! The output of a pane over whole runs: what it has published so far, what it keeps of it, and
the positions both are known by.
-/

set_option autoImplicit false

namespace Mult.Daemon
open Foundation Protocol

def Event.outputOf (ref : PaneRef) : Event → Bytes
  | .output other _ bytes => if other = ref then bytes else []
  | _ => []

def outputOf (past : List Event) (ref : PaneRef) : Bytes := past.flatMap (Event.outputOf ref)

theorem outputOf_append (past more : List Event) (ref : PaneRef) :
    outputOf (past ++ more) ref = outputOf past ref ++ outputOf more ref := List.flatMap_append ..

theorem outputOf_silent {events : List Event} {ref : PaneRef}
    (silent : ∀ sequence bytes, .output ref sequence bytes ∉ events) : outputOf events ref = [] := by
  refine List.flatMap_eq_nil_iff.mpr fun event member => ?_
  cases event with
  | output other sequence bytes =>
    have elsewhere : other ≠ ref := by
      rintro rfl
      exact silent sequence bytes member
    exact if_neg elsewhere
  | _ => rfl

theorem silent_of_quiet {events : List Event} {ref : PaneRef}
    (quiet : ∀ event ∈ events, event.courseOf ≠ some ref) (sequence : OutputSequence)
    (bytes : Bytes) : .output ref sequence bytes ∉ events :=
  fun member => quiet _ member rfl

/-- What is kept of the output, where it begins and where the output ends. -/
def PaneState.backlog (pane : PaneState) : RawHistory × OutputSequence × OutputSequence :=
  (pane.rawHistory, pane.historyStart, pane.nextOutput)

/-- The pane keeps the end of the output, and its counters say where that begins and ends. -/
structure PaneState.Follows (pane : PaneState) (output : Bytes) : Prop where
  next : pane.nextOutput.get = output.length
  formed : pane.rawHistory.WellFormed
  ends : EndsWith output pane.historyStart.get pane.rawHistory.contents
  retained : pane.rawHistory.contents.length = min rawHistoryMaxBytes output.length

namespace PaneState.Follows

variable {pane after : PaneState} {output bytes : Bytes} {sequence : OutputSequence}

theorem of_same (follows : pane.Follows output) (same : after.backlog = pane.backlog) :
    after.Follows output := by
  obtain ⟨history, start, counter⟩ : after.rawHistory = pane.rawHistory ∧
      after.historyStart = pane.historyStart ∧ after.nextOutput = pane.nextOutput := by
    simpa [backlog] using same
  exact ⟨counter ▸ follows.next, history ▸ follows.formed, start ▸ history ▸ follows.ends,
    history ▸ follows.retained⟩

theorem appended (follows : pane.Follows output)
    (appended : pane.appendRawHistory bytes = (some sequence, after)) :
    sequence.get = output.length ∧ after.Follows (output ++ bytes) := by
  have sized := follows.formed.length_contents
  have whole := follows.ends.length
  obtain ⟨dropped, formed, kept⟩ :=
    RawHistory.append_spec follows.formed bytes rawHistoryMaxBytes
  have ends := (follows.ends.append bytes).drop (show
    pane.rawHistory.len + bytes.length - rawHistoryMaxBytes ≤
      (pane.rawHistory.contents ++ bytes).length by
    rw [List.length_append, sized]
    exact Nat.sub_le ..)
  have retained : ((pane.rawHistory.append bytes rawHistoryMaxBytes).2.contents).length =
      min rawHistoryMaxBytes (output ++ bytes).length := by
    have before := follows.retained
    rw [kept, List.length_drop, List.length_append, List.length_append, sized]
    omega
  unfold appendRawHistory appendRawHistoryWithLimit at appended
  split at appended
  · cases appended
  · next following =>
    have next := (OutputSequence.get_checkedAddBytes following).trans
      (congrArg (· + bytes.length) follows.next)
    simp only at appended
    split at appended
    · split at appended
      · cases appended
      · next start =>
        cases appended
        refine ⟨follows.next, by rw [next, List.length_append], formed, ?_, retained⟩
        rw [OutputSequence.get_checkedAddBytes start, dropped, kept]
        exact ends
    · next none =>
      cases appended
      refine ⟨follows.next, by rw [next, List.length_append], formed, ?_, retained⟩
      rw [dropped, Nat.not_lt, Nat.le_zero] at none
      rw [none] at kept ends
      rw [kept]
      exact ends

theorem refused (follows : pane.Follows output)
    (refused : pane.appendRawHistory bytes = (none, after)) : after = pane := by
  unfold appendRawHistory appendRawHistoryWithLimit at refused
  split at refused
  · exact (Prod.mk.inj refused).2.symm
  · next reached following =>
    have next := OutputSequence.get_checkedAddBytes following
    have bounded := reached.bounded
    have sized := follows.formed.length_contents
    have whole := follows.ends.length
    have counted := follows.next
    obtain ⟨dropped, -, -⟩ := RawHistory.append_spec follows.formed bytes rawHistoryMaxBytes
    simp only at refused
    split at refused
    · split at refused
      · next exhausted =>
        -- What was kept ends where the counter does, so its start has the room too.
        unfold OutputSequence.checkedAddBytes at exhausted
        split at exhausted
        · cases exhausted
        · next beyond =>
          refine absurd ?_ beyond
          unfold OutputSequence.get at *
          omega
      · cases refused
    · cases refused

end PaneState.Follows

/-! ## Over whole runs -/

/-- Every pane follows what it has published, and each part of that came at its position. -/
structure OutputKept (server : Server) (past : List Event) : Prop where
  panes : ∀ (ref : PaneRef) (pane : Pane), server.panes[ref]? = some pane →
    pane.state.Follows (outputOf past ref)
  absent : ∀ ref : PaneRef, server.panes[ref]? = none → outputOf past ref = []
  placed : ∀ (before after : List Event) (ref : PaneRef) (sequence : OutputSequence) (bytes : Bytes),
    past = before ++ .output ref sequence bytes :: after →
      sequence.get = (outputOf before ref).length

/-- What one step publishes of a pane, at which position, and what the pane keeps then. -/
structure Publishes (next : Server) (past events : List Event) (ref : PaneRef) : Prop where
  panes : ∀ pane : Pane, next.panes[ref]? = some pane →
    pane.state.Follows (outputOf (past ++ events) ref)
  absent : next.panes[ref]? = none → outputOf (past ++ events) ref = []
  placed : ∀ (before after : List Event) (sequence : OutputSequence) (bytes : Bytes),
    events = before ++ .output ref sequence bytes :: after →
      before = [] ∧ sequence.get = (outputOf past ref).length

section
variable {server next : Server} {past events : List Event} {ref : PaneRef} {pane after : Pane}

theorem placed_silent (silent : ∀ sequence bytes, .output ref sequence bytes ∉ events) :
    ∀ (before after : List Event) (sequence : OutputSequence) (bytes : Bytes),
      events = before ++ .output ref sequence bytes :: after →
        before = [] ∧ sequence.get = (outputOf past ref).length := by
  intro before after sequence bytes same
  refine absurd ?_ (silent sequence bytes)
  rw [same]
  exact List.mem_append_right _ List.mem_cons_self

theorem Publishes.kept (found : next.panes[ref]? = some after)
    (follows : after.state.Follows (outputOf past ref))
    (silent : ∀ sequence bytes, .output ref sequence bytes ∉ events) :
    Publishes next past events ref := by
  refine ⟨fun other present => ?_, fun none => ?_, placed_silent silent⟩
  · rw [found] at present
    cases present
    rw [outputOf_append, outputOf_silent silent, List.append_nil]
    exact follows
  · rw [found] at none
    cases none

theorem PaneStep.backlog (stepped : PaneStep ref pane after events) :
    (after.state.backlog = pane.state.backlog ∧
      ∀ sequence bytes, .output ref sequence bytes ∉ events) ∨
    (∃ bytes state, pane.state.appendRawHistory bytes = (none, state) ∧
      after.state.backlog = state.backlog ∧ events = []) ∨
    ∃ bytes sequence state, pane.state.appendRawHistory bytes = (some sequence, state) ∧
      after.state.backlog = state.backlog ∧ events = [.output ref sequence bytes] := by
  -- Neither answers nor notices are output.
  have answers {outcome : StopOutcome} (sequence : OutputSequence) (bytes : Bytes) :
      .output ref sequence bytes ∉ stopAnswers pane outcome := fun member => by
    obtain ⟨_, _, same⟩ := mem_stopAnswers member
    cases same
  have notices {outgoing : Outgoing} (sequence : OutputSequence) (bytes : Bytes) :
      .output ref sequence bytes ∉ Server.exitNotice ref outgoing := fun member => by
    obtain ⟨_, _, same⟩ := mem_exitNotice member
    cases same
  cases stepped with
  | appended bytes sequence state scheduled poll free reading appended =>
    exact .inr (.inr ⟨bytes, sequence, state, appended, rfl, rfl⟩)
  | readFailed bytes state free reading failed =>
    exact .inr (.inl ⟨bytes, state, failed, rfl, rfl⟩)
  | ptyWriter writes writer events closed wrote =>
    refine .inl ⟨rfl, fun sequence bytes member => ?_⟩
    obtain ⟨_, same⟩ := wrote _ member
    cases same
  | readerNotified => exact .inl ⟨rfl, notices⟩
  | waiterNotified => exact .inl ⟨rfl, notices⟩
  | waiterFailed => exact .inl ⟨rfl, answers⟩
  | driverFailed => exact .inl ⟨rfl, answers⟩
  | driverMoved position driver phase events there move =>
    refine .inl ⟨rfl, fun sequence bytes member => ?_⟩
    obtain ⟨-, _, _, -, same⟩ := move.events _ member
    cases same
  | driverRestored =>
    refine .inl ⟨rfl, fun sequence bytes member => ?_⟩
    rcases List.mem_cons.mp member with same | edge
    · cases same
    · cases mem_lifecycleEdge edge
  | _ => exact .inl ⟨rfl, fun _ _ member => absurd member List.not_mem_nil⟩

theorem PaneStep.publishes (stepped : PaneStep ref pane after events)
    (follows : pane.state.Follows (outputOf past ref)) (found : next.panes[ref]? = some after) :
    Publishes next past events ref := by
  rcases stepped.backlog with ⟨same, silent⟩ | ⟨bytes, state, failed, same, rfl⟩ |
    ⟨bytes, sequence, state, appended, same, rfl⟩
  · exact .kept found (follows.of_same same) silent
  · rw [follows.refused failed] at same
    exact .kept found (follows.of_same same) fun _ _ member => absurd member List.not_mem_nil
  · obtain ⟨position, grown⟩ := follows.appended appended
    have whole : outputOf (past ++ [.output ref sequence bytes]) ref =
        outputOf past ref ++ bytes := by
      simp [outputOf, Event.outputOf]
    refine ⟨fun other present => ?_, fun none => ?_, fun before more other read same => ?_⟩
    · rw [found] at present
      cases present
      rw [whole]
      exact grown.of_same same
    · rw [found] at none
      cases none
    · rcases List.singleton_eq_append_iff.mp same with ⟨rfl, told⟩ | ⟨-, none⟩
      · cases told
        exact ⟨rfl, position⟩
      · cases none

theorem CourseStep.publishes (step : CourseStep server next ref events)
    (published : OutputKept server past) : Publishes next past events ref := by
  cases step with
  | absent none still quiet =>
    have silent := silent_of_quiet quiet
    refine ⟨fun pane present => ?_, fun _ => ?_, placed_silent silent⟩
    · rw [still] at present
      cases present
    · rw [outputOf_append, published.absent ref none, outputOf_silent silent]
      rfl
  | spawned none found quiet =>
    refine .kept found ?_ (silent_of_quiet quiet)
    rw [published.absent ref none]
    exact ⟨rfl, RawHistory.wellFormed_empty, ⟨[], rfl, rfl⟩, rfl⟩
  | moved found present course =>
    have follows := published.panes ref _ found
    cases course with
    | kept same quiet =>
      have history := congrArg PaneCourse.rawHistory same
      have start := congrArg PaneCourse.historyStart same
      have counter := congrArg PaneCourse.nextOutput same
      refine .kept present (follows.of_same ?_) (silent_of_quiet quiet)
      exact Prod.ext history (Prod.ext start counter)
    | started => exact .kept present (follows.of_same rfl) (by simp)
    | stopAccepted =>
      refine .kept present (follows.of_same rfl) fun sequence bytes member => ?_
      rcases List.mem_append.mp member with accepted | edge
      · simp at accepted
      · cases mem_lifecycleEdge edge
    | stopStarted =>
      refine .kept present (follows.of_same rfl) fun sequence bytes member => ?_
      cases mem_lifecycleEdge member
    | stepped stepped => exact stepped.publishes follows present
    | finalized _ _ _ finalizer =>
      refine .kept present (follows.of_same ?_) fun sequence bytes member => ?_
      · cases finalizer <;> rfl
      · rcases List.mem_append.mp member with edges | answers
        · simp at edges
        · obtain ⟨_, _, same⟩ := mem_stopAnswers answers
          cases same

end

theorem outputKept_of_reaches {server : Server} {past : List Event}
    (run : daemon.Reaches server past) : OutputKept server past := by
  refine run.invariant (motive := OutputKept) ?_ ?_
  · rintro state ⟨serverInstance, rfl⟩
    refine ⟨fun ref pane found => ?_, fun _ _ => rfl, fun before after ref sequence bytes same => ?_⟩
    · cases found
    · exact absurd same.symm (List.append_ne_nil_of_right_ne_nil _ (List.cons_ne_nil _ _))
  · intro server next past events action _ published _ stepped
    have step (ref : PaneRef) : Publishes next past events ref :=
      ((step_effect stepped).course ref).publishes published
    refine ⟨fun ref pane found => (step ref).panes pane found, fun ref none => (step ref).absent none,
      fun before after ref sequence bytes same => ?_⟩
    -- The read is an earlier one, or the one of this step.
    rcases List.append_eq_append_iff.mp same with ⟨middle, rfl, told⟩ | ⟨middle, earlier, told⟩
    · obtain ⟨rfl, position⟩ := (step ref).placed _ _ _ _ told
      rw [List.append_nil]
      exact position
    · cases middle with
      | nil =>
        rw [List.append_nil] at earlier
        obtain ⟨-, position⟩ := (step ref).placed [] after sequence bytes told.symm
        exact earlier ▸ position
      | cons event middle =>
        obtain ⟨rfl, rfl⟩ := List.cons.inj told
        exact published.placed before middle ref sequence bytes earlier

end Mult.Daemon
