import Mult.Daemon.WriteQueue
import Mult.Foundation.Machine

/-! A pane's write queue between the clients that fill it, the thread that writes it to the PTY
and whoever closes it.
-/

set_option autoImplicit false

namespace Mult.Daemon
open Foundation Protocol

/-- Where the writer is in its loop. -/
inductive WriterPhase where
  /-- In `wait_for_writes`. -/
  | waiting
  /-- With inputs of the batch at hand still to write. -/
  | writing (first : Bytes) (rest : List Bytes)
  /-- A write has failed and the queue is not closed yet. -/
  | failed
  | returned
  deriving DecidableEq, Repr

structure WriterThread where
  queue : PtyWriteQueue
  phase : WriterPhase
  deriving DecidableEq, Repr

inductive WriterAction where
  | enqueue (bytes : Bytes)
  /-- The writer looks at the queue and either takes the backlog or finds it closed. -/
  | waitForWrites
  /-- The writer's next write, with how it ends. -/
  | write (succeeds : Bool)
  /-- The writer closes the queue after a failed write. -/
  | giveUp
  /-- The pane closes the queue. -/
  | close
  deriving DecidableEq, Repr

inductive WriterEvent where
  | accepted (bytes : Bytes)
  | refused (bytes : Bytes) (refusal : PtyWriteRefusal)
  | obtained (batch : List Bytes)
  | written (bytes : Bytes)
  | writeFailed (bytes : Bytes)
  | closed
  deriving DecidableEq, Repr

/-- The loop over a batch, and back to waiting behind it. -/
def WriterPhase.over : List Bytes → WriterPhase
  | [] => .waiting
  | first :: rest => .writing first rest

namespace WriterThread

variable (writer : WriterThread)

/-- The backlog is taken while the queue is open; nothing happens while there is none. -/
def waitForWrites : Option (WriterThread × List WriterEvent) :=
  if writer.queue.closed then some ({ writer with phase := .returned }, [])
  else
    match writer.queue.takeWrites with
    | none => none
    | some (batch, queue) => some (⟨queue, .over batch⟩, [.obtained batch])

def step : WriterAction → Option (WriterThread × List WriterEvent)
  | .enqueue bytes =>
    match writer.queue.enqueue bytes with
    | .ok queue => some ({ writer with queue }, [.accepted bytes])
    | .error refusal => some (writer, [.refused bytes refusal])
  | .waitForWrites =>
    match writer.phase with
    | .waiting => writer.waitForWrites
    | _ => none
  | .write succeeds =>
    match writer.phase with
    | .writing first rest =>
      if succeeds then some ({ writer with phase := .over rest }, [.written first])
      else some ({ writer with phase := .failed }, [.writeFailed first])
    | _ => none
  | .giveUp =>
    match writer.phase with
    | .failed => some (⟨writer.queue.close, .returned⟩, [.closed])
    | _ => none
  | .close => some ({ writer with queue := writer.queue.close }, [.closed])

end WriterThread

def ptyWriter : Machine WriterThread WriterAction WriterEvent where
  start writer := ∃ capacity, writer = ⟨.withCapacity capacity, .waiting⟩
  step := WriterThread.step

namespace WriterEvent

/-- The inputs accepted that are not empty. -/
def inputs : WriterEvent → List Bytes
  | accepted bytes => if bytes = [] then [] else [bytes]
  | _ => []

def batch : WriterEvent → List Bytes
  | obtained batch => batch
  | _ => []

/-- The input that was written, or that failed to be. -/
def attempt : WriterEvent → List Bytes
  | written bytes | writeFailed bytes => [bytes]
  | _ => []

def failed : WriterEvent → Bool
  | writeFailed _ => true
  | _ => false

end WriterEvent

def acceptedInputs (past : List WriterEvent) : List Bytes := past.flatMap WriterEvent.inputs
def obtainedInputs (past : List WriterEvent) : List Bytes := past.flatMap WriterEvent.batch
def attemptedInputs (past : List WriterEvent) : List Bytes := past.flatMap WriterEvent.attempt

def totalBytes (inputs : List Bytes) : Nat := (inputs.map List.length).sum

def WriterPhase.inHand : WriterPhase → List Bytes
  | .writing first rest => first :: rest
  | _ => []

theorem WriterPhase.inHand_over (batch : List Bytes) : (WriterPhase.over batch).inHand = batch := by
  cases batch <;> rfl

theorem WriterPhase.over_going (batch : List Bytes) : WriterPhase.over batch ≠ .returned := by
  cases batch <;> simp [WriterPhase.over]

/-! ## What every step keeps -/

structure PtyWriteQueue.Counted (queue : PtyWriteQueue) : Prop where
  total : queue.queuedBytes = totalBytes queue.pending
  bounded : queue.queuedBytes ≤ queue.capacity
  emptied : queue.closed = true → queue.pending = []

theorem totalBytes_snoc (inputs : List Bytes) (bytes : Bytes) :
    totalBytes (inputs ++ [bytes]) = totalBytes inputs + bytes.length := by
  simp [totalBytes]

theorem PtyWriteQueue.Counted.enqueue {queue after : PtyWriteQueue} (counted : queue.Counted)
    {bytes : Bytes} (accepted : queue.enqueue bytes = .ok after) :
    after.Counted ∧ after.closed = queue.closed ∧
      after.pending = queue.pending ++ (WriterEvent.accepted bytes).inputs ∧
      (queue.closed = true → bytes = []) := by
  unfold PtyWriteQueue.enqueue at accepted
  split at accepted
  · next empty =>
    cases accepted
    exact ⟨counted, rfl, by simp [WriterEvent.inputs, empty], fun _ => empty⟩
  · next some =>
    split at accepted
    · cases accepted
    · next isOpen =>
      split at accepted
      · cases accepted
      · next room =>
        cases accepted
        refine ⟨⟨?_, ?_, fun shut => absurd shut isOpen⟩, rfl, ?_, fun shut => absurd shut isOpen⟩
        · rw [totalBytes_snoc, counted.total]
        · simp only
          omega
        · simp [WriterEvent.inputs, some]

theorem PtyWriteQueue.Counted.close {queue : PtyWriteQueue} : queue.close.Counted :=
  ⟨rfl, Nat.zero_le _, fun _ => rfl⟩

/-- Where the inputs accepted are: written, at hand, pending, or gone when the queue was closed. -/
structure Delivering (writer : WriterThread) (past : List WriterEvent) : Prop where
  counted : writer.queue.Counted
  shut : writer.queue.closed = true ↔ WriterEvent.closed ∈ past
  pending : WriterEvent.closed ∉ past →
    acceptedInputs past = obtainedInputs past ++ writer.queue.pending
  taken : obtainedInputs past <+: acceptedInputs past
  attempted : attemptedInputs past <+: obtainedInputs past
  working : writer.phase ≠ .failed → writer.phase ≠ .returned →
    attemptedInputs past ++ writer.phase.inHand = obtainedInputs past
  ended : (∃ event ∈ past, event.failed = true) → writer.phase = .failed ∨ writer.phase = .returned
  final : writer.phase = .returned → writer.queue.closed = true
  refused : past.Pairwise fun earlier later => earlier = .closed → later.inputs = []
  stopped : past.Pairwise fun earlier later =>
    earlier.failed = true → later.attempt = [] ∧ later.batch = []

theorem acceptedInputs_snoc (past : List WriterEvent) (event : WriterEvent) :
    acceptedInputs (past ++ [event]) = acceptedInputs past ++ event.inputs := by
  simp [acceptedInputs]

theorem obtainedInputs_snoc (past : List WriterEvent) (event : WriterEvent) :
    obtainedInputs (past ++ [event]) = obtainedInputs past ++ event.batch := by
  simp [obtainedInputs]

theorem attemptedInputs_snoc (past : List WriterEvent) (event : WriterEvent) :
    attemptedInputs (past ++ [event]) = attemptedInputs past ++ event.attempt := by
  simp [attemptedInputs]

theorem pairwise_snoc {relation : WriterEvent → WriterEvent → Prop} {past : List WriterEvent}
    {event : WriterEvent} (before : past.Pairwise relation)
    (onward : ∀ earlier ∈ past, relation earlier event) : (past ++ [event]).Pairwise relation := by
  refine List.pairwise_append.mpr ⟨before, List.pairwise_singleton .., fun earlier listed later => ?_⟩
  intro same
  rw [List.mem_singleton.mp same]
  exact onward earlier listed

namespace Delivering

variable {writer next : WriterThread} {past : List WriterEvent}

theorem start (capacity : Nat) : Delivering ⟨.withCapacity capacity, .waiting⟩ [] where
  counted := ⟨rfl, Nat.zero_le _, fun _ => rfl⟩
  shut := by simp [PtyWriteQueue.withCapacity]
  pending _ := rfl
  taken := List.prefix_rfl
  attempted := List.prefix_rfl
  working _ _ := rfl
  ended := by simp
  final phase := nomatch phase
  refused := .nil
  stopped := .nil

theorem unfailed (delivering : Delivering writer past) (active : writer.phase ≠ .failed)
    (going : writer.phase ≠ .returned) : ∀ event ∈ past, event.failed ≠ true := by
  intro event listed failed
  rcases delivering.ended ⟨event, listed, failed⟩ with phase | phase
  · exact active phase
  · exact going phase

theorem enqueue (delivering : Delivering writer past) {bytes : Bytes} {queue : PtyWriteQueue}
    (accepted : writer.queue.enqueue bytes = .ok queue) :
    Delivering { writer with queue } (past ++ [.accepted bytes]) := by
  obtain ⟨counted, shut, grown, late⟩ := delivering.counted.enqueue accepted
  refine ⟨counted, ?_, fun isOpen => ?_, ?_, ?_, fun active going => ?_, fun failed => ?_,
    fun returned => shut.trans (delivering.final returned),
    pairwise_snoc delivering.refused ?_, pairwise_snoc delivering.stopped ?_⟩
  · simp [shut, delivering.shut]
  · have before : WriterEvent.closed ∉ past := fun listed => isOpen (List.mem_append_left _ listed)
    rw [acceptedInputs_snoc, obtainedInputs_snoc, delivering.pending before]
    simp [grown, WriterEvent.batch]
  · rw [acceptedInputs_snoc, obtainedInputs_snoc]
    simpa [WriterEvent.batch] using delivering.taken.trans (List.prefix_append ..)
  · rw [attemptedInputs_snoc, obtainedInputs_snoc]
    simpa [WriterEvent.batch, WriterEvent.attempt] using delivering.attempted
  · rw [attemptedInputs_snoc, obtainedInputs_snoc]
    simpa [WriterEvent.batch, WriterEvent.attempt] using delivering.working active going
  · refine delivering.ended ?_
    simpa [WriterEvent.failed] using failed
  · rintro earlier listed rfl
    simp [WriterEvent.inputs, late (delivering.shut.mpr listed)]
  · exact fun _ _ _ => ⟨rfl, rfl⟩

theorem refuse (delivering : Delivering writer past) (bytes : Bytes)
    (refusal : PtyWriteRefusal) : Delivering writer (past ++ [.refused bytes refusal]) := by
  refine ⟨delivering.counted, ?_, fun isOpen => ?_, ?_, ?_, fun active going => ?_,
    fun failed => delivering.ended ?_, delivering.final,
    pairwise_snoc delivering.refused fun _ _ _ => rfl,
    pairwise_snoc delivering.stopped fun _ _ _ => ⟨rfl, rfl⟩⟩
  · simp [delivering.shut]
  · have before : WriterEvent.closed ∉ past := fun listed => isOpen (List.mem_append_left _ listed)
    simpa [acceptedInputs_snoc, obtainedInputs_snoc, WriterEvent.inputs, WriterEvent.batch]
      using delivering.pending before
  · simpa [acceptedInputs_snoc, obtainedInputs_snoc, WriterEvent.inputs, WriterEvent.batch]
      using delivering.taken
  · simpa [attemptedInputs_snoc, obtainedInputs_snoc, WriterEvent.attempt, WriterEvent.batch]
      using delivering.attempted
  · simpa [attemptedInputs_snoc, obtainedInputs_snoc, WriterEvent.attempt, WriterEvent.batch]
      using delivering.working active going
  · simpa [WriterEvent.failed] using failed

theorem take (delivering : Delivering writer past) (waiting : writer.phase = .waiting)
    {batch : List Bytes} {queue : PtyWriteQueue}
    (taken : writer.queue.takeWrites = some (batch, queue)) :
    Delivering ⟨queue, .over batch⟩ (past ++ [.obtained batch]) := by
  unfold PtyWriteQueue.takeWrites at taken
  split at taken
  · cases taken
  · next backlog =>
    rw [not_or] at backlog
    cases taken
    have isOpen : WriterEvent.closed ∉ past := fun listed => backlog.1 (delivering.shut.mpr listed)
    have active : writer.phase ≠ .failed := by simp [waiting]
    have going : writer.phase ≠ .returned := by simp [waiting]
    have whole := delivering.pending isOpen
    have done : attemptedInputs past = obtainedInputs past := by
      simpa [waiting, WriterPhase.inHand] using delivering.working active going
    have unfailed := delivering.unfailed active going
    refine ⟨⟨rfl, Nat.zero_le _, fun _ => rfl⟩, ?_, fun _ => ?_, ?_, ?_, fun _ _ => ?_,
      fun failed => ?_, fun returned => ?_, pairwise_snoc delivering.refused fun _ _ _ => rfl,
      pairwise_snoc delivering.stopped fun earlier listed failed =>
        absurd failed (unfailed earlier listed)⟩
    · simp [delivering.shut]
    · simp [acceptedInputs_snoc, obtainedInputs_snoc, WriterEvent.inputs, WriterEvent.batch, whole]
    · simp [acceptedInputs_snoc, obtainedInputs_snoc, WriterEvent.inputs, WriterEvent.batch, whole]
    · simp [attemptedInputs_snoc, obtainedInputs_snoc, WriterEvent.attempt, WriterEvent.batch, done]
    · simp [attemptedInputs_snoc, obtainedInputs_snoc, WriterEvent.attempt, WriterEvent.batch, done,
        WriterPhase.inHand_over]
    · obtain ⟨event, listed, failed⟩ := failed
      rcases List.mem_append.mp listed with before | added
      · exact absurd failed (unfailed event before)
      · rw [List.mem_singleton.mp added] at failed
        cases failed
    · exact absurd returned (WriterPhase.over_going _)

theorem written (delivering : Delivering writer past) {first : Bytes} {rest : List Bytes}
    (writing : writer.phase = .writing first rest) :
    Delivering { writer with phase := .over rest } (past ++ [.written first]) := by
  have active : writer.phase ≠ .failed := by simp [writing]
  have going : writer.phase ≠ .returned := by simp [writing]
  have unfailed := delivering.unfailed active going
  have whole : attemptedInputs past ++ first :: rest = obtainedInputs past := by
    simpa [writing, WriterPhase.inHand] using delivering.working active going
  refine ⟨delivering.counted, ?_, fun isOpen => ?_, ?_, ?_, fun _ _ => ?_, fun failed => ?_,
    fun returned => absurd returned (WriterPhase.over_going _),
    pairwise_snoc delivering.refused fun _ _ _ => rfl,
    pairwise_snoc delivering.stopped fun earlier listed failed =>
      absurd failed (unfailed earlier listed)⟩
  · simp [delivering.shut]
  · have before : WriterEvent.closed ∉ past := fun listed => isOpen (List.mem_append_left _ listed)
    simpa [acceptedInputs_snoc, obtainedInputs_snoc, WriterEvent.inputs, WriterEvent.batch]
      using delivering.pending before
  · simpa [acceptedInputs_snoc, obtainedInputs_snoc, WriterEvent.inputs, WriterEvent.batch]
      using delivering.taken
  · simp [attemptedInputs_snoc, obtainedInputs_snoc, WriterEvent.attempt, WriterEvent.batch, ← whole]
  · simp [attemptedInputs_snoc, obtainedInputs_snoc, WriterEvent.attempt, WriterEvent.batch, ← whole,
      WriterPhase.inHand_over]
  · obtain ⟨event, listed, failed⟩ := failed
    rcases List.mem_append.mp listed with before | added
    · exact absurd failed (unfailed event before)
    · rw [List.mem_singleton.mp added] at failed
      cases failed

theorem writeFailed (delivering : Delivering writer past) {first : Bytes} {rest : List Bytes}
    (writing : writer.phase = .writing first rest) :
    Delivering { writer with phase := .failed } (past ++ [.writeFailed first]) := by
  have active : writer.phase ≠ .failed := by simp [writing]
  have going : writer.phase ≠ .returned := by simp [writing]
  have unfailed := delivering.unfailed active going
  have whole : attemptedInputs past ++ first :: rest = obtainedInputs past := by
    simpa [writing, WriterPhase.inHand] using delivering.working active going
  refine ⟨delivering.counted, ?_, fun isOpen => ?_, ?_, ?_, fun active => absurd rfl active,
    fun _ => .inl rfl, (fun returned => nomatch returned),
    pairwise_snoc delivering.refused fun _ _ _ => rfl,
    pairwise_snoc delivering.stopped fun earlier listed failed =>
      absurd failed (unfailed earlier listed)⟩
  · simp [delivering.shut]
  · have before : WriterEvent.closed ∉ past := fun listed => isOpen (List.mem_append_left _ listed)
    simpa [acceptedInputs_snoc, obtainedInputs_snoc, WriterEvent.inputs, WriterEvent.batch]
      using delivering.pending before
  · simpa [acceptedInputs_snoc, obtainedInputs_snoc, WriterEvent.inputs, WriterEvent.batch]
      using delivering.taken
  · simp [attemptedInputs_snoc, obtainedInputs_snoc, WriterEvent.attempt, WriterEvent.batch, ← whole]

theorem close (delivering : Delivering writer past) {phase : WriterPhase}
    (going : phase = writer.phase ∨ phase = .returned) :
    Delivering ⟨writer.queue.close, phase⟩ (past ++ [.closed]) := by
  refine ⟨.close, ?_, fun isOpen => absurd (by simp) isOpen, ?_, ?_, fun active running => ?_,
    fun failed => ?_, fun _ => rfl, pairwise_snoc delivering.refused fun _ _ _ => rfl,
    pairwise_snoc delivering.stopped fun _ _ _ => ⟨rfl, rfl⟩⟩
  · simp [PtyWriteQueue.close]
  · simpa [acceptedInputs_snoc, obtainedInputs_snoc, WriterEvent.inputs, WriterEvent.batch]
      using delivering.taken
  · simpa [attemptedInputs_snoc, obtainedInputs_snoc, WriterEvent.attempt, WriterEvent.batch]
      using delivering.attempted
  · rcases going with same | returned
    · rw [same] at active running ⊢
      simpa [attemptedInputs_snoc, obtainedInputs_snoc, WriterEvent.attempt, WriterEvent.batch]
        using delivering.working active running
    · exact absurd returned running
  · rcases going with same | returned
    · rw [same]
      refine delivering.ended ?_
      simpa [WriterEvent.failed] using failed
    · exact .inr returned

theorem returned (delivering : Delivering writer past) (shut : writer.queue.closed = true) :
    Delivering { writer with phase := .returned } past :=
  ⟨delivering.counted, delivering.shut, delivering.pending, delivering.taken, delivering.attempted,
    fun _ going => absurd rfl going, fun _ => .inr rfl, fun _ => shut, delivering.refused,
    delivering.stopped⟩

theorem step (delivering : Delivering writer past) {action : WriterAction}
    {events : List WriterEvent} (stepped : writer.step action = some (next, events)) :
    Delivering next (past ++ events) := by
  unfold WriterThread.step at stepped
  cases action with
  | enqueue bytes =>
    dsimp only at stepped
    split at stepped
    · next queue accepted =>
      cases stepped
      exact delivering.enqueue accepted
    · cases stepped
      exact delivering.refuse bytes _
  | waitForWrites =>
    dsimp only at stepped
    split at stepped
    · next waiting =>
      unfold WriterThread.waitForWrites at stepped
      split at stepped
      · next shut =>
        cases stepped
        rw [List.append_nil]
        exact delivering.returned shut
      · split at stepped
        · cases stepped
        · next taken =>
          cases stepped
          exact delivering.take waiting taken
    · cases stepped
  | write succeeds =>
    dsimp only at stepped
    split at stepped
    · next writing =>
      split at stepped
      · cases stepped
        exact delivering.written writing
      · cases stepped
        exact delivering.writeFailed writing
    · cases stepped
  | giveUp =>
    dsimp only at stepped
    split at stepped
    · cases stepped
      exact delivering.close (.inr rfl)
    · cases stepped
  | close =>
    cases stepped
    exact delivering.close (.inl rfl)

end Delivering

theorem delivering_reachable {writer : WriterThread} {past : List WriterEvent}
    (reached : ptyWriter.Reaches writer past) : Delivering writer past := by
  refine reached.invariant (motive := Delivering) ?_ ?_
  · rintro _ ⟨capacity, rfl⟩
    exact .start capacity
  · exact fun _ _ _ _ _ _ delivering _ stepped => delivering.step stepped

/-- In every run the writer obtains the accepted inputs whole, once and in order, writes them in
that order up to the first that fails, and the queue counts what it holds. Nothing that is not
empty is accepted once the queue is closed, which is all the writer does after a failed write. -/
theorem writes_in_order {writer : WriterThread} {past : List WriterEvent}
    (reached : ptyWriter.Reaches writer past) :
    obtainedInputs past <+: acceptedInputs past ∧
      (WriterEvent.closed ∉ past →
        acceptedInputs past = obtainedInputs past ++ writer.queue.pending) ∧
      attemptedInputs past <+: obtainedInputs past ∧
      (past.Pairwise fun earlier later => earlier = .closed → later.inputs = []) ∧
      (past.Pairwise fun earlier later =>
        earlier.failed = true → later.attempt = [] ∧ later.batch = []) ∧
      ((∃ event ∈ past, event.failed = true) →
        writer.phase = .failed ∨ WriterEvent.closed ∈ past) ∧
      writer.queue.queuedBytes = totalBytes writer.queue.pending ∧
      (WriterEvent.closed ∈ past → writer.queue.queuedBytes = 0) ∧
      writer.queue.queuedBytes ≤ writer.queue.capacity := by
  have delivering := delivering_reachable reached
  refine ⟨delivering.taken, delivering.pending, delivering.attempted, delivering.refused,
    delivering.stopped, fun failed => ?_, delivering.counted.total, fun closed => ?_,
    delivering.counted.bounded⟩
  · exact (delivering.ended failed).imp_right fun returned =>
      delivering.shut.mp (delivering.final returned)
  · rw [delivering.counted.total, delivering.counted.emptied (delivering.shut.mpr closed)]
    rfl

/-- Two inputs, the second accepted while the write of the first has failed and the writer has
not yet closed the queue. -/
def lateInput : List WriterAction :=
  [.enqueue [65], .waitForWrites, .write false, .enqueue [66]]

theorem writes_in_order_late : ∃ writer past, ptyWriter.Reaches writer past ∧
    acceptedInputs past = [[65], [66]] ∧ obtainedInputs past <+: acceptedInputs past := by
  obtain ⟨writer, past, reached, passed⟩ := ptyWriter.exists_reaches ⟨16, rfl⟩ lateInput
    (fun _ past => acceptedInputs past = [[65], [66]]) (by decide)
  exact ⟨writer, past, reached, by simpa using passed, (writes_in_order reached).1⟩

/-- An input may be accepted after a write that failed; once the queue is closed it was accepted,
is not obtained, and is not counted. -/
theorem input_accepted_after_failure :
    (∃ writer past, ptyWriter.Reaches writer past ∧
      ¬ past.Pairwise fun earlier later => earlier.failed = true → later.inputs = []) ∧
    ∃ writer past, ptyWriter.Reaches writer past ∧
      ∃ left, acceptedInputs past = obtainedInputs past ++ left ∧
        writer.queue.queuedBytes ≠ totalBytes left := by
  constructor
  · obtain ⟨writer, past, reached, passed⟩ := ptyWriter.exists_reaches ⟨16, rfl⟩ lateInput
      (fun _ past => past = [.accepted [65], .obtained [[65]], .writeFailed [65], .accepted [66]])
      (by decide)
    refine ⟨writer, past, reached, ?_⟩
    rw [of_decide_eq_true passed]
    simp [WriterEvent.failed, WriterEvent.inputs]
  · obtain ⟨writer, past, reached, passed⟩ := ptyWriter.exists_reaches ⟨16, rfl⟩
      (lateInput ++ [.giveUp])
      (fun writer past => acceptedInputs past = [[65], [66]] ∧ obtainedInputs past = [[65]] ∧
        writer.queue.queuedBytes = 0) (by decide)
    obtain ⟨accepted, obtained, count⟩ := of_decide_eq_true passed
    refine ⟨writer, past, reached, [[66]], ?_, ?_⟩
    · rw [accepted, obtained]
      rfl
    · rw [count]
      decide

end Mult.Daemon
