import Mult.Foundation.Eviction
import Mult.Protocol.Messages

/-! The daemon's record of the correlated requests of one client scope.

A request ID is consumed by the first `begin` that finds it above every ID seen
so far; later calls with the same ID replay, wait for, or refuse the request.
-/

set_option autoImplicit false

namespace Mult.Daemon
open Foundation Protocol
open Std (TreeMap)

abbrev ClientId := Nat

structure RequestRecord where
  request : ClientMessage
  response : Option ServerMessage
  waiters : List ClientId
  deriving DecidableEq, Repr

structure RequestScopeState where
  highestRequestId : Option RequestId
  records : TreeMap RequestId RequestRecord

inductive RequestDisposition where
  | new
  | pending
  | cached (response : ServerMessage)
  | collision
  | expired
  | tooManyPending
  deriving DecidableEq, Repr

/-- The two answers that consume a fresh ID. -/
def RequestDisposition.Accepts (disposition : RequestDisposition) : Prop :=
  disposition = .new ∨ disposition = .tooManyPending

namespace RequestScopeState

def new : RequestScopeState := ⟨none, ∅⟩

def isPending (record : RequestRecord) : Bool := record.response.isNone

def isCompleted (record : RequestRecord) : Bool := record.response.isSome

def pendingCount (scope : RequestScopeState) : Nat := countWhere isPending scope.records

def completedCount (scope : RequestScopeState) : Nat := countWhere isCompleted scope.records

/-- Whether the ID is at or below the highest one begun in the scope. -/
def seen (scope : RequestScopeState) (requestId : RequestId) : Bool :=
  scope.highestRequestId.any fun highest => requestId.get ≤ highest.get

def begin (scope : RequestScopeState) (requestId : RequestId) (request : ClientMessage)
    (client : ClientId) : RequestDisposition × RequestScopeState :=
  match scope.records[requestId]? with
  | some record =>
      if record.request ≠ request then (.collision, scope)
      else
        match record.response with
        | some response => (.cached response, scope)
        | none =>
            let waiters :=
              if client ∈ record.waiters then record.waiters else record.waiters ++ [client]
            (.pending,
              { scope with records := scope.records.insert requestId { record with waiters } })
  | none =>
      if scope.seen requestId then (.expired, scope)
      else
        -- An overload rejection consumes the ID too: it must not mutate state later.
        (if maxPendingRequestsPerClient ≤ scope.pendingCount then .tooManyPending else .new,
          { highestRequestId := some requestId
            records := scope.records.insert requestId ⟨request, none, [client]⟩ })

def evictOldResults (scope : RequestScopeState) : RequestScopeState :=
  { scope with
    records := evictWhere isCompleted maxCachedRequestResultsPerScope scope.records.size
      scope.records }

def complete (scope : RequestScopeState) (requestId : RequestId) (response : ServerMessage) :
    List ClientId × RequestScopeState :=
  match scope.records[requestId]? with
  | some record =>
      (record.waiters,
        evictOldResults
          { scope with
            records := scope.records.insert requestId
              { record with response := some response, waiters := [] } })
  | none => ([], scope.evictOldResults)

/-- Forget a connection that went away. -/
def removeClient (scope : RequestScopeState) (client : ClientId) : RequestScopeState :=
  { scope with
    records := scope.records.map fun _ record =>
      { record with waiters := record.waiters.filter (· ≠ client) } }

end RequestScopeState

inductive ScopeCall where
  | begin (requestId : RequestId) (request : ClientMessage) (client : ClientId)
  | complete (requestId : RequestId) (response : ServerMessage)
  deriving DecidableEq, Repr

def ScopeCall.completes (requestId : RequestId) : ScopeCall → Bool
  | .complete id _ => id = requestId
  | .begin .. => false

namespace RequestScopeState

def apply (scope : RequestScopeState) : ScopeCall → RequestScopeState
  | .begin requestId request client => (scope.begin requestId request client).2
  | .complete requestId response => (scope.complete requestId response).2

/-- The scope after a sequence of calls, from the empty scope. -/
def after (calls : List ScopeCall) : RequestScopeState := calls.foldl apply new

def answer (calls : List ScopeCall) (requestId : RequestId) (request : ClientMessage)
    (client : ClientId) : RequestDisposition :=
  ((after calls).begin requestId request client).1

/-! ## One call -/

/-- The request was accepted under the ID and has not been answered. -/
def Awaits (scope : RequestScopeState) (requestId : RequestId) (request : ClientMessage) : Prop :=
  ∃ record, scope.records[requestId]? = some record ∧ record.request = request ∧
    record.response = none

/-- The ID is consumed, and whatever is still recorded under it is the request. -/
def Consumed (scope : RequestScopeState) (requestId : RequestId) (request : ClientMessage) : Prop :=
  scope.seen requestId = true ∧
    ∀ record, scope.records[requestId]? = some record → record.request = request

/-- As `Consumed`, and the recorded answer is the response. -/
def Settled (scope : RequestScopeState) (requestId : RequestId) (request : ClientMessage)
    (response : ServerMessage) : Prop :=
  Consumed scope requestId request ∧
    ∀ record, scope.records[requestId]? = some record → record.response = some response

structure WellFormed (scope : RequestScopeState) : Prop where
  recorded_seen : ∀ (requestId : RequestId) (record : RequestRecord),
    scope.records[requestId]? = some record → scope.seen requestId = true
  waiters_distinct : ∀ (requestId : RequestId) (record : RequestRecord),
    scope.records[requestId]? = some record → record.waiters.Nodup
  completed_le : scope.completedCount ≤ maxCachedRequestResultsPerScope

theorem seen_of_le {scope : RequestScopeState} {id other : RequestId}
    (below : id.get ≤ other.get) (known : scope.seen other = true) : scope.seen id = true := by
  unfold seen at *
  cases highest : scope.highestRequestId with
  | none => simp [highest] at known
  | some top =>
    simp only [highest, Option.any_some, decide_eq_true_eq] at known ⊢
    omega

theorem begin_recorded {scope : RequestScopeState} {id : RequestId} {record : RequestRecord}
    (found : scope.records[id]? = some record) (client : ClientId) :
    (scope.begin id record.request client).1 =
      (match record.response with | some response => .cached response | none => .pending) := by
  simp only [begin, found, ne_eq, not_true_eq_false, if_false]
  cases record.response <;> rfl

theorem begin_collision {scope : RequestScopeState} {id : RequestId} {record : RequestRecord}
    {request : ClientMessage} (found : scope.records[id]? = some record)
    (different : record.request ≠ request) (client : ClientId) :
    scope.begin id request client = (.collision, scope) := by
  simp [begin, found, different]

theorem begin_expired {scope : RequestScopeState} {id : RequestId}
    (missing : scope.records[id]? = none) (known : scope.seen id = true)
    (request : ClientMessage) (client : ClientId) :
    scope.begin id request client = (.expired, scope) := by
  simp [begin, missing, known]

theorem begin_accepts_iff (scope : RequestScopeState) (id : RequestId) (request : ClientMessage)
    (client : ClientId) :
    (scope.begin id request client).1.Accepts ↔
      scope.records[id]? = none ∧ scope.seen id = false := by
  unfold RequestDisposition.Accepts begin
  cases found : scope.records[id]? with
  | some record =>
    simp only
    split
    · simp
    · cases record.response <;> simp
  | none =>
    cases known : scope.seen id with
    | true => simp
    | false =>
      simp only [Bool.false_eq_true, if_false, and_self, iff_true]
      split <;> simp

/-- All that a `begin` can do to the scope. -/
theorem begin_cases (scope : RequestScopeState) (id : RequestId) (request : ClientMessage)
    (client : ClientId) :
    (scope.begin id request client).2 = scope ∨
    (∃ record, scope.records[id]? = some record ∧ record.request = request ∧
      record.response = none ∧ (scope.begin id request client).1 = .pending ∧
      (scope.begin id request client).2 = { scope with
        records := scope.records.insert id { record with
          waiters := if client ∈ record.waiters then record.waiters
            else record.waiters ++ [client] } }) ∨
    (scope.records[id]? = none ∧ scope.seen id = false ∧
      (scope.begin id request client).2 =
        ⟨some id, scope.records.insert id ⟨request, none, [client]⟩⟩) := by
  unfold begin
  cases found : scope.records[id]? with
  | some record =>
    by_cases same : record.request = request
    · cases answered : record.response with
      | some response => simp [same, answered]
      | none => exact .inr (.inl ⟨record, rfl, same, answered, by simp [same, answered]⟩)
    · simp [same]
  | none =>
    cases known : scope.seen id with
    | true => simp
    | false => simp

theorem seen_insert_highest {scope : RequestScopeState} {id other : RequestId}
    (unseen : scope.seen id = false) (records : TreeMap RequestId RequestRecord)
    (known : scope.seen other = true) : (⟨some id, records⟩ : RequestScopeState).seen other := by
  unfold seen at *
  cases highest : scope.highestRequestId with
  | none => simp [highest] at known
  | some top =>
    simp only [highest, Option.any_some, decide_eq_true_eq, decide_eq_false_iff_not] at *
    omega

theorem seen_self (id : RequestId) (records : TreeMap RequestId RequestRecord) :
    (⟨some id, records⟩ : RequestScopeState).seen id := by
  simp [seen]

theorem seen_begin {scope : RequestScopeState} {other : RequestId}
    (known : scope.seen other = true) (id : RequestId) (request : ClientMessage)
    (client : ClientId) : (scope.begin id request client).2.seen other = true := by
  rcases begin_cases scope id request client with same | ⟨_, _, _, _, _, same⟩ | ⟨_, unseen, same⟩
  · rw [same]; exact known
  · rw [same]; exact known
  · rw [same]; exact seen_insert_highest unseen _ known

theorem seen_complete (scope : RequestScopeState) (other id : RequestId)
    (response : ServerMessage) :
    (scope.complete id response).2.seen other = scope.seen other := by
  unfold complete
  split <;> rfl

theorem seen_apply {scope : RequestScopeState} {other : RequestId}
    (known : scope.seen other = true) (call : ScopeCall) :
    (scope.apply call).seen other = true := by
  cases call with
  | begin id request client => exact seen_begin known id request client
  | complete id response => exact (seen_complete scope other id response).trans known

/-- The records just before old results are evicted. -/
def stored (scope : RequestScopeState) (id : RequestId) (response : ServerMessage) :
    TreeMap RequestId RequestRecord :=
  match scope.records[id]? with
  | some record => scope.records.insert id { record with response := some response, waiters := [] }
  | none => scope.records

theorem complete_records (scope : RequestScopeState) (id : RequestId) (response : ServerMessage) :
    (scope.complete id response).2.records =
      evictWhere isCompleted maxCachedRequestResultsPerScope
        (scope.stored id response).size (scope.stored id response) := by
  unfold complete stored
  split <;> rfl

theorem stored_other {scope : RequestScopeState} {id other : RequestId}
    (distinct : id ≠ other) (response : ServerMessage) :
    (scope.stored id response)[other]? = scope.records[other]? := by
  unfold stored
  split
  · simp [Std.TreeMap.getElem?_insert, distinct]
  · rfl

theorem stored_self (scope : RequestScopeState) (id : RequestId) (response : ServerMessage) :
    (scope.stored id response)[id]? = scope.records[id]?.map fun record =>
      { record with response := some response, waiters := [] } := by
  unfold stored
  split
  · next record found => simp [found]
  · next missing => simp [missing]

theorem complete_subset {scope : RequestScopeState} {id other : RequestId}
    {response : ServerMessage} {record : RequestRecord}
    (kept : (scope.complete id response).2.records[other]? = some record) :
    (scope.stored id response)[other]? = some record := by
  rw [complete_records] at kept
  exact evictWhere_subset isCompleted kept

theorem complete_keeps_pending {scope : RequestScopeState} {id other : RequestId}
    {record : RequestRecord} (found : scope.records[other]? = some record)
    (pending : record.response = none) (distinct : id ≠ other) (response : ServerMessage) :
    (scope.complete id response).2.records[other]? = some record := by
  rw [complete_records]
  apply evictWhere_keeps
  · rw [stored_other distinct]; exact found
  · simp [isCompleted, pending]

theorem completedCount_complete_le (scope : RequestScopeState) (id : RequestId)
    (response : ServerMessage) :
    (scope.complete id response).2.completedCount ≤ maxCachedRequestResultsPerScope := by
  unfold completedCount
  rw [complete_records]
  apply countWhere_evictWhere_le
  exact Nat.le_add_left_of_le (countWhere_le_size isCompleted _)

/-! ## What every call preserves -/

theorem wellFormed_new : WellFormed new where
  recorded_seen id record found := by simp [new] at found
  waiters_distinct id record found := by simp [new] at found
  completed_le := (countWhere_le_size isCompleted _).trans (by simp [new])

theorem countWhere_insert_pending {records : TreeMap RequestId RequestRecord} {id : RequestId}
    {record : RequestRecord} (pending : record.response = none)
    (fresh : ∀ old, records[id]? = some old → old.response = none) :
    countWhere isCompleted (records.insert id record) = countWhere isCompleted records := by
  apply countWhere_congr
  intro other
  rw [Std.TreeMap.getElem?_insert]
  by_cases same : id = other
  · subst same
    cases old : records[id]? with
    | none => simp [isCompleted, pending, Option.filter]
    | some before => simp [isCompleted, pending, fresh before old, Option.filter]
  · simp [same]

theorem WellFormed.insert_pending {scope : RequestScopeState} (formed : WellFormed scope)
    {id : RequestId} {record : RequestRecord} (pending : record.response = none)
    (fresh : ∀ old, scope.records[id]? = some old → old.response = none) :
    countWhere isCompleted (scope.records.insert id record) ≤ maxCachedRequestResultsPerScope := by
  refine le_trans (le_of_eq ?_) formed.completed_le
  exact countWhere_insert_pending pending fresh

theorem WellFormed.begin {scope : RequestScopeState} (formed : WellFormed scope) (id : RequestId)
    (request : ClientMessage) (client : ClientId) :
    WellFormed (scope.begin id request client).2 := by
  rcases begin_cases scope id request client with
    same | ⟨record, found, -, pending, -, same⟩ | ⟨missing, unseen, same⟩
  · rw [same]; exact formed
  · rw [same]
    refine ⟨fun other kept present => ?_, fun other kept present => ?_, ?_⟩
    · rcases getElem?_insert_cases present with ⟨rfl, -⟩ | ⟨-, present⟩
      · exact formed.recorded_seen _ _ found
      · exact formed.recorded_seen _ _ present
    · rcases getElem?_insert_cases present with ⟨-, rfl⟩ | ⟨-, present⟩
      · have distinct := formed.waiters_distinct _ _ found
        simp only
        split
        · exact distinct
        · next absent =>
          rw [List.nodup_append]
          refine ⟨distinct, List.nodup_singleton _, fun a member b single => ?_⟩
          rw [List.mem_singleton] at single
          rintro rfl
          exact absent (single ▸ member)
      · exact formed.waiters_distinct _ _ present
    · exact formed.insert_pending pending fun old present => by
        rw [found] at present; cases present; exact pending
  · rw [same]
    refine ⟨fun other kept present => ?_, fun other kept present => ?_, ?_⟩
    · rcases getElem?_insert_cases present with ⟨rfl, -⟩ | ⟨-, present⟩
      · exact seen_self _ _
      · exact seen_insert_highest unseen _ (formed.recorded_seen _ _ present)
    · rcases getElem?_insert_cases present with ⟨-, rfl⟩ | ⟨-, present⟩
      · exact List.nodup_singleton _
      · exact formed.waiters_distinct _ _ present
    · exact formed.insert_pending rfl fun old present => by simp [missing] at present

theorem WellFormed.complete {scope : RequestScopeState} (formed : WellFormed scope)
    (id : RequestId) (response : ServerMessage) :
    WellFormed (scope.complete id response).2 := by
  refine ⟨fun other record kept => ?_, fun other record kept => ?_, completedCount_complete_le ..⟩
  · rw [seen_complete]
    have before := complete_subset kept
    by_cases same : id = other
    · subst same
      rw [stored_self] at before
      obtain ⟨old, found, -⟩ := Option.map_eq_some_iff.mp before
      exact formed.recorded_seen _ _ found
    · rw [stored_other same] at before
      exact formed.recorded_seen _ _ before
  · have before := complete_subset kept
    by_cases same : id = other
    · subst same
      rw [stored_self] at before
      obtain ⟨old, found, rfl⟩ := Option.map_eq_some_iff.mp before
      exact List.nodup_nil
    · rw [stored_other same] at before
      exact formed.waiters_distinct _ _ before

theorem WellFormed.apply {scope : RequestScopeState} (formed : WellFormed scope)
    (call : ScopeCall) : WellFormed (scope.apply call) := by
  cases call with
  | begin id request client => exact formed.begin id request client
  | complete id response => exact formed.complete id response

theorem Consumed.apply {scope : RequestScopeState} {id : RequestId} {request : ClientMessage}
    (consumed : Consumed scope id request) (call : ScopeCall) :
    Consumed (scope.apply call) id request := by
  refine ⟨seen_apply consumed.1 call, fun record kept => ?_⟩
  cases call with
  | begin other body client =>
    simp only [RequestScopeState.apply] at kept
    rcases begin_cases scope other body client with
      same | ⟨old, found, -, -, -, same⟩ | ⟨missing, unseen, same⟩
    · rw [same] at kept; exact consumed.2 _ kept
    · rw [same] at kept
      rcases getElem?_insert_cases kept with ⟨rfl, rfl⟩ | ⟨-, kept⟩
      · exact consumed.2 old found
      · exact consumed.2 _ kept
    · rw [same] at kept
      rcases getElem?_insert_cases kept with ⟨rfl, -⟩ | ⟨-, kept⟩
      · simp [consumed.1] at unseen
      · exact consumed.2 _ kept
  | complete other response =>
    have before := complete_subset kept
    by_cases same : other = id
    · subst same
      rw [stored_self] at before
      obtain ⟨old, found, rfl⟩ := Option.map_eq_some_iff.mp before
      exact consumed.2 old found
    · rw [stored_other same] at before
      exact consumed.2 _ before

theorem Awaits.apply {scope : RequestScopeState} {id : RequestId} {request : ClientMessage}
    (awaits : Awaits scope id request) (known : scope.seen id = true) {call : ScopeCall}
    (elsewhere : call.completes id = false) : Awaits (scope.apply call) id request := by
  obtain ⟨record, found, body, pending⟩ := awaits
  cases call with
  | begin other otherBody client =>
    simp only [RequestScopeState.apply]
    rcases begin_cases scope other otherBody client with
      same | ⟨old, oldFound, -, -, -, same⟩ | ⟨missing, unseen, same⟩
    · rw [same]; exact ⟨record, found, body, pending⟩
    · rw [same]
      by_cases here : other = id
      · subst here
        rw [found] at oldFound
        cases oldFound
        exact ⟨_, Std.TreeMap.getElem?_insert_self, body, pending⟩
      · exact ⟨record, by simpa [Std.TreeMap.getElem?_insert, here] using found, body, pending⟩
    · rw [same]
      have here : other ≠ id := by
        rintro rfl
        simp [known] at unseen
      exact ⟨record, by simpa [Std.TreeMap.getElem?_insert, here] using found, body, pending⟩
  | complete other response =>
    have distinct : other ≠ id := by simpa [ScopeCall.completes] using elsewhere
    exact ⟨record, complete_keeps_pending found pending distinct response, body, pending⟩

theorem Awaits.complete {scope : RequestScopeState} {id : RequestId} {request : ClientMessage}
    (awaits : Awaits scope id request) (known : scope.seen id = true) (response : ServerMessage) :
    Settled (scope.complete id response).2 id request response := by
  obtain ⟨record, found, body, pending⟩ := awaits
  refine ⟨⟨(seen_complete ..).trans known, fun kept present => ?_⟩, fun kept present => ?_⟩ <;>
  · have before := complete_subset present
    rw [stored_self, found] at before
    cases before
    first | exact body | rfl

theorem Settled.apply {scope : RequestScopeState} {id : RequestId} {request : ClientMessage}
    {response : ServerMessage} (settled : Settled scope id request response) {call : ScopeCall}
    (elsewhere : call.completes id = false) : Settled (scope.apply call) id request response := by
  refine ⟨settled.1.apply call, fun record kept => ?_⟩
  cases call with
  | begin other body client =>
    simp only [RequestScopeState.apply] at kept
    rcases begin_cases scope other body client with
      same | ⟨old, found, -, pending, -, same⟩ | ⟨missing, unseen, same⟩
    · rw [same] at kept; exact settled.2 _ kept
    · rw [same] at kept
      rcases getElem?_insert_cases kept with ⟨rfl, -⟩ | ⟨-, kept⟩
      · have answered := settled.2 _ found
        simp [pending] at answered
      · exact settled.2 _ kept
    · rw [same] at kept
      rcases getElem?_insert_cases kept with ⟨rfl, -⟩ | ⟨-, kept⟩
      · simp [settled.1.1] at unseen
      · exact settled.2 _ kept
  | complete other otherResponse =>
    have distinct : other ≠ id := by simpa [ScopeCall.completes] using elsewhere
    have before := complete_subset kept
    rw [stored_other distinct] at before
    exact settled.2 _ before

/-! ## Sequences of calls -/

theorem after_append (earlier later : List ScopeCall) :
    after (earlier ++ later) = later.foldl apply (after earlier) := by
  simp [after, List.foldl_append]

theorem wellFormed_after (calls : List ScopeCall) : WellFormed (after calls) := by
  induction calls using List.reverseRecOn with
  | nil => exact wellFormed_new
  | append_singleton calls call ih =>
    rw [after_append]
    exact ih.apply call

theorem Consumed.calls {scope : RequestScopeState} {id : RequestId} {request : ClientMessage}
    (consumed : Consumed scope id request) (later : List ScopeCall) :
    Consumed (later.foldl RequestScopeState.apply scope) id request := by
  induction later generalizing scope with
  | nil => exact consumed
  | cons call later ih => exact ih (consumed.apply call)

theorem seen_calls {scope : RequestScopeState} {id : RequestId}
    (known : scope.seen id = true) (later : List ScopeCall) :
    (later.foldl RequestScopeState.apply scope).seen id = true := by
  induction later generalizing scope with
  | nil => exact known
  | cons call later ih => exact ih (seen_apply known call)

theorem Awaits.calls {scope : RequestScopeState} {id : RequestId} {request : ClientMessage}
    (awaits : Awaits scope id request) (known : scope.seen id = true) {later : List ScopeCall}
    (elsewhere : ∀ call ∈ later, call.completes id = false) :
    Awaits (later.foldl RequestScopeState.apply scope) id request := by
  induction later generalizing scope with
  | nil => exact awaits
  | cons call later ih =>
    exact ih (awaits.apply known (elsewhere call (by simp))) (seen_apply known call)
      fun other member => elsewhere other (by simp [member])

theorem Settled.calls {scope : RequestScopeState} {id : RequestId} {request : ClientMessage}
    {response : ServerMessage} (settled : Settled scope id request response)
    {later : List ScopeCall} (elsewhere : ∀ call ∈ later, call.completes id = false) :
    Settled (later.foldl RequestScopeState.apply scope) id request response := by
  induction later generalizing scope with
  | nil => exact settled
  | cons call later ih =>
    exact ih (settled.apply (elsewhere call (by simp)))
      fun other member => elsewhere other (by simp [member])

section
variable {earlier later : List ScopeCall} {id : RequestId} {request : ClientMessage}
  {client : ClientId}

theorem after_cons (earlier later : List ScopeCall) (call : ScopeCall) :
    after (earlier ++ call :: later) = later.foldl apply ((after earlier).apply call) := by
  simp [after, List.foldl_append]

theorem accepted_awaits (accepted : (answer earlier id request client).Accepts) :
    Awaits ((after earlier).apply (.begin id request client)) id request := by
  obtain ⟨missing, unseen⟩ := (begin_accepts_iff ..).mp accepted
  simp only [apply, begin, missing, unseen]
  exact ⟨_, Std.TreeMap.getElem?_insert_self, rfl, rfl⟩

/-- A `begin` leaves its ID seen, whatever it answers. -/
theorem begin_seen {scope : RequestScopeState} (formed : WellFormed scope) (id : RequestId)
    (request : ClientMessage) (client : ClientId) :
    (scope.apply (.begin id request client)).seen id = true := by
  cases known : scope.seen id with
  | true => exact seen_apply known _
  | false =>
    cases found : scope.records[id]? with
    | some record => simp [formed.recorded_seen _ _ found] at known
    | none =>
      simp only [apply, begin, found, known]
      exact seen_self _ _

theorem seen_of_begun (begun : ScopeCall.begin id request client ∈ earlier) :
    (after earlier).seen id = true := by
  obtain ⟨before, rest, rfl⟩ := List.append_of_mem begun
  rw [after_cons]
  exact seen_calls (begin_seen (wellFormed_after before) id request client) rest

theorem accepted_consumed (accepted : (answer earlier id request client).Accepts)
    (later : List ScopeCall) :
    Consumed (after (earlier ++ .begin id request client :: later)) id request := by
  rw [after_cons]
  obtain ⟨record, found, body, -⟩ := accepted_awaits accepted
  refine Consumed.calls ⟨begin_seen (wellFormed_after earlier) .., fun kept present => ?_⟩ later
  rw [found] at present
  cases present
  exact body

theorem accepted_pending (accepted : (answer earlier id request client).Accepts)
    (unanswered : ∀ call ∈ later, call.completes id = false) :
    Awaits (after (earlier ++ .begin id request client :: later)) id request := by
  rw [after_cons]
  exact (accepted_awaits accepted).calls (begin_seen (wellFormed_after earlier) ..) unanswered

theorem accepted_settled {middle : List ScopeCall} {response : ServerMessage}
    (accepted : (answer earlier id request client).Accepts)
    (unanswered : ∀ call ∈ middle, call.completes id = false)
    (final : ∀ call ∈ later, call.completes id = false) :
    Settled (after (earlier ++ .begin id request client :: middle ++ .complete id response :: later))
      id request response := by
  rw [after_cons]
  refine Settled.calls ?_ final
  exact (accepted_pending accepted unanswered).complete
    (accepted_consumed accepted middle).1 response

theorem Settled.answered {scope : RequestScopeState} {response : ServerMessage}
    (settled : Settled scope id request response) (client : ClientId) :
    (scope.begin id request client).1 = .cached response ∨
      scope.records[id]? = none ∧ scope.begin id request client = (.expired, scope) := by
  cases found : scope.records[id]? with
  | none => exact .inr ⟨rfl, begin_expired found settled.1.1 ..⟩
  | some record =>
    left
    obtain rfl := settled.1.2 record found
    rw [begin_recorded found, settled.2 record found]

theorem Awaits.answered {scope : RequestScopeState} (awaits : Awaits scope id request)
    (client : ClientId) : (scope.begin id request client).1 = .pending := by
  obtain ⟨record, found, rfl, pending⟩ := awaits
  rw [begin_recorded found, pending]

theorem Awaits.waits {scope : RequestScopeState} (formed : WellFormed scope)
    (awaits : Awaits scope id request) (client : ClientId) :
    ∃ record, (scope.apply (.begin id request client)).records[id]? = some record ∧
      record.waiters.count client = 1 := by
  obtain ⟨record, found, rfl, pending⟩ := awaits
  have distinct := (formed.apply (.begin id record.request client)).waiters_distinct id
  simp only [RequestScopeState.apply, begin, found, pending, ne_eq, not_true_eq_false,
    if_false] at distinct ⊢
  refine ⟨_, Std.TreeMap.getElem?_insert_self, List.count_eq_one_of_mem
    (distinct _ Std.TreeMap.getElem?_insert_self) ?_⟩
  split
  · next member => exact member
  · simp

theorem Awaits.seen {scope : RequestScopeState} (awaits : Awaits scope id request)
    (formed : WellFormed scope) : scope.seen id = true := by
  obtain ⟨record, found, -⟩ := awaits
  exact formed.recorded_seen id record found

theorem different_refused {other : ClientMessage}
    (accepted : (answer earlier id request client).Accepts) (different : other ≠ request)
    (later : List ScopeCall) (retrier : ClientId) :
    let scope := after (earlier ++ .begin id request client :: later)
    scope.begin id other retrier = (.collision, scope) ∨
      scope.records[id]? = none ∧ scope.begin id other retrier = (.expired, scope) := by
  intro scope
  have consumed : Consumed scope id request := accepted_consumed accepted later
  cases found : scope.records[id]? with
  | none => exact .inr ⟨rfl, begin_expired found consumed.1 ..⟩
  | some record =>
    refine .inl (begin_collision found ?_ retrier)
    rw [consumed.2 record found]
    exact different.symm

theorem cached_latest {calls : List ScopeCall} {record : RequestRecord} {response : ServerMessage}
    (found : (after calls).records[id]? = some record) (cached : record.response = some response) :
    ∃ before rest, calls = before ++ .complete id response :: rest ∧
      ∀ call ∈ rest, call.completes id = false := by
  induction calls using List.reverseRecOn generalizing record with
  | nil => simp [after, new] at found
  | append_singleton calls call ih =>
    rw [after_append] at found
    -- A call that does not complete the request leaves its latest completion where it was.
    have extend : ∀ {old : RequestRecord}, (after calls).records[id]? = some old →
        old.response = some response → call.completes id = false →
        ∃ before rest, calls ++ [call] = before ++ .complete id response :: rest ∧
          ∀ call ∈ rest, call.completes id = false := by
      intro old earlier answered elsewhere
      obtain ⟨before, rest, rfl, quiet⟩ := ih earlier answered
      refine ⟨before, rest ++ [call], by simp, fun other member => ?_⟩
      rcases List.mem_append.mp member with inside | last
      · exact quiet other inside
      · rw [List.mem_singleton.mp last]; exact elsewhere
    cases call with
    | begin other body client =>
      simp only [List.foldl_cons, List.foldl_nil, apply] at found
      rcases begin_cases (after calls) other body client with
        same | ⟨old, _, _, pending, _, same⟩ | ⟨_, _, same⟩
      · exact extend (same ▸ found) cached rfl
      · rw [same] at found
        rcases getElem?_insert_cases found with ⟨-, rfl⟩ | ⟨-, earlier⟩
        · simp [pending] at cached
        · exact extend earlier cached rfl
      · rw [same] at found
        -- The record that a begin writes has no answer.
        rcases getElem?_insert_cases found with ⟨-, rfl⟩ | ⟨-, earlier⟩
        · cases cached
        · exact extend earlier cached rfl
    | complete other answer =>
      have before := complete_subset found
      by_cases same : other = id
      · subst same
        rw [stored_self] at before
        obtain ⟨old, -, rfl⟩ := Option.map_eq_some_iff.mp before
        cases cached
        exact ⟨calls, [], rfl, by simp⟩
      · rw [stored_other same] at before
        exact extend before cached (by simp [ScopeCall.completes, same])

end

/-! ## The contract of a scope -/

/-- What any sequence of calls on one scope guarantees the clients of the scope. -/
structure ScopeContract : Prop where
  /-- An ID above every one begun is accepted, or refused where too many are pending. -/
  fresh : ∀ (calls : List ScopeCall) (id : RequestId) (request : ClientMessage) (client : ClientId),
    (∀ begun body other, .begin begun body other ∈ calls → begun.get < id.get) →
      answer calls id request client =
        if maxPendingRequestsPerClient ≤ (after calls).pendingCount then .tooManyPending else .new
  /-- An ID is accepted, or refused for overload, once; it never runs afterwards. -/
  acceptedOnce : ∀ (earlier later : List ScopeCall) (id : RequestId) (first second : ClientMessage)
    (client other : ClientId), (answer earlier id first client).Accepts →
      ¬ (answer (earlier ++ .begin id first client :: later) id second other).Accepts
  retryPending : ∀ (earlier later : List ScopeCall) (id : RequestId) (request : ClientMessage)
    (client other : ClientId), (answer earlier id request client).Accepts →
      (∀ call ∈ later, call.completes id = false) →
      let calls := earlier ++ .begin id request client :: later
      answer calls id request other = .pending ∧
        ∃ record, (after (calls ++ [.begin id request other])).records[id]? = some record ∧
          record.waiters.count other = 1
  /-- Once answered, a retry gets the original response until the record is evicted. -/
  retryCached : ∀ (earlier middle later : List ScopeCall) (id : RequestId)
    (request : ClientMessage) (response : ServerMessage) (client other : ClientId),
      (answer earlier id request client).Accepts →
      (∀ call ∈ middle, call.completes id = false) →
      (∀ call ∈ later, call.completes id = false) →
      let scope := after (earlier ++ .begin id request client :: middle ++
        .complete id response :: later)
      (scope.begin id request other).1 = .cached response ∨
        scope.records[id]? = none ∧ scope.begin id request other = (.expired, scope)
  cachedLatest : ∀ (calls : List ScopeCall) (id : RequestId) (request : ClientMessage)
    (client : ClientId) (response : ServerMessage),
      answer calls id request client = .cached response →
      ∃ before rest, calls = before ++ .complete id response :: rest ∧
        ∀ call ∈ rest, call.completes id = false
  collision : ∀ (earlier later : List ScopeCall) (id : RequestId) (first second : ClientMessage)
    (client other : ClientId), (answer earlier id first client).Accepts → second ≠ first →
      let scope := after (earlier ++ .begin id first client :: later)
      scope.begin id second other = (.collision, scope) ∨
        scope.records[id]? = none ∧ scope.begin id second other = (.expired, scope)
  /-- Nothing recorded at or below a begun ID can be begun again. -/
  expired : ∀ (calls : List ScopeCall) (begun id : RequestId) (body request : ClientMessage)
    (client other : ClientId), .begin begun body client ∈ calls → id.get ≤ begun.get →
      (after calls).records[id]? = none →
      (after calls).begin id request other = (.expired, after calls)
  pendingKept : ∀ (calls : List ScopeCall) (id : RequestId) (request : ClientMessage)
    (call : ScopeCall), Awaits (after calls) id request → call.completes id = false →
      Awaits (after (calls ++ [call])) id request
  completedBound : ∀ calls : List ScopeCall,
    (after calls).completedCount ≤ maxCachedRequestResultsPerScope
  beginKeeps : ∀ (calls : List ScopeCall) (id other : RequestId) (request : ClientMessage)
    (client : ClientId), other ∈ (after calls).records →
      other ∈ (after (calls ++ [.begin id request client])).records
  /-- A record that a completion drops was completed, and lies below every completed one kept. -/
  smallestFirst : ∀ (calls : List ScopeCall) (id dropped kept : RequestId)
    (response : ServerMessage) (record keptRecord : RequestRecord),
      ((after calls).stored id response)[dropped]? = some record →
      (after (calls ++ [.complete id response])).records[dropped]? = none →
      (after (calls ++ [.complete id response])).records[kept]? = some keptRecord →
      isCompleted record = true ∧ (isCompleted keptRecord = true → dropped.get < kept.get)
  /-- Nothing is dropped while the completed records are within their bound. -/
  droppedBeyond : ∀ (calls : List ScopeCall) (id : RequestId) (response : ServerMessage),
    countWhere isCompleted ((after calls).stored id response) ≤ maxCachedRequestResultsPerScope →
      (after (calls ++ [.complete id response])).records = (after calls).stored id response

theorem highest_begun {calls : List ScopeCall} {highest : RequestId}
    (known : (after calls).highestRequestId = some highest) :
    ∃ request client, .begin highest request client ∈ calls := by
  induction calls using List.reverseRecOn with
  | nil => cases known
  | append_singleton calls call ih =>
    rw [after_append] at known
    change ((after calls).apply call).highestRequestId = some highest at known
    have earlier (same : ((after calls).apply call).highestRequestId =
        (after calls).highestRequestId) : ∃ request client,
          .begin highest request client ∈ calls ++ [call] := by
      obtain ⟨request, client, member⟩ := ih (same ▸ known)
      exact ⟨request, client, List.mem_append_left _ member⟩
    cases call with
    | complete id response =>
      refine earlier ?_
      simp only [apply, complete]
      split <;> rfl
    | begin id request client =>
      rcases begin_cases (after calls) id request client with same | ⟨_, _, _, _, _, same⟩ |
        ⟨_, _, same⟩
      · exact earlier (congrArg highestRequestId same)
      · refine earlier ?_
        rw [apply, same]
      · have begun : some id = some highest := (congrArg highestRequestId same).symm.trans known
        cases begun
        exact ⟨request, client, List.mem_append_right _ (List.mem_singleton.mpr rfl)⟩

theorem unseen_of_above {calls : List ScopeCall} {id : RequestId}
    (above : ∀ begun request client, .begin begun request client ∈ calls → begun.get < id.get) :
    (after calls).records[id]? = none ∧ (after calls).seen id = false := by
  have unseen : (after calls).seen id = false := by
    unfold seen
    cases known : (after calls).highestRequestId with
    | none => rfl
    | some highest =>
      obtain ⟨request, client, member⟩ := highest_begun known
      exact decide_eq_false (Nat.not_le.mpr (above highest request client member))
  refine ⟨?_, unseen⟩
  cases found : (after calls).records[id]? with
  | none => rfl
  | some record =>
    rw [(wellFormed_after calls).recorded_seen id record found] at unseen
    cases unseen

theorem apply_begin_keeps {scope : RequestScopeState} {other : RequestId}
    (present : other ∈ scope.records) (id : RequestId) (request : ClientMessage)
    (client : ClientId) : other ∈ (scope.apply (.begin id request client)).records := by
  simp only [apply]
  rcases begin_cases scope id request client with same | ⟨_, _, _, _, _, same⟩ | ⟨_, _, same⟩
  · rw [same]; exact present
  · rw [same]; exact Std.TreeMap.mem_insert.mpr (.inr present)
  · rw [same]; exact Std.TreeMap.mem_insert.mpr (.inr present)

theorem requestScope_contract : ScopeContract where
  fresh calls id request client above := by
    obtain ⟨missing, unseen⟩ := unseen_of_above above
    simp [answer, begin, missing, unseen]
  acceptedOnce earlier later id first second client other accepted again := by
    have unseen := ((begin_accepts_iff ..).mp again).2
    rw [(accepted_consumed accepted later).1] at unseen
    cases unseen
  retryPending earlier later id request client other accepted unanswered := by
    have awaits := accepted_pending accepted unanswered
    refine ⟨awaits.answered other, ?_⟩
    rw [after_append]
    exact awaits.waits (wellFormed_after _) other
  retryCached earlier middle later id request response client other accepted unanswered final :=
    (accepted_settled accepted unanswered final).answered other
  cachedLatest calls id request client response cached := by
    cases found : (after calls).records[id]? with
    | none =>
      simp only [answer, begin, found] at cached
      split at cached
      · cases cached
      · split at cached <;> cases cached
    | some record =>
      refine cached_latest found ?_
      simp only [answer, begin, found] at cached
      split at cached
      · cases cached
      · cases answered : record.response <;> simp_all
  collision earlier later id first second client other accepted different :=
    different_refused accepted different later other
  expired calls begun id body request client other earlier below missing :=
    begin_expired missing (seen_of_le below (seen_of_begun earlier)) request other
  pendingKept calls id request call awaits elsewhere := by
    rw [after_append]
    exact awaits.apply (awaits.seen (wellFormed_after calls)) elsewhere
  completedBound calls := (wellFormed_after calls).completed_le
  beginKeeps calls id other request client present := by
    rw [after_append]
    exact apply_begin_keeps present id request client
  smallestFirst calls id dropped kept response record keptRecord found gone present := by
    rw [after_append] at gone present
    simp only [List.foldl_cons, List.foldl_nil, apply, complete_records] at gone present
    obtain ⟨completed, below⟩ := evictWhere_smallest isCompleted found gone
    exact ⟨completed, below kept keptRecord present⟩
  droppedBeyond calls id response within := by
    rw [after_append]
    simp only [List.foldl_cons, List.foldl_nil, apply, complete_records]
    exact evictWhere_of_le isCompleted within _

/-- A stop that is asked for again while it runs, and once it has been answered. -/
theorem requestScope_contract_retried :
    let id : RequestId := ⟨.min⟩
    let stop : ClientMessage := .stop id ⟨⟨1, bytes_one⟩, ⟨1, bytes_one⟩⟩ ⟨1⟩ ⟨.min⟩
    let stopped : ServerMessage := .stopResult id (.stopped ⟨0, none⟩)
    answer [] id stop 7 = .new ∧ answer [.begin id stop 7] id stop 8 = .pending ∧
      answer [.begin id stop 7, .complete id stopped] id stop 8 = .cached stopped := by
  intro id stop stopped
  have fresh : answer [] id stop 7 = .new :=
    requestScope_contract.fresh [] id stop 7 fun _ _ _ member => nomatch member
  have pending := (requestScope_contract.retryPending [] [] id stop 7 8 (.inl fresh)
    fun _ member => nomatch member).1
  have cached := requestScope_contract.retryCached [] [] [] id stop stopped 7 8 (.inl fresh)
    (fun _ member => nomatch member) fun _ member => nomatch member
  exact ⟨fresh, pending, cached.resolve_right fun gone => absurd gone.1 (by decide +kernel)⟩

end RequestScopeState

end Mult.Daemon
