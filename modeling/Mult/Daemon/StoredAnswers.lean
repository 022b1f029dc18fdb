import Mult.Daemon.Bookkeeping
import Mult.Daemon.Requests

/-! What becomes of the answer stored for a request: it stays until its scope holds as many
answers as it may, all of them to later requests.
-/

set_option autoImplicit false

namespace Mult.Daemon
open Foundation Protocol
open Std (TreeMap)

namespace RequestScopeState

def responseOf (scope : RequestScopeState) (id : RequestId) : Option ServerMessage :=
  scope.records[id]?.bind RequestRecord.response

/-- The scope is full of answers to later requests, and the record of this one is gone. -/
structure Outgrown (scope : RequestScopeState) (id : RequestId) : Prop where
  gone : scope.records[id]? = none
  full : scope.completedCount = maxCachedRequestResultsPerScope
  later : ∀ (other : RequestId) (record : RequestRecord), scope.records[other]? = some record →
    isCompleted record = true → id.get < other.get

/-- The answer is stored, or was until the scope outgrew it. -/
structure Retains (scope : RequestScopeState) (id : RequestId) (response : ServerMessage) :
    Prop where
  formed : WellFormed scope
  seen : scope.seen id = true
  kept : scope.responseOf id = some response ∨ scope.Outgrown id

variable {scope : RequestScopeState} {id other : RequestId} {response answer : ServerMessage}

theorem Retains.of_stored (formed : WellFormed scope)
    (stored : scope.responseOf id = some response) : Retains scope id response := by
  obtain ⟨record, found, -⟩ := Option.bind_eq_some_iff.mp stored
  exact ⟨formed, formed.recorded_seen id record found, .inl stored⟩

theorem complete_cases (formed : WellFormed scope) (id : RequestId) (answer : ServerMessage) :
    ((scope.complete id answer).2.records = scope.stored id answer ∧
      countWhere isCompleted (scope.stored id answer) ≤ maxCachedRequestResultsPerScope) ∨
    ∃ (oldest : RequestId) (record : RequestRecord),
      (scope.stored id answer)[oldest]? = some record ∧ isCompleted record = true ∧
      (∀ (other : RequestId) (kept : RequestRecord), (scope.stored id answer)[other]? = some kept →
        isCompleted kept = true → oldest.get ≤ other.get) ∧
      (scope.complete id answer).2.completedCount = maxCachedRequestResultsPerScope ∧
      (scope.complete id answer).2.records = (scope.stored id answer).erase oldest := by
  have bound : countWhere isCompleted (scope.stored id answer) ≤
      maxCachedRequestResultsPerScope + 1 := by
    have fits : countWhere isCompleted scope.records ≤ maxCachedRequestResultsPerScope :=
      formed.completed_le
    unfold stored
    split
    · rw [countWhere_insert isCompleted rfl]
      have less := countWhere_erase_le isCompleted scope.records id
      omega
    · omega
  by_cases small : countWhere isCompleted (scope.stored id answer) ≤
      maxCachedRequestResultsPerScope
  · exact .inl ⟨by rw [complete_records, evictWhere_of_le isCompleted small], small⟩
  · have crowded : countWhere isCompleted (scope.stored id answer) =
        maxCachedRequestResultsPerScope + 1 := by omega
    have enough : 0 < (scope.stored id answer).size := by
      have size := countWhere_le_size isCompleted (scope.stored id answer)
      omega
    obtain ⟨oldest, record, found, completed, least, full, evicted⟩ :=
      evictWhere_one isCompleted crowded enough
    refine .inr ⟨oldest, record, found, completed, least, ?_, ?_⟩
    · unfold completedCount
      rw [complete_records, evicted]
      exact full
    · rw [complete_records, evicted]

theorem stored_full (full : scope.completedCount = maxCachedRequestResultsPerScope)
    (fits : countWhere isCompleted (scope.stored id answer) ≤ maxCachedRequestResultsPerScope) :
    countWhere isCompleted (scope.stored id answer) = maxCachedRequestResultsPerScope ∧
      ∀ record, scope.records[id]? = some record → isCompleted record = true := by
  unfold completedCount at full
  unfold stored at *
  split at fits
  · next record found =>
    rw [countWhere_insert isCompleted rfl] at fits ⊢
    have less := countWhere_le_erase isCompleted scope.records id
    refine ⟨by omega, fun other same => ?_⟩
    rw [found] at same
    cases same
    by_contra pending
    have kept : countWhere isCompleted (scope.records.erase id) =
        countWhere isCompleted scope.records := by
      refine countWhere_erase_other isCompleted fun value there => ?_
      rw [found] at there
      cases there
      simpa using pending
    omega
  · next missing =>
    refine ⟨full, fun record found => ?_⟩
    rw [missing] at found
    cases found

theorem responseOf_of_records {left right : RequestScopeState}
    (same : left.records[id]? = right.records[id]?) : left.responseOf id = right.responseOf id := by
  unfold responseOf
  rw [same]

theorem Retains.complete (retains : Retains scope id response) (distinct : other ≠ id)
    (answer : ServerMessage) : Retains (scope.complete other answer).2 id response := by
  refine ⟨retains.formed.complete other answer, by rw [seen_complete]; exact retains.seen, ?_⟩
  have apart : (scope.stored other answer)[id]? = scope.records[id]? := stored_other distinct answer
  rcases complete_cases retains.formed other answer with
    ⟨records, fits⟩ | ⟨oldest, record, found, completed, least, full, records⟩
  · rcases retains.kept with stored | outgrown
    · exact .inl ((responseOf_of_records (by rw [records, apart])).trans stored)
    · -- The answer takes the place of another under the same id; no answer is dropped.
      obtain ⟨full, completed⟩ := stored_full outgrown.full fits
      refine .inr ⟨by rw [records, apart]; exact outgrown.gone, ?_, fun next kept present ofKind => ?_⟩
      · unfold completedCount
        rw [records]
        exact full
      · rw [records] at present
        by_cases same : other = next
        · subst same
          rw [stored_self] at present
          obtain ⟨old, found, -⟩ := Option.map_eq_some_iff.mp present
          exact outgrown.later other old found (completed old found)
        · rw [stored_other same] at present
          exact outgrown.later next kept present ofKind
  · rcases retains.kept with stored | outgrown
    · -- The oldest answer is dropped. Was it the one in question, all that are left are later ones.
      by_cases same : oldest = id
      · subst same
        refine .inr ⟨by rw [records]; simp, full, fun next kept present ofKind => ?_⟩
        rw [records, TreeMap.getElem?_erase] at present
        split at present
        · cases present
        · next apart =>
          refine lt_of_le_of_ne (least next kept present ofKind) fun ranks => apart ?_
          exact Std.LawfulEqCmp.compare_eq_iff_eq.mpr (Ranked.rank_injective ranks)
      · refine .inl ((responseOf_of_records ?_).trans stored)
        rw [records, TreeMap.getElem?_erase, if_neg (by simpa using same), apart]
    · refine .inr ⟨?_, full, fun next kept present ofKind => ?_⟩
      · rw [records, TreeMap.getElem?_erase, apart, outgrown.gone]
        split <;> rfl
      · rw [records, TreeMap.getElem?_erase] at present
        split at present
        · cases present
        · next apart =>
          by_cases same : other = next
          · -- The evicted answer is an older one than the new, and newer than the lost one.
            subst same
            have differs : other ≠ oldest := fun clash => apart (by simp [clash])
            rw [stored_other differs] at found
            have below := outgrown.later oldest record found completed
            exact below.trans_le (least other kept present ofKind)
          · rw [stored_other same] at present
            exact outgrown.later next kept present ofKind

theorem Retains.insert_pending (retains : Retains scope id response) {after : RequestScopeState}
    {record : RequestRecord} (formed : WellFormed after) (seen : after.seen id = true)
    (pending : record.response = none)
    (fresh : ∀ old, scope.records[other]? = some old → old.response = none)
    (records : after.records = scope.records.insert other record) (distinct : other ≠ id) :
    Retains after id response := by
  have apart : after.records[id]? = scope.records[id]? := by
    rw [records, TreeMap.getElem?_insert, if_neg (by simpa using distinct)]
  refine ⟨formed, seen, ?_⟩
  rcases retains.kept with stored | outgrown
  · exact .inl ((responseOf_of_records apart).trans stored)
  · refine .inr ⟨apart.trans outgrown.gone, ?_, fun next kept present ofKind => ?_⟩
    · unfold completedCount
      rw [records, countWhere_insert_pending pending fresh]
      exact outgrown.full
    · rw [records] at present
      rcases getElem?_insert_cases present with ⟨-, rfl⟩ | ⟨-, present⟩
      · simp [isCompleted, pending] at ofKind
      · exact outgrown.later next kept present ofKind

theorem Retains.begin (retains : Retains scope id response) (other : RequestId)
    (request : ClientMessage) (client : ClientId) :
    Retains (scope.begin other request client).2 id response := by
  have formed := retains.formed.begin other request client
  have seen := seen_begin retains.seen other request client
  rcases scope.begin_cases other request client with same | ⟨record, found, -, pending, -, same⟩ |
    ⟨missing, unseen, same⟩
  · rw [same]
    exact retains
  · refine retains.insert_pending formed seen ?_ ?_ (by rw [same]) ?_
    · exact pending
    · intro old there
      rw [found] at there
      cases there
      exact pending
    · rintro rfl
      rcases retains.kept with stored | outgrown
      · simp [responseOf, found, pending] at stored
      · rw [outgrown.gone] at found
        cases found
  · refine retains.insert_pending formed seen ?_ ?_ (by rw [same]) ?_
    · rfl
    · intro old there
      rw [missing] at there
      cases there
    · rintro rfl
      rw [retains.seen] at unseen
      cases unseen

theorem completedCount_removeClient (scope : RequestScopeState) (client : ClientId) :
    (scope.removeClient client).completedCount = scope.completedCount := by
  have same (id : RequestId) (record : RequestRecord) :
      isCompleted { record with waiters := record.waiters.filter (· ≠ client) } =
        isCompleted record := rfl
  exact countWhere_map isCompleted same scope.records

theorem WellFormed.removeClient (formed : WellFormed scope) (client : ClientId) :
    WellFormed (scope.removeClient client) := by
  refine ⟨fun other record found => ?_, fun other record found => ?_, ?_⟩
  · rw [RequestScopeState.removeClient, TreeMap.getElem?_map] at found
    obtain ⟨old, there, -⟩ := Option.map_eq_some_iff.mp found
    exact formed.recorded_seen other old there
  · rw [RequestScopeState.removeClient, TreeMap.getElem?_map] at found
    obtain ⟨old, there, rfl⟩ := Option.map_eq_some_iff.mp found
    exact (formed.waiters_distinct other old there).filter _
  · rw [completedCount_removeClient]
    exact formed.completed_le

theorem Retains.removeClient (retains : Retains scope id response) (client : ClientId) :
    Retains (scope.removeClient client) id response := by
  refine ⟨retains.formed.removeClient client, retains.seen, ?_⟩
  rcases retains.kept with stored | outgrown
  · refine .inl (Eq.trans ?_ stored)
    unfold responseOf RequestScopeState.removeClient
    rw [TreeMap.getElem?_map, Option.bind_map]
    rfl
  · refine .inr ⟨?_, ?_, fun next kept present ofKind => ?_⟩
    · unfold RequestScopeState.removeClient
      rw [TreeMap.getElem?_map, outgrown.gone]
      rfl
    · rw [completedCount_removeClient]
      exact outgrown.full
    · unfold RequestScopeState.removeClient at present
      rw [TreeMap.getElem?_map] at present
      obtain ⟨old, there, rfl⟩ := Option.map_eq_some_iff.mp present
      exact outgrown.later next old there ofKind

end RequestScopeState

namespace ScopeRun

open RequestScopeState

variable {answers : RequestId → ServerMessage → Prop} {scope later : RequestScopeState}
  {id : RequestId} {response : ServerMessage}

theorem formed (run : ScopeRun answers scope later) (formed : WellFormed scope) :
    WellFormed later := by
  induction run with
  | start => exact formed
  | begun id request client _ ih => exact ih.begin id request client
  | completed _ _ ih => exact ih.complete _ _
  | forgot client _ ih => exact ih.removeClient client

/-- An answer stays, or is outgrown, as long as its request is not answered again. -/
theorem retains (run : ScopeRun answers scope later) (silent : ∀ answer, ¬ answers id answer)
    (retains : Retains scope id response) : Retains later id response := by
  induction run with
  | start => exact retains
  | begun id request client _ ih => exact ih.begin id request client
  | completed _ answered ih =>
    refine ih.complete ?_ _
    rintro rfl
    exact silent _ answered
  | forgot client _ ih => exact ih.removeClient client

theorem begin_response {scope : RequestScopeState} {other : RequestId} {request : ClientMessage}
    {client : ClientId}
    (stored : (scope.begin other request client).2.responseOf id = some response) :
    scope.responseOf id = some response := by
  unfold responseOf at *
  rcases scope.begin_cases other request client with same | ⟨record, found, -, pending, -, same⟩ |
    ⟨-, -, same⟩
  · rw [same] at stored
    exact stored
  · rw [same, TreeMap.getElem?_insert] at stored
    split at stored
    · simp [pending] at stored
    · exact stored
  · rw [same, TreeMap.getElem?_insert] at stored
    split at stored
    · simp at stored
    · exact stored

theorem complete_response {scope : RequestScopeState} {other : RequestId} {answer : ServerMessage}
    (stored : (scope.complete other answer).2.responseOf id = some response) :
    scope.responseOf id = some response ∨ (other = id ∧ answer = response) := by
  obtain ⟨record, kept, held⟩ := Option.bind_eq_some_iff.mp stored
  have before := complete_subset kept
  by_cases same : other = id
  · subst same
    rw [stored_self] at before
    obtain ⟨old, found, rfl⟩ := Option.map_eq_some_iff.mp before
    exact .inr ⟨rfl, Option.some.inj held⟩
  · rw [stored_other same] at before
    exact .inl (by rw [responseOf, before]; exact held)

theorem stored_before (run : ScopeRun answers scope later)
    (stored : later.responseOf id = some response) :
    scope.responseOf id = some response ∨ answers id response := by
  induction run with
  | start => exact .inl stored
  | begun id request client _ ih => exact ih (begin_response stored)
  | completed _ answered ih =>
    rcases complete_response stored with before | ⟨rfl, rfl⟩
    · exact ih before
    · exact .inr answered
  | forgot client _ ih =>
    refine ih ?_
    unfold responseOf RequestScopeState.removeClient at *
    rw [TreeMap.getElem?_map, Option.bind_map] at stored
    exact stored

end ScopeRun

theorem Books.evolves {server next : Server} {events : List Event} {action : Action}
    (books : Books server next events action) : server.state.Evolves next.state events := by
  cases books with
  | kept keeps => exact keeps.scopes
  | published _ _ published _ =>
    refine .of_same ?_
    unfold ServerState.publishReservedSession at published
    split at published
    · cases published
    · split at published
      · cases published
      · rw [← Except.ok.inj published]
        rfl
  | began _ same => rw [same]; exact .of_same rfl
  | passed _ _ _ _ same _ => exact .of_same (by rw [same])
  | drained _ same => rw [same]; exact .of_same rfl

theorem formed_of_reaches {server : Server} {past : List Event} (run : daemon.Reaches server past)
    (scope : ClientScopeId) : (server.state.scopeOf scope).WellFormed := by
  refine run.invariant (motive := fun server _ => (server.state.scopeOf scope).WellFormed) ?_ ?_
  · rintro state ⟨serverInstance, rfl⟩
    exact RequestScopeState.wellFormed_new
  · intro state next past events action _ formed _ stepped
    exact ((step_books stepped).evolves scope).formed formed

theorem answered_of_stored {server : Server} {past : List Event} (run : daemon.Reaches server past)
    {key : RequestKey} {response : ServerMessage}
    (stored : (server.state.scopeOf key.scope).responseOf key.requestId = some response) :
    .answered key response ∈ past := by
  refine run.invariant (motive := fun server past =>
    (server.state.scopeOf key.scope).responseOf key.requestId = some response →
      .answered key response ∈ past) ?_ ?_ stored
  · rintro state ⟨serverInstance, rfl⟩ stored
    simp [ServerState.scopeOf, Server.new, ServerState.new, RequestScopeState.new,
      RequestScopeState.responseOf] at stored
  · intro state next past events action _ given _ stepped stored
    rcases ((step_books stepped).evolves key.scope).stored_before stored with before | now
    · exact List.mem_append_left _ (given before)
    · exact List.mem_append_right _ now

/-- Once stored, an answer stays what it is, whatever happens, until its scope outgrows it. -/
theorem retains_of_onward {server later : Server} {past more : List Event}
    (earlier : daemon.Reaches server past) (run : (daemon.onward server).Reaches later more)
    {key : RequestKey} {response : ServerMessage}
    (stored : (server.state.scopeOf key.scope).responseOf key.requestId = some response) :
    (later.state.scopeOf key.scope).Retains key.requestId response := by
  have given := answered_of_stored earlier stored
  refine run.invariant (motive := fun state _ =>
    (state.state.scopeOf key.scope).Retains key.requestId response) ?_ ?_
  · rintro state rfl
    exact .of_stored (formed_of_reaches earlier key.scope) stored
  · intro state next between events action onward retains _ stepped
    refine ((step_books stepped).evolves key.scope).retains (fun answer now => ?_) retains
    -- The request was answered before, so it is not answered again.
    have reached := (earlier.onward onward).step trivial stepped
    obtain ⟨once, -⟩ := accounted_of_reaches reached key
    have before : 0 < answered past key :=
      List.countP_pos_iff.mpr ⟨_, given, by simp [Event.answers]⟩
    have again : 0 < answered events key :=
      List.countP_pos_iff.mpr ⟨_, now, by simp [Event.answers]⟩
    rw [answered_append, answered_append] at once
    omega

end Mult.Daemon
