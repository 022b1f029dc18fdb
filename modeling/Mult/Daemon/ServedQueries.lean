import Mult.Daemon.StoredAnswers

/-! A connection that is at rest can have one status query after another served, and its scope
fills up with their answers.
-/

set_option autoImplicit false

namespace Mult.Daemon
open Foundation Protocol
open Std (TreeMap)

/-- The connection's thread reads messages, nothing waits in its queue, and every request of its
scope is answered. -/
structure AtRest (server : Server) (thread : Nat) (conn : Connection) : Prop where
  serving : server.handlers[thread]? = some (.serving conn)
  transport : ∃ transport, server.transports[conn.client]? = some transport ∧
    transport.active = true ∧ transport.writer = .running ∧
    transport.taken = transport.accepted.length
  formed : (server.state.scopeOf conn.scope).WellFormed
  answered : ∀ (id : RequestId) (record : RequestRecord),
    (server.state.scopeOf conn.scope).records[id]? = some record →
      RequestScopeState.isCompleted record = true

def querySteps (thread : Nat) (client : ClientId) (request : ClientMessage) : List Action :=
  [.receive thread request, .begin thread, .reportStatus thread, .complete thread,
    .deliver thread, .deliver thread, .writeSocket client true]

section
variable {server : Server} {thread : Nat} {conn : Connection}

theorem goto_handler (server : Server) {before : Handler} (handler : Handler)
    (found : server.handlers[thread]? = some before) :
    (server.goto thread handler).handlers[thread]? = some handler :=
  List.getElem?_set_self (List.getElem?_eq_some_iff.mp found).1

theorem AtRest.begin_new (rest : AtRest server thread conn) {id : RequestId}
    (fresh : (server.state.scopeOf conn.scope).seen id = false) (request : ClientMessage) :
    (server.state.scopeOf conn.scope).begin id request conn.client =
      (.new, ⟨some id, (server.state.scopeOf conn.scope).records.insert id
        ⟨request, none, [conn.client]⟩⟩) := by
  have missing : (server.state.scopeOf conn.scope).records[id]? = none := by
    by_contra present
    obtain ⟨record, found⟩ := Option.ne_none_iff_exists'.mp present
    rw [rest.formed.recorded_seen id record found] at fresh
    cases fresh
  have idle : (server.state.scopeOf conn.scope).pendingCount = 0 := by
    unfold RequestScopeState.pendingCount countWhere
    rw [List.length_eq_zero_iff, List.filter_eq_nil_iff]
    intro entry member pending
    have completed := rest.answered entry.1 entry.2
      (TreeMap.mem_toList_iff_getElem?_eq_some.mp member)
    simp only [RequestScopeState.isCompleted, RequestScopeState.isPending] at completed pending
    cases held : entry.2.response <;> simp_all
  simp [RequestScopeState.begin, missing, fresh, idle, maxPendingRequestsPerClient]

/-- The scope after the query was begun and answered. -/
def RequestScopeState.served (scope : RequestScopeState) (id : RequestId)
    (request : ClientMessage) (client : ClientId) (response : ServerMessage) : RequestScopeState :=
  ((scope.begin id request client).2.complete id response).2

theorem completeRequest_served (rest : AtRest server thread conn) {id : RequestId}
    (fresh : (server.state.scopeOf conn.scope).seen id = false) (request : ClientMessage)
    (response : ServerMessage) :
    (server.state.beginRequest conn.scope id request conn.client).2.completeRequest
        ⟨conn.scope, id⟩ response =
      ([conn.client], { server.state with
        requestScopes := (server.state.requestScopes.insert conn.scope
          ((server.state.scopeOf conn.scope).begin id request conn.client).2).insert conn.scope
            ((server.state.scopeOf conn.scope).served id request conn.client response) }) := by
  have begun := rest.begin_new fresh request
  unfold ServerState.completeRequest
  have found : (server.state.beginRequest conn.scope id request
      conn.client).2.requestScopes[conn.scope]? =
        some ((server.state.scopeOf conn.scope).begin id request conn.client).2 :=
    TreeMap.getElem?_insert_self
  rw [found]
  have waiters : (((server.state.scopeOf conn.scope).begin id request conn.client).2.complete id
      response).1 = [conn.client] := by
    rw [begun]
    simp [RequestScopeState.complete]
  simp only [waiters]
  rfl

/-- A message for a connection whose queue is empty is queued, and written at once. -/
theorem send_idle {transport : Transport} {client : ClientId}
    (present : server.transports[client]? = some transport) (active : transport.active = true)
    (running : transport.writer = .running) (idle : transport.taken = transport.accepted.length)
    (message : ServerMessage) (disconnect : Bool) :
    server.send ⟨client, message, disconnect⟩ = server.setTransports
      (server.transports.insert client
        { transport with accepted := transport.accepted ++ [.message message] }) := by
  have room : ¬ clientQueueCapacity ≤ transport.accepted.length - transport.taken := by
    rw [idle, Nat.sub_self]
    decide
  simp [Server.send, Transports.tryDeliver, Transports.tryEnqueue, present, Transport.tryEnqueue,
    active, Transport.trySend, running, room]

theorem AtRest.query (rest : AtRest server thread conn) {id : RequestId}
    (fresh : (server.state.scopeOf conn.scope).seen id = false) (query : AgentStatusQuery) :
    ∃ next events, (daemon.onward server).Reaches next events ∧ AtRest next thread conn ∧
      ∃ response, next.state.scopeOf conn.scope = (server.state.scopeOf conn.scope).served id
        (.getAgentStatus id query) conn.client response := by
  obtain ⟨transport, present, active, running, idle⟩ := rest.transport
  let request : ClientMessage := .getAgentStatus id query
  let response : ServerMessage := .agentStatusResult id (server.state.queryAgentStatus query)
  let key : RequestKey := ⟨conn.scope, id⟩
  have begun := rest.begin_new fresh request
  -- The request is read, begun and answered by the thread.
  let first := server.goto thread (.beginning conn id request)
  have received : step server (.receive thread request) = some (first, []) := by
    simp [step, Server.receive, rest.serving, route, request, first]
  have firstAt := goto_handler server (.beginning conn id request) rest.serving
  let state := (server.state.beginRequest conn.scope id request conn.client).2
  let second := (first.setState state).goto thread (.reportingStatus conn id request)
  have began : step first (.begin thread) = some (second, []) := by
    have disposition : (first.state.beginRequest conn.scope id request conn.client).1 = .new :=
      congrArg Prod.fst begun
    simp only [step, Server.begin, firstAt, disposition, first]
    rfl
  have secondAt := goto_handler (first.setState state) (.reportingStatus conn id request) firstAt
  let third := second.goto thread (.completing conn key response)
  have reported : step second (.reportStatus thread) = some (third, []) := by
    simp only [step, Server.reportStatus, second, secondAt]
    rfl
  have thirdAt := goto_handler second (.completing conn key response) secondAt
  -- The answer is recorded and sent to the one waiter.
  let served := (server.state.scopeOf conn.scope).served id request conn.client response
  let recorded : ServerState := { server.state with
    requestScopes := (server.state.requestScopes.insert conn.scope
      ((server.state.scopeOf conn.scope).begin id request conn.client).2).insert conn.scope served }
  let outgoing : Outgoing := ⟨conn.client, response, true⟩
  let fourth := (third.setState recorded).goto thread (.delivering conn [outgoing])
  have completed : step third (.complete thread) =
      some (fourth, [.answered key response]) := by
    have stored : third.state.completeRequest key response = ([conn.client], recorded) :=
      completeRequest_served rest fresh request response
    simp only [step, Server.complete, thirdAt, stored, third]
    rfl
  have fourthAt := goto_handler (third.setState recorded) (.delivering conn [outgoing]) thirdAt
  let fifth := (fourth.send outgoing).goto thread (.delivering conn [])
  have delivered : step fourth (.deliver thread) = some (fifth, []) := by
    simp only [step, Server.deliver, fourth, fourthAt]
    rfl
  have fifthAt := goto_handler (fourth.send outgoing) (.delivering conn []) fourthAt
  let sixth := fifth.goto thread (.serving conn)
  have finished : step fifth (.deliver thread) = some (sixth, []) := by
    simp only [step, Server.deliver, fifth, fifthAt]
    rfl
  have sixthAt := goto_handler fifth (.serving conn) fifthAt
  -- The socket writer takes the one delivery that waits.
  let queued : Transport := { transport with
    accepted := transport.accepted ++ [.message response] }
  have queuedAt : sixth.transports = server.transports.insert conn.client queued :=
    congrArg Server.transports (@send_idle fourth _ _ present active running idle response true)
  let drained : Transport := { queued with taken := queued.taken + 1 }
  let last := sixth.setTransports (sixth.transports.insert conn.client drained)
  have written : step sixth (.writeSocket conn.client true) = some (last, []) := by
    have found : sixth.transports[conn.client]? = some queued := by
      rw [queuedAt]
      exact TreeMap.getElem?_insert_self
    have waits : queued.accepted[queued.taken]? = some (.message response) := by
      simp [queued, idle]
    simp only [step, Server.writeSocket, found]
    simp [waits, queued, running, deliveryMessage, last, drained]
  have same : (daemon.onward server).step = step := rfl
  have followed : (daemon.onward server).follow (fun _ _ => True) server
      (querySteps thread conn.client request) = some (last, [.answered key response]) := by
    simp [querySteps, Machine.follow, same, received, began, reported, completed, delivered,
      finished, written]
  have scope : last.state.scopeOf conn.scope = served := by
    have changed := @ServerState.scopeOf_insert state recorded conn.scope served rfl conn.scope
    rw [if_pos rfl] at changed
    exact changed
  refine ⟨last, _, (Machine.Run.start rfl).follow followed, ⟨sixthAt, ?_, ?_, ?_⟩, response, scope⟩
  · refine ⟨drained, TreeMap.getElem?_insert_self, active, running, ?_⟩
    simp [drained, queued, idle]
  · rw [scope]
    exact (rest.formed.begin ..).complete ..
  · intro other record found
    rw [scope] at found
    have kept := RequestScopeState.complete_subset found
    by_cases here : id = other
    · subst here
      rw [RequestScopeState.stored_self] at kept
      obtain ⟨old, -, rfl⟩ := Option.map_eq_some_iff.mp kept
      rfl
    · rw [RequestScopeState.stored_other here, begun, TreeMap.getElem?_insert,
        if_neg (by simpa using here)] at kept
      exact rest.answered other record kept

/-- A served query adds one answer to the scope, or the oldest one makes room for it. -/
theorem AtRest.served_cases (rest : AtRest server thread conn) {id : RequestId}
    (fresh : (server.state.scopeOf conn.scope).seen id = false) (request : ClientMessage)
    (response : ServerMessage) {scope served : RequestScopeState}
    (before : scope = server.state.scopeOf conn.scope)
    (after : served = scope.served id request conn.client response) :
    served.highestRequestId = some id ∧
      ((served.completedCount = scope.completedCount + 1 ∧
        ∀ other : RequestId, id ≠ other → served.records[other]? = scope.records[other]?) ∨
      (scope.completedCount = maxCachedRequestResultsPerScope ∧ ∃ oldest : RequestId,
        served.records[oldest]? = none ∧ (id ≠ oldest → scope.records[oldest]? ≠ none) ∧
          ∀ (other : RequestId) (record : RequestRecord), scope.records[other]? = some record →
            oldest.get ≤ other.get)) := by
  subst before after
  have begun := rest.begin_new fresh request
  let scope := server.state.scopeOf conn.scope
  let waiting : RequestScopeState := (scope.begin id request conn.client).2
  have formed : waiting.WellFormed := rest.formed.begin ..
  have records : waiting.records = scope.records.insert id ⟨request, none, [conn.client]⟩ := by
    simp only [waiting, scope, begun]
  have missing : scope.records[id]? = none := by
    by_contra present
    obtain ⟨record, found⟩ := Option.ne_none_iff_exists'.mp present
    rw [rest.formed.recorded_seen id record found] at fresh
    cases fresh
  have counted : waiting.completedCount = scope.completedCount := by
    unfold RequestScopeState.completedCount
    rw [records]
    refine RequestScopeState.countWhere_insert_pending rfl fun old found => ?_
    rw [missing] at found
    cases found
  have there : waiting.records[id]? = some ⟨request, none, [conn.client]⟩ := by
    rw [records, TreeMap.getElem?_insert_self]
  -- One answer more than before is stored, and none of the others is touched.
  have size : countWhere RequestScopeState.isCompleted (waiting.stored id response) =
      scope.completedCount + 1 := by
    rw [RequestScopeState.stored, there]
    simp only
    rw [countWhere_insert RequestScopeState.isCompleted rfl, ← counted]
    congr 1
    refine countWhere_erase_other RequestScopeState.isCompleted fun value found => ?_
    rw [there] at found
    cases found
    rfl
  have others (other : RequestId) (distinct : id ≠ other) :
      (waiting.stored id response)[other]? = scope.records[other]? := by
    rw [RequestScopeState.stored_other distinct, records, TreeMap.getElem?_insert,
      if_neg (by simpa using distinct)]
  have highest : ((waiting.complete id response).2).highestRequestId = some id := by
    unfold RequestScopeState.complete
    rw [there]
    simp only [RequestScopeState.evictOldResults, waiting, scope, begun]
  refine ⟨highest, ?_⟩
  rcases RequestScopeState.complete_cases formed id response with
    ⟨same, -⟩ | ⟨oldest, record, found, completed, least, full, same⟩
  · left
    refine ⟨?_, fun other distinct => ?_⟩
    · exact (congrArg (countWhere RequestScopeState.isCompleted) same).trans size
    · exact (congrArg (·[other]?) same).trans (others other distinct)
  · right
    have erased := countWhere_erase RequestScopeState.isCompleted found completed
    have left : countWhere RequestScopeState.isCompleted ((waiting.stored id response).erase oldest) =
        maxCachedRequestResultsPerScope := by
      rw [← same]
      exact full
    have total : scope.completedCount = maxCachedRequestResultsPerScope := by omega
    refine ⟨total, oldest, ?_, fun distinct => ?_, fun other kept present => ?_⟩
    · refine (congrArg (·[oldest]?) same).trans ?_
      simp
    · rw [← others oldest distinct, found]
      exact nofun
    · have distinct : id ≠ other := by
        rintro rfl
        rw [missing] at present
        cases present
      refine least other kept ?_ (rest.answered other kept present)
      rw [others other distinct]
      exact present

theorem AtRest.below (rest : AtRest server thread conn) {id top : RequestId}
    (highest : (server.state.scopeOf conn.scope).highestRequestId = some top)
    (stored : (server.state.scopeOf conn.scope).records[id]? ≠ none) : id.get ≤ top.get := by
  obtain ⟨record, found⟩ := Option.ne_none_iff_exists'.mp stored
  simpa [RequestScopeState.seen, highest] using rest.formed.recorded_seen id record found

/-- However many answers a scope may hold, queries enough push out the oldest one. -/
theorem AtRest.outgrown (room : Nat) (rest : AtRest server thread conn) {oldest top : RequestId}
    (held : (server.state.scopeOf conn.scope).completedCount + room =
      maxCachedRequestResultsPerScope)
    (stored : (server.state.scopeOf conn.scope).records[oldest]? ≠ none)
    (least : ∀ (other : RequestId) (record : RequestRecord),
      (server.state.scopeOf conn.scope).records[other]? = some record → oldest.get ≤ other.get)
    (highest : (server.state.scopeOf conn.scope).highestRequestId = some top)
    (spare : top.get + room + 1 < u64Bound) (query : AgentStatusQuery) :
    ∃ last events, (daemon.onward server).Reaches last events ∧
      (last.state.scopeOf conn.scope).records[oldest]? = none := by
  induction room generalizing server top with
  | zero =>
    let id : RequestId := ⟨⟨top.get + 1, by omega, by omega⟩⟩
    have follows : id.get = top.get + 1 := rfl
    have fresh : (server.state.scopeOf conn.scope).seen id = false := by
      simp [RequestScopeState.seen, highest, follows]
    have below : oldest.get ≤ top.get := rest.below highest stored
    obtain ⟨next, events, run, rested, response, same⟩ := rest.query fresh query
    refine ⟨next, events, run, ?_⟩
    obtain ⟨-, ⟨more, -⟩ | ⟨-, evicted, gone, known, first⟩⟩ :=
      rest.served_cases fresh _ response rfl same
    · have bound := rested.formed.completed_le
      omega
    · obtain ⟨record, present⟩ := Option.ne_none_iff_exists'.mp stored
      have early := first oldest record present
      have distinct : id ≠ evicted := by
        rintro rfl
        omega
      obtain ⟨other, there⟩ := Option.ne_none_iff_exists'.mp (known distinct)
      have late := least evicted other there
      rwa [RequestId.ext_get (Nat.le_antisymm early late)] at gone
  | succ room ih =>
    let id : RequestId := ⟨⟨top.get + 1, by omega, by omega⟩⟩
    have follows : id.get = top.get + 1 := rfl
    have fresh : (server.state.scopeOf conn.scope).seen id = false := by
      simp [RequestScopeState.seen, highest, follows]
    have below : oldest.get ≤ top.get := rest.below highest stored
    obtain ⟨next, events, run, rested, response, same⟩ := rest.query fresh query
    obtain ⟨raised, ⟨more, kept⟩ | ⟨full, -⟩⟩ := rest.served_cases fresh _ response rfl same
    · have distinct : id ≠ oldest := by
        rintro same
        rw [← same] at below
        omega
      have first : ∀ (other : RequestId) (record : RequestRecord),
          (next.state.scopeOf conn.scope).records[other]? = some record →
            oldest.get ≤ other.get := by
        intro other record found
        by_cases here : id = other
        · rw [← here]
          omega
        · rw [kept other here] at found
          exact least other record found
      obtain ⟨last, further, onward, gone⟩ := ih rested (by omega) (by rwa [kept oldest distinct])
        first raised (by omega)
      exact ⟨last, _, run.onward onward, gone⟩
    · omega

end

end Mult.Daemon
