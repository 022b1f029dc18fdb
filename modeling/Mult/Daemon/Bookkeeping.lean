import Mult.Daemon.Attended

/-! What a step does to the rest of the server's books: the request scopes, the agent records
and the main thread.
-/

set_option autoImplicit false

namespace Mult.Daemon
open Foundation Protocol
open Std (TreeMap)

/-! ## Request scopes -/

/-- Calls on one scope whose completions are all among the answers. -/
inductive ScopeRun (answers : RequestId → ServerMessage → Prop) (scope : RequestScopeState) :
    RequestScopeState → Prop where
  | start : ScopeRun answers scope scope
  | begun {later : RequestScopeState} (id : RequestId) (request : ClientMessage)
      (client : ClientId) : ScopeRun answers scope later →
      ScopeRun answers scope (later.begin id request client).2
  | completed {later : RequestScopeState} {id : RequestId} {response : ServerMessage} :
      ScopeRun answers scope later → answers id response →
      ScopeRun answers scope (later.complete id response).2
  | forgot {later : RequestScopeState} (client : ClientId) : ScopeRun answers scope later →
      ScopeRun answers scope (later.removeClient client)

namespace ScopeRun

variable {answers more : RequestId → ServerMessage → Prop} {first second third : RequestScopeState}

theorem mono (included : ∀ id response, answers id response → more id response)
    (run : ScopeRun answers first second) : ScopeRun more first second := by
  induction run with
  | start => exact .start
  | begun id request client _ ih => exact ih.begun id request client
  | completed _ answered ih => exact ih.completed (included _ _ answered)
  | forgot client _ ih => exact ih.forgot client

theorem trans (earlier : ScopeRun answers first second) (later : ScopeRun answers second third) :
    ScopeRun answers first third := by
  induction later with
  | start => exact earlier
  | begun id request client _ ih => exact ih.begun id request client
  | completed _ answered ih => exact ih.completed answered
  | forgot client _ ih => exact ih.forgot client

end ScopeRun

namespace ServerState

/-- The records of a scope, empty before its first request. -/
def scopeOf (state : ServerState) (scope : ClientScopeId) : RequestScopeState :=
  state.requestScopes.getD scope .new

theorem scopeOf_insert {state after : ServerState} {scope : ClientScopeId}
    {changed : RequestScopeState}
    (scopes : after.requestScopes = state.requestScopes.insert scope changed)
    (other : ClientScopeId) :
    after.scopeOf other = if scope = other then changed else state.scopeOf other := by
  unfold scopeOf
  rw [scopes, TreeMap.getD_insert]
  simp only [Std.LawfulEqCmp.compare_eq_iff_eq]

/-- Every scope goes on by calls whose completions the step reports. -/
def Evolves (before after : ServerState) (events : List Event) : Prop :=
  ∀ scope, ScopeRun (fun id response => .answered ⟨scope, id⟩ response ∈ events)
    (before.scopeOf scope) (after.scopeOf scope)

theorem Evolves.of_same {before after : ServerState} {events : List Event}
    (same : after.requestScopes = before.requestScopes) : Evolves before after events := by
  intro scope
  unfold scopeOf
  rw [same]
  exact .start

theorem Evolves.mono {before after : ServerState} {events more : List Event}
    (included : events ⊆ more) (evolves : Evolves before after events) :
    Evolves before after more :=
  fun scope => (evolves scope).mono fun _ _ answered => included answered

theorem Evolves.trans {first second third : ServerState} {events more : List Event}
    (earlier : Evolves first second events) (later : Evolves second third more) :
    Evolves first third (events ++ more) :=
  fun scope => .trans ((earlier.mono (List.subset_append_left events more)) scope)
    ((later.mono (List.subset_append_right events more)) scope)

theorem Evolves.insert {state after : ServerState} {events : List Event} {scope : ClientScopeId}
    {changed : RequestScopeState}
    (scopes : after.requestScopes = state.requestScopes.insert scope changed)
    (run : ScopeRun (fun id response => .answered ⟨scope, id⟩ response ∈ events)
      (state.scopeOf scope) changed) : Evolves state after events := by
  intro other
  rw [scopeOf_insert scopes]
  split
  · next same => exact same ▸ run
  · exact .start

theorem allocateScope_evolves {state after : ServerState} {candidates : List ClientScopeId}
    {scope : ClientScopeId} (allocated : state.allocateScope candidates = some (scope, after)) :
    Evolves state after [] := by
  simp only [allocateScope, Option.map_eq_some_iff] at allocated
  obtain ⟨vacant, chosen, same⟩ := allocated
  cases same
  have absent : state.requestScopes[scope]? = none := by
    simpa [contains_eq_false_iff] using List.find?_some chosen
  refine .insert rfl ?_
  unfold scopeOf
  rw [TreeMap.getD_eq_getD_getElem?, absent]
  exact .start

theorem resumeOrAllocateScope_evolves {state after : ServerState} {resume : Option ClientScopeId}
    {candidates : List ClientScopeId} {answer : ClientScopeId × Bool}
    (found : state.resumeOrAllocateScope resume candidates = some (answer, after)) :
    Evolves state after [] := by
  unfold resumeOrAllocateScope at found
  split at found
  · cases found
    exact .of_same rfl
  · obtain ⟨⟨scope, grown⟩, allocated, same⟩ := Option.map_eq_some_iff.mp found
    cases same
    exact allocateScope_evolves allocated

theorem beginRequest_evolves (state : ServerState) (scope : ClientScopeId) (requestId : RequestId)
    (request : ClientMessage) (client : ClientId) :
    Evolves state (state.beginRequest scope requestId request client).2 [] :=
  .insert rfl (.begun requestId request client .start)

theorem completeRequest_evolves (state : ServerState) (key : RequestKey)
    (response : ServerMessage) :
    Evolves state (state.completeRequest key response).2 [.answered key response] := by
  unfold completeRequest
  split
  · exact .of_same rfl
  · next present found =>
    have same : state.scopeOf key.scope = present := by
      unfold scopeOf
      rw [TreeMap.getD_eq_getD_getElem?, found]
      rfl
    exact .insert rfl (.completed (same ▸ .start) List.mem_cons_self)

theorem completeAll_evolves (state : ServerState) (disconnect : Bool)
    (responses : List (RequestKey × ServerMessage)) :
    Evolves state (state.completeAll disconnect responses).2
      (responses.map fun (key, response) => .answered key response) := by
  induction responses generalizing state with
  | nil => exact .of_same rfl
  | cons first rest ih => exact (completeRequest_evolves state first.1 first.2).trans (ih _)

theorem removeClient_evolves (state : ServerState) (client : ClientId) :
    Evolves state (state.removeClient client) [] := by
  intro scope
  unfold scopeOf removeClient
  simp only [TreeMap.getD_eq_getD_getElem?, TreeMap.getElem?_map]
  cases state.requestScopes[scope]? with
  | none => exact .start
  | some requests => exact .forgot client .start

end ServerState

/-- What becomes of the agent records, a publication apart. -/
inductive AgentStep (before after : ServerState) : Prop where
  | kept : after.agentStates = before.agentStates → AgentStep before after
  | reported (record : AgentStatusRecord) :
      after.agentStates = (before.updateAgentStatus record).2.agentStates → AgentStep before after
  | exited (identity : SessionIdentity) (metadata : AgentSessionMetadata) (exit : ExitInfo) :
      after.agentStates = (before.recordAgentExit identity metadata exit).agentStates →
      AgentStep before after

/-- A step that publishes no session and does not move the main thread. -/
structure KeepsBooks (server next : Server) (events : List Event) : Prop where
  scopes : server.state.Evolves next.state events
  agents : AgentStep server.state next.state
  shuttingDown : next.state.shuttingDown = server.state.shuttingDown
  main : next.main = server.main

inductive Books (server next : Server) (events : List Event) : Action → Prop where
  | kept {action : Action} : KeepsBooks server next events → Books server next events action
  | published {thread : Nat} {conn : Connection} {request : CreateRequest} {session : SessionId}
      {ref : PaneRef} {pane : Pane} :
      server.handlers[thread]? = some (.creating conn request (.publish session ref)) →
      server.panes[ref]? = some pane →
      server.state.publishReservedSession session ref pane.state.identity pane.state.agent =
        .ok next.state →
      next.main = server.main → Books server next events (.createPublish thread)
  | began : server.main = .accepting →
      next = { server with
        state := { server.state with shuttingDown := true }
        main := .stopping server.state.sessions.values } →
      Books server next events .beginShutdown
  | passed {foreground : Option Nat} (ref : PaneRef) (rest : List PaneRef) :
      server.main = .stopping (ref :: rest) → next.main = .stopping rest →
      next.state = server.state → Driven next ref →
      Books server next events (.shutdown foreground)
  | drained {foreground : Option Nat} : server.main = .stopping [] →
      next = { server with main := .draining } → Books server next events (.shutdown foreground)

section
variable {server next : Server} {events : List Event} {thread : Nat} {ref : PaneRef}

theorem KeepsBooks.of_same (state : next.state = server.state) (main : next.main = server.main) :
    KeepsBooks server next events :=
  ⟨.of_same (by rw [state]), .kept (by rw [state]), by rw [state], main⟩

theorem KeepsBooks.of_scopes (scopes : server.state.Evolves next.state events)
    (tables : SameTables server.state next.state)
    (agents : next.state.agentStates = server.state.agentStates)
    (main : next.main = server.main) : KeepsBooks server next events :=
  ⟨scopes, .kept agents, tables.shuttingDown, main⟩

end

/-! ## Every step does one of these -/

namespace Server

variable {server next : Server} {events : List Event} {thread : Nat} {ref : PaneRef}

theorem completeRequest_agents (state : ServerState) (key : RequestKey) (response : ServerMessage) :
    (state.completeRequest key response).2.agentStates = state.agentStates := by
  unfold ServerState.completeRequest
  split <;> rfl

theorem completeAll_agents (state : ServerState) (disconnect : Bool)
    (responses : List (RequestKey × ServerMessage)) :
    (state.completeAll disconnect responses).2.agentStates = state.agentStates := by
  induction responses generalizing state with
  | nil => rfl
  | cons first rest ih => exact (ih _).trans (completeRequest_agents state first.1 first.2)

theorem accept_books (stepped : server.accept = some (next, events)) :
    KeepsBooks server next events := by
  unfold accept at stepped
  split at stepped
  · next client state _ allocated =>
    cases stepped
    unfold ServerState.allocateClientId at allocated
    split at allocated
    · cases allocated
      exact ⟨.of_same rfl, .kept rfl, rfl, rfl⟩
    · cases allocated
  · cases stepped

theorem receiveHello_books {message : ClientMessage} {candidates : List ClientScopeId}
    (stepped : server.receiveHello thread message candidates = some (next, events)) :
    KeepsBooks server next events := by
  unfold receiveHello at stepped
  split at stepped
  · split at stepped
    · split at stepped
      · cases stepped
        exact .of_same rfl rfl
      · split at stepped
        · cases stepped
          exact .of_same rfl rfl
        · next scope resumed state found =>
          have agents : state.agentStates = server.state.agentStates := by
            unfold ServerState.resumeOrAllocateScope ServerState.allocateScope at found
            split at found
            · cases found
              rfl
            · simp only [Option.map_map, Option.map_eq_some_iff, Function.comp] at found
              obtain ⟨_, -, same⟩ := found
              cases same
              rfl
          cases stepped
          exact .of_scopes (ServerState.resumeOrAllocateScope_evolves found)
            (ServerState.resumeOrAllocateScope_same found) agents rfl
    · cases stepped
      exact .of_same rfl rfl
  · cases stepped

theorem receive_books {message : ClientMessage}
    (stepped : server.receive thread message = some (next, events)) : KeepsBooks server next events := by
  unfold receive at stepped
  split at stepped
  · cases stepped
    cases message <;> exact .of_same rfl rfl
  · cases stepped

theorem begin_books (stepped : server.begin thread = some (next, events)) :
    KeepsBooks server next events := by
  unfold begin at stepped
  split at stepped
  · cases stepped
    exact .of_scopes (ServerState.beginRequest_evolves _ _ _ _ _) (ServerState.beginRequest_same ..) rfl rfl
  · cases stepped

theorem complete_books (stepped : server.complete thread = some (next, events)) :
    KeepsBooks server next events := by
  unfold complete at stepped
  split at stepped
  · cases stepped
    exact .of_scopes (ServerState.completeRequest_evolves _ _ _) (ServerState.completeRequest_same ..)
      (completeRequest_agents ..) rfl
  · cases stepped

theorem reportStatus_books (stepped : server.reportStatus thread = some (next, events)) :
    KeepsBooks server next events := by
  unfold reportStatus at stepped
  split at stepped
  · split at stepped
    · next record _ =>
      cases stepped
      have scopes : (server.state.updateAgentStatus record).2.requestScopes =
          server.state.requestScopes := by
        unfold ServerState.updateAgentStatus
        repeat' split
        all_goals rfl
      exact ⟨.of_same scopes, .reported record rfl,
        (ServerState.updateAgentStatus_same ..).shuttingDown, rfl⟩
    · cases stepped
      exact .of_same rfl rfl
    · cases stepped
  · cases stepped

theorem remove_books (stepped : server.remove thread = some (next, events)) :
    KeepsBooks server next events := by
  unfold remove at stepped
  split at stepped
  · cases stepped
    exact .of_scopes (ServerState.removeClient_evolves _ _) (ServerState.removeClient_same ..) rfl rfl
  · cases stepped

theorem endSocket_books {client : ClientId}
    (stepped : server.endSocket client = some (next, events)) : KeepsBooks server next events := by
  unfold endSocket at stepped
  split at stepped
  · split at stepped
    · cases stepped
      exact .of_scopes (ServerState.removeClient_evolves _ _) (ServerState.removeClient_same ..)
        rfl rfl
    · cases stepped
  · cases stepped

theorem reserveSession_books {state after : ServerState} {requestedId : Option SessionId}
    {identity : SessionIdentity} {outcome : Except Rejection SessionId}
    (reserved : state.reserveSession requestedId identity = (outcome, after)) :
    after.requestScopes = state.requestScopes ∧ after.agentStates = state.agentStates ∧
      after.shuttingDown = state.shuttingDown := by
  have allocated {answer : Except Rejection SessionId} {middle : ServerState}
      (taken : state.requestedOrAllocated requestedId = (answer, middle)) :
      middle.requestScopes = state.requestScopes ∧ middle.agentStates = state.agentStates ∧
        middle.shuttingDown = state.shuttingDown := by
    unfold ServerState.requestedOrAllocated ServerState.allocateSessionId at taken
    split at taken <;> (cases taken; exact ⟨rfl, rfl, rfl⟩)
  unfold ServerState.reserveSession at reserved
  split at reserved
  · cases reserved
    exact ⟨rfl, rfl, rfl⟩
  · split at reserved
    · cases reserved
      exact ⟨rfl, rfl, rfl⟩
    · split at reserved
      · next taken =>
        cases reserved
        exact allocated taken
      · next taken =>
        obtain ⟨scopes, agents, shuttingDown⟩ := allocated taken
        split at reserved <;> (cases reserved; exact ⟨scopes, agents, shuttingDown⟩)

theorem createReserve_books (stepped : server.createReserve thread = some (next, events)) :
    KeepsBooks server next events := by
  unfold createReserve at stepped
  split at stepped
  · split at stepped <;>
    · next reserved =>
      cases stepped
      obtain ⟨scopes, agents, shuttingDown⟩ := reserveSession_books reserved
      exact ⟨.of_same scopes, .kept agents, shuttingDown, rfl⟩
  · cases stepped

theorem createRelease_books (stepped : server.createRelease thread = some (next, events)) :
    KeepsBooks server next events := by
  unfold createRelease at stepped
  split at stepped
  · cases stepped
    exact ⟨.of_same rfl, .kept rfl, rfl, rfl⟩
  · cases stepped

theorem refuseAttach_books {conn : Connection} {request : AttachRequest}
    {cached : Option AttachmentLease} {fresh retried : AttachError} :
    KeepsBooks server (server.refuseAttach thread conn request cached fresh retried).1
      (server.refuseAttach thread conn request cached fresh retried).2 := by
  cases cached with
  | some lease => exact .of_same rfl rfl
  | none =>
    exact .of_scopes (ServerState.completeRequest_evolves _ _ _) (ServerState.completeRequest_same ..)
      (completeRequest_agents ..) rfl

theorem rebind_books {conn : Connection} {request : AttachRequest} {lease : AttachmentLease}
    {pane : Pane} {leader : GroupLeader} :
    KeepsBooks server (server.rebind thread conn request ref pane lease leader).1
      (server.rebind thread conn request ref pane lease leader).2 := by
  unfold rebind
  cases pane.state.owner with
  | none => exact .of_same rfl rfl
  | some previous =>
    simp only
    split <;> exact .of_same rfl rfl

theorem grant_books {conn : Connection} {request : AttachRequest} {lease : AttachmentLease}
    {pane : Pane} {leader : GroupLeader} (following : Option AttachmentLease) :
    let allocated := server.setState { server.state with nextLease := following }
    KeepsBooks server (allocated.grant thread conn request ref pane lease leader).1
      (allocated.grant thread conn request ref pane lease leader).2 := by
  intro allocated
  have scopes (response : ServerMessage) (owner : AttachmentOwner) :
      allocated.state.Evolves
        (allocated.state.completeRequest ⟨conn.scope, request.requestId⟩ response).2
        [.answered ⟨conn.scope, request.requestId⟩ response, .granted ref owner] :=
    (ServerState.completeRequest_evolves _ _ _).mono (by simp)
  have closing (response : ServerMessage) : (allocated.state.completeRequest
      ⟨conn.scope, request.requestId⟩ response).2.shuttingDown = server.state.shuttingDown :=
    (ServerState.completeRequest_same allocated.state _ response).shuttingDown
  unfold grant
  cases pane.state.owner <;>
    exact ⟨scopes _ _, .kept (completeRequest_agents _ _ _), closing _, rfl⟩

theorem attachCommit_books {failure : Option String} {leader : GroupLeader}
    (stepped : server.attachCommit thread failure leader = some (next, events)) :
    KeepsBooks server next events := by
  have done {result : Server × List Event} (books : KeepsBooks server result.1 result.2)
      (same : some result = some (next, events)) : KeepsBooks server next events := by
    rw [Option.some.inj same] at books
    exact books
  unfold attachCommit at stepped
  split at stepped
  · split at stepped
    · exact done refuseAttach_books stepped
    · split at stepped
      · exact done refuseAttach_books stepped
      · obtain ⟨pane, -, stepped⟩ := Option.bind_eq_some_iff.mp stepped
        split at stepped
        · exact done refuseAttach_books stepped
        · split at stepped
          · exact done refuseAttach_books stepped
          · split at stepped
            · exact done refuseAttach_books stepped
            · simp only at stepped
              split at stepped
              · exact done refuseAttach_books stepped
              · split at stepped
                · exact done rebind_books stepped
                · split at stepped
                  · cases stepped
                    exact .of_scopes (ServerState.completeRequest_evolves _ _ _)
                      (ServerState.completeRequest_same ..) (completeRequest_agents ..) rfl
                  · next allocated =>
                    unfold ServerState.allocateLease at allocated
                    split at allocated
                    · cases allocated
                    · cases allocated
                      exact done (grant_books _) stepped
  · cases stepped

theorem replay_books (stepped : server.replay thread = some (next, events)) :
    KeepsBooks server next events := by
  unfold replay at stepped
  split at stepped
  · next target targets _ =>
    split at stepped
    · cases stepped
      exact .of_same rfl rfl
    · cases stepped
      cases target.displaced <;> exact .of_same rfl rfl
  · obtain ⟨pane, -, stepped⟩ := Option.bind_eq_some_iff.mp stepped
    cases stepped
    exact .of_same rfl rfl
  · cases stepped

theorem withLease_books {conn : Connection} {paneId : PaneId} {lease : AttachmentLease}
    {operation : LeaseOperation} {run : PaneRef → Pane → Server × List Event}
    (frame : ∀ ref pane, (run ref pane).1.state = server.state ∧
      (run ref pane).1.main = server.main)
    (stepped : server.withLease thread conn paneId lease operation run = some (next, events)) :
    KeepsBooks server next events := by
  rcases withLease_cases stepped with ⟨reason, rfl, -⟩ | ⟨ref, pane, -, rfl, -⟩
  · exact .of_same rfl rfl
  · exact .of_same (frame ref pane).1 (frame ref pane).2

theorem validateInput_books (stepped : server.validateInput thread = some (next, events)) :
    KeepsBooks server next events := by
  unfold validateInput at stepped
  split at stepped
  · exact withLease_books (fun _ _ => ⟨rfl, rfl⟩) stepped
  · cases stepped

theorem enqueueInput_books (stepped : server.enqueueInput thread = some (next, events)) :
    KeepsBooks server next events := by
  unfold enqueueInput at stepped
  split at stepped
  · obtain ⟨pane, -, stepped⟩ := Option.bind_eq_some_iff.mp stepped
    split at stepped <;> (cases stepped; exact .of_same rfl rfl)
  · cases stepped

theorem resizePane_books {failure : Option String}
    (stepped : server.resizePane thread failure = some (next, events)) :
    KeepsBooks server next events := by
  unfold resizePane at stepped
  split at stepped
  · exact withLease_books (fun _ _ => ⟨rfl, rfl⟩) stepped
  · cases stepped

theorem detach_books (stepped : server.detach thread = some (next, events)) :
    KeepsBooks server next events := by
  unfold detach at stepped
  split at stepped
  · exact withLease_books (fun _ _ => ⟨rfl, rfl⟩) stepped
  · cases stepped

theorem stopPane_books (stepped : server.stopPane thread = some (next, events)) :
    KeepsBooks server next events := by
  unfold stopPane at stepped
  split at stepped
  · obtain ⟨pane, -, stepped⟩ := Option.bind_eq_some_iff.mp stepped
    simp only at stepped
    repeat' split at stepped
    all_goals (cases stepped; exact .of_same rfl rfl)
  · cases stepped

theorem startStop_books {foreground : Option Nat}
    (stepped : server.startStop thread foreground = some (next, events)) :
    KeepsBooks server next events := by
  unfold startStop at stepped
  split at stepped
  · obtain ⟨⟨middle, seen⟩, started, same⟩ := Option.map_eq_some_iff.mp stepped
    cases same
    obtain ⟨pane, -, ⟨-, rfl, -⟩ | ⟨-, -, ⟨group, rfl⟩, -⟩⟩ := startStopIfNeeded_cases started <;>
      exact .of_same rfl rfl
  · cases stepped

theorem beginShutdown_books (stepped : server.beginShutdown = some (next, events)) :
    Books server next events .beginShutdown := by
  unfold beginShutdown at stepped
  split at stepped
  · next accepting =>
    cases stepped
    exact .began accepting rfl
  · cases stepped

/-- The main thread goes on once the pane it came to needs no termination of its own. -/
theorem shutdownStep_books {foreground : Option Nat}
    (stepped : server.shutdownStep foreground = some (next, events)) :
    Books server next events (.shutdown foreground) := by
  unfold shutdownStep at stepped
  split at stepped
  · next ref rest stopping =>
    obtain ⟨⟨middle, seen⟩, started, same⟩ := Option.map_eq_some_iff.mp stepped
    cases same
    obtain ⟨pane, found, ⟨idle, rfl, -⟩ | ⟨-, -, ⟨group, rfl⟩, -⟩⟩ :=
      startStopIfNeeded_cases started
    · exact .passed ref rest stopping rfl rfl ⟨pane, found, idle⟩
    · refine .passed ref rest stopping rfl rfl ?_
      unfold Driven
      simp only [setPane]
      rw [List.getElem?_set_self (List.getElem?_eq_some_iff.mp found).1]
      exact ⟨_, rfl, Bool.or_true _⟩
  · next stopping =>
    cases stepped
    exact .drained stopping rfl
  · cases stepped

theorem failPendingStops_books (server : Server) (pane : Pane) (message : String) :
    KeepsBooks server (server.failPendingStops pane message).2.1
      (server.failPendingStops pane message).2.2.2 := by
  unfold failPendingStops
  exact .of_scopes (ServerState.completeAll_evolves _ _ _) (ServerState.completeAll_same ..)
    (completeAll_agents ..) rfl

theorem removeSessionIfSame_books (state : ServerState) (session : SessionId) :
    (state.removeSessionIfSame session ref).requestScopes = state.requestScopes ∧
      (state.removeSessionIfSame session ref).agentStates = state.agentStates ∧
      (state.removeSessionIfSame session ref).shuttingDown = state.shuttingDown := by
  unfold ServerState.removeSessionIfSame
  split <;> exact ⟨rfl, rfl, rfl⟩

theorem recordAgentExit_books (state : ServerState) (identity : SessionIdentity)
    (metadata : AgentSessionMetadata) (exit : ExitInfo) :
    (state.recordAgentExit identity metadata exit).requestScopes = state.requestScopes := by
  unfold ServerState.recordAgentExit
  repeat' split
  all_goals rfl

theorem maybeFinalize_books {pane after : Pane} {outgoing : List Outgoing} {server' : Server}
    (finalized : server.maybeFinalize ref pane = some (outgoing, server', after, events)) :
    KeepsBooks server server' events := by
  obtain ⟨_, _, -, -, -, -, -, -, -, tables, -⟩ := maybeFinalize_some finalized
  unfold maybeFinalize at finalized
  split at finalized
  · cases finalized
  · next exit _ =>
    split at finalized
    · cases finalized
    · cases finalized
      have agents (state : ServerState) (responses : List (RequestKey × ServerMessage)) :
          ((state.removeSessionIfSame pane.state.session ref).completeAll true
            responses).2.agentStates = state.agentStates :=
        (completeAll_agents ..).trans (removeSessionIfSame_books ..).2.1
      refine ⟨.trans (.of_same ?_) (ServerState.completeAll_evolves _ _ _), ?_,
        tables.shuttingDown.trans (removeSessionIfSame_books ..).2.2, rfl⟩
      · rw [(removeSessionIfSame_books ..).1]
        cases pane.state.agent with
        | none => rfl
        | some metadata => exact recordAgentExit_books ..
      · cases pane.state.agent with
        | none => exact .kept (agents _ _)
        | some metadata => exact .exited pane.state.identity metadata exit (agents _ _)

theorem drive_books {position : Nat} {input : DriverInput}
    (stepped : server.drive ref position input = some (next, events)) :
    KeepsBooks server next events := by
  unfold drive at stepped
  rw [Option.bind_eq_some_iff] at stepped
  obtain ⟨pane, -, stepped⟩ := stepped
  rw [Option.bind_eq_some_iff] at stepped
  obtain ⟨driver, -, stepped⟩ := stepped
  simp only at stepped
  split at stepped
  case h_9 message _ =>
    split at stepped
    · cases stepped
      obtain ⟨scopes, agents, closing, main⟩ := failPendingStops_books server pane message
      exact ⟨scopes, agents, closing, main⟩
    · cases stepped
  all_goals first
    | cases stepped; done
    | cases stepped; exact .of_same rfl rfl
    | split at stepped
      · cases stepped; exact .of_same rfl rfl
      · cases stepped

theorem read_books {bytes : Bytes} (stepped : server.read ref bytes = some (next, events)) :
    KeepsBooks server next events := by
  unfold read at stepped
  obtain ⟨pane, -, stepped⟩ := Option.bind_eq_some_iff.mp stepped
  split at stepped
  · split at stepped
    · cases stepped
      exact .of_same rfl rfl
    · next sequence state _ =>
      cases stepped
      cases ownerOutput state sequence bytes <;> exact .of_same rfl rfl
  · cases stepped

theorem readerStep_books (stepped : server.readerStep ref = some (next, events)) :
    KeepsBooks server next events := by
  unfold readerStep at stepped
  obtain ⟨pane, -, stepped⟩ := Option.bind_eq_some_iff.mp stepped
  split at stepped
  · split at stepped
    · cases stepped
    · cases stepped
      exact .of_same rfl rfl
  · split at stepped
    · cases stepped
    · split at stepped
      · cases stepped
        exact .of_same rfl rfl
      · next finalized =>
        cases stepped
        obtain ⟨scopes, agents, closing, main⟩ := maybeFinalize_books finalized
        exact ⟨scopes, agents, closing, main⟩
  · cases stepped
    exact .of_same rfl rfl
  · cases stepped
    exact .of_same rfl rfl
  · cases stepped

theorem waiterStep_books {input : WaitInput}
    (stepped : server.waiterStep ref input = some (next, events)) :
    KeepsBooks server next events := by
  unfold waiterStep at stepped
  rw [Option.bind_eq_some_iff] at stepped
  obtain ⟨pane, -, stepped⟩ := stepped
  split at stepped
  case h_3 message _ =>
    split at stepped
    · cases stepped
    · cases stepped
      obtain ⟨scopes, agents, closing, main⟩ := failPendingStops_books server pane
        s!"failed to wait for PTY child: {message}"
      exact ⟨scopes, agents, closing, main⟩
  case h_6 =>
    split at stepped
    · cases stepped
    · split at stepped
      · cases stepped
        exact .of_same rfl rfl
      · next finalized =>
        cases stepped
        obtain ⟨scopes, agents, closing, main⟩ := maybeFinalize_books finalized
        exact ⟨scopes, agents, closing, main⟩
  all_goals first
    | cases stepped; done
    | cases stepped; exact .of_same rfl rfl
    | split at stepped
      · cases stepped
      · cases stepped; exact .of_same rfl rfl

theorem probe_books {leader : GroupLeader}
    (stepped : server.probe ref leader = some (next, events)) : KeepsBooks server next events := by
  unfold probe at stepped
  rw [Option.bind_eq_some_iff] at stepped
  obtain ⟨pane, -, stepped⟩ := stepped
  split at stepped
  · cases stepped
  · cases stepped
    exact .of_same rfl rfl
  · split at stepped
    · cases stepped
    · cases refreshed : pane.state.refreshForegroundProcessIfChanged leader with
      | mk changed shown =>
        rw [refreshed] at stepped
        cases changed with
        | none =>
          cases stepped
          exact .of_same rfl rfl
        | some process =>
          have state := (deliverForegroundProcess_frame server shown process).2.1
          have main : (server.deliverForegroundProcess shown process).main = server.main := by
            unfold deliverForegroundProcess
            split <;> rfl
          cases stepped
          exact .of_same state main

theorem ptyWriterStep_books {written : Bool}
    (stepped : server.ptyWriterStep ref written = some (next, events)) :
    KeepsBooks server next events := by
  unfold ptyWriterStep at stepped
  obtain ⟨pane, -, stepped⟩ := Option.bind_eq_some_iff.mp stepped
  split at stepped
  · split at stepped
    · cases stepped
      exact .of_same rfl rfl
    · obtain ⟨_, -, same⟩ := Option.map_eq_some_iff.mp stepped
      cases same
      exact .of_same rfl rfl
  · split at stepped <;> (cases stepped; exact .of_same rfl rfl)
  · cases stepped
    exact .of_same rfl rfl
  · cases stepped

theorem createResolve_books (stepped : server.createResolve thread = some (next, events)) :
    KeepsBooks server next events := by
  unfold createResolve at stepped
  split at stepped
  · split at stepped
    · cases stepped
      exact .of_same rfl rfl
    · split at stepped
      · obtain ⟨pane, -, stepped⟩ := Option.bind_eq_some_iff.mp stepped
        cases stepped
        exact .of_same rfl rfl
      · obtain ⟨pane, -, stepped⟩ := Option.bind_eq_some_iff.mp stepped
        cases stepped
        exact .of_same rfl rfl
      · split at stepped <;> (cases stepped; exact .of_same rfl rfl)
  · cases stepped

theorem createPublish_books (stepped : server.createPublish thread = some (next, events)) :
    Books server next events (.createPublish thread) := by
  unfold createPublish at stepped
  split at stepped
  · next found =>
    obtain ⟨pane, locked, stepped⟩ := Option.bind_eq_some_iff.mp stepped
    split at stepped
    · cases stepped
      exact .kept (.of_same rfl rfl)
    · next published =>
      cases stepped
      exact .published found (lockPane_eq_some locked).1 published rfl
  · cases stepped

theorem createDiscard_books (stepped : server.createDiscard thread = some (next, events)) :
    KeepsBooks server next events := by
  unfold createDiscard at stepped
  split at stepped
  · obtain ⟨pane, -, stepped⟩ := Option.bind_eq_some_iff.mp stepped
    cases stepped
    exact .of_same rfl rfl
  · cases stepped

theorem createReport_books (stepped : server.createReport thread = some (next, events)) :
    KeepsBooks server next events := by
  unfold createReport at stepped
  split at stepped
  · obtain ⟨pane, -, stepped⟩ := Option.bind_eq_some_iff.mp stepped
    cases stepped
    exact .of_same rfl rfl
  · cases stepped

theorem readEnd_books (stepped : server.readEnd ref = some (next, events)) :
    KeepsBooks server next events := by
  unfold readEnd at stepped
  obtain ⟨pane, -, stepped⟩ := Option.bind_eq_some_iff.mp stepped
  split at stepped
  · cases stepped
    exact .of_same rfl rfl
  · cases stepped

end Server

theorem step_books {server next : Server} {action : Action} {events : List Event}
    (stepped : step server action = some (next, events)) : Books server next events action := by
  cases action with
  | createPublish => exact Server.createPublish_books stepped
  | beginShutdown => exact Server.beginShutdown_books stepped
  | shutdown => exact Server.shutdownStep_books stepped
  | accept => exact .kept (Server.accept_books stepped)
  | receiveHello => exact .kept (Server.receiveHello_books stepped)
  | receive => exact .kept (Server.receive_books stepped)
  | begin => exact .kept (Server.begin_books stepped)
  | complete => exact .kept (Server.complete_books stepped)
  | reportStatus => exact .kept (Server.reportStatus_books stepped)
  | remove => exact .kept (Server.remove_books stepped)
  | endSocket => exact .kept (Server.endSocket_books stepped)
  | createResolve => exact .kept (Server.createResolve_books stepped)
  | createReserve => exact .kept (Server.createReserve_books stepped)
  | createDiscard => exact .kept (Server.createDiscard_books stepped)
  | createRelease => exact .kept (Server.createRelease_books stepped)
  | createReport => exact .kept (Server.createReport_books stepped)
  | attachCommit => exact .kept (Server.attachCommit_books stepped)
  | replay => exact .kept (Server.replay_books stepped)
  | validateInput => exact .kept (Server.validateInput_books stepped)
  | enqueueInput => exact .kept (Server.enqueueInput_books stepped)
  | resize => exact .kept (Server.resizePane_books stepped)
  | detach => exact .kept (Server.detach_books stepped)
  | stopPane => exact .kept (Server.stopPane_books stepped)
  | startStop => exact .kept (Server.startStop_books stepped)
  | drive => exact .kept (Server.drive_books stepped)
  | read => exact .kept (Server.read_books stepped)
  | readEnd => exact .kept (Server.readEnd_books stepped)
  | reader => exact .kept (Server.readerStep_books stepped)
  | waiter => exact .kept (Server.waiterStep_books stepped)
  | probe => exact .kept (Server.probe_books stepped)
  | ptyWriter => exact .kept (Server.ptyWriterStep_books stepped)
  | close | list | deliver | leave | writeSocket | createNumeric | createLogical | createSpawn
  | stopLookup =>
    -- These move one thread, or one socket, and nothing else.
    simp only [step, Server.close, Server.list, Server.deliver, Server.leave, Server.writeSocket,
      Server.createNumeric, Server.createLogical, Server.createSpawn, Server.stopLookup] at stepped
    repeat' split at stepped
    all_goals first
      | cases stepped; done
      | cases stepped; exact .kept (.of_same rfl rfl)

end Mult.Daemon
