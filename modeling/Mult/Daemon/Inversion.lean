import Mult.Daemon.Effects

/-! Every step of the daemon is one of the effects. -/

set_option autoImplicit false

namespace Mult.Daemon
open Foundation Protocol
open Std (TreeMap)

namespace Server

variable {server next : Server} {events : List Event} {thread : Nat} {ref : PaneRef}

theorem lockPane_eq_some {pane : Pane} (locked : server.lockPane ref = some pane) :
    server.panes[ref]? = some pane ∧ pane.replaying = false := by
  unfold lockPane at locked
  rw [Option.filter_eq_some_iff] at locked
  simpa using locked

theorem effect_of_some {result : Server × List Event}
    (stepped : some result = some (next, events)) (effect : Effect server result.1 result.2) :
    Effect server next events := by
  rw [Option.some.inj stepped] at effect
  exact effect

/-! ## A connection's own steps -/

theorem accept_effect (stepped : server.accept = some (next, events)) :
    Effect server next events := by
  unfold accept at stepped
  split at stepped
  · next client state _ allocated =>
    cases stepped
    exact .quiet ⟨rfl, ServerState.allocateClientId_same allocated, .joined client rfl⟩
  · cases stepped

theorem receiveHello_effect {message : ClientMessage} {candidates : List ClientScopeId}
    (stepped : server.receiveHello thread message candidates = some (next, events)) :
    Effect server next events := by
  unfold receiveHello at stepped
  split at stepped
  · next client before =>
    have leaving : QuietMove (.hello client) (.leaving client) := ⟨rfl, rfl, rfl, rfl, rfl⟩
    have greeted (after : ServerState) (conn : Connection) (accepted : Bool) :
        QuietMove (.hello client) (if accepted then .serving conn else .leaving client) ∧
          KeyMove server.state after none
            (if accepted then Handler.serving conn else .leaving client).key [] := by
      cases accepted <;> exact ⟨⟨rfl, rfl, rfl, rfl, rfl⟩, .kept⟩
    split at stepped
    · split at stepped
      · cases stepped
        exact .quiet ⟨rfl, .refl _, .moved before rfl leaving .kept⟩
      · split at stepped
        · cases stepped
          exact .quiet ⟨rfl, .refl _, .moved before rfl leaving .kept⟩
        · next resumed =>
          cases stepped
          exact .quiet ⟨rfl, ServerState.resumeOrAllocateScope_same resumed,
            .moved before rfl (greeted server.state _ _).1 (greeted _ _ _).2⟩
    · cases stepped
      exact .quiet ⟨rfl, .refl _, .moved before rfl leaving .kept⟩
  · cases stepped

theorem route_quiet (conn : Connection) (message : ClientMessage) :
    QuietMove (.serving conn) (route conn message) ∧ (route conn message).key = none := by
  cases message <;> exact ⟨⟨rfl, rfl, rfl, rfl, rfl⟩, rfl⟩

theorem receive_effect {message : ClientMessage}
    (stepped : server.receive thread message = some (next, events)) :
    Effect server next events := by
  unfold receive at stepped
  split at stepped
  · next conn before =>
    cases stepped
    obtain ⟨quiet, idle⟩ := route_quiet conn message
    cases message <;> exact .quiet ⟨rfl, .refl _, .moved before rfl quiet (idle ▸ .kept)⟩
  · cases stepped

theorem close_effect (stepped : server.close thread = some (next, events)) :
    Effect server next events := by
  unfold close at stepped
  split at stepped
  · next before =>
    cases stepped
    exact .quiet ⟨rfl, .refl _, .moved before rfl ⟨rfl, rfl, rfl, rfl, rfl⟩ .kept⟩
  · next before =>
    cases stepped
    exact .quiet ⟨rfl, .refl _, .moved before rfl ⟨rfl, rfl, rfl, rfl, rfl⟩ .kept⟩
  · cases stepped

theorem list_effect (stepped : server.list thread = some (next, events)) :
    Effect server next events := by
  unfold list at stepped
  split at stepped
  · next before =>
    cases stepped
    exact .quiet ⟨rfl, .refl _, .moved before rfl ⟨rfl, rfl, rfl, rfl, rfl⟩ .kept⟩
  · cases stepped

theorem proceed_quiet (conn : Connection) (requestId : RequestId) (request : ClientMessage) :
    QuietMove (.beginning conn requestId request) (proceed conn requestId request) ∧
      (proceed conn requestId request).key = some ⟨conn.scope, requestId⟩ := by
  cases request <;> exact ⟨⟨rfl, rfl, rfl, rfl, rfl⟩, rfl⟩

theorem replayCached_quiet (conn : Connection) (requestId : RequestId) (request : ClientMessage)
    (response : ServerMessage) :
    QuietMove (.beginning conn requestId request)
        (replayCached conn requestId request response) ∧
      (replayCached conn requestId request response).key = none := by
  unfold replayCached
  split <;> exact ⟨⟨rfl, rfl, rfl, rfl, rfl⟩, rfl⟩

theorem beginRequest_accepts {state after : ServerState} {scope : ClientScopeId}
    {requestId : RequestId} {request : ClientMessage} {client : ClientId}
    {disposition : RequestDisposition} (accepts : disposition.Accepts)
    (begun : state.beginRequest scope requestId request client = (disposition, after)) :
    state.seen ⟨scope, requestId⟩ = false ∧ after.seen ⟨scope, requestId⟩ = true := by
  unfold ServerState.beginRequest at begun
  simp only [Prod.mk.injEq] at begun
  obtain ⟨rfl, rfl⟩ := begun
  obtain ⟨fresh, unseen⟩ := (RequestScopeState.begin_accepts_iff ..).mp accepts
  constructor
  · unfold ServerState.seen
    rw [TreeMap.getD_eq_getD_getElem?] at unseen
    cases found : state.requestScopes[scope]? with
    | none => rfl
    | some requests => simpa [found] using unseen
  · have result : ∃ records, ((state.requestScopes.getD scope .new).begin requestId request
        client).2 = ⟨some requestId, records⟩ := by
      simp [RequestScopeState.begin, fresh, unseen]
    obtain ⟨records, same⟩ := result
    simp [ServerState.seen, same, RequestScopeState.seen_self]

theorem begin_effect (stepped : server.begin thread = some (next, events)) :
    Effect server next events := by
  unfold begin at stepped
  split at stepped
  · next conn requestId request before =>
    have tables :=
      ServerState.beginRequest_same server.state conn.scope requestId request conn.client
    cases begun : server.state.beginRequest conn.scope requestId request conn.client with
    | mk disposition state =>
      rw [begun] at stepped tables
      cases stepped
      refine .quiet ⟨rfl, tables, ?_⟩
      cases disposition with
      | new =>
        obtain ⟨quiet, key⟩ := proceed_quiet conn requestId request
        obtain ⟨unseen, seen⟩ := beginRequest_accepts (.inl rfl) begun
        exact .moved before rfl quiet (key ▸ .begun unseen seen)
      | cached response =>
        obtain ⟨quiet, key⟩ := replayCached_quiet conn requestId request response
        exact .moved before rfl quiet (key ▸ .kept)
      | tooManyPending =>
        obtain ⟨unseen, seen⟩ := beginRequest_accepts (.inr rfl) begun
        exact .moved before rfl ⟨rfl, rfl, rfl, rfl, rfl⟩ (.begun unseen seen)
      | _ => exact .moved before rfl ⟨rfl, rfl, rfl, rfl, rfl⟩ .kept
  · cases stepped

theorem complete_effect (stepped : server.complete thread = some (next, events)) :
    Effect server next events := by
  unfold complete at stepped
  split at stepped
  · next before =>
    cases stepped
    exact .quiet ⟨rfl, ServerState.completeRequest_same .., .moved before rfl
      ⟨rfl, rfl, rfl, rfl, rfl⟩ .answered⟩
  · cases stepped

theorem deliver_effect (stepped : server.deliver thread = some (next, events)) :
    Effect server next events := by
  unfold deliver at stepped
  split at stepped
  · next before =>
    cases stepped
    exact .quiet ⟨rfl, .refl _, .moved before rfl ⟨rfl, rfl, rfl, rfl, rfl⟩ .kept⟩
  · next before =>
    cases stepped
    exact .quiet ⟨rfl, .refl _, .moved before rfl ⟨rfl, rfl, rfl, rfl, rfl⟩ .kept⟩
  · cases stepped

theorem reportStatus_effect (stepped : server.reportStatus thread = some (next, events)) :
    Effect server next events := by
  unfold reportStatus at stepped
  split at stepped
  · next before =>
    split at stepped
    · cases stepped
      exact .quiet ⟨rfl, ServerState.updateAgentStatus_same .., .moved before rfl
        ⟨rfl, rfl, rfl, rfl, rfl⟩ .kept⟩
    · cases stepped
      exact .quiet ⟨rfl, .refl _, .moved before rfl ⟨rfl, rfl, rfl, rfl, rfl⟩ .kept⟩
    · cases stepped
  · cases stepped

theorem leave_effect (stepped : server.leave thread = some (next, events)) :
    Effect server next events := by
  unfold leave at stepped
  split at stepped
  · next before =>
    cases stepped
    exact .quiet ⟨rfl, .refl _, .moved before rfl ⟨rfl, rfl, rfl, rfl, rfl⟩ .kept⟩
  · cases stepped

theorem remove_effect (stepped : server.remove thread = some (next, events)) :
    Effect server next events := by
  unfold remove at stepped
  split at stepped
  · next before =>
    cases stepped
    exact .quiet ⟨rfl, ServerState.removeClient_same .., .moved before rfl
      ⟨rfl, rfl, rfl, rfl, rfl⟩ .kept⟩
  · cases stepped

theorem writeSocket_effect {client : ClientId} {written : Bool}
    (stepped : server.writeSocket client written = some (next, events)) :
    Effect server next events := by
  unfold writeSocket at stepped
  repeat' split at stepped
  all_goals first
    | cases stepped; done
    | cases stepped; exact .quiet ⟨rfl, .refl _, .same rfl⟩

theorem endSocket_effect {client : ClientId}
    (stepped : server.endSocket client = some (next, events)) : Effect server next events := by
  unfold endSocket at stepped
  repeat' split at stepped
  all_goals first
    | cases stepped; done
    | cases stepped; exact .quiet ⟨rfl, ServerState.removeClient_same .., .same rfl⟩

/-! ## Creating -/

theorem createNumeric_effect (stepped : server.createNumeric thread = some (next, events)) :
    Effect server next events := by
  unfold createNumeric at stepped
  split at stepped
  · next before =>
    cases stepped
    exact .quiet ⟨rfl, .refl _, .moved before rfl ⟨rfl, rfl, rfl, rfl, rfl⟩ .kept⟩
  · cases stepped

theorem createLogical_effect (stepped : server.createLogical thread = some (next, events)) :
    Effect server next events := by
  unfold createLogical at stepped
  split at stepped
  · next before =>
    cases stepped
    exact .quiet ⟨rfl, .refl _, .moved before rfl ⟨rfl, rfl, rfl, rfl, rfl⟩ .kept⟩
  · cases stepped

theorem createResolve_effect (stepped : server.createResolve thread = some (next, events)) :
    Effect server next events := by
  unfold createResolve at stepped
  split at stepped
  · next conn request failure numeric logical before =>
    have answered (outcome : CreateOutcome) :
        Effect server (server.goto thread (createRespond conn request outcome)) [] :=
      .quiet ⟨rfl, .refl _, .moved before rfl ⟨rfl, rfl, rfl, rfl, rfl⟩ .kept⟩
    split at stepped
    · cases stepped; exact answered _
    · split at stepped
      · obtain ⟨pane, -, stepped⟩ := Option.bind_eq_some_iff.mp stepped
        cases stepped; exact answered _
      · obtain ⟨pane, -, stepped⟩ := Option.bind_eq_some_iff.mp stepped
        cases stepped; exact answered _
      · split at stepped
        · cases stepped; exact answered _
        · cases stepped
          exact .quiet ⟨rfl, .refl _, .moved before rfl ⟨rfl, rfl, rfl, rfl, rfl⟩ .kept⟩
  · cases stepped

theorem afterRejection_holds (conn : Connection) (request : CreateRequest)
    (rejection : Rejection) : (afterRejection conn request rejection).reservation = none ∧
      (afterRejection conn request rejection).unpublished = none ∧
      (afterRejection conn request rejection).window = none ∧
      (afterRejection conn request rejection).startsStop = none ∧
      (afterRejection conn request rejection).replays = none ∧
      (afterRejection conn request rejection).key = some ⟨conn.scope, request.requestId⟩ := by
  unfold afterRejection
  split <;> exact ⟨rfl, rfl, rfl, rfl, rfl, rfl⟩

theorem reserveSession_refused_same {state after : ServerState} {requestedId : Option SessionId}
    {identity : SessionIdentity} {rejection : Rejection}
    (refused : state.reserveSession requestedId identity = (.error rejection, after)) :
    SameTables state after := by
  have allocated : SameTables state (state.requestedOrAllocated requestedId).2 := by
    unfold ServerState.requestedOrAllocated ServerState.allocateSessionId
    split <;> exact ⟨rfl, rfl, rfl, rfl, rfl, rfl, fun _ known => known⟩
  unfold ServerState.reserveSession at refused
  split at refused
  · cases refused; exact .refl _
  · split at refused
    · cases refused; exact .refl _
    · split at refused
      · next same => cases refused; rw [same] at allocated; exact allocated
      · next same =>
        split at refused
        · cases refused; rw [same] at allocated; exact allocated
        · cases refused

theorem createReserve_effect (stepped : server.createReserve thread = some (next, events)) :
    Effect server next events := by
  unfold createReserve at stepped
  split at stepped
  · next conn request before =>
    split at stepped
    · next reserved => cases stepped; exact .reserved before reserved
    · next rejection state refused =>
      cases stepped
      obtain ⟨reservation, unpublished, window, startsStop, replays, key⟩ :=
        afterRejection_holds conn request rejection
      exact .quiet ⟨rfl, reserveSession_refused_same refused, .moved before rfl
        ⟨reservation, unpublished, window, startsStop, replays⟩ (key ▸ .kept)⟩
  · cases stepped

theorem createSpawn_effect {spawned : Except String SpawnedChild}
    (stepped : server.createSpawn thread spawned = some (next, events)) :
    Effect server next events := by
  unfold createSpawn at stepped
  split at stepped
  · next before =>
    split at stepped
    · cases stepped
      exact .quiet ⟨rfl, .refl _, .moved before rfl ⟨rfl, rfl, rfl, rfl, rfl⟩ .kept⟩
    · cases stepped; exact .spawned before
  · cases stepped

theorem createPublish_effect (stepped : server.createPublish thread = some (next, events)) :
    Effect server next events := by
  unfold createPublish at stepped
  split at stepped
  · next before =>
    obtain ⟨pane, locked, stepped⟩ := Option.bind_eq_some_iff.mp stepped
    obtain ⟨found, free⟩ := lockPane_eq_some locked
    split at stepped
    · cases stepped
      exact .quiet ⟨rfl, .refl _, .moved before rfl ⟨rfl, rfl, rfl, rfl, rfl⟩ .kept⟩
    · next published => cases stepped; exact .published before found free published
  · cases stepped

theorem createDiscard_effect (stepped : server.createDiscard thread = some (next, events)) :
    Effect server next events := by
  unfold createDiscard at stepped
  split at stepped
  · next before =>
    obtain ⟨pane, locked, stepped⟩ := Option.bind_eq_some_iff.mp stepped
    cases stepped
    exact .discarded before (lockPane_eq_some locked).1
  · cases stepped

theorem createRelease_effect (stepped : server.createRelease thread = some (next, events)) :
    Effect server next events := by
  unfold createRelease at stepped
  split at stepped
  · next before => cases stepped; exact .released before
  · cases stepped

theorem createReport_effect (stepped : server.createReport thread = some (next, events)) :
    Effect server next events := by
  unfold createReport at stepped
  split at stepped
  · next before =>
    obtain ⟨pane, locked, stepped⟩ := Option.bind_eq_some_iff.mp stepped
    cases stepped
    exact .quiet ⟨rfl, .refl _, .moved before rfl ⟨rfl, rfl, rfl, rfl, rfl⟩ .kept⟩
  · cases stepped

/-! ## Attaching -/

theorem resize_eq_ok {pane after : PaneState} {rows cols : Nat} {failure : Option String}
    (resized : pane.resize rows cols failure = .ok after) :
    ∃ rows cols, after = { pane with rows, cols } := by
  unfold PaneState.resize at resized
  split at resized
  · cases resized
  · cases resized; exact ⟨_, _, rfl⟩

theorem refuseAttach_effect {conn : Connection} {request : AttachRequest}
    {cached : Option AttachmentLease} {fresh retried : AttachError}
    (before : server.handlers[thread]? = some (.attaching conn request cached))
    (retry : ∀ lease, cached = some lease → RetryRefusal server conn request lease retried) :
    Effect server (server.refuseAttach thread conn request cached fresh retried).1
      (server.refuseAttach thread conn request cached fresh retried).2 := by
  cases cached with
  | some lease =>
    exact .retryRefused ⟨rfl, .refl _, .moved before rfl ⟨rfl, rfl, rfl, rfl, rfl⟩ .kept⟩
      (retry lease rfl)
  | none =>
    exact .quiet ⟨rfl, ServerState.completeRequest_same .., .moved before rfl
      ⟨rfl, rfl, rfl, rfl, rfl⟩ .answered⟩

theorem rebind_effect {conn : Connection} {request : AttachRequest} {lease : AttachmentLease}
    {pane : Pane} {leader : GroupLeader} {state : PaneState}
    (before : server.handlers[thread]? = some (.attaching conn request (some lease)))
    (found : AttachFound server request ref pane)
    (bindable : usable pane.state server.transports.isActive conn lease = true)
    (resized : ∃ rows cols, state = { pane.state with rows, cols }) :
    Effect server (server.rebind thread conn request ref { pane with state } lease leader).1
      (server.rebind thread conn request ref { pane with state } lease leader).2 := by
  obtain ⟨rows, cols, rfl⟩ := resized
  unfold rebind
  cases owned : pane.state.owner with
  | none => exact .rebound before found bindable rfl (.refl _) rfl
  | some previous =>
    simp only
    split <;> exact .rebound before found bindable rfl (.refl _) rfl

theorem grant_effect {conn : Connection} {request : AttachRequest} {lease : AttachmentLease}
    {pane : Pane} {leader : GroupLeader} {state : PaneState}
    (before : server.handlers[thread]? = some (.attaching conn request none))
    (found : AttachFound server request ref pane)
    (available : server.state.nextLease = some lease)
    (resized : ∃ rows cols, state = { pane.state with rows, cols }) :
    let allocated := server.setState { server.state with nextLease := lease.checkedNext }
    Effect server (allocated.grant thread conn request ref { pane with state } lease leader).1
      (allocated.grant thread conn request ref { pane with state } lease leader).2 := by
  obtain ⟨rows, cols, rfl⟩ := resized
  unfold grant
  cases owned : pane.state.owner with
  | none =>
    exact .granted before found available rfl (ServerState.completeRequest_same ..) rfl
  | some previous =>
    exact .granted before found available rfl (ServerState.completeRequest_same ..) rfl

theorem attachCommit_effect {failure : Option String} {leader : GroupLeader}
    (stepped : server.attachCommit thread failure leader = some (next, events)) :
    Effect server next events := by
  unfold attachCommit at stepped
  split at stepped
  · next conn request cached before =>
    split at stepped
    · next closing =>
      exact effect_of_some stepped
        (refuseAttach_effect before fun _ _ => .shuttingDown closing)
    · next serving =>
      split at stepped
      · next missing =>
        refine effect_of_some stepped
          (refuseAttach_effect before fun _ _ => .superseded (by simpa using serving)
            fun ref pane found => ?_)
        rw [found.routed] at missing
        cases missing
      · next ref routed =>
        obtain ⟨pane, locked, stepped⟩ := Option.bind_eq_some_iff.mp stepped
        obtain ⟨present, free⟩ := lockPane_eq_some locked
        -- Whatever a retry could find here is this pane.
        have unique {ref' : PaneRef} {pane' : Pane}
            (found : AttachFound server request ref' pane') : pane' = pane := by
          have same := found.routed
          rw [routed] at same
          cases same
          have same := found.found
          rw [present] at same
          cases same
          rfl
        split at stepped
        · next other =>
          exact effect_of_some stepped (refuseAttach_effect before fun _ _ =>
            .superseded (by simpa using serving) fun _ _ found => absurd (unique found ▸ found.same) other)
        · next same =>
          split at stepped
          · next gone =>
            refine effect_of_some stepped (refuseAttach_effect before fun _ _ =>
              .superseded (by simpa using serving) fun _ _ found => ?_)
            have attachable := unique found ▸ found.attachable
            simp [attachable] at gone
          · next attachable =>
            have found : AttachFound server request ref pane :=
              ⟨by simpa using serving, routed, present, free, by simpa using same,
                by simpa using attachable⟩
            split at stepped
            · next stale =>
              refine effect_of_some stepped (refuseAttach_effect before fun lease retried =>
                .superseded (by simpa using serving) fun _ _ other => ?_)
              subst retried
              rw [unique other]
              simpa using stale
            · next bindable =>
              have resize : ∀ state, (if pane.state.lifecycle = .running then
                  pane.state.resize request.rows request.cols failure else .ok pane.state) =
                    .ok state → ∃ rows cols, state = { pane.state with rows, cols } := by
                intro state resized
                split at resized
                · exact resize_eq_ok resized
                · cases resized; exact ⟨pane.state.rows, pane.state.cols, rfl⟩
              simp only at stepped
              split at stepped
              · refine effect_of_some stepped (refuseAttach_effect before fun lease retried => ?_)
                subst retried
                exact .resizeFailed ref pane _ found (by simpa using bindable)
              · next state resized =>
                split at stepped
                · next lease =>
                  exact effect_of_some stepped
                    (rebind_effect before found (by simpa using bindable) (resize _ resized))
                · split at stepped
                  · cases stepped
                    obtain ⟨rows, cols, rfl⟩ := resize _ resized
                    exact .refitted present rfl (ServerState.completeRequest_same ..)
                      (.moved before rfl ⟨rfl, rfl, rfl, rfl, rfl⟩ .answered)
                  · next lease state allocated =>
                    unfold ServerState.allocateLease at allocated
                    split at allocated
                    · cases allocated
                    · next available =>
                      cases allocated
                      exact effect_of_some stepped
                        (grant_effect before found available (resize _ resized))
  · cases stepped

theorem replay_effect (stepped : server.replay thread = some (next, events)) :
    Effect server next events := by
  unfold replay at stepped
  split at stepped
  · next conn ref target targets before =>
    split at stepped
    · cases stepped
      exact .quiet ⟨rfl, .refl _, .moved before rfl ⟨rfl, rfl, rfl, rfl, rfl⟩ .kept⟩
    · cases stepped
      cases target.displaced <;>
        exact .quiet ⟨rfl, .refl _, .moved before rfl ⟨rfl, rfl, rfl, rfl, rfl⟩ .kept⟩
  · next before =>
    obtain ⟨pane, found, stepped⟩ := Option.bind_eq_some_iff.mp stepped
    cases stepped
    exact .unlocked before found
  · cases stepped

theorem withLease_cases {conn : Connection} {paneId : PaneId} {lease : AttachmentLease}
    {operation : LeaseOperation} {run : PaneRef → Pane → Server × List Event}
    (stepped : server.withLease thread conn paneId lease operation run = some (next, events)) :
    (∃ reason, next = server.rejectLease thread conn paneId lease operation reason ∧
      events = []) ∨
    ∃ ref pane, LeaseAccepted server conn paneId lease ref pane ∧ next = (run ref pane).1 ∧
      events = .accepted (.leased operation) ref ⟨conn.scope, lease, conn.client⟩ ::
        (run ref pane).2 := by
  unfold withLease at stepped
  split at stepped
  · cases stepped; exact .inl ⟨_, rfl, rfl⟩
  · next ref routed =>
    obtain ⟨pane, locked, stepped⟩ := Option.bind_eq_some_iff.mp stepped
    obtain ⟨found, free⟩ := lockPane_eq_some locked
    split at stepped
    · cases stepped; exact .inl ⟨_, rfl, rfl⟩
    · next valid =>
      cases stepped
      exact .inr ⟨ref, pane, ⟨routed, found, free, valid⟩, rfl, rfl⟩

theorem validateInput_effect (stepped : server.validateInput thread = some (next, events)) :
    Effect server next events := by
  unfold validateInput at stepped
  split at stepped
  · next before =>
    rcases withLease_cases stepped with ⟨reason, rfl, rfl⟩ | ⟨ref, pane, accepted, rfl, rfl⟩
    · exact .quiet ⟨rfl, .refl _, .moved before rfl ⟨rfl, rfl, rfl, rfl, rfl⟩ .kept⟩
    · exact .validated before accepted
  · cases stepped

theorem schedulePoll_eq (pane : Pane) (wanted : Bool) : ∃ scheduled poll,
    (if wanted then schedulePoll pane else pane) = { pane with
      state := { pane.state with foregroundPollScheduled := scheduled }, poll } := by
  unfold schedulePoll
  split
  · split
    · exact ⟨_, _, rfl⟩
    · exact ⟨_, _, rfl⟩
  · exact ⟨_, _, rfl⟩

theorem enqueueInput_effect (stepped : server.enqueueInput thread = some (next, events)) :
    Effect server next events := by
  unfold enqueueInput at stepped
  split at stepped
  · next before =>
    obtain ⟨pane, found, stepped⟩ := Option.bind_eq_some_iff.mp stepped
    split at stepped
    · cases stepped
      exact .quiet ⟨rfl, .refl _, .moved before rfl ⟨rfl, rfl, rfl, rfl, rfl⟩ .kept⟩
    · next enqueued =>
      cases stepped
      obtain ⟨scheduled, poll, same⟩ := schedulePoll_eq _ _
      exact .queued before found enqueued same rfl (.refl _) rfl
  · cases stepped

theorem resizePane_effect {failure : Option String}
    (stepped : server.resizePane thread failure = some (next, events)) :
    Effect server next events := by
  unfold resizePane at stepped
  split at stepped
  · next before =>
    rcases withLease_cases stepped with ⟨reason, rfl, rfl⟩ | ⟨ref, pane, accepted, rfl, rfl⟩
    · exact .quiet ⟨rfl, .refl _, .moved before rfl ⟨rfl, rfl, rfl, rfl, rfl⟩ .kept⟩
    · simp only
      split
      · next resized =>
        obtain ⟨rows, cols, rfl⟩ := resize_eq_ok resized
        exact .resized before accepted rfl
      · exact .resized before accepted rfl
  · cases stepped

theorem detach_effect (stepped : server.detach thread = some (next, events)) :
    Effect server next events := by
  unfold detach at stepped
  split at stepped
  · next before =>
    rcases withLease_cases stepped with ⟨reason, rfl, rfl⟩ | ⟨ref, pane, accepted, rfl, rfl⟩
    · exact .quiet ⟨rfl, .refl _, .moved before rfl ⟨rfl, rfl, rfl, rfl, rfl⟩ .kept⟩
    · exact .detached before accepted
  · cases stepped

theorem stopLookup_effect (stepped : server.stopLookup thread = some (next, events)) :
    Effect server next events := by
  unfold stopLookup at stepped
  split at stepped
  · next conn request before =>
    cases stepped
    cases server.state.paneById request.pane <;>
      exact .quiet ⟨rfl, .refl _, .moved before rfl ⟨rfl, rfl, rfl, rfl, rfl⟩ .kept⟩
  · cases stepped

theorem stopPane_effect (stepped : server.stopPane thread = some (next, events)) :
    Effect server next events := by
  unfold stopPane at stepped
  split at stepped
  · next conn request ref before =>
    obtain ⟨pane, locked, stepped⟩ := Option.bind_eq_some_iff.mp stepped
    obtain ⟨found, free⟩ := lockPane_eq_some locked
    have answered (outcome : StopOutcome) :
        Effect server (server.goto thread (stopRespond conn request outcome)) [] :=
      .quiet ⟨rfl, .refl _, .moved before rfl ⟨rfl, rfl, rfl, rfl, rfl⟩ .kept⟩
    simp only at stepped
    split at stepped
    · cases stepped; exact answered _
    · split at stepped
      · cases stepped; exact answered _
      · next alive =>
        split at stepped
        · cases stepped; exact answered _
        · next valid =>
          cases stepped
          exact .stopAccepted before found (by simpa using alive) valid rfl
  · cases stepped

theorem startStopIfNeeded_cases {foreground : Option Nat}
    (stepped : server.startStopIfNeeded ref foreground = some (next, events)) :
    ∃ pane, server.panes[ref]? = some pane ∧
      (((pane.state.terminated || pane.state.stopDriverActive) = true ∧ next = server ∧
        events = []) ∨
      (pane.state.terminated = false ∧ pane.state.stopDriverActive = false ∧
        (∃ foreground, next = server.setPane ref { pane with
          state := { pane.state with lifecycle := .stopping, stopDriverActive := true }
          drivers := pane.drivers ++ [⟨pane.state.processGroup, foreground, .term⟩] }) ∧
        events = lifecycleEdge ref pane.state.lifecycle .stopping)) := by
  unfold startStopIfNeeded at stepped
  obtain ⟨pane, locked, stepped⟩ := Option.bind_eq_some_iff.mp stepped
  refine ⟨pane, (lockPane_eq_some locked).1, ?_⟩
  split at stepped
  · next idle => cases stepped; exact .inl ⟨idle, rfl, rfl⟩
  · next needed =>
    cases stepped
    simp only [Bool.not_eq_true, Bool.or_eq_false_iff] at needed
    exact .inr ⟨needed.1, needed.2, ⟨_, rfl⟩, rfl⟩

theorem startStop_effect {foreground : Option Nat}
    (stepped : server.startStop thread foreground = some (next, events)) :
    Effect server next events := by
  unfold startStop at stepped
  split at stepped
  · next conn ref before =>
    obtain ⟨⟨middle, seen⟩, started, same⟩ := Option.map_eq_some_iff.mp stepped
    cases same
    obtain ⟨pane, found, ⟨idle, rfl, rfl⟩ | ⟨alive, inactive, ⟨group, rfl⟩, rfl⟩⟩ :=
      startStopIfNeeded_cases started
    · exact .stopSkipped before found idle rfl (.refl _) rfl
    · exact .stopStarted found alive inactive rfl (.refl _) (.inr ⟨thread, conn, before, rfl⟩)
  · cases stepped

theorem shutdownStep_effect {foreground : Option Nat}
    (stepped : server.shutdownStep foreground = some (next, events)) :
    Effect server next events := by
  unfold shutdownStep at stepped
  split at stepped
  · next ref rest _ =>
    obtain ⟨⟨middle, seen⟩, started, same⟩ := Option.map_eq_some_iff.mp stepped
    cases same
    obtain ⟨pane, found, ⟨idle, rfl, rfl⟩ | ⟨alive, inactive, ⟨group, rfl⟩, rfl⟩⟩ :=
      startStopIfNeeded_cases started
    · exact .quiet ⟨rfl, .refl _, .same rfl⟩
    · exact .stopStarted found alive inactive rfl (.refl _) (.inl rfl)
  · cases stepped; exact .quiet ⟨rfl, .refl _, .same rfl⟩
  · cases stepped

theorem beginShutdown_effect (stepped : server.beginShutdown = some (next, events)) :
    Effect server next events := by
  unfold beginShutdown at stepped
  split at stepped
  · cases stepped; exact .shutdown rfl rfl (.refl _)
  · cases stepped

/-! ## A pane's own threads -/

theorem failPendingStops_spec (server : Server) (pane : Pane) (message : String) :
    ∃ outgoing server', server.failPendingStops pane message =
        (outgoing, server', { pane with state := { pane.state with pendingStops := [] } },
          stopAnswers pane (.error (.failed .daemonInternal message))) ∧
      SameTables server.state server'.state ∧ server'.panes = server.panes ∧
      server'.handlers = server.handlers := by
  let responses := pane.state.pendingStops.map fun key =>
    (key, ServerMessage.stopResult key.requestId (.error (.failed .daemonInternal message)))
  refine ⟨(server.state.completeAll false responses).1,
    server.setState (server.state.completeAll false responses).2, ?_,
    ServerState.completeAll_same .., rfl, rfl⟩
  simp [failPendingStops, stopAnswers, Function.comp_def, responses]

theorem drive_effect {position : Nat} {input : DriverInput}
    (stepped : server.drive ref position input = some (next, events)) :
    Effect server next events := by
  unfold drive at stepped
  rw [Option.bind_eq_some_iff] at stepped
  obtain ⟨pane, found, stepped⟩ := stepped
  rw [Option.bind_eq_some_iff] at stepped
  obtain ⟨driver, present, stepped⟩ := stepped
  have moved {server' : Server} {before phase : Termination} {events : List Event}
      (frame : Quiet server server' []) (threads : server'.handlers = server.handlers)
      (current : driver.phase = before) (move : DriverMove ref pane driver before phase events) :
      Effect server (server'.setPane ref (pane.setDriver position driver phase)) events := by
    refine .pane found (.driverMoved position driver phase events present (current ▸ move)) ?_
      frame.tables threads
    simp only [setPane, frame.panes]
  have here : Quiet server server [] := ⟨rfl, .refl _, .same rfl⟩
  simp only at stepped
  split at stepped
  · next phase =>
    cases stepped
    exact moved here rfl phase (.signalled _ false rfl)
  · next phase =>
    cases stepped
    exact moved here rfl phase (.signalFailed _ false _ rfl)
  · next kill phase =>
    cases stepped
    refine moved here rfl phase (.foreground kill _ _ rfl ?_)
    split <;> simp
  · next phase =>
    split at stepped
    · cases stepped
      split
      · next removed => exact moved here rfl phase (.graceRemoved removed)
      · next kept => exact moved here rfl phase (.graceEnded kept)
    · cases stepped
  · next phase =>
    cases stepped
    exact moved here rfl phase (.signalled _ true rfl)
  · next phase =>
    cases stepped
    exact moved here rfl phase (.signalFailed _ true _ rfl)
  · next phase =>
    split at stepped
    · cases stepped
      split
      · next removed => exact moved here rfl phase (.drainRemoved removed)
      · next kept => exact moved here rfl phase (.drainEnded _ kept)
    · cases stepped
  · next phase =>
    split at stepped
    · cases stepped
      exact .pane found (.driverRestored position driver _ _ _ present phase rfl) rfl (.refl _) rfl
    · cases stepped
  · next message phase =>
    split at stepped
    · obtain ⟨outgoing, server', failed, tables, panes, handlers⟩ :=
        failPendingStops_spec server pane message
      rw [failed] at stepped
      cases stepped
      refine .pane found (.driverFailed position driver message outgoing present phase) ?_ tables
        handlers
      simp only [setPane, panes]
      rfl
    · cases stepped
  · next outgoing rest phase =>
    cases stepped
    exact moved ⟨rfl, .refl _, .same rfl⟩ rfl phase (.reported outgoing rest)
  · next phase =>
    cases stepped
    exact moved here rfl phase .finished
  · cases stepped

theorem maybeFinalize_none {pane : Pane} (kept : server.maybeFinalize ref pane = none) :
    pane.finalizable = false := by
  unfold maybeFinalize at kept
  unfold Pane.finalizable
  split at kept
  · next running => simp [running]
  · split at kept
    · next waits => rcases waits with removed | reading <;> simp_all
    · cases kept

theorem maybeFinalize_some {pane after : Pane} {outgoing : List Outgoing} {server' : Server}
    (finalized : server.maybeFinalize ref pane = some (outgoing, server', after, events)) :
    ∃ exit answers, pane.finalizable = true ∧ pane.state.childExit = some exit ∧
      outgoing = finalNotices pane exit answers ∧
      (∀ answer ∈ answers, ∃ requestId outcome, answer.message = .stopResult requestId outcome) ∧
      after = { pane with state := pane.state.finalized } ∧
      server'.panes = server.panes ∧ server'.handlers = server.handlers ∧
      SameTables (server.state.removeSessionIfSame pane.state.session ref) server'.state ∧
      events = [.lifecycle ref pane.state.lifecycle .exited, .lifecycle ref .exited .removed,
        .removed ref pane.state.owner] ++ stopAnswers pane (.stopped exit) := by
  unfold maybeFinalize at finalized
  split at finalized
  · cases finalized
  · next exit exited =>
    split at finalized
    · cases finalized
    · next ready =>
      simp only [not_or, Bool.not_eq_true, Bool.not_eq_false'] at ready
      cases finalized
      refine ⟨exit, _, by simp [Pane.finalizable, exited, ready.1, ready.2], exited, rfl,
        fun answer member => ?_, rfl, rfl, rfl, ?_, by simp [stopAnswers, Function.comp_def]⟩
      · obtain ⟨response, member, same⟩ := ServerState.completeAll_messages _ _ _ answer member
        obtain ⟨key, -, rfl⟩ := List.mem_map.mp member
        exact ⟨_, _, same⟩
      refine SameTables.trans ?_ (ServerState.completeAll_same ..)
      -- The agent record is the only other table the removal touches.
      split
      · next metadata agent =>
        have same := ServerState.recordAgentExit_same server.state pane.state.identity metadata exit
        unfold ServerState.removeSessionIfSame
        rw [same.sessions]
        split
        · exact ⟨rfl, by simp [same.sessionByIdentity], same.reservedSessions,
            same.reservedIdentities, same.nextLease, same.shuttingDown, same.seen⟩
        · exact same
      · exact .refl _

theorem finalizer_effect {pane after cleared : Pane} {outgoing : List Outgoing} {server' : Server}
    (found : server.panes[ref]? = some pane) (free : pane.replaying = false)
    (finalized : server.maybeFinalize ref pane = some (outgoing, server', cleared, events))
    (goes : Finalizer cleared outgoing after) :
    Effect server (server'.setPane ref after) events := by
  obtain ⟨exit, answers, ready, exited, rfl, stops, rfl, panes, handlers, tables, rfl⟩ :=
    maybeFinalize_some finalized
  refine .finalized found free ready exited stops goes ?_ tables handlers
  simp only [setPane, panes]

theorem read_effect {bytes : Bytes} (stepped : server.read ref bytes = some (next, events)) :
    Effect server next events := by
  unfold read at stepped
  obtain ⟨pane, locked, stepped⟩ := Option.bind_eq_some_iff.mp stepped
  obtain ⟨found, free⟩ := lockPane_eq_some locked
  split at stepped
  · next reading =>
    split at stepped
    · next state failed =>
      cases stepped
      exact .pane found (.readFailed bytes state free reading.1 failed) rfl (.refl _) rfl
    · next sequence state appended =>
      cases stepped
      have scheduled : ∃ scheduled poll, (if state.foregroundPollScheduled then
          { pane with state } else { pane with
            state := { state with foregroundPollScheduled := true }, poll := some 3 }) =
          { pane with state := { state with foregroundPollScheduled := scheduled }, poll } := by
        split
        · exact ⟨_, _, rfl⟩
        · exact ⟨_, _, rfl⟩
      obtain ⟨claimed, poll, same⟩ := scheduled
      refine .pane found (.appended bytes sequence state claimed poll free reading.1 appended) ?_
        ?_ ?_
      · rw [← same]
        cases ownerOutput state sequence bytes <;> rfl
      · cases ownerOutput state sequence bytes <;> exact .refl _
      · cases ownerOutput state sequence bytes <;> rfl
  · cases stepped

theorem readEnd_effect (stepped : server.readEnd ref = some (next, events)) :
    Effect server next events := by
  unfold readEnd at stepped
  obtain ⟨pane, found, stepped⟩ := Option.bind_eq_some_iff.mp stepped
  split at stepped
  · next reading => cases stepped; exact .pane found (.readEnded reading) rfl (.refl _) rfl
  · cases stepped

theorem readerStep_effect (stepped : server.readerStep ref = some (next, events)) :
    Effect server next events := by
  unfold readerStep at stepped
  obtain ⟨pane, found, stepped⟩ := Option.bind_eq_some_iff.mp stepped
  split at stepped
  · next phase =>
    split at stepped
    · cases stepped
    · cases stepped; exact .pane found (.readerDone phase) rfl (.refl _) rfl
  · next phase =>
    split at stepped
    · cases stepped
    · next free =>
      split at stepped
      · next kept =>
        cases stepped
        exact .pane found (.readerKept phase (maybeFinalize_none kept)) rfl (.refl _) rfl
      · next outgoing server' cleared events' finalized =>
        cases stepped
        obtain ⟨-, -, -, -, -, -, state, -⟩ := maybeFinalize_some finalized
        exact finalizer_effect found (by simpa using free) finalized (.reader (by simp [state, phase]))
  · next outgoing rest phase =>
    cases stepped
    exact .pane found (.readerNotified outgoing rest phase) rfl (.refl _) rfl
  · next phase => cases stepped; exact .pane found (.readerFinished phase) rfl (.refl _) rfl
  · cases stepped

theorem waiterStep_effect {input : WaitInput}
    (stepped : server.waiterStep ref input = some (next, events)) : Effect server next events := by
  unfold waiterStep at stepped
  rw [Option.bind_eq_some_iff] at stepped
  obtain ⟨pane, found, stepped⟩ := stepped
  split at stepped
  · next exit phase =>
    split at stepped
    · cases stepped
    · cases stepped; exact .pane found (.reaped exit phase) rfl (.refl _) rfl
  · next message phase =>
    split at stepped
    · cases stepped
    · cases stepped; exact .pane found (.waitFailed message phase) rfl (.refl _) rfl
  · next message phase =>
    split at stepped
    · cases stepped
    · obtain ⟨outgoing, server', failed, tables, panes, handlers⟩ :=
        failPendingStops_spec server pane s!"failed to wait for PTY child: {message}"
      rw [failed] at stepped
      cases stepped
      refine .pane found (.waiterFailed message _ outgoing phase) ?_ tables handlers
      simp only [setPane, panes]
  · next outgoing rest phase =>
    cases stepped
    exact .pane found (.waiterReported outgoing rest phase) rfl (.refl _) rfl
  · next phase => cases stepped; exact .pane found (.waiterResumed phase) rfl (.refl _) rfl
  · next phase =>
    split at stepped
    · cases stepped
    · next free =>
      split at stepped
      · next kept =>
        cases stepped
        exact .pane found (.waiterKept phase (maybeFinalize_none kept)) rfl (.refl _) rfl
      · next outgoing server' cleared events' finalized =>
        cases stepped
        obtain ⟨-, -, -, -, -, -, state, -⟩ := maybeFinalize_some finalized
        exact finalizer_effect found (by simpa using free) finalized (.waiter (by simp [state, phase]))
  · next outgoing rest phase =>
    cases stepped
    exact .pane found (.waiterNotified outgoing rest phase) rfl (.refl _) rfl
  · next phase => cases stepped; exact .pane found (.waiterFinished phase) rfl (.refl _) rfl
  · cases stepped

theorem deliverForegroundProcess_frame (server : Server) (pane : PaneState)
    (process : ForegroundProcessInfo) :
    (server.deliverForegroundProcess pane process).panes = server.panes ∧
      (server.deliverForegroundProcess pane process).state = server.state ∧
      (server.deliverForegroundProcess pane process).handlers = server.handlers := by
  unfold deliverForegroundProcess
  split <;> exact ⟨rfl, rfl, rfl⟩

theorem probe_effect {leader : GroupLeader} (stepped : server.probe ref leader = some (next, events)) :
    Effect server next events := by
  unfold probe at stepped
  rw [Option.bind_eq_some_iff] at stepped
  obtain ⟨pane, found, stepped⟩ := stepped
  split at stepped
  · cases stepped
  · cases stepped
    exact .pane found (.probed pane.state.foregroundProcess false none) rfl (.refl _) rfl
  · next left _ =>
    split at stepped
    · cases stepped
    · have refreshed : ∃ changed process, pane.state.refreshForegroundProcessIfChanged leader =
          (changed, { pane.state with foregroundProcess := process }) := by
        unfold PaneState.refreshForegroundProcessIfChanged
        simp only
        split
        · exact ⟨_, _, rfl⟩
        · exact ⟨_, _, rfl⟩
      obtain ⟨changed, process, same⟩ := refreshed
      rw [same] at stepped
      have probed : PaneStep ref pane _ [] :=
        .probed process pane.state.foregroundPollScheduled (some left)
      cases changed with
      | none => cases stepped; exact .pane found probed rfl (.refl _) rfl
      | some shown =>
        obtain ⟨panes, state, handlers⟩ := deliverForegroundProcess_frame server
          { pane.state with foregroundProcess := process } shown
        cases stepped
        refine .pane found probed ?_ ?_ handlers
        · simp only [setPane, panes]
        · simp only [setPane, state]
          exact .refl _

theorem ptyWriterStep_effect {written : Bool}
    (stepped : server.ptyWriterStep ref written = some (next, events)) :
    Effect server next events := by
  unfold ptyWriterStep at stepped
  obtain ⟨pane, found, stepped⟩ := Option.bind_eq_some_iff.mp stepped
  split at stepped
  · split at stepped
    · cases stepped
      exact .pane found (.ptyWriter pane.state.writes .finished [] id (by simp)) rfl (.refl _) rfl
    · next isOpen =>
      obtain ⟨⟨batch, writes⟩, -, same⟩ := Option.map_eq_some_iff.mp stepped
      cases same
      exact .pane found (.ptyWriter writes (.writing batch) [] (fun closed => absurd closed isOpen)
        (by simp)) rfl (.refl _) rfl
  · next bytes rest _ =>
    split at stepped
    · cases stepped
      exact .pane found (.ptyWriter pane.state.writes (.writing rest) _ id
        (by simp)) rfl (.refl _) rfl
    · cases stepped
      exact .pane found (.ptyWriter pane.state.writes.close .finished [] (fun _ => rfl)
        (by simp)) rfl (.refl _) rfl
  · cases stepped
    exact .pane found (.ptyWriter pane.state.writes .waiting [] id (by simp)) rfl (.refl _) rfl
  · cases stepped

end Server

theorem step_effect {server next : Server} {action : Action} {events : List Event}
    (stepped : step server action = some (next, events)) : Effect server next events := by
  cases action with
  | accept => exact Server.accept_effect stepped
  | receiveHello => exact Server.receiveHello_effect stepped
  | receive => exact Server.receive_effect stepped
  | close => exact Server.close_effect stepped
  | list => exact Server.list_effect stepped
  | begin => exact Server.begin_effect stepped
  | complete => exact Server.complete_effect stepped
  | deliver => exact Server.deliver_effect stepped
  | reportStatus => exact Server.reportStatus_effect stepped
  | leave => exact Server.leave_effect stepped
  | remove => exact Server.remove_effect stepped
  | writeSocket => exact Server.writeSocket_effect stepped
  | endSocket => exact Server.endSocket_effect stepped
  | createNumeric => exact Server.createNumeric_effect stepped
  | createLogical => exact Server.createLogical_effect stepped
  | createResolve => exact Server.createResolve_effect stepped
  | createReserve => exact Server.createReserve_effect stepped
  | createSpawn => exact Server.createSpawn_effect stepped
  | createPublish => exact Server.createPublish_effect stepped
  | createDiscard => exact Server.createDiscard_effect stepped
  | createRelease => exact Server.createRelease_effect stepped
  | createReport => exact Server.createReport_effect stepped
  | attachCommit => exact Server.attachCommit_effect stepped
  | replay => exact Server.replay_effect stepped
  | validateInput => exact Server.validateInput_effect stepped
  | enqueueInput => exact Server.enqueueInput_effect stepped
  | resize => exact Server.resizePane_effect stepped
  | detach => exact Server.detach_effect stepped
  | stopLookup => exact Server.stopLookup_effect stepped
  | stopPane => exact Server.stopPane_effect stepped
  | startStop => exact Server.startStop_effect stepped
  | drive => exact Server.drive_effect stepped
  | read => exact Server.read_effect stepped
  | readEnd => exact Server.readEnd_effect stepped
  | reader => exact Server.readerStep_effect stepped
  | waiter => exact Server.waiterStep_effect stepped
  | probe => exact Server.probe_effect stepped
  | ptyWriter => exact Server.ptyWriterStep_effect stepped
  | beginShutdown => exact Server.beginShutdown_effect stepped
  | shutdown => exact Server.shutdownStep_effect stepped

end Mult.Daemon
