import Mult.Daemon.Bookkeeping

/-! Final agent status: once an agent's exit or failure is recorded, what a run can still do to
the record, and what it cannot.
-/

set_option autoImplicit false

namespace Mult.Daemon
open Foundation Protocol
open Std (TreeMap)

/-- The checks a publication makes under the server lock. -/
def ServerState.publishable (state : ServerState) (session : SessionId)
    (identity : SessionIdentity) : Bool :=
  !state.shuttingDown && !state.sessions.contains session &&
    !state.sessionByIdentity.contains identity && state.reservedSessions.contains session &&
    state.reservedIdentities.contains identity

theorem ServerState.publishable_of_ok {state after : ServerState} {session : SessionId}
    {ref : PaneRef} {identity : SessionIdentity} {agent : Option AgentSessionMetadata}
    (published : state.publishReservedSession session ref identity agent = .ok after) :
    state.publishable session identity = true := by
  unfold publishReservedSession at published
  split at published
  · cases published
  · next serving =>
    split at published
    · cases published
    · next free =>
      simp only [Bool.not_eq_true, Bool.or_eq_false_iff, Bool.not_eq_false'] at serving free
      obtain ⟨⟨⟨session, identity⟩, reserved⟩, held⟩ := free
      simp only [publishable, serving, session, identity, reserved, held]
      rfl

/-- The identity and agent a step publishes a session for. -/
def publication (server : Server) : Action → Option (SessionIdentity × Option AgentSessionMetadata)
  | .createPublish thread =>
      match server.handlers[thread]? with
      | some (.creating _ _ (.publish session ref)) =>
          server.panes[ref]?.bind fun pane =>
            if server.state.publishable session pane.state.identity then
              some (pane.state.identity, pane.state.agent)
            else none
      | _ => none
  | _ => none

/-- The step publishes an agent of another generation under the identity. -/
def Supersedes (identity : SessionIdentity) (generation : AgentGeneration) (server : Server)
    (action : Action) : Prop :=
  (publication server action).any fun (published, agent) =>
    published = identity ∧ agent.any (·.generation ≠ generation)

/-- The step publishes the same generation under the identity again, or no agent at all. -/
def Republishes (identity : SessionIdentity) (generation : AgentGeneration) (server : Server)
    (action : Action) : Prop :=
  (publication server action).any fun (published, agent) =>
    published = identity ∧ agent.all (·.generation = generation)

instance (identity : SessionIdentity) (generation : AgentGeneration) (server : Server)
    (action : Action) : Decidable (Supersedes identity generation server action) :=
  inferInstanceAs (Decidable (_ = true))

instance (identity : SessionIdentity) (generation : AgentGeneration) (server : Server)
    (action : Action) : Decidable (Republishes identity generation server action) :=
  inferInstanceAs (Decidable (_ = true))

/-- The final status is recorded for the agent. -/
structure FinalStatus (state : ServerState) (identity : SessionIdentity)
    (agent : DaemonAgentState) (record : AgentStatusRecord) : Prop where
  recorded : state.agentStates[identity]? = some agent
  held : agent.status = some record
  final : record.status.isFinal = true

section
variable {state after : ServerState} {identity : SessionIdentity} {agent : DaemonAgentState}
  {record : AgentStatusRecord}

theorem FinalStatus.reported (final : FinalStatus state identity agent record)
    (report : AgentStatusRecord) :
    (state.updateAgentStatus report).2.agentStates[identity]? = some agent := by
  unfold ServerState.updateAgentStatus
  split
  · exact final.recorded
  · split
    · exact final.recorded
    · next other found =>
      split
      · exact final.recorded
      · split
        · split <;> exact final.recorded
        · next idle =>
          have distinct : report.identity ≠ identity := by
            intro same
            rw [same, final.recorded] at found
            cases found
            simp [final.held, final.final] at idle
          simp [TreeMap.getElem?_insert, distinct, final.recorded]

theorem FinalStatus.exited (final : FinalStatus state identity agent record)
    (other : SessionIdentity) (metadata : AgentSessionMetadata) (exit : ExitInfo) :
    (state.recordAgentExit other metadata exit).agentStates[identity]? = some agent := by
  unfold ServerState.recordAgentExit
  split
  · exact final.recorded
  · next found =>
    split
    · exact final.recorded
    · next idle =>
      have distinct : other ≠ identity := by
        intro same
        rw [same, final.recorded] at found
        cases found
        simp [final.held, final.final] at idle
      simp [TreeMap.getElem?_insert, distinct, final.recorded]

theorem FinalStatus.agentStep (final : FinalStatus state identity agent record)
    (step : AgentStep state after) : FinalStatus after identity agent record := by
  refine ⟨?_, final.held, final.final⟩
  cases step with
  | kept same => rw [same]; exact final.recorded
  | reported report same => rw [same]; exact final.reported report
  | exited other metadata exit same => rw [same]; exact final.exited other metadata exit

theorem FinalStatus.published (final : FinalStatus state identity agent record)
    {session : SessionId} {ref : PaneRef} {other : SessionIdentity}
    {metadata : Option AgentSessionMetadata}
    (published : state.publishReservedSession session ref other metadata = .ok after)
    (distinct : other ≠ identity) : FinalStatus after identity agent record := by
  refine ⟨?_, final.held, final.final⟩
  unfold ServerState.publishReservedSession at published
  split at published
  · cases published
  · split at published
    · cases published
    · cases published
      cases metadata with
      | none =>
        simp [ServerState.releaseSessionReservation, TreeMap.getElem?_erase, distinct,
          final.recorded]
      | some metadata =>
        simp [ServerState.releaseSessionReservation, TreeMap.getElem?_insert, distinct,
          final.recorded]

theorem FinalStatus.query (final : FinalStatus state identity agent record)
    {query : AgentStatusQuery} (named : query.identity = identity)
    (schema : query.schemaVersion = agentStatusSchemaVersion)
    (incarnation : ServerState.checkIncarnation agent.metadata query.chatId query.agent
      query.generation = none) :
    state.queryAgentStatus query = .current (some record) := by
  unfold ServerState.queryAgentStatus
  rw [if_neg (by simp [schema]), named, final.recorded]
  simp only [incarnation, final.held]

theorem FinalStatus.same (before : FinalStatus state identity agent record)
    (now : FinalStatus after identity agent record) {query : AgentStatusQuery}
    (named : query.identity = identity) :
    after.queryAgentStatus query = state.queryAgentStatus query := by
  unfold ServerState.queryAgentStatus
  rw [named, before.recorded, now.recorded]

end

section
variable {server next : Server} {identity : SessionIdentity} {agent : DaemonAgentState}
  {record : AgentStatusRecord} {events : List Event} {action : Action}

theorem FinalStatus.step (final : FinalStatus server.state identity agent record)
    (stepped : step server action = some (next, events))
    (kept : ∀ published metadata, publication server action = some (published, metadata) →
      published ≠ identity) : FinalStatus next.state identity agent record := by
  cases step_books stepped with
  | kept books => exact final.agentStep books.agents
  | @published _ _ _ _ _ pane found present published _ =>
    refine final.published published (kept _ pane.state.agent ?_)
    simp [publication, found, present, ServerState.publishable_of_ok published]
  | began _ same => rw [same]; exact ⟨final.recorded, final.held, final.final⟩
  | passed _ _ _ _ same _ => rw [same]; exact final
  | drained _ same => rw [same]; exact final

theorem publication_apart {generation : AgentGeneration}
    (current : ¬ Supersedes identity generation server action)
    (allowed : ¬ Republishes identity generation server action) :
    ∀ published metadata, publication server action = some (published, metadata) →
      published ≠ identity := by
  intro published metadata publishes same
  unfold Supersedes at current
  unfold Republishes at allowed
  cases metadata <;> simp_all

end

/-- While no session is published under the identity, a final status stays what it is. -/
theorem final_status_stays (server : Server) (identity : SessionIdentity)
    (agent : DaemonAgentState) (record : AgentStatusRecord)
    (final : FinalStatus server.state identity agent record) (later : Server) (more : List Event)
    (run : (daemon.onward server).Run (fun state action =>
      ¬ Supersedes identity agent.metadata.generation state action ∧
        ¬ Republishes identity agent.metadata.generation state action) later more)
    (query : AgentStatusQuery) (named : query.identity = identity) :
    later.state.queryAgentStatus query = server.state.queryAgentStatus query ∧
      (query.schemaVersion = agentStatusSchemaVersion →
        ServerState.checkIncarnation agent.metadata query.chatId query.agent
          query.generation = none →
        later.state.queryAgentStatus query = .current (some record)) := by
  have stays : FinalStatus later.state identity agent record := by
    refine run.invariant (motive := fun state _ => FinalStatus state.state identity agent record)
      ?_ ?_
    · rintro state rfl
      exact final
    · intro state next past events action _ held allowed stepped
      exact held.step stepped (publication_apart allowed.1 allowed.2)
  exact ⟨final.same stays named, stays.query named⟩

def sampleAgent : AgentSessionMetadata := ⟨agentStatusSchemaVersion, 5, .codex, ⟨7, bytes_seven⟩⟩
def sampleStatus (status : AgentStatus) : AgentStatusRecord :=
  ⟨agentStatusSchemaVersion, sampleIdentity, 5, .codex, ⟨7, bytes_seven⟩, status⟩
def sampleQuery : AgentStatusQuery :=
  ⟨agentStatusSchemaVersion, sampleIdentity, 5, .codex, ⟨7, bytes_seven⟩⟩
def sampleAgentCreate (requestId : RequestId) : ClientMessage :=
  .createSession requestId sampleIdentity (some ⟨1⟩) (some sampleAgent) "agent" none [] .shell 24 80

def sampleAgentExit : List Action :=
  sampleClients ++ createSteps 0 (sampleAgentCreate .min) ⟨"sh", 7, 7⟩ ++
    [.waiter 0 (.exited ⟨0, none⟩), .waiter 0 .proceed, .readEnd 0, .reader 0, .reader 0]

/-- A hook that reports late that the agent is running is refused. -/
theorem final_status_stays_late : ∃ (server later : Server) (more : List Event),
    server.state.queryAgentStatus sampleQuery = .current (some (sampleStatus .exited)) ∧
      .answered ⟨⟨2⟩, .min⟩ (.agentStatusResult .min
        (.error (.finalStatusConflict .exited .running))) ∈ more ∧
      later.state.queryAgentStatus sampleQuery = .current (some (sampleStatus .exited)) := by
  obtain ⟨server, past, later, more, -, run, passed⟩ := daemon.exists_onward
    (fun state action =>
      ¬ Supersedes sampleIdentity sampleAgent.generation state action ∧
        ¬ Republishes sampleIdentity sampleAgent.generation state action)
    ⟨⟨0⟩, rfl⟩ sampleAgentExit
    [.receive 1 (.updateAgentStatus .min (sampleStatus .running)), .begin 1, .reportStatus 1,
      .complete 1]
    (fun server _ _ more => decide (server.state.agentStates[sampleIdentity]? =
        some ⟨sampleAgent, some (sampleStatus .exited)⟩ ∧
      .answered ⟨⟨2⟩, .min⟩ (.agentStatusResult .min
        (.error (.finalStatusConflict .exited .running))) ∈ more))
    (by decide)
  obtain ⟨recorded, refused⟩ := of_decide_eq_true passed
  have final : FinalStatus server.state sampleIdentity ⟨sampleAgent, some (sampleStatus .exited)⟩
      (sampleStatus .exited) := ⟨recorded, rfl, rfl⟩
  have told := (final_status_stays server sampleIdentity _ _ final later more run sampleQuery rfl).2
    rfl rfl
  exact ⟨server, later, more, final.query rfl rfl rfl, refused, told⟩

/-- The session is created again under the same generation, and the final status is gone. -/
theorem final_status_lost : ∃ server past later more, daemon.Reaches server past ∧
    server.state.queryAgentStatus sampleQuery = .current (some (sampleStatus .exited)) ∧
    (daemon.onward server).Run
      (fun state action => ¬ Supersedes sampleIdentity sampleAgent.generation state action)
      later more ∧
    later.state.queryAgentStatus sampleQuery = .current none := by
  obtain ⟨server, past, later, more, earlier, run, passed⟩ := daemon.exists_onward
    (fun state action => ¬ Supersedes sampleIdentity sampleAgent.generation state action)
    ⟨⟨0⟩, rfl⟩ sampleAgentExit (createSteps 0 (sampleAgentCreate secondRequest) ⟨"sh", 8, 8⟩)
    (fun server _ later _ => decide (server.state.queryAgentStatus sampleQuery =
        .current (some (sampleStatus .exited)) ∧
      later.state.queryAgentStatus sampleQuery = .current none))
    (by decide +kernel)
  obtain ⟨recorded, gone⟩ := of_decide_eq_true passed
  exact ⟨server, past, later, more, earlier, recorded, run, gone⟩

end Mult.Daemon
