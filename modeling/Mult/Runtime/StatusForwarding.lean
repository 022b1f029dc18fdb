import Mult.Runtime.StatusJournal

/-! Status transitions reach the daemon in the order of the journal and each at most once. A
transition whose forwarding fails is not offered again: the daemon is asked for the status
instead.
-/

set_option autoImplicit false

namespace Mult.Runtime
open Foundation Project
open Protocol (SessionIdentity SessionToken AgentGeneration AgentStatus AgentStatusRecord ascii)

variable {host : StatusHost} {live : LiveAgent}

/-! ## Reading on -/

/-- The cursor stands behind the lines read of the journal so far. -/
structure Stands (cursor : AgentStatusCursor) (consumed : List (List UInt8))
    (file : Option StatusFile) : Prop where
  clean : ∀ line ∈ consumed, newline ∉ line
  offset : cursor.offset = (joined newline consumed).length
  begins : consumed ≠ [] → ∃ opened, file = some opened ∧ opened.device = cursor.device ∧
    opened.inode = cursor.inode ∧ joined newline consumed <+: opened.bytes

theorem Stands.initial (file : Option StatusFile) : Stands .initial [] file :=
  ⟨by simp, rfl, by simp⟩

theorem Stands.follow {cursor : AgentStatusCursor} {consumed : List (List UInt8)}
    {file : StatusFile} (stands : Stands cursor consumed (some file)) :
    Stands (cursor.follow file) consumed (some file) ∧
      joined newline consumed <+: file.bytes ∧ (cursor.follow file).device = file.device ∧
        (cursor.follow file).inode = file.inode := by
  unfold AgentStatusCursor.follow
  split
  · next moved =>
    have none : consumed = [] := by
      by_contra some
      obtain ⟨opened, same, device, inode, start⟩ := stands.begins some
      cases same
      have within := start.length_le
      have offset := stands.offset
      rcases moved with other | other | past
      · exact other device.symm
      · exact other inode.symm
      · omega
    subst none
    exact ⟨⟨by simp, rfl, by simp⟩, List.nil_prefix, rfl, rfl⟩
  · next same =>
    rw [not_or, not_or, Classical.not_not, Classical.not_not] at same
    refine ⟨stands, ?_, same.1, same.2.1⟩
    by_cases none : consumed = []
    · rw [none]
      exact List.nil_prefix
    · obtain ⟨opened, found, -, -, start⟩ := stands.begins none
      cases found
      exact start

theorem parseLines_spec {offset : Nat} {encoded : List (List UInt8)}
    {records : List (MultAgentStatusRecord × Nat)}
    (parsed : host.parseLines offset encoded = some records) :
    encoded.map host.decode = records.map (fun record => some record.1) ∧
      records.getLast?.elim offset Prod.snd = offset + (joined newline encoded).length := by
  induction encoded generalizing offset records with
  | nil =>
    cases parsed
    exact ⟨rfl, rfl⟩
  | cons line rest ih =>
    rw [StatusHost.parseLines] at parsed
    split at parsed
    · cases parsed
    · simp only [Option.bind_eq_some_iff, Option.map_eq_some_iff] at parsed
      obtain ⟨record, decoded, others, onward, rfl⟩ := parsed
      obtain ⟨each, last⟩ := ih onward
      refine ⟨by rw [List.map_cons, List.map_cons, decoded, each], ?_⟩
      rw [List.getLast?_cons, Option.elim_some, joined_cons, List.length_append,
        List.length_cons]
      cases found : others.getLast? with
      | none =>
        rw [found, Option.elim_none] at last
        simp only [Option.getD_none]
        omega
      | some final =>
        rw [found, Option.elim_some] at last
        simp only [Option.getD_some]
        omega

/-- A read that succeeds hands over the lines behind the cursor; none moves it in the file. -/
theorem Stands.read {cursor after : AgentStatusCursor} {consumed : List (List UInt8)}
    {file : Option StatusFile} {fault : Option ReadFault}
    {result : Option (List (MultAgentStatusRecord × Nat))} (stands : Stands cursor consumed file)
    (done : host.readMultAgentStatusRecords file fault cursor = (result, after)) :
    Stands after consumed file ∧ ∀ records, result = some records →
      ∃ more, more.map host.decode = records.map (fun record => some record.1) ∧
        Stands { after with offset := records.getLast?.elim after.offset Prod.snd }
          (consumed ++ more) file := by
  unfold StatusHost.readMultAgentStatusRecords at done
  split at done
  · cases done
    exact ⟨stands, by simp⟩
  · cases file with
    | none =>
      cases done
      refine ⟨stands, ?_⟩
      rintro records ⟨⟩
      exact ⟨[], rfl, by simpa using stands⟩
    | some file =>
      simp only at done
      obtain ⟨followed, start, device, inode⟩ := stands.follow
      split at done
      · split at done
        · cases done
          exact ⟨followed, by simp⟩
        · split at done
          · cases done
            exact ⟨followed, by simp⟩
          · next fits =>
            simp only [Prod.mk.injEq] at done
            obtain ⟨parsed, rfl⟩ := done
            refine ⟨followed, ?_⟩
            rintro records rfl
            rw [Nat.not_lt, List.length_take] at fits
            rw [List.take_of_length_le (by omega)] at parsed
            obtain ⟨each, last⟩ := parseLines_spec parsed
            refine ⟨_, each, ?_, ?_, ?_⟩
            · intro line listed
              rcases List.mem_append.mp listed with earlier | new
              · exact stands.clean line earlier
              · exact separator_notMem_lines new
            · rw [last, joined_append, List.length_append, followed.offset]
            · intro _
              refine ⟨file, rfl, device.symm, inode.symm, ?_⟩
              obtain ⟨tail, whole⟩ := start
              rw [joined_append, ← whole, followed.offset, List.drop_left]
              exact (List.prefix_append_right_inj _).mpr (joined_lines_begins _ _)
      · cases done
        exact ⟨stands, by simp⟩

/-- The source stands behind these lines of the journal of the session. -/
def StandsFor (live : LiveAgent) (source : JournalStatusSource) (consumed : List (List UInt8))
    (file : Option StatusFile) : Prop :=
  Stands (source.journalFor live).cursor consumed file

theorem journalFor_update (source : JournalStatusSource) (live : LiveAgent)
    (cursor : AgentStatusCursor) :
    JournalStatusSource.journalFor
      (Function.update source live.chat (some { source.journalFor live with cursor })) live =
        { source.journalFor live with cursor } := by
  have session : (source.journalFor live).identity = live.identity ∧
      (source.journalFor live).generation = live.generation := by
    unfold JournalStatusSource.journalFor
    split
    · split
      · next same => exact same
      · exact ⟨rfl, rfl⟩
    · exact ⟨rfl, rfl⟩
  rw [JournalStatusSource.journalFor, Function.update_self]
  exact if_pos session

theorem StandsFor.poll {source after : JournalStatusSource} {consumed : List (List UInt8)}
    {file : Option StatusFile} {fault : Option ReadFault} {records : List MultAgentStatusRecord}
    (stands : StandsFor live source consumed file)
    (polled : source.poll host file fault live = (records, after)) :
    ∃ more, more.map host.decode = records.map some ∧
      StandsFor live after (consumed ++ more) file := by
  unfold JournalStatusSource.poll at polled
  cases done : host.readMultAgentStatusRecords file fault (source.journalFor live).cursor with
  | mk result cursor =>
    obtain ⟨still, onward⟩ := Stands.read stands done
    cases result with
    | none =>
      simp only [done] at polled
      cases polled
      refine ⟨[], rfl, ?_⟩
      rw [StandsFor, journalFor_update, List.append_nil]
      exact still
    | some found =>
      simp only [done] at polled
      cases polled
      obtain ⟨more, each, further⟩ := onward found rfl
      refine ⟨more, by rw [each, List.map_map]; rfl, ?_⟩
      rw [StandsFor, journalFor_update]
      exact further

theorem journalFor_congr {source after : JournalStatusSource}
    (same : after live.chat = source live.chat) : after.journalFor live = source.journalFor live := by
  unfold JournalStatusSource.journalFor
  rw [same]

theorem poll_other {source after : JournalStatusSource} {other : LiveAgent}
    {file : Option StatusFile} {fault : Option ReadFault} {records : List MultAgentStatusRecord}
    (apart : other.chat ≠ live.chat)
    (polled : source.poll host file fault other = (records, after)) :
    after live.chat = source live.chat := by
  unfold JournalStatusSource.poll at polled
  cases done : host.readMultAgentStatusRecords file fault (source.journalFor other).cursor with
  | mk result cursor =>
    cases result <;>
    · simp only [done] at polled
      cases polled
      exact Function.update_of_ne apart.symm _ _

def forwardedFor (live : LiveAgent) : StatusEvent → Option AgentStatus
  | .forwarded update _ =>
    if update.chatId = live.chat.raw ∧ update.generation = live.generation then some update.status
    else none
  | _ => none

def appliedFor (live : LiveAgent) : StatusEvent → Option AgentStatus
  | .forwarded update (.ok _) =>
    if update.chatId = live.chat.raw ∧ update.generation = live.generation then some update.status
    else none
  | _ => none

/-- The transitions of the session among lines of its journal. -/
def transitions (host : StatusHost) (live : LiveAgent) (lines : List (List UInt8)) :
    List AgentStatus :=
  lines.filterMap fun line => (host.decode line).bind (transition live)

/-- Behind every update that failed the daemon is asked for the status of the session. -/
def Reconciled (events : List StatusEvent) : Prop :=
  ∀ before update error after, events = before ++ .forwarded update (.error error) :: after →
    ∃ answer rest, after = .queried ⟨update.schemaVersion, update.identity, update.chatId,
      update.agent, update.generation⟩ answer :: rest

theorem Reconciled.append {first second : List StatusEvent} (left : Reconciled first)
    (right : Reconciled second) : Reconciled (first ++ second) := by
  intro before update error after whole
  rcases List.append_eq_append_iff.mp whole with ⟨middle, -, inside⟩ | ⟨middle, inside, rest⟩
  · exact right middle update error after inside
  · cases middle with
    | nil => exact right [] update error after rest.symm
    | cons event middle =>
      simp only [List.cons_append, List.cons.injEq] at rest
      obtain ⟨rfl, rfl⟩ := rest
      obtain ⟨answer, rest, rfl⟩ := left before update error middle inside
      exact ⟨answer, rest ++ second, rfl⟩

theorem transitions_of_decoded {lines : List (List UInt8)}
    {records : List MultAgentStatusRecord} (each : lines.map host.decode = records.map some) :
    transitions host live lines = records.filterMap (transition live) := by
  have together := congrArg
    (List.filterMap fun decoded : Option MultAgentStatusRecord => decoded.bind (transition live))
    each
  rw [List.filterMap_map, List.filterMap_map] at together
  exact together

/-! ## One drain -/

theorem chats_modifyChatById (project : ProjectState) (chat : ChatId)
    (change : ChatSession → ChatSession) :
    (project.modifyChatById chat change).chats =
      modifyFirst (fun session => session.id = chat) change project.chats :=
  flatMap_modifyFirst Workspace.chats (fun chats workspace => { workspace with chats })
    (fun _ _ => rfl) project.workspaces

theorem liveAgents_congr {project other : ProjectState}
    (chats : other.chats.map (fun chat => (chat.id, chat.agent)) =
      project.chats.map (fun chat => (chat.id, chat.agent)))
    (stateNamespace : other.stateNamespace = project.stateNamespace)
    (identities : other.sessionIdentities = project.sessionIdentities)
    (generations : other.agentGenerations = project.agentGenerations) :
    liveAgents other = liveAgents project := by
  have viewed : ∀ state : ProjectState, liveAgents state =
      (state.chats.map fun chat => (chat.id, chat.agent)).filterMap fun chat =>
        (state.agentGenerations[chat.1]?).bind fun generation =>
          ((state.sessionIdentities.get (.chatAgent chat.1)).map fun token =>
            ⟨state.stateNamespace, token⟩).map fun identity =>
              ⟨chat.1, chat.2, identity, generation⟩ := by
    intro state
    rw [List.filterMap_map]
    rfl
  rw [viewed, viewed, chats, stateNamespace, identities, generations]

theorem liveAgents_markChatStatusById (app : App) (chat : ChatId) (status : ChatStatus) :
    liveAgents (app.markChatStatusById chat status).2.project = liveAgents app.project := by
  simp only [App.markChatStatusById]
  split
  · rfl
  · split
    · refine liveAgents_congr ?_ rfl rfl rfl
      rw [chats_modifyChatById]
      exact map_modifyFirst _ (by intro; rfl) _
    · rfl

section Draining

variable {registered : PtyKey → Option SessionIdentity} {daemon : DaemonAnswers}

theorem reconcileAgentStatus_spec {identity : SessionIdentity}
    (known : registered (.chatAgent live.chat) = some identity)
    (answer : Except String (Option AgentStatusRecord)) (app : App) :
    ∃ rest, (reconcileAgentStatus registered answer app live.chat live.agent live.generation).1 =
        .queried ⟨Protocol.agentStatusSchemaVersion, identity, live.chat.raw,
          wireAgentKind live.agent, live.generation⟩ answer :: rest ∧
      (∀ event ∈ rest, ∃ key line, event = .appendTerminalSystemLine key line) ∧
      liveAgents (reconcileAgentStatus registered answer app live.chat live.agent
        live.generation).2.project = liveAgents app.project := by
  simp only [reconcileAgentStatus, known]
  split
  · split
    · exact ⟨[], rfl, by simp, liveAgents_markChatStatusById _ _ _⟩
    · exact ⟨[], rfl, by simp, rfl⟩
  · exact ⟨[], rfl, by simp, rfl⟩
  · exact ⟨_, rfl, by simp, rfl⟩

theorem forwardStatus_spec {drain after : Drain} {events : List StatusEvent}
    {identity : SessionIdentity} {status : AgentStatus}
    (known : registered (.chatAgent live.chat) = some identity)
    (sent : forwardStatus registered daemon live ⟨Protocol.agentStatusSchemaVersion, identity,
      live.chat.raw, wireAgentKind live.agent, live.generation, status⟩ drain = (events, after)) :
    (∀ other, events.filterMap (forwardedFor other) =
      if live.chat.raw = other.chat.raw ∧ live.generation = other.generation then [status]
      else []) ∧ Reconciled events ∧
      liveAgents after.app.project = liveAgents drain.app.project := by
  unfold forwardStatus at sent
  cases answered : daemon.update drain.sent with
  | ok accepted =>
    simp only [answered, Prod.mk.injEq] at sent
    obtain ⟨rfl, rfl⟩ := sent
    refine ⟨fun other => ?_, ?_, liveAgents_markChatStatusById _ _ _⟩
    · simp only [List.filterMap_cons, forwardedFor, List.filterMap_nil]
      split <;> simp_all
    · intro before update error rest whole
      cases before with
      | nil => cases whole
      | cons first more => exact absurd (congrArg List.length whole) (by simp)
  | error error =>
    -- The daemon does not answer: it is asked for the status it has, which forwards nothing.
    obtain ⟨lines, asked, onlyLines, agents⟩ :=
      reconcileAgentStatus_spec known (daemon.query drain.sent) drain.app
    simp only [answered, asked, Prod.mk.injEq] at sent
    obtain ⟨rfl, rfl⟩ := sent
    refine ⟨fun other => ?_, ?_, agents⟩
    · have quiet : lines.filterMap (forwardedFor other) = [] := by
        rw [List.filterMap_eq_nil_iff]
        intro event listed
        obtain ⟨key, line, rfl⟩ := onlyLines event listed
        rfl
      simp only [List.filterMap_cons, forwardedFor, quiet]
      split <;> simp_all
    · intro before update failure rest whole
      cases before with
      | nil =>
        simp only [List.nil_append, List.cons.injEq, StatusEvent.forwarded.injEq] at whole
        obtain ⟨⟨rfl, -⟩, rfl⟩ := whole
        exact ⟨_, lines, rfl⟩
      | cons first more =>
        simp only [List.cons_append, List.cons.injEq] at whole
        have listed : .forwarded update (.error failure) ∈ more ++
            .forwarded update (.error failure) :: rest := by simp
        rw [← whole.2] at listed
        rcases List.mem_cons.mp listed with same | later
        · cases same
        · obtain ⟨key, line, other⟩ := onlyLines _ later
          cases other

theorem forwardRecords_spec {records : List MultAgentStatusRecord} {drain after : Drain}
    {events : List StatusEvent}
    (forwarded : forwardRecords registered daemon live records drain = (events, after)) :
    Reconciled events ∧ liveAgents after.app.project = liveAgents drain.app.project ∧
      (∀ other : LiveAgent, live.chat ≠ other.chat →
        events.filterMap (forwardedFor other) = []) ∧
      (events.filterMap (forwardedFor live)).Sublist (records.filterMap (transition live)) ∧
      ((registered (.chatAgent live.chat)).isSome →
        events.filterMap (forwardedFor live) = records.filterMap (transition live)) := by
  induction records generalizing drain after events with
  | nil =>
    cases forwarded
    exact ⟨by simp [Reconciled], rfl, by simp, by simp, by simp⟩
  | cons record rest ih =>
    rw [forwardRecords] at forwarded
    cases moved : transition live record with
    | none =>
      simp only [moved] at forwarded
      rw [List.filterMap_cons_none moved]
      exact ih forwarded
    | some status =>
      simp only [moved] at forwarded
      rw [List.filterMap_cons_some moved]
      cases known : registered (.chatAgent live.chat) with
      | none =>
        simp only [known] at forwarded
        cases forwarded
        exact ⟨by simp [Reconciled], rfl, by simp, List.nil_sublist _, by simp⟩
      | some identity =>
        simp only [known] at forwarded
        cases sent : forwardStatus registered daemon live ⟨Protocol.agentStatusSchemaVersion,
          identity, live.chat.raw, wireAgentKind live.agent, live.generation, status⟩ drain with
        | mk own middle =>
        cases later : forwardRecords registered daemon live rest middle with
        | mk more last =>
        simp only [sent, later] at forwarded
        cases forwarded
        obtain ⟨first, reconciled, agents⟩ := forwardStatus_spec known sent
        obtain ⟨onward, others, apart, within, exactly⟩ := ih later
        -- The first record is forwarded, and then the rest from what that left.
        refine ⟨reconciled.append onward, others.trans agents, ?_, ?_, ?_⟩
        · intro other different
          have chats : live.chat.raw ≠ other.chat.raw := by
            intro same
            apply different
            cases one : live.chat
            cases two : other.chat
            rw [one, two] at same
            exact congrArg ChatId.mk same
          rw [List.filterMap_append, first, apart other different, if_neg (by simp [chats])]
          rfl
        · rw [List.filterMap_append, first, if_pos ⟨rfl, rfl⟩]
          exact within.cons_cons status
        · intro _
          rw [List.filterMap_append, first, if_pos ⟨rfl, rfl⟩, exactly (by simp [known])]
          rfl

variable {world : StatusWorld} {faults : ChatId → Option ReadFault}

theorem drainSessions_spec {lives : List LiveAgent} {source left : JournalStatusSource}
    {drain after : Drain} {events : List StatusEvent} {consumed : List (List UInt8)}
    (only : ∀ other ∈ lives, other.chat = live.chat → other = live)
    (stands : StandsFor live source consumed (world.files live.identity live.generation))
    (drained : drainSessions host world faults daemon lives source drain =
      (events, left, after)) :
    Reconciled events ∧ liveAgents after.app.project = liveAgents drain.app.project ∧
      ∃ more,
        StandsFor live left (consumed ++ more) (world.files live.identity live.generation) ∧
        (events.filterMap (forwardedFor live)).Sublist (transitions host live more) ∧
        ((world.registered (.chatAgent live.chat)).isSome →
          events.filterMap (forwardedFor live) = transitions host live more) := by
  induction lives generalizing source drain events consumed with
  | nil =>
    cases drained
    exact ⟨by simp [Reconciled], rfl, [], by simpa using stands, by simp, by simp [transitions]⟩
  | cons first rest ih =>
    rw [drainSessions] at drained
    cases polled : source.poll host (world.files first.identity first.generation)
      (faults first.chat) first with
    | mk records read =>
    cases forwarded : forwardRecords world.registered daemon first records drain with
    | mk own middle =>
    cases later : drainSessions host world faults daemon rest read middle with
    | mk others tail =>
    simp only [polled, forwarded, later] at drained
    cases drained
    rw [List.forall_mem_cons] at only
    obtain ⟨reconciled, agents, apart, within, exactly⟩ := forwardRecords_spec forwarded
    -- Only the session's own poll reads its journal; no other session has its chat.
    by_cases mine : first.chat = live.chat
    · cases only.1 mine
      obtain ⟨lines, each, reading⟩ := stands.poll polled
      obtain ⟨onward, same, more, standing, sublist, equal⟩ := ih only.2 reading later
      refine ⟨reconciled.append onward, same.trans agents, lines ++ more, ?_, ?_, ?_⟩
      · rw [← List.append_assoc]
        exact standing
      · rw [List.filterMap_append, transitions, List.filterMap_append]
        exact (transitions_of_decoded each ▸ within).append sublist
      · intro known
        rw [List.filterMap_append, transitions, List.filterMap_append, equal known,
          exactly known, ← transitions_of_decoded each]
        rfl
    · have still : StandsFor live read consumed (world.files live.identity live.generation) := by
        rw [StandsFor, journalFor_congr (poll_other mine polled)]
        exact stands
      obtain ⟨onward, same, more, standing, sublist, equal⟩ := ih only.2 still later
      refine ⟨reconciled.append onward, same.trans agents, more, standing, ?_⟩
      rw [List.filterMap_append, apart live mine]
      exact ⟨sublist, equal⟩

end Draining

/-! ## Runs -/

def UnderWay (live : LiveAgent) (project : ProjectState) : Prop :=
  live ∈ liveAgents project ∧ ∀ other ∈ liveAgents project, other.chat = live.chat → other = live

/-- The session stays under way, and its journal is only appended to. -/
def Attends (live : LiveAgent) (world : StatusWorld) : StatusAction → Prop
  | .write identity generation file =>
    identity = live.identity → generation = live.generation →
      ∀ before, world.files identity generation = some before →
        ∃ after, file = some after ∧ after.device = before.device ∧
          after.inode = before.inode ∧ before.bytes <+: after.bytes
  | .change app => UnderWay live app.project
  | .poll .. | .register _ => True

/-- As `Attends`, and the client has the session's identity registered whenever it polls. -/
def AttendsRegistered (live : LiveAgent) (world : StatusWorld) (action : StatusAction) : Prop :=
  Attends live world action ∧
    ∀ now faults daemon, action = .poll now faults daemon →
      (world.registered (.chatAgent live.chat)).isSome

/-- The transitions of the session that its journal holds. -/
def journalTransitions (host : StatusHost) (live : LiveAgent) (world : StatusWorld) :
    List AgentStatus :=
  (world.files live.identity live.generation).elim [] fun file =>
    transitions host live (lines newline file.bytes)

/-- What has been forwarded of the session is what has been read of its journal, but for what was
read while its identity was not registered. -/
structure ReadOn (host : StatusHost) (live : LiveAgent) (steady : Prop) (world : StatusWorld)
    (past : List StatusEvent) : Prop where
  underWay : UnderWay live world.app.project
  reconciled : Reconciled past
  read : ∃ consumed,
    StandsFor live world.bridge.source consumed (world.files live.identity live.generation) ∧
    (past.filterMap (forwardedFor live)).Sublist (transitions host live consumed) ∧
    (steady → past.filterMap (forwardedFor live) = transitions host live consumed)

theorem ReadOn.poll {steady : Prop} {world : StatusWorld} {past : List StatusEvent} {now : Nat}
    {faults : ChatId → Option ReadFault} {daemon : DaemonAnswers}
    (readOn : ReadOn host live steady world past)
    (registered : steady → (world.registered (.chatAgent live.chat)).isSome) :
    ReadOn host live steady (drainMultAgentStatusEvents host world now faults daemon).2.2
      (past ++ (drainMultAgentStatusEvents host world now faults daemon).2.1) := by
  obtain ⟨consumed, stands, sublist, equal⟩ := readOn.read
  unfold drainMultAgentStatusEvents
  split
  · have kept : StandsFor live
        (world.bridge.source.retain ((liveAgents world.app.project).map LiveAgent.chat)) consumed
        (world.files live.identity live.generation) := by
      rw [StandsFor, journalFor_congr]
      · exact stands
      · exact if_pos (List.mem_map_of_mem readOn.underWay.1)
    cases drained : drainSessions host world faults daemon (liveAgents world.app.project)
      (world.bridge.source.retain ((liveAgents world.app.project).map LiveAgent.chat))
      ⟨world.app, false, 0⟩ with
    | mk events left =>
    obtain ⟨reconciled, agents, more, standing, within, exactly⟩ :=
      drainSessions_spec readOn.underWay.2 kept drained
    simp only [drained]
    refine ⟨?_, readOn.reconciled.append reconciled, consumed ++ more, standing, ?_, ?_⟩
    · rw [UnderWay, agents]
      exact readOn.underWay
    · rw [List.filterMap_append, transitions, List.filterMap_append]
      exact sublist.append within
    · intro steadily
      rw [List.filterMap_append, transitions, List.filterMap_append, equal steadily,
        exactly (registered steadily)]
      rfl
  · rw [List.append_nil]
    exact readOn

theorem Stands.write {cursor : AgentStatusCursor} {consumed : List (List UInt8)}
    {before after : Option StatusFile} (stands : Stands cursor consumed before)
    (grows : ∀ file, before = some file → ∃ longer, after = some longer ∧
      longer.device = file.device ∧ longer.inode = file.inode ∧ file.bytes <+: longer.bytes) :
    Stands cursor consumed after := by
  refine ⟨stands.clean, stands.offset, fun some => ?_⟩
  obtain ⟨opened, found, device, inode, start⟩ := stands.begins some
  obtain ⟨longer, same, onDevice, onInode, grown⟩ := grows opened found
  exact ⟨longer, same, onDevice.trans device, onInode.trans inode, start.trans grown⟩

theorem ReadOn.step {steady : Prop} {world next : StatusWorld} {past events : List StatusEvent}
    {action : StatusAction} (readOn : ReadOn host live steady world past)
    (attends : Attends live world action)
    (registered : steady → ∀ now faults daemon, action = .poll now faults daemon →
      (world.registered (.chatAgent live.chat)).isSome)
    (stepped : (statusBridge host).step world action = some (next, events)) :
    ReadOn host live steady next (past ++ events) := by
  cases action with
  | poll now faults daemon =>
    cases stepped
    exact readOn.poll fun steadily => registered steadily now faults daemon rfl
  | write identity generation file =>
    cases stepped
    obtain ⟨consumed, stands, forwarded⟩ := readOn.read
    rw [List.append_nil]
    refine ⟨readOn.underWay, readOn.reconciled, consumed, ?_, forwarded⟩
    dsimp only
    split
    · next same =>
      obtain ⟨rfl, rfl⟩ := same
      exact stands.write (attends rfl rfl)
    · exact stands
  | register registered =>
    cases stepped
    rw [List.append_nil]
    exact ⟨readOn.underWay, readOn.reconciled, readOn.read⟩
  | change app =>
    cases stepped
    rw [List.append_nil]
    exact ⟨attends, readOn.reconciled, readOn.read⟩

theorem ReadOn.run {steady : Prop} {first last : StatusWorld} {more : List StatusEvent}
    (unread : ∀ journal, first.bridge.source live.chat = some journal →
      journal.identity = live.identity → journal.generation ≠ live.generation)
    (underWay : UnderWay live first.app.project)
    (run : ((statusBridge host).onward first).Run (fun world action => Attends live world action ∧
      (steady → ∀ now faults daemon, action = .poll now faults daemon →
        (world.registered (.chatAgent live.chat)).isSome)) last more) :
    ReadOn host live steady last more := by
  refine run.invariant ?_ ?_
  · intro state initial
    cases initial
    refine ⟨underWay, by simp [Reconciled], [], ?_, by simp, by simp [transitions]⟩
    have fresh : (first.bridge.source.journalFor live).cursor = .initial := by
      unfold JournalStatusSource.journalFor
      split
      · next journal found =>
        rw [if_neg fun same => unread journal found same.1 same.2]
      · rfl
    rw [StandsFor, fresh]
    exact .initial _
  · intro _ _ _ _ _ _ readOn permitted stepped
    exact readOn.step permitted.1 permitted.2 stepped

theorem StandsFor.prefix_journal {world : StatusWorld} {consumed : List (List UInt8)}
    (stands : StandsFor live world.bridge.source consumed
      (world.files live.identity live.generation)) :
    transitions host live consumed <+: journalTransitions host live world := by
  by_cases none : consumed = []
  · rw [none]
    exact List.nil_prefix
  · obtain ⟨file, found, -, -, rest, whole⟩ := stands.begins none
    rw [journalTransitions, found, Option.elim_some, ← whole, lines_append _ stands.clean,
      transitions, transitions, List.filterMap_append]
    exact List.prefix_append _ _

theorem appliedFor_sublist (events : List StatusEvent) :
    (events.filterMap (appliedFor live)).Sublist (events.filterMap (forwardedFor live)) := by
  induction events with
  | nil => exact .slnil
  | cons event rest ih =>
    cases event with
    | forwarded update answer =>
      cases answer with
      | ok accepted =>
        simp only [List.filterMap_cons, appliedFor, forwardedFor]
        split
        · exact ih
        · exact ih.cons_cons _
      | error error =>
        simp only [List.filterMap_cons, appliedFor, forwardedFor]
        split
        · exact ih
        · exact ih.cons _
    | queried query answer => exact ih
    | appendTerminalSystemLine terminal line => exact ih

/-- Of a session under way whose journal has not been read, the statuses forwarded are in the
order of the journal and each is forwarded at most once; nothing is passed over while the session
is registered. Those applied are among them, and behind each that failed the daemon is asked. -/
theorem transitions_forwarded_in_order {first last : StatusWorld} {more : List StatusEvent}
    (unread : ∀ journal, first.bridge.source live.chat = some journal →
      journal.identity = live.identity → journal.generation ≠ live.generation)
    (underWay : UnderWay live first.app.project)
    (run : ((statusBridge host).onward first).Run (Attends live) last more) :
    (more.filterMap (forwardedFor live)).Sublist (journalTransitions host live last) ∧
      (((statusBridge host).onward first).Run (AttendsRegistered live) last more →
        more.filterMap (forwardedFor live) <+: journalTransitions host live last) ∧
      (more.filterMap (appliedFor live)).Sublist (more.filterMap (forwardedFor live)) ∧
      Reconciled more := by
  have readOn : ReadOn host live False last more :=
    .run unread underWay (run.mono fun _ _ attends => ⟨attends, False.elim⟩)
  obtain ⟨consumed, stands, sublist, -⟩ := readOn.read
  refine ⟨sublist.trans stands.prefix_journal.sublist, fun registered => ?_,
    appliedFor_sublist more, readOn.reconciled⟩
  have exactly : ReadOn host live True last more :=
    .run unread underWay (registered.mono fun _ _ permitted => ⟨permitted.1, fun _ => permitted.2⟩)
  obtain ⟨passed, standing, -, equal⟩ := exactly.read
  rw [equal trivial]
  exact standing.prefix_journal

def oneAgent : LiveAgent :=
  ⟨⟨1⟩, .pi, ⟨⟨1, Protocol.bytes_one⟩, ⟨2, Protocol.bytes_two⟩⟩, ⟨3, Protocol.bytes_three⟩⟩

/-- A line as the status script of the agent prints it. -/
def statusLine (status : String) : List UInt8 :=
  List.flatMap ascii
    ["\x7b\"version\":1,\"namespace\":\"", "00000000000000000000000000000001",
      "\",\"sessionToken\":\"", "00000000000000000000000000000002",
      "\",\"chatId\":\"1\",\"agentKind\":\"pi\",\"generation\":\"",
      "00000000000000000000000000000003", "\",\"status\":\"", status, "\"\x7d"]

def statusRecord (status : String) : MultAgentStatusRecord :=
  ⟨1, displayIdentity 1, displayIdentity 2, "1", "pi", displayIdentity 3, status⟩

def sampleHost : StatusHost where
  effectiveUid := 1000
  decode line :=
    if line = statusLine "running" then some (statusRecord "running")
    else if line = statusLine "waiting" then some (statusRecord "waiting")
    else none

/-- A client with one agent chat, whose journal holds two records. -/
def twoTransitions : StatusWorld where
  app := .new
    { version := stateVersion
      stateNamespace := oneAgent.identity.stateNamespace
      sessionIdentities := ⟨(∅ : BTreeMap ChatId SessionToken).insert ⟨1⟩ oneAgent.identity.token, ∅⟩
      agentGenerations := (∅ : BTreeMap ChatId AgentGeneration).insert ⟨1⟩ oneAgent.generation
      nextWorkspaceId := 2
      nextChatId := 2
      nextTerminalId := 1
      workspaces := [⟨⟨1⟩, "workspace", none, none, ∅, [⟨⟨1⟩, "agent", .idle, .pi, []⟩], []⟩] }
  bridge := ⟨fun _ => none, none⟩
  registered key := if key = .chatAgent ⟨1⟩ then some oneAgent.identity else none
  files _ _ := some ⟨8, 9, true, 1000, 1, 0o600,
    statusLine "running" ++ [newline] ++ statusLine "waiting" ++ [newline]⟩

/-- The first update of a drain fails. -/
def firstFails : DaemonAnswers where
  update
    | 0 => .error "daemon connection failed"
    | _ => .ok ⟨1, oneAgent.identity, 1, .pi, oneAgent.generation, .waiting⟩
  query _ := .error "daemon connection failed"

theorem oneAgent_underWay : UnderWay oneAgent twoTransitions.app.project := by
  have agents : liveAgents twoTransitions.app.project = [oneAgent] := by decide
  simp [UnderWay, agents]

theorem transitions_forwarded_in_order_firstFails : ∃ last more,
    ((statusBridge sampleHost).onward twoTransitions).Run (Attends oneAgent) last more ∧
      more.filterMap (forwardedFor oneAgent) = [.running, .waiting] ∧
      (more.filterMap (forwardedFor oneAgent)).Sublist
        (journalTransitions sampleHost oneAgent last) ∧
      more.filterMap (forwardedFor oneAgent) <+: journalTransitions sampleHost oneAgent last := by
  have attends : Attends oneAgent twoTransitions (.poll 0 (fun _ => none) firstFails) := trivial
  have told : (((statusBridge sampleHost).onward twoTransitions).step twoTransitions
      (.poll 0 (fun _ => none) firstFails)).map
        (fun made => made.2.filterMap (forwardedFor oneAgent)) = some [.running, .waiting] := by
    decide +kernel
  obtain ⟨⟨last, events⟩, stepped, forwarded⟩ := Option.map_eq_some_iff.mp told
  have registered : ((statusBridge sampleHost).onward twoTransitions).Run
      (AttendsRegistered oneAgent) last ([] ++ events) :=
    .step (.start rfl) ⟨attends, fun _ _ _ _ => by decide⟩ stepped
  have run := registered.mono fun _ _ permitted => permitted.1
  obtain ⟨sublist, keepsPrefix, -, -⟩ :=
    transitions_forwarded_in_order (by simp [twoTransitions]) oneAgent_underWay run
  exact ⟨_, _, run, forwarded, sublist, keepsPrefix registered⟩

/-- The second status is applied and the first never is: it was passed over when it failed. -/
theorem failed_transition_is_passed_over : ∃ last more,
    (statusBridge sampleHost).Reaches last more ∧
      more.filterMap (appliedFor oneAgent) = [.waiting] ∧
      journalTransitions sampleHost oneAgent last = [.running, .waiting] ∧
      ¬ more.filterMap (appliedFor oneAgent) <+: journalTransitions sampleHost oneAgent last := by
  have initial : (statusBridge sampleHost).start twoTransitions := fun _ => rfl
  obtain ⟨last, more, reached, tested⟩ := (statusBridge sampleHost).exists_reaches initial
    [.poll 0 (fun _ => none) firstFails, .poll 250 (fun _ => none) firstFails]
    (fun last more => more.filterMap (appliedFor oneAgent) = [.waiting] ∧
      journalTransitions sampleHost oneAgent last = [.running, .waiting]) (by decide +kernel)
  rw [decide_eq_true_eq] at tested
  refine ⟨last, more, reached, tested.1, tested.2, ?_⟩
  rw [tested.1, tested.2]
  decide

end Mult.Runtime
