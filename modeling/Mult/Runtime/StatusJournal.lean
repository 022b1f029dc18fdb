import Mult.Foundation.Lines
import Mult.Foundation.Machine
import Mult.Runtime.PtyEvents

/-! The agent status bridge: the status journals that agents append to, read chat by chat and
forwarded to the daemon, which stays authoritative.
-/

set_option autoImplicit false

namespace Mult.Runtime
open Foundation Project Client
open Protocol (SessionIdentity AgentGeneration AgentStatus AgentStatusRecord AgentStatusQuery
  agentStatusSchemaVersion)

structure MultAgentStatusRecord where
  version : Nat
  stateNamespace : String
  sessionToken : String
  chatId : String
  agentKind : String
  generation : String
  status : String
  deriving DecidableEq, Repr

/-- An opaque identity as its 32 lower-case hexadecimal digits. -/
def displayIdentity (bytes : BitVec 128) : String :=
  String.ofList ((List.range 32).map fun place =>
    Nat.digitChar (bytes.toNat / 16 ^ (31 - place) % 16))

def agentStatusKind : AgentKind → String
  | .pi => "pi"
  | .claudeCode => "claude_code"
  | .codex => "codex"

def wireAgentKind : AgentKind → Protocol.AgentKind
  | .pi => .pi
  | .claudeCode => .claudeCode
  | .codex => .codex

/-- The agent session of a chat whose journal is read. -/
structure LiveAgent where
  chat : ChatId
  agent : AgentKind
  identity : SessionIdentity
  generation : AgentGeneration
  deriving DecidableEq, Repr

def statusRecordMatches (record : MultAgentStatusRecord) (live : LiveAgent) : Bool :=
  record.version = agentStatusSchemaVersion &&
    record.stateNamespace = displayIdentity live.identity.stateNamespace.bytes &&
    record.sessionToken = displayIdentity live.identity.token.bytes &&
    record.chatId = toString live.chat.raw &&
    record.agentKind = agentStatusKind live.agent &&
    record.generation = displayIdentity live.generation.bytes

def multAgentStatus : String → Option AgentStatus
  | "idle" => some .idle
  | "running" => some .running
  | "waiting" => some .waiting
  | "error" => some .failed
  | "finished" => some .finished
  | _ => none

def maxStatusRecordBytes : Nat := 4 * 1024

def maxStatusFileBytes : Nat := 1024 * 1024

def newline : UInt8 := 10

/-- What opening a journal finds. -/
structure StatusFile where
  device : Nat
  inode : Nat
  regular : Bool
  owner : Nat
  links : Nat
  mode : Nat
  bytes : List UInt8
  deriving DecidableEq, Repr

structure AgentStatusCursor where
  device : Nat
  inode : Nat
  offset : Nat
  deriving DecidableEq, Repr

def AgentStatusCursor.initial : AgentStatusCursor := ⟨0, 0, 0⟩

/-- A cursor into another file, or past the end of this one, starts over. -/
def AgentStatusCursor.follow (cursor : AgentStatusCursor) (file : StatusFile) :
    AgentStatusCursor :=
  if cursor.device ≠ file.device ∨ cursor.inode ≠ file.inode ∨ file.bytes.length < cursor.offset
  then ⟨file.device, file.inode, 0⟩ else cursor

/-- Where reading a journal fails: before its metadata is known, or behind that. -/
inductive ReadFault where
  | opening
  | reading
  deriving DecidableEq, Repr

/-- The user the client runs as, and how it decodes one line of a journal. -/
structure StatusHost where
  effectiveUid : Nat
  decode : List UInt8 → Option MultAgentStatusRecord

namespace StatusHost

variable (host : StatusHost)

/-- Whether the journal is a private regular file of the user. -/
def accepts (file : StatusFile) : Bool :=
  file.regular && file.owner = host.effectiveUid && file.links = 1 && file.mode &&& 0o077 = 0 &&
    file.bytes.length ≤ maxStatusFileBytes

def parseLines (offset : Nat) : List (List UInt8) → Option (List (MultAgentStatusRecord × Nat))
  | [] => some []
  | encoded :: rest =>
    if encoded = [] ∨ maxStatusRecordBytes < encoded.length then none
    else
      (host.decode encoded).bind fun record =>
        (parseLines (offset + (encoded.length + 1)) rest).map fun records =>
          (record, offset + (encoded.length + 1)) :: records

def readMultAgentStatusRecords (file : Option StatusFile) (fault : Option ReadFault)
    (cursor : AgentStatusCursor) :
    Option (List (MultAgentStatusRecord × Nat)) × AgentStatusCursor :=
  if fault = some .opening then (none, cursor)
  else
    match file with
    | none => (some [], cursor)
    | some file =>
      if host.accepts file then
        let cursor := cursor.follow file
        if fault = some .reading then (none, cursor)
        else
          let remaining := maxStatusFileBytes - cursor.offset
          let bytes := (file.bytes.drop cursor.offset).take (remaining + 1)
          if remaining < bytes.length then (none, cursor)
          else (host.parseLines cursor.offset (lines newline bytes), cursor)
      else (none, cursor)

end StatusHost

structure AgentStatusJournal where
  identity : SessionIdentity
  generation : AgentGeneration
  cursor : AgentStatusCursor
  deriving DecidableEq, Repr

abbrev JournalStatusSource : Type := ChatId → Option AgentStatusJournal

namespace JournalStatusSource

/-- The cached journal of the session, started over where the cached one is of another. -/
def journalFor (source : JournalStatusSource) (live : LiveAgent) : AgentStatusJournal :=
  match source live.chat with
  | some journal =>
    if journal.identity = live.identity ∧ journal.generation = live.generation then journal
    else ⟨live.identity, live.generation, .initial⟩
  | none => ⟨live.identity, live.generation, .initial⟩

/-- The records appended since the last call. The cursor moves past every one handed over. -/
def poll (source : JournalStatusSource) (host : StatusHost) (file : Option StatusFile)
    (fault : Option ReadFault) (live : LiveAgent) :
    List MultAgentStatusRecord × JournalStatusSource :=
  let journal := source.journalFor live
  match host.readMultAgentStatusRecords file fault journal.cursor with
  | (none, cursor) => ([], Function.update source live.chat (some { journal with cursor }))
  | (some records, cursor) =>
    let offset := records.getLast?.elim cursor.offset Prod.snd
    (records.map Prod.fst,
      Function.update source live.chat (some { journal with cursor := { cursor with offset } }))

def retain (source : JournalStatusSource) (live : List ChatId) : JournalStatusSource :=
  fun chat => if chat ∈ live then source chat else none

end JournalStatusSource

/-- What the daemon answers to the successive calls of one drain. -/
structure DaemonAnswers where
  update : Nat → Except String AgentStatusRecord
  query : Nat → Except String (Option AgentStatusRecord)

inductive StatusEvent where
  | forwarded (update : AgentStatusRecord) (answer : Except String AgentStatusRecord)
  | queried (query : AgentStatusQuery) (answer : Except String (Option AgentStatusRecord))
  | appendTerminalSystemLine (terminal : PtyKey) (line : String)

/-- A drain under way: the app as it is by now, whether it changed, and how many updates were
sent. -/
structure Drain where
  app : App
  changed : Bool
  sent : Nat

def reconcileAgentStatus (registered : PtyKey → Option SessionIdentity)
    (answer : Except String (Option AgentStatusRecord)) (app : App) (chat : ChatId)
    (agent : AgentKind) (generation : AgentGeneration) : List StatusEvent × App :=
  match registered (.chatAgent chat) with
  | none => ([], app)
  | some identity =>
    let asked : StatusEvent := .queried
      ⟨agentStatusSchemaVersion, identity, chat.raw, wireAgentKind agent, generation⟩ answer
    match answer with
    | .ok (some record) =>
      if record.generation = generation then
        ([asked], (app.markChatStatusById chat (chatStatusFromAgentStatus record.status)).2)
      else ([asked], app)
    | .ok none => ([asked], app)
    | .error error =>
      ([asked, .appendTerminalSystemLine (.chatAgent chat)
        ("failed to reconcile daemon agent status: " ++ error)], app)

def forwardStatus (registered : PtyKey → Option SessionIdentity) (daemon : DaemonAnswers)
    (live : LiveAgent) (update : AgentStatusRecord) (drain : Drain) : List StatusEvent × Drain :=
  match daemon.update drain.sent with
  | .ok accepted =>
    let (moved, app) :=
      drain.app.markChatStatusById live.chat (chatStatusFromAgentStatus accepted.status)
    ([.forwarded update (.ok accepted)], ⟨app, drain.changed || moved, drain.sent + 1⟩)
  | .error error =>
    let (asked, app) := reconcileAgentStatus registered (daemon.query drain.sent) drain.app
      live.chat live.agent live.generation
    (.forwarded update (.error error) :: asked, ⟨app, drain.changed, drain.sent + 1⟩)

/-- The status that a record moves the session to, where it is addressed to the session. -/
def transition (live : LiveAgent) (record : MultAgentStatusRecord) : Option AgentStatus :=
  if statusRecordMatches record live then multAgentStatus record.status else none

/-- Forwards the records of one session; without a registered identity the rest is dropped. -/
def forwardRecords (registered : PtyKey → Option SessionIdentity) (daemon : DaemonAnswers)
    (live : LiveAgent) : List MultAgentStatusRecord → Drain → List StatusEvent × Drain
  | [], drain => ([], drain)
  | record :: rest, drain =>
    match transition live record with
    | none => forwardRecords registered daemon live rest drain
    | some status =>
      match registered (.chatAgent live.chat) with
      | none => ([], drain)
      | some identity =>
        let (events, drain) := forwardStatus registered daemon live
          ⟨agentStatusSchemaVersion, identity, live.chat.raw, wireAgentKind live.agent,
            live.generation, status⟩ drain
        let (more, drain) := forwardRecords registered daemon live rest drain
        (events ++ more, drain)

def liveAgents (project : ProjectState) : List LiveAgent :=
  project.chats.filterMap fun chat =>
    (project.activeAgentGeneration chat.id).bind fun generation =>
      (project.sessionIdentity (.chatAgent chat.id)).map fun identity =>
        ⟨chat.id, chat.agent, identity, generation⟩

structure AgentStatusBridge where
  source : JournalStatusSource
  lastPoll : Option Nat

def agentStatusPollInterval : Nat := 250

/-- Whether the journals are due to be polled at the millisecond. -/
def AgentStatusBridge.isDue (bridge : AgentStatusBridge) (now : Nat) : Bool :=
  bridge.lastPoll.all fun last => agentStatusPollInterval ≤ now - last

/-- The client's side of the bridge, and the journals as they stand. -/
structure StatusWorld where
  app : App
  bridge : AgentStatusBridge
  registered : PtyKey → Option SessionIdentity
  files : SessionIdentity → AgentGeneration → Option StatusFile

def drainSessions (host : StatusHost) (world : StatusWorld) (faults : ChatId → Option ReadFault)
    (daemon : DaemonAnswers) :
    List LiveAgent → JournalStatusSource → Drain → List StatusEvent × JournalStatusSource × Drain
  | [], source, drain => ([], source, drain)
  | live :: rest, source, drain =>
    let (records, source) := source.poll host (world.files live.identity live.generation)
      (faults live.chat) live
    let (events, drain) := forwardRecords world.registered daemon live records drain
    let (more, source, drain) := drainSessions host world faults daemon rest source drain
    (events ++ more, source, drain)

def drainMultAgentStatusEvents (host : StatusHost) (world : StatusWorld) (now : Nat)
    (faults : ChatId → Option ReadFault) (daemon : DaemonAnswers) :
    Bool × List StatusEvent × StatusWorld :=
  if world.bridge.isDue now then
    let chats := liveAgents world.app.project
    let source := world.bridge.source.retain (chats.map LiveAgent.chat)
    let (events, source, drain) :=
      drainSessions host world faults daemon chats source ⟨world.app, false, 0⟩
    (drain.changed, events, { world with app := drain.app, bridge := ⟨source, some now⟩ })
  else (false, [], world)

/-- What happens to the bridge: a poll, an agent that writes to its journal, a change of what the
client has registered, or anything else the client does to its project. -/
inductive StatusAction where
  | poll (now : Nat) (faults : ChatId → Option ReadFault) (daemon : DaemonAnswers)
  | write (identity : SessionIdentity) (generation : AgentGeneration) (file : Option StatusFile)
  | register (registered : PtyKey → Option SessionIdentity)
  | change (app : App)

/-- The bridge from a client's start on, when no journal has been read. -/
def statusBridge (host : StatusHost) : Machine StatusWorld StatusAction StatusEvent where
  start world := ∀ chat, world.bridge.source chat = none
  step world
    | .poll now faults daemon =>
      let (_, events, world) := drainMultAgentStatusEvents host world now faults daemon
      some (world, events)
    | .write identity generation file =>
      some ({ world with
        files := fun other of =>
          if other = identity ∧ of = generation then file else world.files other of }, [])
    | .register registered => some ({ world with registered }, [])
    | .change app => some ({ world with app }, [])

end Mult.Runtime
