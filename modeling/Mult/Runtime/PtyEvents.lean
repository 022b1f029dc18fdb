import Mult.App.Mutate
import Mult.Protocol.Messages

/-! What the render loop does with the events drained from the panes. -/

set_option autoImplicit false

namespace Mult.Client
open Project

structure PtyExit where
  code : Nat
  signal : Option String
  deriving DecidableEq, Repr

/-- Whether the program ended by finishing rather than by failing. -/
def PtyExit.finishedCleanly (exit : PtyExit) : Bool := exit.code == 0 && exit.signal.isNone

def PtyExit.label (exit : PtyExit) : String :=
  match exit.signal with
  | some signal => "terminated by " ++ signal
  | none => "exit " ++ toString exit.code

inductive PtyEvent where
  | scrollback (terminal : PtyKey) (byteCount : Nat)
  | replayTruncated (terminal : PtyKey) (omittedBytes : Nat)
  | output (terminal : PtyKey) (byteCount : Nat)
  | takenOver (terminal : PtyKey)
  | exited (terminal : PtyKey) (status : PtyExit)
  | error (terminal : PtyKey) (message : String)
  | stopFailed (message : String)
  | connectionError (message : String)
  deriving DecidableEq, Repr

end Mult.Client

namespace Mult.Runtime
open Project Client
open Protocol (SessionIdentity AgentGeneration AgentStatus)

def AgentKind.displayName : AgentKind → String
  | .pi => "pi"
  | .claudeCode => "Claude Code"
  | .codex => "Codex"

/-- What an applied event asks of the panes, the status surface and the file system. -/
inductive Effect where
  | appendTerminalSystemLine (terminal : PtyKey) (line : String)
  | removeTerminal (terminal : PtyKey)
  | pushNotice (text : String)
  | removeStatusJournal (identity : SessionIdentity) (generation : AgentGeneration)
  deriving DecidableEq, Repr

def chatAgentKind (app : App) (chat : ChatId) : AgentKind :=
  ((app.project.chats.find? fun session => session.id = chat).map ChatSession.agent).getD .pi

/-- Drops a terminal whose program finished; empty where its row was already gone. -/
def closeFinishedTerminal (app : App) (terminal : TerminalId) : List Effect × App :=
  let (removed, app) := app.removeFinishedTerminal terminal
  (removed.map .removeTerminal, app)

def applyChatExit (app : App) (chat : ChatId) (status : PtyExit) : List Effect × App :=
  let agent := chatAgentKind app chat
  let app := (app.markChatStatusById chat (if status.code = 0 then .done else .failed)).2
  let (journal, app) : List Effect × App :=
    match app.project.sessionIdentity (.chatAgent chat), app.project.activeAgentGeneration chat with
    | some identity, some generation =>
      ([.removeStatusJournal identity generation], (app.clearAgentGeneration chat generation).2)
    | _, _ => ([], app)
  let app := if app.ptyInputTarget = some (.chatAgent chat) then app.endPtyInput else app
  (journal ++ [.appendTerminalSystemLine (.chatAgent chat)
    (AgentKind.displayName agent ++ " agent exited: " ++ status.label)], app)

def applyTerminalExit (app : App) (terminal : TerminalId) (status : PtyExit) : List Effect × App :=
  let app := app.recordTerminalStopped terminal
  let app := if app.terminalInputTarget = some terminal then app.endPtyInput else app
  let kept : List Effect :=
    [.appendTerminalSystemLine (.terminal terminal) ("PTY exited: " ++ status.label)]
  -- Only a program that finished takes its pane with it: after a failure the last screen stays.
  if status.finishedCleanly then
    match closeFinishedTerminal app terminal with
    | ([], app) => (kept, app)
    | (closed, app) => (closed, app)
  else (kept, app)

def applyTakenOver (app : App) (terminal : PtyKey) : List Effect × App :=
  let app := match terminal with
    | .chatAgent chat => (app.markChatStatusById chat .failed).2
    | .terminal terminal => app.recordTerminalStopped terminal
  let app := if app.ptyInputTarget = some terminal then app.endPtyInput else app
  ([.appendTerminalSystemLine terminal "PTY attachment was taken over by another client"], app)

def applyPtyEvent (app : App) : PtyEvent → List Effect × App
  | .scrollback .. | .output .. | .replayTruncated .. => ([], app)
  | .takenOver terminal => applyTakenOver app terminal
  | .exited (.chatAgent chat) status => applyChatExit app chat status
  | .exited (.terminal terminal) status => applyTerminalExit app terminal status
  | .error terminal message => ([.appendTerminalSystemLine terminal message], app)
  | .stopFailed message | .connectionError message => ([.pushNotice message], app)

def chatStatusFromAgentStatus : AgentStatus → ChatStatus
  | .idle => .idle
  | .running => .thinking
  | .waiting => .waiting
  | .finished | .exited => .done
  | .failed => .failed

end Mult.Runtime
