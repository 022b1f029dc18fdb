import Mult.App.Mutate

/-! The transcripts of chats, and the events of agents that write them. -/

set_option autoImplicit false

namespace Mult.Project

def maxChatMessageBytes : Nat := 64 * 1024
def chatMessageTruncationNotice : String := "\n[truncated]"

/-- The longest part from the start that fits into the bytes and splits no character. -/
def charsWithin : Nat → List Char → List Char
  | _, [] => []
  | budget, c :: rest =>
      if c.utf8Size ≤ budget then c :: charsWithin (budget - c.utf8Size) rest else []

/-- The message with the text behind it, as far as messages go; nothing where it is full. -/
def pushCappedMessageText (existing text : String) : Option String :=
  let contentLimit := maxChatMessageBytes - chatMessageTruncationNotice.utf8ByteSize
  let budget := contentLimit - existing.utf8ByteSize
  if budget = 0 then none
  else if text.utf8ByteSize ≤ budget then some (existing ++ text)
  else some (existing ++ String.ofList (charsWithin budget text.toList) ++
    chatMessageTruncationNotice)

namespace ProjectState

def withMessages (state : ProjectState) (workspaceId : WorkspaceId) (chatId : ChatId)
    (messages : List ChatMessage) : ProjectState :=
  state.modifyChat workspaceId chatId fun session => { session with messages }

def newMessage (role : ChatMessageRole) (text : String) : ChatMessage :=
  ⟨role, (pushCappedMessageText "" text).getD ""⟩

/-- Adds a message; whether anything was added. -/
def appendChatMessage (state : ProjectState) (workspaceId : WorkspaceId) (chatId : ChatId)
    (role : ChatMessageRole) (text : String) : Bool × ProjectState :=
  if text = "" then (false, state)
  else
    match state.chat workspaceId chatId with
    | none => (false, state)
    | some session =>
      (true, state.withMessages workspaceId chatId (session.messages ++ [newMessage role text]))

/-- Adds to the last message where it has the role, and else a message of its own. -/
def appendChatDelta (state : ProjectState) (workspaceId : WorkspaceId) (chatId : ChatId)
    (role : ChatMessageRole) (text : String) : Bool × ProjectState :=
  if text = "" then (false, state)
  else
    match state.chat workspaceId chatId with
    | none => (false, state)
    | some session =>
      match session.messages.getLast?.filter fun message => message.role = role with
      | none =>
        (true, state.withMessages workspaceId chatId (session.messages ++ [newMessage role text]))
      | some message =>
        -- A full message takes no more, and says so.
        match pushCappedMessageText message.text text with
        | none => (false, state)
        | some text =>
          (true, state.withMessages workspaceId chatId
            (session.messages.dropLast ++ [{ message with text }]))

end ProjectState

end Mult.Project

namespace Mult.App
open Project

structure AgentTarget where
  workspace : WorkspaceId
  chat : ChatId
  deriving DecidableEq, Repr

inductive AgentMessageRole where
  | user
  | assistant
  | system
  | tool
  deriving DecidableEq, Repr

inductive AgentEvent where
  | messageDelta (target : AgentTarget) (role : AgentMessageRole) (text : String)
  | toolCall (target : AgentTarget) (name arguments : String)
  | fileChanged (target : AgentTarget) (path : PathBuf)
  | commandStarted (target : AgentTarget) (command : String)
  | statusChanged (target : AgentTarget) (status : ChatStatus)
  | error (target : AgentTarget) (message : String)
  deriving DecidableEq, Repr

def chatRoleFromAgent : AgentMessageRole → ChatMessageRole
  | .user => .user
  | .assistant => .assistant
  | .system => .system
  | .tool => .tool

/-- The client after a change of a transcript that reports whether it changed anything. -/
def record (app : App) (changed : Bool × ProjectState) : App :=
  { app with project := changed.2, dirty := app.dirty || changed.1 }

def appendChatMessage (app : App) (target : AgentTarget) (role : ChatMessageRole)
    (text : String) : App :=
  app.record (app.project.appendChatMessage target.workspace target.chat role text)

def applyAgentEvent (app : App) : AgentEvent → App
  | .messageDelta target role text =>
      app.record (app.project.appendChatDelta target.workspace target.chat
        (chatRoleFromAgent role) text)
  | .toolCall target name arguments =>
      app.appendChatMessage target .tool
        (if arguments = "" then name else name ++ " " ++ arguments)
  | .fileChanged target path => app.appendChatMessage target .system ("file changed: " ++ path)
  | .commandStarted target command => app.appendChatMessage target .system ("cmd: " ++ command)
  | .statusChanged target status => (app.markChatStatusById target.chat status).2
  | .error target message =>
      (app.markChatStatusById target.chat .failed).2.appendChatMessage target .error message

end Mult.App
