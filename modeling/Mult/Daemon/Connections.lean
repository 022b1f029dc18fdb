import Mult.Daemon.Machine

/-! A connection's own steps: accepting it, its hello, reading a message, beginning and
completing a correlated request, sending answers, and going away.
-/

set_option autoImplicit false

namespace Mult.Daemon
open Foundation Protocol
open Std (TreeMap)

/-- Why a request is answered before its operation starts. -/
inductive BeginFailure where
  | collision | expired | tooManyPending
  deriving DecidableEq, Repr

/-- The answer to a request that `begin` did not let through. -/
def beginFailure (request : ClientMessage) (requestId : RequestId) : BeginFailure → ServerMessage :=
  fun failure =>
    let busy := "too many pending requests"
    match request with
    | .createSession .. => .createResult requestId <| .error <| match failure with
        | .collision => .requestCollision
        | .expired => .retryExpired
        | .tooManyPending => .failed .tooManyPendingRequests busy
    | .attach .. => .attachResult requestId <| .error <| match failure with
        | .collision => .requestCollision
        | .expired => .retryExpired
        | .tooManyPending => .failed .tooManyPendingRequests busy
    | .stop .. => .stopResult requestId <| .error <| match failure with
        | .collision => .requestCollision
        | .expired => .retryExpired
        | .tooManyPending => .failed .tooManyPendingRequests busy
    | _ => .agentStatusResult requestId <| .error <| match failure with
        | .collision => .requestCollision
        | .expired => .retryExpired
        | .tooManyPending => .failed .tooManyPendingRequests busy

/-- Where a thread goes with the message it read. -/
def route (conn : Connection) (message : ClientMessage) : Handler :=
  match message with
  | .hello .. => .leaving conn.client
  | .listSessions stateNamespace => .listing conn stateNamespace
  | .input pane lease bytes => .validating conn pane lease bytes .input
  | .paste pane lease bytes => .validating conn pane lease bytes .paste
  | .resize pane lease rows cols => .resizing conn pane lease rows cols
  | .detach pane lease => .detaching conn pane lease
  | .createSession requestId .. | .attach requestId .. | .stop requestId ..
  | .updateAgentStatus requestId _ | .getAgentStatus requestId _ =>
      .beginning conn requestId message

/-- Where a request goes that `begin` found new. -/
def proceed (conn : Connection) (requestId : RequestId) (request : ClientMessage) : Handler :=
  match request with
  | .createSession _ identity requestedId agent name cwd env launch rows cols =>
      .creating conn
        ⟨requestId, identity, requestedId, agent, name, cwd, env, launch, rows, cols⟩
        (.numeric none)
  | .attach _ identity session rows cols =>
      .attaching conn ⟨requestId, identity, session, rows, cols⟩ none
  | .stop _ identity pane lease => .stopping conn ⟨requestId, identity, pane, lease⟩
  | _ => .reportingStatus conn requestId request

/-- A cached answer is sent as it is, but a successful attach is bound again first. -/
def replayCached (conn : Connection) (requestId : RequestId) (request : ClientMessage)
    (response : ServerMessage) : Handler :=
  match request, response with
  | .attach _ identity session rows cols, .attachResult _ (.attached _ _ lease) =>
      .attaching conn ⟨requestId, identity, session, rows, cols⟩ (some lease)
  | _, _ => .delivering conn [⟨conn.client, response, false⟩]

namespace Server

def accept (server : Server) : Stepped :=
  match server.main, server.state.allocateClientId with
  | .accepting, some (client, state) =>
      some ({ server with
        state
        transports := server.transports.insert client .new
        handlers := server.handlers ++ [.hello client] }, [])
  | _, _ => none

/-- The candidates are what the random source yields for a new scope. -/
def receiveHello (server : Server) (thread : Nat) (message : ClientMessage)
    (candidates : List ClientScopeId) : Stepped :=
  match server.handlers[thread]? with
  | some (.hello client) =>
      match message with
      | .hello version resume =>
          if version ≠ protocolVersion then
            some ((server.send ⟨client, .error .protocolMismatch
              s!"client protocol version {version} is incompatible with server version {protocolVersion}; restart mult clients",
              false⟩).goto thread (.leaving client), [])
          else
            match server.state.resumeOrAllocateScope resume candidates with
            | none => some (server.goto thread (.leaving client), [])
            | some ((scope, resumed), state) =>
                let (accepted, transports) := server.transports.tryDeliver client
                  (.hello protocolVersion state.serverInstance scope resumed)
                some (((server.setState state).setTransports transports).goto thread
                  -- Without room for the answer the connection ends before it was served.
                  (if accepted then .serving ⟨client, scope, resumed⟩ else .leaving client), [])
      | _ =>
          some ((server.send ⟨client, .error .protocolOrder
            "expected protocol hello before other client messages", false⟩).goto thread
              (.leaving client), [])
  | _ => none

def receive (server : Server) (thread : Nat) (message : ClientMessage) : Stepped :=
  match server.handlers[thread]? with
  | some (.serving conn) =>
      let server := match message with
        | .hello .. => server.send ⟨conn.client, .error .protocolOrder
            "protocol hello may only be sent once per connection", false⟩
        | _ => server
      some (server.goto thread (route conn message), [])
  | _ => none

/-- The peer closed the connection, or what it sent could not be read. -/
def close (server : Server) (thread : Nat) : Stepped :=
  match server.handlers[thread]? with
  | some (.hello client) => some (server.goto thread (.leaving client), [])
  | some (.serving conn) => some (server.goto thread (.leaving conn.client), [])
  | _ => none

def sessionInfos (server : Server) (stateNamespace : StateNamespace) : List SessionInfo :=
  server.state.sessions.values.filterMap fun ref =>
    server.panes[ref]?.bind fun pane =>
      if pane.state.identity.stateNamespace = stateNamespace then some pane.state.sessionInfo
      else none

def list (server : Server) (thread : Nat) : Stepped :=
  match server.handlers[thread]? with
  | some (.listing conn stateNamespace) =>
      some (server.goto thread (.delivering conn
        [⟨conn.client, .sessions stateNamespace (server.sessionInfos stateNamespace), false⟩]), [])
  | _ => none

def begin (server : Server) (thread : Nat) : Stepped :=
  match server.handlers[thread]? with
  | some (.beginning conn requestId request) =>
      let (disposition, state) :=
        server.state.beginRequest conn.scope requestId request conn.client
      let refuse failure :=
        .delivering conn [⟨conn.client, beginFailure request requestId failure, false⟩]
      let next := match disposition with
        | .new => proceed conn requestId request
        | .pending => .serving conn
        | .cached response => replayCached conn requestId request response
        | .collision => refuse .collision
        | .expired => refuse .expired
        | .tooManyPending =>
            -- The refusal is itself stored as the answer, and so delivered to all who wait for it.
            .completing conn ⟨conn.scope, requestId⟩
              (beginFailure request requestId .tooManyPending)
      some ((server.setState state).goto thread next, [])
  | _ => none

def complete (server : Server) (thread : Nat) : Stepped :=
  match server.handlers[thread]? with
  | some (.completing conn key response) =>
      let (waiters, state) := server.state.completeRequest key response
      some ((server.setState state).goto thread
        (.delivering conn (toWaiters waiters response true)), [.answered key response])
  | _ => none

def deliver (server : Server) (thread : Nat) : Stepped :=
  match server.handlers[thread]? with
  | some (.delivering conn (outgoing :: rest)) =>
      some ((server.send outgoing).goto thread (.delivering conn rest), [])
  | some (.delivering conn []) => some (server.goto thread (.serving conn), [])
  | _ => none

def reportStatus (server : Server) (thread : Nat) : Stepped :=
  match server.handlers[thread]? with
  | some (.reportingStatus conn requestId request) =>
      let respond outcome :=
        .completing conn ⟨conn.scope, requestId⟩ (.agentStatusResult requestId outcome)
      match request with
      | .updateAgentStatus _ record =>
          let (outcome, state) := server.state.updateAgentStatus record
          some ((server.setState state).goto thread (respond outcome), [])
      | .getAgentStatus _ query =>
          some (server.goto thread (respond (server.state.queryAgentStatus query)), [])
      | _ => none
  | _ => none

/-- The handler returned: no more deliveries are accepted. -/
def leave (server : Server) (thread : Nat) : Stepped :=
  match server.handlers[thread]? with
  | some (.leaving client) =>
      some ((server.setTransports (server.transports.update client
        Transport.finishAfterPendingDeliveries)).goto thread (.removing client), [])
  | _ => none

def remove (server : Server) (thread : Nat) : Stepped :=
  match server.handlers[thread]? with
  | some (.removing client) =>
      some ((server.setState (server.state.removeClient client)).goto thread .finished, [])
  | _ => none

def writeSocket (server : Server) (client : ClientId) (written : Bool) : Stepped :=
  match server.transports[client]? with
  | some transport =>
      if transport.writer = .running then
        match transport.accepted[transport.taken]? with
        | some delivery =>
            let ends := !written || (deliveryMessage delivery).isNone
            some (server.setTransports (server.transports.insert client { transport with
              taken := transport.taken + 1
              writer := if ends then .leaving else .running }), [])
        | none => none
      else none
  | none => none

def endSocket (server : Server) (client : ClientId) : Stepped :=
  match server.transports[client]? with
  | some transport =>
      if transport.writer = .leaving then
        some ((server.setTransports (server.transports.insert client { transport with
          active := false, writer := .finished })).setState
            (server.state.removeClient client), [])
      else none
  | none => none

end Server

end Mult.Daemon
