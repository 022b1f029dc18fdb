import Mult.Foundation.Machine
import Mult.Daemon.Connections
import Mult.Daemon.Create
import Mult.Daemon.Attach
import Mult.Daemon.Lifecycle

/-! One step of the daemon, and its runs. An action picks a thread and supplies what the
operating system, the peer or the random source yields there.
-/

set_option autoImplicit false

namespace Mult.Daemon
open Foundation Protocol

inductive Action where
  | accept
  | receiveHello (thread : Nat) (message : ClientMessage) (candidates : List ClientScopeId)
  | receive (thread : Nat) (message : ClientMessage)
  | close (thread : Nat)
  | list (thread : Nat)
  | begin (thread : Nat)
  | complete (thread : Nat)
  | deliver (thread : Nat)
  | reportStatus (thread : Nat)
  | leave (thread : Nat)
  | remove (thread : Nat)
  | writeSocket (client : ClientId) (written : Bool)
  | endSocket (client : ClientId)
  | createNumeric (thread : Nat)
  | createLogical (thread : Nat)
  | createResolve (thread : Nat)
  | createReserve (thread : Nat)
  | createSpawn (thread : Nat) (spawned : Except String SpawnedChild)
  | createPublish (thread : Nat)
  | createDiscard (thread : Nat)
  | createRelease (thread : Nat)
  | createReport (thread : Nat)
  | attachCommit (thread : Nat) (failure : Option String) (leader : GroupLeader)
  | replay (thread : Nat)
  | validateInput (thread : Nat)
  | enqueueInput (thread : Nat)
  | resize (thread : Nat) (failure : Option String)
  | detach (thread : Nat)
  | stopLookup (thread : Nat)
  | stopPane (thread : Nat)
  | startStop (thread : Nat) (foreground : Option Nat)
  | drive (pane : PaneRef) (position : Nat) (input : Server.DriverInput)
  | read (pane : PaneRef) (bytes : Bytes)
  | readEnd (pane : PaneRef)
  | reader (pane : PaneRef)
  | waiter (pane : PaneRef) (input : Server.WaitInput)
  | probe (pane : PaneRef) (leader : GroupLeader)
  | ptyWriter (pane : PaneRef) (written : Bool)
  | beginShutdown
  | shutdown (foreground : Option Nat)

def step (server : Server) : Action → Option (Server × List Event)
  | .accept => server.accept
  | .receiveHello thread message candidates => server.receiveHello thread message candidates
  | .receive thread message => server.receive thread message
  | .close thread => server.close thread
  | .list thread => server.list thread
  | .begin thread => server.begin thread
  | .complete thread => server.complete thread
  | .deliver thread => server.deliver thread
  | .reportStatus thread => server.reportStatus thread
  | .leave thread => server.leave thread
  | .remove thread => server.remove thread
  | .writeSocket client written => server.writeSocket client written
  | .endSocket client => server.endSocket client
  | .createNumeric thread => server.createNumeric thread
  | .createLogical thread => server.createLogical thread
  | .createResolve thread => server.createResolve thread
  | .createReserve thread => server.createReserve thread
  | .createSpawn thread spawned => server.createSpawn thread spawned
  | .createPublish thread => server.createPublish thread
  | .createDiscard thread => server.createDiscard thread
  | .createRelease thread => server.createRelease thread
  | .createReport thread => server.createReport thread
  | .attachCommit thread failure leader => server.attachCommit thread failure leader
  | .replay thread => server.replay thread
  | .validateInput thread => server.validateInput thread
  | .enqueueInput thread => server.enqueueInput thread
  | .resize thread failure => server.resizePane thread failure
  | .detach thread => server.detach thread
  | .stopLookup thread => server.stopLookup thread
  | .stopPane thread => server.stopPane thread
  | .startStop thread foreground => server.startStop thread foreground
  | .drive pane position input => server.drive pane position input
  | .read pane bytes => server.read pane bytes
  | .readEnd pane => server.readEnd pane
  | .reader pane => server.readerStep pane
  | .waiter pane input => server.waiterStep pane input
  | .probe pane leader => server.probe pane leader
  | .ptyWriter pane written => server.ptyWriterStep pane written
  | .beginShutdown => server.beginShutdown
  | .shutdown foreground => server.shutdownStep foreground

def connectSteps (thread : Nat) (scope : ClientScopeId) : List Action :=
  [.accept, .receiveHello thread (.hello protocolVersion none) [scope]]

def createSteps (thread : Nat) (request : ClientMessage) (child : SpawnedChild) : List Action :=
  [.receive thread request, .begin thread, .createNumeric thread, .createLogical thread,
    .createResolve thread, .createReserve thread, .createSpawn thread (.ok child),
    .createPublish thread, .createReport thread, .complete thread, .deliver thread,
    .deliver thread]

def attachSteps (thread : Nat) (request : ClientMessage) : List Action :=
  [.receive thread request, .begin thread, .attachCommit thread none none]

/-- A session under one identity, with a client of each of two scopes connected. -/
def sampleIdentity : SessionIdentity := ⟨⟨1, bytes_one⟩, ⟨1, bytes_one⟩⟩
def sampleCreate : ClientMessage :=
  .createSession .min sampleIdentity (some ⟨1⟩) none "sample" none [] .shell 24 80
def sampleAttach (requestId : RequestId) : ClientMessage :=
  .attach requestId sampleIdentity ⟨1⟩ 24 80
def sampleClients : List Action := connectSteps 0 ⟨1⟩ ++ connectSteps 1 ⟨2⟩
def secondRequest : RequestId := ⟨⟨2, by decide, by decide⟩⟩
def thirdRequest : RequestId := ⟨⟨3, by decide, by decide⟩⟩
def fourthRequest : RequestId := ⟨⟨4, by decide, by decide⟩⟩
def secondLease : AttachmentLease := ⟨⟨2, by decide, by decide⟩⟩

def sampleSession : List Action :=
  sampleClients ++ createSteps 0 sampleCreate ⟨"sh", 7, 7⟩ ++
    attachSteps 0 (sampleAttach secondRequest) ++ List.replicate 6 (.replay 0)

def stopSteps (thread : Nat) (requestId : RequestId) : List Action :=
  [.receive thread (.stop requestId sampleIdentity ⟨1⟩ .min), .begin thread, .stopLookup thread,
    .stopPane thread, .startStop thread none]

def daemon : Machine Server Action Event where
  start server := ∃ serverInstance, server = .new serverInstance
  step := step

end Mult.Daemon
