import Mult.Protocol.Messages
import Mult.Foundation.Eviction
import Mult.Daemon.RequestScope
import Mult.Daemon.OwnershipContract
import Mult.Daemon.InputOrder
import Mult.Daemon.FinalizationContract
import Mult.Daemon.StopOutcomes
import Mult.Daemon.AgentStatus
import Mult.Daemon.Shutdown
import Mult.Transcript.Durability
import Mult.Project.EditContract
import Mult.Remote.Quoting
import Mult.Runtime.SeenMark
import Mult.Runtime.RemoteSessions
import Mult.Runtime.StatusForwarding
import Mult.Daemon.HistoryContract
import Mult.Daemon.WriterThread
import Mult.Client.WireKeys
import Mult.Project.RenumberedSessions
import Mult.Protocol.Framing
import Mult.Terminal.Feeding
import Mult.Terminal.Agreement
import Mult.Runtime.RemoteTerminals
import Mult.Runtime.Selection
import Mult.Runtime.ProcessAgentCommand
import Mult.Terminal.Pasting
import Mult.Runtime.GestureContract
import Mult.App.MessageBounds
import Mult.Client.Frames
import Mult.Client.Delivery
import Mult.Terminal.ScreenText
import Mult.Runtime.JournalPolling
import Mult.Storage.StoreRuns
import Mult.Storage.Quarantine
import Mult.App.PromptEditor
import Mult.App.AgentOutput
import Mult.Runtime.Clipboard
import Mult.Runtime.CodexCommand
import Mult.Terminal.Emulator.Runs
import Mult.Terminal.Emulator.AlternateScreen
import Mult.Daemon.Deliveries
import Mult.Daemon.Handover
import Mult.Daemon.PlainSteps
import Mult.Daemon.StreamContract
