import Gritty.Lib.BigEndian
import Gritty.Lib.Exec
import Gritty.Lib.Transition
import Gritty.Protocol.Encode
import Gritty.Protocol.Layout
import Gritty.Protocol.DecodeLayout
import Gritty.Protocol.Stream
import Gritty.Protocol.RoundTrip
import Gritty.Protocol.Fragmentation
import Gritty.Protocol.Faithful
import Gritty.Transfer.Rendezvous
import Gritty.Relay.CallbackFlow
import Gritty.Relay.PortForward
import Gritty.Relay.Tasks
import Gritty.Relay.Generations
import Gritty.Relay.Separation
import Gritty.Lib.Transducer
import Gritty.Terminal.PrivateModes
import Gritty.Terminal.QueryFilter
import Gritty.Session.History
import Gritty.Session.Replay
import Gritty.Session.System
import Gritty.Session.Offsets
import Gritty.Session.Rendered
import Gritty.Lib.Erasure
import Gritty.Terminal.Queries
import Gritty.Protocol.VersionSkew
import Gritty.Link.ClampHeartbeat
import Gritty.Link.Heartbeat
import Gritty.Lib.Streak
import Gritty.Reconnect.Loop
import Gritty.Reconnect.Verdicts
import Gritty.Reconnect.Spin
import Gritty.Lib.Decimal
import Gritty.Daemon.Sessions
import Gritty.Daemon.Dispatch
import Gritty.Daemon.SessionLaws
import Gritty.Daemon.Steps
import Gritty.Daemon.Naming
import Gritty.Daemon.Ownership
import Gritty.Lib.KeyedTable
import Gritty.Relay.ClientForwards
import Gritty.Relay.AllowList
import Gritty.Lib.ByteReader
import Gritty.Transfer.Paths
import Gritty.Transfer.Manifest
import Gritty.Transfer.Delivery
import Gritty.Lib.LossyUtf8
import Gritty.Transfer.WireNames
import Gritty.Transfer.UniqueNames
import Gritty.Transfer.Offer
import Gritty.Lib.Reading
import Gritty.Terminal.ModeSequences
import Gritty.Terminal.ModeSync
import Gritty.Session.CleanResume
import Gritty.Lib.Broadcast
import Gritty.Session.Service
import Gritty.Session.FailedReplay
import Gritty.Session.Tails
import Gritty.Reconnect.StatusLine
import Gritty.Connect.LockFile
import Gritty.Connect.OneSupervisor
import Gritty.Connect.LockProbes
import Gritty.Daemon.Return
import Gritty.Daemon.Listing
import Gritty.Transfer.FanOut
import Gritty.Transfer.Stages
import Gritty.Transfer.Agreement
import Gritty.Lib.Handshake
import Gritty.Relay.AgentChannels
import Gritty.Relay.TunnelChannels
import Gritty.Relay.ForwardSystem
import Gritty.Relay.ForwardTable
import Gritty.Relay.ForwardOrder
import Gritty.Relay.ForwardChannels
import Gritty.Relay.AttachedClient
import Gritty.Relay.Mirrored
import Gritty.Relay.Settled
import Gritty.Lib.Chronicle
import Gritty.Connect.TunnelMonitor
import Gritty.Connect.SpawnGrace
import Gritty.Connect.BackoffClimb
import Gritty.Lib.Words
import Gritty.Procscan.ProcNetUnix
import Gritty.Procscan.Orphans
import Gritty.Procscan.Reaping
import Gritty.Daemon.SocketFiles
import Gritty.Daemon.SparedFiles
import Gritty.Daemon.HeldSockets
import Gritty.Daemon.SoleHolder
import Gritty.Lib.PathLock
import Gritty.Security.BindLock
import Gritty.Security.BindRaces
import Gritty.Commands.ConnectNew
import Gritty.Commands.Prune
import Gritty.Commands.PruneRaces
import Gritty.Relay.AgentIdle
import Gritty.Lib.FileTree
import Gritty.Transfer.ReceiveDir
import Gritty.Transfer.StagedFiles
import Gritty.Transfer.UniqueRounds
import Gritty.Transfer.Disambiguated
import Gritty.Terminal.Scrubbed
import Gritty.Session.HistoryWindow
import Gritty.Terminal.LineShadow
import Gritty.Terminal.CursorMoves
import Gritty.Terminal.ShadowBounds
import Gritty.Terminal.WrapPending
import Gritty.Terminal.Attributes
import Gritty.Terminal.CursorRestore
import Gritty.Terminal.SyncAnywhere
import Gritty.Terminal.FullResets
import Gritty.Session.MainScreenCapture
import Gritty.Relay.Escape
import Gritty.Relay.Keystrokes
import Gritty.Lib.SlidingWindow
import Gritty.Relay.RateLimits
import Gritty.Relay.Budgets
import Gritty.Commands.OwnSessions
import Gritty.Relay.RelaySocket
import Gritty.Relay.ByteStreams
import Gritty.Relay.StreamFlow
import Gritty.Relay.StreamTurns
import Gritty.Relay.ForwardedStreams
import Gritty.Relay.StreamViews
import Gritty.Relay.ServerTurns
import Gritty.Relay.ClientTurns
import Gritty.Relay.FaithfulStreams
import Gritty.Commands.DisplayNames
import Gritty.Procscan.Standing
import Gritty.Session.PendingInput
import Gritty.Lib.ShortReads
import Gritty.Daemon.ReadyPipe
import Gritty.Relay.ForwardAgreement
import Gritty.Relay.TunnelIdle
import Gritty.Lib.CommandLine
import Gritty.Connect.Destination
import Gritty.Connect.SshCommand
import Gritty.Daemon.AgentStatus
import Gritty.Daemon.LingerSafety
import Gritty.Lib.Utf8Text
import Gritty.Commands.PickerRows
import Gritty.Commands.Table
import Gritty.Commands.NameInput
import Gritty.Commands.Picker
import Gritty.Commands.PickerSafety
import Gritty.Commands.MarkPicker
import Gritty.Lib.Simulation
import Gritty.Lib.ByteLink
import Gritty.Protocol.FrameLink
import Gritty.Commands.Targets
import Gritty.Commands.Durations
import Gritty.Daemon.Untouched
import Gritty.Commands.LingerColumn
import Gritty.Terminal.Painted
import Gritty.Terminal.Handback
import Gritty.Daemon.SocketDir
import Gritty.Commands.DoctorFiles
import Gritty.Lib.SharedTree
import Gritty.Security.SecureDir
import Gritty.Security.DirRaces
import Gritty.Daemon.ControlPlane
import Gritty.Daemon.ControlGate
import Gritty.Session.SvcRequests
import Gritty.Session.SvcReplies
import Gritty.Daemon.LogFile
import Gritty.Config.Settings
import Gritty.Config.Layers
import Gritty.Config.HostNames
import Gritty.Lib.TextLines
import Gritty.Lib.FencedBlock
import Gritty.Commands.Report
import Gritty.Commands.ReportQuotes
import Gritty.Lib.Grouping
import Gritty.Commands.Dashboard
import Gritty.Commands.DashboardSections
import Gritty.Connect.RemoteReady
import Gritty.Connect.BringUp
import Gritty.Commands.Tail
import Gritty.Connect.Recreate
import Gritty.Daemon.Visits
import Gritty.Connect.LockSights
import Gritty.Lib.ListSearch
