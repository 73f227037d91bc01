import ArkKvm.Lib.Run
import ArkKvm.Lib.Pool
import ArkKvm.Lib.Bytes
import ArkKvm.Lib.Text
import ArkKvm.Lib.Table
import ArkKvm.Lib.Action
import ArkKvm.Lib.Poll
import ArkKvm.Lib.Ini
import ArkKvm.Lib.Recency
import ArkKvm.Config.Types
import ArkKvm.Config.Manager
import ArkKvm.Http.BlockCache
import ArkKvm.Http.CacheInvariant
import ArkKvm.Http.RangeReader
import ArkKvm.Http.DirectRead
import ArkKvm.Http.Coverage
import ArkKvm.Http.ReadCorrect
import ArkKvm.Http.ReadRuns
import ArkKvm.Upload.Store
import ArkKvm.Upload.Effects
import ArkKvm.Upload.Delivery
import ArkKvm.Upload.Exclusive
import ArkKvm.Usb.Devices
import ArkKvm.Usb.Calls
import ArkKvm.Usb.McpSwitch
import ArkKvm.Usb.Agreement
import ArkKvm.Usb.Sidecar
import ArkKvm.Usb.Media
import ArkKvm.Usb.MediaAgreement
import ArkKvm.Usb.ChangeHandlers
import ArkKvm.Usb.GadgetManager
import ArkKvm.Usb.GadgetControl
import ArkKvm.Usb.GadgetSteps
import ArkKvm.Usb.GadgetInvariant
import ArkKvm.Usb.Handshake
import ArkKvm.Usb.Rejection
import ArkKvm.Usb.BuiltMode
import ArkKvm.Usb.Rollback
import ArkKvm.Usb.L3Shortcut
import ArkKvm.Web.Password
import ArkKvm.Web.PasswordInvariant
import ArkKvm.Web.Middleware
import ArkKvm.Web.Signaling
import ArkKvm.Web.RoleBinding
import ArkKvm.Web.TokenLifecycle
import ArkKvm.Web.TokenInvariant
import ArkKvm.Remote.DiskBridge
import ArkKvm.IpForward.Bridge
import ArkKvm.Lease.Control
import ArkKvm.Lease.Outcome
import ArkKvm.Lease.Arbitration
import ArkKvm.Lease.Settlement
import ArkKvm.Session.State
import ArkKvm.Session.Gate
import ArkKvm.Session.Tasks
import ArkKvm.Session.Slots
import ArkKvm.Session.McpGate
import ArkKvm.Session.Presence
import ArkKvm.Session.ControlCalls
import ArkKvm.IpForward.Ticket
import ArkKvm.IpForward.TicketRuns
import ArkKvm.Session.Renegotiation
import ArkKvm.Session.Handover
import ArkKvm.Input.Order
import ArkKvm.Network.Address
import ArkKvm.Network.NetworkConf
import ArkKvm.Network.RoundTrip
import ArkKvm.Network.Vlan
import ArkKvm.Network.Settings
import ArkKvm.Network.Interference
import ArkKvm.Network.SettingsEffect
import ArkKvm.Network.Migrate
import ArkKvm.Network.BootRuns
import ArkKvm.Config.Persistence
import ArkKvm.Config.Recovery
import ArkKvm.Lib.Disk
import ArkKvm.Config.SaveRuns
import ArkKvm.Usb.MountCalls
import ArkKvm.Ota.Scheduler
import ArkKvm.Lib.StartFlag
import ArkKvm.Ota.Install
import ArkKvm.Ota.InstallRuns
import ArkKvm.Cloud.ReconnectGate
import ArkKvm.Cloud.ConnectionLoop
import ArkKvm.Upload.Completion
import ArkKvm.FtUpload.Resume
import ArkKvm.FtUpload.Discard
import ArkKvm.Files.ChunkReader
import ArkKvm.Remote.ImageDevice
import ArkKvm.Files.RangeHeader
import ArkKvm.Remote.MountState
import ArkKvm.Config.VirtualMedia
import ArkKvm.Network.Mdns
import ArkKvm.Input.Jiggler
import ArkKvm.Lib.Utf8
import ArkKvm.Network.FlatSettings
import ArkKvm.Network.AllOrNothing
import ArkKvm.Remote.BridgeFlag
import ArkKvm.Input.ControlLoop
import ArkKvm.Dhcp.Pool
import ArkKvm.Dhcp.Leases
import ArkKvm.Dhcp.ControlledHost
import ArkKvm.Usb.RejectedRuntime
import ArkKvm.FtUpload.Cancel
import ArkKvm.Ota.Download
import ArkKvm.FtUpload.Cycles
import ArkKvm.FtUpload.Delivery
import ArkKvm.FtUpload.ExclusiveRuns
import ArkKvm.Terminal.Actor
import ArkKvm.Terminal.Streams
import ArkKvm.Terminal.Cleanup
import ArkKvm.Usb.Microphone
import ArkKvm.Http.ConcurrentReads
import ArkKvm.Lib.UnixPath
import ArkKvm.Files.Containment
import ArkKvm.Video.CaptureRuns
import ArkKvm.Remote.ImageRuns
import ArkKvm.Session.MediaRuns
import ArkKvm.Network.RtnetlinkDump
import ArkKvm.Files.Download
import ArkKvm.Usb.HidRefinement
import ArkKvm.Usb.KeyboardLeds
import ArkKvm.Lib.Relay
import ArkKvm.Web.Trickle
import ArkKvm.Web.TrickleClients
import ArkKvm.Web.TrickleOrder
import ArkKvm.Session.Replies
import ArkKvm.Usb.VirtualMic
