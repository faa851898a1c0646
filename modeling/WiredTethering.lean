import WiredTethering.Transition.Core
import WiredTethering.Rndis.RoundTrip
import WiredTethering.Engine.TxQueue
import WiredTethering.Engine.TxConservation
import WiredTethering.Common.Checksum
import WiredTethering.Dhcp.Client
import WiredTethering.Tlv.Options
import WiredTethering.Dhcp.Frame
import WiredTethering.Dhcp.Timeline
import WiredTethering.Dhcp.Ignored
import WiredTethering.Common.Ethernet
import WiredTethering.Common.Text
import WiredTethering.Dhcp.Lease
import WiredTethering.Engine.Threads
import WiredTethering.Engine.Failure
import WiredTethering.Net.Parse
import WiredTethering.Net.Config
import WiredTethering.Net.Snapshot
import WiredTethering.Net.Session
import WiredTethering.Net.Restore
import WiredTethering.Dhcp.Reply
import WiredTethering.Dhcp.Outstanding
import WiredTethering.Dhcp.Leftover
import WiredTethering.Engine.DataPath
import WiredTethering.Engine.Gateway
import WiredTethering.Engine.Receive
import WiredTethering.Net.Frame
import WiredTethering.Net.WifiRecord
import WiredTethering.Net.RestoreSteps
import WiredTethering.Net.Leftover
import WiredTethering.Engine.Start
import WiredTethering.Net.Crash
import WiredTethering.App.Controller
import WiredTethering.App.Sessions
import WiredTethering.App.Teardown
import WiredTethering.App.Superseded
import WiredTethering.App.Ledger
import WiredTethering.App.Record
import WiredTethering.App.Kept
import WiredTethering.Dhcp.Options
import WiredTethering.Dhcp.Timers
import WiredTethering.Dhcp.Backoff
import WiredTethering.Common.Ip4
import WiredTethering.Common.Fixed
import WiredTethering.Dhcp.WellFormed
import WiredTethering.App.HelperCall
import WiredTethering.Helper.Service
import WiredTethering.Json.Members
import WiredTethering.Text.Utf8
import WiredTethering.Status.Escape
import WiredTethering.App.ParseHelpers
import WiredTethering.Status.Emit
import WiredTethering.Status.EngineLine
import WiredTethering.Status.BrokenLine
import WiredTethering.Status.DeviceList
import WiredTethering.Rndis.Control
import WiredTethering.Usb.Control
import WiredTethering.Usb.Dialogue
import WiredTethering.Usb.Initialise
import WiredTethering.Rndis.Builders
import WiredTethering.Engine.LeaseApplied
import WiredTethering.Engine.Arp
import WiredTethering.Json.Bytes
import WiredTethering.Rndis.Aggregate
import WiredTethering.Status.EscapeBuffer
import WiredTethering.App.AcceptLoop
import WiredTethering.Status.CutScalar
import WiredTethering.App.Casts
import WiredTethering.App.ErrorShown
import WiredTethering.App.Throughput
import WiredTethering.App.RouteRestore
import WiredTethering.Status.DeviceTable
import WiredTethering.App.Dispatch
import WiredTethering.App.ConnectScript
import WiredTethering.Helper.Paths
import WiredTethering.Net.PublishText
import WiredTethering.Net.WifiDevice
import WiredTethering.App.Launch
import WiredTethering.Engine.Downstream
import WiredTethering.Engine.Lifetime
import WiredTethering.Engine.Upstream
import WiredTethering.App.Rendezvous
import WiredTethering.App.SessionSockets
import WiredTethering.Status.Updates
import WiredTethering.Net.CommandHang
