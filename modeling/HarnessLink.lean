import HarnessLink.Backend.Interface
import HarnessLink.Backend.Request
import HarnessLink.Backend.Response
import HarnessLink.Bytes
import HarnessLink.Cli.Arguments
import HarnessLink.Cli.Exit
import HarnessLink.Cli.FrameText
import HarnessLink.Cli.Help
import HarnessLink.Cli.Options
import HarnessLink.Cli.Output
import HarnessLink.Cli.Run
import HarnessLink.Cli.Table
import HarnessLink.Cli.Timespan
import HarnessLink.Duration
import HarnessLink.Fault
import HarnessLink.Frame.Error
import HarnessLink.Frame.Fragment
import HarnessLink.Frame.Framer
import HarnessLink.Frame.Kind
import HarnessLink.Frame.Stream
import HarnessLink.Json.Basic
import HarnessLink.Json.Binary64
import HarnessLink.Json.Fault
import HarnessLink.Json.Reader
import HarnessLink.Json.Record
import HarnessLink.Json.Scalar
import HarnessLink.Json.Typed
import HarnessLink.Link.Basic
import HarnessLink.Link.FileTree
import HarnessLink.Link.Medium
import HarnessLink.Link.Memory
import HarnessLink.Link.Script
import HarnessLink.Link.SocketSpace
import HarnessLink.Link.Staging
import HarnessLink.Link.Stream
import HarnessLink.Main
import HarnessLink.Master.Channel
import HarnessLink.Master.Command
import HarnessLink.Master.Config
import HarnessLink.Master.Error
import HarnessLink.Master.Orchestrator
import HarnessLink.Master.Queue
import HarnessLink.Master.Service
import HarnessLink.Master.SlotPlan
import HarnessLink.Packet.Address
import HarnessLink.Packet.Body
import HarnessLink.Packet.Catalog
import HarnessLink.Packet.Device
import HarnessLink.Packet.Error
import HarnessLink.Packet.Frame
import HarnessLink.Packet.Layout
import HarnessLink.Packet.Message
import HarnessLink.Packet.Status
import HarnessLink.Slave.Bus
import HarnessLink.Slave.Node
import HarnessLink.Slave.Report
import HarnessLink.Text.Blank
import HarnessLink.Text.CodeRange
import HarnessLink.Text.Emoji
import HarnessLink.Text.Graphic
import HarnessLink.Text.Hex
import HarnessLink.Text.Ligature
import HarnessLink.Text.Mark
import HarnessLink.Text.Quoted
import HarnessLink.Text.Slice
import HarnessLink.Text.Terminal
import HarnessLink.Text.Width
import HarnessLink.Proofs.Backend.Answers
import HarnessLink.Proofs.Backend.Asking
import HarnessLink.Proofs.Backend.DeviceNames
import HarnessLink.Proofs.Backend.Guarding
import HarnessLink.Proofs.Backend.Replies
import HarnessLink.Proofs.Backend.Requests
import HarnessLink.Proofs.Backend.Surfaces
import HarnessLink.Proofs.Cli.FrameDigits
import HarnessLink.Proofs.Frame.Bounds
import HarnessLink.Proofs.Frame.Chunking
import HarnessLink.Proofs.Frame.Encoding
import HarnessLink.Proofs.Frame.Noise
import HarnessLink.Proofs.Frame.Oversize
import HarnessLink.Proofs.Frame.Reading
import HarnessLink.Proofs.Frame.Recovery
import HarnessLink.Proofs.Frame.RoundTrip
import HarnessLink.Proofs.Frame.Runs
import HarnessLink.Proofs.Frame.Scanning
import HarnessLink.Proofs.Frame.Splitting
import HarnessLink.Proofs.Frame.Whole
import HarnessLink.Proofs.Frame.Writing
import HarnessLink.Proofs.Json.Records
import HarnessLink.Proofs.Json.Schemas
import HarnessLink.Proofs.Json.Texts
import HarnessLink.Proofs.Link.Access
import HarnessLink.Proofs.Link.Delivery
import HarnessLink.Proofs.Link.Events
import HarnessLink.Proofs.Link.Lossless
import HarnessLink.Proofs.Link.Lossy
import HarnessLink.Proofs.Master.Agreement
import HarnessLink.Proofs.Master.Applied
import HarnessLink.Proofs.Master.Attempts
import HarnessLink.Proofs.Master.Collections
import HarnessLink.Proofs.Master.Configure
import HarnessLink.Proofs.Master.Devices
import HarnessLink.Proofs.Master.Dialogues
import HarnessLink.Proofs.Master.Exchanges
import HarnessLink.Proofs.Master.FirstReply
import HarnessLink.Proofs.Master.History
import HarnessLink.Proofs.Master.Invariant
import HarnessLink.Proofs.Master.Loop
import HarnessLink.Proofs.Master.Plan
import HarnessLink.Proofs.Master.Queries
import HarnessLink.Proofs.Master.Queueing
import HarnessLink.Proofs.Master.Recording
import HarnessLink.Proofs.Master.Request
import HarnessLink.Proofs.Master.Retransmission
import HarnessLink.Proofs.Master.Sending
import HarnessLink.Proofs.Master.Serving
import HarnessLink.Proofs.Master.Stale
import HarnessLink.Proofs.Master.Tiling
import HarnessLink.Proofs.Master.Uploads
import HarnessLink.Proofs.Packet.Bodies
import HarnessLink.Proofs.Packet.Canonical
import HarnessLink.Proofs.Packet.Demands
import HarnessLink.Proofs.Packet.DeviceText
import HarnessLink.Proofs.Packet.Grammar
import HarnessLink.Proofs.Packet.Layouts
import HarnessLink.Proofs.Packet.Relaying
import HarnessLink.Proofs.Packet.RoundTrip
import HarnessLink.Proofs.Packet.Spelling
import HarnessLink.Proofs.Slave.Bitmap
import HarnessLink.Proofs.Slave.Broadcasts
import HarnessLink.Proofs.Slave.Coverage
import HarnessLink.Proofs.Slave.Isolation
import HarnessLink.Proofs.Slave.Orders
import HarnessLink.Proofs.Slave.Repetition
import HarnessLink.Proofs.Slave.Reports
