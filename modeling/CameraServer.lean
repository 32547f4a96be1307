import CameraServer.Accounts.Location
import CameraServer.Accounts.Table
import CameraServer.Calendar
import CameraServer.Disk.Basic
import CameraServer.Disk.Entry
import CameraServer.Disk.Path
import CameraServer.Host.Status
import CameraServer.Http.Base64
import CameraServer.Http.ByteRange
import CameraServer.Http.ContentType
import CameraServer.Http.ControlPlane
import CameraServer.Http.Credentials
import CameraServer.Http.Date
import CameraServer.Http.HeaderValue
import CameraServer.Http.Message
import CameraServer.Http.Route
import CameraServer.Http.RoutePattern
import CameraServer.Http.StaticFiles
import CameraServer.Http.Target
import CameraServer.Json.Reader
import CameraServer.Json.RequestBody
import CameraServer.Json.Value
import CameraServer.Lease.Desk
import CameraServer.Lease.Policy
import CameraServer.Lease.Request
import CameraServer.Lease.Table
import CameraServer.Main
import CameraServer.Media.Failure
import CameraServer.Media.Graph
import CameraServer.Media.Stage
import CameraServer.Net.Address
import CameraServer.Net.Endpoint
import CameraServer.Net.ListenUrl
import CameraServer.Pattern.Basic
import CameraServer.Pattern.CharSet
import CameraServer.Pattern.Escape
import CameraServer.Pattern.Group
import CameraServer.Pattern.Mode
import CameraServer.Pattern.Reader
import CameraServer.Pipeline.Branch
import CameraServer.Pipeline.Config
import CameraServer.Pipeline.Destinations
import CameraServer.Pipeline.Engine
import CameraServer.Pipeline.Error
import CameraServer.Pipeline.Events
import CameraServer.Pipeline.Lifecycle
import CameraServer.Pipeline.Reconfigure
import CameraServer.Recording.FragmentName
import CameraServer.Recording.Quota
import CameraServer.Recording.Store
import CameraServer.Service.Control
import CameraServer.Service.Error
import CameraServer.Service.FieldValue
import CameraServer.Service.Listeners
import CameraServer.Service.LogDirective
import CameraServer.Service.LogFile
import CameraServer.Service.LogFilter
import CameraServer.Service.LogLevel
import CameraServer.Service.Process
import CameraServer.Service.Server
import CameraServer.Settings.Choices
import CameraServer.Settings.CommandLine
import CameraServer.Settings.Document
import CameraServer.Settings.Error
import CameraServer.Settings.Resolve
import CameraServer.Text.Alphanumeric
import CameraServer.Text.Blank
import CameraServer.Text.CodeRuns
import CameraServer.Text.Escaped
import CameraServer.Text.Letters
import CameraServer.Text.Numeral
import CameraServer.Text.Quoted
import CameraServer.Text.Shortest
import CameraServer.Text.Split
import CameraServer.Text.Utf8
import CameraServer.Version
import CameraServer.Proofs.Media.Calls
import CameraServer.Proofs.Media.Wiring
import CameraServer.Proofs.Media.Outline
import CameraServer.Proofs.Media.Faults
import CameraServer.Proofs.Media.InStep
import CameraServer.Proofs.Media.Addition
import CameraServer.Proofs.Media.Records
import CameraServer.Proofs.Media.Reels
import CameraServer.Proofs.Pipeline.Ledger
import CameraServer.Proofs.Pipeline.Frame
import CameraServer.Proofs.Pipeline.Wiring
import CameraServer.Proofs.Pipeline.Destinations
import CameraServer.Proofs.Pipeline.Lifecycle
import CameraServer.Proofs.Pipeline.Reconfigure
import CameraServer.Proofs.Pipeline.Balance
import CameraServer.Proofs.Pipeline.Rebuild
import CameraServer.Proofs.Lease.Table
import CameraServer.Proofs.Pipeline.Move
import CameraServer.Proofs.Pipeline.Resume
import CameraServer.Proofs.Pipeline.Settings
import CameraServer.Proofs.Pipeline.Retry
import CameraServer.Proofs.Pipeline.Undo
import CameraServer.Proofs.Pipeline.Connection
import CameraServer.Proofs.Pipeline.Calm
import CameraServer.Proofs.Pipeline.Readding
import CameraServer.Proofs.Lease.Conservation
import CameraServer.Proofs.Lease.Service
import CameraServer.Proofs.Lease.Healing
import CameraServer.Proofs.Pipeline.PlayingFlag
import CameraServer.Proofs.Pipeline.Topology
import CameraServer.Proofs.Pipeline.Attachment
import CameraServer.Proofs.Pipeline.OnDemand
import CameraServer.Proofs.Lease.Run
import CameraServer.Proofs.Lease.Refused
import CameraServer.Proofs.Lease.Sweep
import CameraServer.Proofs.Lease.Bounds
import CameraServer.Proofs.Lease.Isolation
import CameraServer.Proofs.Http.Refusal
import CameraServer.Proofs.Http.Credentials
import CameraServer.Proofs.Disk.Nodes
import CameraServer.Proofs.Disk.Path
import CameraServer.Proofs.Recording.Quota
import CameraServer.Proofs.Recording.Life
import CameraServer.Proofs.Recording.Pruning
import CameraServer.Proofs.Recording.Interrupted
import CameraServer.Proofs.Recording.Repeated
import CameraServer.Proofs.Calendar
import CameraServer.Proofs.Recording.FragmentName
import CameraServer.Proofs.Pipeline.Footage
import CameraServer.Proofs.Pipeline.Overwriting
import CameraServer.Proofs.Pipeline.Withdrawal
import CameraServer.Proofs.Lease.SweepOrder
import CameraServer.Proofs.Service.MountPoint
import CameraServer.Proofs.Settings.Precedence
import CameraServer.Proofs.Accounts.Columns
import CameraServer.Proofs.Lease.Faithful
import CameraServer.Proofs.Service.Reload
import CameraServer.Proofs.Text.Numeral
import CameraServer.Proofs.Net.Address
import CameraServer.Proofs.Net.ListenUrl
import CameraServer.Proofs.Recording.FragmentOrder
import CameraServer.Proofs.Pipeline.Shutdown
import CameraServer.Proofs.Pipeline.Overtaking
import CameraServer.Proofs.Media.Numbering
import CameraServer.Proofs.Media.Rewiring
import CameraServer.Proofs.Media.WellFormed
