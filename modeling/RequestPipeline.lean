import RequestPipeline.Config.Acceptance
import RequestPipeline.Config.Description
import RequestPipeline.Config.Dotenv
import RequestPipeline.Config.Fault
import RequestPipeline.Config.Loader
import RequestPipeline.Config.LogFilter
import RequestPipeline.Config.Settings
import RequestPipeline.Config.SocketAddress
import RequestPipeline.Config.Variables
import RequestPipeline.Context
import RequestPipeline.Digest.Sha1
import RequestPipeline.Extraction.Body
import RequestPipeline.Failure
import RequestPipeline.Failure.Description
import RequestPipeline.Http.Description
import RequestPipeline.Http.Form
import RequestPipeline.Http.Header
import RequestPipeline.Http.Message
import RequestPipeline.Identity.Authenticator
import RequestPipeline.Identity.Principal
import RequestPipeline.Json.Fault
import RequestPipeline.Json.Lookup
import RequestPipeline.Json.Parse
import RequestPipeline.Json.Print
import RequestPipeline.Json.Record
import RequestPipeline.Json.Value
import RequestPipeline.Number.Binary64
import RequestPipeline.Number.Literal
import RequestPipeline.Number.Shortest
import RequestPipeline.Operation
import RequestPipeline.Pattern.Atom
import RequestPipeline.Pattern.Bracket
import RequestPipeline.Pattern.Mode
import RequestPipeline.Pattern.Validity
import RequestPipeline.Reply.Description
import RequestPipeline.Reply.Envelope
import RequestPipeline.Reply.Exposure
import RequestPipeline.Run
import RequestPipeline.Samples.Rooms
import RequestPipeline.Samples.Script
import RequestPipeline.Server.Health
import RequestPipeline.Server.Options
import RequestPipeline.Server.Plan
import RequestPipeline.Server.Router
import RequestPipeline.Server.Server
import RequestPipeline.Server.Shutdown
import RequestPipeline.Serving.Correlation
import RequestPipeline.Serving.HttpEndpoint
import RequestPipeline.Serving.Pipeline
import RequestPipeline.Socket.Connection
import RequestPipeline.Socket.Conversation
import RequestPipeline.Socket.Description
import RequestPipeline.Socket.EventFrame
import RequestPipeline.Socket.Fault
import RequestPipeline.Socket.Frame
import RequestPipeline.Socket.Gateway
import RequestPipeline.Socket.Message
import RequestPipeline.Socket.Session
import RequestPipeline.Socket.Upgrade
import RequestPipeline.Socket.Wire
import RequestPipeline.Telemetry.Process
import RequestPipeline.Telemetry.Recorder
import RequestPipeline.Telemetry.Setup
import RequestPipeline.Text.Alphanumeric
import RequestPipeline.Text.Ascii
import RequestPipeline.Text.Base64
import RequestPipeline.Text.Blank
import RequestPipeline.Text.Case
import RequestPipeline.Text.Cased
import RequestPipeline.Text.Decimal
import RequestPipeline.Text.Quoted
import RequestPipeline.Text.Ranges
import RequestPipeline.Text.Split
import RequestPipeline.Text.Unprintable
import RequestPipeline.Text.Utf8
import RequestPipeline.Toml.Parse
import RequestPipeline.Toml.Table
import RequestPipeline.Uuid
import RequestPipeline.Validation.Check
import RequestPipeline.Validation.Coercion
import RequestPipeline.Validation.Description
import RequestPipeline.Validation.Pagination
import RequestPipeline.Validation.Schema
import RequestPipeline.Proofs.Json.Members
import RequestPipeline.Proofs.Validation.Field
import RequestPipeline.Proofs.Validation.Report
import RequestPipeline.Proofs.Dispatch.Gate
import RequestPipeline.Proofs.Dispatch.MissingBody
import RequestPipeline.Proofs.Reply.Agreement
import RequestPipeline.Proofs.Serving.Answers
import RequestPipeline.Proofs.Serving.Noninterference
import RequestPipeline.Proofs.Text.Utf8
import RequestPipeline.Proofs.Dispatch.Caller
import RequestPipeline.Proofs.Json.Print
import RequestPipeline.Proofs.Serving.Parity
import RequestPipeline.Proofs.Text.Uuid
import RequestPipeline.Proofs.Dispatch.Passage
import RequestPipeline.Proofs.Serving.Standard
import RequestPipeline.Proofs.Serving.Correlation
import RequestPipeline.Proofs.Server.Handling
import RequestPipeline.Proofs.Server.Precedence
import RequestPipeline.Proofs.Server.OneId
import RequestPipeline.Proofs.Socket.Serving
import RequestPipeline.Proofs.Socket.Identity
import RequestPipeline.Proofs.Text.Parts
import RequestPipeline.Proofs.Validation.Coercion
import RequestPipeline.Proofs.Validation.Idempotence
import RequestPipeline.Proofs.Dispatch.Context
import RequestPipeline.Proofs.Socket.InOrder
import RequestPipeline.Proofs.Json.Record
import RequestPipeline.Proofs.Number.Rounding
import RequestPipeline.Proofs.Text.Order
import RequestPipeline.Proofs.Validation.Bounds
import RequestPipeline.Proofs.Validation.Pagination
import RequestPipeline.Proofs.Config.Acceptance
import RequestPipeline.Proofs.Config.Described
import RequestPipeline.Proofs.Json.Entries
import RequestPipeline.Proofs.Json.Forward
import RequestPipeline.Proofs.Json.Documents
import RequestPipeline.Proofs.Socket.EventFrame
import RequestPipeline.Proofs.Config.Directives
import RequestPipeline.Proofs.Config.Filters
import RequestPipeline.Proofs.Config.Startup
import RequestPipeline.Proofs.Keyed
import RequestPipeline.Proofs.Config.Overrides
import RequestPipeline.Proofs.Socket.Watched
import RequestPipeline.Proofs.Telemetry.Answered
import RequestPipeline.Proofs.Telemetry.Conservation
import RequestPipeline.Proofs.Socket.Handshake
import RequestPipeline.Proofs.Server.Transparency
import RequestPipeline.Proofs.Server.Interleaving
import RequestPipeline.Proofs.Server.Signalling
import RequestPipeline.Proofs.Server.Draining
import RequestPipeline.Proofs.Reply.Projection
import RequestPipeline.Proofs.Validation.Selection
import RequestPipeline.Proofs.Config.Assignments
import RequestPipeline.Proofs.Json.Typed
import RequestPipeline.Proofs.Toml.Tables
import RequestPipeline.Proofs.Config.Documents
import RequestPipeline.Proofs.Config.Layers
import RequestPipeline.Proofs.Number.Nearest
import RequestPipeline.Proofs.Number.Shortest
import RequestPipeline.Proofs.Text.Decimal
import RequestPipeline.Proofs.Number.Literal
import RequestPipeline.Proofs.Json.Number
import RequestPipeline.Proofs.Validation.Numbers
import RequestPipeline.Proofs.Validation.Lists
import RequestPipeline.Proofs.Validation.Integers
import RequestPipeline.Proofs.Validation.Nulls
import RequestPipeline.Proofs.Http.Header
import RequestPipeline.Proofs.Http.Query
import RequestPipeline.Proofs.Extraction.Body
import RequestPipeline.Proofs.Socket.Lines
import RequestPipeline.Proofs.Socket.Connection
import RequestPipeline.Proofs.Socket.Calls
import RequestPipeline.Proofs.Socket.Closed
import RequestPipeline.Proofs.Server.Routing
import RequestPipeline.Proofs.Server.Registration
import RequestPipeline.Proofs.Serving.Shape
import RequestPipeline.Proofs.Telemetry.Stages
import RequestPipeline.Proofs.Telemetry.Installation
import RequestPipeline.Proofs.Config.Independence
import RequestPipeline.Proofs.Json.Written
import RequestPipeline.Proofs.Config.Strict
import RequestPipeline.Proofs.Serving.Nesting
