import SessionRelay.Activity
import SessionRelay.Address
import SessionRelay.Backplane.Cluster
import SessionRelay.Backplane.Consumer
import SessionRelay.Backplane.Envelope
import SessionRelay.Backplane.QueueName
import SessionRelay.Backplane.Relay
import SessionRelay.ClientState
import SessionRelay.CommandLine
import SessionRelay.Config
import SessionRelay.Crypto.Aes
import SessionRelay.Crypto.Gcm
import SessionRelay.Crypto.Hmac
import SessionRelay.Crypto.Sha256
import SessionRelay.Demo
import SessionRelay.Encoding.Base64
import SessionRelay.Fault
import SessionRelay.Http.EventStream
import SessionRelay.Http.Message
import SessionRelay.Http.Octets
import SessionRelay.Http.Pattern
import SessionRelay.Http.Site
import SessionRelay.Json.Basic
import SessionRelay.Json.Decode
import SessionRelay.Json.Numeral
import SessionRelay.Json.Parser
import SessionRelay.Json.Printer
import SessionRelay.Json.Token
import SessionRelay.Layers
import SessionRelay.Main
import SessionRelay.Mcp.Content
import SessionRelay.Mcp.Definition
import SessionRelay.Mcp.Operation
import SessionRelay.Network
import SessionRelay.Number.Decimal
import SessionRelay.Number.Double
import SessionRelay.Number.Width
import SessionRelay.Proofs.Backplane.Relaying
import SessionRelay.Proofs.Json.Reading
import SessionRelay.Proofs.Json.Record
import SessionRelay.Proofs.Json.Spelling
import SessionRelay.Proofs.Json.Value
import SessionRelay.Proofs.Number.Literal
import SessionRelay.Proofs.Rpc.Message
import SessionRelay.Proofs.Server.Account
import SessionRelay.Proofs.Server.Admission
import SessionRelay.Proofs.Server.Exchanges
import SessionRelay.Proofs.Server.Meddling
import SessionRelay.Proofs.Server.Step
import SessionRelay.Proofs.Server.Touch
import SessionRelay.Proofs.Session.Cancellation
import SessionRelay.Proofs.Session.History
import SessionRelay.Proofs.Session.InFlight
import SessionRelay.Proofs.Session.Invariant
import SessionRelay.Proofs.Session.Job
import SessionRelay.Proofs.Session.Outcome
import SessionRelay.Proofs.Session.Stream
import SessionRelay.Proofs.Transport.Inbound
import SessionRelay.Proofs.Transport.Outbound
import SessionRelay.Queue.Rehearsal
import SessionRelay.Queue.Service
import SessionRelay.Queue.Store
import SessionRelay.Registry
import SessionRelay.Resource
import SessionRelay.Router
import SessionRelay.Rpc.Decode
import SessionRelay.Rpc.Message
import SessionRelay.Sample
import SessionRelay.Server.Basic
import SessionRelay.Server.Exchange
import SessionRelay.Server.Schedule
import SessionRelay.Session.Basic
import SessionRelay.Session.Handshake
import SessionRelay.Session.InFlight
import SessionRelay.Session.Table
import SessionRelay.Session.Work
import SessionRelay.Startup
import SessionRelay.Text.Blank
import SessionRelay.Text.CodeRange
import SessionRelay.Text.Composition
import SessionRelay.Text.Direction
import SessionRelay.Text.Joining
import SessionRelay.Text.Lowercase
import SessionRelay.Text.Mark
import SessionRelay.Text.Printable
import SessionRelay.Text.Quoted
import SessionRelay.Text.Search
import SessionRelay.Text.Split
import SessionRelay.Text.Utf8
import SessionRelay.Toml.Basic
import SessionRelay.Toml.Parser
import SessionRelay.Toml.Scalar
import SessionRelay.Toml.Table
import SessionRelay.Toml.Text
import SessionRelay.Tool
import SessionRelay.Transport
import SessionRelay.Transport.Inbound
import SessionRelay.Transport.Outbound
import SessionRelay.Url.Domain
import SessionRelay.Url.Domain.Folding
import SessionRelay.Url.Domain.Label
import SessionRelay.Url.Form
import SessionRelay.Url.Host
import SessionRelay.Url.Parser
import SessionRelay.Url.Percent
import SessionRelay.Url.Punycode
import SessionRelay.Wire
import SessionRelay.Proofs.Encoding.Base64
import SessionRelay.Proofs.Text.Utf8
import SessionRelay.Proofs.ClientState
import SessionRelay.Proofs.Queue.Store
import SessionRelay.Proofs.Backplane.Channel
import SessionRelay.Proofs.Backplane.Addressing
import SessionRelay.Proofs.Backplane.Custody
import SessionRelay.Proofs.Server.InHand
import SessionRelay.Proofs.Network.Ownership
import SessionRelay.Proofs.ClientState.Forgery
import SessionRelay.Proofs.Session.Handshake
import SessionRelay.Proofs.Session.Steady
import SessionRelay.Proofs.Session.Teardown
import SessionRelay.Proofs.Server.Roster
import SessionRelay.Proofs.Session.Deed
import SessionRelay.Proofs.Server.Happening
import SessionRelay.Proofs.Server.Isolation
import SessionRelay.Proofs.Text.Lowercase
import SessionRelay.Proofs.Registry
import SessionRelay.Proofs.Router
import SessionRelay.Proofs.Listing
import SessionRelay.Proofs.Url.Form
import SessionRelay.Proofs.Http.Site
import SessionRelay.Proofs.Transport.Line
import SessionRelay.Proofs.Session.Attention
import SessionRelay.Proofs.Server.Alike
import SessionRelay.Proofs.Server.Seats
import SessionRelay.Proofs.Server.Post
import SessionRelay.Proofs.Server.Endpoint
import SessionRelay.Proofs.Json.Object
import SessionRelay.Proofs.Json.Stable
import SessionRelay.Proofs.Rpc.Grammar
import SessionRelay.Proofs.Mcp.Content
import SessionRelay.Proofs.Wire
import SessionRelay.Proofs.Session.Silence
import SessionRelay.Proofs.Session.Staying
import SessionRelay.Proofs.Server.Onward
import SessionRelay.Proofs.Server.Holders
import SessionRelay.Proofs.Session.Flights
import SessionRelay.Proofs.Queue.Leases
import SessionRelay.Proofs.Transport.Outflow
import SessionRelay.Proofs.Transport.Inflow
import SessionRelay.Proofs.Router.Failure
import SessionRelay.Proofs.Startup
import SessionRelay.Proofs.Server.Malformed
import SessionRelay.Proofs.Server.Entries
import SessionRelay.Proofs.Server.Turns
import SessionRelay.Proofs.Server.Errand
import SessionRelay.Proofs.Backplane.QueueName
import SessionRelay.Proofs.Rpc.Response
import SessionRelay.Proofs.Backplane.Backoff
import SessionRelay.Proofs.Json.OneLine
import SessionRelay.Proofs.Http.EventStream
