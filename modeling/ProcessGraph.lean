import ProcessGraph.Action
import ProcessGraph.Command.Basic
import ProcessGraph.Command.Invocation
import ProcessGraph.Command.Line
import ProcessGraph.Command.Listing
import ProcessGraph.Command.Tool
import ProcessGraph.Command.Watch
import ProcessGraph.Config.Basic
import ProcessGraph.Config.Discovery
import ProcessGraph.Config.Document
import ProcessGraph.ContainerHandle
import ProcessGraph.Decimal.Double
import ProcessGraph.Decimal.Notation
import ProcessGraph.Decimal.Shortest
import ProcessGraph.Error
import ProcessGraph.FanOut
import ProcessGraph.FileTree.Basic
import ProcessGraph.FileTree.Error
import ProcessGraph.Fixture.Basic
import ProcessGraph.Fixture.Samples
import ProcessGraph.Fixture.Server
import ProcessGraph.Gateway
import ProcessGraph.Http.Chunks
import ProcessGraph.Http.Framing
import ProcessGraph.Http.Head
import ProcessGraph.Http.Header
import ProcessGraph.Http.Message
import ProcessGraph.Http.Replay
import ProcessGraph.Http.ScriptedPeer
import ProcessGraph.Http.Status
import ProcessGraph.Http.Target
import ProcessGraph.Http.Wire
import ProcessGraph.Identifier
import ProcessGraph.Inspect
import ProcessGraph.Json.Number
import ProcessGraph.Json.Parser
import ProcessGraph.Json.Printer
import ProcessGraph.Json.Shape
import ProcessGraph.Json.Value
import ProcessGraph.Keyed
import ProcessGraph.Log
import ProcessGraph.Main
import ProcessGraph.Payload
import ProcessGraph.ProcessHandle
import ProcessGraph.Profile
import ProcessGraph.Proofs.Action
import ProcessGraph.Proofs.Coherence
import ProcessGraph.Proofs.FanOut
import ProcessGraph.Proofs.Handles
import ProcessGraph.Proofs.Operation
import ProcessGraph.Query
import ProcessGraph.RefreshLoop
import ProcessGraph.Remote
import ProcessGraph.Script
import ProcessGraph.SystemHandle
import ProcessGraph.Text.Base64
import ProcessGraph.Text.Blank
import ProcessGraph.Text.CombiningClass
import ProcessGraph.Text.Composite
import ProcessGraph.Text.FormEncoded
import ProcessGraph.Text.Hex
import ProcessGraph.Text.Mark
import ProcessGraph.Text.Normal
import ProcessGraph.Text.Percent
import ProcessGraph.Text.Printable
import ProcessGraph.Text.Quoted
import ProcessGraph.Text.Ranges
import ProcessGraph.Text.Split
import ProcessGraph.Text.Table
import ProcessGraph.Text.Utf8
import ProcessGraph.Toml.Parser
import ProcessGraph.Toml.Scalar
import ProcessGraph.Toml.Table
import ProcessGraph.Toml.Text
import ProcessGraph.Url.Basic
import ProcessGraph.Url.Direction
import ProcessGraph.Url.Domain
import ProcessGraph.Url.Error
import ProcessGraph.Url.Folding
import ProcessGraph.Url.Host
import ProcessGraph.Url.Ipv4
import ProcessGraph.Url.Ipv6
import ProcessGraph.Url.Joining
import ProcessGraph.Url.Parser
import ProcessGraph.Url.Punycode
import ProcessGraph.Proofs.Atomicity
import ProcessGraph.Proofs.Rebuild
import ProcessGraph.Proofs.RefreshLoop
import ProcessGraph.Proofs.Requests
import ProcessGraph.Proofs.Siblings
import ProcessGraph.Proofs.Timing
import ProcessGraph.Proofs.Episode
import ProcessGraph.Proofs.Abandonment
import ProcessGraph.Proofs.Readiness
import ProcessGraph.Proofs.Traffic
import ProcessGraph.Proofs.Telling
import ProcessGraph.Proofs.Lifecycle
import ProcessGraph.Proofs.Authority
import ProcessGraph.Proofs.Validation
import ProcessGraph.Proofs.FixtureStore
import ProcessGraph.Proofs.Encodings
import ProcessGraph.Proofs.Documents
import ProcessGraph.Proofs.Wire
import ProcessGraph.Proofs.SiteRequests
import ProcessGraph.Proofs.SiteExchanges
import ProcessGraph.Proofs.SiteSource
import ProcessGraph.Proofs.Renewal
import ProcessGraph.Proofs.Routes
import ProcessGraph.Proofs.Responses
import ProcessGraph.Proofs.Onward
import ProcessGraph.Proofs.Quiet
import ProcessGraph.Proofs.SameResults
import ProcessGraph.Proofs.Watching
import ProcessGraph.Proofs.Lookups
import ProcessGraph.Proofs.Profiles
import ProcessGraph.Proofs.Pacing
import ProcessGraph.Proofs.Roots
import ProcessGraph.Proofs.SystemDocuments
import ProcessGraph.Proofs.Identifiers
import ProcessGraph.Proofs.Resolution
import ProcessGraph.Proofs.Calling
import ProcessGraph.Proofs.WatchTraffic
import ProcessGraph.Proofs.Defaults
import ProcessGraph.Proofs.Headers
import ProcessGraph.Proofs.Discovery
import ProcessGraph.Proofs.Listing
