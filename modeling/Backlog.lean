import Backlog.Auth.Authenticator
import Backlog.Auth.Basic
import Backlog.Auth.Token
import Backlog.Config.Address
import Backlog.Config.Basic
import Backlog.Config.Environment
import Backlog.Decimal.Shortest
import Backlog.Digest.Sha256
import Backlog.Feature.Basic
import Backlog.Feature.Grouping
import Backlog.Feature.Inquiry
import Backlog.Feature.Path
import Backlog.Feature.TechStack
import Backlog.Generation.Context
import Backlog.Generation.Enrichment
import Backlog.Generation.Phase
import Backlog.Generation.Plan
import Backlog.Generation.Run
import Backlog.Generation.Slots
import Backlog.Generation.Synthesis
import Backlog.Graph.Basic
import Backlog.Graph.Indexed
import Backlog.Graph.Rules
import Backlog.Graph.Search
import Backlog.Http.Content
import Backlog.Http.Form
import Backlog.Http.Listing
import Backlog.Http.MediaType
import Backlog.Http.Message
import Backlog.Http.Route
import Backlog.Http.RouteLabel
import Backlog.Http.Server
import Backlog.Json.Basic
import Backlog.Json.Number
import Backlog.Json.Parser
import Backlog.Json.Printer
import Backlog.Json.Reader
import Backlog.Json.Record
import Backlog.Llm.Basic
import Backlog.Llm.Service
import Backlog.Metric
import Backlog.Named
import Backlog.Project.Basic
import Backlog.Service
import Backlog.Store.Basic
import Backlog.Store.Change
import Backlog.Store.Commit
import Backlog.Store.Database
import Backlog.Store.Row
import Backlog.Store.Update
import Backlog.Sync.Event
import Backlog.Sync.Hub
import Backlog.Sync.Message
import Backlog.Sync.Snapshot
import Backlog.Sync.System
import Backlog.Text.Alphanumeric
import Backlog.Text.Blank
import Backlog.Text.Digits
import Backlog.Text.Keywords
import Backlog.Text.LetterCase
import Backlog.Text.Split
import Backlog.Text.Utf8
import Backlog.Ticket.Basic
import Backlog.Ticket.Patch
import Backlog.Ticket.Wire
import Backlog.Time.Calendar
import Backlog.Time.Rfc3339
import Backlog.Time.Span
import Backlog.Toml.Parser
import Backlog.Toml.Scalar
import Backlog.Toml.Table
import Backlog.Proofs.Except
import Backlog.Proofs.Text.Blank
import Backlog.Proofs.Feature.Normal
import Backlog.Proofs.Feature.Grouping
import Backlog.Proofs.Graph.Built
import Backlog.Proofs.Graph.Cycle
import Backlog.Proofs.Graph.Search
import Backlog.Proofs.Graph.Order
import Backlog.Proofs.Graph.Closing
import Backlog.Proofs.Graph.Chain
import Backlog.Proofs.Graph.Closure
import Backlog.Proofs.Graph.Rules
import Backlog.Proofs.Store.Change
import Backlog.Proofs.Store.Commit
import Backlog.Proofs.Store.Step
import Backlog.Proofs.Store.Ranked
import Backlog.Proofs.Store.Transaction
import Backlog.Proofs.Store.Operation
import Backlog.Proofs.Store.Counted
import Backlog.Proofs.Store.Analysis
import Backlog.Proofs.Generation.Plan
import Backlog.Proofs.Generation.Run
import Backlog.Proofs.Generation.Enrichment
import Backlog.Proofs.Generation.Success
import Backlog.Proofs.Generation.Frame
import Backlog.Proofs.Generation.Extraction
import Backlog.Proofs.Sync.Hub
import Backlog.Proofs.Sync.Run
import Backlog.Proofs.Sync.Conversation
import Backlog.Proofs.Sync.Following
import Backlog.Proofs.Sync.Alone
import Backlog.Proofs.History
import Backlog.Proofs.Events
import Backlog.Proofs.Interleaving
import Backlog.Proofs.Auth.Token
import Backlog.Proofs.Auth.Authenticator
import Backlog.Proofs.Http.Caller
import Backlog.Proofs.Sync.Errors
import Backlog.Proofs.Json.Text
import Backlog.Proofs.Json.Record
import Backlog.Proofs.Json.Number
import Backlog.Proofs.Named
import Backlog.Proofs.Ticket.Wire
import Backlog.Proofs.Generation.Context
import Backlog.Proofs.Store.Row
import Backlog.Proofs.Store.Database
import Backlog.Proofs.Sync.Message
import Backlog.Proofs.Config.Check
import Backlog.Proofs.Http.Guard
import Backlog.Proofs.Time.Calendar
import Backlog.Proofs.Time.Rfc3339
import Backlog.Proofs.Store.ReadBack
import Backlog.Proofs.Graph.CriticalPath
import Backlog.Proofs.Text.Keywords
import Backlog.Proofs.Graph.Kinds
import Backlog.Proofs.Time.Order
import Backlog.Proofs.Sync.Snapshot
import Backlog.Proofs.Sync.System
import Backlog.Proofs.Sync.Session
import Backlog.Proofs.Sync.Shutdown
import Backlog.Proofs.Generation.Rewording
import Backlog.Proofs.Sync.Heartbeat
import Backlog.Proofs.Graph.Star
import Backlog.Proofs.Ticket.Same
import Backlog.Proofs.Generation.Outcome
import Backlog.Proofs.Store.Lasting
import Backlog.Proofs.Store.Update
import Backlog.Proofs.Ticket.Patch
import Backlog.Proofs.Store.Work
import Backlog.Proofs.Text.Ascending
import Backlog.Proofs.Graph.Reachable
import Backlog.Proofs.Graph.Rebuilt
import Backlog.Proofs.Feature.Partition
import Backlog.Proofs.Http.RouteLabel
import Backlog.Proofs.Llm.Client
import Backlog.Proofs.Feature.Inquiry
import Backlog.Proofs.Sync.Counts
import Backlog.Proofs.Sync.Tally
import Backlog.Proofs.Generation.Slots
import Backlog.Proofs.Store.Listing
import Backlog.Proofs.Http.Form
import Backlog.Proofs.Http.Listing
import Backlog.Proofs.Http.Paging
import Backlog.Proofs.Text.LetterCase
import Backlog.Proofs.Generation.FileStructure
import Backlog.Proofs.Llm.Fence
import Backlog.Proofs.Graph.Indexed
import Backlog.Proofs.Graph.Calls
