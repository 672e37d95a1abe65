import LinkShortener.Agent.Classify
import LinkShortener.Agent.Pattern
import LinkShortener.Agent.PatternText
import LinkShortener.Agent.Rules
import LinkShortener.Bench.Lifetime
import LinkShortener.Bench.Listening
import LinkShortener.Bench.Session
import LinkShortener.Bench.World
import LinkShortener.Cell
import LinkShortener.Click.Statistics
import LinkShortener.Click.Store
import LinkShortener.Click.Table
import LinkShortener.Daemon.Lifespan
import LinkShortener.Daemon.LogSetup
import LinkShortener.Daemon.Manager
import LinkShortener.Daemon.Memory
import LinkShortener.Datum
import LinkShortener.Device
import LinkShortener.Fault
import LinkShortener.Feed.Basic
import LinkShortener.Health
import LinkShortener.Idna.Ascii
import LinkShortener.Idna.Compatibility
import LinkShortener.Idna.Composition
import LinkShortener.Idna.Decomposition
import LinkShortener.Idna.Folding
import LinkShortener.Idna.Prohibition
import LinkShortener.Idna.Punycode
import LinkShortener.Json.Reader
import LinkShortener.Json.Value
import LinkShortener.Json.Writer
import LinkShortener.KeyValue.Keyspace
import LinkShortener.Link.Basic
import LinkShortener.Link.Catalog
import LinkShortener.Link.Copies
import LinkShortener.Link.Counter
import LinkShortener.Link.Directory
import LinkShortener.Link.Table
import LinkShortener.Log
import LinkShortener.Meter
import LinkShortener.Moment.Basic
import LinkShortener.Moment.Parser
import LinkShortener.Moment.Printer
import LinkShortener.Net.Address
import LinkShortener.Net.Network
import LinkShortener.Numeral.Binary64
import LinkShortener.Numeral.Grammar
import LinkShortener.Numeral.Shortest
import LinkShortener.Place.Atlas
import LinkShortener.Proofs.KeyValue.Keyspace
import LinkShortener.Proofs.Link.Phase
import LinkShortener.Proofs.Link.Table
import LinkShortener.Proofs.Routine.Protocol
import LinkShortener.Proofs.Token
import LinkShortener.Proofs.Traffic.Basic
import LinkShortener.Proofs.Traffic.Deed
import LinkShortener.Proofs.Traffic.Machinery
import LinkShortener.Record.Field
import LinkShortener.Record.Flaw
import LinkShortener.Routine.Basic
import LinkShortener.Routine.Call
import LinkShortener.Settings.Basic
import LinkShortener.Settings.Dotenv
import LinkShortener.Settings.Reader
import LinkShortener.Tally
import LinkShortener.Text.Blank
import LinkShortener.Text.CodeMap
import LinkShortener.Text.CodeRange
import LinkShortener.Text.Encoded
import LinkShortener.Text.Hex
import LinkShortener.Text.Latin
import LinkShortener.Text.Lower
import LinkShortener.Text.Percent
import LinkShortener.Text.Printable
import LinkShortener.Text.Quoted
import LinkShortener.Text.Search
import LinkShortener.Text.Sigma
import LinkShortener.Text.WordClass
import LinkShortener.Token
import LinkShortener.Url.Check
import LinkShortener.Url.Endpoint
import LinkShortener.Url.Host
import LinkShortener.Url.Split
import LinkShortener.Visit.Basic
import LinkShortener.Visit.Enrichment
import LinkShortener.Visit.Intake
import LinkShortener.Visit.Publisher
import LinkShortener.Web.Authority
import LinkShortener.Web.Payload
import LinkShortener.Web.Request
import LinkShortener.Web.Response
import LinkShortener.Web.Route
import LinkShortener.Web.Service
import LinkShortener.Web.Sharing
import LinkShortener.Proofs.Traffic.Staleness
import LinkShortener.Proofs.Traffic.Sequence
import LinkShortener.Proofs.Traffic.Coherence
import LinkShortener.Proofs.Traffic.Ledger
import LinkShortener.Proofs.Traffic.Numbering
import LinkShortener.Proofs.Traffic.Reuse
import LinkShortener.Proofs.Traffic.Provenance
import LinkShortener.Proofs.Feed.Protocol
import LinkShortener.Proofs.Feed.Loop
import LinkShortener.Proofs.Feed.Commit
import LinkShortener.Proofs.Visit.Intake
import LinkShortener.Proofs.Click.Table
import LinkShortener.Proofs.Click.Statistics
import LinkShortener.Proofs.Json.RoundTrip
import LinkShortener.Proofs.Moment.RoundTrip
import LinkShortener.Proofs.Visit.Wire
import LinkShortener.Proofs.Web.Redirect
import LinkShortener.Proofs.Visit.Stream
import LinkShortener.Proofs.Feed.Recovery
import LinkShortener.Proofs.Failure.Fate
import LinkShortener.Proofs.Failure.Outcome
import LinkShortener.Proofs.Failure.Atomicity
import LinkShortener.Proofs.Web.Route
import LinkShortener.Proofs.Web.Answer
import LinkShortener.Proofs.Web.Verdict
import LinkShortener.Proofs.Web.Refusal
import LinkShortener.Proofs.Web.Reading
import LinkShortener.Proofs.Web.Conduct
import LinkShortener.Proofs.Web.Issued
import LinkShortener.Proofs.Web.Isolation
import LinkShortener.Proofs.Click.Backends
import LinkShortener.Proofs.Visit.Arrival
import LinkShortener.Proofs.Click.Redelivery
import LinkShortener.Proofs.Routine.Machine
import LinkShortener.Proofs.Routine.Pool
import LinkShortener.Proofs.Traffic.Metering
import LinkShortener.Proofs.Daemon.Holdings
import LinkShortener.Proofs.Daemon.Steward
import LinkShortener.Proofs.Feed.Stint
import LinkShortener.Proofs.Daemon.Process
import LinkShortener.Proofs.Daemon.Lifespan
import LinkShortener.Proofs.Daemon.Cycle
import LinkShortener.Proofs.Daemon.Caller
import LinkShortener.Proofs.Daemon.Overlap
import LinkShortener.Proofs.Token.Canonical
import LinkShortener.Proofs.Token.Order
import LinkShortener.Proofs.Url.Absolute
import LinkShortener.Proofs.Routine.Trace
import LinkShortener.Proofs.Pipeline.Balance
import LinkShortener.Proofs.Pipeline.Redirect
import LinkShortener.Proofs.Pipeline.Intake
import LinkShortener.Proofs.Pipeline.Consumption
import LinkShortener.Proofs.Pipeline.Ledger
import LinkShortener.Proofs.Place.Atlas
import LinkShortener.Proofs.Visit.Enrichment
import LinkShortener.Proofs.Click.Questions
import LinkShortener.Proofs.Click.Rows
import LinkShortener.Proofs.Click.Growth
import LinkShortener.Proofs.Click.Race
import LinkShortener.Proofs.Feed.Course
import LinkShortener.Proofs.Feed.Shift
import LinkShortener.Proofs.Feed.Departure
import LinkShortener.Proofs.Traffic.Separation
import LinkShortener.Proofs.Web.Caller
import LinkShortener.Proofs.Record.Stability
