import SearchFeed.Artifact
import SearchFeed.Batch
import SearchFeed.Config
import SearchFeed.Config.Decode
import SearchFeed.Config.Environment
import SearchFeed.Config.Error
import SearchFeed.Config.Load
import SearchFeed.Config.Review
import SearchFeed.Cycle
import SearchFeed.Decimal.Binary64
import SearchFeed.Decimal.Shortest
import SearchFeed.Delivery
import SearchFeed.Digest.Blake3
import SearchFeed.Drain
import SearchFeed.Event
import SearchFeed.Exchange
import SearchFeed.Exporter
import SearchFeed.Forwarder
import SearchFeed.Index
import SearchFeed.Instant
import SearchFeed.Json
import SearchFeed.Json.Reader
import SearchFeed.Json.Size
import SearchFeed.Json.Text
import SearchFeed.Key
import SearchFeed.LogBuffer
import SearchFeed.Pattern.Bracket
import SearchFeed.Pattern.Charset
import SearchFeed.Pattern.Cursor
import SearchFeed.Pattern.Machine
import SearchFeed.Pattern.Match
import SearchFeed.Pattern.Reader
import SearchFeed.Pipeline
import SearchFeed.Rehearsal
import SearchFeed.Reply
import SearchFeed.Reporter.Items
import SearchFeed.Reporter.Settings
import SearchFeed.Reporter.Snapshot
import SearchFeed.Reporter.Stream
import SearchFeed.RetryQueue
import SearchFeed.Scope
import SearchFeed.Session
import SearchFeed.Source
import SearchFeed.Stats
import SearchFeed.Switches
import SearchFeed.Text.Blank
import SearchFeed.Text.Digits
import SearchFeed.Text.Joined
import SearchFeed.Text.Quoted
import SearchFeed.Text.Search
import SearchFeed.Text.Whole
import SearchFeed.Toml
import SearchFeed.Toml.Draft
import SearchFeed.Toml.Reader
import SearchFeed.Toml.Scalar
import SearchFeed.Traffic
import SearchFeed.Unicode.Category
import SearchFeed.Unicode.CodeMap
import SearchFeed.Unicode.CodeSet
import SearchFeed.Unicode.Composition
import SearchFeed.Unicode.Direction
import SearchFeed.Unicode.DomainMapping
import SearchFeed.Unicode.Folding
import SearchFeed.Unicode.Joining
import SearchFeed.Unicode.Lowercase
import SearchFeed.Unicode.NamedProperty
import SearchFeed.Unicode.Property
import SearchFeed.Unicode.Script
import SearchFeed.Url.Address
import SearchFeed.Url.Domain
import SearchFeed.Url.Host
import SearchFeed.Url.Path
import SearchFeed.Url.Percent
import SearchFeed.Url.Punycode
import SearchFeed.Url.Reader
import SearchFeed.Worker
import SearchFeed.World
import SearchFeed.Proofs.Index
import SearchFeed.Proofs.Reply
import SearchFeed.Proofs.RetryQueue
import SearchFeed.Proofs.QueueRun
import SearchFeed.Proofs.Session
import SearchFeed.Proofs.Drain
import SearchFeed.Proofs.Dispatch
import SearchFeed.Proofs.Keyed
import SearchFeed.Proofs.KeyedRun
import SearchFeed.Proofs.AtLeastOnce
import SearchFeed.Proofs.Resending
import SearchFeed.Proofs.Tally
import SearchFeed.Proofs.History
import SearchFeed.Proofs.TrafficFlow
import SearchFeed.Proofs.NoSilentLoss
import SearchFeed.Proofs.Unbatched
import SearchFeed.Proofs.Credit
import SearchFeed.Proofs.Interleaving
import SearchFeed.Proofs.Stint
import SearchFeed.Proofs.CycleEnd
import SearchFeed.Proofs.Retrying
import SearchFeed.Proofs.Footprint
import SearchFeed.Proofs.Silence
import SearchFeed.Proofs.SettingsRun
import SearchFeed.Proofs.Bookkeeping
import SearchFeed.Proofs.WorkerCycles
import SearchFeed.Proofs.Masked
import SearchFeed.Proofs.Lane
import SearchFeed.Proofs.Work
import SearchFeed.Proofs.StreamWork
import SearchFeed.Proofs.Activities
import SearchFeed.Proofs.Isolation
import SearchFeed.Proofs.Quoting
import SearchFeed.Proofs.TwoRuns
import SearchFeed.Proofs.Disclosure
import SearchFeed.Proofs.Joined
import SearchFeed.Proofs.Identity
import SearchFeed.Proofs.Unchanged
import SearchFeed.Proofs.Declared
import SearchFeed.Proofs.Loading
import SearchFeed.Proofs.Positions
import SearchFeed.Proofs.FewestBatches
import SearchFeed.Proofs.TextSize
import SearchFeed.Proofs.Turns
import SearchFeed.Proofs.Labelled
import SearchFeed.Proofs.SlidingWindow
import SearchFeed.Proofs.Forwarding
import SearchFeed.Proofs.Leftovers
import SearchFeed.Proofs.Course
import SearchFeed.Proofs.LastError
import SearchFeed.Proofs.Padding
import SearchFeed.Proofs.Lowercase
import SearchFeed.Proofs.Spelling
import SearchFeed.Proofs.Numeral
import SearchFeed.Proofs.Listing
import SearchFeed.Proofs.Setting
import SearchFeed.Proofs.Variable
import SearchFeed.Proofs.Override
import SearchFeed.Proofs.ListVariable
import SearchFeed.Proofs.BadVariable
import SearchFeed.Proofs.EmptyAddress
import SearchFeed.Proofs.QueueDepths
import SearchFeed.Proofs.ScopeUnion
import SearchFeed.Proofs.IdleScope
import SearchFeed.Proofs.LoginReading
import SearchFeed.Proofs.Destination
import SearchFeed.Proofs.FinalSigma
import SearchFeed.Proofs.VerbatimEntry
import SearchFeed.Proofs.RehearsedReply
