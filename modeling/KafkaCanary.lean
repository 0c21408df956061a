import KafkaCanary.Text.CommaList
import KafkaCanary.Text.Utf8
import KafkaCanary.Decimal.Literal
import KafkaCanary.Decimal.Layout
import KafkaCanary.Json.Lexeme
import KafkaCanary.Json.Numeral
import KafkaCanary.Json.Skip
import KafkaCanary.Text.Quoted
import KafkaCanary.Message.Writer
import KafkaCanary.Message.Reader
import KafkaCanary.Clock
import KafkaCanary.Failure
import KafkaCanary.Metrics.Instruments
import KafkaCanary.Duration
import KafkaCanary.Event
import KafkaCanary.Metrics.Exposition
import KafkaCanary.Options.Help
import KafkaCanary.Wire.Checksum
import KafkaCanary.Wire.Reader
import KafkaCanary.Wire.Writer
import KafkaCanary.Protocol.Request
import KafkaCanary.Protocol.ResponseWriter
import KafkaCanary.Scheduler
import KafkaCanary.Rehearsal.Ensemble
import KafkaCanary.Client.Operations
import KafkaCanary.Rehearsal.Cluster
import KafkaCanary.Event.Filter
import KafkaCanary.Program
import KafkaCanary.Rehearsal.Platform
import KafkaCanary.Main
import KafkaCanary.Proofs.Json.Strings
import KafkaCanary.Proofs.Json.Numerals
import KafkaCanary.Proofs.Json.Skipping
import KafkaCanary.Proofs.Message.Fields
import KafkaCanary.Proofs.Message.Language
import KafkaCanary.Proofs.Message.RoundTrip
import KafkaCanary.Proofs.Producer.Ledger
import KafkaCanary.Proofs.Producer.Sequence
import KafkaCanary.Proofs.Table
import KafkaCanary.Proofs.Metrics.Tally
import KafkaCanary.Proofs.Producer.Counting
import KafkaCanary.Proofs.Scheduler.Cycles
import KafkaCanary.Proofs.Scheduler.Pace
import KafkaCanary.Proofs.Client.Correlation
import KafkaCanary.Proofs.Client.Metadata
import KafkaCanary.Proofs.Client.Routing
import KafkaCanary.Proofs.Client.Closed
import KafkaCanary.Proofs.Wire.Consumption
import KafkaCanary.Proofs.Scheduler.Partitions
import KafkaCanary.Proofs.Text.Separators
import KafkaCanary.Proofs.Options.Arguments
import KafkaCanary.Proofs.Scheduler.Tasks
import KafkaCanary.Proofs.Producer.Closing
import KafkaCanary.Proofs.Scheduler.Isolation
import KafkaCanary.Proofs.Metrics.Histograms
import KafkaCanary.Proofs.Metrics.Registrations
import KafkaCanary.Proofs.Wire.Checksum
import KafkaCanary.Proofs.Protocol.Frames
import KafkaCanary.Proofs.Scheduler.Counts
import KafkaCanary.Proofs.Client.Retirement
import KafkaCanary.Proofs.Protocol.Batches
import KafkaCanary.Proofs.Producer.Callers
import KafkaCanary.Proofs.Producer.Locking
import KafkaCanary.Proofs.Producer.Replay
import KafkaCanary.Proofs.Producer.Serial
import KafkaCanary.Proofs.Producer.Completion
import KafkaCanary.Proofs.Message.Prefixes
import KafkaCanary.Proofs.Json.Cuts
import KafkaCanary.Proofs.Message.Truncation
import KafkaCanary.Proofs.Client.Versions
import KafkaCanary.Proofs.Client.Lengths
import KafkaCanary.Proofs.Client.Search
import KafkaCanary.Proofs.Decimal.Rounding
import KafkaCanary.Proofs.Json.Overflow
import KafkaCanary.Proofs.Message.Integers
import KafkaCanary.Proofs.Metrics.BucketLists
import KafkaCanary.Proofs.Decimal.Integers
import KafkaCanary.Proofs.Client.Timeouts
import KafkaCanary.Proofs.Options.Integers
import KafkaCanary.Proofs.Text.CommaLists
import KafkaCanary.Proofs.Options.Servers
import KafkaCanary.Proofs.Producer.Latencies
import KafkaCanary.Proofs.Decimal.Shortest
import KafkaCanary.Proofs.Decimal.Layout
import KafkaCanary.Proofs.Metrics.ExpositionText
import KafkaCanary.Proofs.Metrics.Exposed
