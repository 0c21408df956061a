import KafkaCanary.Decimal.Integer
import KafkaCanary.Duration
import KafkaCanary.Metrics.Buckets
import KafkaCanary.Options.Setting
import KafkaCanary.Text.CommaList

/-!
# Options

The values of all settings of one run, and what they stand for.
-/

namespace KafkaCanary

/-- The values of all settings. -/
structure Options where
  /-- The brokers to start with, as a comma-separated list. -/
  bootstrapServers : String
  /-- The topic of the messages. -/
  topic : String
  /-- The client id. -/
  clientId : String
  /-- The bounds of the latency histogram, as a comma-separated list. -/
  latencyBuckets : String
  /-- The time between two cycles, in milliseconds. -/
  reconcileIntervalMillis : UInt64
  /-- The longest wait for a broker, in milliseconds. -/
  requestTimeoutMillis : UInt64
  /-- The number of partitions, if it is fixed. -/
  partitions : Option Int32
  /-- Whether to print the metrics at the end. -/
  printMetrics : Bool
  /-- Whether to report errors only. -/
  quiet : Bool
deriving DecidableEq, Repr

/-- Why options cannot be used. -/
inductive OptionsFault where
  /-- The list of brokers has no entries. -/
  | noServers
  /-- The latency buckets cannot be used. -/
  | buckets (fault : BucketFault)
  /-- There is no time between two cycles. -/
  | zeroInterval
  /-- The longest wait for a broker is zero or beyond what a broker can be told. -/
  | timeoutOutOfRange (millis : UInt64)

/-- The description of a fault. -/
def OptionsFault.message : OptionsFault → String
  | .noServers => "At least one bootstrap server is required"
  | .buckets fault => fault.message
  | .zeroInterval => "Reconcile interval must be greater than zero"
  | .timeoutOutOfRange millis =>
    "Request timeout must be between 1 and 2147483647 ms, got " ++ toString millis.toNat

namespace Options

/-- The brokers to start with. -/
def bootstrapList (o : Options) : Except OptionsFault (List String) :=
  let servers := Text.entries o.bootstrapServers
  if servers.isEmpty then .error .noServers else .ok servers

/-- The bounds of the latency histogram. -/
def bucketList (o : Options) : Except OptionsFault (List Float) :=
  match Buckets.parse o.latencyBuckets with
  | .ok bounds => .ok bounds
  | .error fault => .error (.buckets fault)

/-- The time between two cycles. -/
def reconcileInterval (o : Options) : Except OptionsFault Period :=
  if h : o.reconcileIntervalMillis.toNat = 0 then .error .zeroInterval
  else .ok ⟨.ofMillis o.reconcileIntervalMillis.toNat, by simp; omega⟩

/-- The longest wait for a broker. -/
def requestTimeout (o : Options) : Except OptionsFault Duration :=
  if o.requestTimeoutMillis = 0 ∨ 2147483647 < o.requestTimeoutMillis then
    .error (.timeoutOutOfRange o.requestTimeoutMillis)
  else .ok (.ofMillis o.requestTimeoutMillis.toNat)

end Options

end KafkaCanary
