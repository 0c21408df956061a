import KafkaCanary.Event
import KafkaCanary.Metrics.Buckets
import KafkaCanary.Table
import KafkaCanary.Text.Fingerprint
import KafkaCanary.Text.Utf8

/-!
# Instruments

What a canary counts about its sends, per client id and partition: attempts, failures, clock skew
and a histogram of latencies. An instrument knows labels by their fingerprint: what comes with
labels of the same fingerprint is counted together, under those of them that came first. A registry
holds one set of instruments at most.
-/

namespace KafkaCanary

/-- The outcome of one attempt to send a message to a partition. -/
structure Outcome where
  /-- The partition the message was sent to. -/
  partition : Int32
  /-- Whether the broker took the message. -/
  success : Bool
  /-- The offset that the broker gave the message. -/
  offset : Option Int64
  /-- The time from making the message to its acknowledgement, in milliseconds. -/
  latency : Option Int64
deriving DecidableEq, Repr

namespace Outcome

/-- The outcome of a message that a broker took. -/
def delivered (partition : Int32) (offset latency : Int64) : Outcome :=
  ⟨partition, true, some offset, some latency⟩

/-- The outcome of a message that no broker took. -/
def failed (partition : Int32) : Outcome :=
  ⟨partition, false, none, none⟩

/-- What the instruments report about an outcome. -/
def events (outcome : Outcome) : List Event :=
  match outcome.success, outcome.latency with
  | true, some latency => if latency < 0 then [.clockSkew latency outcome.partition] else []
  | _, _ => []

end Outcome

/-- The labels of a sample. -/
structure Labels where
  /-- The client id. -/
  clientId : String
  /-- The partition in decimal digits. -/
  partition : String
deriving DecidableEq, Repr

/-- Labels are ordered by client id, then by the text of the partition. -/
instance : Ord Labels where
  compare a b := (compare a.clientId b.clientId).then (compare a.partition b.partition)

namespace Labels

/-- The labels of a client and a partition. -/
def of (clientId : String) (partition : Int32) : Labels :=
  ⟨clientId, Decimal.integerText partition.toInt⟩

/-- The number that instruments know labels by. Nothing stands between the two values. -/
def fingerprint (labels : Labels) : UInt64 :=
  Fingerprint.ofBytes (Utf8.encode labels.clientId ++ Utf8.encode labels.partition)

end Labels

namespace Table

variable {α : Type}

/-- The labels in a table that labels are known as, which are the labels themselves unless others
of their fingerprint came first. -/
def knownAs (table : Table Labels α) (labels : Labels) : Labels :=
  ((table.entries.map Prod.fst).find? (·.fingerprint == labels.fingerprint)).getD labels

/-- Change what is counted for labels, which starts as `start`. -/
def count (table : Table Labels α) (labels : Labels) (start : α) (f : α → α) : Table Labels α :=
  table.modify (table.knownAs labels) start f

end Table

/-- Counted latencies. -/
structure Histogram where
  /-- For each bound, how many latencies it is the first bound of. -/
  counts : List Nat
  /-- How many latencies were counted. -/
  count : Nat
  /-- The sum of the latencies. -/
  sum : Float

namespace Histogram

/-- A histogram over `bounds` that has counted nothing. -/
def init (bounds : List Float) : Histogram :=
  ⟨bounds.map fun _ => 0, 0, 0⟩

/-- Count a value under the first bound that is not less than it, if there is one. -/
def countUnder (value : Float) : (bounds : List Float) → (counts : List Nat) → List Nat
  | bound :: bounds, n :: counts =>
    if value ≤ bound then (n + 1) :: counts else n :: countUnder value bounds counts
  | _, counts => counts

/-- Count a value. -/
def observe (bounds : List Float) (value : Float) (h : Histogram) : Histogram :=
  ⟨countUnder value bounds h.counts, h.count + 1, h.sum + value⟩

/-- The sums of the first one, two, … numbers, each increased by `total`. -/
def runningSums (total : Nat) : List Nat → List Nat
  | [] => []
  | n :: ns => (total + n) :: runningSums (total + n) ns

/-- For each bound, how many values are not greater than it. -/
def cumulative (h : Histogram) : List Nat :=
  runningSums 0 h.counts

end Histogram

/-- The binary64 value nearest to a number of milliseconds. -/
def millisFloat (millis : Int64) : Float :=
  Float.ofInt millis.toInt

/-- The instruments of a canary. -/
structure Instruments where
  /-- The bounds of the latency histograms. -/
  bounds : List Float
  /-- Attempts to send. -/
  produced : Table Labels Nat
  /-- Attempts that failed. -/
  failed : Table Labels Nat
  /-- Acknowledgements that came before the message was made. -/
  skewed : Table Labels Nat
  /-- Latencies of acknowledged messages. -/
  latency : Table Labels Histogram

namespace Instruments

/-- Instruments that have counted nothing. -/
def init (bounds : List Float) : Instruments :=
  ⟨bounds, .empty, .empty, .empty, .empty⟩

/-- Count a latency under `labels`, and a clock skew if it is negative. -/
def observe (m : Instruments) (labels : Labels) (latency : Int64) : Instruments :=
  { m with
    skewed := if latency < 0 then m.skewed.count labels 0 (· + 1) else m.skewed
    latency := m.latency.count labels (.init m.bounds)
      (Histogram.observe m.bounds (millisFloat latency)) }

/-- Count an outcome. -/
def record (m : Instruments) (clientId : String) (outcome : Outcome) : Instruments :=
  let labels := Labels.of clientId outcome.partition
  let m := { m with produced := m.produced.count labels 0 (· + 1) }
  if !outcome.success then { m with failed := m.failed.count labels 0 (· + 1) }
  else
    match outcome.latency with
    | none => m
    | some latency => m.observe labels latency

end Instruments

/-- Why instruments cannot be registered. -/
inductive RegisterFault where
  /-- The bounds cannot be used. -/
  | buckets (fault : BucketFault)
  /-- The registry has instruments already. -/
  | duplicate

/-- The description of a fault. -/
def RegisterFault.message : RegisterFault → String
  | .buckets fault => fault.message
  | .duplicate => "Duplicate metrics collector registration attempted"

/-- The place that instruments are exposed through. -/
structure Registry where
  /-- The instruments registered. -/
  instruments : Option Instruments

namespace Registry

/-- A registry without instruments. -/
def empty : Registry :=
  ⟨none⟩

/-- Register instruments with the bounds given. -/
def register (registry : Registry) (bounds : List Float) : Except RegisterFault Registry :=
  match Buckets.check bounds with
  | .error fault => .error (.buckets fault)
  | .ok () =>
    match registry.instruments with
    | some _ => .error .duplicate
    | none => .ok ⟨some (.init bounds)⟩

/-- Count an outcome, if there are instruments. -/
def record (registry : Registry) (clientId : String) (outcome : Outcome) : Registry :=
  ⟨registry.instruments.map fun m => m.record clientId outcome⟩

end Registry

end KafkaCanary
