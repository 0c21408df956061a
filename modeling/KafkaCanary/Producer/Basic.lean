import KafkaCanary.Message.Writer
import KafkaCanary.Metrics.Instruments
import KafkaCanary.Protocol.Response

/-!
# Producers

The state of a canary's producer, and the two changes that every message makes to it: the message
is made, and later its answer is taken into account.
-/

namespace KafkaCanary

/-- The state of a producer. -/
structure Producer where
  /-- The client id, in every message and on every sample. -/
  clientId : String
  /-- The source of messages. -/
  factory : MessageFactory
  /-- Whether the client has been closed. -/
  closed : Bool
  /-- The instruments. -/
  instruments : Instruments

namespace Producer

/-- A producer that has made no message yet. -/
def init (clientId : String) (instruments : Instruments) : Producer :=
  ⟨clientId, .init clientId, false, instruments⟩

/-- The number of the last message made. -/
def lastMessageId (p : Producer) : UInt64 :=
  p.factory.lastId

/-- Make the next message at time `now`. -/
def stamp (p : Producer) (now : Int64) : Message × Producer :=
  let (m, factory) := p.factory.next now
  (m, { p with factory := factory })

/-- Count an outcome. -/
def record (p : Producer) (outcome : Outcome) : Producer :=
  { p with instruments := p.instruments.record p.clientId outcome }

/-- The outcome of sending a message to a partition, if the answer came at time `now`. The
latency is taken modulo the width of the clock. -/
def outcome (m : Message) (partition : Int32) (answer : Except Failure Delivery) (now : Int64) :
    Outcome :=
  match answer with
  | .ok delivery => .delivered partition delivery.offset (now - m.timestamp)
  | .error _ => .failed partition

/-- What there is to report about the answer to a message. -/
def answerEvent (m : Message) (partition : Int32) (answer : Except Failure Delivery)
    (now : Int64) : Event :=
  match answer with
  | .ok delivery => .sent delivery.partition delivery.offset (now - m.timestamp)
  | .error failure => .sendFailed m.messageId partition failure

/-- Take the answer to a message into account, and say what there is to report. -/
def settle (p : Producer) (m : Message) (partition : Int32) (answer : Except Failure Delivery)
    (now : Int64) : Producer × List Event :=
  let o := outcome m partition answer now
  (p.record o, answerEvent m partition answer now :: o.events)

end Producer

/-- The partitions from 0 to `count - 1`. -/
def partitionRange (count : Int32) : List Int32 :=
  (List.range count.toInt.toNat).map Int32.ofNat

end KafkaCanary
