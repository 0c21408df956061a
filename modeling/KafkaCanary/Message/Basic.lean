import KafkaCanary.Decimal.Integer

/-!
# Probe Messages

The message that a canary sends to every partition: who sent it, its number in the sequence of
that sender, and when it was made.
-/

namespace KafkaCanary

/-- A probe message. -/
structure Message where
  /-- The client id of the canary that sent the message. -/
  producerId : String
  /-- The number of the message in its sender's sequence, which begins with 1. -/
  messageId : UInt64
  /-- When the message was made, in milliseconds since the epoch. -/
  timestamp : Int64
deriving DecidableEq, Repr

namespace Message

/-- A message as it is shown to people. -/
def display (m : Message) : String :=
  "\x7bProducerID=" ++ m.producerId ++ ", MessageID=" ++ toString m.messageId.toNat ++
    ", Timestamp=" ++ Decimal.integerText m.timestamp.toInt ++ "\x7d"

end Message

/-- The source of a canary's messages. -/
structure MessageFactory where
  /-- The client id that every message carries. -/
  producerId : String
  /-- The number of the last message; 0 before the first one. -/
  lastId : UInt64
deriving DecidableEq, Repr

namespace MessageFactory

/-- A factory that has made no message yet. -/
def init (producerId : String) : MessageFactory :=
  ⟨producerId, 0⟩

/-- The next message, made at time `now`. -/
def next (factory : MessageFactory) (now : Int64) : Message × MessageFactory :=
  (⟨factory.producerId, factory.lastId + 1, now⟩, { factory with lastId := factory.lastId + 1 })

end MessageFactory

end KafkaCanary
