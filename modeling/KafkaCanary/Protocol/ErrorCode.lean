import KafkaCanary.Decimal.Integer

/-!
# Kafka Error Codes

The names of the error codes that a producer meets.
-/

namespace KafkaCanary.ErrorCode

/-- The name of an error code, if it has one. -/
def name? (code : Int16) : Option String :=
  match code.toInt with
  | -1 => some "UNKNOWN_SERVER_ERROR"
  | 0 => some "NONE"
  | 1 => some "OFFSET_OUT_OF_RANGE"
  | 2 => some "CORRUPT_MESSAGE"
  | 3 => some "UNKNOWN_TOPIC_OR_PARTITION"
  | 5 => some "LEADER_NOT_AVAILABLE"
  | 6 => some "NOT_LEADER_OR_FOLLOWER"
  | 7 => some "REQUEST_TIMED_OUT"
  | 8 => some "BROKER_NOT_AVAILABLE"
  | 9 => some "REPLICA_NOT_AVAILABLE"
  | 10 => some "MESSAGE_TOO_LARGE"
  | 13 => some "NETWORK_EXCEPTION"
  | 17 => some "INVALID_TOPIC_EXCEPTION"
  | 19 => some "NOT_ENOUGH_REPLICAS"
  | 20 => some "NOT_ENOUGH_REPLICAS_AFTER_APPEND"
  | 21 => some "INVALID_REQUIRED_ACKS"
  | 29 => some "TOPIC_AUTHORIZATION_FAILED"
  | 35 => some "UNSUPPORTED_VERSION"
  | 74 => some "FENCED_LEADER_EPOCH"
  | 87 => some "INVALID_RECORD"
  | _ => none

/-- The description of an error code. -/
def describe (code : Int16) : String :=
  match name? code with
  | some name => name
  | none => "Unknown Kafka error code: " ++ Decimal.integerText code.toInt

end KafkaCanary.ErrorCode
