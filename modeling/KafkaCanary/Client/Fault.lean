import KafkaCanary.Network
import KafkaCanary.Protocol.Request
import KafkaCanary.Protocol.ResponseReader

/-!
# Faults of the Client

Everything that keeps a client from what it is asked to do.
-/

namespace KafkaCanary

/-- What a client was doing when a request failed. -/
inductive Undertaking where
  /-- Sending a record. -/
  | produce (partition : Int32) (topic : String)
  /-- Refreshing metadata. -/
  | refresh (topic : String)
deriving DecidableEq, Repr

/-- The description of a failed undertaking. -/
def Undertaking.message : Undertaking → String
  | .produce partition topic =>
    "Produce to partition " ++ Decimal.integerText partition.toInt ++ " of '" ++ topic ++
      "' failed"
  | .refresh topic => "Metadata request for '" ++ topic ++ "' failed"

/-- Why a client cannot do what it is asked to do. -/
inductive ClientFault where
  /-- There are no servers to start with. -/
  | noServers
  /-- A connection cannot be opened. -/
  | unconnected (address : String) (fault : TransportFault)
  /-- A connection takes too long to open. -/
  | connectLate (address : String) (millis : Nat)
  /-- No server could be connected to in any round; the fault is the last one. -/
  | allAttemptsFailed (attempts : Nat) (last : ClientFault)
  /-- The client has been closed. -/
  | closed
  /-- Metadata lists no broker of the number. -/
  | unknownBroker (nodeId : Int32)
  /-- A record does not fit a batch. -/
  | unbatched (fault : RecordBatch.Fault)
  /-- A request cannot be written. -/
  | unwritable (fault : FrameFault)
  /-- A request is not answered in time. -/
  | requestLate (api : ApiKey) (address : String) (millis : Nat)
  /-- A request cannot be sent. -/
  | unsent (address : String) (fault : TransportFault)
  /-- The length of a response does not arrive. -/
  | lengthUnread (address : String) (fault : TransportFault)
  /-- The length of a response is out of bounds. -/
  | invalidLength (length : Int32)
  /-- A response does not arrive. -/
  | responseUnread (address : String) (fault : TransportFault)
  /-- The header of a response cannot be read. -/
  | badHeader (api : ApiKey) (fault : Wire.DecodeFault)
  /-- A response belongs to another request. -/
  | foreignResponse (address : String) (expected got : Int32)
  /-- The body of a response cannot be read. -/
  | badBody (api : ApiKey) (fault : Wire.DecodeFault)
  /-- The broker does not say which versions it supports. -/
  | versionsRejected (code : Int16)
  /-- No metadata of a topic is known. -/
  | noMetadata (topic : String)
  /-- A partition has no leader. -/
  | noLeader (partition : Int32) (topic : String)
  /-- Metadata does not list a partition. -/
  | unknownPartition (partition : Int32) (topic : String)
  /-- A record was not stored. -/
  | notStored (fault : ProduceFault)
  /-- Metadata says nothing about a topic. -/
  | notListed (fault : MetadataFault)
  /-- A connection cannot be closed. -/
  | unclosed (address : String) (fault : TransportFault)
  /-- A request failed in the course of an undertaking. -/
  | during (undertaking : Undertaking) (fault : ClientFault)
deriving DecidableEq, Repr

namespace ClientFault

/-- The description of a fault, without the fault that led to it. -/
def message : ClientFault → String
  | .noServers => "No bootstrap servers configured"
  | .unconnected address fault =>
    "Failed to connect to Kafka broker at " ++ address ++ ": " ++ fault.message
  | .connectLate address millis =>
    "Connecting to Kafka broker at " ++ address ++ " timed out after " ++ toString millis ++ " ms"
  | .allAttemptsFailed attempts last =>
    "Failed to connect to any bootstrap server after " ++ toString attempts ++ " attempts: " ++
      last.message
  | .closed => "Kafka client is closed"
  | .unknownBroker nodeId =>
    "Broker " ++ Decimal.integerText nodeId.toInt ++ " is not present in cluster metadata"
  | .unbatched fault => "Failed to encode record batch: " ++ fault.message
  | .unwritable fault => fault.message
  | .requestLate api address millis =>
    api.name ++ " request to " ++ address ++ " timed out after " ++ toString millis ++ " ms"
  | .unsent address fault =>
    "Failed to write request to " ++ address ++ ": " ++ fault.message
  | .lengthUnread address fault =>
    "Failed to read response size from " ++ address ++ ": " ++ fault.message ++
      " (the broker may have closed the connection)"
  | .invalidLength length =>
    "Invalid response size: " ++ Decimal.integerText length.toInt ++ " bytes"
  | .responseUnread address fault =>
    "Failed to read response body from " ++ address ++ ": " ++ fault.message
  | .badHeader api fault =>
    "Failed to decode " ++ api.name ++ " response header: " ++ fault.message
  | .foreignResponse address expected got =>
    "Correlation id mismatch from " ++ address ++ ": expected " ++
      Decimal.integerText expected.toInt ++ ", got " ++ Decimal.integerText got.toInt
  | .badBody api fault => "Failed to decode " ++ api.name ++ " response: " ++ fault.message
  | .versionsRejected code => "ApiVersions request failed: " ++ ErrorCode.describe code
  | .noMetadata topic => "No metadata for topic '" ++ topic ++ "'"
  | .noLeader partition topic =>
    "LEADER_NOT_AVAILABLE: partition " ++ Decimal.integerText partition.toInt ++ " of '" ++
      topic ++ "' has no leader"
  | .unknownPartition partition topic =>
    "UNKNOWN_TOPIC_OR_PARTITION: partition " ++ Decimal.integerText partition.toInt ++
      " not found in metadata for '" ++ topic ++ "'"
  | .notStored fault => fault.message
  | .notListed fault => fault.message
  | .unclosed address fault =>
    "Failed to close connection to " ++ address ++ ": " ++ fault.message
  | .during undertaking _ => undertaking.message

/-- A fault and what led to it. -/
def failure : ClientFault → Failure
  | .during undertaking fault => .within undertaking.message fault.failure
  | fault => .of fault.message

end ClientFault

end KafkaCanary
