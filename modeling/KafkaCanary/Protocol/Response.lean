import KafkaCanary.Event
import KafkaCanary.Table

/-!
# Responses

The responses to a canary's requests, as far as the canary uses them, and what they say about one
topic: where a record was stored, which broker leads which partition.
-/

namespace KafkaCanary

/-- What a broker did with the records for one partition. -/
structure PartitionResult where
  /-- The partition. -/
  index : Int32
  /-- The error code; 0 stands for success. -/
  errorCode : Int16
  /-- The offset of the first record. -/
  baseOffset : Int64
deriving DecidableEq, Repr

/-- What a broker did with the records for one topic. -/
structure TopicResult where
  /-- The topic. -/
  name : String
  /-- The results for its partitions. -/
  partitions : List PartitionResult
deriving DecidableEq, Repr

/-- The response to a request to write records. -/
structure ProduceResponse where
  /-- The results. -/
  topics : List TopicResult
deriving DecidableEq, Repr

/-- A broker that metadata lists. -/
structure BrokerListing where
  /-- The number of the broker. -/
  nodeId : Int32
  /-- The host. -/
  host : String
  /-- The port. -/
  port : Int32
deriving DecidableEq, Repr

/-- A partition that metadata lists. -/
structure PartitionListing where
  /-- The error code; 0 stands for none. -/
  errorCode : Int16
  /-- The partition. -/
  index : Int32
  /-- The number of the broker that leads it; negative if none does. -/
  leader : Int32
deriving DecidableEq, Repr

/-- A topic that metadata lists. -/
structure TopicListing where
  /-- The error code; 0 stands for none. -/
  errorCode : Int16
  /-- The topic. -/
  name : Option String
  /-- Its partitions. -/
  partitions : List PartitionListing
deriving DecidableEq, Repr

/-- The response to a request for metadata. -/
structure MetadataResponse where
  /-- The brokers. -/
  brokers : List BrokerListing
  /-- The topics. -/
  topics : List TopicListing
deriving DecidableEq, Repr

/-- The versions of one API that a broker supports. -/
structure VersionRange where
  /-- The number of the API. -/
  api : Int16
  /-- The first version. -/
  least : Int16
  /-- The last version. -/
  greatest : Int16
deriving DecidableEq, Repr

/-- The response to a request for versions. -/
structure VersionsResponse where
  /-- The error code; 0 stands for none. -/
  errorCode : Int16
  /-- The versions of the APIs. -/
  ranges : List VersionRange
deriving DecidableEq, Repr

/-- Where a broker stored a record. -/
structure Delivery where
  /-- The partition. -/
  partition : Int32
  /-- The offset. -/
  offset : Int64
deriving DecidableEq, Repr

/-- Why a response does not tell where a record was stored. -/
inductive ProduceFault where
  /-- The response has no result for the partition. -/
  | noResult (partition : Int32) (topic : String)
  /-- The broker did not store the record. -/
  | rejected (code : Int16) (partition : Int32) (topic : String)
deriving DecidableEq, Repr

/-- The description of a fault. -/
def ProduceFault.message : ProduceFault → String
  | .noResult partition topic =>
    "Produce response has no result for partition " ++ Decimal.integerText partition.toInt ++
      " of '" ++ topic ++ "'"
  | .rejected code partition topic =>
    ErrorCode.describe code ++ " on partition " ++ Decimal.integerText partition.toInt ++
      " of '" ++ topic ++ "'"

/-- The first result for a partition of a topic. -/
def ProduceResponse.result? (r : ProduceResponse) (topic : String) (partition : Int32) :
    Option PartitionResult :=
  ((r.topics.filter (·.name = topic)).flatMap (·.partitions)).find? (·.index = partition)

/-- Where a record for a partition of a topic was stored. -/
def ProduceResponse.delivery (r : ProduceResponse) (topic : String) (partition : Int32) :
    Except ProduceFault Delivery :=
  match r.result? topic partition with
  | none => .error (.noResult partition topic)
  | some result =>
    if result.errorCode ≠ 0 then .error (.rejected result.errorCode partition topic)
    else .ok ⟨result.index, result.baseOffset⟩

/-- Why metadata says nothing about a topic. -/
inductive MetadataFault where
  /-- The topic is not listed. -/
  | topicMissing (topic : String)
  /-- The topic is listed with an error code. -/
  | topicFaulty (topic : String) (code : Int16)
deriving DecidableEq, Repr

/-- The description of a fault. -/
def MetadataFault.message : MetadataFault → String
  | .topicMissing topic => "Topic '" ++ topic ++ "' not found in metadata response"
  | .topicFaulty topic code =>
    "Metadata for '" ++ topic ++ "' returned " ++ ErrorCode.describe code

/-- The address of a broker. -/
def BrokerListing.address (b : BrokerListing) : String :=
  b.host ++ ":" ++ Decimal.integerText b.port.toInt

/-- The addresses of brokers by their numbers. -/
abbrev BrokerTable := Table Int32 String

/-- The numbers of the leading brokers by partition. -/
abbrev LeaderTable := Table Int32 Int32

/-- The addresses of all brokers listed. -/
def MetadataResponse.brokerTable (r : MetadataResponse) : BrokerTable :=
  .ofList (r.brokers.map fun b => (b.nodeId, b.address))

/-- The first listing of a topic, which must have no error code. -/
def MetadataResponse.listing (r : MetadataResponse) (topic : String) :
    Except MetadataFault TopicListing :=
  match r.topics.find? (·.name = some topic) with
  | none => .error (.topicMissing topic)
  | some listing =>
    if listing.errorCode ≠ 0 then .error (.topicFaulty topic listing.errorCode) else .ok listing

/-- The leaders of the partitions of a listed topic. -/
def TopicListing.leaderTable (listing : TopicListing) : LeaderTable :=
  .ofList (listing.partitions.map fun p => (p.index, p.leader))

/-- What there is to report about the partitions of a listed topic. -/
def TopicListing.events (listing : TopicListing) (topic : String) : List Event :=
  (listing.partitions.filter (·.errorCode ≠ 0)).map fun p =>
    .partitionReported p.index topic p.errorCode

end KafkaCanary
