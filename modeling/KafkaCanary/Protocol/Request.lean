import KafkaCanary.Protocol.ApiKey
import KafkaCanary.Protocol.RecordBatch
import KafkaCanary.Wire.Writer

/-!
# Requests

The requests that a canary sends, and their frames. A frame is a header and a body behind their
common length. Fields come and go with the version of the request, and so does the style of the
fields.
-/

namespace KafkaCanary

open Wire

/-- The records for one partition. -/
structure PartitionRecords where
  /-- The partition. -/
  index : Int32
  /-- The record batches. -/
  records : List UInt8
deriving DecidableEq, Repr

/-- The records for one topic. -/
structure TopicRecords where
  /-- The topic. -/
  name : String
  /-- The records for its partitions. -/
  partitions : List PartitionRecords
deriving DecidableEq, Repr

/-- A request to write records. -/
structure ProduceRequest where
  /-- The transaction that the records belong to. -/
  transactionalId : Option String
  /-- How many replicas have to store the records; -1 stands for all that are in sync. -/
  acks : Int16
  /-- How long the broker waits for them, in milliseconds. -/
  timeoutMillis : Int32
  /-- The records. -/
  topics : List TopicRecords
deriving DecidableEq, Repr

/-- A request for brokers, topics and partition leaders. -/
structure MetadataRequest where
  /-- The topics asked about; `none` stands for all. -/
  topics : Option (List String)
  /-- Whether the brokers may create topics that do not exist. -/
  allowTopicCreation : Bool
  /-- Whether to report what the client may do with the cluster. -/
  clusterOperations : Bool
  /-- Whether to report what the client may do with the topics. -/
  topicOperations : Bool
deriving DecidableEq, Repr

/-- A request for the versions that a broker supports. -/
structure VersionsRequest where
  /-- The name of the client's software. -/
  softwareName : String
  /-- The version of the client's software. -/
  softwareVersion : String
deriving DecidableEq, Repr

/-- A request. -/
inductive Request where
  /-- Write records. -/
  | produce (request : ProduceRequest)
  /-- Ask for brokers, topics and partition leaders. -/
  | metadata (request : MetadataRequest)
  /-- Ask for the versions that the broker supports. -/
  | versions (request : VersionsRequest)
deriving DecidableEq, Repr

/-- A request for the metadata of the topics given, with everything else by default. -/
def MetadataRequest.of (topics : Option (List String)) : MetadataRequest :=
  ⟨topics, true, false, false⟩

/-- A request to write one record to one partition and to have all replicas store it. -/
def ProduceRequest.single (topic : String) (partition : Int32) (payload : List UInt8)
    (timestamp : Int64) (timeoutMillis : Int32) : ProduceRequest where
  transactionalId := none
  acks := -1
  timeoutMillis := timeoutMillis
  topics := [⟨topic, [⟨partition, RecordBatch.single timestamp payload⟩]⟩]

/-- Such a request, if the record fits a batch. -/
def ProduceRequest.build (topic : String) (partition : Int32) (payload : List UInt8)
    (timestamp : Int64) (timeoutMillis : Int32) : Except RecordBatch.Fault ProduceRequest :=
  match RecordBatch.fault? timestamp payload with
  | none => .ok (.single topic partition payload timestamp timeoutMillis)
  | some fault => .error fault

namespace Request

/-- The API of a request. -/
def api : Request → ApiKey
  | .produce _ => .produce
  | .metadata _ => .metadata
  | .versions _ => .apiVersions

/-- The last version of a request; the first one is 0. -/
def lastVersion : Request → Int16
  | .produce _ => 11
  | .metadata _ => 12
  | .versions _ => 4

end Request

/-- The records for one partition. -/
def PartitionRecords.bytes (compact : Bool) (p : PartitionRecords) :
    Except EncodeFault (List UInt8) := do
  let records ← bytesField compact p.records
  return int32Bytes p.index ++ records ++ tagsField compact

/-- The records for one topic. -/
def TopicRecords.bytes (compact : Bool) (t : TopicRecords) : Except EncodeFault (List UInt8) := do
  let name ← textField compact t.name
  let partitions ← listField compact (PartitionRecords.bytes compact) t.partitions
  return name ++ partitions ++ tagsField compact

/-- The body of a request to write records. -/
def ProduceRequest.bytes (version : Int16) (r : ProduceRequest) :
    Except EncodeFault (List UInt8) := do
  let compact := 9 ≤ version
  let transactionalId ← fieldIf (3 ≤ version) none (optionalTextField compact) r.transactionalId
  let topics ← listField compact (TopicRecords.bytes compact) r.topics
  return transactionalId ++ int16Bytes r.acks ++ int32Bytes r.timeoutMillis ++ topics ++
    tagsField compact

/-- A topic asked about. From version 10 on it has an id as well, which is zero. -/
def MetadataRequest.topicBytes (version : Int16) (name : String) :
    Except EncodeFault (List UInt8) := do
  let compact := 9 ≤ version
  let id := if 10 ≤ version then bigEndian 16 0 else []
  let name ← optionalTextField compact (some name)
  return id ++ name ++ tagsField compact

/-- The body of a request for metadata. -/
def MetadataRequest.bytes (version : Int16) (r : MetadataRequest) :
    Except EncodeFault (List UInt8) := do
  let compact := 9 ≤ version
  let topics ← optionalListField compact (MetadataRequest.topicBytes version) r.topics
  let boolField b := .ok (boolBytes b)
  let allowTopicCreation ← fieldIf (4 ≤ version) true boolField r.allowTopicCreation
  let clusterOperations ←
    fieldIf (8 ≤ version && version ≤ 10) false boolField r.clusterOperations
  let topicOperations ← fieldIf (8 ≤ version) false boolField r.topicOperations
  return topics ++ allowTopicCreation ++ clusterOperations ++ topicOperations ++ tagsField compact

/-- The body of a request for versions. Versions that do not have the texts leave them out. -/
def VersionsRequest.bytes (version : Int16) (r : VersionsRequest) :
    Except EncodeFault (List UInt8) := do
  if 3 ≤ version then
    let softwareName ← textField true r.softwareName
    let softwareVersion ← textField true r.softwareVersion
    return softwareName ++ softwareVersion ++ tagsField true
  else return []

namespace Request

/-- The body of a request. -/
def bodyBytes (request : Request) (version : Int16) : Except EncodeFault (List UInt8) :=
  if version < 0 ∨ request.lastVersion < version then .error .unsupportedVersion
  else
    match request with
    | .produce r => r.bytes version
    | .metadata r => r.bytes version
    | .versions r => r.bytes version

/-- The header of a request. The client id is of the plain style in every version. -/
def headerBytes (request : Request) (version : Int16) (correlationId : Int32)
    (clientId : String) : Except EncodeFault (List UInt8) := do
  let clientId ← textField false clientId
  return int16Bytes request.api.code ++ int16Bytes version ++ int32Bytes correlationId ++
    clientId ++ tagsField (request.api.firstCompact ≤ version)

end Request

/-- Why a request has no frame. -/
inductive FrameFault where
  /-- The header cannot be written. -/
  | header (fault : EncodeFault)
  /-- The body cannot be written. -/
  | body (fault : EncodeFault)
deriving DecidableEq, Repr

/-- The description of a fault. -/
def FrameFault.message : FrameFault → String
  | .header fault => "Failed to encode request header: " ++ fault.message
  | .body fault => "Failed to encode request body: " ++ fault.message

/-- The frame of a request. The length has 32 bits, and longer frames make it wrap. -/
def Request.frame (request : Request) (version : Int16) (correlationId : Int32)
    (clientId : String) : Except FrameFault (List UInt8) :=
  match request.headerBytes version correlationId clientId with
  | .error fault => .error (.header fault)
  | .ok header =>
    match request.bodyBytes version with
    | .error fault => .error (.body fault)
    | .ok body =>
      let message := header ++ body
      .ok (bigEndian 4 message.length ++ message)

end KafkaCanary
