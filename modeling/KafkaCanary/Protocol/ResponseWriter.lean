import KafkaCanary.Protocol.ResponseReader
import KafkaCanary.Wire.Writer

/-!
# Writing Responses

What a broker sends to answer a request. Fields that a canary has no use for get neutral values.
-/

namespace KafkaCanary

open Wire

/-- Fields of a version and nothing before it. -/
def bytesIf (present : Bool) (bytes : List UInt8) : List UInt8 :=
  if present then bytes else []

/-- What a broker did with the records for one partition. -/
def PartitionResult.bytes (version : Int16) (r : PartitionResult) :
    Except EncodeFault (List UInt8) :=
  let compact : Bool := 9 ≤ version
  let absentMessage := if compact then varintBytes 0 else int16Bytes (-1)
  .ok (int32Bytes r.index ++ int16Bytes r.errorCode ++ int64Bytes r.baseOffset ++
    bytesIf (2 ≤ version) (int64Bytes (-1)) ++ bytesIf (5 ≤ version) (int64Bytes (-1)) ++
    bytesIf (8 ≤ version) (lengthBytes compact .list 0 ++ absentMessage) ++ tagsField compact)

/-- What a broker did with the records for one topic. -/
def TopicResult.bytes (version : Int16) (t : TopicResult) : Except EncodeFault (List UInt8) := do
  let compact : Bool := 9 ≤ version
  let name ← textField compact t.name
  let partitions ← listField compact (PartitionResult.bytes version) t.partitions
  return name ++ partitions ++ tagsField compact

/-- The response to a request to write records. -/
def ProduceResponse.bytes (version : Int16) (r : ProduceResponse) :
    Except EncodeFault (List UInt8) := do
  let compact : Bool := 9 ≤ version
  let topics ← listField compact (TopicResult.bytes version) r.topics
  return topics ++ bytesIf (1 ≤ version) (int32Bytes 0) ++ tagsField compact

/-- A broker that metadata lists. -/
def BrokerListing.bytes (version : Int16) (b : BrokerListing) :
    Except EncodeFault (List UInt8) := do
  let compact : Bool := 9 ≤ version
  let host ← textField compact b.host
  let rack ← if 1 ≤ version then optionalTextField compact none else pure []
  return int32Bytes b.nodeId ++ host ++ int32Bytes b.port ++ rack ++ tagsField compact

/-- A partition that metadata lists. -/
def PartitionListing.bytes (version : Int16) (p : PartitionListing) :
    Except EncodeFault (List UInt8) :=
  let compact : Bool := 9 ≤ version
  .ok (int16Bytes p.errorCode ++ int32Bytes p.index ++ int32Bytes p.leader ++
    bytesIf (7 ≤ version) (int32Bytes (-1)) ++ lengthBytes compact .list 0 ++
    lengthBytes compact .list 0 ++ bytesIf (5 ≤ version) (lengthBytes compact .list 0) ++
    tagsField compact)

/-- A topic that metadata lists. -/
def TopicListing.bytes (version : Int16) (t : TopicListing) :
    Except EncodeFault (List UInt8) := do
  let compact : Bool := 9 ≤ version
  let name ← optionalTextField compact t.name
  let partitions ← listField compact (PartitionListing.bytes version) t.partitions
  return int16Bytes t.errorCode ++ name ++ bytesIf (10 ≤ version) (bigEndian 16 0) ++
    bytesIf (1 ≤ version) (boolBytes false) ++ partitions ++
    bytesIf (8 ≤ version) (int32Bytes Int32.minValue) ++ tagsField compact

/-- The response to a request for metadata. -/
def MetadataResponse.bytes (version : Int16) (r : MetadataResponse) :
    Except EncodeFault (List UInt8) := do
  let compact : Bool := 9 ≤ version
  let brokers ← listField compact (BrokerListing.bytes version) r.brokers
  let clusterId ← if 2 ≤ version then optionalTextField compact none else pure []
  let topics ← listField compact (TopicListing.bytes version) r.topics
  return bytesIf (3 ≤ version) (int32Bytes 0) ++ brokers ++ clusterId ++
    bytesIf (1 ≤ version) (int32Bytes (-1)) ++ topics ++
    bytesIf (8 ≤ version && version ≤ 10) (int32Bytes Int32.minValue) ++ tagsField compact

/-- The response to a request for versions, in its first version. -/
def VersionsResponse.bytes (r : VersionsResponse) : List UInt8 :=
  int16Bytes r.errorCode ++ bigEndian 4 r.ranges.length ++
    r.ranges.flatMap fun range =>
      int16Bytes range.api ++ int16Bytes range.least ++ int16Bytes range.greatest

/-- The header of a response. -/
def responseHeaderBytes (api : ApiKey) (version : Int16) (correlationId : Int32) : List UInt8 :=
  int32Bytes correlationId ++ tagsField (api.hasTaggedHeader version)

end KafkaCanary
