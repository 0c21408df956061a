import KafkaCanary.Protocol.Response
import KafkaCanary.Wire.Reader

/-!
# Reading Responses

Readers of responses in every version that a canary asks for. Fields that the canary has no use
for are read as well, since the fields behind them begin where they end.
-/

namespace KafkaCanary

open Wire

/-- A fault inside the records of a request. -/
def readRecordError (compact : Bool) : Reader Unit := do
  let _batchIndex ← readInt32
  let _message ← readOptionalTextField compact
  readTagsField compact noTags

/-- The broker that leads a partition now, and since when. -/
def readCurrentLeader : Reader Unit := do
  let _leaderId ← readInt32
  let _leaderEpoch ← readInt32
  readTagsField true noTags

/-- Where to find a broker. -/
def readNodeEndpoint : Reader Unit := do
  let _nodeId ← readInt32
  let _host ← readTextField true
  let _port ← readInt32
  let _rack ← readOptionalTextField true
  readTagsField true noTags

/-- A known tag 0 that came with version 10. -/
def tagSinceTen (version : Int16) (reader : Reader Unit) : Nat → Option (Reader Unit)
  | 0 => some (if 10 ≤ version then reader else throw (.unknownTag 0 version))
  | _ => none

/-- What a broker did with the records for one partition. -/
def PartitionResult.read (version : Int16) : Reader PartitionResult := do
  let compact := 9 ≤ version
  let index ← readInt32
  let errorCode ← readInt16
  let baseOffset ← readInt64
  let _logAppendTime ← readIf (2 ≤ version) (-1) readInt64
  let _logStartOffset ← readIf (5 ≤ version) (-1) readInt64
  let _recordErrors ← readIf (8 ≤ version) [] (readListField compact (readRecordError compact))
  let _message ← readIf (8 ≤ version) none (readOptionalTextField compact)
  readTagsField compact (tagSinceTen version readCurrentLeader)
  return ⟨index, errorCode, baseOffset⟩

/-- What a broker did with the records for one topic. -/
def TopicResult.read (version : Int16) : Reader TopicResult := do
  let compact := 9 ≤ version
  let name ← readTextField compact
  let partitions ← readListField compact (PartitionResult.read version)
  readTagsField compact noTags
  return ⟨name, partitions⟩

/-- The response to a request to write records. -/
def ProduceResponse.read (version : Int16) : Reader ProduceResponse := do
  let compact := 9 ≤ version
  let topics ← readListField compact (TopicResult.read version)
  let _throttleMillis ← readIf (1 ≤ version) 0 readInt32
  readTagsField compact (tagSinceTen version (discard (readListField true readNodeEndpoint)))
  return ⟨topics⟩

/-- A broker that metadata lists. -/
def BrokerListing.read (version : Int16) : Reader BrokerListing := do
  let compact := 9 ≤ version
  let nodeId ← readInt32
  let host ← readTextField compact
  let port ← readInt32
  let _rack ← readIf (1 ≤ version) none (readOptionalTextField compact)
  readTagsField compact noTags
  return ⟨nodeId, host, port⟩

/-- A partition that metadata lists. -/
def PartitionListing.read (version : Int16) : Reader PartitionListing := do
  let compact := 9 ≤ version
  let errorCode ← readInt16
  let index ← readInt32
  let leader ← readInt32
  let _leaderEpoch ← readIf (7 ≤ version) (-1) readInt32
  let _replicas ← readListField compact readInt32
  let _inSync ← readListField compact readInt32
  let _offline ← readIf (5 ≤ version) [] (readListField compact readInt32)
  readTagsField compact noTags
  return ⟨errorCode, index, leader⟩

/-- A topic that metadata lists. -/
def TopicListing.read (version : Int16) : Reader TopicListing := do
  let compact := 9 ≤ version
  let errorCode ← readInt16
  let name ← readOptionalTextField compact
  let _id ← readIf (10 ≤ version) 0 (readNat 16)
  let _internal ← readIf (1 ≤ version) false readBool
  let partitions ← readListField compact (PartitionListing.read version)
  let _operations ← readIf (8 ≤ version) 0 readInt32
  readTagsField compact noTags
  return ⟨errorCode, name, partitions⟩

/-- The response to a request for metadata. -/
def MetadataResponse.read (version : Int16) : Reader MetadataResponse := do
  let compact := 9 ≤ version
  let _throttleMillis ← readIf (3 ≤ version) 0 readInt32
  let brokers ← readListField compact (BrokerListing.read version)
  let _clusterId ← readIf (2 ≤ version) none (readOptionalTextField compact)
  let _controllerId ← readIf (1 ≤ version) (-1) readInt32
  let topics ← readListField compact (TopicListing.read version)
  let _operations ← readIf (8 ≤ version && version ≤ 10) 0 readInt32
  readTagsField compact noTags
  return ⟨brokers, topics⟩

/-- The versions of one API. -/
def VersionRange.read : Reader VersionRange := do
  let api ← readInt16
  let least ← readInt16
  let greatest ← readInt16
  return ⟨api, least, greatest⟩

/-- The response to a request for versions, in its first version. -/
def VersionsResponse.read : Reader VersionsResponse := do
  let errorCode ← readInt16
  let ranges ← readListField false VersionRange.read
  return ⟨errorCode, ranges⟩

/-- Whether the header of a response has tagged fields. One that names versions never has them,
so that a client can read it before it knows which versions are supported. -/
def ApiKey.hasTaggedHeader (api : ApiKey) (version : Int16) : Bool :=
  api ≠ .apiVersions && api.firstCompact ≤ version

/-- The header of a response: the correlation id of the request it answers. -/
def readResponseHeader (api : ApiKey) (version : Int16) : Reader Int32 := do
  let correlationId ← readInt32
  readTagsField (api.hasTaggedHeader version) noTags
  return correlationId

end KafkaCanary
