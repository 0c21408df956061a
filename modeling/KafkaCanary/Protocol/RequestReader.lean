import KafkaCanary.Protocol.Request
import KafkaCanary.Wire.Reader

/-!
# Reading Requests

How a broker reads the frame of a request. The version in the header decides which fields there
are and of which style.
-/

namespace KafkaCanary

open Wire

/-- The header of a request. -/
structure RequestHeader where
  /-- The API. -/
  api : ApiKey
  /-- The version. -/
  version : Int16
  /-- The correlation id. -/
  correlationId : Int32
  /-- The client id. -/
  clientId : String
deriving DecidableEq, Repr

/-- The header of a request; `none` if the API is unknown. -/
def RequestHeader.read : Reader (Option RequestHeader) := do
  let code ← readInt16
  let version ← readInt16
  let correlationId ← readInt32
  let clientId ← readTextField false
  match ApiKey.ofCode? code with
  | none => return none
  | some api =>
    readTagsField (api.firstCompact ≤ version) noTags
    return some ⟨api, version, correlationId, clientId⟩

/-- Bytes behind their length. -/
def readBytesField (compact : Bool) : Reader (List UInt8) := do
  readContent (← readPresentLength compact .list)

/-- A list that may be absent. -/
def readOptionalListField {α : Type} (compact : Bool) (item : Reader α) :
    Reader (Option (List α)) := do
  match ← readLength compact .list with
  | none => return none
  | some n => return some (← readItems item n)

/-- The records for one partition. -/
def PartitionRecords.read (compact : Bool) : Reader PartitionRecords := do
  let index ← readInt32
  let records ← readBytesField compact
  readTagsField compact noTags
  return ⟨index, records⟩

/-- The records for one topic. -/
def TopicRecords.read (compact : Bool) : Reader TopicRecords := do
  let name ← readTextField compact
  let partitions ← readListField compact (PartitionRecords.read compact)
  readTagsField compact noTags
  return ⟨name, partitions⟩

/-- The body of a request to write records. -/
def ProduceRequest.read (version : Int16) : Reader ProduceRequest := do
  let compact := 9 ≤ version
  let transactionalId ← readIf (3 ≤ version) none (readOptionalTextField compact)
  let acks ← readInt16
  let timeoutMillis ← readInt32
  let topics ← readListField compact (TopicRecords.read compact)
  readTagsField compact noTags
  return ⟨transactionalId, acks, timeoutMillis, topics⟩

/-- A topic asked about. -/
def MetadataRequest.readTopic (version : Int16) : Reader String := do
  let compact := 9 ≤ version
  let _id ← readIf (10 ≤ version) 0 (readNat 16)
  let name ← readTextField compact
  readTagsField compact noTags
  return name

/-- The body of a request for metadata. -/
def MetadataRequest.read (version : Int16) : Reader MetadataRequest := do
  let compact := 9 ≤ version
  let topics ← readOptionalListField compact (MetadataRequest.readTopic version)
  let allowTopicCreation ← readIf (4 ≤ version) true readBool
  let clusterOperations ← readIf (8 ≤ version && version ≤ 10) false readBool
  let topicOperations ← readIf (8 ≤ version) false readBool
  readTagsField compact noTags
  return ⟨topics, allowTopicCreation, clusterOperations, topicOperations⟩

/-- The body of a request for versions. -/
def VersionsRequest.read (version : Int16) : Reader VersionsRequest := do
  if 3 ≤ version then
    let softwareName ← readTextField true
    let softwareVersion ← readTextField true
    readTagsField true noTags
    return ⟨softwareName, softwareVersion⟩
  else return ⟨"", ""⟩

/-- The body of a request; `none` if it is of an API that has no requests here. -/
def Request.readBody (header : RequestHeader) : Reader (Option Request) :=
  match header.api with
  | .produce => do return some (.produce (← ProduceRequest.read header.version))
  | .metadata => do return some (.metadata (← MetadataRequest.read header.version))
  | .apiVersions => do return some (.versions (← VersionsRequest.read header.version))
  | _ => return none

/-- The header and the body of a message behind its length. -/
def Request.readMessage : Reader (Option (RequestHeader × Request)) := do
  match ← RequestHeader.read with
  | none => return none
  | some header =>
    match ← Request.readBody header with
    | none => return none
    | some request => return some (header, request)

/-- The request in a frame, if the length is right and nothing follows the body. -/
def Request.ofFrame? (frame : List UInt8) : Option (RequestHeader × Request) :=
  match (readNat 4).run frame with
  | .error _ => none
  | .ok (length, message) =>
    if length = message.length then
      match Request.readMessage.run message with
      | .ok (result, []) => result
      | _ => none
    else none

end KafkaCanary
