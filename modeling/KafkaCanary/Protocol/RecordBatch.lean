import KafkaCanary.Wire.Checksum
import KafkaCanary.Wire.Integer

/-!
# Record Batches

The batch that carries the one record of a probe. A record has a value but neither a key nor
headers. The batch belongs to no transaction and to no idempotent producer, and its checksum
covers everything behind it.
-/

namespace KafkaCanary.RecordBatch

open Wire

/-- A record without its length. Its time and offset are those of the batch. -/
def recordBody (value : List UInt8) : List UInt8 :=
  let attributes := [0]
  let timestampDelta := signedVarintBytes 0
  let offsetDelta := signedVarintBytes 0
  let absentKey := signedVarintBytes (-1)
  let noHeaders := signedVarintBytes 0
  attributes ++ timestampDelta ++ offsetDelta ++ absentKey ++
    signedVarintBytes value.length ++ value ++ noHeaders

/-- A record behind its length. -/
def record (value : List UInt8) : List UInt8 :=
  let body := recordBody value
  signedVarintBytes body.length ++ body

/-- The part of a batch that its checksum covers. -/
def checkedPart (timestamp : Int64) (value : List UInt8) : List UInt8 :=
  let attributes := int16Bytes 0
  let lastOffsetDelta := int32Bytes 0
  let producerId := int64Bytes (-1)
  let producerEpoch := int16Bytes (-1)
  let baseSequence := int32Bytes (-1)
  let recordCount := int32Bytes 1
  attributes ++ lastOffsetDelta ++ int64Bytes timestamp ++ int64Bytes timestamp ++ producerId ++
    producerEpoch ++ baseSequence ++ recordCount ++ record value

/-- The part of a batch behind its length field. -/
def lengthPart (timestamp : Int64) (value : List UInt8) : List UInt8 :=
  let leaderEpoch := int32Bytes 0
  let magic := int8Bytes 2
  let checked := checkedPart timestamp value
  leaderEpoch ++ magic ++ bigEndian 4 (crc32c checked).toNat ++ checked

/-- The batch of one record. -/
def single (timestamp : Int64) (value : List UInt8) : List UInt8 :=
  let baseOffset := int64Bytes 0
  let rest := lengthPart timestamp value
  baseOffset ++ bigEndian 4 rest.length ++ rest

/-- Why a batch cannot be written. -/
inductive Fault where
  /-- The value has more bytes than its length field can say. -/
  | valueTooLong (bytes : Nat)
  /-- The record has more bytes than its length field can say. -/
  | recordTooLong (bytes : Nat)
  /-- The batch has more bytes than its length field can say. -/
  | batchTooLong (bytes : Nat)
deriving DecidableEq, Repr

/-- The description of a fault. -/
def Fault.message : Fault → String
  | .valueTooLong bytes => "Record value was too large to encode (" ++ toString bytes ++ " bytes)"
  | .recordTooLong bytes => "Record was too large to encode (" ++ toString bytes ++ " bytes)"
  | .batchTooLong bytes => "Record batch was too large to encode (" ++ toString bytes ++ " bytes)"

/-- The greatest length that a length field can say. -/
def greatestLength : Nat := 2147483647

/-- The first of the lengths in a batch, from the inside out, that does not fit its field. -/
def fault? (timestamp : Int64) (value : List UInt8) : Option Fault :=
  let body := recordBody value
  let rest := lengthPart timestamp value
  if greatestLength < value.length then some (.valueTooLong value.length)
  else if greatestLength < body.length then some (.recordTooLong body.length)
  else if greatestLength < rest.length then some (.batchTooLong rest.length)
  else none

end KafkaCanary.RecordBatch
