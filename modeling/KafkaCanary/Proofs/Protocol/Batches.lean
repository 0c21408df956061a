import KafkaCanary.Proofs.Wire.Checksum
import KafkaCanary.Proofs.Wire.Fields
import KafkaCanary.Protocol.Request

/-!
# Record batches are read as they were written

How a broker reads a record batch, and what it finds in the batch of a probe. The lengths in a batch
are nested, and each is of another kind: that of the batch has four bytes, that of a record and that
of its value are folded and of variable width, so that a longer value can make the length in front
of it longer and with it all that is around. The reader is strict. A length has to be the number of
bytes that its part takes, nothing may follow a part within its length, and the checksum has to be
that of everything behind it.

A batch is written only if every length in it fits its field. This is a matter of the number of
bytes in the value alone (`RecordBatch.fault?_eq_none_iff`).

## Main results

* `takes_signed`, `Takes.within`: folded integers, and parts behind their length;
* `takes_record`, `Batch.ofBytes?_single`: records, and whole batches;
* `ProduceRequest.build_eq_ok_iff`: which records can be sent;
* `batch_of_build`: the batch in a request to write one record.
-/

namespace KafkaCanary

open Wire

/-! ## A reader of batches -/

namespace Wire

/-- An integer of 8 bits. -/
def readInt8 : Reader Int8 :=
  Int8.ofNat <$> readNat 1

/-- A signed integer of variable width. -/
def readSigned : Reader Int :=
  unzigzag <$> readVarint

/-- What takes exactly the next `n` bytes. -/
def readWithin {α : Type} (n : Nat) (reader : Reader α) : Reader α := do
  let bytes ← readContent n
  match reader.run bytes with
  | .ok (a, []) => return a
  | .ok (_, _ :: _) => throw .contentCut
  | .error fault => throw fault

/-- A number of things that is not negative. -/
def readCount : Reader Nat := do
  let length ← readSigned
  if length < 0 then throw (.negativeLength .list length) else return length.toNat

/-- Bytes that may be absent, behind their length. -/
def readOptionalBytes : Reader (Option (List UInt8)) := do
  let length ← readSigned
  if length = -1 then return none
  else if length < 0 then throw (.negativeLength .list length)
  else return some (← readContent length.toNat)

end Wire

/-- A record in a batch. Its time and offset count from those of the batch. -/
structure Record where
  attributes : Int8
  timestampDelta : Int
  offsetDelta : Int
  key : Option (List UInt8)
  value : Option (List UInt8)
  headers : List (List UInt8 × Option (List UInt8))
deriving DecidableEq, Repr

/-- A record batch. -/
structure Batch where
  baseOffset : Int64
  leaderEpoch : Int32
  magic : Int8
  attributes : Int16
  lastOffsetDelta : Int32
  baseTimestamp : Int64
  maxTimestamp : Int64
  producerId : Int64
  producerEpoch : Int16
  baseSequence : Int32
  records : List Record
deriving DecidableEq, Repr

namespace Record

/-- A header of a record. -/
def readHeader : Reader (List UInt8 × Option (List UInt8)) := do
  let key ← readContent (← readCount)
  let value ← readOptionalBytes
  return (key, value)

/-- The fields of a record. -/
def readFields : Reader Record := do
  let attributes ← readInt8
  let timestampDelta ← readSigned
  let offsetDelta ← readSigned
  let key ← readOptionalBytes
  let value ← readOptionalBytes
  let headers ← readItems readHeader (← readCount)
  return ⟨attributes, timestampDelta, offsetDelta, key, value, headers⟩

/-- A record behind its length. -/
def read : Reader Record := do
  readWithin (← readCount) readFields

end Record

namespace Batch

/-- The part of a batch that its checksum covers. -/
def readChecked (baseOffset : Int64) (leaderEpoch : Int32) (magic : Int8) : Reader Batch := do
  let attributes ← readInt16
  let lastOffsetDelta ← readInt32
  let baseTimestamp ← readInt64
  let maxTimestamp ← readInt64
  let producerId ← readInt64
  let producerEpoch ← readInt16
  let baseSequence ← readInt32
  let count ← readInt32
  let records ← readItems Record.read count.toInt.toNat
  return ⟨baseOffset, leaderEpoch, magic, attributes, lastOffsetDelta, baseTimestamp, maxTimestamp,
    producerId, producerEpoch, baseSequence, records⟩

/-- The part of a batch behind its length. There is none if the checksum is not that of all that
follows it. -/
def readBody (baseOffset : Int64) : Reader (Option Batch) := do
  let leaderEpoch ← readInt32
  let magic ← readInt8
  let checksum ← readNat 4
  let checked ← get
  let batch ← readChecked baseOffset leaderEpoch magic
  return if checksum = (crc32c checked).toNat then some batch else none

/-- A batch behind its offset and length. -/
def read : Reader (Option Batch) := do
  let baseOffset ← readInt64
  let length ← readPresentLength false .list
  readWithin length (readBody baseOffset)

/-- The batch that some bytes are, if they are one and nothing else. -/
def ofBytes? (bytes : List UInt8) : Option Batch :=
  match read.run bytes with
  | .ok (batch, []) => batch
  | _ => none

end Batch

/-! ## Fields -/

namespace Wire

/-- The zigzag form is undone, for either sign. -/
theorem unzigzag_zigzag (z : Int) : unzigzag (zigzag z) = z := by
  unfold unzigzag zigzag
  by_cases h : 0 ≤ z
  · rw [if_pos h]
    split <;> omega
  · rw [if_neg h]
    split <;> omega

/-- A number that is not negative has twice itself as its zigzag form. -/
theorem zigzag_natCast (n : Nat) : zigzag n = 2 * n := by
  rw [zigzag, if_pos (Int.natCast_nonneg n), Int.toNat_natCast]

/-- An integer of one byte is read back. -/
theorem takes_int8 (x : Int8) : Takes readInt8 (int8Bytes x) x := by
  have hx : Int8.ofNat x.toBitVec.toNat = x := by
    refine Int8.toBitVec_inj.1 (BitVec.eq_of_toNat_eq ?_)
    simp
  have := (takes_readNat 1 x.toBitVec.isLt).map Int8.ofNat
  rwa [hx] at this

/-- An integer of eight bytes is read back. -/
theorem takes_int64 (x : Int64) : Takes readInt64 (int64Bytes x) x := by
  have hx : Int64.ofNat x.toBitVec.toNat = x := by
    refine Int64.toBitVec_inj.1 (BitVec.eq_of_toNat_eq ?_)
    simp
  have := (takes_readNat 8 x.toBitVec.isLt).map Int64.ofNat
  rwa [hx] at this

/-- A signed number is read back if its zigzag form has 32 bits. -/
theorem takes_signed {z : Int} (h : zigzag z < UInt32.size) :
    Takes readSigned (signedVarintBytes z) z := by
  have := (takes_varint h).map unzigzag
  rwa [unzigzag_zigzag] at this

/-- A length is folded to twice its size, which 32 bits have room for. -/
theorem takes_signed_natCast {n : Nat} (h : n ≤ 2147483647) :
    Takes readSigned (signedVarintBytes n) n := by
  refine takes_signed ?_
  rw [zigzag_natCast]
  unfold UInt32.size
  omega

/-- A count is read back if it is not taken for a negative number. -/
theorem takes_count {n : Nat} (h : n ≤ 2147483647) :
    Takes readCount (signedVarintBytes n) n := by
  refine (takes_signed_natCast h).bind_nil ?_
  rw [if_neg (by omega)]
  exact takes_pure n

/-- Minus one stands for bytes that are absent. -/
theorem takes_absentBytes : Takes readOptionalBytes (signedVarintBytes (-1)) none :=
  (takes_signed (by decide)).bind_nil (takes_pure none)

/-- Bytes with their length are read back. -/
theorem takes_presentBytes (bytes : List UInt8) :
    Takes readOptionalBytes (signedVarintBytes bytes.length ++ bytes) (some bytes) := by
  intro hlength
  rw [List.length_append] at hlength
  refine Takes.bind (takes_signed_natCast (by omega)) ?_ (by rwa [List.length_append])
  rw [if_neg (by omega), if_neg (by omega)]
  exact (takes_content bytes).finish rfl

/-- What follows a reader begins where the bytes end that it takes. -/
theorem Takes.run_bind {α β : Type} {reader : Reader α} {bytes : List UInt8} {a : α}
    (h : Takes reader bytes a) (hlength : bytes.length ≤ 2147483647) (next : α → Reader β)
    (rest : List UInt8) : (reader >>= next).run (bytes ++ rest) = (next a).run rest := by
  show (reader (bytes ++ rest) >>= fun p => next p.1 p.2) = _
  rw [h hlength rest]
  rfl

/-- What reads some bytes to their end takes them within their length. -/
theorem run_readWithin {α : Type} {reader : Reader α} {bytes : List UInt8} {a : α}
    (h : reader.run bytes = .ok (a, [])) (hlength : bytes.length ≤ 2147483647)
    (rest : List UInt8) :
    (readWithin bytes.length reader).run (bytes ++ rest) = .ok (a, rest) := by
  rw [readWithin, (takes_content bytes).run_bind hlength, h]
  rfl

/-- A reader that takes everything may be told how much there is. -/
theorem Takes.within {α : Type} {reader : Reader α} {bytes : List UInt8} {a : α}
    (h : Takes reader bytes a) : Takes (readWithin bytes.length reader) bytes a := by
  intro hlength rest
  refine run_readWithin ?_ hlength rest
  have := h hlength []
  rwa [List.append_nil] at this

end Wire

/-! ## The batch of one record -/

/-- A record with nothing but a value. -/
def Record.of (value : List UInt8) : Record :=
  ⟨0, 0, 0, none, some value, []⟩

/-- A batch of one record, at the time of the record. -/
def Batch.of (timestamp : Int64) (record : Record) : Batch where
  baseOffset := 0
  leaderEpoch := 0
  magic := 2
  attributes := 0
  lastOffsetDelta := 0
  baseTimestamp := timestamp
  maxTimestamp := timestamp
  producerId := -1
  producerEpoch := -1
  baseSequence := -1
  records := [record]

/-- The fields of a record are read back. -/
theorem takes_fields (value : List UInt8) :
    Takes Record.readFields (RecordBatch.recordBody value) (.of value) := by
  have hzero : Takes readSigned (signedVarintBytes 0) 0 := takes_signed (by decide)
  have hcount : Takes readCount (signedVarintBytes 0) 0 := takes_count (Nat.zero_le _)
  simp only [RecordBatch.recordBody, List.append_assoc]
  refine (takes_int8 0).bind ?_
  refine hzero.bind (hzero.bind ?_)
  refine takes_absentBytes.bind ?_
  rw [← List.append_assoc]
  refine (takes_presentBytes value).bind ?_
  exact hcount.bind_nil (takes_pure _)

/-- A record is read back by its length. -/
theorem takes_record (value : List UInt8) :
    Takes Record.read (RecordBatch.record value) (.of value) := by
  intro hlength
  have hbody : (RecordBatch.recordBody value).length ≤ 2147483647 := by
    rw [RecordBatch.record, List.length_append] at hlength
    omega
  exact (takes_count hbody).bind (takes_fields value).within hlength

/-- The part of a batch that the checksum covers is read back. -/
theorem takes_checked (timestamp : Int64) (value : List UInt8) :
    Takes (Batch.readChecked 0 0 2) (RecordBatch.checkedPart timestamp value)
      (.of timestamp (.of value)) := by
  simp only [RecordBatch.checkedPart, List.append_assoc]
  refine (takes_int16 0).bind ((takes_int32 0).bind ?_)
  refine (takes_int64 timestamp).bind ((takes_int64 timestamp).bind ?_)
  refine (takes_int64 (-1)).bind ((takes_int16 (-1)).bind ((takes_int32 (-1)).bind ?_))
  refine (takes_int32 1).bind ?_
  have hrecords : Takes (readItems Record.read 1) (RecordBatch.record value) [.of value] :=
    (takes_record value).bind_nil (takes_pure _)
  exact hrecords.bind_nil (takes_pure _)

/-- The part of a batch behind its length is read if its checksum is that of all that follows. -/
theorem run_readBody {baseOffset : Int64} {leaderEpoch : Int32} {magic : Int8}
    {checked : List UInt8} {batch : Batch}
    (h : Takes (Batch.readChecked baseOffset leaderEpoch magic) checked batch)
    (hlength : checked.length ≤ 2147483647) :
    (Batch.readBody baseOffset).run (int32Bytes leaderEpoch ++ (int8Bytes magic ++
        (bigEndian 4 (crc32c checked).toNat ++ checked))) = .ok (some batch, []) := by
  have hchecksum : Takes (readNat 4) (bigEndian 4 (crc32c checked).toNat)
      (crc32c checked).toNat := takes_readNat 4 (crc32c checked).toNat_lt
  have hsmall {width n : Nat} (h : width ≤ 8) : (bigEndian width n).length ≤ 2147483647 := by
    rw [length_bigEndian]
    omega
  rw [Batch.readBody, (takes_int32 leaderEpoch).run_bind (hsmall (by decide)),
    (takes_int8 magic).run_bind (hsmall (by decide)), hchecksum.run_bind (hsmall (by decide))]
  -- What is left is what the checksum is of, and is read to its end.
  have hrest := h.run_bind hlength (fun batch =>
    pure (if (crc32c checked).toNat = (crc32c checked).toNat then some batch else none)) []
  rw [List.append_nil] at hrest
  refine Eq.trans hrest ?_
  rw [if_pos rfl]
  rfl

/-- The part of a batch of one record behind its length. -/
theorem run_readBody_lengthPart {timestamp : Int64} {value : List UInt8}
    (hlength : (RecordBatch.lengthPart timestamp value).length ≤ 2147483647) :
    (Batch.readBody 0).run (RecordBatch.lengthPart timestamp value) =
      .ok (some (.of timestamp (.of value)), []) := by
  rw [RecordBatch.lengthPart, List.length_append] at hlength
  have := run_readBody (takes_checked timestamp value) (by omega)
  simpa only [RecordBatch.lengthPart, List.append_assoc] using this

/-- A batch whose length fits its field is read as one record and nothing else. -/
theorem Batch.ofBytes?_single {timestamp : Int64} {value : List UInt8}
    (hlength : (RecordBatch.lengthPart timestamp value).length ≤ 2147483647) :
    Batch.ofBytes? (RecordBatch.single timestamp value) =
      some (.of timestamp (.of value)) := by
  have hread := run_readBody_lengthPart hlength
  have hannounced : Takes (readPresentLength false .list)
      (bigEndian 4 (RecordBatch.lengthPart timestamp value).length)
      (RecordBatch.lengthPart timestamp value).length := (takes_plainLength_list hlength).present
  unfold RecordBatch.single
  generalize RecordBatch.lengthPart timestamp value = rest at hlength hread hannounced ⊢
  have hbody := run_readWithin hread hlength []
  rw [List.append_nil] at hbody
  simp only [List.append_assoc]
  rw [ofBytes?, read, (takes_int64 0).run_bind (by decide),
    hannounced.run_bind (by rw [length_bigEndian]; decide), hbody]

/-! ## Which batches are written -/

/-- A number in groups has a byte at least. -/
theorem varintBytes_ne_nil (n : Nat) : varintBytes n ≠ [] := by
  rw [varintBytes]
  split <;> exact List.cons_ne_nil _ _

/-- A number below a power of 128 has no more groups than that. -/
theorem length_varintBytes_le {groups n : Nat} (h : n < Nat.pow 128 (groups + 1)) :
    (varintBytes n).length ≤ groups + 1 := by
  induction groups generalizing n with
  | zero =>
    have hn : n < 128 := h
    rw [varintBytes, if_pos hn]
    exact Nat.le_refl 1
  | succ groups ih =>
    rw [varintBytes]
    by_cases hn : n < 128
    · rw [if_pos hn]
      exact Nat.succ_le_succ (Nat.zero_le _)
    · have hrest : n / 128 < Nat.pow 128 (groups + 1) := by
        have : n < Nat.pow 128 (groups + 1) * 128 := h
        omega
      rw [if_neg hn, List.length_cons]
      exact Nat.succ_le_succ (ih hrest)

/-- A number from a power of 128 on has more groups than that. -/
theorem lt_length_varintBytes {groups n : Nat} (h : Nat.pow 128 groups ≤ n) :
    groups < (varintBytes n).length := by
  induction groups generalizing n with
  | zero => exact List.length_pos_iff.2 (varintBytes_ne_nil n)
  | succ groups ih =>
    have hpow : Nat.pow 128 groups * 128 ≤ n := h
    have hpos : 0 < Nat.pow 128 groups := Nat.pow_pos (by decide)
    rw [varintBytes, if_neg (by omega), List.length_cons]
    exact Nat.succ_lt_succ (ih (by omega))

/-- A length that fits 32 bits takes at most five groups of seven bits when it is folded. -/
theorem length_signedVarintBytes_le {n : Nat} (h : n ≤ 2147483647) :
    (signedVarintBytes n).length ≤ 5 := by
  have hfolded : 2 * n < Nat.pow 128 5 := Nat.lt_of_le_of_lt (Nat.mul_le_mul_left 2 h) (by decide)
  rw [signedVarintBytes, zigzag_natCast]
  exact length_varintBytes_le hfolded

/-- A great one takes no fewer. -/
theorem le_length_signedVarintBytes {n : Nat} (h : 134217728 ≤ n) :
    5 ≤ (signedVarintBytes n).length := by
  have hfolded : Nat.pow 128 4 ≤ 2 * n := Nat.mul_le_mul_left 2 h
  rw [signedVarintBytes, zigzag_natCast]
  exact lt_length_varintBytes hfolded

namespace RecordBatch

/-- The length of a record without its own length. -/
theorem length_recordBody (value : List UInt8) :
    (recordBody value).length = value.length + (signedVarintBytes value.length).length + 5 := by
  have hgroup {z : Int} (h : zigzag z < 128) : (signedVarintBytes z).length = 1 := by
    rw [signedVarintBytes, varintBytes, if_pos h, List.length_singleton]
  have hzero := hgroup (show zigzag 0 < 128 by decide)
  have habsent := hgroup (show zigzag (-1) < 128 by decide)
  simp only [recordBody, List.length_append, hzero, habsent, List.length_singleton]
  omega

/-- What the length of a batch counts. -/
theorem length_lengthPart (timestamp : Int64) (value : List UInt8) :
    (lengthPart timestamp value).length = (recordBody value).length +
      (signedVarintBytes (recordBody value).length).length + 49 := by
  simp only [lengthPart, checkedPart, record, int8Bytes, int16Bytes, int32Bytes, int64Bytes,
    List.length_append, length_bigEndian]
  omega

/-- The length of a batch, in front of which stand its offset and its length. -/
theorem length_single (timestamp : Int64) (value : List UInt8) :
    (single timestamp value).length = (lengthPart timestamp value).length + 12 := by
  simp only [single, int64Bytes, List.length_append, length_bigEndian]
  omega

/-- Around a record stand at most 76 bytes. -/
theorem length_single_le (timestamp : Int64) {value : List UInt8}
    (hfits : value.length ≤ 2147483583) :
    (single timestamp value).length ≤ value.length + 76 := by
  have hbatch := length_single timestamp value
  have hrest := length_lengthPart timestamp value
  have hbody := length_recordBody value
  have hvalue := length_signedVarintBytes_le (n := value.length) (by omega)
  have hrecord := length_signedVarintBytes_le (n := (recordBody value).length) (by omega)
  omega

/-- Around a long one stand no fewer, as its length and that of its value take five bytes each. -/
theorem length_single_of_long (timestamp : Int64) {value : List UInt8}
    (hlong : 134217728 ≤ value.length) (hfits : value.length ≤ 2147483583) :
    (single timestamp value).length = value.length + 76 := by
  have hle := length_single_le timestamp hfits
  have hbatch := length_single timestamp value
  have hrest := length_lengthPart timestamp value
  have hbody := length_recordBody value
  have hvalue := le_length_signedVarintBytes (n := value.length) (by omega)
  have hrecord := le_length_signedVarintBytes (n := (recordBody value).length) (by omega)
  omega

/-- A batch is written if the value leaves room for the 64 bytes that stand around it at most. -/
theorem fault?_eq_none_iff (timestamp : Int64) (value : List UInt8) :
    fault? timestamp value = none ↔ value.length ≤ 2147483583 := by
  have hbody := length_recordBody value
  have hrest := length_lengthPart timestamp value
  unfold fault? greatestLength
  dsimp only
  constructor
  · intro h
    -- If no length is too great, that of the whole batch is not, and each field takes five bytes.
    refine Nat.le_of_not_lt fun hlong => ?_
    have hvalue := le_length_signedVarintBytes (n := value.length) (by omega)
    have hrecord := le_length_signedVarintBytes (n := (recordBody value).length) (by omega)
    rw [if_pos (show 2147483647 < (lengthPart timestamp value).length by omega)] at h
    split at h
    · cases h
    · split at h <;> cases h
  · intro h
    have hvalue := length_signedVarintBytes_le (n := value.length) (by omega)
    have hrecord := length_signedVarintBytes_le (n := (recordBody value).length) (by omega)
    rw [if_neg (by omega), if_neg (by omega), if_neg (by omega)]

/-- Where the lengths, the checksum and the record stand in a batch. -/
theorem slices_single (timestamp : Int64) (value : List UInt8) :
    let batch := single timestamp value
    (batch.drop 8).take 4 = bigEndian 4 (batch.drop 12).length ∧
      (batch.drop 17).take 4 = bigEndian 4 (crc32c (batch.drop 21)).toNat ∧
      batch.drop 12 = lengthPart timestamp value ∧ batch.drop 61 = record value := by
  intro batch
  let checked := checkedPart timestamp value
  let length := bigEndian 4 (lengthPart timestamp value).length
  let checksum := bigEndian 4 (crc32c checked).toNat
  have hlength : length.length = 4 := length_bigEndian 4 _
  have hchecksum : checksum.length = 4 := length_bigEndian 4 _
  have hbatch : batch = int64Bytes 0 ++ (length ++ lengthPart timestamp value) :=
    List.append_assoc _ _ _
  have hrest : lengthPart timestamp value = int32Bytes 0 ++ int8Bytes 2 ++ (checksum ++ checked) :=
    List.append_assoc _ _ _
  -- The fields in front of each part have their widths.
  have h8 : batch.drop 8 = length ++ lengthPart timestamp value := by
    rw [hbatch]
    exact List.drop_left' rfl
  have h12 : batch.drop 12 = lengthPart timestamp value := by
    rw [show 12 = 8 + 4 from rfl, ← List.drop_drop, h8]
    exact List.drop_left' hlength
  have h17 : batch.drop 17 = checksum ++ checked := by
    rw [show 17 = 12 + 5 from rfl, ← List.drop_drop, h12, hrest]
    exact List.drop_left' rfl
  have h21 : batch.drop 21 = checked := by
    rw [show 21 = 17 + 4 from rfl, ← List.drop_drop, h17]
    exact List.drop_left' hchecksum
  have h61 : batch.drop 61 = record value := by
    rw [show 61 = 21 + 40 from rfl, ← List.drop_drop, h21]
    exact List.drop_left' rfl
  refine ⟨?_, ?_, h12, h61⟩
  · rw [h8, h12]
    exact List.take_left' hlength
  · rw [h17, h21]
    exact List.take_left' hchecksum

end RecordBatch

/-- A request can be built iff its payload fits the batch, and is then the only one. -/
theorem ProduceRequest.build_eq_ok_iff {topic : String} {partition : Int32}
    {payload : List UInt8} {timestamp : Int64} {timeoutMillis : Int32} {request : ProduceRequest} :
    build topic partition payload timestamp timeoutMillis = .ok request ↔
      payload.length ≤ 2147483583 ∧
        request = .single topic partition payload timestamp timeoutMillis := by
  rw [← RecordBatch.fault?_eq_none_iff timestamp payload, build]
  cases RecordBatch.fault? timestamp payload with
  | none => simp [eq_comm]
  | some fault => simp

/-- The request to write one record can be built if the payload has room in a batch. Then the
request asks all replicas to store one batch for the one partition. The length in the batch is the
number of bytes behind it, the checksum is the CRC-32C of all bytes behind it, and the length of the
record is the number of bytes behind it. What the batch is read as is one record at the time given,
with the payload for its value and nothing else, and no byte is left over. -/
theorem batch_of_build (topic : String) (partition : Int32) (payload : List UInt8)
    (timestamp : Int64) (timeoutMillis : Int32) :
    ((∃ request, ProduceRequest.build topic partition payload timestamp timeoutMillis =
      .ok request) ↔ payload.length ≤ 2147483583) ∧
    ∀ request,
      ProduceRequest.build topic partition payload timestamp timeoutMillis = .ok request →
      ∃ batch, request = ⟨none, -1, timeoutMillis, [⟨topic, [⟨partition, batch⟩]⟩]⟩ ∧
        ofBigEndian ((batch.drop 8).take 4) = (batch.drop 12).length ∧
        (∃ checksum, IsCrc32c (batch.drop 21) checksum ∧
          ofBigEndian ((batch.drop 17).take 4) = checksum.toNat) ∧
        (∃ fields, readSigned.run (batch.drop 61) = .ok ((fields.length : Int), fields)) ∧
        Batch.ofBytes? batch = some (.of timestamp (.of payload)) := by
  constructor
  · constructor
    · rintro ⟨request, h⟩
      exact (ProduceRequest.build_eq_ok_iff.1 h).1
    · exact fun h => ⟨_, ProduceRequest.build_eq_ok_iff.2 ⟨h, rfl⟩⟩
  intro request h
  obtain ⟨hpayload, rfl⟩ := ProduceRequest.build_eq_ok_iff.1 h
  -- With so short a payload every length in the batch fits the word it is written as.
  have hbody := RecordBatch.length_recordBody payload
  have hrest := RecordBatch.length_lengthPart timestamp payload
  have hvalue := length_signedVarintBytes_le (n := payload.length) (by omega)
  have hrecord := length_signedVarintBytes_le (n := (RecordBatch.recordBody payload).length)
    (by omega)
  obtain ⟨hannounced, hchecksum, h12, h61⟩ := RecordBatch.slices_single timestamp payload
  refine ⟨_, rfl, ?_, ⟨_, isCrc32c_crc32c _, ?_⟩, ⟨RecordBatch.recordBody payload, ?_⟩, ?_⟩
  · rw [hannounced, ofBigEndian_bigEndian, h12]
    exact Nat.mod_eq_of_lt (by omega)
  · rw [hchecksum, ofBigEndian_bigEndian]
    exact Nat.mod_eq_of_lt (UInt32.toNat_lt _)
  · rw [h61, RecordBatch.record]
    exact takes_signed_natCast (by omega) (by omega) _
  · exact Batch.ofBytes?_single (by omega)

/-- The checksum in the batch of a record of 64 bytes. -/
theorem RecordBatch.crc32c_of_64_bytes :
    crc32c ((single (-1) (List.replicate 64 7)).drop 21) = 0x986C8615 := by
  -- The register is followed part by part, as all the bytes at once are too deep to evaluate.
  have hfields : (((single (-1) (List.replicate 64 7)).drop 21).take 40).foldl checksumByte
      0xFFFFFFFF = 0x35A4D406 := by decide +kernel
  have hfront : (((single (-1) (List.replicate 64 7)).drop 61).take 36).foldl checksumByte
      0x35A4D406 = 0x52142FF8 := by decide +kernel
  have hback : ((single (-1) (List.replicate 64 7)).drop 97).foldl checksumByte
      0x52142FF8 = 0x679379EA := by decide +kernel
  rw [crc32c, ← List.take_append_drop 40 (List.drop 21 _), List.foldl_append, hfields,
    List.drop_drop, ← List.take_append_drop 36 (List.drop (21 + 40) _), List.foldl_append, hfront,
    List.drop_drop, hback]
  rfl

/-- A record from before the epoch, with a payload that is just long enough for its length and that
of the record to take two bytes each. -/
theorem batch_of_build_of_64_bytes :
    let payload := List.replicate 64 (7 : UInt8)
    ∃ request batch, ProduceRequest.build "canary" 2 payload (-1) 30000 = .ok request ∧
      request.topics = [⟨"canary", [⟨2, batch⟩]⟩] ∧ batch.length = 134 ∧
      ofBigEndian ((batch.drop 8).take 4) = 122 ∧
      IsCrc32c (batch.drop 21) 0x986C8615 ∧
      ofBigEndian ((batch.drop 17).take 4) = 0x986C8615 ∧
      Batch.ofBytes? batch = some (.of (-1) (.of payload)) := by
  intro payload
  obtain ⟨hbuilds, hbatch⟩ := batch_of_build "canary" 2 payload (-1) 30000
  obtain ⟨request, hrequest⟩ := hbuilds.2 (by decide)
  obtain ⟨batch, htopics, hannounced, ⟨checksum, hcrc, hstored⟩, -, hread⟩ :=
    hbatch request hrequest
  obtain ⟨-, hsingle⟩ := ProduceRequest.build_eq_ok_iff.1 hrequest
  obtain rfl : batch = RecordBatch.single (-1) payload := by
    rw [hsingle] at htopics
    cases htopics
    rfl
  have hlength : (RecordBatch.single (-1) payload).length = 134 := by decide +kernel
  obtain rfl : checksum = 0x986C8615 :=
    (isCrc32c_iff.1 hcrc).trans RecordBatch.crc32c_of_64_bytes
  refine ⟨request, _, hrequest, by rw [htopics], hlength, ?_, hcrc, hstored, hread⟩
  rw [hannounced, List.length_drop, hlength]

end KafkaCanary
