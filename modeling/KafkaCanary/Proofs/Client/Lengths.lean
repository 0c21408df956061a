import KafkaCanary.Proofs.Client.Versions
import KafkaCanary.Proofs.Protocol.Batches
import KafkaCanary.Proofs.Protocol.Frames

/-!
# Lengths in front of frames

The length in front of a frame is a signed integer of 32 bits for everyone who reads it. The writer
of frames refuses a request only if its header or its body cannot be written, and never because the
two together are too long, so the length wraps: it is the number of bytes behind it only up to a
multiple of `2 ^ 32`. Frames as long as that exist, as every field has a limit of its own and there
is none on all of them together: the batch of a record alone can have as many bytes as the length in
front of the frame can say.

## Main results

* `run_readInt32_bigEndian`: four bytes of a length, as they are read;
* `Request.announced_of_frame`: the length in front of a frame, and when it is right;
* `Request.exists_frame_of_long_record`: how much a frame holds besides a long record.
-/

namespace KafkaCanary

open Wire

/-! ## Lengths as they are read -/

namespace Wire

/-- Four bytes of a number are read as the number, in arithmetic of 32 bits. -/
theorem run_readInt32_bigEndian (n : Nat) (rest : List UInt8) :
    readInt32.run (bigEndian 4 n ++ rest) = .ok (Int32.ofNat n, rest) := by
  have hlength := length_bigEndian 4 n
  have hread : readNat 4 (bigEndian 4 n ++ rest) = .ok (n % 256 ^ 4, rest) := by
    rw [readNat, if_pos (by simp [hlength]), List.take_left' hlength, List.drop_left' hlength,
      ofBigEndian_bigEndian]
  have hwrap : Int32.ofNat (n % 256 ^ 4) = Int32.ofNat n := by
    apply Int32.toInt_inj.1
    simp only [Int32.toInt_ofNat', Int32.size, Int.bmod_def]
    omega
  show (readNat 4 (bigEndian 4 n ++ rest) >>= fun p => pure (Int32.ofNat p.1, p.2)) = _
  rw [hread, ← hwrap]
  rfl

/-- In that arithmetic a number is itself exactly if it is not too great. -/
theorem toInt_ofNat_eq_iff (n : Nat) : (Int32.ofNat n).toInt = n ↔ n ≤ 2147483647 := by
  simp only [Int32.toInt_ofNat', Int32.size, Int.bmod_def]
  omega

end Wire

/-! ## Frames -/

namespace Request

variable {request : Request} {version : Int16} {correlationId : Int32} {clientId : String}

/-- A frame is read as the length of its header and body, and these. -/
theorem exists_run_readInt32_frame {frame : List UInt8}
    (h : request.frame version correlationId clientId = .ok frame) :
    ∃ header body, request.headerBytes version correlationId clientId = .ok header ∧
      request.bodyBytes version = .ok body ∧
        readInt32.run frame = .ok (Int32.ofNat (header ++ body).length, header ++ body) := by
  obtain ⟨header, body, hheader, hbody, rfl⟩ := exists_header_body_of_frame h
  exact ⟨header, body, hheader, hbody, run_readInt32_bigEndian _ _⟩

/-- There is a frame whenever there are a header and a body. -/
theorem frame_of_header_body {header body : List UInt8}
    (hheader : request.headerBytes version correlationId clientId = .ok header)
    (hbody : request.bodyBytes version = .ok body) :
    request.frame version correlationId clientId =
      .ok (bigEndian 4 (header ++ body).length ++ (header ++ body)) := by
  simp only [frame, hheader, hbody]

/-- A request has a frame exactly if its header and its body can be written, however long they are
together. Whoever reads the first four bytes of the frame as a signed integer is left with the
header and the body, and has found their length modulo `2 ^ 32`, as a number from `-2 ^ 31` on and
below `2 ^ 31`. This is their length, and not negative, if they have no more than `2147483647`
bytes, and it is not their length if they have more. -/
theorem announced_of_frame (request : Request) (version : Int16) (correlationId : Int32)
    (clientId : String) :
    ((∃ frame, request.frame version correlationId clientId = .ok frame) ↔
      (∃ header, request.headerBytes version correlationId clientId = .ok header) ∧
        ∃ body, request.bodyBytes version = .ok body) ∧
    ∀ frame, request.frame version correlationId clientId = .ok frame →
      ∃ header body announced, request.headerBytes version correlationId clientId = .ok header ∧
        request.bodyBytes version = .ok body ∧
        readInt32.run frame = .ok (announced, header ++ body) ∧
        announced.toInt = ((header ++ body).length : Int).bmod (2 ^ 32) ∧
        (0 ≤ announced ∧ announced.toInt = (header ++ body).length ↔
          (header ++ body).length ≤ 2147483647) := by
  constructor
  · constructor
    · rintro ⟨frame, h⟩
      obtain ⟨header, body, hheader, hbody, -⟩ := exists_header_body_of_frame h
      exact ⟨⟨header, hheader⟩, body, hbody⟩
    · rintro ⟨⟨header, hheader⟩, body, hbody⟩
      exact ⟨_, frame_of_header_body hheader hbody⟩
  intro frame h
  obtain ⟨header, body, hheader, hbody, hread⟩ := exists_run_readInt32_frame h
  refine ⟨header, body, _, hheader, hbody, hread, Int32.toInt_ofNat', ?_⟩
  -- What is left is about one number and the word of 32 bits it is written as.
  generalize (header ++ body).length = n
  constructor
  · rintro ⟨-, hexact⟩
    exact (toInt_ofNat_eq_iff n).1 hexact
  · intro hfits
    have hexact := (toInt_ofNat_eq_iff n).2 hfits
    refine ⟨Int32.le_iff_toInt_le.2 ?_, hexact⟩
    rw [hexact]
    exact Int.natCast_nonneg n

/-- The sixteen bytes of a request for versions. -/
theorem announced_of_frame_of_versions :
    ∃ frame message, (versions ⟨"", ""⟩).frame 0 123 "canary" = .ok frame ∧
      readInt32.run frame = .ok (16, message) ∧ message.length = 16 := by
  obtain ⟨hframe, hannounced⟩ := announced_of_frame (versions ⟨"", ""⟩) 0 123 "canary"
  obtain ⟨frame, h⟩ := hframe.2 ⟨⟨_, rfl⟩, _, rfl⟩
  obtain ⟨header, body, announced, hheader, hbody, hread, -, hexact⟩ := hannounced frame h
  have hlength : (header ++ body).length = 16 := by
    cases hheader
    cases hbody
    decide +kernel
  obtain ⟨-, h16⟩ := hexact.2 (by omega)
  rw [hlength] at h16
  obtain rfl : announced = 16 := Int32.toInt_inj.1 h16
  exact ⟨frame, _, h, hread, hlength⟩

end Request

/-! ## Requests to write one record -/

section Record

variable {topic clientId : String} {version : Int16} {partition : Int32} {payload : List UInt8}
  {timestamp : Int64} {timeoutMillis : Int32}

/-- The records of one batch for one topic, in the plain style. -/
theorem TopicRecords.length_of_bytes {batch bytes : List UInt8}
    (h : TopicRecords.bytes false ⟨topic, [⟨partition, batch⟩]⟩ = .ok bytes) :
    bytes.length = batch.length + (Utf8.encode topic).length + 14 := by
  obtain ⟨name, hname, h⟩ := bind_eq_ok_iff.1 h
  obtain ⟨partitions, hpartitions, h⟩ := bind_eq_ok_iff.1 h
  obtain ⟨written, hwritten, hlength⟩ := Wire.length_of_listField_singleton hpartitions
  obtain ⟨records, hrecords, hwritten⟩ := bind_eq_ok_iff.1 hwritten
  cases hwritten
  cases h
  simp [Wire.length_of_textField hname, hlength, Wire.length_of_bytesField hrecords]
  omega

/-- The body of a request to write one record, in a version of the plain style. -/
theorem ProduceRequest.length_of_bytes {body : List UInt8} (hfirst : 3 ≤ version)
    (hplain : version < 9)
    (h : (single topic partition payload timestamp timeoutMillis).bytes version = .ok body) :
    body.length =
      (RecordBatch.single timestamp payload).length + (Utf8.encode topic).length + 26 := by
  have hcompact : decide (9 ≤ version) = false := decide_eq_false (Int16.not_le.2 hplain)
  rw [bytes, decide_eq_true hfirst] at h
  simp only [hcompact] at h
  obtain ⟨transaction, htransaction, h⟩ := bind_eq_ok_iff.1 h
  obtain ⟨topics, htopics, h⟩ := bind_eq_ok_iff.1 h
  obtain ⟨written, hwritten, hlength⟩ := Wire.length_of_listField_singleton htopics
  cases htransaction
  cases h
  simp [hlength, TopicRecords.length_of_bytes hwritten]
  omega

namespace Request

/-- The header of a request to write records, in a version of the plain style. -/
theorem length_of_headerBytes {r : ProduceRequest} {header : List UInt8} {correlationId : Int32}
    (hplain : version < 9)
    (h : (produce r).headerBytes version correlationId clientId = .ok header) :
    header.length = (Utf8.encode clientId).length + 10 := by
  obtain ⟨text, htext, h⟩ := bind_eq_ok_iff.1 h
  have hcompact : decide (ApiKey.produce.firstCompact ≤ version) = false :=
    decide_eq_false (Int16.not_le.2 hplain)
  rw [show (produce r).api = .produce from rfl, hcompact] at h
  cases h
  simp [Wire.length_of_textField htext]
  omega

/-- A long record that has room in a request of the plain style, and the request to write it. It has
a frame, in which the length stands in front of the record, the topic, the client id and `112` bytes
more. -/
theorem exists_frame_of_long_record (htopic : Short topic) (hclientId : Short clientId)
    (hfirst : 3 ≤ version) (hplain : version < 9) (hlong : 134217728 ≤ payload.length)
    (hfits : payload.length ≤ 2147483571) (partition : Int32) (timestamp : Int64)
    (timeoutMillis correlationId : Int32) :
    ∃ request frame message,
      ProduceRequest.build topic partition payload timestamp timeoutMillis = .ok request ∧
      (produce request).frame version correlationId clientId = .ok frame ∧
      readInt32.run frame = .ok (Int32.ofNat message.length, message) ∧
      message.length =
        payload.length + (Utf8.encode topic).length + (Utf8.encode clientId).length + 112 := by
  have hsupported : 0 ≤ version ∧ version ≤ (11 : Int16) :=
    ⟨Int16.le_trans (by decide) hfirst, Int16.le_trans (Int16.le_of_lt hplain) (by decide)⟩
  have hlongest : payload.length ≤ longestRecord version := by
    rw [longestRecord, if_pos hplain]
    exact hfits
  obtain ⟨request, frame, hbuild, h⟩ := (exists_frame_record_iff htopic hclientId hsupported
    partition payload timestamp timeoutMillis correlationId).2 hlongest
  obtain ⟨hbatch, rfl⟩ := ProduceRequest.build_eq_ok_iff.1 hbuild
  obtain ⟨header, body, hheader, hbody, hread⟩ := exists_run_readInt32_frame h
  refine ⟨_, frame, header ++ body, hbuild, h, hread, ?_⟩
  rw [bodyBytes_produce hsupported] at hbody
  rw [List.length_append, length_of_headerBytes hplain hheader,
    ProduceRequest.length_of_bytes hfirst hplain hbody,
    RecordBatch.length_single_of_long timestamp hlong hbatch]
  omega

/-- The longest record that has room in a request of the plain style. Its frame announces a negative
length. -/
theorem announced_of_frame_of_long_record :
    ∃ request frame announced message,
      ProduceRequest.build "t" 0 (List.replicate 2147483571 0x61) 0 30000 = .ok request ∧
      (produce request).frame 3 1 "c" = .ok frame ∧
      readInt32.run frame = .ok (announced, message) ∧
      message.length = 2147483685 ∧ announced.toInt = -2147483611 := by
  -- The record is far too long to be written out, so only its length is used.
  have hlength : (List.replicate 2147483571 (0x61 : UInt8)).length = 2147483571 :=
    List.length_replicate
  generalize List.replicate 2147483571 (0x61 : UInt8) = payload at hlength
  have htopic : Short "t" := by
    unfold Short
    decide
  have hclientId : Short "c" := by
    unfold Short
    decide
  have hlong : 134217728 ≤ payload.length := by omega
  obtain ⟨request, frame, message, hbuild, hframe, hread, hmessage⟩ :=
    exists_frame_of_long_record htopic hclientId (Int16.le_refl 3) (by decide) hlong (by omega)
      0 0 30000 1
  have hlengths : message.length = 2147483685 := by
    rw [hmessage, hlength]
    rfl
  refine ⟨request, frame, _, message, hbuild, hframe, hread, hlengths, ?_⟩
  rw [hlengths]
  decide

end Request

end Record

end KafkaCanary
