import KafkaCanary.Proofs.Wire.Fields
import KafkaCanary.Protocol.RequestReader

/-!
# Frames are read as they were written

A broker that reads the frame of a request finds the header and the request in it, and nothing else.
A field that the version does not have is found at its default, and a request is written only if the
field is at its default. The one exception is the request for versions, whose texts are left out
silently in the versions that do not have them (`Request.visible`).

Every reader takes exactly what the writer of the same structure wrote. The proofs follow the
definitions field by field.

## Main results

* `takes_produce`, `takes_metadata`, `takes_versions`: the bodies;
* `Request.ofFrame?_frame`: the frame of any request, as far as its version shows it;
* `frames_read_back`: the frames of the requests that a canary builds.
-/

namespace KafkaCanary

open Wire

/-! ## Fields -/

/-- Bytes have their length in front of them, like a list. -/
theorem takes_bytesField {compact : Bool} {content bytes : List UInt8}
    (h : bytesField compact content = .ok bytes) :
    Takes (readBytesField compact) bytes content := by
  obtain ⟨length, hlength, h⟩ := bind_eq_ok_iff.1 h
  cases h
  exact (takes_lengthField hlength).present.bind (takes_content content)

theorem takes_optionalListField {α : Type} {item : α → Except EncodeFault (List UInt8)}
    {reader : Reader α} {items : Option (List α)} {compact : Bool} {bytes : List UInt8}
    (hitem : ∀ a bytes, item a = .ok bytes → Takes reader bytes a)
    (h : optionalListField compact item items = .ok bytes) :
    Takes (readOptionalListField compact reader) bytes items := by
  cases items with
  | none =>
    cases compact with
    | false =>
      cases h
      exact (takes_plainLength .list ((takes_int32 (-1)).map (·.toInt)) (by decide)).bind_nil
        (takes_pure none)
    | true =>
      cases h
      exact (takes_compactAbsence .list).bind_nil (takes_pure none)
  | some items =>
    obtain ⟨length, written, rfl, htakes, hitems⟩ :=
      exists_length_of_listField (fun a _ => hitem a) h
    exact htakes.bind (hitems.finish rfl)

/-- A version that does not have a field shows its default, and this is the only value that is
written in such a version. -/
theorem takes_fieldIf {α : Type} [DecidableEq α] {present : Bool} {default a : α}
    {field : α → Except EncodeFault (List UInt8)} {reader : Reader α} {bytes : List UInt8}
    (hfield : ∀ bytes, field a = .ok bytes → Takes reader bytes a)
    (h : fieldIf present default field a = .ok bytes) :
    Takes (readIf present default reader) bytes a := by
  unfold fieldIf at h
  cases present with
  | true => exact hfield bytes h
  | false =>
    by_cases hdefault : a = default
    · rw [if_neg Bool.false_ne_true, if_pos hdefault] at h
      cases h
      exact hdefault ▸ takes_pure a
    · rw [if_neg Bool.false_ne_true, if_neg hdefault] at h
      cases h

/-- A truth value that a version may not have. -/
theorem takes_boolIf {present default b : Bool} {bytes : List UInt8}
    (h : fieldIf present default (fun b => .ok (boolBytes b)) b = .ok bytes) :
    Takes (readIf present default readBool) bytes b := by
  refine takes_fieldIf (fun bytes hbytes => ?_) h
  cases hbytes
  exact takes_bool b

/-! ## Requests to write records -/

theorem takes_partitionRecords {compact : Bool} {p : PartitionRecords} {bytes : List UInt8}
    (h : p.bytes compact = .ok bytes) : Takes (PartitionRecords.read compact) bytes p := by
  obtain ⟨records, hrecords, h⟩ := bind_eq_ok_iff.1 h
  cases h
  rw [List.append_assoc]
  refine (takes_int32 p.index).bind ?_
  exact (takes_bytesField hrecords).bind ((takes_tagsField compact).finish rfl)

theorem takes_topicRecords {compact : Bool} {t : TopicRecords} {bytes : List UInt8}
    (h : t.bytes compact = .ok bytes) : Takes (TopicRecords.read compact) bytes t := by
  obtain ⟨name, hname, h⟩ := bind_eq_ok_iff.1 h
  obtain ⟨partitions, hpartitions, h⟩ := bind_eq_ok_iff.1 h
  cases h
  have htakes := takes_listField (fun p _ bytes => takes_partitionRecords) hpartitions
  rw [List.append_assoc]
  exact (takes_textField hname).bind (htakes.bind ((takes_tagsField compact).finish rfl))

/-- The transaction comes first if the version has it. The rest is of one form in every version. -/
theorem takes_produce {version : Int16} {r : ProduceRequest} {bytes : List UInt8}
    (h : r.bytes version = .ok bytes) : Takes (ProduceRequest.read version) bytes r := by
  obtain ⟨transaction, htransaction, h⟩ := bind_eq_ok_iff.1 h
  obtain ⟨topics, htopics, h⟩ := bind_eq_ok_iff.1 h
  cases h
  have hfirst := takes_fieldIf (fun _ => takes_optionalTextField) htransaction
  have hrest := takes_listField (fun t _ bytes => takes_topicRecords) htopics
  simp only [List.append_assoc]
  refine hfirst.bind ((takes_int16 r.acks).bind ((takes_int32 r.timeoutMillis).bind ?_))
  exact hrest.bind ((takes_tagsField _).finish rfl)

/-! ## Requests for metadata -/

/-- From version 10 on an id stands in front of the name, which is passed over. -/
theorem takes_topic {version : Int16} {name : String} {bytes : List UInt8}
    (h : MetadataRequest.topicBytes version name = .ok bytes) :
    Takes (MetadataRequest.readTopic version) bytes name := by
  obtain ⟨text, htext, h⟩ := bind_eq_ok_iff.1 h
  cases h
  have hid : Takes (readIf (10 ≤ version) 0 (readNat 16))
      (if 10 ≤ version then bigEndian 16 0 else []) 0 := by
    by_cases hversion : 10 ≤ version
    · rw [readIf, if_pos (decide_eq_true hversion), if_pos hversion]
      exact takes_readNat 16 (by decide)
    · rw [readIf, if_neg (by simpa using hversion), if_neg hversion]
      exact takes_pure 0
  rw [List.append_assoc]
  exact hid.bind ((takes_textField htext).bind ((takes_tagsField _).finish rfl))

theorem takes_metadata {version : Int16} {r : MetadataRequest} {bytes : List UInt8}
    (h : r.bytes version = .ok bytes) : Takes (MetadataRequest.read version) bytes r := by
  obtain ⟨topics, htopics, h⟩ := bind_eq_ok_iff.1 h
  obtain ⟨creation, hcreation, h⟩ := bind_eq_ok_iff.1 h
  obtain ⟨cluster, hcluster, h⟩ := bind_eq_ok_iff.1 h
  obtain ⟨operations, hoperations, h⟩ := bind_eq_ok_iff.1 h
  cases h
  have htakes := takes_optionalListField (fun name bytes => takes_topic) htopics
  simp only [List.append_assoc]
  refine htakes.bind ((takes_boolIf hcreation).bind ((takes_boolIf hcluster).bind ?_))
  exact (takes_boolIf hoperations).bind ((takes_tagsField _).finish rfl)

/-! ## Requests for versions -/

/-- A request for versions, as far as a version shows it. -/
def VersionsRequest.visible (version : Int16) (r : VersionsRequest) : VersionsRequest :=
  if 3 ≤ version then r else ⟨"", ""⟩

theorem takes_versions {version : Int16} {r : VersionsRequest} {bytes : List UInt8}
    (h : r.bytes version = .ok bytes) :
    Takes (VersionsRequest.read version) bytes (r.visible version) := by
  rw [VersionsRequest.bytes] at h
  rw [VersionsRequest.read, VersionsRequest.visible]
  by_cases hversion : 3 ≤ version
  · rw [if_pos hversion] at h
    obtain ⟨name, hname, h⟩ := bind_eq_ok_iff.1 h
    obtain ⟨number, hnumber, h⟩ := bind_eq_ok_iff.1 h
    cases h
    rw [if_pos hversion, if_pos hversion, List.append_assoc]
    refine (takes_textField hname).bind ((takes_textField hnumber).bind ?_)
    exact (takes_tagsField true).finish rfl
  · rw [if_neg hversion] at h
    cases h
    rw [if_neg hversion, if_neg hversion]
    exact takes_pure _

/-! ## Frames -/

namespace Request

/-- A request, as far as a version shows it. -/
def visible (version : Int16) : Request → Request
  | .produce r => .produce r
  | .metadata r => .metadata r
  | .versions r => .versions (r.visible version)

theorem ofCode?_code (api : ApiKey) : ApiKey.ofCode? api.code = some api := by
  cases api <;> rfl

theorem takes_header {request : Request} {version : Int16} {correlationId : Int32}
    {clientId : String} {bytes : List UInt8}
    (h : request.headerBytes version correlationId clientId = .ok bytes) :
    Takes RequestHeader.read bytes (some ⟨request.api, version, correlationId, clientId⟩) := by
  obtain ⟨text, htext, h⟩ := bind_eq_ok_iff.1 h
  cases h
  simp only [List.append_assoc]
  refine (takes_int16 _).bind ((takes_int16 version).bind ((takes_int32 correlationId).bind ?_))
  have hclientId : Takes (readTextField false) text clientId := takes_textField htext
  refine hclientId.bind ?_
  rw [ofCode?_code]
  exact (takes_tagsField _).finish rfl

theorem takes_body {request : Request} {version : Int16} {correlationId : Int32}
    {clientId : String} {bytes : List UInt8} (h : request.bodyBytes version = .ok bytes) :
    Takes (readBody ⟨request.api, version, correlationId, clientId⟩) bytes
      (some (request.visible version)) := by
  unfold bodyBytes at h
  split at h
  · cases h
  · cases request with
    | produce r => exact (takes_produce h).finish rfl
    | metadata r => exact (takes_metadata h).finish rfl
    | versions r => exact (takes_versions h).finish rfl

/-- A frame is a header and a body behind their common length. -/
theorem exists_header_body_of_frame {request : Request} {version : Int16} {correlationId : Int32}
    {clientId : String} {frame : List UInt8}
    (h : request.frame version correlationId clientId = .ok frame) :
    ∃ header body, request.headerBytes version correlationId clientId = .ok header ∧
      request.bodyBytes version = .ok body ∧
        frame = bigEndian 4 (header ++ body).length ++ (header ++ body) := by
  unfold Request.frame at h
  rcases hheader : request.headerBytes version correlationId clientId with fault | header
  · simp only [hheader] at h
    cases h
  rcases hbody : request.bodyBytes version with fault | body
  · simp only [hheader, hbody] at h
    cases h
  simp only [hheader, hbody] at h
  cases h
  exact ⟨header, body, rfl, rfl, rfl⟩

theorem takes_message {request : Request} {version : Int16} {correlationId : Int32}
    {clientId : String} {header body : List UInt8}
    (hheader : request.headerBytes version correlationId clientId = .ok header)
    (hbody : request.bodyBytes version = .ok body) :
    Takes readMessage (header ++ body)
      (some (⟨request.api, version, correlationId, clientId⟩, request.visible version)) :=
  (takes_header hheader).bind ((takes_body hbody).bind_nil (takes_pure _))

/-- A frame announces the number of bytes behind its length, and is read as its header and its
request, as far as the version shows it, with nothing left over. -/
theorem ofFrame?_frame {request : Request} {version : Int16} {correlationId : Int32}
    {clientId : String} {frame : List UInt8}
    (h : request.frame version correlationId clientId = .ok frame)
    (hlength : (frame.drop 4).length ≤ 2147483647) :
    ofBigEndian (frame.take 4) = (frame.drop 4).length ∧
      ofFrame? frame =
        some (⟨request.api, version, correlationId, clientId⟩, request.visible version) := by
  obtain ⟨header, body, hheader, hbody, rfl⟩ := exists_header_body_of_frame h
  have hmessage := takes_message hheader hbody
  generalize header ++ body = message at hlength hmessage ⊢
  -- The length does not wrap, and the message is read to its end.
  have hannounced := length_bigEndian 4 message.length
  rw [List.drop_left' hannounced] at hlength ⊢
  have hread : readNat 4 (bigEndian 4 message.length ++ message) = .ok (message.length, message) :=
    takes_readNat 4 (by omega) (by omega) message
  have hfound := hmessage hlength []
  rw [List.append_nil] at hfound
  constructor
  · rw [List.take_left' hannounced, ofBigEndian_bigEndian, Nat.mod_eq_of_lt (by omega)]
  · rw [ofFrame?, StateT.run, hread]
    dsimp only
    rw [if_pos rfl, StateT.run, hfound]

end Request

/-- The requests that a canary builds. -/
inductive Request.Built : Request → Prop
  /-- One record for one partition. -/
  | produce (topic : String) (partition : Int32) (payload : List UInt8) (timestamp : Int64)
      (timeoutMillis : Int32) :
      Built (.produce (.single topic partition payload timestamp timeoutMillis))
  /-- The metadata of some topics, or of all. -/
  | metadata (topics : Option (List String)) : Built (.metadata (.of topics))
  /-- The versions that a broker supports. -/
  | versions : Built (.versions ⟨"", ""⟩)

/-- What a canary builds is shown in every version. -/
theorem Request.Built.visible_eq {request : Request} (h : request.Built) (version : Int16) :
    request.visible version = request := by
  cases h with
  | produce | metadata => rfl
  | versions => rw [Request.visible, VersionsRequest.visible, ite_self]

/-- The frames of the requests that a canary builds, in every version and with any correlation id
and client id: the length in front is the number of bytes behind it, and a broker finds the header
and the whole request, and nothing after it. -/
theorem frames_read_back {request : Request} (hbuilt : request.Built) {version : Int16}
    {correlationId : Int32} {clientId : String} {frame : List UInt8}
    (h : request.frame version correlationId clientId = .ok frame)
    (hlength : (frame.drop 4).length ≤ 2147483647) :
    ofBigEndian (frame.take 4) = (frame.drop 4).length ∧
      Request.ofFrame? frame =
        some (⟨request.api, version, correlationId, clientId⟩, request) := by
  have := Request.ofFrame?_frame h hlength
  rwa [hbuilt.visible_eq] at this

/-- A probe in a version of the compact style. -/
theorem frames_read_back_of_probe :
    let probe : Request := .produce (.single "canary" 2 [0x70, 0x69, 0x6E, 0x67] 1000 30000)
    probe.Built ∧ ∃ frame, probe.frame 9 (-7) "client" = .ok frame ∧ frame.length = 117 ∧
      ofBigEndian (frame.take 4) = 113 ∧
      Request.ofFrame? frame = some (⟨.produce, 9, -7, "client"⟩, probe) := by
  intro probe
  have hbuilt : probe.Built := .produce _ _ _ _ _
  have hlength : (probe.frame 9 (-7) "client").toOption.map List.length = some 117 := by
    decide +kernel
  rcases hframe : probe.frame 9 (-7) "client" with fault | frame
  · rw [hframe] at hlength
    cases hlength
  · rw [hframe] at hlength
    replace hlength : frame.length = 117 := Option.some.inj hlength
    have hbehind : (frame.drop 4).length = 113 := by rw [List.length_drop, hlength]
    obtain ⟨hannounced, hread⟩ := frames_read_back hbuilt hframe (by omega)
    rw [hbehind] at hannounced
    exact ⟨hbuilt, frame, rfl, hlength, hannounced, hread⟩

end KafkaCanary
