import KafkaCanary.Proofs.Client.Correlation
import KafkaCanary.Proofs.Protocol.Batches

/-!
# Versions of requests

A client takes the version that it prefers of an API if the cluster supports it, and the last one
that the cluster supports otherwise. It does not ask itself whether it can write a request in that
version. What it prefers it can write, and so it can write everything that it takes, with one
exception: a cluster that supports no version as old as the preferred one, and one that is newer
than all that the client can write.

In a version that it can write, a client with a short name has a frame for every request about a
topic with a short name. Only a record can be too long. A batch is bounded by its own lengths, and
until version 9 the field that it stands in has a little less room.

## Main definitions

* `Client.Selected`: what is selected out of the range that a cluster supports;
* `Request.longestRecord`: the length of the longest record that a request can hold;
* `Client.Asked`: an operation with at most one request, in a version that was selected for it.

## Main results

* `Client.selected_chooseVersion`: the selection, for any API and preference;
* `Request.exists_frame_record_iff`, `Request.exists_frame_listing`, `Request.frame_eq_unsupported`:
  which requests have a frame;
* `Client.isOther_of_call`, `Client.isOther_of_send`, `Client.isOther_of_refresh`: no other fault is
  that of a missing one;
* `Client.asked_send`, `Client.asked_refresh`: an operation asks in the version selected;
* `version_negotiated`: what operations ask with.
-/

namespace KafkaCanary

/-! ## The selection -/

/-- Out of the versions from `least` to `greatest` one was selected. The client would prefer
`preferred` and can write the versions from zero to `last`. -/
structure Client.Selected (preferred last least greatest version : Int16) : Prop where
  /-- The cluster supports the version. -/
  supported : least ≤ version ∧ version ≤ greatest
  /-- It is the preferred one if possible. -/
  version_eq : version = if least ≤ preferred ∧ preferred ≤ greatest then preferred else greatest
  /-- The client can write it unless everything preferred is too old and the last one too new. -/
  writable_iff : 0 ≤ version ∧ version ≤ last ↔ ¬(preferred < least ∧ last < greatest)

/-- The version a client chooses is the one selected from the broker's range. -/
theorem Client.selected_chooseVersion {client : Client} {api : ApiKey}
    {preferred last least greatest version : Int16} (hpreferred : 0 ≤ preferred ∧ preferred ≤ last)
    (hrange : client.versions.get? api.code = some (least, greatest))
    (hversion : least ≤ version ∧ version ≤ greatest) (hwritable : 0 ≤ version ∧ version ≤ last) :
    Selected preferred last least greatest (client.chooseVersion api preferred).1 := by
  have hchosen : (client.chooseVersion api preferred).1 =
      if least ≤ preferred ∧ preferred ≤ greatest then preferred else greatest := by
    unfold chooseVersion
    rw [hrange]
    exact apply_ite Prod.fst _ _ _
  have hle : least ≤ greatest := Int16.le_trans hversion.1 hversion.2
  simp only [Int16.le_iff_toInt_le] at hpreferred hversion hwritable hle
  by_cases h : least ≤ preferred ∧ preferred ≤ greatest
  · rw [if_pos h] at hchosen
    rw [hchosen]
    refine ⟨h, (if_pos h).symm, ?_⟩
    simp only [Int16.le_iff_toInt_le, Int16.lt_iff_toInt_lt] at h ⊢
    omega
  · rw [if_neg h] at hchosen
    rw [hchosen]
    refine ⟨⟨Int16.le_iff_toInt_le.2 hle, Int16.le_refl _⟩, (if_neg h).symm, ?_⟩
    simp only [Int16.le_iff_toInt_le, Int16.lt_iff_toInt_lt] at h ⊢
    -- Above the last version that is writable there is only what is newer than the preferred one.
    omega

/-! ## Frames -/

/-- A text that fits a field of the plain style. -/
def Short (s : String) : Prop :=
  (Utf8.encode s).length ≤ 32767

/-- What fits a field of the plain style fits one of the compact style all the more. -/
theorem Short.exists_textField {s : String} (h : Short s) (compact : Bool) :
    ∃ bytes, Wire.textField compact s = .ok bytes := by
  have hfits : (Utf8.encode s).length ≤ Wire.Content.limit compact .text := by
    cases compact with
    | true => exact Nat.le_trans h (by decide)
    | false => exact h
  refine ⟨Wire.lengthBytes compact .text (Utf8.encode s).length ++ Utf8.encode s, ?_⟩
  exact bind_eq_ok_iff.2 ⟨_, Wire.lengthField_eq_ok_iff.2 ⟨hfits, rfl⟩, rfl⟩

namespace Request

variable {topic clientId : String} {request : Request} {version : Int16} {partition : Int32}
  {payload : List UInt8} {timestamp : Int64} {timeoutMillis correlationId : Int32}

/-- A version from 0 to the last is not refused. -/
theorem not_unsupported {last : Int16} (hversion : 0 ≤ version ∧ version ≤ last) :
    ¬(version < 0 ∨ last < version) := by
  rw [not_or, Int16.not_lt, Int16.not_lt]
  exact hversion

/-- The body of a request to write records, in a version that is not refused. -/
theorem bodyBytes_produce (hversion : 0 ≤ version ∧ version ≤ 11) (r : ProduceRequest) :
    (produce r).bodyBytes version = r.bytes version :=
  if_neg (not_unsupported hversion)

/-- The body of a request for metadata, in a version that is not refused. -/
theorem bodyBytes_metadata (hversion : 0 ≤ version ∧ version ≤ 12) (r : MetadataRequest) :
    (metadata r).bodyBytes version = r.bytes version :=
  if_neg (not_unsupported hversion)

/-- A request to write one record is refused only for its batch. -/
theorem exists_bodyBytes_record (htopic : Short topic) (hversion : 0 ≤ version ∧ version ≤ 11)
    (partition : Int32) (payload : List UInt8) (timestamp : Int64) (timeoutMillis : Int32) :
    ∃ around : List UInt8 → List UInt8,
      (produce (.single topic partition payload timestamp timeoutMillis)).bodyBytes version =
        (Wire.bytesField (9 ≤ version) (RecordBatch.single timestamp payload)).map around := by
  obtain ⟨name, hname⟩ := htopic.exists_textField (9 ≤ version)
  obtain ⟨first, hfirst⟩ :=
    Wire.exists_fieldIf_self (3 ≤ version) none (Wire.optionalTextField (9 ≤ version)) rfl
  rw [bodyBytes_produce hversion]
  simp only [ProduceRequest.bytes, ProduceRequest.single, hfirst, Wire.listField_singleton,
    TopicRecords.bytes, PartitionRecords.bytes, hname]
  -- The batch is written first of all that depends on the record, and the rest goes around it.
  cases Wire.bytesField (9 ≤ version) (RecordBatch.single timestamp payload) with
  | error fault => exact ⟨id, rfl⟩
  | ok batch => exact ⟨fun _ => _, rfl⟩

/-- A request for the listing of a short topic has a body in every version. -/
theorem exists_bodyBytes_listing (htopic : Short topic)
    (hversion : 0 ≤ version ∧ version ≤ 12) :
    ∃ body, (metadata (.of (some [topic]))).bodyBytes version = .ok body := by
  obtain ⟨name, hname⟩ := htopic.exists_textField (9 ≤ version)
  have hdefault (present default : Bool) :=
    Wire.exists_fieldIf_self present default (fun b => .ok (Wire.boolBytes b)) rfl
  obtain ⟨creation, hcreation⟩ := hdefault (4 ≤ version) true
  obtain ⟨cluster, hcluster⟩ := hdefault (8 ≤ version && version ≤ 10) false
  obtain ⟨operations, hoperations⟩ := hdefault (8 ≤ version) false
  rw [bodyBytes_metadata hversion]
  simp only [MetadataRequest.bytes, MetadataRequest.of, Wire.optionalListField,
    Wire.listField_singleton, MetadataRequest.topicBytes, Wire.optionalTextField, hname, hcreation,
    hcluster, hoperations]
  exact ⟨_, rfl⟩

/-- With a short client id there is a header. -/
theorem exists_headerBytes (request : Request) (version : Int16) (correlationId : Int32)
    (h : Short clientId) :
    ∃ header, request.headerBytes version correlationId clientId = .ok header := by
  obtain ⟨text, htext⟩ := h.exists_textField false
  rw [headerBytes, htext]
  exact ⟨_, rfl⟩

/-- With a short client id, a request has a frame exactly if it has a body. -/
theorem frame_eq_of_short (hclientId : Short clientId) (request : Request) (version : Int16)
    (correlationId : Int32) :
    ∃ around : List UInt8 → List UInt8, request.frame version correlationId clientId =
      ((request.bodyBytes version).map around).mapError .body := by
  obtain ⟨header, hheader⟩ := request.exists_headerBytes version correlationId hclientId
  refine ⟨fun body => Wire.bigEndian 4 (header ++ body).length ++ (header ++ body), ?_⟩
  rw [frame, hheader]
  cases request.bodyBytes version <;> rfl

/-- Metadata of a topic can be asked for in every version that the client can write. -/
theorem exists_frame_listing (htopic : Short topic) (hclientId : Short clientId)
    (hversion : 0 ≤ version ∧ version ≤ 12) (correlationId : Int32) :
    ∃ frame, (metadata (.of (some [topic]))).frame version correlationId clientId = .ok frame := by
  obtain ⟨around, hframe⟩ :=
    frame_eq_of_short hclientId (metadata (.of (some [topic]))) version correlationId
  obtain ⟨body, hbody⟩ := exists_bodyBytes_listing htopic hversion
  rw [hframe, hbody]
  exact ⟨_, rfl⟩

/-- So can a record be written, as long as the field of its batch can say how long the batch is. -/
theorem frame_record (htopic : Short topic) (hclientId : Short clientId)
    (hversion : 0 ≤ version ∧ version ≤ 11) (partition : Int32) (payload : List UInt8)
    (timestamp : Int64) (timeoutMillis correlationId : Int32) :
    let batch := RecordBatch.single timestamp payload
    let frame := (produce (.single topic partition payload timestamp timeoutMillis)).frame version
      correlationId clientId
    if batch.length ≤ Wire.Content.limit (9 ≤ version) .bytes then ∃ bytes, frame = .ok bytes
    else frame = .error (.body (.tooLong (9 ≤ version) .bytes batch.length)) := by
  intro batch frame
  obtain ⟨around, hframe⟩ := frame_eq_of_short hclientId
    (produce (.single topic partition payload timestamp timeoutMillis)) version correlationId
  obtain ⟨around', hbody⟩ :=
    exists_bodyBytes_record htopic hversion partition payload timestamp timeoutMillis
  rw [hbody, Wire.bytesField_eq] at hframe
  split
  · next hfits =>
    rw [if_pos hfits] at hframe
    exact ⟨_, hframe⟩
  · next hlong =>
    rw [if_neg hlong] at hframe
    exact hframe

/-- The longest record that a request can hold. Up to version 8 it is the field of its batch that
has no more room, and later it is the batch. -/
def longestRecord (version : Int16) : Nat :=
  if version < 9 then 2147483571 else 2147483583

/-- No request has room for a record that a batch has none for. -/
theorem longestRecord_le (version : Int16) : longestRecord version ≤ 2147483583 := by
  unfold longestRecord
  split <;> decide

/-- Of the records that have room in a batch. -/
theorem length_single_le_limit_iff (timestamp : Int64) (version : Int16)
    (hbatch : payload.length ≤ 2147483583) :
    (RecordBatch.single timestamp payload).length ≤ Wire.Content.limit (9 ≤ version) .bytes ↔
      payload.length ≤ longestRecord version := by
  have hle := RecordBatch.length_single_le timestamp hbatch
  unfold longestRecord
  by_cases hplain : version < 9
  · -- A batch that is just too long is that of a long record.
    rw [decide_eq_false (Int16.not_le.2 hplain), if_pos hplain, Wire.Content.limit]
    constructor
    · intro hfits
      refine Nat.le_of_not_lt fun hlong => ?_
      rw [RecordBatch.length_single_of_long timestamp (by omega) hbatch] at hfits
      omega
    · intro hfits
      omega
  · rw [decide_eq_true (Int16.not_lt.1 hplain), if_neg hplain, Wire.Content.limit]
    omega

/-- A record can be sent exactly if it is not too long. -/
theorem exists_frame_record_iff (htopic : Short topic) (hclientId : Short clientId)
    (hversion : 0 ≤ version ∧ version ≤ 11) (partition : Int32) (payload : List UInt8)
    (timestamp : Int64) (timeoutMillis correlationId : Int32) :
    (∃ request frame,
      ProduceRequest.build topic partition payload timestamp timeoutMillis = .ok request ∧
        (produce request).frame version correlationId clientId = .ok frame) ↔
      payload.length ≤ longestRecord version := by
  have hframe := frame_record htopic hclientId hversion partition payload timestamp timeoutMillis
    correlationId
  dsimp only at hframe
  constructor
  · rintro ⟨request, frame, hbuild, h⟩
    obtain ⟨hbatch, rfl⟩ := ProduceRequest.build_eq_ok_iff.1 hbuild
    refine (length_single_le_limit_iff timestamp version hbatch).1 ?_
    by_contra hlong
    rw [if_neg hlong, h] at hframe
    cases hframe
  · intro hlength
    have hbatch := Nat.le_trans hlength (longestRecord_le version)
    rw [if_pos ((length_single_le_limit_iff timestamp version hbatch).2 hlength)] at hframe
    obtain ⟨frame, h⟩ := hframe
    exact ⟨_, frame, ProduceRequest.build_eq_ok_iff.2 ⟨hbatch, rfl⟩, h⟩

/-- Out of the records that have room in a batch, a longer one is refused for the length of its
batch. -/
theorem frame_eq_tooLong_of_longer_record (htopic : Short topic) (hclientId : Short clientId)
    (hversion : 0 ≤ version ∧ version ≤ 11) (hbatch : payload.length ≤ 2147483583)
    (hlong : longestRecord version < payload.length) (partition : Int32) (timestamp : Int64)
    (timeoutMillis correlationId : Int32) :
    (produce (.single topic partition payload timestamp timeoutMillis)).frame version correlationId
      clientId = .error (.body (.tooLong false .bytes (payload.length + 76))) := by
  have hframe := frame_record htopic hclientId hversion partition payload timestamp timeoutMillis
    correlationId
  have hlimit := mt (length_single_le_limit_iff timestamp version hbatch).1 (Nat.not_le.2 hlong)
  dsimp only at hframe
  rw [if_neg hlimit] at hframe
  unfold longestRecord at hlong
  -- From version 9 on every record that has room in a batch can be sent.
  by_cases hplain : version < 9
  · rw [if_pos hplain] at hlong
    rw [hframe, decide_eq_false (Int16.not_le.2 hplain),
      RecordBatch.length_single_of_long timestamp (by omega) hbatch]
  · rw [if_neg hplain] at hlong
    omega

/-- In any other version no request has a frame. -/
theorem frame_eq_unsupported (hclientId : Short clientId)
    (hversion : ¬(0 ≤ version ∧ version ≤ request.lastVersion)) (correlationId : Int32) :
    request.frame version correlationId clientId = .error (.body .unsupportedVersion) := by
  obtain ⟨around, hframe⟩ := frame_eq_of_short hclientId request version correlationId
  have hunsupported : version < 0 ∨ request.lastVersion < version := by
    rw [not_and_or, Int16.not_le, Int16.not_le] at hversion
    exact hversion
  rw [hframe]
  unfold bodyBytes
  rw [if_pos hunsupported]
  rfl

end Request

/-- The fault of a batch that a request of the version has no room for. There is no such batch if
`fits` holds. -/
def FrameFault.IsLongBatch (version : Int16) (fits : Prop) (fault : FrameFault) : Prop :=
  ¬fits ∧ ∃ length, fault = .body (.tooLong (9 ≤ version) .bytes length)

/-- A record that is not too long has a frame, and another one has none for this reason alone. -/
theorem Request.isLongBatch_of_frame_record {topic clientId : String} {version : Int16}
    {partition : Int32} {payload : List UInt8} {timestamp : Int64}
    {timeoutMillis correlationId : Int32} {fault : FrameFault} (htopic : Short topic)
    (hclientId : Short clientId) (hversion : 0 ≤ version ∧ version ≤ 11)
    (h : (produce (.single topic partition payload timestamp timeoutMillis)).frame version
      correlationId clientId = .error fault) :
    fault.IsLongBatch version (payload.length ≤ longestRecord version) := by
  have hframe := frame_record htopic hclientId hversion partition payload timestamp timeoutMillis
    correlationId
  dsimp only at hframe
  rw [h] at hframe
  by_cases hfits : (RecordBatch.single timestamp payload).length ≤
      Wire.Content.limit (9 ≤ version) .bytes
  · rw [if_pos hfits] at hframe
    obtain ⟨bytes, hframe⟩ := hframe
    cases hframe
  · rw [if_neg hfits] at hframe
    cases hframe
    refine ⟨fun hlength => hfits ?_, _, rfl⟩
    exact (length_single_le_limit_iff timestamp version
      (Nat.le_trans hlength (longestRecord_le version))).2 hlength

/-- There is always a frame to ask for metadata. -/
theorem Request.isLongBatch_of_frame_listing {topic clientId : String} {version : Int16}
    {correlationId : Int32} {fault : FrameFault} (htopic : Short topic)
    (hclientId : Short clientId) (hversion : 0 ≤ version ∧ version ≤ 12)
    (h : (metadata (.of (some [topic]))).frame version correlationId clientId = .error fault) :
    fault.IsLongBatch version True := by
  obtain ⟨frame, hframe⟩ := exists_frame_listing htopic hclientId hversion correlationId
  rw [hframe] at h
  cases h

/-! ## Faults -/

/-- A fault has nothing to do with writing a request, or it is that of a request that cannot be
written for one of the reasons given, or comes of one. -/
def ClientFault.IsOther (reasons : FrameFault → Prop) : ClientFault → Prop
  | .unwritable fault => reasons fault
  | .during _ fault | .allAttemptsFailed _ fault => fault.IsOther reasons
  | _ => True

section Faults

variable {N : Type} (net : Network N) {reasons : FrameFault → Prop}

namespace Connection

/-- A question to the network fails with what a mishap is told as. -/
theorem failsWith_ask {α : Type} {late : ClientFault} {failed : TransportFault → ClientFault}
    (hlate : late.IsOther reasons) (hfailed : ∀ fault, (failed fault).IsOther reasons)
    (f : N → Except Mishap α × N) :
    FailsWith (ClientFault.IsOther reasons) (NetworkM.ask late failed f) := by
  refine .bind (.modifyGet f) fun result => ?_
  rcases result with (_ | fault) | a
  · exact .throw hlate
  · exact .throw (hfailed fault)
  · exact .pure a

/-- Opening a connection fails for other reasons than a frame. -/
theorem failsWith_dial (limit : Duration) (address : String) :
    FailsWith (ClientFault.IsOther reasons) (dial net limit address) := by
  unfold dial
  cases Address.parse address with
  | error fault => exact .throw trivial
  | ok target =>
    refine .bind .get fun n => .bind ?_ fun id => .bind (.modifyGet _) fun _ => .pure _
    apply failsWith_ask
    · trivial
    · exact fun _ => trivial

/-- So does trying the servers of a list, if the last fault so far is another one. -/
theorem failsWith_sweep (limit : Duration) (attempt : Nat) (servers : List String)
    {last : ClientFault} (hlast : last.IsOther reasons) :
    FailsWith (ClientFault.IsOther reasons) (sweep net limit attempt servers last) := by
  induction servers generalizing last with
  | nil => exact .throw hlast
  | cons server rest ih =>
    refine .tryCatch (.bind (failsWith_dial net limit server) fun connection => ?_) fun _ => ih
    exact .ite (.bind (.modifyGet _) fun _ => .pure _) (.pure _)

/-- So does trying the whole list again and again. -/
theorem failsWith_tryRounds (limit : Duration) (servers : List String) (rounds attempt : Nat)
    {last : ClientFault} (hlast : last.IsOther reasons) :
    FailsWith (ClientFault.IsOther reasons) (tryRounds net limit servers rounds attempt last) := by
  induction rounds generalizing attempt last with
  | zero => exact .throw hlast
  | succ rounds ih =>
    refine .tryCatch (failsWith_sweep net limit attempt servers hlast) fun fault hfault => ?_
    refine .ite (.throw_bind hfault _) (.bind (.modifyGet _) fun _ => ?_)
    exact .bind (.modifyGet _) fun _ => ih (attempt + 1) hfault

/-- So does finding a server that can be reached. -/
theorem failsWith_toAny (limit : Duration) (servers : List String) (attempts : Nat) :
    FailsWith (ClientFault.IsOther reasons) (toAny net limit servers attempts) :=
  .tryCatch (failsWith_tryRounds net limit servers attempts 1 trivial) fun _ hfault => .throw hfault

/-- An exchange has its frame already, and fails for other reasons. -/
theorem failsWith_roundTrip (limit : Duration) (connection : Connection) (api : ApiKey)
    (frame : List UInt8) :
    FailsWith (ClientFault.IsOther reasons) (roundTrip net limit connection api frame) := by
  unfold roundTrip
  refine .bind .get fun n => .bind ?wrote fun _ => .bind ?length fun length => .ite ?oversized ?rest
  case oversized => exact .throw_bind (by exact trivial) _
  all_goals
    apply failsWith_ask
    · trivial
    · exact fun _ => trivial

end Connection

namespace Client

/-- A client fails on the network with what the network fails with. -/
theorem failsWith_onNetwork {α : Type} {x : NetworkM N α}
    (h : FailsWith (ClientFault.IsOther reasons) x) :
    FailsWith (ClientFault.IsOther reasons) (ClientM.onNetwork x) := by
  intro s fault hfault
  rw [ClientM.outcome_onNetwork] at hfault
  exact h s.network fault hfault

/-- A result from elsewhere fails as its fault is told. -/
theorem failsWith_ofExcept {ε α : Type} {fault : ε → ClientFault}
    (h : ∀ e, (fault e).IsOther reasons) (result : Except ε α) :
    FailsWith (ClientFault.IsOther reasons) (ClientM.ofExcept fault result : ClientM N α) := by
  cases result with
  | error e => exact .throw (h e)
  | ok a => exact .pure a

/-- A closed client fails with that and nothing else. -/
theorem failsWith_ensureOpen :
    FailsWith (ClientFault.IsOther reasons) (ClientM.ensureOpen : ClientM N Unit) :=
  .bind (.bind .get fun _ => .pure _) fun _ => .ite (.throw trivial) (.pure _)

/-- A question to the client's memory never fails. -/
theorem failsWith_askClient {α : Type} (f : Client → α) :
    FailsWith (ClientFault.IsOther reasons) (ClientM.ask f : ClientM N α) :=
  .bind .get fun _ => .pure _

/-- Finding the first connection, or another in its place, fails for other reasons than a frame. -/
theorem failsWith_bootstrapConnection :
    FailsWith (ClientFault.IsOther reasons) (bootstrapConnection net) := by
  refine failsWith_ensureOpen.bind fun _ => (failsWith_askClient id).bind fun client => ?_
  refine .ite (.bind (.modifyGet _) fun _ => ?_) (failsWith_askClient _)
  refine (failsWith_onNetwork (Connection.failsWith_toAny net _ _ _)).bind fun connection => ?_
  exact .bind (.modifyGet _) fun _ => failsWith_askClient _

/-- So does opening the connection to a leader. -/
theorem failsWith_openLeader (nodeId : Int32) :
    FailsWith (ClientFault.IsOther reasons) (openLeader net nodeId) := by
  refine (failsWith_askClient id).bind fun client => ?_
  rcases client.brokers.get? nodeId with _ | address
  · exact .throw trivial
  refine (failsWith_onNetwork (Connection.failsWith_dial net _ address)).bind fun connection => ?_
  exact .bind (.modifyGet _) fun _ => .pure _

/-- So does finding the one that was kept from before. -/
theorem failsWith_leaderConnection (nodeId : Int32) :
    FailsWith (ClientFault.IsOther reasons) (leaderConnection net nodeId) := by
  refine failsWith_ensureOpen.bind fun _ => (failsWith_askClient id).bind fun client => ?_
  rcases client.connections.get? nodeId with _ | connection
  · exact failsWith_openLeader net nodeId
  · exact .ite (failsWith_openLeader net nodeId) (.pure _)

/-- Reading a response fails with what the broker answered, not with the frame sent. -/
theorem failsWith_readResponse {α : Type} (connection : Connection) (api : ApiKey)
    (version : Int16) (correlationId : Int32) (body : Wire.Reader α) (response : List UInt8) :
    FailsWith (ClientFault.IsOther reasons)
      (readResponse connection api version correlationId body response : ClientM N α) := by
  refine (failsWith_ofExcept (fun _ => by exact trivial) _).bind fun (got, rest) => ?_
  refine .ite (.bind (.modifyGet _) fun _ => .throw_bind (by exact trivial) _) ?_
  exact (failsWith_ofExcept (fun _ => by exact trivial) _).bind fun _ => .pure _

/-- A request can fail for many reasons. For want of a frame it fails only if it has none. -/
theorem isOther_of_call {α : Type} (connection : Connection) (request : Request)
    (version : Int16) (body : Wire.Reader α) {s : Session N}
    (hreasons : ∀ fault, request.frame version s.client.correlation s.client.config.clientId =
      .error fault → reasons fault)
    {fault : ClientFault}
    (h : (outcome (call net connection request version body) s).1 = .error fault) :
    fault.IsOther reasons := by
  rw [call, outcome_bind, outcome_takeCorrelation] at h
  dsimp only at h
  rw [outcome_bind, ClientM.outcome_report] at h
  dsimp only at h
  rw [outcome_bind, ClientM.outcome_ask] at h
  dsimp only at h
  rw [outcome_bind, ClientM.outcome_ofExcept] at h
  -- Up to here nothing can fail. The frame is the one place where a fault of the kind may come
  -- from.
  rcases hframe : request.frame version s.client.correlation s.client.config.clientId with
    fault' | frame
  · rw [hframe] at h
    cases h
    exact hreasons fault' hframe
  rw [hframe] at h
  have hrest : FailsWith (ClientFault.IsOther reasons) (do
      let response ← tryCatch
        (ClientM.onNetwork
          (Connection.roundTrip net s.client.config.limit connection request.api frame))
        fun fault => do
          ClientM.retire connection
          throw fault
      readResponse connection request.api version s.client.correlation body response) := by
    refine .bind (.tryCatch (failsWith_onNetwork (Connection.failsWith_roundTrip net _ _ _ _)) ?_)
      fun _ => failsWith_readResponse _ _ _ _ _ _
    exact fun fault hfault => .bind (.modifyGet _) fun _ => .throw hfault
  exact hrest _ fault h

/-- So can an undertaking with such a request, whatever is made of the response. -/
theorem isOther_of_undertaking {α β : Type} {undertaking : Undertaking} {connection : Connection}
    {request : Request} {version : Int16} {body : Wire.Reader α} {f : α → ClientM N β}
    {s : Session N} {fault : ClientFault}
    (h : (outcome (ClientM.during undertaking (call net connection request version body) >>= f)
      s).1 = .error fault)
    (hreasons : ∀ fault, request.frame version s.client.correlation s.client.config.clientId =
      .error fault → reasons fault)
    (hf : ∀ response, FailsWith (ClientFault.IsOther reasons) (f response)) :
    fault.IsOther reasons := by
  have hcall := @isOther_of_call N net reasons α connection request version body s hreasons
  rw [outcome_bind, ClientM.outcome_during] at h
  revert h hcall
  rcases outcome (call net connection request version body) s with ⟨fault' | response, s'⟩
  · intro h hcall
    cases h
    have hother : fault'.IsOther reasons := hcall rfl
    exact hother
  · exact fun h _ => hf response s' fault h

end Client

end Faults

/-! ## Operations -/

namespace Client

variable {N : Type}

/-- The requests among what is done: at most one, and in the version given. It has a frame if the
client can write the version, unless there is a batch in it that it has no room for. It is not
written at all otherwise. -/
def AsksIn (version last : Int16) (fits : Prop) (begun done : List Act) : Prop :=
  ∃ (attempts : List Attempt) (acts : List Act), attempts.length ≤ 1 ∧ done = begun ++ acts ∧
    acts.filter Act.isExchange = attempts.flatMap Attempt.acts ∧
    ∀ a ∈ attempts, a.version = version ∧
      (0 ≤ version ∧ version ≤ last → (∃ frame, a.fate.frame = .ok frame) ∨
        ∃ fault, a.fate = .unwritable fault ∧ fault.IsLongBatch version fits) ∧
      (¬(0 ≤ version ∧ version ≤ last) → a.fate = .unwritable (.body .unsupportedVersion))

/-- What comes of an operation that asks its question in the version given. -/
structure Asked {α : Type} (s : Session (Tape N)) (version last : Int16) (fits : Prop)
    (done : Except ClientFault α × Session (Tape N)) : Prop where
  /-- The question is asked in this version. -/
  asksIn : AsksIn version last fits s.network.acts done.2.network.acts
  /-- If the client can write the version, nothing fails for want of a frame, unless there is a
  batch that a request has no room for. -/
  faults : 0 ≤ version ∧ version ≤ last → ∀ fault, done.1 = .error fault →
    fault.IsOther (FrameFault.IsLongBatch version fits)

/-- A run without an exchange asks for nothing. -/
theorem asksIn_of_nil {version last : Int16} {fits : Prop} {begun done acts : List Act}
    (hdone : done = begun ++ acts) (hacts : acts.filter Act.isExchange = []) :
    AsksIn version last fits begun done :=
  ⟨[], acts, Nat.zero_le 1, hdone, hacts, nofun⟩

/-- Between two sessions a client has kept its settings and versions, and made no request. -/
def Prepares (s s' : Session (Tape N)) : Prop :=
  s'.client.config = s.client.config ∧ s'.client.versions = s.client.versions ∧
    ∃ acts, s'.network.acts = s.network.acts ++ acts ∧ acts.filter Act.isExchange = []

variable {s s' : Session (Tape N)}

/-- Nothing done is a preparation. -/
theorem Prepares.refl (s : Session (Tape N)) : Prepares s s :=
  ⟨rfl, rfl, [], (List.append_nil _).symm, rfl⟩

/-- Linking to a leader is a preparation: connections are opened and versions asked for. -/
theorem Linked.prepares {nodeId : Int32} {result : Except ClientFault Connection}
    (h : Linked s nodeId (result, s')) : Prepares s s' := by
  cases h with
  | closed _ => exact .refl s
  | held _ _ _ => exact .refl s
  | unknown _ _ => exact .refl s
  | failed _ _ hacts hopens _ => exact ⟨rfl, rfl, _, hacts, hopens.filter_isExchange⟩
  | opened _ _ hacts hopens _ => exact ⟨rfl, rfl, _, hacts, hopens.filter_isExchange⟩

/-- Bootstrapping is a preparation. -/
theorem Bootstrapped.prepares {result : Except ClientFault Connection}
    (h : Bootstrapped s (result, s')) : Prepares s s' := by
  cases h with
  | closed _ => exact .refl s
  | held _ _ => exact .refl s
  | failed _ hacts hopens => exact ⟨rfl, rfl, _, hacts, hopens.filter_isExchange⟩
  | opened _ hacts hopens => exact ⟨rfl, rfl, _, hacts, hopens.filter_isExchange⟩

/-- The version chosen depends on the client's memory of versions only. -/
theorem chooseVersion_congr {client client' : Client} (h : client'.versions = client.versions)
    (api : ApiKey) (preferred : Int16) :
    client'.chooseVersion api preferred = client.chooseVersion api preferred := by
  unfold chooseVersion
  rw [h]

/-- What becomes of a request depends on its version. -/
theorem Makes.frame_or_unwritable {client : Client} {a : Attempt} {fits : Prop}
    (h : client.Makes a) (hclientId : Short client.config.clientId)
    (hreasons : 0 ≤ a.version ∧ a.version ≤ a.request.lastVersion → ∀ fault,
      a.request.frame a.version a.correlationId client.config.clientId = .error fault →
        fault.IsLongBatch a.version fits) :
    (0 ≤ a.version ∧ a.version ≤ a.request.lastVersion → (∃ frame, a.fate.frame = .ok frame) ∨
      ∃ fault, a.fate = .unwritable fault ∧ fault.IsLongBatch a.version fits) ∧
      (¬(0 ≤ a.version ∧ a.version ≤ a.request.lastVersion) →
        a.fate = .unwritable (.body .unsupportedVersion)) := by
  -- The fate of an attempt tells whether there was a frame.
  rw [h.frame_eq] at hreasons
  constructor
  · intro hversion
    cases hfate : a.fate with
    | unwritable fault =>
      rw [hfate] at hreasons
      exact .inr ⟨fault, rfl, hreasons hversion fault rfl⟩
    | unsent frame | unanswered frame | oversized frame | cut frame | answered frame =>
      exact .inl ⟨frame, rfl⟩
  · intro hversion
    have hframe := h.frame_eq
    rw [Request.frame_eq_unsupported hclientId hversion] at hframe
    cases hfate : a.fate with
    | unwritable fault =>
      rw [hfate] at hframe
      cases hframe
      rfl
    | unsent | unanswered | oversized | cut | answered => rw [hfate] at hframe; cases hframe

/-- An attempt at a request, among things that are no requests. -/
theorem Makes.asksIn {client : Client} {a : Attempt} {version last : Int16} {fits : Prop}
    {begun done before after : List Act} (h : client.Makes a)
    (hclientId : Short client.config.clientId) (hversion : a.version = version)
    (hlast : a.request.lastVersion = last)
    (hreasons : 0 ≤ version ∧ version ≤ last → ∀ fault,
      a.request.frame version a.correlationId client.config.clientId = .error fault →
        fault.IsLongBatch version fits)
    (hdone : done = begun ++ (before ++ a.acts ++ after))
    (hbefore : before.filter Act.isExchange = []) (hafter : after.filter Act.isExchange = []) :
    AsksIn version last fits begun done := by
  subst hversion hlast
  have hframe := h.frame_or_unwritable hclientId hreasons
  refine ⟨[a], _, Nat.le_refl 1, hdone, ?_, List.forall_mem_singleton.2 ⟨rfl, hframe⟩⟩
  simp [hbefore, hafter, a.filter_isExchange_acts]

variable (net : Network N) {topic : String}

/-- That a partition has no leader is not a fault of a frame. -/
theorem isOther_of_leaderOf {client : Client} {partition : Int32} {fault : ClientFault}
    {reasons : FrameFault → Prop} (h : client.leaderOf topic partition = .error fault) :
    fault.IsOther reasons := by
  unfold leaderOf at h
  split at h
  · cases h; exact trivial
  split at h
  · cases h; exact trivial
  split at h
  · cases h
  · cases h; exact trivial

/-- A record fails for want of a frame only if it has none in the version selected. -/
theorem isOther_of_send {partition : Int32} {payload : List UInt8} {reasons : FrameFault → Prop}
    (hreasons : ∀ timestamp timeoutMillis correlationId fault,
      (Request.produce (.single topic partition payload timestamp timeoutMillis)).frame
        (s.client.chooseVersion .produce 3).1 correlationId s.client.config.clientId =
          .error fault → reasons fault) {fault : ClientFault}
    (h : (outcome (send net.recording topic partition payload) s).1 = .error fault) :
    fault.IsOther reasons := by
  rw [send, outcome_bind, ClientM.outcome_ask] at h
  dsimp only [id] at h
  rw [outcome_bind, ClientM.outcome_ofExcept] at h
  rcases hleader : s.client.leaderOf topic partition with fault' | leader
  · rw [hleader] at h
    cases h
    exact isOther_of_leaderOf hleader
  rw [hleader] at h
  dsimp only [mapError_ok] at h
  rw [outcome_bind] at h
  have hlinked := linked net s leader
  have hother : ∀ fault, (outcome (leaderConnection net.recording leader) s).1 = .error fault →
    fault.IsOther reasons := failsWith_leaderConnection net.recording leader s
  revert h hlinked hother
  rcases outcome (leaderConnection net.recording leader) s with ⟨fault' | connection, linked⟩
  · intro h _ hother
    cases h
    exact hother _ rfl
  intro h hlinked _
  dsimp only at h
  rw [outcome_bind, outcome_get] at h
  dsimp only at h
  rw [outcome_bind, ClientM.outcome_ofExcept, ProduceRequest.build] at h
  rcases hbatch : RecordBatch.fault? (net.recording.now linked.network) payload with _ | fault'
  rotate_left
  · rw [hbatch] at h
    cases h
    exact trivial
  rw [hbatch] at h
  dsimp only [mapError_ok] at h
  -- The client that has the connection selects the version that it would have selected before.
  obtain ⟨hconfig, hversions, -⟩ := hlinked.prepares
  rw [outcome_bind, outcome_supportedVersion, chooseVersion_congr hversions] at h
  dsimp only at h
  rw [← hconfig] at hreasons
  refine isOther_of_undertaking net.recording h (hreasons _ _ _) fun response => ?_
  exact failsWith_ofExcept (fun _ => by exact trivial) _

/-- So does a refresh. -/
theorem isOther_of_refresh {reasons : FrameFault → Prop}
    (hreasons : ∀ correlationId fault,
      (Request.metadata (.of (some [topic]))).frame (s.client.chooseVersion .metadata 1).1
        correlationId s.client.config.clientId = .error fault → reasons fault)
    {fault : ClientFault}
    (h : (outcome (refresh net.recording topic) s).1 = .error fault) : fault.IsOther reasons := by
  rw [refresh, outcome_bind, outcome_supportedVersion] at h
  dsimp only at h
  generalize (s.client.chooseVersion .metadata 1).2.foldl
    (fun t event => net.recording.emit event t) s.network = begun at h
  rw [outcome_bind] at h
  have hlinked := bootstrapped net ⟨s.client, begun⟩
  have hother : ∀ fault,
    (outcome (bootstrapConnection net.recording) ⟨s.client, begun⟩).1 = .error fault →
      fault.IsOther reasons := failsWith_bootstrapConnection net.recording ⟨s.client, begun⟩
  revert h hlinked hother
  rcases outcome (bootstrapConnection net.recording) ⟨s.client, begun⟩
    with ⟨fault' | connection, linked⟩
  · intro h _ hother
    cases h
    exact hother _ rfl
  intro h hlinked _
  dsimp only at h
  obtain ⟨hconfig, -⟩ := hlinked.prepares
  replace hconfig : linked.client.config = s.client.config := hconfig
  rw [← hconfig] at hreasons
  -- The response is judged without the network, and its faults are the broker's.
  refine isOther_of_undertaking net.recording h (hreasons _) fun response => ?_
  refine (failsWith_ofExcept (fun _ => by exact trivial) _).bind fun listing => ?_
  exact .bind (.modifyGet _) fun _ => .bind (.modifyGet _) fun _ => .modifyGet _

/-- A record is sent in the version selected. -/
theorem asked_send (htopic : Short topic) (hclientId : Short s.client.config.clientId)
    (partition : Int32) (payload : List UInt8) :
    Asked s (s.client.chooseVersion .produce 3).1 11
      (payload.length ≤ Request.longestRecord (s.client.chooseVersion .produce 3).1)
      (outcome (send net.recording topic partition payload) s) where
  asksIn := by
    have hsent := sent net topic partition payload s
    revert hsent
    generalize outcome (send net.recording topic partition payload) s = done
    intro hsent
    cases hsent with
    | unroutable _ => exact asksIn_of_nil (List.append_nil _).symm rfl
    | unlinked _ hlinked | unbatched _ hlinked =>
      obtain ⟨-, -, acts, hacts, hexchanges⟩ := hlinked.prepares
      exact asksIn_of_nil hacts hexchanges
    | @tried leader linked idle a timestamp result t _ hlinked hidle hmakes hrequest hacts _
        hversion =>
      obtain ⟨hconfig, hversions, before, hbefore, hexchanges⟩ := hlinked.prepares
      rw [chooseVersion_congr hversions] at hversion
      -- Only the attempt itself exchanges bytes: linking and reporting do not.
      have hquiet : (before ++ idle).filter Act.isExchange = [] := by
        rw [List.filter_append, hexchanges, hidle.filter_isExchange]
        rfl
      rw [← hconfig] at hclientId
      refine hmakes.asksIn hclientId hversion (hrequest ▸ rfl) ?_ ?_ hquiet List.filter_nil
      · intro hwritable fault hfault
        rw [hrequest] at hfault
        exact Request.isLongBatch_of_frame_record htopic hclientId hwritable hfault
      rw [hacts, hbefore]
      simp only [List.append_assoc, List.append_nil]
  faults hversion fault h := isOther_of_send net (fun _ _ _ _ =>
    Request.isLongBatch_of_frame_record htopic hclientId hversion) h

/-- Metadata is asked for in the version selected. -/
theorem asked_refresh (htopic : Short topic) (hclientId : Short s.client.config.clientId) :
    Asked s (s.client.chooseVersion .metadata 1).1 12 True
      (outcome (refresh net.recording topic) s) where
  asksIn := by
    have hrefreshed := refreshed net topic s
    revert hrefreshed
    generalize outcome (refresh net.recording topic) s = done
    intro hrefreshed
    -- A failed attempt and one that is answered differ only in what is reported afterwards.
    have htried {idle idle' : List Act} {begun t : Tape N} {linked : Session (Tape N)}
        {a : Attempt} (hidle : Idle idle) (hbegun : begun.acts = s.network.acts ++ idle)
        (hlinked : Bootstrapped ⟨s.client, begun⟩ (.ok a.connection, linked))
        (hmakes : linked.client.Makes a) (hrequest : a.request = .metadata (.of (some [topic])))
        (hversion : a.version = (s.client.chooseVersion .metadata 1).1)
        (hacts : t.acts = linked.network.acts ++ a.acts ++ idle') (hidle' : Idle idle') :
        AsksIn (s.client.chooseVersion .metadata 1).1 12 True s.network.acts t.acts := by
      obtain ⟨hconfig, -, before, hbefore, hexchanges⟩ := hlinked.prepares
      have hquiet : (idle ++ before).filter Act.isExchange = [] := by
        rw [List.filter_append, hexchanges, hidle.filter_isExchange]
        rfl
      replace hclientId : Short linked.client.config.clientId := hconfig ▸ hclientId
      refine hmakes.asksIn hclientId hversion (hrequest ▸ rfl) ?_ ?_ hquiet
        hidle'.filter_isExchange
      · intro hwritable fault hfault
        rw [hrequest] at hfault
        exact Request.isLongBatch_of_frame_listing htopic hclientId hwritable hfault
      rw [hacts, hbefore, hbegun]
      simp only [List.append_assoc]
    cases hrefreshed with
    | unlinked hidle hbegun hlinked =>
      obtain ⟨-, -, before, hbefore, hexchanges⟩ := hlinked.prepares
      refine asksIn_of_nil ((hbefore.trans (congrArg (· ++ before) hbegun)).trans
        (List.append_assoc _ _ _)) ?_
      rw [List.filter_append, hidle.filter_isExchange, hexchanges]
      rfl
    | failed hidle hbegun hlinked hmakes hrequest hacts hversion =>
      exact htried hidle hbegun hlinked hmakes hrequest hversion
        (hacts.trans (List.append_nil _).symm) .nil
    | adopted hidle hbegun hlinked hmakes hrequest hversion hacts hidle' =>
      exact htried hidle hbegun hlinked hmakes hrequest hversion hacts hidle'
  faults hversion fault h := isOther_of_refresh net (fun _ _ =>
    Request.isLongBatch_of_frame_listing htopic hclientId hversion) h

end Client

/-- What operations ask with. Whenever the cluster supports some version that the client can write,
the version selected is supported, namely the preferred one or, where that is not, the last one. The
client can write it, and then neither a refresh nor a record that is not too long fails for want of
a frame, and one that is too long for no other reason than that, unless everything that the cluster
supports is newer than the preferred version and the last of it newer than all that the client can
write. Then nothing is written at all. -/
theorem version_negotiated {N : Type} (net : Network N) (s : Session (Tape N)) (topic : String)
    (htopic : Short topic) (hclientId : Short s.client.config.clientId) :
    (∀ least greatest version,
      s.client.versions.get? ApiKey.produce.code = some (least, greatest) →
      least ≤ version ∧ version ≤ greatest → 0 ≤ version ∧ version ≤ 11 →
        let selected := (s.client.chooseVersion .produce 3).1
        Client.Selected 3 11 least greatest selected ∧ ∀ partition payload,
          Client.Asked s selected 11 (payload.length ≤ Request.longestRecord selected)
            (outcome (Client.send net.recording topic partition payload) s) ∧
          (outcome (Client.send net topic partition payload) s.base).1 =
            (outcome (Client.send net.recording topic partition payload) s).1) ∧
    ∀ least greatest version,
      s.client.versions.get? ApiKey.metadata.code = some (least, greatest) →
      least ≤ version ∧ version ≤ greatest → 0 ≤ version ∧ version ≤ 12 →
        let selected := (s.client.chooseVersion .metadata 1).1
        Client.Selected 1 12 least greatest selected ∧
          Client.Asked s selected 12 True (outcome (Client.refresh net.recording topic) s) ∧
          (outcome (Client.refresh net topic) s.base).1 =
            (outcome (Client.refresh net.recording topic) s).1 := by
  constructor
  · intro least greatest version hrange hversion hwritable selected
    refine ⟨Client.selected_chooseVersion (by decide) hrange hversion hwritable,
      fun partition payload => ⟨Client.asked_send net htopic hclientId partition payload, ?_⟩⟩
    rw [Client.agrees_send net topic partition payload s]
  · intro least greatest version hrange hversion hwritable selected
    refine ⟨Client.selected_chooseVersion (by decide) hrange hversion hwritable,
      Client.asked_refresh net htopic hclientId, ?_⟩
    rw [Client.agrees_refresh net topic s]

/-! ## In a cluster -/

namespace Cluster

/-- A cluster of one broker that supports the versions given, of records and of metadata. -/
def supporting (records metadata : Int16 × Int16) : Cluster :=
  { init true [(.up, ⟨"b", 1⟩)] with
    replies := [
      ⟨.versions ⟨0, [⟨0, records.1, records.2⟩, ⟨3, metadata.1, metadata.2⟩]⟩, 0, false⟩] }

end Cluster

/-- A client of a cluster that supports records up to version 2 and metadata from version 4 on. -/
theorem version_negotiated_with_neighbours :
    let config : ClientConfig := ⟨["b:1"], "c", .ofMillis 1000⟩
    let run := Client.recordedLifetime Cluster.network config [] (Cluster.supporting (0, 2) (4, 9))
    ∃ client, run.1 = .ok client ∧
      (client.chooseVersion .produce 3).1 = 2 ∧ (client.chooseVersion .metadata 1).1 = 9 ∧
      Client.Asked ⟨client, run.2⟩ 2 11 True
        (outcome (Client.send Cluster.network.recording "t" 0 [1]) ⟨client, run.2⟩) ∧
      Client.Asked ⟨client, run.2⟩ 9 12 True
        (outcome (Client.refresh Cluster.network.recording "t") ⟨client, run.2⟩) := by
  intro config run
  have hknown : run.1.toOption.map (fun client => (client.config.clientId,
      client.versions.get? ApiKey.produce.code, client.versions.get? ApiKey.metadata.code)) =
        some ("c", some (0, 2), some (4, 9)) := by decide +kernel
  rcases hrun : run.1 with fault | client
  · rw [hrun] at hknown
    cases hknown
  rw [hrun] at hknown
  obtain ⟨hclientId, hranges⟩ := Prod.mk.inj (Option.some.inj hknown)
  obtain ⟨hproduce, hmetadata⟩ := Prod.mk.inj hranges
  have hshort : Short client.config.clientId := by
    rw [hclientId]
    show (Utf8.encode "c").length ≤ 32767
    decide +kernel
  have htopic : Short "t" := by
    show (Utf8.encode "t").length ≤ 32767
    decide +kernel
  obtain ⟨hsend, hrefresh⟩ :=
    version_negotiated Cluster.network ⟨client, run.2⟩ "t" htopic hshort
  obtain ⟨hselected, hasked⟩ := hsend 0 2 0 hproduce (by decide) (by decide)
  obtain ⟨hselected', hasked', -⟩ := hrefresh 4 9 4 hmetadata (by decide) (by decide)
  have h2 : (client.chooseVersion .produce 3).1 = 2 := hselected.version_eq
  have h9 : (client.chooseVersion .metadata 1).1 = 9 := hselected'.version_eq
  have hfits : ([(1 : UInt8)].length ≤ Request.longestRecord 2) = True := eq_true (by decide)
  refine ⟨client, rfl, h2, h9, ?_, ?_⟩
  · exact hfits ▸ h2 ▸ (hasked 0 [1]).1
  · exact h9 ▸ hasked'

/-- A cluster that supports metadata in the versions 2 to 13, most of which the client can write,
is asked in the one that it cannot. In a version that it can write there are records that have room
in a batch, but not in a request. -/
theorem version_negotiated_past_last :
    let config : ClientConfig := ⟨["b:1"], "c", .ofMillis 1000⟩
    let connected :=
      Client.connect Cluster.network config (Cluster.supporting (4, 20) (2, 13))
    ((2 : Int16) ≤ 12 ∧ (12 : Int16) ≤ 13 ∧
      connected.1.toOption.map (fun client =>
        (client.versions.get? ApiKey.metadata.code, (client.chooseVersion .metadata 1).1,
          (outcome (Client.refresh Cluster.network "t") ⟨client, connected.2⟩).1)) =
        some (some (2, 13), 13,
          .error (.during (.refresh "t") (.unwritable (.body .unsupportedVersion))))) ∧
    ∃ request,
      ProduceRequest.build "t" 0 (List.replicate 2147483572 0x61) 0 1000 = .ok request ∧
      (Request.produce request).frame 3 1 "c" =
        .error (.body (.tooLong false .bytes 2147483648)) := by
  refine ⟨by decide +kernel, ?_⟩
  have hlength : (List.replicate 2147483572 (0x61 : UInt8)).length = 2147483572 :=
    List.length_replicate
  generalize List.replicate 2147483572 (0x61 : UInt8) = payload at hlength
  have hbatch : payload.length ≤ 2147483583 := by omega
  have hlong : Request.longestRecord 3 < payload.length := by
    rw [hlength]
    decide
  have hshort : Short "t" ∧ Short "c" := by
    unfold Short
    decide +kernel
  refine ⟨_, ProduceRequest.build_eq_ok_iff.2 ⟨hbatch, rfl⟩, ?_⟩
  rw [Request.frame_eq_tooLong_of_longer_record hshort.1 hshort.2 (by decide) hbatch hlong,
    hlength]

end KafkaCanary
