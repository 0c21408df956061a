import KafkaCanary.Proofs.Client.Recording
import KafkaCanary.Proofs.Protocol.Frames

/-!
# Attempts

A request that a client makes, and what becomes of it. The attempt decides everything that is done
to the network for the request (`Attempt.acts`), whether its connection is used again
(`Attempt.retires`), and which answer is made of the response (`Attempt.Answers`).

## Main results

* `Client.calls_call`: a call makes one attempt, and returns only what answers it;
* `Request.exists_of_frame_eq_ok`: every frame carries the correlation id of its request.
-/

namespace KafkaCanary

/-! ## Frames -/

/-- A frame begins with its length, the API, the version and the correlation id. -/
theorem Request.exists_of_frame_eq_ok {request : Request} {version : Int16}
    {correlationId : Int32} {clientId : String} {frame : List UInt8}
    (h : request.frame version correlationId clientId = .ok frame) :
    ∃ length rest, frame = Wire.bigEndian 4 length ++ (Wire.int16Bytes request.api.code ++
      (Wire.int16Bytes version ++ (Wire.int32Bytes correlationId ++ rest))) := by
  obtain ⟨header, body, hheader, -, rfl⟩ := Request.exists_header_body_of_frame h
  obtain ⟨text, -, hheader⟩ := bind_eq_ok_iff.1 hheader
  cases hheader
  simp only [List.append_assoc]
  exact ⟨_, _, rfl⟩

/-- The length that stands before a message. -/
def announced (length : List UInt8) : Int32 :=
  Int32.ofNat (Wire.ofBigEndian length)

/-- Whether a message of the length announced is received. -/
def Fits (length : List UInt8) : Prop :=
  0 ≤ announced length ∧ (announced length).toInt.toNat ≤ Connection.greatestResponse

/-! ## What becomes of a request -/

/-- What becomes of a request. -/
inductive Fate where
  /-- It has no frame. -/
  | unwritable (fault : FrameFault)
  /-- The frame is not written. -/
  | unsent (frame : List UInt8) (mishap : Mishap)
  /-- No response begins. -/
  | unanswered (frame : List UInt8) (mishap : Mishap)
  /-- The response announces a length that is out of bounds. -/
  | oversized (frame length : List UInt8)
  /-- The response does not arrive in full. -/
  | cut (frame length : List UInt8) (mishap : Mishap)
  /-- The response arrives. -/
  | answered (frame length message : List UInt8)

namespace Fate

/-- The frame, unless the request has none. -/
def frame : Fate → Except FrameFault (List UInt8)
  | unwritable fault => .error fault
  | unsent frame _ | unanswered frame _ | oversized frame _ | cut frame _ _ | answered frame _ _ =>
    .ok frame

/-- What is done to the network over a connection. -/
def acts (id : Nat) : Fate → List Act
  | unwritable _ => []
  | unsent frame mishap => [.wrote id frame (.error mishap)]
  | unanswered frame mishap => [.wrote id frame (.ok ()), .received id 4 (.error mishap)]
  | oversized frame length => [.wrote id frame (.ok ()), .received id 4 (.ok length)]
  | cut frame length mishap =>
    [.wrote id frame (.ok ()), .received id 4 (.ok length),
      .received id (announced length).toInt.toNat (.error mishap)]
  | answered frame length message =>
    [.wrote id frame (.ok ()), .received id 4 (.ok length),
      .received id (announced length).toInt.toNat (.ok message)]

/-- Whether the length announced is treated as it should be. -/
def Bounded : Fate → Prop
  | oversized _ length => ¬Fits length
  | cut _ length _ | answered _ length _ => Fits length
  | _ => True

/-- The response, if it arrives. -/
def message? : Fate → Option (List UInt8)
  | answered _ _ message => some message
  | _ => none

theorem exists_of_message? {fate : Fate} {message : List UInt8}
    (h : fate.message? = some message) : ∃ frame length, fate = .answered frame length message := by
  cases fate with
  | answered frame length message => cases h; exact ⟨frame, length, rfl⟩
  | unwritable | unsent | unanswered | oversized | cut => cases h

end Fate

/-- A request that was made, and what became of it. -/
structure Attempt where
  request : Request
  version : Int16
  correlationId : Int32
  connection : Connection
  fate : Fate

namespace Attempt

/-- Everything that is done to the network for a request. -/
def acts (a : Attempt) : List Act :=
  .reported (.requesting a.request.api a.connection.address a.correlationId a.version) ::
    a.fate.acts a.connection.id

/-- The correlation id in a response, and what follows its header. -/
def header (a : Attempt) (message : List UInt8) : Except Wire.DecodeFault (Int32 × List UInt8) :=
  (readResponseHeader a.request.api a.version).run message

/-- Whether a response carries the correlation id of another request. -/
def isForeign (a : Attempt) (message : List UInt8) : Bool :=
  match a.header message with
  | .ok (got, _) => got ≠ a.correlationId
  | .error _ => false

/-- Whether the connection is not used again: a frame was to be written, and no response to it
arrived, only a part of one, or one to another request. -/
def retires (a : Attempt) : Bool :=
  match a.fate.frame, a.fate.message? with
  | .error _, _ => false
  | .ok _, none => true
  | .ok _, some message => a.isForeign message

/-- An answer is read from a response that arrived in full and carries the correlation id of the
request. -/
def Answers {α : Type} (a : Attempt) (body : Wire.Reader α) (answer : α) : Prop :=
  ∃ frame length message rest rest', a.fate = .answered frame length message ∧
    a.header message = .ok (a.correlationId, rest) ∧ body.run rest = .ok (answer, rest')

end Attempt

namespace Client

/-- The correlation id of the next request. -/
def correlation (client : Client) : Int32 :=
  Int32.ofNat client.nextCorrelation.toNat

/-- A client after a request. -/
def after (client : Client) (a : Attempt) : Client :=
  { client with
    nextCorrelation := client.nextCorrelation + 1
    retired := if a.retires then a.connection.id :: client.retired else client.retired }

/-- An attempt that a client can make. -/
structure Makes (client : Client) (a : Attempt) : Prop where
  correlationId_eq : a.correlationId = client.correlation
  frame_eq : a.request.frame a.version a.correlationId client.config.clientId = a.fate.frame
  bounded : a.fate.Bounded

variable {N α : Type} (net : Network N)

/-- A computation that makes one attempt for a request, and returns only what answers it. -/
def Calls (x : ClientM (Tape N) α) (connection : Connection) (request : Request)
    (version : Int16) (body : Wire.Reader α) : Prop :=
  ∀ s, ∃ a : Attempt, a.connection = connection ∧ a.request = request ∧ a.version = version ∧
    s.client.Makes a ∧ (outcome x s).2.client = s.client.after a ∧
    (outcome x s).2.network.acts = s.network.acts ++ a.acts ∧
    ∀ answer, (outcome x s).1 = .ok answer → a.Answers body answer

/-- A round trip is the fate of a frame. -/
theorem exists_fate_of_roundTrip (limit : Duration) (connection : Connection) (api : ApiKey)
    (frame : List UInt8) (t : Tape N) :
    ∃ fate : Fate, fate.frame = .ok frame ∧ fate.Bounded ∧
      (outcome (Connection.roundTrip net.recording limit connection api frame) t).2.acts =
        t.acts ++ fate.acts connection.id ∧
      (outcome (Connection.roundTrip net.recording limit connection api frame) t).1.toOption =
        fate.message? := by
  obtain ⟨id, address⟩ := connection
  -- The cases are the points at which a round trip can stop, in order.
  unfold Connection.roundTrip
  rw [outcome_bind, outcome_get]
  dsimp only
  rw [outcome_bind, NetworkM.outcome_ask, Network.recording_write]
  rcases net.write id frame (net.recording.elapsed t + limit.millis) t.network
    with ⟨mishap | ⟨⟩, n⟩
  · exact ⟨.unsent frame mishap, rfl, trivial, rfl, rfl⟩
  dsimp only [mapError_ok]
  rw [outcome_bind, NetworkM.outcome_ask, Network.recording_read]
  dsimp only
  rcases net.read id 4 (net.recording.elapsed t + limit.millis) n with ⟨mishap | length, n⟩
  · exact ⟨.unanswered frame mishap, rfl, trivial, List.append_assoc _ _ _, rfl⟩
  dsimp only [mapError_ok]
  by_cases hlength : Int32.ofNat (Wire.ofBigEndian length) < 0 ∨
      Connection.greatestResponse < (Int32.ofNat (Wire.ofBigEndian length)).toInt.toNat
  · rw [if_pos hlength, outcome_bind, outcome_throw]
    refine ⟨.oversized frame length, rfl, ?_, List.append_assoc _ _ _, rfl⟩
    rintro ⟨hnonneg, hle⟩
    exact hlength.elim (Int32.not_lt.2 hnonneg) (Nat.not_lt.2 hle)
  have hfits : Fits length := by
    rw [not_or] at hlength
    exact ⟨Int32.not_lt.1 hlength.1, Nat.not_lt.1 hlength.2⟩
  rw [if_neg hlength, NetworkM.outcome_ask, Network.recording_read]
  dsimp only
  rcases net.read id (Int32.ofNat (Wire.ofBigEndian length)).toInt.toNat
    (net.recording.elapsed t + limit.millis) n with ⟨mishap | message, n⟩
  · refine ⟨.cut frame length mishap, rfl, hfits, ?_, rfl⟩
    rw [List.append_assoc, List.append_assoc]
    rfl
  · refine ⟨.answered frame length message, rfl, hfits, ?_, rfl⟩
    rw [List.append_assoc, List.append_assoc]
    rfl

theorem outcome_takeCorrelation (s : Session N) :
    outcome takeCorrelation s =
      (.ok s.client.correlation,
        ⟨{ s.client with nextCorrelation := s.client.nextCorrelation + 1 }, s.network⟩) :=
  rfl

theorem client_and_answer_of_readResponse (a : Attempt) (body : Wire.Reader α)
    (message : List UInt8) (s : Session N) :
    (outcome (readResponse a.connection a.request.api a.version a.correlationId body message) s).2 =
        ⟨{ s.client with retired := if a.isForeign message then
            a.connection.id :: s.client.retired else s.client.retired }, s.network⟩ ∧
      ∀ answer, (outcome (readResponse a.connection a.request.api a.version a.correlationId body
          message) s).1 = .ok answer →
        ∃ rest rest', a.header message = .ok (a.correlationId, rest) ∧
          body.run rest = .ok (answer, rest') := by
  have hheader : (readResponseHeader a.request.api a.version).run message = a.header message := rfl
  rw [readResponse, outcome_bind, ClientM.outcome_ofExcept, hheader, Attempt.isForeign]
  rcases a.header message with fault | ⟨got, rest⟩
  · exact ⟨rfl, nofun⟩
  dsimp only [mapError_ok]
  by_cases hgot : got = a.correlationId
  · subst hgot
    rw [if_neg (fun h => h rfl), outcome_bind, ClientM.outcome_ofExcept]
    rcases hbody : body.run rest with fault | ⟨answer, rest'⟩
    · exact ⟨by simp, nofun⟩
    · refine ⟨by simp, ?_⟩
      rintro _ ⟨⟩
      exact ⟨rest, rest', rfl, hbody⟩
  · rw [if_pos hgot]
    exact ⟨by simp [hgot]; rfl, nofun⟩

/-- A call makes one attempt, and returns only what answers it. -/
theorem calls_call (connection : Connection) (request : Request) (version : Int16)
    (body : Wire.Reader α) :
    Calls (call net.recording connection request version body) connection request version body := by
  intro s
  rw [call, outcome_bind, outcome_takeCorrelation]
  dsimp only
  rw [outcome_bind, ClientM.outcome_report]
  dsimp only
  rw [outcome_bind, ClientM.outcome_ask]
  dsimp only
  rw [outcome_bind, ClientM.outcome_ofExcept]
  rcases hframe : request.frame version s.client.correlation s.client.config.clientId
    with fault | frame
  · exact ⟨⟨request, version, s.client.correlation, connection, .unwritable fault⟩,
      rfl, rfl, rfl, ⟨rfl, hframe, trivial⟩, rfl, rfl, nofun⟩
  dsimp only [mapError_ok]
  -- The connection is retired before the fault of a round trip is passed on.
  obtain ⟨fate, hfate, hbounded, hacts, hmessage⟩ := exists_fate_of_roundTrip net
    s.client.config.limit connection request.api frame
    (net.recording.emit
      (.requesting request.api connection.address s.client.correlation version) s.network)
  rw [outcome_bind, outcome_tryCatch, ClientM.outcome_onNetwork]
  dsimp only
  let a : Attempt := ⟨request, version, s.client.correlation, connection, fate⟩
  refine ⟨a, rfl, rfl, rfl, ⟨rfl, hframe.trans hfate.symm, hbounded⟩, ?_⟩
  have hacts : (outcome (Connection.roundTrip net.recording s.client.config.limit connection
      request.api frame) _).2.acts = s.network.acts ++ a.acts :=
    hacts.trans (List.append_assoc _ _ _)
  revert hacts hmessage
  rcases outcome (Connection.roundTrip net.recording s.client.config.limit connection
    request.api frame) _ with ⟨fault | message, t⟩
  · intro hmessage hacts
    have hretires : a.retires = true := by
      rw [Attempt.retires, hfate, ← hmessage]
      rfl
    refine ⟨?_, hacts, nofun⟩
    rw [after, hretires]
    rfl
  · intro hmessage hacts
    have hretires : a.retires = a.isForeign message := by
      rw [Attempt.retires, hfate, ← hmessage]
      rfl
    obtain ⟨hclient, hanswer⟩ := client_and_answer_of_readResponse a body message
      ⟨{ s.client with nextCorrelation := s.client.nextCorrelation + 1 }, t⟩
    refine ⟨?_, ?_, fun answer h => ?_⟩
    · rw [after, hretires]
      exact congrArg Session.client hclient
    · exact (congrArg (fun s : Session (Tape N) => s.network.acts) hclient).trans hacts
    · obtain ⟨rest, rest', hheader, hbody⟩ := hanswer answer h
      obtain ⟨frame, length, hfate⟩ := Fate.exists_of_message? hmessage.symm
      exact ⟨frame, length, message, rest, rest', hfate, hheader, hbody⟩

namespace Calls

variable {x : ClientM (Tape N) α} {connection : Connection} {request : Request} {version : Int16}
  {body : Wire.Reader α}

theorem during (h : Calls x connection request version body) (undertaking : Undertaking) :
    Calls (ClientM.during undertaking x) connection request version body := by
  intro s
  rw [ClientM.outcome_during]
  obtain ⟨a, hconnection, hrequest, hversion, hmakes, hclient, hacts, hanswer⟩ := h s
  exact ⟨a, hconnection, hrequest, hversion, hmakes, hclient, hacts, fun answer hresult =>
    hanswer answer (mapError_eq_ok_iff.1 hresult)⟩

/-- What follows an attempt begins with an answer to it, or does not begin. -/
theorem bind {β : Type} (hx : Calls x connection request version body)
    {P : Except ClientFault β × Session (Tape N) → Prop} {f : α → ClientM (Tape N) β}
    {s : Session (Tape N)}
    (h : ∀ (a : Attempt) (t : Tape N), a.connection = connection → a.request = request →
      a.version = version → s.client.Makes a → t.acts = s.network.acts ++ a.acts →
      (∀ fault, P (.error fault, ⟨s.client.after a, t⟩)) ∧
        ∀ answer, a.Answers body answer → P (outcome (f answer) ⟨s.client.after a, t⟩)) :
    P (outcome (x >>= f) s) := by
  rw [outcome_bind]
  obtain ⟨a, hconnection, hrequest, hversion, hmakes, hclient, hacts, hanswer⟩ := hx s
  revert hclient hacts hanswer
  rcases outcome x s with ⟨fault | answer, ⟨client, t⟩⟩
  · rintro rfl hacts -
    exact (h a t hconnection hrequest hversion hmakes hacts).1 fault
  · rintro rfl hacts hanswer
    exact (h a t hconnection hrequest hversion hmakes hacts).2 answer (hanswer answer rfl)

end Calls

end Client

end KafkaCanary
