import KafkaCanary.Proofs.Client.Outcome

/-!
# Recording what a client does

A record of what a client does to its network, and what comes of it. The record is kept by a network
that passes everything on and notes it down (`Network.recording`); that does not change what the
client does.

## Main results

* `agrees_refresh`, `agrees_send`, `agrees_close`: recording changes nothing about an operation.
-/

namespace KafkaCanary

/-! ## The record -/

/-- What a client does to its network, and what comes of it. -/
inductive Act where
  /-- An event was reported. -/
  | reported (event : Event)
  /-- A connection to an address was to be opened. -/
  | dialled (target : Address) (result : Except Mishap Nat)
  /-- Bytes were to be written to a connection. -/
  | wrote (id : Nat) (bytes : List UInt8) (result : Except Mishap Unit)
  /-- Bytes were to be read from a connection. -/
  | received (id count : Nat) (result : Except Mishap (List UInt8))
  /-- A connection was to be closed. -/
  | shut (id : Nat) (result : Except TransportFault Unit)

/-- A network with what was done to it. -/
structure Tape (N : Type) where
  network : N
  acts : List Act

/-- The network that notes down what is done to it. -/
def Network.recording {N : Type} (net : Network N) : Network (Tape N) where
  now t := net.now t.network
  elapsed t := net.elapsed t.network
  waitUntil time t := { t with network := net.waitUntil time t.network }
  emit event t := ⟨net.emit event t.network, t.acts ++ [.reported event]⟩
  connect target deadline t :=
    let (result, n) := net.connect target deadline t.network
    (result, ⟨n, t.acts ++ [.dialled target result]⟩)
  write id bytes deadline t :=
    let (result, n) := net.write id bytes deadline t.network
    (result, ⟨n, t.acts ++ [.wrote id bytes result]⟩)
  read id count deadline t :=
    let (result, n) := net.read id count deadline t.network
    (result, ⟨n, t.acts ++ [.received id count result]⟩)
  shutdown id t :=
    let (result, n) := net.shutdown id t.network
    (result, ⟨n, t.acts ++ [.shut id result]⟩)

namespace Network

variable {N : Type} (net : Network N)

/-- A dialling is passed on and noted with its result. -/
theorem recording_connect (target : Address) (deadline : Nat) (t : Tape N) :
    net.recording.connect target deadline t =
      let dialled := net.connect target deadline t.network
      (dialled.1, ⟨dialled.2, t.acts ++ [.dialled target dialled.1]⟩) :=
  rfl

/-- A writing is passed on and noted with its bytes and its result. -/
theorem recording_write (id : Nat) (bytes : List UInt8) (deadline : Nat) (t : Tape N) :
    net.recording.write id bytes deadline t =
      let wrote := net.write id bytes deadline t.network
      (wrote.1, ⟨wrote.2, t.acts ++ [.wrote id bytes wrote.1]⟩) :=
  rfl

/-- A reading is passed on and noted with its count and its result. -/
theorem recording_read (id count deadline : Nat) (t : Tape N) :
    net.recording.read id count deadline t =
      let received := net.read id count deadline t.network
      (received.1, ⟨received.2, t.acts ++ [.received id count received.1]⟩) :=
  rfl

/-- A closing is passed on and noted with its result. -/
theorem recording_shutdown (id : Nat) (t : Tape N) :
    net.recording.shutdown id t =
      let shut := net.shutdown id t.network
      (shut.1, ⟨shut.2, t.acts ++ [.shut id shut.1]⟩) :=
  rfl

end Network

/-- A session without the record. -/
def Session.base {N : Type} (s : Session (Tape N)) : Session N :=
  ⟨s.client, s.network.network⟩

/-! ## Recording changes nothing -/

section Connections

variable {N : Type} (net : Network N)

/-- Two changes of a network agree if one is the other with a record kept. -/
theorem agrees_change {f : Tape N → Tape N} {g : N → N} (h : ∀ t, g t.network = (f t).network) :
    Agrees Tape.network (NetworkM.change f) (NetworkM.change g) :=
  .modify h

/-- A report does the same with and without a record. -/
theorem agrees_emit (event : Event) :
    Agrees Tape.network (NetworkM.change (net.recording.emit event))
      (NetworkM.change (net.emit event)) :=
  agrees_change fun _ => rfl

/-- Questions agree if the networks answer alike. -/
theorem agrees_ask {α : Type} (late : ClientFault) (failed : TransportFault → ClientFault)
    {f : Tape N → Except Mishap α × Tape N} {g : N → Except Mishap α × N}
    (h : ∀ t, g t.network = ((f t).1, (f t).2.network)) :
    Agrees Tape.network (NetworkM.ask late failed f) (NetworkM.ask late failed g) := by
  have hask : Agrees Tape.network (modifyGet f : NetworkM (Tape N) (Except Mishap α))
      (modifyGet g) := by
    intro t
    show (Except.ok (g t.network).1, (g t.network).2) = _
    rw [h t]
    rfl
  refine hask.bind fun result => ?_
  rcases result with (_ | fault) | a
  · exact .throw _
  · exact .throw _
  · exact .pure a

/-- Opening a connection does the same with and without the record. -/
theorem agrees_dial (limit : Duration) (address : String) :
    Agrees Tape.network (Connection.dial net.recording limit address)
      (Connection.dial net limit address) := by
  unfold Connection.dial
  cases Address.parse address with
  | error fault => exact .throw _
  | ok target =>
    refine .get fun t => ?_
    exact ((agrees_ask _ _ fun _ => rfl).bind fun id =>
      (agrees_emit net _).bind fun _ => .pure _) t

/-- So does trying the servers of a list one after another. -/
theorem agrees_sweep (limit : Duration) (attempt : Nat) (servers : List String)
    (last : ClientFault) :
    Agrees Tape.network (Connection.sweep net.recording limit attempt servers last)
      (Connection.sweep net limit attempt servers last) := by
  induction servers generalizing last with
  | nil => exact .throw _
  | cons server rest ih =>
    refine .tryCatch ((agrees_dial net limit server).bind fun connection => ?_) fun _ => ih _
    exact .ite ((agrees_emit net _).bind fun _ => .pure _) (.pure _)

/-- So does trying the whole list again and again. -/
theorem agrees_tryRounds (limit : Duration) (servers : List String) (rounds attempt : Nat)
    (last : ClientFault) :
    Agrees Tape.network (Connection.tryRounds net.recording limit servers rounds attempt last)
      (Connection.tryRounds net limit servers rounds attempt last) := by
  induction rounds generalizing attempt last with
  | zero => exact .throw _
  | succ rounds ih =>
    refine .tryCatch (agrees_sweep net limit attempt servers last) fun fault => ?_
    refine .unless fun _ => (agrees_emit net _).bind fun _ => ?_
    exact (agrees_change fun _ => rfl).bind fun _ => ih (attempt + 1) fault

/-- So does finding a server that can be reached. -/
theorem agrees_toAny (limit : Duration) (servers : List String) (attempts : Nat) :
    Agrees Tape.network (Connection.toAny net.recording limit servers attempts)
      (Connection.toAny net limit servers attempts) :=
  .tryCatch (agrees_tryRounds net limit servers attempts 1 _) fun _ => .throw _

/-- So does writing a frame and reading what comes back. -/
theorem agrees_roundTrip (limit : Duration) (connection : Connection) (api : ApiKey)
    (frame : List UInt8) :
    Agrees Tape.network (Connection.roundTrip net.recording limit connection api frame)
      (Connection.roundTrip net limit connection api frame) := by
  unfold Connection.roundTrip
  refine .get fun t => ?_
  refine ((agrees_ask _ _ fun _ => rfl).bind fun _ => ?_) t
  refine (agrees_ask _ _ fun _ => rfl).bind fun length => ?_
  exact .unless fun _ => agrees_ask _ _ fun _ => rfl

end Connections

namespace Client

variable {N α : Type} (net : Network N)

/-- Agreement on the network is agreement of the client. -/
theorem agrees_onNetwork {x : NetworkM (Tape N) α} {y : NetworkM N α}
    (h : Agrees Tape.network x y) :
    Agrees Session.base (ClientM.onNetwork x) (ClientM.onNetwork y) := by
  intro s
  rw [ClientM.outcome_onNetwork, ClientM.outcome_onNetwork]
  show ((outcome y s.network.network).1,
    (⟨s.client, (outcome y s.network.network).2⟩ : Session N)) = _
  rw [h s.network]
  rfl

/-- A question to the client's memory does not meet the network. -/
theorem agrees_ask (f : Client → α) :
    Agrees Session.base (ClientM.ask f : ClientM (Tape N) α) (ClientM.ask f) :=
  fun _ => rfl

/-- An update of the client's memory does not meet the network. -/
theorem agrees_update (f : Client → Client) :
    Agrees Session.base (ClientM.update f : ClientM (Tape N) Unit) (ClientM.update f) :=
  fun _ => rfl

/-- A report of the client is passed on. -/
theorem agrees_report (event : Event) :
    Agrees Session.base (ClientM.report net.recording event) (ClientM.report net event) :=
  fun _ => rfl

/-- Several reports are passed on, one by one. -/
theorem agrees_reportAll (events : List Event) :
    Agrees Session.base (ClientM.reportAll net.recording events)
      (ClientM.reportAll net events) := by
  rintro ⟨client, t⟩
  suffices h : events.foldl (fun n e => net.emit e n) t.network =
      (events.foldl (fun t e => net.recording.emit e t) t).network from
    congrArg (fun n => (Except.ok (), (⟨client, n⟩ : Session N))) h
  induction events generalizing t with
  | nil => rfl
  | cons event events ih => exact ih (net.recording.emit event t)

/-- Whether a client is closed does not depend on the record. -/
theorem agrees_ensureOpen :
    Agrees Session.base (ClientM.ensureOpen : ClientM (Tape N) Unit) ClientM.ensureOpen :=
  (agrees_ask _).bind fun _ => .ite (.throw _) (.pure _)

/-- A result from elsewhere does not depend on the record. -/
theorem agrees_ofExcept {ε : Type} (fault : ε → ClientFault) (result : Except ε α) :
    Agrees Session.base (ClientM.ofExcept fault result : ClientM (Tape N) α)
      (ClientM.ofExcept fault result) := by
  cases result with
  | error e => exact .throw _
  | ok a => exact .pure a

/-- Agreement of an undertaking is that of what it does. -/
theorem agrees_during (undertaking : Undertaking) {x : ClientM (Tape N) α} {y : ClientM N α}
    (h : Agrees Session.base x y) :
    Agrees Session.base (ClientM.during undertaking x) (ClientM.during undertaking y) :=
  .tryCatch h fun _ => .throw _

/-- Finding the first connection, or another in its place, does not depend on the record. -/
theorem agrees_bootstrapConnection :
    Agrees Session.base (bootstrapConnection net.recording) (bootstrapConnection net) := by
  refine agrees_ensureOpen.bind fun _ => (agrees_ask id).bind fun client => ?_
  refine .ite ?_ (agrees_ask _)
  refine (agrees_report net _).bind fun _ => ?_
  refine (agrees_onNetwork (agrees_toAny net _ _ _)).bind fun connection => ?_
  exact (agrees_update _).bind fun _ => agrees_ask _

/-- Nor does opening the connection to a leader. -/
theorem agrees_openLeader (nodeId : Int32) :
    Agrees Session.base (openLeader net.recording nodeId) (openLeader net nodeId) := by
  refine (agrees_ask id).bind fun client => ?_
  cases client.brokers.get? nodeId with
  | none => exact .throw _
  | some address =>
    refine (agrees_onNetwork (agrees_dial net _ _)).bind fun connection => ?_
    exact (agrees_update _).bind fun _ => .pure _

/-- Nor does finding the one that was kept from before. -/
theorem agrees_leaderConnection (nodeId : Int32) :
    Agrees Session.base (leaderConnection net.recording nodeId) (leaderConnection net nodeId) := by
  refine agrees_ensureOpen.bind fun _ => (agrees_ask id).bind fun client => ?_
  cases client.connections.get? nodeId with
  | none => exact agrees_openLeader net nodeId
  | some connection => exact .ite (agrees_openLeader net nodeId) (.pure _)

/-- Reading a response, which judges bytes and asks nothing of the network. -/
theorem agrees_readResponse (connection : Connection) (api : ApiKey) (version : Int16)
    (correlationId : Int32) (body : Wire.Reader α) (response : List UInt8) :
    Agrees Session.base
      (readResponse connection api version correlationId body response : ClientM (Tape N) α)
      (readResponse connection api version correlationId body response) := by
  refine (agrees_ofExcept _ _).bind fun (got, rest) => ?_
  refine .ite ?_ ((agrees_ofExcept _ _).bind fun _ => .pure _)
  exact (agrees_update _).bind fun _ => (Agrees.throw _).bind fun _ =>
    (agrees_ofExcept _ _).bind fun _ => .pure _

/-- A request is made, and its response read, as without the record. -/
theorem agrees_call (connection : Connection) (request : Request) (version : Int16)
    (body : Wire.Reader α) :
    Agrees Session.base (call net.recording connection request version body)
      (call net connection request version body) := by
  have htake : Agrees Session.base (takeCorrelation : ClientM (Tape N) Int32) takeCorrelation :=
    (agrees_ask _).bind fun _ => (agrees_update _).bind fun _ => .pure _
  refine htake.bind fun correlationId => ?_
  refine (agrees_report net _).bind fun _ => (agrees_ask _).bind fun config => ?_
  refine (agrees_ofExcept _ _).bind fun frame => ?_
  refine Agrees.bind (.tryCatch (agrees_onNetwork (agrees_roundTrip net _ _ _ _)) fun fault => ?_)
    fun response => agrees_readResponse _ _ _ _ _ _
  exact (agrees_update _).bind fun _ => .throw _

/-- The version of a request is chosen, and reported on, as without the record. -/
theorem agrees_supportedVersion (api : ApiKey) (preferred : Int16) :
    Agrees Session.base (supportedVersion net.recording api preferred)
      (supportedVersion net api preferred) :=
  (agrees_ask _).bind fun _ => (agrees_reportAll net _).bind fun _ => .pure _

/-- A broker is asked for its versions as without the record. -/
theorem agrees_discoverVersions :
    Agrees Session.base (discoverVersions net.recording) (discoverVersions net) := by
  refine (agrees_report net _).bind fun _ => (agrees_bootstrapConnection net).bind fun _ => ?_
  refine (agrees_call net _ _ _ _).bind fun response => ?_
  exact .unless fun _ => (agrees_update _).bind fun _ => agrees_report net _

/-- Recording changes nothing about a sending. -/
theorem agrees_send (topic : String) (partition : Int32) (payload : List UInt8) :
    Agrees Session.base (send net.recording topic partition payload)
      (send net topic partition payload) := by
  refine (agrees_ask id).bind fun client => (agrees_ofExcept _ _).bind fun leader => ?_
  refine (agrees_leaderConnection net leader).bind fun connection => .get fun s => ?_
  refine ((agrees_ofExcept _ _).bind fun request => ?_) s
  refine (agrees_supportedVersion net _ _).bind fun version => ?_
  exact (agrees_during _ (agrees_call net _ _ _ _)).bind fun _ => agrees_ofExcept _ _

/-- Recording changes nothing about a refresh. -/
theorem agrees_refresh (topic : String) :
    Agrees Session.base (refresh net.recording topic) (refresh net topic) := by
  refine (agrees_supportedVersion net _ _).bind fun version => ?_
  refine (agrees_bootstrapConnection net).bind fun connection => ?_
  refine (agrees_during _ (agrees_call net _ _ _ _)).bind fun response => ?_
  refine (agrees_ofExcept _ _).bind fun listing => (agrees_reportAll net _).bind fun _ => ?_
  exact (agrees_report net _).bind fun _ => agrees_update _

/-- A connection is closed as without the record. -/
theorem agrees_shutConnection (connection : Connection) :
    Agrees Session.base (shutConnection net.recording connection)
      (shutConnection net connection) := by
  intro s
  rw [outcome_shutConnection, outcome_shutConnection]
  show (if s.client.isRetired connection then _ else _) = _
  by_cases h : s.client.isRetired connection
  · rw [if_pos h, if_pos h]
  rw [if_neg h, if_neg h]
  dsimp only [Network.recording, Session.base]
  cases shutResult connection.address (net.shutdown connection.id s.network.network).1 <;> rfl

/-- Recording changes nothing about an end. -/
theorem agrees_close : Agrees Session.base (close net.recording) (close net) := by
  refine (agrees_ask _).bind fun closed => .ite (agrees_report net _) ?_
  refine (agrees_ask id).bind fun client => (agrees_update _).bind fun _ => ?_
  refine Agrees.bind (.mapM (agrees_shutConnection net) _) fun faults => ?_
  cases faults.findSome? id with
  | none => exact .pure _
  | some fault => exact .throw _

end Client

end KafkaCanary
