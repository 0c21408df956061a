import KafkaCanary.Client.Fault
import KafkaCanary.Duration

/-!
# Connecting

Opening a connection to one server, or to the first one of several that can be reached. The
servers are tried in order, round after round, with a pause of a second after every round but the
last.
-/

namespace KafkaCanary

/-- A computation that uses the network and may fail. -/
abbrev NetworkM (N : Type) := ExceptT ClientFault (StateM N)

namespace NetworkM

variable {N : Type}

/-- Change the network. -/
def change (f : N → N) : NetworkM N Unit :=
  modify f

/-- Ask the network for something; `late` and `failed` name the faults if it is not done. -/
def ask {α : Type} (late : ClientFault) (failed : TransportFault → ClientFault)
    (f : N → Except Mishap α × N) : NetworkM N α := do
  match ← modifyGet f with
  | .ok a => return a
  | .error .late => throw late
  | .error (.failed fault) => throw (failed fault)

end NetworkM

/-- A connection to a broker. -/
structure Connection where
  /-- The number that the network gave the connection. -/
  id : Nat
  /-- The address of the broker. -/
  address : String
deriving DecidableEq, Repr

namespace Connection

variable {N : Type}

/-- Open a connection within the time given. -/
def dial (net : Network N) (limit : Duration) (address : String) : NetworkM N Connection := do
  match Address.parse address with
  | .error fault => throw (.unconnected address fault)
  | .ok target =>
    let deadline := net.elapsed (← get) + limit.millis
    let id ← NetworkM.ask (.connectLate address limit.millis) (.unconnected address)
      (net.connect target deadline)
    NetworkM.change (net.emit (.connected address))
    return ⟨id, address⟩

/-- Try servers in order until a connection is open. `last` is the fault before the first one. -/
def sweep (net : Network N) (limit : Duration) (attempt : Nat) :
    (servers : List String) → (last : ClientFault) → NetworkM N Connection
  | [], last => throw last
  | server :: rest, _ =>
    tryCatch
      (do
        let connection ← dial net limit server
        if 1 < attempt then NetworkM.change (net.emit (.connectedOnAttempt server attempt))
        return connection)
      (sweep net limit attempt rest)

/-- The pause between two rounds, in milliseconds. -/
def pauseMillis : Nat := 1000

/-- Try all servers in each of `rounds` rounds, the first of which is number `attempt`. -/
def tryRounds (net : Network N) (limit : Duration) (servers : List String) :
    (rounds : Nat) → (attempt : Nat) → (last : ClientFault) → NetworkM N Connection
  | 0, _, last => throw last
  | rounds + 1, attempt, last =>
    tryCatch (sweep net limit attempt servers last) fun fault => do
      if rounds = 0 then throw fault
      NetworkM.change (net.emit (.attemptFailed attempt fault.message))
      NetworkM.change fun n => net.waitUntil (net.elapsed n + pauseMillis) n
      tryRounds net limit servers rounds (attempt + 1) fault

/-- Connect to the first server that can be reached in at most `attempts` rounds. -/
def toAny (net : Network N) (limit : Duration) (servers : List String) (attempts : Nat) :
    NetworkM N Connection :=
  tryCatch (tryRounds net limit servers attempts 1 .noServers) fun fault =>
    throw (.allAttemptsFailed attempts fault)

/-- The greatest length of a response, in bytes. -/
def greatestResponse : Nat := 100 * 1024 * 1024

/-- Send a frame and receive the frame that comes back, without its length. -/
def roundTrip (net : Network N) (limit : Duration) (connection : Connection) (api : ApiKey)
    (frame : List UInt8) : NetworkM N (List UInt8) := do
  let ⟨id, address⟩ := connection
  let deadline := net.elapsed (← get) + limit.millis
  let late := ClientFault.requestLate api address limit.millis
  NetworkM.ask late (.unsent address) (net.write id frame deadline)
  let length ← NetworkM.ask late (.lengthUnread address) (net.read id 4 deadline)
  let length := Int32.ofNat (Wire.ofBigEndian length)
  if length < 0 ∨ greatestResponse < length.toInt.toNat then throw (.invalidLength length)
  NetworkM.ask late (.responseUnread address) (net.read id length.toInt.toNat deadline)

end Connection

end KafkaCanary
