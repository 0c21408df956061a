import KafkaCanary.Clock
import KafkaCanary.Network
import KafkaCanary.Protocol.RequestReader
import KafkaCanary.Protocol.ResponseWriter

/-!
# The Cluster

A world for rehearsals of the client: brokers that accept connections or not, and answer requests
from a list of replies, whichever of them a request reaches. Time is virtual and passes only in
waits. A cluster may have no route to it at all, and then every attempt to connect fails at once.
-/

namespace KafkaCanary

/-- How a broker treats attempts to connect. -/
inductive Mode where
  /-- It accepts them. -/
  | up
  /-- It refuses them. -/
  | down
  /-- It leaves them without an answer. -/
  | blackhole
deriving DecidableEq, Repr

/-- A broker of the cluster. -/
structure Broker where
  /-- How it treats attempts to connect. -/
  mode : Mode
  /-- Where it is found. -/
  address : Address
  /-- How many connections it has accepted. -/
  accepted : Nat
deriving DecidableEq, Repr

/-- What a reply holds. -/
inductive Content where
  /-- Nothing. -/
  | nothing
  /-- A response that names versions. -/
  | versions (response : VersionsResponse)
  /-- A response with metadata. -/
  | metadata (response : MetadataResponse)
  /-- A response that says where records were stored. -/
  | produce (response : ProduceResponse)
  /-- Any body, behind the right header. -/
  | body (bytes : List UInt8)
  /-- Any bytes. -/
  | frame (bytes : List UInt8)
deriving DecidableEq, Repr

/-- How a broker answers a request. -/
structure Reply where
  /-- What it sends. -/
  content : Content
  /-- How far the correlation id is off. -/
  correlationDelta : Int32
  /-- Whether it sends nothing more afterwards, for ever. -/
  hangup : Bool
deriving DecidableEq, Repr

/-- The reply to a request that no reply is planned for. -/
def Reply.unplanned : Reply :=
  ⟨.nothing, 0, true⟩

/-- The broker's end of a connection. -/
structure Link where
  /-- The broker, by its place in the cluster. -/
  broker : Nat
  /-- The number of the connection at that broker. -/
  number : Nat
  /-- The bytes on the way to the client. -/
  incoming : List UInt8
  /-- Whether the broker sends nothing more. -/
  ended : Bool
  /-- Whether the broker has broken the connection off. -/
  reset : Bool
deriving DecidableEq, Repr

/-- A request that a broker has received. -/
structure Receipt where
  /-- The broker. -/
  broker : Nat
  /-- The number of the connection at that broker. -/
  number : Nat
  /-- The frame. -/
  frame : List UInt8
deriving DecidableEq, Repr

/-- What people get to see of a program. -/
inductive Output where
  /-- An event. -/
  | event (event : Event)
  /-- A text. -/
  | text (text : String)
  /-- A text about a fault of the program. -/
  | complaint (text : String)

/-- A cluster of brokers. -/
structure Cluster where
  /-- Whether there is a route to the brokers. -/
  routed : Bool
  /-- The brokers. -/
  brokers : List Broker
  /-- The connections; the client knows them by their places in this list. -/
  links : List Link
  /-- The replies to come. -/
  replies : List Reply
  /-- The requests received, in order. -/
  receipts : List Receipt
  /-- The wall clock but for the time that has passed. -/
  clock : Clock
  /-- The time that has passed, in milliseconds. -/
  elapsed : Nat
  /-- What people have got to see, in order. -/
  outputs : List Output

namespace Reply

/-- The body of a reply to a request of the given version, if there is one to send. -/
def body? (content : Content) (version : Int16) : Option (List UInt8) :=
  match content with
  | .versions response => some response.bytes
  | .metadata response => (response.bytes version).toOption
  | .produce response => (response.bytes version).toOption
  | .body bytes => some bytes
  | .nothing | .frame _ => none

/-- The bytes of a reply to the request with the given header. -/
def bytes (reply : Reply) (header : RequestHeader) : List UInt8 :=
  match reply.content with
  | .frame bytes => bytes
  | content =>
    match body? content header.version with
    | none => []
    | some body =>
      let message :=
        responseHeaderBytes header.api header.version
          (header.correlationId + reply.correlationDelta) ++ body
      Wire.bigEndian 4 message.length ++ message

end Reply

namespace Cluster

/-- A cluster of brokers that answer in the modes given. -/
def init (routed : Bool) (brokers : List (Mode × Address)) : Cluster where
  routed := routed
  brokers := brokers.map fun (mode, address) => ⟨mode, address, 0⟩
  links := []
  replies := []
  receipts := []
  clock := ⟨0⟩
  elapsed := 0
  outputs := []

/-- The time on the wall clock. -/
def now (c : Cluster) : Int64 :=
  c.clock.now + Int64.ofNat c.elapsed

/-- Set the wall clock. -/
def setNow (c : Cluster) (now : Int64) : Cluster :=
  { c with clock := ⟨now - Int64.ofNat c.elapsed⟩ }

/-- Let time pass until `time`. -/
def waitUntil (time : Nat) (c : Cluster) : Cluster :=
  { c with elapsed := max c.elapsed time }

/-- Show something to people. -/
def display (output : Output) (c : Cluster) : Cluster :=
  { c with outputs := c.outputs ++ [output] }

/-- Let a broker accept a connection. -/
def accept (c : Cluster) (i : Nat) (broker : Broker) : Except Mishap Nat × Cluster :=
  (.ok c.links.length,
    { c with
      brokers := c.brokers.set i { broker with accepted := broker.accepted + 1 }
      links := c.links ++ [⟨i, broker.accepted, [], false, false⟩] })

/-- Open a connection to an address. -/
def connect (target : Address) (deadline : Nat) (c : Cluster) : Except Mishap Nat × Cluster :=
  if !c.routed then (.error (.failed .unreachable), c)
  else
    let i := c.brokers.findIdx (·.address = target)
    match c.brokers[i]? with
    | none => (.error (.failed .refused), c)
    | some broker =>
      match broker.mode with
      | .up => c.accept i broker
      | .down => (.error (.failed .refused), c)
      | .blackhole => (.error .late, c.waitUntil deadline)

/-- Change a connection. -/
def modifyLink (c : Cluster) (id : Nat) (f : Link → Link) : Cluster :=
  { c with links := c.links.modify id f }

/-- The header of the request in a frame. -/
def headerOf? (frame : List UInt8) : Option RequestHeader :=
  match RequestHeader.read.run (frame.drop 4) with
  | .ok (header, _) => header
  | .error _ => none

/-- Send a reply over a connection, if the broker still sends there. -/
def answer (reply : Reply) (frame : List UInt8) (link : Link) : Link :=
  if link.ended then link
  else
    let bytes := ((headerOf? frame).map reply.bytes).getD []
    { link with incoming := link.incoming ++ bytes, ended := reply.hangup }

/-- Receive the frame of a request and answer it with the next reply. -/
def receive (c : Cluster) (id : Nat) (link : Link) (frame : List UInt8) : Cluster :=
  let receipt : Receipt := ⟨link.broker, link.number, frame⟩
  let c' : Cluster := { c with replies := c.replies.tail, receipts := c.receipts ++ [receipt] }
  c'.modifyLink id (answer (c.replies.headD .unplanned) frame)

/-- Write a frame to a connection. -/
def write (id : Nat) (frame : List UInt8) (_deadline : Nat) (c : Cluster) :
    Except Mishap Unit × Cluster :=
  match c.links[id]? with
  | none => (.error (.failed .notConnected), c)
  | some link =>
    if link.reset then (.error (.failed .reset), c) else (.ok (), c.receive id link frame)

/-- Read bytes from a connection. -/
def read (id count deadline : Nat) (c : Cluster) : Except Mishap (List UInt8) × Cluster :=
  match c.links[id]? with
  | none => (.error (.failed .notConnected), c)
  | some link =>
    if count ≤ link.incoming.length then
      (.ok (link.incoming.take count),
        c.modifyLink id fun link => { link with incoming := link.incoming.drop count })
    else if link.reset then (.error (.failed .reset), c)
    else if link.ended then (.error (.failed .ended), c)
    else (.error .late, c.waitUntil deadline)

/-- What a client can do to a cluster. -/
def network : Network Cluster where
  now := now
  elapsed := elapsed
  waitUntil := waitUntil
  emit event := display (.event event)
  connect := connect
  write := write
  read := read
  shutdown _ c := (.ok (), c)

/-- Change all connections of a broker. -/
def modifyLinksOf (c : Cluster) (broker : Nat) (f : Link → Link) : Cluster :=
  { c with links := c.links.map fun link => if link.broker = broker then f link else link }

/-- Let a broker send nothing more on the connections it has. -/
def halfClose (c : Cluster) (broker : Nat) : Cluster :=
  c.modifyLinksOf broker fun link => { link with ended := true }

/-- Let a broker break off the connections it has. -/
def reset (c : Cluster) (broker : Nat) : Cluster :=
  c.modifyLinksOf broker fun link => { link with reset := true }

/-- Change how a broker treats attempts to connect. -/
def setMode (c : Cluster) (broker : Nat) (mode : Mode) : Cluster :=
  { c with brokers := c.brokers.modify broker fun b => { b with mode := mode } }

end Cluster

/-- The record batch of one record without the fields that differ from run to run: its checksum
and its times are zero. -/
def RecordBatch.blank (batch : List UInt8) : List UInt8 :=
  let zeros := fun n => List.replicate n (0 : UInt8)
  batch.take 17 ++ zeros 4 ++ (batch.drop 21).take 6 ++ zeros 16 ++ batch.drop 43

/-- A request without the fields that differ from run to run. -/
def Request.blank : Request → Request
  | .produce r =>
    .produce { r with topics := r.topics.map fun t =>
      { t with partitions := t.partitions.map fun p =>
        { p with records := RecordBatch.blank p.records } } }
  | request => request

/-- The frame of a request without the fields that differ from run to run. -/
def Receipt.blankFrame (receipt : Receipt) : List UInt8 :=
  match Request.ofFrame? receipt.frame with
  | none => receipt.frame
  | some (header, request) =>
    match request.blank.frame header.version header.correlationId header.clientId with
    | .ok frame => frame
    | .error _ => receipt.frame

end KafkaCanary
