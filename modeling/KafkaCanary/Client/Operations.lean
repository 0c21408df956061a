import KafkaCanary.Client.Basic
import KafkaCanary.Host

/-!
# Operations of a Client

Connecting, refreshing metadata, sending a record, closing. A request is answered by the next
frame on the same connection, which has to carry the request's correlation id. A failure to
exchange the frames, or a foreign correlation id, retires the connection.
-/

namespace KafkaCanary

namespace Client

variable {N : Type}

/-- The correlation id of the next request. Every request takes one, also one that cannot be
written. -/
def takeCorrelation : ClientM N Int32 := do
  let n ← ClientM.ask (·.nextCorrelation)
  ClientM.update fun client => { client with nextCorrelation := n + 1 }
  return Int32.ofNat n.toNat

/-- The connection for questions about the cluster. A broken one is replaced, with one round over
the servers. -/
def bootstrapConnection (net : Network N) : ClientM N Connection := do
  ClientM.ensureOpen
  let client ← ClientM.ask id
  if client.isRetired client.bootstrap then
    ClientM.report net (.reconnecting client.bootstrap.address)
    let connection ← ClientM.onNetwork
      (Connection.toAny net client.config.limit client.config.servers 1)
    ClientM.update fun client => { client with bootstrap := connection }
  ClientM.ask (·.bootstrap)

/-- Open the connection to the broker of a number. -/
def openLeader (net : Network N) (nodeId : Int32) : ClientM N Connection := do
  let client ← ClientM.ask id
  match client.brokers.get? nodeId with
  | none => throw (.unknownBroker nodeId)
  | some address =>
    let connection ← ClientM.onNetwork (Connection.dial net client.config.limit address)
    ClientM.update fun client =>
      { client with connections := client.connections.insert nodeId connection }
    return connection

/-- The connection to the broker of a number. It is opened if there is none that can be used. -/
def leaderConnection (net : Network N) (nodeId : Int32) : ClientM N Connection := do
  ClientM.ensureOpen
  let client ← ClientM.ask id
  match client.connections.get? nodeId with
  | none => openLeader net nodeId
  | some connection =>
    if client.isRetired connection then openLeader net nodeId else return connection

/-- Read a response to the request with the given correlation id. -/
def readResponse {α : Type} (connection : Connection) (api : ApiKey) (version : Int16)
    (correlationId : Int32) (body : Wire.Reader α) (response : List UInt8) : ClientM N α := do
  let (got, rest) ← ClientM.ofExcept (.badHeader api)
    ((readResponseHeader api version).run response)
  if got ≠ correlationId then
    -- The answer to this request may still come, and would be taken for that to the next one.
    ClientM.retire connection
    throw (.foreignResponse connection.address correlationId got)
  let (result, _) ← ClientM.ofExcept (.badBody api) (body.run rest)
  return result

/-- Send a request over a connection and read the response. -/
def call {α : Type} (net : Network N) (connection : Connection) (request : Request)
    (version : Int16) (body : Wire.Reader α) : ClientM N α := do
  let correlationId ← takeCorrelation
  ClientM.report net (.requesting request.api connection.address correlationId version)
  let config ← ClientM.ask (·.config)
  let frame ← ClientM.ofExcept .unwritable
    (request.frame version correlationId config.clientId)
  let response ← tryCatch
    (ClientM.onNetwork (Connection.roundTrip net config.limit connection request.api frame))
    fun fault => do
      ClientM.retire connection
      throw fault
  readResponse connection request.api version correlationId body response

/-- Ask which versions the cluster supports. -/
def discoverVersions (net : Network N) : ClientM N Unit := do
  ClientM.report net .discovering
  let connection ← bootstrapConnection net
  let response ← call net connection (.versions ⟨"", ""⟩) 0 VersionsResponse.read
  if response.errorCode ≠ 0 then throw (.versionsRejected response.errorCode)
  let versions := Table.ofList (response.ranges.map fun r => (r.api, (r.least, r.greatest)))
  ClientM.update fun client => { client with versions := versions }
  ClientM.report net (.discovered versions.size)

/-- How many rounds over the servers a new client makes. -/
def connectAttempts : Nat := 10

/-- Connect to a cluster. -/
def connect (net : Network N) (config : ClientConfig) (n : N) : Except ClientFault Client × N :=
  if config.servers.isEmpty then (.error .noServers, n)
  else
    let n := net.emit (.connecting config.servers) n
    match (Connection.toAny net config.limit config.servers connectAttempts).run.run n with
    | (.error fault, n) => (.error fault, n)
    | (.ok connection, n) =>
      let n := net.emit (.bootstrapped connection.address) n
      match (discoverVersions net).run.run ⟨.init config connection, n⟩ with
      | (.error fault, s) => (.error fault, s.network)
      | (.ok (), s) => (.ok s.client, s.network)

/-- The version to use of an API. -/
def supportedVersion (net : Network N) (api : ApiKey) (preferred : Int16) : ClientM N Int16 := do
  let (version, events) ← ClientM.ask (·.chooseVersion api preferred)
  ClientM.reportAll net events
  return version

/-- Send one record to a partition of a topic, and find out where it was stored. -/
def send (net : Network N) (topic : String) (partition : Int32) (payload : List UInt8) :
    ClientM N Delivery := do
  let client ← ClientM.ask id
  let leader ← ClientM.ofExcept id (client.leaderOf topic partition)
  let connection ← leaderConnection net leader
  let timestamp := net.now (← get).network
  let request ← ClientM.ofExcept .unbatched
    (ProduceRequest.build topic partition payload timestamp client.config.limit.millis32)
  -- A send without a leader, a connection or a batch reports nothing about versions.
  let version ← supportedVersion net .produce 3
  let response ← ClientM.during (.produce partition topic)
    (call net connection (.produce request) version (ProduceResponse.read version))
  ClientM.ofExcept .notStored (response.delivery topic partition)

/-- Refresh the metadata of a topic. -/
def refresh (net : Network N) (topic : String) : ClientM N Unit := do
  let version ← supportedVersion net .metadata 1
  let connection ← bootstrapConnection net
  let response ← ClientM.during (.refresh topic)
    (call net connection (.metadata (.of (some [topic]))) version
      (MetadataResponse.read version))
  let listing ← ClientM.ofExcept .notListed (response.listing topic)
  ClientM.reportAll net (listing.events topic)
  let brokers := response.brokerTable
  let partitions := listing.leaderTable
  ClientM.report net (.metadataRead topic partitions.size brokers.size)
  ClientM.update fun client => client.adopt topic brokers partitions

/-- Close a connection, unless it is broken, and return the fault if that fails. A connection
that does not exist any more counts as closed. -/
def shutConnection (net : Network N) (connection : Connection) :
    ClientM N (Option ClientFault) := do
  if ← ClientM.ask (·.isRetired connection) then return none
  let s ← get
  let (result, network) := net.shutdown connection.id s.network
  set { s with network := network }
  match result with
  | .ok () | .error .notConnected => return none
  | .error transport =>
    let fault := ClientFault.unclosed connection.address transport
    ClientM.report net (.closeFailed fault.message)
    return some fault

/-- Close the client and its connections. The first fault is returned after all have been tried.
Closing a client again does nothing. -/
def close (net : Network N) : ClientM N Unit := do
  if ← ClientM.ask (·.closed) then
    ClientM.report net .clientAlreadyClosed
  else
    let client ← ClientM.ask id
    ClientM.update fun client => { client with closed := true, connections := .empty }
    -- The connection for questions about the cluster is closed last.
    let connections := client.connections.entries.map (·.2) ++ [client.bootstrap]
    let faults ← connections.mapM (shutConnection net)
    match faults.findSome? id with
    | none => return ()
    | some fault => throw fault

/-- Run an operation and return its failure in words. -/
def perform {α : Type} (action : ClientM N α) (s : Session N) : Except Failure α × Session N :=
  match action.run.run s with
  | (.ok a, s) => (.ok a, s)
  | (.error fault, s) => (.error fault.failure, s)

/-- What a canary can do through a client. -/
def host (net : Network N) : Host (Session N) where
  now s := net.now s.network
  elapsed s := net.elapsed s.network
  waitUntil time s := { s with network := net.waitUntil time s.network }
  emit event s := { s with network := net.emit event s.network }
  send topic partition payload := perform (send net topic partition payload)
  refresh topic := perform (refresh net topic)
  partitionCount topic s := (s.client.partitionCount topic, s)
  close := perform (close net)

end Client

end KafkaCanary
