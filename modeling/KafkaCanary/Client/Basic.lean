import KafkaCanary.Client.Connect

/-!
# Clients

The state of a client of a Kafka cluster: one connection for questions about the cluster, one for
each broker that leads a partition, and what the cluster has said about itself. A connection that
is broken, or out of step with its requests, is never used again.
-/

namespace KafkaCanary

/-- The settings of a client. -/
structure ClientConfig where
  /-- The servers to start with. -/
  servers : List String
  /-- The client id. -/
  clientId : String
  /-- The longest wait for a connection or a response. -/
  limit : Duration
deriving DecidableEq, Repr

/-- The state of a client. -/
structure Client where
  /-- The settings. -/
  config : ClientConfig
  /-- The correlation id of the next request, before it is cut to 32 bits. -/
  nextCorrelation : UInt64
  /-- The versions that the cluster supports, by the number of the API. -/
  versions : Table Int16 (Int16 × Int16)
  /-- The connection for questions about the cluster. -/
  bootstrap : Connection
  /-- The addresses of the brokers. -/
  brokers : BrokerTable
  /-- The leaders of the partitions of each topic. -/
  leaders : Table String LeaderTable
  /-- The connections to leaders. -/
  connections : Table Int32 Connection
  /-- The numbers of the connections that must not be used again. -/
  retired : List Nat
  /-- Whether the client has been closed. -/
  closed : Bool
deriving DecidableEq, Repr

namespace Client

/-- A client that has only just connected. -/
def init (config : ClientConfig) (bootstrap : Connection) : Client :=
  ⟨config, 1, .empty, bootstrap, .empty, .empty, .empty, [], false⟩

/-- Whether a connection must not be used again. -/
def isRetired (client : Client) (connection : Connection) : Bool :=
  client.retired.contains connection.id

/-- The leader of a partition, as far as metadata says. -/
def leaderOf (client : Client) (topic : String) (partition : Int32) :
    Except ClientFault Int32 :=
  match client.leaders.get? topic with
  | none => .error (.noMetadata topic)
  | some partitions =>
    match partitions.get? partition with
    | none => .error (.unknownPartition partition topic)
    | some leader => if 0 ≤ leader then .ok leader else .error (.noLeader partition topic)

/-- The number of partitions of a topic that metadata lists. -/
def partitionCount (client : Client) (topic : String) : Option Int32 :=
  (client.leaders.get? topic).map fun partitions => Int32.ofNat partitions.size

/-- The version to use of an API, and what there is to report about the choice. The version
preferred is used if the cluster supports it, and otherwise the last one that it supports. -/
def chooseVersion (client : Client) (api : ApiKey) (preferred : Int16) : Int16 × List Event :=
  match client.versions.get? api.code with
  | none => (preferred, [.versionUnknown api preferred])
  | some (least, greatest) =>
    if least ≤ preferred ∧ preferred ≤ greatest then (preferred, [])
    else (greatest, [.versionReplaced preferred api least greatest])

/-- Take the metadata of a topic over, and drop the connections to leaders whose brokers are not
listed any more or listed elsewhere. -/
def adopt (client : Client) (topic : String) (brokers : BrokerTable) (partitions : LeaderTable) :
    Client :=
  { client with
    connections := client.connections.filter fun nodeId connection =>
      brokers.get? nodeId = some connection.address
    brokers := brokers
    leaders := client.leaders.insert topic partitions }

end Client

/-- A client and the network around it. -/
structure Session (N : Type) where
  /-- The client. -/
  client : Client
  /-- The network. -/
  network : N

/-- A computation that uses a client and may fail. -/
abbrev ClientM (N : Type) := ExceptT ClientFault (StateM (Session N))

namespace ClientM

variable {N : Type}

/-- Use the network. -/
def onNetwork {α : Type} (action : NetworkM N α) : ClientM N α := do
  let s ← get
  let (result, network) := action.run.run s.network
  set { s with network := network }
  match result with
  | .ok a => return a
  | .error fault => throw fault

/-- Report an event. -/
def report (net : Network N) (event : Event) : ClientM N Unit :=
  modify fun s => { s with network := net.emit event s.network }

/-- Report events in order. -/
def reportAll (net : Network N) (events : List Event) : ClientM N Unit :=
  modify fun s => { s with network := events.foldl (fun n e => net.emit e n) s.network }

/-- Change the client. -/
def update (f : Client → Client) : ClientM N Unit :=
  modify fun s => { s with client := f s.client }

/-- Something about the client. -/
def ask {α : Type} (f : Client → α) : ClientM N α :=
  return f (← get).client

/-- Go on only if the client has not been closed. -/
def ensureOpen : ClientM N Unit := do
  if ← ask (·.closed) then throw .closed

/-- Never use a connection again. -/
def retire (connection : Connection) : ClientM N Unit :=
  update fun client => { client with retired := connection.id :: client.retired }

/-- Take the result of a computation without effects, or its fault. -/
def ofExcept {ε α : Type} (fault : ε → ClientFault) : Except ε α → ClientM N α
  | .ok a => return a
  | .error e => throw (fault e)

/-- Name the undertaking in the course of which a computation fails. -/
def during {α : Type} (undertaking : Undertaking) (action : ClientM N α) : ClientM N α :=
  tryCatch action fun fault => throw (.during undertaking fault)

end ClientM

end KafkaCanary
