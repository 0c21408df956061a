import KafkaCanary.Client.Operations
import KafkaCanary.Event.Filter
import KafkaCanary.Metrics.Exposition
import KafkaCanary.Options.Help
import KafkaCanary.Scheduler

/-!
# The Program

One run of the canary, from its arguments to its exit status. The program reads its options, names
its settings, connects to the cluster and runs cycles until a signal arrives. Then it prints the
metrics, if it is to, and closes the client.
-/

namespace KafkaCanary

/-- What the program needs from the world around it. -/
structure Platform (N : Type) where
  /-- The network. -/
  network : Network N
  /-- Print a text. -/
  print : String → N → N
  /-- Print a text about a fault of the program. -/
  complain : String → N → N
  /-- The signal that has arrived, if one has. -/
  signal? : N → Option StopSignal
  /-- When a run ends that no signal ends, in milliseconds since the world began. -/
  latest : Nat

/-- How a run ends. -/
inductive ExitStatus where
  /-- With nothing amiss. -/
  | success
  /-- With a fault. -/
  | failure
  /-- With arguments that cannot be read. -/
  | misuse
deriving DecidableEq, Repr

/-- The number of a status. -/
def ExitStatus.code : ExitStatus → UInt32
  | .success => 0
  | .failure => 1
  | .misuse => 2

/-- Why the program cannot run. -/
inductive ProgramFault where
  /-- The options cannot be used. -/
  | options (fault : OptionsFault)
  /-- The client cannot connect. -/
  | client (fault : ClientFault)

/-- The description of a fault. -/
def ProgramFault.message : ProgramFault → String
  | .options fault => fault.message
  | .client fault => fault.failure.text

/-- What the options of a run stand for. -/
structure Plan where
  /-- The bounds of the latency histogram. -/
  bounds : List Float
  /-- The time between two cycles. -/
  interval : Period
  /-- The longest wait for a broker. -/
  limit : Duration

namespace Options

/-- What options stand for. The list of brokers is judged later. -/
def plan (o : Options) : Except OptionsFault Plan := do
  let bounds ← o.bucketList
  let interval ← o.reconcileInterval
  let limit ← o.requestTimeout
  return ⟨bounds, interval, limit⟩

/-- What the program says about its settings before it connects. -/
def startEvents (o : Options) (bounds : List Float) : List Event :=
  [.programStarting,
    .settings o.bootstrapServers o.topic o.clientId o.reconcileIntervalMillis
      o.requestTimeoutMillis,
    .partitionSetting o.partitions,
    .bucketSetting bounds]

end Options

/-- A network with the events that a filter admits. -/
def Network.filtered {N : Type} (filter : EventFilter) (net : Network N) : Network N :=
  { net with emit := fun event n => if filter.admits event then net.emit event n else n }

namespace Program

variable {N : Type}

/-- A canary that is ready to run cycles. -/
structure Ready (N : Type) where
  /-- When and where it sends messages. -/
  schedule : Schedule
  /-- Its producer and the session with the cluster. -/
  canary : Canary (Session N)

/-- Connect to the cluster and set a producer up, after naming the settings. -/
def prepare (net : Network N) (o : Options) (n : N) : Except (ProgramFault × N) (Ready N) :=
  match o.plan with
  | .error fault => .error (.options fault, n)
  | .ok plan =>
    let n := (o.startEvents plan.bounds).foldl (fun n event => net.emit event n) n
    match o.bootstrapList with
    | .error fault => .error (.options fault, n)
    | .ok servers =>
      match Client.connect net ⟨servers, o.clientId, plan.limit⟩ n with
      | (.error fault, n) => .error (.client fault, n)
      | (.ok client, n) =>
        .ok ⟨⟨o.topic, plan.interval, o.partitions⟩,
          ⟨.init o.clientId (.init plan.bounds), ⟨client, n⟩⟩⟩

/-- What ends the cycles: a signal, which is reported. -/
def shutdown (platform : Platform N) : Shutdown (Session N) where
  latest := platform.latest
  arrived s := (platform.signal? s.network).isSome
  announce s :=
    match platform.signal? s.network with
    | none => s
    | some signal => { s with network := platform.network.emit (.signalReceived signal) s.network }

/-- Print the metrics, if the options ask for that. -/
def printMetrics (platform : Platform N) (o : Options) (c : Canary (Session N)) :
    Canary (Session N) :=
  if o.printMetrics then
    let text := Registry.text ⟨some c.producer.instruments⟩ ++ "\n"
    { c with world := { c.world with network := platform.print text c.world.network } }
  else c

/-- Close the producer and end the run. -/
def finish (net : Network N) (c : Canary (Session N)) : ExitStatus × N :=
  let host := Client.host net
  match c.close host with
  | (.error failure, c) => (.failure, (host.emit (.stopFailed failure) c.world).network)
  | (.ok (), c) =>
    (.success, (host.emit (.programStopped c.producer.lastMessageId) c.world).network)

/-- Run the program with the options given. -/
def runOptions (platform : Platform N) (o : Options) (n : N) : ExitStatus × N :=
  let net := platform.network
  match prepare net o n with
  | .error (fault, n) => (.failure, platform.complain ("Error: " ++ fault.message ++ "\n") n)
  | .ok ⟨schedule, c⟩ =>
    let (_, c) := schedule.run (Client.host net) (shutdown platform) c
    finish net (printMetrics platform o c)

/-- The environment variables that the program looks at. -/
def variableNames : List String :=
  EventFilter.variableName :: Setting.all.map Setting.variableName

/-- Run the program. -/
def run (platform : Platform N) (arguments : List String) (environment : Environment) (n : N) :
    ExitStatus × N :=
  match Options.ofArguments arguments environment with
  | .error .helpRequested => (.success, platform.print (helpText .stream environment) n)
  | .error fault => (.misuse, platform.complain (fault.headline .stream environment ++ "\n") n)
  | .ok o =>
    let filter := EventFilter.choose (environment EventFilter.variableName) o.quiet
    runOptions { platform with network := platform.network.filtered filter } o n

end Program

end KafkaCanary
