/-!
# Settings

The settings of the program: seven that have a value and two that are switched on. A setting with
a value can be given on the command line or in the environment.
-/

namespace KafkaCanary

/-- A setting that has a value. -/
inductive Setting where
  /-- The brokers to start with. -/
  | bootstrapServers
  /-- The topic of the messages. -/
  | topic
  /-- The client id. -/
  | clientId
  /-- The bounds of the latency histogram. -/
  | latencyBuckets
  /-- The time between two cycles. -/
  | reconcileInterval
  /-- The longest wait for a broker. -/
  | requestTimeout
  /-- The number of partitions. -/
  | partitions
deriving DecidableEq, Repr

namespace Setting

/-- Every setting, in the order in which they are listed. -/
def all : List Setting :=
  [.bootstrapServers, .topic, .clientId, .latencyBuckets, .reconcileInterval, .requestTimeout,
    .partitions]

/-- The name of a setting on the command line, without dashes. -/
def name : Setting → String
  | .bootstrapServers => "bootstrap-servers"
  | .topic => "topic"
  | .clientId => "client-id"
  | .latencyBuckets => "producer-latency-buckets"
  | .reconcileInterval => "reconcile-interval-ms"
  | .requestTimeout => "request-timeout-ms"
  | .partitions => "partitions"

/-- The name of a setting's value. -/
def valueName : Setting → String
  | .bootstrapServers => "BOOTSTRAP_SERVERS"
  | .topic => "TOPIC"
  | .clientId => "CLIENT_ID"
  | .latencyBuckets => "PRODUCER_LATENCY_BUCKETS"
  | .reconcileInterval => "RECONCILE_INTERVAL_MS"
  | .requestTimeout => "REQUEST_TIMEOUT_MS"
  | .partitions => "PARTITIONS"

/-- The environment variable of a setting. -/
def variableName : Setting → String
  | .bootstrapServers => "KAFKA_BOOTSTRAP_SERVERS"
  | setting => setting.valueName

/-- The value of a setting that is given nowhere. -/
def default? : Setting → Option String
  | .bootstrapServers => some "localhost:9092"
  | .topic => some "__canary"
  | .clientId => some "canary-client"
  | .latencyBuckets => some "2,5,10,20,50,100,200,400"
  | .reconcileInterval => some "30000"
  | .requestTimeout => some "10000"
  | .partitions => none

/-- The purpose of a setting. -/
def purpose : Setting → String
  | .bootstrapServers => "Comma-separated list of Kafka bootstrap brokers"
  | .topic => "Topic that receives the canary messages"
  | .clientId => "Client id reported to the brokers and used as the clientid metric label"
  | .latencyBuckets =>
    "Comma-separated upper bounds of the produce latency histogram, in milliseconds"
  | .reconcileInterval => "Time between two canary cycles, in milliseconds"
  | .requestTimeout => "Maximum time to wait for a broker response, in milliseconds"
  | .partitions => "Number of partitions to probe (defaults to the topic's partition count)"

/-- A setting and its value as users write them. -/
def usage (setting : Setting) : String :=
  "--" ++ setting.name ++ " <" ++ setting.valueName ++ ">"

end Setting

/-- A setting that is switched on. -/
inductive Switch where
  /-- Print the metrics at the end. -/
  | printMetrics
  /-- Report errors only. -/
  | quiet
  /-- Explain the settings and do nothing else. -/
  | help
deriving DecidableEq, Repr

namespace Switch

/-- Every switch, in the order in which they are listed. -/
def all : List Switch :=
  [.printMetrics, .quiet, .help]

/-- The name of a switch, without dashes. -/
def name : Switch → String
  | .printMetrics => "print-metrics"
  | .quiet => "quiet"
  | .help => "help"

/-- The letter of a switch, if it has one. -/
def letter? : Switch → Option Char
  | .printMetrics => none
  | .quiet => some 'q'
  | .help => some 'h'

/-- The purpose of a switch. -/
def purpose : Switch → String
  | .printMetrics => "Print the collected metrics in Prometheus text format on shutdown"
  | .quiet => "Quiet mode: only log errors"
  | .help => "Print help"

/-- A switch as users write it. -/
def usage (switch : Switch) : String :=
  "--" ++ switch.name

end Switch

end KafkaCanary
