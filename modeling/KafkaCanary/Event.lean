import KafkaCanary.Decimal.Integer
import KafkaCanary.Decimal.Layout
import KafkaCanary.Failure
import KafkaCanary.Protocol.ApiKey
import KafkaCanary.Protocol.ErrorCode
import KafkaCanary.Terminal.Guarded

/-!
# Events

What a canary reports about its work while it runs. Every event has a level, the component it
comes from, and a text.
-/

namespace KafkaCanary

/-- How much attention an event deserves, from the least to the most. -/
inductive Level where
  /-- Of interest while searching for a fault. -/
  | debug
  /-- The normal course of things. -/
  | info
  /-- Something failed that the canary lives with. -/
  | warn
  /-- Something failed that should not. -/
  | error
deriving DecidableEq, Repr

namespace Level

/-- The name of a level. -/
def name : Level → String
  | .debug => "DEBUG"
  | .info => "INFO"
  | .warn => "WARN"
  | .error => "ERROR"

/-- The place of a level in the order. -/
def rank : Level → Nat
  | .debug => 0
  | .info => 1
  | .warn => 2
  | .error => 3

end Level

/-- A part of the canary that events come from. -/
inductive Component where
  /-- The program itself. -/
  | canary
  /-- The instruments. -/
  | metrics
  /-- The producer. -/
  | producer
  /-- The scheduler. -/
  | scheduler
  /-- The client of the cluster. -/
  | client
deriving DecidableEq, Repr

/-- The name that events of a component are filtered by. -/
def Component.target : Component → String
  | .canary => "canary"
  | .metrics => "canary::metrics"
  | .producer => "canary::producer"
  | .scheduler => "canary::scheduler"
  | .client => "canary::kafka_client"

/-- A signal that asks the program to stop. -/
inductive StopSignal where
  /-- An interrupt from the keyboard. -/
  | interrupt
  /-- A request to terminate. -/
  | terminate
deriving DecidableEq, Repr

/-- Something that happened. -/
inductive Event where
  /-- A message was acknowledged before it was made. -/
  | clockSkew (latency : Int64) (partition : Int32)
  /-- A fan-out over a negative number of partitions was asked for. -/
  | negativeCount (count : Int32)
  /-- A fan-out was asked of a closed producer. -/
  | fanOutRefused (count : Int32) (topic : String)
  /-- A message is about to be sent. -/
  | sending (value : String) (partition : Int32)
  /-- A message was acknowledged. -/
  | sent (partition : Int32) (offset latency : Int64)
  /-- A message was not acknowledged. -/
  | sendFailed (messageId : UInt64) (partition : Int32) (failure : Failure)
  /-- The producer asks for new metadata. -/
  | refreshing (topic : String)
  /-- The producer got no new metadata. -/
  | refreshFailed (topic : String) (failure : Failure)
  /-- A closed producer was asked to close. -/
  | producerAlreadyClosed
  /-- The producer closes its client. -/
  | producerClosing
  /-- The producer is closed. -/
  | producerClosed
  /-- A cycle sends to all partitions. -/
  | fanningOut (count : Int32) (topic : String)
  /-- A cycle knows no number of partitions. -/
  | countUnknown (topic : String)
  /-- The scheduler starts. -/
  | schedulerStarting (topic : String) (intervalMillis : Nat)
  /-- The scheduler stops. -/
  | schedulerStopping (cycles : UInt64)
  /-- A signal arrived. -/
  | signalReceived (signal : StopSignal)
  /-- A connection was opened. -/
  | connected (address : String)
  /-- The client looks for a broker to start with. -/
  | connecting (servers : List String)
  /-- The client found a broker to start with. -/
  | bootstrapped (address : String)
  /-- A later round over the servers succeeded. -/
  | connectedOnAttempt (server : String) (attempt : Nat)
  /-- A round over the servers failed. -/
  | attemptFailed (attempt : Nat) (reason : String)
  /-- The first connection is replaced. -/
  | reconnecting (address : String)
  /-- A request is about to be sent. -/
  | requesting (api : ApiKey) (address : String) (correlationId : Int32) (version : Int16)
  /-- The client asks which versions its broker supports. -/
  | discovering
  /-- The client knows which versions its broker supports. -/
  | discovered (count : Nat)
  /-- The broker does not support the version preferred. -/
  | versionReplaced (preferred : Int16) (api : ApiKey) (least greatest : Int16)
  /-- The broker did not name the API. -/
  | versionUnknown (api : ApiKey) (preferred : Int16)
  /-- Metadata reported a fault of a partition. -/
  | partitionReported (partition : Int32) (topic : String) (code : Int16)
  /-- Metadata was read. -/
  | metadataRead (topic : String) (partitions brokers : Nat)
  /-- A closed client was asked to close. -/
  | clientAlreadyClosed
  /-- A connection did not close. -/
  | closeFailed (reason : String)
  /-- The program starts. -/
  | programStarting
  /-- The program names its settings. -/
  | settings (brokers topic clientId : String) (intervalMillis timeoutMillis : UInt64)
  /-- The program names the number of partitions. -/
  | partitionSetting (count : Option Int32)
  /-- The program names its latency buckets. -/
  | bucketSetting (bounds : List Float)
  /-- The program could not close its producer. -/
  | stopFailed (failure : Failure)
  /-- The program stops. -/
  | programStopped (messages : UInt64)

namespace Event

/-- The text of an integer of 32 bits. -/
def int32Text (z : Int32) : String :=
  Decimal.integerText z.toInt

/-- The text of an integer of 64 bits. -/
def int64Text (z : Int64) : String :=
  Decimal.integerText z.toInt

/-- The text of an integer of 16 bits. -/
def int16Text (z : Int16) : String :=
  Decimal.integerText z.toInt

/-- The text of an unsigned integer of 64 bits. -/
def uint64Text (n : UInt64) : String :=
  toString n.toNat

/-- The level of an event. -/
def level : Event → Level
  | .clockSkew .. | .negativeCount _ | .sendFailed .. | .refreshFailed .. | .countUnknown _
  | .attemptFailed .. | .versionUnknown .. | .closeFailed _ => .warn
  | .fanOutRefused .. | .stopFailed _ => .error
  | .producerClosing | .producerClosed | .schedulerStarting .. | .schedulerStopping _
  | .signalReceived _ | .connecting _ | .bootstrapped _ | .connectedOnAttempt ..
  | .programStarting | .settings .. | .partitionSetting _ | .bucketSetting _
  | .programStopped _ => .info
  | .sending .. | .sent .. | .refreshing _ | .producerAlreadyClosed | .fanningOut ..
  | .connected _ | .reconnecting _ | .requesting .. | .discovering | .discovered _
  | .versionReplaced .. | .partitionReported .. | .metadataRead .. | .clientAlreadyClosed => .debug

/-- The component that an event comes from. -/
def component : Event → Component
  | .clockSkew .. => .metrics
  | .negativeCount _ | .fanOutRefused .. | .sending .. | .sent .. | .sendFailed ..
  | .refreshing _ | .refreshFailed .. | .producerAlreadyClosed | .producerClosing
  | .producerClosed => .producer
  | .fanningOut .. | .countUnknown _ | .schedulerStarting .. | .schedulerStopping _
  | .signalReceived _ => .scheduler
  | .connected _ | .connecting _ | .bootstrapped _ | .connectedOnAttempt .. | .attemptFailed ..
  | .reconnecting _ | .requesting .. | .discovering | .discovered _ | .versionReplaced ..
  | .versionUnknown .. | .partitionReported .. | .metadataRead .. | .clientAlreadyClosed
  | .closeFailed _ => .client
  | .programStarting | .settings .. | .partitionSetting _ | .bucketSetting _ | .stopFailed _
  | .programStopped _ => .canary

/-- The text of an event. -/
def text : Event → String
  | .clockSkew latency partition =>
    "Negative produce latency " ++ int64Text latency ++ " ms on partition " ++
      int32Text partition ++ ": clock skew between message creation and acknowledgement"
  | .negativeCount count =>
    "Ignoring send request with negative partition count " ++ int32Text count
  | .fanOutRefused count topic =>
    "Canary producer is closed, not sending to " ++ int32Text count ++ " partitions of '" ++
      topic ++ "'"
  | .sending value partition =>
    "Sending message: value=" ++ value ++ " on partition=" ++ int32Text partition
  | .sent partition offset latency =>
    "Message sent: partition=" ++ int32Text partition ++ ", offset=" ++ int64Text offset ++
      ", duration=" ++ int64Text latency ++ " ms"
  | .sendFailed messageId partition failure =>
    "Error sending message " ++ uint64Text messageId ++ " to partition " ++
      int32Text partition ++ ": " ++ failure.text
  | .refreshing topic => "Producer refreshing metadata for '" ++ topic ++ "'"
  | .refreshFailed topic failure =>
    "Error refreshing producer metadata for '" ++ topic ++ "': " ++ failure.text
  | .producerAlreadyClosed => "Canary producer already closed"
  | .producerClosing => "Closing canary producer"
  | .producerClosed => "Canary producer closed"
  | .fanningOut count topic =>
    "Sending canary messages to " ++ int32Text count ++ " partitions of '" ++ topic ++ "'"
  | .countUnknown topic =>
    "Partition count for '" ++ topic ++ "' is unknown, skipping this cycle"
  | .schedulerStarting topic intervalMillis =>
    "Starting canary on '" ++ topic ++ "' every " ++ toString intervalMillis ++ " ms"
  | .schedulerStopping cycles =>
    "Shutdown requested after " ++ uint64Text cycles ++ " cycles"
  | .signalReceived .interrupt => "Received Ctrl-C"
  | .signalReceived .terminate => "Received SIGTERM"
  | .connected address => "Connected to Kafka broker at " ++ address
  | .connecting servers => "Connecting to Kafka cluster at " ++ ",".intercalate servers
  | .bootstrapped address => "Successfully connected to Kafka broker at " ++ address
  | .connectedOnAttempt server attempt =>
    "Successfully connected to " ++ server ++ " on attempt " ++ toString attempt
  | .attemptFailed attempt reason =>
    "Connection attempt " ++ toString attempt ++ " failed, retrying in 1 second: " ++ reason
  | .reconnecting address => "Bootstrap connection to " ++ address ++ " is broken, reconnecting"
  | .requesting api address correlationId version =>
    "Sending " ++ api.name ++ " request to " ++ address ++ " (correlation_id: " ++
      int32Text correlationId ++ ", version: " ++ int16Text version ++ ")"
  | .discovering => "Discovering supported API versions..."
  | .discovered count => "Discovered " ++ toString count ++ " supported APIs"
  | .versionReplaced preferred api least greatest =>
    "Preferred version " ++ int16Text preferred ++ " for " ++ api.name ++
      " not supported (range: " ++ int16Text least ++ "-" ++ int16Text greatest ++ "), using " ++
      int16Text greatest
  | .versionUnknown api preferred =>
    "API " ++ api.name ++ " not found in version discovery, using version " ++ int16Text preferred
  | .partitionReported partition topic code =>
    "Partition " ++ int32Text partition ++ " of '" ++ topic ++ "' reported " ++
      ErrorCode.describe code
  | .metadataRead topic partitions brokers =>
    "Metadata for '" ++ topic ++ "': " ++ toString partitions ++ " partitions, " ++
      toString brokers ++ " brokers"
  | .clientAlreadyClosed => "Kafka client already closed"
  | .closeFailed reason => reason
  | .programStarting => "Starting Kafka canary producer"
  | .settings brokers topic clientId intervalMillis timeoutMillis =>
    "Brokers: " ++ brokers ++ ", topic: " ++ topic ++ ", client id: " ++ clientId ++
      ", interval: " ++ uint64Text intervalMillis ++ " ms, request timeout: " ++
      uint64Text timeoutMillis ++ " ms"
  | .partitionSetting (some count) => "Partitions: " ++ int32Text count ++ " (fixed)"
  | .partitionSetting none => "Partitions: from topic metadata"
  | .bucketSetting bounds =>
    "Latency buckets (ms): [" ++ ", ".intercalate (bounds.map Decimal.announced.text) ++ "]"
  | .stopFailed failure => "Error closing canary producer: " ++ failure.text
  | .programStopped messages => "Canary stopped after " ++ uint64Text messages ++ " messages"

/-- The line that people read about an event. It may hold texts that others chose. -/
def line (event : Event) : String :=
  event.level.name ++ " " ++ event.component.target ++ ": " ++ Terminal.guarded event.text ++ "\n"

end Event

end KafkaCanary
