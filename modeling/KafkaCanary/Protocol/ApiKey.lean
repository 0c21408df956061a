/-!
# Kafka APIs

The kinds of requests that Kafka brokers answer, as far as a canary has names for them.
-/

namespace KafkaCanary

/-- A kind of request. -/
inductive ApiKey where
  /-- Write records. -/
  | produce
  /-- Read records. -/
  | fetch
  /-- Ask for offsets. -/
  | listOffsets
  /-- Ask for brokers, topics and partition leaders. -/
  | metadata
  /-- Ask for the versions a broker supports. -/
  | apiVersions
  /-- Create topics. -/
  | createTopics
  /-- Ask for a producer id. -/
  | initProducerId
deriving DecidableEq, Repr

namespace ApiKey

/-- The number of an API on the wire. -/
def code : ApiKey → Int16
  | .produce => 0
  | .fetch => 1
  | .listOffsets => 2
  | .metadata => 3
  | .apiVersions => 18
  | .createTopics => 19
  | .initProducerId => 22

/-- Every API. -/
def all : List ApiKey :=
  [.produce, .fetch, .listOffsets, .metadata, .apiVersions, .createTopics, .initProducerId]

/-- The API of a number. -/
def ofCode? (code : Int16) : Option ApiKey :=
  all.find? (·.code == code)

/-- The name of an API. -/
def name : ApiKey → String
  | .produce => "Produce"
  | .fetch => "Fetch"
  | .listOffsets => "ListOffsets"
  | .metadata => "Metadata"
  | .apiVersions => "ApiVersions"
  | .createTopics => "CreateTopics"
  | .initProducerId => "InitProducerId"

/-- The first version of an API whose messages are of the compact style. -/
def firstCompact : ApiKey → Int16
  | .produce => 9
  | .fetch => 12
  | .listOffsets => 6
  | .metadata => 9
  | .apiVersions => 3
  | .createTopics => 5
  | .initProducerId => 2

end ApiKey

end KafkaCanary
