import KafkaCanary.Host
import KafkaCanary.Producer.Basic

/-!
# Operations of a Producer

What a producer does when it has the world to itself: sending one message to each partition of a
topic, refreshing metadata, closing. Failures are reported and counted, and only closing returns
them.
-/

namespace KafkaCanary

/-- A producer and the world around it. -/
structure Canary (W : Type) where
  /-- The producer. -/
  producer : Producer
  /-- The world. -/
  world : W

namespace Canary

variable {W : Type}

/-- Send one message to one partition, wait for the answer and take it into account. -/
def attempt (host : Host W) (topic : String) (c : Canary W) (partition : Int32) : Canary W :=
  let (m, producer) := c.producer.stamp (host.now c.world)
  let world := host.emit (.sending m.json partition) c.world
  let (answer, world) := host.send topic partition m.payload world
  let (producer, events) := producer.settle m partition answer (host.now world)
  ⟨producer, host.emitAll events world⟩

/-- Send one message to each partition from 0 to `count - 1`, one after the other. A closed
producer and a negative count refuse. -/
def sendToPartitions (host : Host W) (topic : String) (count : Int32) (c : Canary W) :
    Canary W :=
  if count < 0 then { c with world := host.emit (.negativeCount count) c.world }
  else if c.producer.closed then
    { c with world := host.emit (.fanOutRefused count topic) c.world }
  else (partitionRange count).foldl (attempt host topic) c

/-- Refresh the metadata of a topic. A failure is reported and ignored. -/
def refresh (host : Host W) (topic : String) (c : Canary W) : Canary W :=
  let (answer, world) := host.refresh topic (host.emit (.refreshing topic) c.world)
  match answer with
  | .ok () => { c with world := world }
  | .error failure => { c with world := host.emit (.refreshFailed topic failure) world }

/-- Close the client, unless that has been done. -/
def close (host : Host W) (c : Canary W) : Except Failure Unit × Canary W :=
  if c.producer.closed then
    (.ok (), { c with world := host.emit .producerAlreadyClosed c.world })
  else
    let (answer, world) := host.close (host.emit .producerClosing c.world)
    match answer with
    | .error failure => (.error failure, { c with world := world })
    | .ok () =>
      (.ok (), ⟨{ c.producer with closed := true }, host.emit .producerClosed world⟩)

end Canary

end KafkaCanary
