import KafkaCanary.Event
import KafkaCanary.Protocol.Response

/-!
# Hosts

What a canary needs from the world around it: a client for the cluster, clocks, and a place for
events. A call takes the world as it is and leaves it as it is when the call returns, so
everything that happens meanwhile is part of the change.
-/

namespace KafkaCanary

/-- What a canary can do to a world of type `W`. -/
structure Host (W : Type) where
  /-- The wall clock, in milliseconds since the epoch. -/
  now : W → Int64
  /-- The time since the world began, in milliseconds. -/
  elapsed : W → Nat
  /-- Let time pass until the time given; it does not go back. -/
  waitUntil : Nat → W → W
  /-- Report an event. -/
  emit : Event → W → W
  /-- Send bytes to a partition of a topic and wait for the acknowledgement. -/
  send : String → Int32 → List UInt8 → W → Except Failure Delivery × W
  /-- Find out which brokers lead the partitions of a topic. -/
  refresh : String → W → Except Failure Unit × W
  /-- The number of partitions of a topic, as far as it is known. -/
  partitionCount : String → W → Option Int32 × W
  /-- Release the connections to the cluster. -/
  close : W → Except Failure Unit × W

/-- Report events in order. -/
def Host.emitAll {W : Type} (host : Host W) (events : List Event) (w : W) : W :=
  events.foldl (fun w e => host.emit e w) w

end KafkaCanary
