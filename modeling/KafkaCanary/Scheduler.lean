import KafkaCanary.Duration
import KafkaCanary.Producer.Operations

/-!
# The Scheduler

Cycles at regular times. A cycle refreshes the metadata, finds out the number of partitions and
sends one message to each. Cycles follow each other at the interval of the schedule; a cycle that
comes late, by more than five milliseconds, moves all later ones. A cycle once begun is finished,
and none begins after the shutdown. All times are in milliseconds, as the interval is.
-/

namespace KafkaCanary

/-- When and where to send messages. -/
structure Schedule where
  /-- The topic of the messages. -/
  topic : String
  /-- The time between two cycles, in whole milliseconds. -/
  interval : Period
  /-- The number of partitions; `none` if the cluster has to say. -/
  partitions : Option Int32
deriving DecidableEq, Repr

/-- What ends a run. -/
structure Shutdown (W : Type) where
  /-- When the run ends at the latest, in milliseconds since the world began. -/
  latest : Nat
  /-- Whether the run is to end before that. -/
  arrived : W → Bool
  /-- Report what ends the run. -/
  announce : W → W

/-- A silent shutdown at a time given. -/
def Shutdown.silentAt {W : Type} (time : Nat) : Shutdown W :=
  ⟨time, fun _ => false, id⟩

namespace Schedule

variable {W : Type}

/-- The number of partitions of the next fan-out. -/
def count (host : Host W) (schedule : Schedule) (w : W) : Option Int32 × W :=
  match schedule.partitions with
  | some n => (some n, w)
  | none => host.partitionCount schedule.topic w

/-- Send to as many partitions as a cycle found, and return how many these are. -/
def fanOut (host : Host W) (schedule : Schedule) (count : Option Int32) (c : Canary W) :
    Int32 × Canary W :=
  match count with
  | none => (0, { c with world := host.emit (.countUnknown schedule.topic) c.world })
  | some n =>
    let c := { c with world := host.emit (.fanningOut n schedule.topic) c.world }
    (max n 0, c.sendToPartitions host schedule.topic n)

/-- One cycle: refresh, find out the number of partitions, send to them. -/
def runCycle (host : Host W) (schedule : Schedule) (c : Canary W) : Int32 × Canary W :=
  let c := c.refresh host schedule.topic
  let (n, world) := schedule.count host c.world
  schedule.fanOut host n { c with world := world }

/-- How late a cycle may be without moving later ones, in milliseconds. -/
def tolerance : Nat := 5

/-- When the next cycle is due, if the last one was due at `due` and began at `begun`. -/
def nextDue (period due begun : Nat) : Nat :=
  if due + tolerance < begun then begun + period else due + period

theorem lt_nextDue {period : Nat} (h : 0 < period) (due begun : Nat) :
    due < nextDue period due begun := by
  unfold nextDue; split <;> omega

/-- Cycles from the one that is due at `due` until the shutdown; `cycles` of them have been run
before. -/
def runFrom (host : Host W) (schedule : Schedule) (shutdown : Shutdown W) (due : Nat)
    (cycles : Nat) (c : Canary W) : Nat × Canary W :=
  -- The shutdown wins over a cycle that is due at the same time.
  if shutdown.arrived c.world || shutdown.latest ≤ host.elapsed c.world then (cycles, c)
  else if shutdown.latest ≤ due then
    (cycles, { c with world := host.waitUntil shutdown.latest c.world })
  else
    -- A cycle that took too long lets the next one begin late, which may move it.
    let woken := host.waitUntil due c.world
    runFrom host schedule shutdown
      (nextDue schedule.interval.val.millis due (host.elapsed woken)) (cycles + 1)
      (schedule.runCycle host { c with world := woken }).2
termination_by shutdown.latest - due
decreasing_by
  have := lt_nextDue schedule.interval.property due (host.elapsed (host.waitUntil due c.world))
  omega

/-- Run cycles until the shutdown and return their number. The first one begins at once. -/
def run (host : Host W) (schedule : Schedule) (shutdown : Shutdown W) (c : Canary W) :
    Nat × Canary W :=
  let starting := Event.schedulerStarting schedule.topic schedule.interval.val.millis
  let c := { c with world := host.emit starting c.world }
  let (cycles, c) := schedule.runFrom host shutdown (host.elapsed c.world) 0 c
  let stopping := Event.schedulerStopping (UInt64.ofNat cycles)
  (cycles, { c with world := host.emit stopping (shutdown.announce c.world) })

end Schedule

end KafkaCanary
