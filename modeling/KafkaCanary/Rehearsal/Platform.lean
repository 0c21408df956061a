import KafkaCanary.Program
import KafkaCanary.Rehearsal.Cluster

/-!
# A Platform for Rehearsals

The program in front of a cluster of a rehearsal. A signal arrives when the brokers have received
a number of requests, and what the program prints is kept.
-/

namespace KafkaCanary.Cluster

/-- When a run ends that no signal ends: after an hour. -/
def latest : Nat := 3600000

/-- The program's world. The signal arrives with the last of `stopAfter` requests. -/
def platform (stopAfter : Option Nat) (signal : StopSignal) : Platform Cluster where
  network := network
  print text := display (.text text)
  complain text := display (.complaint text)
  signal? c := if stopAfter.any (· ≤ c.receipts.length) then some signal else none
  latest := latest

/-- What the program has printed. -/
def printed (c : Cluster) : String :=
  String.join (c.outputs.map fun
    | .event event => event.line
    | .text text => text
    | .complaint _ => "")

/-- What the program has printed about its faults. -/
def complaints (c : Cluster) : String :=
  String.join (c.outputs.map fun
    | .complaint text => text
    | _ => "")

end KafkaCanary.Cluster
