import KafkaCanary.Rehearsal.Platform

/-!
# The Command Line

The program in front of a network without routes, in which time is virtual. No attempt to connect
succeeds there.
-/

open KafkaCanary

/-- Run the program with the arguments and the environment of the process. -/
def main (arguments : List String) : IO UInt32 := do
  let known ← Program.variableNames.mapM fun name => return (name, ← IO.getEnv name)
  let environment : Environment := fun name => (known.lookup name).join
  let (status, cluster) :=
    Program.run (Cluster.platform none .terminate) arguments environment (.init false [])
  IO.print cluster.printed
  IO.eprint cluster.complaints
  return status.code
