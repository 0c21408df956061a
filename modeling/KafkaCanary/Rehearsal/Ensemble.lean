import KafkaCanary.Rehearsal.Bench

/-!
# Concurrent Callers on a Bench

Callers that start at given times. One caller at a time goes on, as far as it can: until it waits
for time to pass or for the lock. Callers that can go on wait for their turn in a queue, at the end
of which a caller is put when its time has come or when it gets the lock. When the queue is empty,
time passes until the first alarm, and alarms for the same time ring together, in the order in which
they were set.
-/

namespace KafkaCanary

/-- The time at which a caller can go on. -/
structure Alarm where
  /-- The time, in milliseconds since the beginning. -/
  time : Nat
  /-- The place of the caller in the list. -/
  caller : Nat
deriving DecidableEq, Repr

/-- Set an alarm among others, which are in the order in which they ring. -/
def Alarm.insert (alarm : Alarm) : List Alarm → List Alarm
  | [] => [alarm]
  | other :: others =>
    if alarm.time < other.time then alarm :: other :: others
    else other :: alarm.insert others

/-- Callers on a bench. -/
structure Ensemble where
  /-- The producer and its callers. -/
  crew : Crew Bench
  /-- For each caller how long it waits before its next step. -/
  delays : List Nat
  /-- The callers that can go on, in the order of their turns. -/
  turns : List Nat
  /-- The alarms set, in the order in which they ring. -/
  alarms : List Alarm

namespace Ensemble

/-- The number of steps that a caller takes at most. -/
def workOf : Errand → Nat
  | .send _ count => 4 * count.toInt.toNat + 5
  | _ => 5

/-- Callers with their errands, and how long each waits before it starts. -/
def init (producer : Producer) (errands : List (Errand × Nat)) (b : Bench) : Ensemble where
  crew := .init producer (errands.map (·.1)) b
  delays := errands.map (·.2)
  turns := List.range errands.length
  alarms := []

/-- Set the alarm of a caller, which has to wait. -/
def setAlarm (e : Ensemble) (i delay : Nat) : Ensemble :=
  { e with
    delays := e.delays.set i 0
    alarms := Alarm.insert ⟨e.crew.world.elapsed + delay, i⟩ e.alarms }

/-- The caller that gets the lock when a caller in a phase takes its next step. -/
def successor (crew : Crew Bench) : Phase → List Nat
  | .leaving _ => (crew.queue.drop 1).take 1
  | _ => []

/-- A caller has taken a step after which the crew is `crew`; it is still its turn. -/
def afterStep (e : Ensemble) (i : Nat) (crew : Crew Bench) : Ensemble :=
  let woken := (e.crew.callers[i]?).elim [] fun caller => successor e.crew caller.phase
  let wait := (crew.callers[i]?).elim 0 fun caller => crew.world.waitOf caller.phase
  { e with crew := crew, delays := e.delays.set i wait, turns := i :: e.turns ++ woken }

/-- The caller whose turn it is takes a step, sets its alarm or ends its turn. -/
def takeTurn (e : Ensemble) (i : Nat) : Ensemble :=
  match e.delays[i]? with
  -- Setting the alarm ends the turn, as the caller is no longer in the queue.
  | some (delay + 1) => e.setAlarm i (delay + 1)
  | _ =>
    match e.crew.step Bench.line i with
    | none => e
    | some crew => e.afterStep i crew

/-- Let time pass until an alarm rings, with all others for the same time. -/
def ring (e : Ensemble) (time : Nat) : Ensemble :=
  let (due, later) := e.alarms.span (·.time = time)
  { e with
    crew := { e.crew with world := e.crew.world.waitUntil time }
    turns := due.map Alarm.caller
    alarms := later }

/-- Let callers take their turns until all are done; `fuel` bounds the number of steps, of alarms
and of turns. -/
def drive : (fuel : Nat) → Ensemble → Ensemble
  | 0, e => e
  | fuel + 1, e =>
    match e.turns with
    | i :: turns => drive fuel ({ e with turns := turns }.takeTurn i)
    | [] =>
      -- Nobody can go on, so time passes.
      match e.alarms with
      | [] => e
      | alarm :: _ => drive fuel (e.ring alarm.time)

/-- Let callers carry out their errands. -/
def perform (producer : Producer) (errands : List (Errand × Nat)) (b : Bench) : Crew Bench :=
  let work := errands.foldl (fun work (errand, _) => work + workOf errand) 0
  (drive (3 * work + 4 * errands.length) (.init producer errands b)).crew

end Ensemble

end KafkaCanary
