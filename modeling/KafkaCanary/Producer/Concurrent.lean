import KafkaCanary.Host
import KafkaCanary.Producer.Basic

/-!
# Concurrent Callers

Several callers share a producer. Fan-outs and closing hold the producer's lock from beginning to
end, and the lock is handed over in the order of asking; refreshing metadata needs no lock. The
work of a caller is cut into steps, between which every other caller may take steps of its own.
-/

namespace KafkaCanary

/-- A client whose calls take time: each call is begun, and answered later. -/
structure Line (W : Type) where
  /-- The wall clock, in milliseconds since the epoch. -/
  now : W → Int64
  /-- Report an event. -/
  emit : Event → W → W
  /-- Begin to send bytes to a partition of a topic. -/
  startSend : String → Int32 → List UInt8 → W → W
  /-- The answer to the sending. -/
  answerSend : String → Int32 → W → Except Failure Delivery × W
  /-- Begin to refresh the metadata of a topic. -/
  startRefresh : String → W → W
  /-- The answer to the refreshing. -/
  answerRefresh : String → W → Except Failure Unit × W
  /-- Begin to close. -/
  startClose : W → W
  /-- The answer to the closing. -/
  answerClose : W → Except Failure Unit × W

/-- What a caller wants of a producer. -/
inductive Errand where
  /-- A message to each of the first `count` partitions of a topic. -/
  | send (topic : String) (count : Int32)
  /-- New metadata of a topic. -/
  | refresh (topic : String)
  /-- An end. -/
  | close
deriving DecidableEq, Repr

/-- How far a caller is. -/
inductive Phase where
  /-- It has not begun. -/
  | ready
  /-- It has asked for the lock. -/
  | queued
  /-- It holds the lock, and `served` partitions have been served. -/
  | serving (served : Nat)
  /-- It has made the message for the next partition. -/
  | stamped (served : Nat) (message : Message)
  /-- It is sending that message. -/
  | sending (served : Nat) (message : Message)
  /-- It has got the answer to that message. -/
  | answered (served : Nat) (message : Message) (answer : Except Failure Delivery) (time : Int64)
  /-- It is closing the client. -/
  | closing
  /-- It is refreshing metadata. -/
  | refreshing
  /-- It is done but for giving up the lock. -/
  | leaving (result : Except Failure Unit)
  /-- It is done. -/
  | finished (result : Except Failure Unit)

/-- A caller of a producer. -/
structure Caller where
  /-- What it wants. -/
  errand : Errand
  /-- How far it is. -/
  phase : Phase

/-- A producer with its callers. -/
structure Crew (W : Type) where
  /-- The producer. -/
  producer : Producer
  /-- The callers. -/
  callers : List Caller
  /-- The callers that have asked for the lock, by their places in the list. The first of them
  has it. -/
  queue : List Nat
  /-- The world. -/
  world : W

namespace Crew

variable {W : Type}

/-- Callers that have not begun. -/
def init (producer : Producer) (errands : List Errand) (w : W) : Crew W :=
  ⟨producer, errands.map fun errand => ⟨errand, .ready⟩, [], w⟩

/-- Move a caller to a phase. -/
def moveTo (crew : Crew W) (i : Nat) (phase : Phase) : Crew W :=
  { crew with callers := crew.callers.modify i fun caller => { caller with phase := phase } }

/-- Report an event. -/
def report (line : Line W) (event : Event) (crew : Crew W) : Crew W :=
  { crew with world := line.emit event crew.world }

/-- A caller begins. -/
def begin (line : Line W) (crew : Crew W) (i : Nat) : Errand → Crew W
  | .refresh topic =>
    let crew := crew.report line (.refreshing topic)
    { crew with world := line.startRefresh topic crew.world }.moveTo i .refreshing
  | .send _ count =>
    if count < 0 then (crew.report line (.negativeCount count)).moveTo i (.finished (.ok ()))
    else { crew with queue := crew.queue ++ [i] }.moveTo i .queued
  | .close => { crew with queue := crew.queue ++ [i] }.moveTo i .queued

/-- A caller has got the lock. -/
def enter (line : Line W) (crew : Crew W) (i : Nat) : Errand → Crew W
  | .send topic count =>
    if crew.producer.closed then
      (crew.report line (.fanOutRefused count topic)).moveTo i (.leaving (.ok ()))
    else crew.moveTo i (.serving 0)
  | .close =>
    if crew.producer.closed then
      (crew.report line .producerAlreadyClosed).moveTo i (.leaving (.ok ()))
    else
      let crew := crew.report line .producerClosing
      { crew with world := line.startClose crew.world }.moveTo i .closing
  | .refresh _ => crew.moveTo i (.leaving (.ok ()))

/-- A caller that holds the lock turns to the next partition, if there is one. -/
def serve (line : Line W) (crew : Crew W) (i : Nat) (served : Nat) : Errand → Crew W
  | .send _ count =>
    -- The message takes its number here, so callers that wait for the lock get later ones.
    if served < count.toInt.toNat then
      let (m, producer) := crew.producer.stamp (line.now crew.world)
      { crew with producer := producer }.moveTo i (.stamped served m)
    else crew.moveTo i (.leaving (.ok ()))
  | _ => crew.moveTo i (.leaving (.ok ()))

/-- The topic of an errand. -/
def topicOf : Errand → String
  | .send topic _ => topic
  | .refresh topic => topic
  | .close => ""

/-- A caller sends the message it has made. -/
def dispatch (line : Line W) (crew : Crew W) (i : Nat) (served : Nat) (m : Message)
    (errand : Errand) : Crew W :=
  let partition := Int32.ofNat served
  let crew := crew.report line (.sending m.json partition)
  { crew with world := line.startSend (topicOf errand) partition m.payload crew.world }.moveTo i
    (.sending served m)

/-- A caller gets the answer to its message and reads the clock. -/
def receive (line : Line W) (crew : Crew W) (i : Nat) (served : Nat) (m : Message)
    (errand : Errand) : Crew W :=
  let (answer, world) := line.answerSend (topicOf errand) (Int32.ofNat served) crew.world
  { crew with world := world }.moveTo i (.answered served m answer (line.now world))

/-- A caller takes the answer to its message into account. -/
def settle (line : Line W) (crew : Crew W) (i : Nat) (served : Nat) (m : Message)
    (answer : Except Failure Delivery) (time : Int64) : Crew W :=
  let (producer, events) := crew.producer.settle m (Int32.ofNat served) answer time
  let crew := { crew with producer := producer }
  (events.foldl (fun crew e => crew.report line e) crew).moveTo i (.serving (served + 1))

/-- A caller gets the answer to its closing. -/
def shut (line : Line W) (crew : Crew W) (i : Nat) : Crew W :=
  let (answer, world) := line.answerClose crew.world
  let crew := { crew with world := world }
  match answer with
  | .error failure => crew.moveTo i (.leaving (.error failure))
  | .ok () =>
    let crew := { crew with producer := { crew.producer with closed := true } }
    (crew.report line .producerClosed).moveTo i (.leaving (.ok ()))

/-- A caller gets the answer to its refreshing. -/
def learn (line : Line W) (crew : Crew W) (i : Nat) (errand : Errand) : Crew W :=
  let (answer, world) := line.answerRefresh (topicOf errand) crew.world
  let crew := { crew with world := world }
  match answer with
  | .ok () => crew.moveTo i (.finished (.ok ()))
  | .error failure =>
    (crew.report line (.refreshFailed (topicOf errand) failure)).moveTo i (.finished (.ok ()))

/-- One step of a caller; `none` if it is done, waits for the lock, or does not exist. -/
def step (line : Line W) (crew : Crew W) (i : Nat) : Option (Crew W) :=
  match crew.callers[i]? with
  | none => none
  | some ⟨errand, phase⟩ =>
    match phase with
    | .ready => some (crew.begin line i errand)
    -- The first in the queue holds the lock, and gives it up by leaving the queue.
    | .queued => if crew.queue.head? = some i then some (crew.enter line i errand) else none
    | .serving served => some (crew.serve line i served errand)
    | .stamped served m => some (crew.dispatch line i served m errand)
    | .sending served m => some (crew.receive line i served m errand)
    | .answered served m answer time => some (crew.settle line i served m answer time)
    | .closing => some (crew.shut line i)
    | .refreshing => some (crew.learn line i errand)
    | .leaving result =>
      some ({ crew with queue := crew.queue.tail }.moveTo i (.finished result))
    | .finished _ => none

end Crew

end KafkaCanary
