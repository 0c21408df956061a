import KafkaCanary.Clock
import KafkaCanary.Producer.Concurrent
import KafkaCanary.Producer.Operations

/-!
# The Bench

A world for rehearsals in which the client follows a script and time is virtual. Every call is
noted down as soon as it is made. Calls last as long as the script says, and only they and the
scheduler let time pass. Changes of the script can be planned for later times.
-/

namespace KafkaCanary

/-- How the client behaves. -/
structure Script where
  /-- The number of partitions of every topic. -/
  partitions : Option Int32
  /-- How long sending lasts, in milliseconds. -/
  sendWait : Nat
  /-- How long refreshing lasts, in milliseconds. -/
  refreshWait : Nat
  /-- How long closing lasts, in milliseconds. -/
  closeWait : Nat
  /-- How far the wall clock moves at the end of a sending. -/
  ackDelay : Int64
  /-- How sending to a partition fails. -/
  failures : Table Int32 Failure
  /-- How refreshing fails. -/
  refreshFailure : Option Failure
  /-- How closing fails. -/
  closeFailure : Option Failure
  /-- The offsets given in partitions; 0 in all others. -/
  offsets : Table Int32 Int64
  /-- The partition named in acknowledgements from a partition; all others name themselves. -/
  reported : Table Int32 Int32

/-- A client that succeeds at once and knows no number of partitions. -/
def Script.init : Script :=
  ⟨none, 0, 0, 0, 0, .empty, none, none, .empty, .empty⟩

/-- A call to the client, and the time on the wall clock when it was made. -/
inductive Call where
  /-- Sending. -/
  | send (topic : String) (partition : Int32) (payload : List UInt8) (now : Int64)
  /-- Refreshing. -/
  | refresh (topic : String) (now : Int64)
  /-- Asking for the number of partitions. -/
  | count (topic : String) (now : Int64)
  /-- Closing. -/
  | close (now : Int64)
deriving DecidableEq, Repr

/-- A change that is planned. -/
structure Change where
  /-- When it happens, in milliseconds since the beginning. -/
  due : Nat
  /-- What becomes of the script. -/
  revise : Script → Script
  /-- How far the wall clock moves. -/
  shift : Int64

/-- A bench with a client. -/
structure Bench where
  /-- The script. -/
  script : Script
  /-- The wall clock but for the time that has passed. -/
  clock : Clock
  /-- The time that has passed, in milliseconds. -/
  elapsed : Nat
  /-- Changes to come, the next one first. -/
  planned : List Change
  /-- The calls made, in order. -/
  calls : List Call
  /-- The events reported, in order. -/
  journal : List Event

namespace Bench

/-- A bench on which nothing has happened. -/
def init (script : Script) (start : Int64) : Bench :=
  ⟨script, ⟨start⟩, 0, [], [], []⟩

/-- The time on the wall clock. -/
def now (b : Bench) : Int64 :=
  b.clock.now + Int64.ofNat b.elapsed

/-- Move the wall clock. -/
def shift (b : Bench) (delta : Int64) : Bench :=
  { b with clock := b.clock.advance delta }

/-- Note a call down. -/
def note (b : Bench) (call : Call) : Bench :=
  { b with calls := b.calls ++ [call] }

/-- Report an event. -/
def emit (event : Event) (b : Bench) : Bench :=
  { b with journal := b.journal ++ [event] }

/-- Carry out a change. -/
def apply (b : Bench) (change : Change) : Bench :=
  { b with script := change.revise b.script }.shift change.shift

/-- Let time pass until `time`, with the changes planned before then. What is planned for `time`
itself happens when time passes again. -/
def waitUntil (time : Nat) (b : Bench) : Bench :=
  let (due, later) := b.planned.span (·.due < time)
  let b := due.foldl apply { b with planned := later }
  { b with elapsed := max b.elapsed time }

/-- Begin to send. -/
def startSend (topic : String) (partition : Int32) (payload : List UInt8) (b : Bench) : Bench :=
  b.note (.send topic partition payload b.now)

/-- The answer to a sending. -/
def answerSend (partition : Int32) (b : Bench) : Except Failure Delivery × Bench :=
  let b := b.shift b.script.ackDelay
  match b.script.failures.get? partition with
  | some failure => (.error failure, b)
  | none =>
    (.ok ⟨(b.script.reported.get? partition).getD partition,
      (b.script.offsets.get? partition).getD 0⟩, b)

/-- The answer to a refreshing. -/
def answerRefresh (b : Bench) : Except Failure Unit × Bench :=
  match b.script.refreshFailure with
  | some failure => (.error failure, b)
  | none => (.ok (), b)

/-- The answer to a closing. -/
def answerClose (b : Bench) : Except Failure Unit × Bench :=
  match b.script.closeFailure with
  | some failure => (.error failure, b)
  | none => (.ok (), b)

/-- Let the time pass that a call lasts. -/
def last (wait : Nat) (b : Bench) : Bench :=
  if wait = 0 then b else b.waitUntil (b.elapsed + wait)

/-- What a canary can do to a bench. -/
def host : Host Bench where
  now := now
  elapsed := elapsed
  waitUntil := waitUntil
  emit := emit
  send topic partition payload b :=
    ((b.startSend topic partition payload).last b.script.sendWait).answerSend partition
  refresh topic b :=
    ((b.note (.refresh topic b.now)).last b.script.refreshWait).answerRefresh
  partitionCount topic b := (b.script.partitions, b.note (.count topic b.now))
  close b := ((b.note (.close b.now)).last b.script.closeWait).answerClose

/-- What concurrent callers can do to a bench. -/
def line : Line Bench where
  now := now
  emit := emit
  startSend := startSend
  answerSend _ := answerSend
  startRefresh topic b := b.note (.refresh topic b.now)
  answerRefresh _ := answerRefresh
  startClose b := b.note (.close b.now)
  answerClose := answerClose

/-- How long the call lasts that a caller in a phase has made. -/
def waitOf (b : Bench) : Phase → Nat
  | .sending .. => b.script.sendWait
  | .refreshing => b.script.refreshWait
  | .closing => b.script.closeWait
  | _ => 0

end Bench

end KafkaCanary
