import KafkaCanary.Scheduler
import Mathlib.Logic.Relation

/-!
# Runs of a producer

Sequences of operations on a producer, and a record of the calls that its client gets meanwhile. The
record is kept by a host that passes every call on and notes it together with its answer
(`Host.recording`); it does not change the run (`base_performAll`).

A run is a sequence of steps, each of which notes one call (`Account.Step`). What a step preserves,
the run preserves.

## Main results

* `base_performAll`: with the record erased, a recorded run is the run itself;
* `performAll_reaches`: every run is a sequence of steps;
* `Account.Reaches.preserves`: an invariant of the steps is one of the runs.
-/

namespace KafkaCanary

/-! ## Calls -/

/-- A call that the client got, with its answer. -/
inductive Exchange where
  /-- Bytes were to be sent to a partition of a topic. -/
  | send (topic : String) (partition : Int32) (payload : List UInt8)
      (answer : Except Failure Delivery)
  /-- The metadata of a topic was to be refreshed. -/
  | refresh (topic : String) (answer : Except Failure Unit)
  /-- The number of partitions of a topic was asked for. -/
  | count (topic : String) (answer : Option Int32)
  /-- The connections were to be released. -/
  | close (answer : Except Failure Unit)

/-- A call with the times around it. -/
structure Entry where
  /-- The call and its answer. -/
  exchange : Exchange
  /-- When it was made, in milliseconds since the world began. -/
  begun : Nat
  /-- What the wall clock showed when it returned. -/
  returned : Int64

/-- A message that was handed to the client. -/
structure Dispatch where
  /-- The topic it was sent to. -/
  topic : String
  /-- The partition it was sent to. -/
  partition : Int32
  /-- The bytes that carry it. -/
  payload : List UInt8
  /-- The answer. -/
  answer : Except Failure Delivery
  /-- What the wall clock showed when the answer came. -/
  returned : Int64

/-- The message that a call hands to the client, if it does. -/
def Entry.dispatch? (entry : Entry) : Option Dispatch :=
  match entry.exchange with
  | .send topic partition payload answer =>
    some ⟨topic, partition, payload, answer, entry.returned⟩
  | _ => none

/-- The messages that were handed to the client, in order. -/
def dispatches (entries : List Entry) : List Dispatch :=
  entries.filterMap Entry.dispatch?

/-- A dispatch at the end is the last of the dispatches. -/
theorem dispatches_concat_some {entry : Entry} {d : Dispatch} (h : entry.dispatch? = some d)
    (entries : List Entry) : dispatches (entries ++ [entry]) = dispatches entries ++ [d] := by
  rw [dispatches, List.filterMap_append, List.filterMap_cons_some h]
  rfl

/-- What is no dispatch adds none. -/
theorem dispatches_concat_none {entry : Entry} (h : entry.dispatch? = none)
    (entries : List Entry) : dispatches (entries ++ [entry]) = dispatches entries := by
  rw [dispatches, List.filterMap_append, List.filterMap_cons_none h]
  exact List.append_nil _

/-! ## The recording host -/

/-- A world with the calls made in it. -/
structure Ledger (W : Type) where
  /-- The world. -/
  world : W
  /-- The calls, in order. -/
  entries : List Entry

namespace Host

variable {W : Type}

/-- The host that notes every call. -/
def recording (host : Host W) : Host (Ledger W) where
  now l := host.now l.world
  elapsed l := host.elapsed l.world
  waitUntil time l := { l with world := host.waitUntil time l.world }
  emit event l := { l with world := host.emit event l.world }
  send topic partition payload l :=
    let (answer, w) := host.send topic partition payload l.world
    (answer, ⟨w, l.entries ++
      [⟨.send topic partition payload answer, host.elapsed l.world, host.now w⟩]⟩)
  refresh topic l :=
    let (answer, w) := host.refresh topic l.world
    (answer, ⟨w, l.entries ++ [⟨.refresh topic answer, host.elapsed l.world, host.now w⟩]⟩)
  partitionCount topic l :=
    let (answer, w) := host.partitionCount topic l.world
    (answer, ⟨w, l.entries ++ [⟨.count topic answer, host.elapsed l.world, host.now w⟩]⟩)
  close l :=
    let (answer, w) := host.close l.world
    (answer, ⟨w, l.entries ++ [⟨.close answer, host.elapsed l.world, host.now w⟩]⟩)

/-- Events are passed on and not noted. -/
theorem recording_emitAll (host : Host W) (events : List Event) (l : Ledger W) :
    host.recording.emitAll events l = { l with world := host.emitAll events l.world } := by
  induction events generalizing l with
  | nil => rfl
  | cons event events ih => exact ih _

end Host

/-! ## Operations -/

/-- What can happen to a producer and its world. -/
inductive Operation (W : Type) where
  /-- A message to each of the first `count` partitions of a topic. -/
  | send (topic : String) (count : Int32)
  /-- New metadata of a topic. -/
  | refresh (topic : String)
  /-- An end. -/
  | close
  /-- One cycle of a scheduler. -/
  | cycle (schedule : Schedule)
  /-- Something that the producer has no part in, such as a clock that is moved or a client that is
  set to answer otherwise. -/
  | outside (change : W → W)

namespace Canary

variable {W : Type}

/-- Perform one operation. -/
def perform (host : Host W) (c : Canary W) : Operation W → Canary W
  | .send topic count => c.sendToPartitions host topic count
  | .refresh topic => c.refresh host topic
  | .close => (c.close host).2
  | .cycle schedule => (schedule.runCycle host c).2
  | .outside change => { c with world := change c.world }

/-- Perform operations one after the other. -/
def performAll (host : Host W) (ops : List (Operation W)) (c : Canary W) : Canary W :=
  ops.foldl (perform host) c

/-- A canary without the record of its calls. -/
def base (c : Canary (Ledger W)) : Canary W :=
  ⟨c.producer, c.world.world⟩

/-- A canary at the beginning of a record. -/
def recorded (c : Canary W) : Canary (Ledger W) :=
  ⟨c.producer, ⟨c.world, []⟩⟩

end Canary

/-- The operation on a world whose calls are recorded. -/
def Operation.recorded {W : Type} : Operation W → Operation (Ledger W)
  | .send topic count => .send topic count
  | .refresh topic => .refresh topic
  | .close => .close
  | .cycle schedule => .cycle schedule
  | .outside change => .outside fun l => { l with world := change l.world }

/-! ## Recording changes nothing -/

namespace Canary

variable {W : Type} (host : Host W)

/-- A probe is the same without the ledger. -/
theorem base_attempt (topic : String) (c : Canary (Ledger W)) (partition : Int32) :
    (c.attempt host.recording topic partition).base = c.base.attempt host topic partition := by
  simp only [attempt, base, Host.recording_emitAll]
  rfl

/-- Probes one after another are the same without the ledger. -/
theorem base_foldl_attempt (topic : String) (partitions : List Int32) (c : Canary (Ledger W)) :
    (partitions.foldl (attempt host.recording topic) c).base =
      partitions.foldl (attempt host topic) c.base := by
  induction partitions generalizing c with
  | nil => rfl
  | cons partition partitions ih => rw [List.foldl_cons, List.foldl_cons, ih, base_attempt]

/-- Sending to every partition is the same without the ledger. -/
theorem base_sendToPartitions (topic : String) (count : Int32) (c : Canary (Ledger W)) :
    (c.sendToPartitions host.recording topic count).base =
      c.base.sendToPartitions host topic count := by
  unfold sendToPartitions
  by_cases hneg : count < 0
  · rw [if_pos hneg, if_pos hneg]; rfl
  rw [if_neg hneg, if_neg hneg]
  by_cases hclosed : c.producer.closed
  · rw [if_pos hclosed, if_pos (show c.base.producer.closed from hclosed)]; rfl
  · rw [if_neg hclosed, if_neg (show ¬c.base.producer.closed from hclosed)]
    exact base_foldl_attempt host topic _ c

/-- A refresh is the same without the ledger. -/
theorem base_refresh (topic : String) (c : Canary (Ledger W)) :
    (c.refresh host.recording topic).base = c.base.refresh host topic := by
  unfold refresh
  simp only [Host.recording, base]
  split <;> simp [*]

/-- A close is the same without the ledger. -/
theorem base_close (c : Canary (Ledger W)) :
    (c.close host.recording).2.base = (c.base.close host).2 := by
  unfold close
  by_cases hclosed : c.producer.closed
  · rw [if_pos hclosed, if_pos (show c.base.producer.closed from hclosed)]
    rfl
  rw [if_neg hclosed, if_neg (show ¬c.base.producer.closed from hclosed)]
  simp only [Host.recording, base]
  split <;> rfl

/-- A fan-out is the same without the ledger. -/
theorem base_fanOut (schedule : Schedule) (count : Option Int32) (c : Canary (Ledger W)) :
    (schedule.fanOut host.recording count c).2.base = (schedule.fanOut host count c.base).2 := by
  cases count with
  | none => rfl
  | some n => exact base_sendToPartitions host schedule.topic n _

/-- Recording does not change how many partitions a schedule finds. -/
theorem count_recording (schedule : Schedule) (l : Ledger W) :
    (schedule.count host.recording l).1 = (schedule.count host l.world).1 ∧
      (schedule.count host.recording l).2.world = (schedule.count host l.world).2 := by
  unfold Schedule.count
  cases schedule.partitions <;> exact ⟨rfl, rfl⟩

/-- A cycle is the same without the ledger. -/
theorem base_runCycle (schedule : Schedule) (c : Canary (Ledger W)) :
    (schedule.runCycle host.recording c).2.base = (schedule.runCycle host c.base).2 := by
  have hcount := count_recording host schedule (c.refresh host.recording schedule.topic).world
  simp only [Schedule.runCycle]
  rw [base_fanOut, hcount.1, ← base_refresh]
  unfold base
  rw [hcount.2]

/-- One operation is the same without the ledger. -/
theorem base_perform (op : Operation W) (c : Canary (Ledger W)) :
    (c.perform host.recording op.recorded).base = c.base.perform host op := by
  cases op with
  | send topic count => exact base_sendToPartitions host topic count c
  | refresh topic => exact base_refresh host topic c
  | close => exact base_close host c
  | cycle schedule => exact base_runCycle host schedule c
  | outside change => rfl

/-- Recording the calls does not change a run. -/
theorem base_performAll (ops : List (Operation W)) (c : Canary (Ledger W)) :
    (c.performAll host.recording (ops.map .recorded)).base = c.base.performAll host ops := by
  induction ops generalizing c with
  | nil => rfl
  | cons op ops ih =>
    show ((c.perform host.recording op.recorded).performAll host.recording _).base = _
    rw [ih, base_perform]
    rfl

end Canary

/-! ## Steps -/

/-- A producer with the calls it has made. -/
structure Account where
  /-- The producer. -/
  producer : Producer
  /-- The calls, in order. -/
  entries : List Entry

namespace Account

/-- One step of a run: a call, and what the producer makes of the answer. Only a producer that is
open sends and closes. -/
inductive Step : Account → Account → Prop
  /-- The metadata of a topic is refreshed, or not. -/
  | refresh {p : Producer} {entries : List Entry} {topic : String} {answer : Except Failure Unit}
      {begun : Nat} {returned : Int64} :
      Step ⟨p, entries⟩ ⟨p, entries ++ [⟨.refresh topic answer, begun, returned⟩]⟩
  /-- The number of partitions is found out, or not. -/
  | count {p : Producer} {entries : List Entry} {topic : String} {answer : Option Int32}
      {begun : Nat} {returned : Int64} :
      Step ⟨p, entries⟩ ⟨p, entries ++ [⟨.count topic answer, begun, returned⟩]⟩
  /-- The client is closed. -/
  | close {p : Producer} {entries : List Entry} {begun : Nat} {returned : Int64} :
      p.closed = false →
        Step ⟨p, entries⟩
          ⟨{ p with closed := true }, entries ++ [⟨.close (.ok ()), begun, returned⟩]⟩
  /-- The client is not closed, although the producer wants it to be. -/
  | closeFailed {p : Producer} {entries : List Entry} {failure : Failure} {begun : Nat}
      {returned : Int64} : p.closed = false →
        Step ⟨p, entries⟩ ⟨p, entries ++ [⟨.close (.error failure), begun, returned⟩]⟩
  /-- A message is made at time `now` and handed to the client, and its answer is counted. -/
  | send {p : Producer} {entries : List Entry} {topic : String} {partition : Int32} {now : Int64}
      {answer : Except Failure Delivery} {begun : Nat} {returned : Int64} : p.closed = false →
        Step ⟨p, entries⟩
          ⟨((p.stamp now).2.settle (p.stamp now).1 partition answer returned).1,
            entries ++ [⟨.send topic partition (p.stamp now).1.payload answer, begun, returned⟩]⟩

/-- A step hands no message to the client and leaves the producer as it is, but for being open, or
it hands over one and takes its answer into account. -/
theorem Step.dispatches_eq {a b : Account} (h : Step a b) :
    (b.producer = { a.producer with closed := b.producer.closed } ∧
        dispatches b.entries = dispatches a.entries) ∨
      ∃ topic partition now answer returned,
        b.producer = ((a.producer.stamp now).2.settle (a.producer.stamp now).1 partition answer
          returned).1 ∧
        dispatches b.entries = dispatches a.entries ++
          [⟨topic, partition, (a.producer.stamp now).1.payload, answer, returned⟩] := by
  cases h with
  | refresh => exact .inl ⟨rfl, dispatches_concat_none rfl _⟩
  | count => exact .inl ⟨rfl, dispatches_concat_none rfl _⟩
  | close _ => exact .inl ⟨rfl, dispatches_concat_none rfl _⟩
  | closeFailed _ => exact .inl ⟨rfl, dispatches_concat_none rfl _⟩
  | send _ => exact .inr ⟨_, _, _, _, _, rfl, dispatches_concat_some rfl _⟩

/-- Any number of steps. -/
def Reaches : Account → Account → Prop :=
  Relation.ReflTransGen Step

/-- What every step preserves, any number of steps preserve. -/
theorem Reaches.preserves {P : Account → Prop} (hstep : ∀ {a b}, Step a b → P a → P b)
    {a b : Account} (h : Reaches a b) (ha : P a) : P b := by
  induction h with
  | refl => exact ha
  | tail _ hs ih => exact hstep hs ih

end Account

namespace Canary

open Account

variable {W : Type} (host : Host W)

/-- The producer of a canary with the calls recorded. -/
def account (c : Canary (Ledger W)) : Account :=
  ⟨c.producer, c.world.entries⟩

/-- Reports pass the record by, so a message is all that an attempt adds to it. -/
theorem attempt_step {c : Canary (Ledger W)} (h : c.producer.closed = false) (topic : String)
    (partition : Int32) : Step c.account (c.attempt host.recording topic partition).account := by
  simp only [attempt, Host.recording_emitAll]
  exact .send h

/-- A probe neither opens nor closes the producer. -/
theorem closed_attempt (topic : String) (c : Canary (Ledger W)) (partition : Int32) :
    (c.attempt host.recording topic partition).producer.closed = c.producer.closed :=
  rfl

/-- Probes one after another, by induction on their list. -/
theorem foldl_attempt_reaches {c : Canary (Ledger W)} (h : c.producer.closed = false)
    (topic : String) (partitions : List Int32) :
    Reaches c.account (partitions.foldl (attempt host.recording topic) c).account := by
  induction partitions generalizing c with
  | nil => exact .refl
  | cons partition partitions ih =>
    refine .head (attempt_step host h topic partition) (ih ?_)
    rw [closed_attempt, h]

/-- Sending to every partition is a sequence of steps, none if the producer is closed. -/
theorem sendToPartitions_reaches (topic : String) (count : Int32) (c : Canary (Ledger W)) :
    Reaches c.account (c.sendToPartitions host.recording topic count).account := by
  unfold sendToPartitions
  by_cases hneg : count < 0
  · rw [if_pos hneg]; exact .refl
  rw [if_neg hneg]
  by_cases hclosed : c.producer.closed
  · rw [if_pos hclosed]; exact .refl
  · rw [if_neg hclosed]
    exact foldl_attempt_reaches host (Bool.eq_false_iff.2 hclosed) topic _

/-- A refresh is one step. -/
theorem refresh_reaches (topic : String) (c : Canary (Ledger W)) :
    Reaches c.account (c.refresh host.recording topic).account := by
  unfold refresh
  dsimp only
  split <;> exact .single .refresh

/-- A close is one step, whether it fails or not, and none if the producer is closed. -/
theorem close_reaches (c : Canary (Ledger W)) :
    Reaches c.account (c.close host.recording).2.account := by
  unfold close
  by_cases hclosed : c.producer.closed
  · rw [if_pos hclosed]; exact .refl
  rw [if_neg hclosed]
  have hopen := Bool.eq_false_iff.2 hclosed
  -- Whether the producer is closed afterwards is for the client to say.
  rcases hc : host.close (host.emit .producerClosing c.world.world) with ⟨answer, w⟩
  simp only [Host.recording, hc]
  cases answer with
  | error failure => exact .single (.closeFailed hopen)
  | ok => exact .single (.close hopen)

/-- A fan-out is a sequence of steps, also when the count is unknown. -/
theorem fanOut_reaches (schedule : Schedule) (count : Option Int32) (c : Canary (Ledger W)) :
    Reaches c.account (schedule.fanOut host.recording count c).2.account := by
  cases count with
  | none => exact .refl
  | some n =>
    exact sendToPartitions_reaches host schedule.topic n
      { c with world := host.recording.emit (.fanningOut n schedule.topic) c.world }

/-- Asking for the count is one step, and none if the count is fixed. -/
theorem count_reaches (schedule : Schedule) (c : Canary (Ledger W)) :
    Reaches c.account
      (⟨c.producer, (schedule.count host.recording c.world).2⟩ : Canary (Ledger W)).account := by
  unfold Schedule.count
  cases schedule.partitions with
  | some n => exact .refl
  | none => exact .single .count

/-- A cycle is the steps of its refresh, its question and its fan-out. -/
theorem runCycle_reaches (schedule : Schedule) (c : Canary (Ledger W)) :
    Reaches c.account (schedule.runCycle host.recording c).2.account := by
  -- A cycle is a refresh, a question for the number of partitions and a fan-out.
  refine (refresh_reaches host schedule.topic c).trans ?_
  refine (count_reaches host schedule _).trans ?_
  exact fanOut_reaches host schedule _ _

/-- One operation is a sequence of steps. -/
theorem perform_reaches (op : Operation W) (c : Canary (Ledger W)) :
    Reaches c.account (c.perform host.recording op.recorded).account := by
  cases op with
  | send topic count => exact sendToPartitions_reaches host topic count c
  | refresh topic => exact refresh_reaches host topic c
  | close => exact close_reaches host c
  | cycle schedule => exact runCycle_reaches host schedule c
  | outside change => exact .refl

/-- Every run is a sequence of steps. -/
theorem performAll_reaches (ops : List (Operation W)) (c : Canary (Ledger W)) :
    Reaches c.account (c.performAll host.recording (ops.map .recorded)).account := by
  induction ops generalizing c with
  | nil => exact .refl
  | cons op ops ih => exact (perform_reaches host op c).trans (ih _)

end Canary

end KafkaCanary
