import KafkaCanary.Proofs.Producer.Sequence
import KafkaCanary.Rehearsal.Bench
import Mathlib.Data.List.Chain

/-!
# Runs of a scheduler

What a run of a scheduler asks of its client. A run is a sequence of cycles, each of which begins
when the one before it has ended and some time has passed (`Schedule.Cycles`). Every cycle that
begins is complete, whatever happens to the client, the clock or the shutdown meanwhile: the
shutdown is looked at between cycles only.

## Main results

* `Schedule.exists_cyclesFrom_of_runFrom`: a run is a sequence of cycles, and what the run does
  between them asks nothing of the client;
* `Schedule.Cycles.complete`: every cycle is complete;
* `calls_of_run`: all that a run asks of its client, and when.
-/

namespace KafkaCanary

/-! ## Time -/

/-- Reports take no time, and a wait ends at the time it was for, or at once if that has passed. -/
structure Host.Timely {W : Type} (host : Host W) : Prop where
  elapsed_emit : ∀ event w, host.elapsed (host.emit event w) = host.elapsed w
  elapsed_waitUntil : ∀ time w,
    host.elapsed (host.waitUntil time w) = max (host.elapsed w) time

/-- Whether a shutdown ends a run that looks at it. -/
def Shutdown.Over {W : Type} (shutdown : Shutdown W) (host : Host W) (w : W) : Prop :=
  shutdown.arrived w ∨ shutdown.latest ≤ host.elapsed w

/-- The shutdown in a world whose calls are recorded. -/
def Shutdown.recorded {W : Type} (shutdown : Shutdown W) : Shutdown (Ledger W) where
  latest := shutdown.latest
  arrived l := shutdown.arrived l.world
  announce l := { l with world := shutdown.announce l.world }

/-! ## Cycles -/

/-- One cycle of a run. -/
structure Cycle where
  /-- When it began, in milliseconds since the world began. -/
  begun : Nat
  /-- When it ended. -/
  ended : Nat
  /-- What it asked of the client. -/
  calls : List Entry

/-- Where the message of a call was sent, if the call was for that. -/
def Entry.address? (entry : Entry) : Option (String × Int) :=
  entry.dispatch?.map Dispatch.address

/-- Whether a call was for new metadata. -/
def Entry.isRefresh (entry : Entry) : Bool :=
  match entry.exchange with
  | .refresh _ _ => true
  | _ => false

/-- Where a producer sends when a number of partitions was found out, or was not. -/
def addressesOf (topic : String) (closed : Bool) (count : Option Int32) : List (String × Int) :=
  count.elim [] fun n => FanOut.block ⟨topic, n, closed⟩

/-- A complete cycle refreshes the metadata when it begins, asks for the number of partitions unless
the schedule says it, and sends to each of the partitions, one after the other. -/
def Cycle.Complete (cycle : Cycle) (schedule : Schedule) (closed : Bool) : Prop :=
  ∃ (refreshed : Entry) (asked sent : List Entry) (count : Option Int32),
    cycle.calls = refreshed :: (asked ++ sent) ∧
    (∃ answer, refreshed.exchange = .refresh schedule.topic answer) ∧
    refreshed.begun = cycle.begun ∧
    (match schedule.partitions with
      | some n => asked = [] ∧ count = some n
      | none => ∃ entry, asked = [entry] ∧ entry.exchange = .count schedule.topic count) ∧
    sent.map Entry.address? = (addressesOf schedule.topic closed count).map some

namespace Canary

variable {W : Type}

/-- Let time pass until the time given. -/
def pause (host : Host W) (time : Nat) (c : Canary (Ledger W)) : Canary (Ledger W) :=
  { c with world := host.recording.waitUntil time c.world }

end Canary

namespace Schedule

variable {W : Type}

/-- The cycle that begins in a state. -/
def cycle (host : Host W) (schedule : Schedule) (c : Canary (Ledger W)) : Cycle :=
  let finished := (schedule.runCycle host.recording c).2
  { begun := host.elapsed c.world.world
    ended := host.elapsed finished.world.world
    calls := finished.world.entries.drop c.world.entries.length }

/-- Cycles of a schedule between two states, one after the other. No cycle begins if the shutdown
was over when the one before it had ended, or before the next one is due. -/
inductive Cycles (host : Host W) (schedule : Schedule) (shutdown : Shutdown W) :
    Canary (Ledger W) → List Cycle → Canary (Ledger W) → Prop
  | done {c : Canary (Ledger W)} : Cycles host schedule shutdown c [] c
  | next {c c' : Canary (Ledger W)} {cycles : List Cycle} {time : Nat} :
      ¬shutdown.Over host c.world.world → time < shutdown.latest →
      Cycles host schedule shutdown (schedule.runCycle host.recording (c.pause host time)).2
        cycles c' →
      Cycles host schedule shutdown c (schedule.cycle host (c.pause host time) :: cycles) c'

/-- The cycles of a run from the time at which the next one is due. Each begins when it is due, or
at once if that time has passed, and moves the ones after it if it is late. -/
inductive CyclesFrom (host : Host W) (schedule : Schedule) (shutdown : Shutdown W) :
    Nat → Canary (Ledger W) → List Cycle → Canary (Ledger W) → Prop
  | halted {due : Nat} {c : Canary (Ledger W)} :
      shutdown.Over host c.world.world → CyclesFrom host schedule shutdown due c [] c
  | ended {due : Nat} {c : Canary (Ledger W)} : ¬shutdown.Over host c.world.world →
      shutdown.latest ≤ due → CyclesFrom host schedule shutdown due c [] c
  | next {due : Nat} {c c' : Canary (Ledger W)} {cycles : List Cycle} :
      ¬shutdown.Over host c.world.world → due < shutdown.latest →
      CyclesFrom host schedule shutdown
        (nextDue schedule.interval.val.millis due (schedule.cycle host (c.pause host due)).begun)
        (schedule.runCycle host.recording (c.pause host due)).2 cycles c' →
      CyclesFrom host schedule shutdown due c
        (schedule.cycle host (c.pause host due) :: cycles) c'

end Schedule

/-! ## What a cycle asks of the client -/

namespace Canary

variable {W : Type} (host : Host W)

/-- Probes add an entry each, to their partitions in order. -/
theorem exists_sent_of_foldl_attempt (topic : String) (partitions : List Int32)
    (c : Canary (Ledger W)) : ∃ sent,
      (partitions.foldl (attempt host.recording topic) c).world.entries =
          c.world.entries ++ sent ∧
        sent.map Entry.address? =
          partitions.map fun partition => some (topic, partition.toInt) := by
  induction partitions generalizing c with
  | nil => exact ⟨[], (List.append_nil _).symm, rfl⟩
  | cons partition partitions ih =>
    obtain ⟨sent, hentries, hsent⟩ := ih (c.attempt host.recording topic partition)
    have hattempt : ∃ entry,
        (c.attempt host.recording topic partition).world.entries = c.world.entries ++ [entry] ∧
          entry.address? = some (topic, partition.toInt) := by
      simp only [attempt, Host.recording_emitAll]
      exact ⟨_, rfl, rfl⟩
    obtain ⟨entry, hentry, haddress⟩ := hattempt
    refine ⟨entry :: sent, ?_, ?_⟩
    · rw [List.foldl_cons, hentries, hentry, List.append_assoc]
      rfl
    · rw [List.map_cons, List.map_cons, hsent, haddress]

/-- Sending to every partition adds the entries of its block. -/
theorem exists_sent_of_sendToPartitions (topic : String) (count : Int32)
    (c : Canary (Ledger W)) : ∃ sent,
      (c.sendToPartitions host.recording topic count).world.entries = c.world.entries ++ sent ∧
        sent.map Entry.address? =
          (FanOut.block ⟨topic, count, c.producer.closed⟩).map some := by
  unfold sendToPartitions FanOut.block
  by_cases hneg : count < 0
  · rw [if_pos hneg, if_pos (.inr hneg)]
    exact ⟨[], (List.append_nil _).symm, rfl⟩
  rw [if_neg hneg]
  by_cases hclosed : c.producer.closed
  · rw [if_pos hclosed, if_pos (.inl hclosed)]
    exact ⟨[], (List.append_nil _).symm, rfl⟩
  · rw [if_neg hclosed, if_neg (by simp [hneg, hclosed])]
    obtain ⟨sent, hentries, hsent⟩ :=
      exists_sent_of_foldl_attempt host topic (partitionRange count) c
    refine ⟨sent, hentries, hsent.trans ?_⟩
    have := congrArg (List.map fun z => some (topic, z)) (map_toInt_partitionRange count)
    rw [List.map_map, List.map_map] at this
    rw [List.map_map]
    exact this

/-- A refresh adds its one entry, and begins when it is reported. -/
theorem exists_refreshed (topic : String) (c : Canary (Ledger W)) : ∃ entry answer,
    (c.refresh host.recording topic).world.entries = c.world.entries ++ [entry] ∧
      entry.exchange = .refresh topic answer ∧
      entry.begun = host.elapsed (host.emit (.refreshing topic) c.world.world) := by
  unfold refresh
  dsimp only
  split <;> exact ⟨_, _, rfl, rfl, rfl⟩

/-- The count is asked for only if it is not fixed. -/
theorem exists_asked (schedule : Schedule) (c : Canary (Ledger W)) : ∃ asked,
    (schedule.count host.recording c.world).2.entries = c.world.entries ++ asked ∧
      match schedule.partitions with
      | some n => asked = [] ∧ (schedule.count host.recording c.world).1 = some n
      | none => ∃ entry, asked = [entry] ∧
          entry.exchange = .count schedule.topic (schedule.count host.recording c.world).1 := by
  unfold Schedule.count
  cases schedule.partitions with
  | some n => exact ⟨[], (List.append_nil _).symm, rfl, rfl⟩
  | none => exact ⟨_, rfl, _, rfl, rfl⟩

/-- A fan-out adds an entry for each of its addresses. -/
theorem exists_sent_of_fanOut (schedule : Schedule) (count : Option Int32)
    (c : Canary (Ledger W)) : ∃ sent,
      (schedule.fanOut host.recording count c).2.world.entries = c.world.entries ++ sent ∧
        sent.map Entry.address? =
          (addressesOf schedule.topic c.producer.closed count).map some := by
  cases count with
  | none => exact ⟨[], (List.append_nil _).symm, rfl⟩
  | some n => exact exists_sent_of_sendToPartitions host schedule.topic n _

/-- A refresh leaves the producer as it is. -/
theorem producer_refresh (host : Host W) (topic : String) (c : Canary W) :
    (c.refresh host topic).producer = c.producer := by
  unfold refresh
  dsimp only
  split <;> rfl

/-- Sending neither opens nor closes the producer. -/
theorem closed_sendToPartitions (host : Host W) (topic : String) (count : Int32) (c : Canary W) :
    (c.sendToPartitions host topic count).producer.closed = c.producer.closed := by
  unfold sendToPartitions
  split
  · rfl
  split
  · rfl
  generalize partitionRange count = partitions
  induction partitions generalizing c with
  | nil => rfl
  | cons partition partitions ih => exact ih _ ‹_›

end Canary

namespace Schedule

variable {W : Type} (host : Host W) {schedule : Schedule}

/-- A cycle neither opens nor closes the producer. -/
theorem closed_runCycle (host : Host W) (schedule : Schedule) (c : Canary W) :
    (schedule.runCycle host c).2.producer.closed = c.producer.closed := by
  have hrefresh := c.producer_refresh host schedule.topic
  simp only [runCycle]
  cases (schedule.count host (c.refresh host schedule.topic).world).1 with
  | none => exact congrArg Producer.closed hrefresh
  | some n =>
    refine (Canary.closed_sendToPartitions host schedule.topic n _).trans ?_
    exact congrArg Producer.closed hrefresh

/-- A cycle adds its calls to the record, and they are those of a complete cycle. -/
theorem entries_runCycle_and_complete (htimely : host.Timely) (c : Canary (Ledger W)) :
    (schedule.runCycle host.recording c).2.world.entries =
        c.world.entries ++ (schedule.cycle host c).calls ∧
      (schedule.cycle host c).Complete schedule c.producer.closed := by
  have hproducer := c.producer_refresh host.recording schedule.topic
  obtain ⟨refreshed, answer, hrefreshed, hexchange, hbegun⟩ :=
    c.exists_refreshed host schedule.topic
  -- The report of the refresh comes before the call, and takes no time.
  rw [htimely.elapsed_emit] at hbegun
  obtain ⟨asked, hasked, hcount⟩ :=
    (c.refresh host.recording schedule.topic).exists_asked host schedule
  obtain ⟨sent, hsent, haddresses⟩ := Canary.exists_sent_of_fanOut host schedule
    (schedule.count host.recording (c.refresh host.recording schedule.topic).world).1
    ⟨(c.refresh host.recording schedule.topic).producer,
      (schedule.count host.recording (c.refresh host.recording schedule.topic).world).2⟩
  have hentries : (schedule.runCycle host.recording c).2.world.entries =
      c.world.entries ++ (refreshed :: (asked ++ sent)) := by
    rw [runCycle, hsent, hasked, hrefreshed, List.append_assoc, List.append_assoc]
    rfl
  have hcalls : (schedule.cycle host c).calls = refreshed :: (asked ++ sent) := by
    rw [cycle, hentries]
    exact List.drop_left
  refine ⟨hentries.trans (congrArg _ hcalls.symm), ?_⟩
  rw [hproducer] at haddresses
  exact ⟨refreshed, asked, sent, _, hcalls, ⟨answer, hexchange⟩, hbegun, hcount, haddresses⟩

end Schedule

/-- A refresh sends no message. -/
theorem Entry.address?_of_isRefresh {entry : Entry} (h : entry.isRefresh) :
    entry.address? = none := by
  obtain ⟨exchange, begun, returned⟩ := entry
  cases exchange with
  | refresh topic answer => rfl
  | send _ _ _ _ => cases h
  | count _ _ => cases h
  | close _ => cases h

/-- A complete cycle refreshes the metadata once. -/
theorem Cycle.Complete.length_refreshes {cycle : Cycle} {schedule : Schedule} {closed : Bool}
    (h : cycle.Complete schedule closed) : (cycle.calls.filter Entry.isRefresh).length = 1 := by
  obtain ⟨refreshed, asked, sent, count, hcalls, ⟨answer, hexchange⟩, -, hasked, hsent⟩ := h
  have hrefreshed : refreshed.isRefresh := by rw [Entry.isRefresh, hexchange]
  -- Neither the question nor the sends count, so that the refresh at the beginning is the only one.
  have hasked : asked.filter Entry.isRefresh = [] := by
    revert hasked
    cases schedule.partitions with
    | some n =>
      rintro ⟨rfl, -⟩
      rfl
    | none =>
      rintro ⟨entry, rfl, hentry⟩
      exact List.filter_cons_of_neg (by rw [Entry.isRefresh, hentry]; nofun)
  have hsent : sent.filter Entry.isRefresh = [] := by
    refine List.filter_eq_nil_iff.2 fun entry hentry hrefresh => ?_
    have hmem : entry.address? ∈ sent.map Entry.address? := List.mem_map_of_mem hentry
    rw [hsent, Entry.address?_of_isRefresh hrefresh, List.mem_map] at hmem
    obtain ⟨_, -, hnone⟩ := hmem
    cases hnone
  rw [hcalls, List.filter_cons_of_pos hrefreshed, List.filter_append, hasked, hsent]
  rfl

/-! ## Sequences of cycles -/

namespace Schedule.Cycles

variable {W : Type} {host : Host W} {schedule : Schedule} {shutdown : Shutdown W}
  {c c' : Canary (Ledger W)} {cycles : List Cycle}

/-- After a pause it is the time waited for, or later already. -/
theorem elapsed_pause (htimely : host.Timely) (time : Nat) (c : Canary (Ledger W)) :
    host.elapsed (c.pause host time).world.world = max (host.elapsed c.world.world) time :=
  htimely.elapsed_waitUntil time c.world.world

/-- Time that passes between cycles asks nothing of the client. -/
theorem entries_eq (htimely : host.Timely) (h : Cycles host schedule shutdown c cycles c') :
    c'.world.entries = c.world.entries ++ cycles.flatMap Cycle.calls := by
  induction h with
  | done => exact (List.append_nil _).symm
  | @next c c' cycles time _ _ _ ih =>
    obtain ⟨hentries, -⟩ := entries_runCycle_and_complete host htimely (c.pause host time)
    rw [ih, hentries, List.append_assoc, List.flatMap_cons]
    rfl

/-- Every cycle is complete. -/
theorem complete (htimely : host.Timely) (h : Cycles host schedule shutdown c cycles c') :
    ∀ cycle ∈ cycles, cycle.Complete schedule c.producer.closed := by
  induction h with
  | done => exact nofun
  | @next c c' cycles time _ _ _ ih =>
    obtain ⟨-, hcomplete⟩ := entries_runCycle_and_complete host htimely (c.pause host time)
    rw [closed_runCycle] at ih
    exact List.forall_mem_cons.2 ⟨hcomplete, ih⟩

/-- No cycle begins once the shutdown is over. -/
theorem begun_lt (htimely : host.Timely) (h : Cycles host schedule shutdown c cycles c') :
    ∀ cycle ∈ cycles, cycle.begun < shutdown.latest := by
  induction h with
  | done => exact nofun
  | @next c c' cycles time hover htime _ ih =>
    refine List.forall_mem_cons.2 ⟨?_, ih⟩
    -- The cycle begins when it is due or now, whichever is later.
    have hnow : host.elapsed c.world.world < shutdown.latest :=
      Nat.lt_of_not_le fun hle => hover (.inr hle)
    show host.elapsed (c.pause host time).world.world < shutdown.latest
    rw [elapsed_pause htimely]
    exact Nat.max_lt.2 ⟨hnow, htime⟩

/-- No cycle begins before the run does. -/
theorem elapsed_le_begun (htimely : host.Timely) (h : Cycles host schedule shutdown c cycles c') :
    ∀ cycle ∈ cycles.head?, host.elapsed c.world.world ≤ cycle.begun := by
  cases h with
  | done => exact nofun
  | @next _ _ _ time _ _ _ =>
    rintro cycle ⟨⟩
    show _ ≤ host.elapsed (c.pause host time).world.world
    rw [elapsed_pause htimely]
    exact Nat.le_max_left _ _

/-- No cycle begins before the one before it has ended. -/
theorem isChain (htimely : host.Timely) (h : Cycles host schedule shutdown c cycles c') :
    cycles.IsChain fun a b => a.ended ≤ b.begun := by
  induction h with
  | done => exact .nil
  | next _ _ hcycles ih =>
    exact List.isChain_cons.2 ⟨hcycles.elapsed_le_begun htimely, ih⟩

/-- A cycle during which the shutdown comes is the last one. -/
theorem ended_lt (h : Cycles host schedule shutdown c cycles c') :
    ∀ cycle ∈ cycles.dropLast, cycle.ended < shutdown.latest := by
  induction h with
  | done => exact nofun
  | next _ _ hcycles ih =>
    cases hcycles with
    | done => exact nofun
    | next hover _ _ =>
      exact List.forall_mem_cons.2 ⟨Nat.lt_of_not_le fun hle => hover (.inr hle), ih⟩

/-- There are as many refreshes as cycles. -/
theorem length_refreshes (htimely : host.Timely)
    (h : Cycles host schedule shutdown c cycles c') :
    ((cycles.flatMap Cycle.calls).filter Entry.isRefresh).length = cycles.length := by
  have hcomplete := h.complete htimely
  clear h
  induction cycles with
  | nil => rfl
  | cons cycle cycles ih =>
    obtain ⟨hcycle, hcycles⟩ := List.forall_mem_cons.1 hcomplete
    rw [List.flatMap_cons, List.filter_append, List.length_append, hcycle.length_refreshes,
      ih hcycles, List.length_cons, Nat.add_comm]

end Schedule.Cycles

/-! ## Runs -/

namespace Schedule

variable {W : Type} (host : Host W) (schedule : Schedule) (shutdown : Shutdown W)

/-- A shutdown is over at the same time with a ledger kept. -/
theorem over_recorded_iff (l : Ledger W) :
    (shutdown.recorded.arrived l || shutdown.recorded.latest ≤ host.recording.elapsed l) = true ↔
      shutdown.Over host l.world := by
  rw [Bool.or_eq_true, decide_eq_true_iff]
  rfl

/-- From the time at which the next cycle is due, a run is a sequence of cycles. -/
theorem exists_cyclesFrom_of_runFrom (due n : Nat) (c : Canary (Ledger W)) :
    ∃ cycles c', CyclesFrom host schedule shutdown due c cycles c' ∧
      (schedule.runFrom host.recording shutdown.recorded due n c).1 = n + cycles.length ∧
      (schedule.runFrom host.recording shutdown.recorded due n c).2.world.entries =
        c'.world.entries := by
  -- The cases are those of a run: the shutdown is over, it comes before the next cycle, or neither.
  fun_induction runFrom host.recording schedule shutdown.recorded due n c with
  | case1 due n c hover =>
    rw [over_recorded_iff] at hover
    exact ⟨[], c, .halted hover, rfl, rfl⟩
  | case2 due n c hover hdue =>
    rw [over_recorded_iff] at hover
    exact ⟨[], c, .ended hover hdue, rfl, rfl⟩
  | case3 due n c hover hdue woken ih =>
    rw [over_recorded_iff] at hover
    obtain ⟨cycles, c', hcycles, hcount, hentries⟩ := ih
    refine ⟨_ :: cycles, c', .next hover (Nat.lt_of_not_le hdue) hcycles, ?_, hentries⟩
    rw [hcount, List.length_cons, Nat.add_right_comm]
    rfl

variable {host schedule shutdown} in
/-- Cycles from a due time are cycles. -/
theorem CyclesFrom.cycles {due : Nat} {c c' : Canary (Ledger W)} {cycles : List Cycle}
    (h : CyclesFrom host schedule shutdown due c cycles c') :
    Cycles host schedule shutdown c cycles c' := by
  induction h with
  | halted _ => exact .done
  | ended _ _ => exact .done
  | next hover hdue _ ih => exact .next hover hdue ih

/-- The first cycle of a run begins when it is due. -/
theorem exists_cycles_of_runFrom (due n : Nat) (c : Canary (Ledger W)) :
    ∃ cycles c', Cycles host schedule shutdown c cycles c' ∧
      (schedule.runFrom host.recording shutdown.recorded due n c).1 = n + cycles.length ∧
      (schedule.runFrom host.recording shutdown.recorded due n c).2.world.entries =
        c'.world.entries ∧
      (¬shutdown.Over host c.world.world → due < shutdown.latest →
        cycles.head?.map Cycle.begun = some (host.elapsed (c.pause host due).world.world)) := by
  obtain ⟨cycles, c', hcycles, hcount, hentries⟩ :=
    exists_cyclesFrom_of_runFrom host schedule shutdown due n c
  refine ⟨cycles, c', hcycles.cycles, hcount, hentries, fun hover hdue => ?_⟩
  cases hcycles with
  | halted h => exact (hover h).elim
  | ended _ h => exact (Nat.not_lt_of_le h hdue).elim
  | next _ _ _ => rfl

/-! A run looks at the shutdown, then at the time of the next cycle, and then runs the cycle. -/

/-- A run that is over does nothing. -/
theorem runFrom_of_over {c : Canary W} (h : shutdown.Over host c.world) (due n : Nat) :
    schedule.runFrom host shutdown due n c = (n, c) := by
  rw [runFrom, if_pos]
  rwa [Bool.or_eq_true, decide_eq_true_iff]

/-- A run that is due no more waits for its end. -/
theorem runFrom_of_latest_le {c : Canary W} (h : ¬shutdown.Over host c.world) {due : Nat}
    (hdue : shutdown.latest ≤ due) (n : Nat) :
    schedule.runFrom host shutdown due n c =
      (n, { c with world := host.waitUntil shutdown.latest c.world }) := by
  rw [runFrom, if_neg, if_pos hdue]
  rwa [Bool.or_eq_true, decide_eq_true_iff]

/-- A run that is due waits, makes its cycle and goes on from the next due time. -/
theorem runFrom_of_lt_latest {c : Canary W} (h : ¬shutdown.Over host c.world) {due : Nat}
    (hdue : ¬shutdown.latest ≤ due) (n : Nat) :
    schedule.runFrom host shutdown due n c =
      schedule.runFrom host shutdown
        (nextDue schedule.interval.val.millis due (host.elapsed (host.waitUntil due c.world)))
        (n + 1) (schedule.runCycle host { c with world := host.waitUntil due c.world }).2 := by
  rw [runFrom, if_neg, if_neg hdue]
  rwa [Bool.or_eq_true, decide_eq_true_iff]

/-- Recording changes nothing about a run from the time at which the next cycle is due. -/
theorem base_runFrom (due n : Nat) (c : Canary (Ledger W)) :
    (schedule.runFrom host.recording shutdown.recorded due n c).1 =
        (schedule.runFrom host shutdown due n c.base).1 ∧
      (schedule.runFrom host.recording shutdown.recorded due n c).2.base =
        (schedule.runFrom host shutdown due n c.base).2 := by
  fun_induction runFrom host.recording schedule shutdown.recorded due n c with
  | case1 due n c hover =>
    rw [over_recorded_iff] at hover
    rw [runFrom_of_over host schedule shutdown hover]
    exact ⟨rfl, rfl⟩
  | case2 due n c hover hdue =>
    rw [over_recorded_iff] at hover
    rw [runFrom_of_latest_le host schedule shutdown hover hdue]
    exact ⟨rfl, rfl⟩
  | case3 due n c hover hdue woken ih =>
    rw [over_recorded_iff] at hover
    rw [Canary.base_runCycle] at ih
    rw [runFrom_of_lt_latest host schedule shutdown hover hdue]
    exact ih

/-- The start of a run is reported. -/
def started (host : Host W) (schedule : Schedule) (c : Canary W) : Canary W :=
  let starting := Event.schedulerStarting schedule.topic schedule.interval.val.millis
  { c with world := host.emit starting c.world }

/-- The end of a run is reported, and what led to it. -/
def stopped (host : Host W) (shutdown : Shutdown W) (cycles : Nat) (c : Canary W) : Canary W :=
  let stopping := Event.schedulerStopping (UInt64.ofNat cycles)
  { c with world := host.emit stopping (shutdown.announce c.world) }

/-- Recording changes nothing about a run. -/
theorem base_run (c : Canary (Ledger W)) :
    (schedule.run host.recording shutdown.recorded c).1 =
        (schedule.run host shutdown c.base).1 ∧
      (schedule.run host.recording shutdown.recorded c).2.base =
        (schedule.run host shutdown c.base).2 := by
  let begun := schedule.started host.recording c
  obtain ⟨hcount, hbase⟩ :=
    base_runFrom host schedule shutdown (host.elapsed begun.world.world) 0 begun
  exact ⟨hcount, congrArg₂ (stopped host shutdown) hcount hbase⟩

end Schedule

/-- All that a run asks of its client, and when. It is what the cycles of the run ask, one after the
other: each cycle is complete, it begins before the shutdown and not before the one before it has
ended, and the cycle during which the shutdown comes is the last one. The number returned is that of
the cycles, or of the refreshes. Unless the shutdown is over, the first cycle begins at once. -/
theorem calls_of_run {W : Type} (host : Host W) (htimely : host.Timely) (schedule : Schedule)
    (shutdown : Shutdown W) (c : Canary W) :
    let run := schedule.run host.recording shutdown.recorded c.recorded
    run.1 = (schedule.run host shutdown c).1 ∧ run.2.base = (schedule.run host shutdown c).2 ∧
      ∃ (cycles : List Cycle) (last : Canary (Ledger W)),
        schedule.Cycles host shutdown (schedule.started host.recording c.recorded) cycles last ∧
        run.2.world.entries = cycles.flatMap Cycle.calls ∧
        run.1 = cycles.length ∧
        run.1 = (run.2.world.entries.filter Entry.isRefresh).length ∧
        (∀ cycle ∈ cycles,
          cycle.Complete schedule c.producer.closed ∧ cycle.begun < shutdown.latest) ∧
        (∀ cycle ∈ cycles.dropLast, cycle.ended < shutdown.latest) ∧
        cycles.IsChain (fun a b => a.ended ≤ b.begun) ∧
        (shutdown.Over host (schedule.started host c).world ∨
          cycles.head?.map Cycle.begun = some (host.elapsed c.world)) := by
  intro run
  obtain ⟨hcount, hbase⟩ := schedule.base_run host shutdown c.recorded
  refine ⟨hcount, hbase, ?_⟩
  let begun := schedule.started host.recording c.recorded
  have hnow : host.elapsed begun.world.world = host.elapsed c.world :=
    htimely.elapsed_emit _ _
  -- The recursion of the run, unfolded into the list of its cycles.
  obtain ⟨cycles, last, hcycles, hlength, hentries, hfirst⟩ :=
    schedule.exists_cycles_of_runFrom host shutdown (host.elapsed begun.world.world) 0 begun
  have hcalls : run.2.world.entries = cycles.flatMap Cycle.calls :=
    hentries.trans (hcycles.entries_eq htimely)
  have hlength : run.1 = cycles.length := hlength.trans (Nat.zero_add _)
  refine ⟨cycles, last, hcycles, hcalls, hlength, ?_, ?_, hcycles.ended_lt,
    hcycles.isChain htimely, ?_⟩
  · rw [hcalls, hcycles.length_refreshes htimely, hlength]
  · exact fun cycle h => ⟨hcycles.complete htimely cycle h, hcycles.begun_lt htimely cycle h⟩
  · by_cases hover : shutdown.Over host begun.world.world
    · exact .inl hover
    · have hlt := Nat.lt_of_not_le fun hle => hover (.inr hle)
      right
      rw [hfirst hover hlt, Schedule.Cycles.elapsed_pause htimely, Nat.max_self, hnow]

/-! ## On a bench -/

namespace Bench

/-- Changes to a bench take no time. -/
theorem elapsed_foldl_apply (changes : List Change) (b : Bench) :
    (changes.foldl apply b).elapsed = b.elapsed := by
  induction changes generalizing b with
  | nil => rfl
  | cons change changes ih => exact ih _

/-- The changes planned for a bench take no time. -/
theorem host_timely : host.Timely where
  elapsed_emit _ _ := rfl
  elapsed_waitUntil time b := by
    show max (List.foldl apply _ _).elapsed time = _
    rw [elapsed_foldl_apply]
    rfl

/-- A bench on which sending takes 400 ms, and the number of partitions grows from 2 to 3 after half
a second. -/
def growing : Bench :=
  { init { Script.init with partitions := some 2, sendWait := 400 } 0 with
    planned := [⟨500, fun script => { script with partitions := some 3 }, 0⟩] }

end Bench

/-- The third cycle of a run is under way when the shutdown comes after 2.3 s, and sends its
messages nevertheless. The second one has found out about the third partition. -/
theorem calls_of_run_past_shutdown :
    let schedule : Schedule := ⟨"t", ⟨.ofMillis 1000, by decide⟩, none⟩
    let c : Canary Bench := ⟨.init "canary-client" (.init [5, 50]), .growing⟩
    let shutdown : Shutdown Bench := .silentAt 2300
    let run := schedule.run Bench.host.recording shutdown.recorded c.recorded
    Bench.host.Timely ∧ run.1 = 3 ∧
      (∃ cycles : List Cycle, run.2.world.entries = cycles.flatMap Cycle.calls ∧
        cycles.length = 3 ∧
        ∀ cycle ∈ cycles, cycle.Complete schedule false ∧ cycle.begun < 2300) ∧
      run.2.world.entries.map Entry.begun =
        [0, 0, 0, 400, 1000, 1000, 1000, 1400, 1800, 2200, 2200, 2200, 2600, 3000] := by
  intro schedule c shutdown run
  obtain ⟨-, -, cycles, last, -, hcalls, hlength, -, hcomplete, -⟩ :=
    calls_of_run Bench.host Bench.host_timely schedule shutdown c
  have hcount : run.1 = 3 := by decide +kernel
  refine ⟨Bench.host_timely, hcount, ⟨cycles, hcalls, ?_, hcomplete⟩, by decide +kernel⟩
  rw [← hlength, hcount]

end KafkaCanary
