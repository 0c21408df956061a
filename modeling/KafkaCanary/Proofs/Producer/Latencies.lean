import KafkaCanary.Clock
import KafkaCanary.Proofs.Metrics.Registrations
import KafkaCanary.Proofs.Producer.Ledger
import Mathlib.Algebra.Ring.Int.Defs

/-!
# Latencies

A wall clock shows 64 bits of a time that is not bounded, and can be moved in any direction at any
moment. The clock is read twice for a message: when the message is made, and when the client has
returned. The latency is the difference of what the clock shows, taken modulo the width of the
clock, and this is the difference of the times, whether the clock wraps in between or not.

The messages of a run are followed from one of these moments to the other (`Flight`). They are all
that the record of its calls shows (`Canary.Follows`), and all that is counted.

## Main results

* `Odometer.advanceAll`: what a clock shows that is moved by hand;
* `Flight.recorded_flight`: what is counted for a message is the movement during its flight;
* `Canary.follows_performAll`: what is counted in a run are its flights;
* `latencies_of_fresh_run`: the latencies of every run of a fresh producer.
-/

namespace KafkaCanary

/-! ## Clocks and times -/

/-- A clock that is moved by hand, with the time that it would show if it were not bounded. -/
structure Odometer where
  /-- The clock. -/
  clock : Clock
  /-- The time. -/
  time : Int
  /-- The clock shows 64 bits of it. -/
  shown : clock.now = Int64.ofInt time

namespace Odometer

/-- A clock that has not been moved. -/
def start (now : Int64) : Odometer :=
  ⟨⟨now⟩, now.toInt, now.ofInt_toInt.symm⟩

/-- Move the clock, and the time with it. -/
def advance (o : Odometer) (delta : Int64) : Odometer where
  clock := o.clock.advance delta
  time := o.time + delta.toInt
  shown := by
    rw [Clock.advance, o.shown, Int64.ofInt_add, Int64.ofInt_toInt]

/-- The time moves by all movements together, and the clock by one after the other. -/
theorem advanceAll (o : Odometer) (deltas : List Int64) :
    (deltas.foldl advance o).time = o.time + (deltas.map Int64.toInt).sum ∧
      (deltas.foldl advance o).clock = deltas.foldl Clock.advance o.clock := by
  induction deltas generalizing o with
  | nil => simp
  | cons delta deltas ih =>
    obtain ⟨htime, hclock⟩ := ih (o.advance delta)
    refine ⟨?_, hclock⟩
    rw [List.foldl_cons, htime, advance, List.map_cons, List.sum_cons, Int.add_assoc]

end Odometer

/-- The difference of what a clock shows is that of the times, modulo the width of the clock. -/
theorem ofInt_sub_ofInt (s t : Int) : Int64.ofInt t - Int64.ofInt s = Int64.ofInt (t - s) :=
  (Int64.ofInt_sub t s).symm

/-! ## Flights -/

/-- A message, from when it was made to when the client returned. -/
structure Flight (W : Type) where
  /-- The topic that the message was sent to. -/
  topic : String
  /-- The partition that it was sent to. -/
  partition : Int32
  /-- The bytes that carried it. -/
  payload : List UInt8
  /-- The answer of the client. -/
  answer : Except Failure Delivery
  /-- The world in which the message was made. -/
  made : W
  /-- The world in which the client returned. -/
  returned : W

namespace Flight

variable {W : Type}

/-- What a record of calls shows of a message. -/
def dispatch (host : Host W) (f : Flight W) : Dispatch :=
  ⟨f.topic, f.partition, f.payload, f.answer, host.now f.returned⟩

/-- By how much a clock moved while the message was under way. -/
def movement (time : W → Int) (f : Flight W) : Int :=
  time f.returned - time f.made

/-- What is counted for a message, with the movement of the clock as its latency. -/
def recorded (clientId : String) (time : W → Int) (f : Flight W) : Recorded where
  clientId := clientId
  outcome :=
    match f.answer with
    | .ok delivery => .delivered f.partition delivery.offset (Int64.ofInt (f.movement time))
    | .error _ => .failed f.partition

/-- A message is that of a flight: the bytes carried it, it says when it was made, and it was sent
at once. -/
structure Carries (host : Host W) (f : Flight W) (m : Message) : Prop where
  read : Message.ofPayload f.payload = .ok m
  stamped : m.timestamp = host.now f.made
  sent : host.send f.topic f.partition f.payload
    (host.emit (.sending m.json f.partition) f.made) = (f.answer, f.returned)

/-- A latency is that of a flight, on clocks that are moved by hand. -/
structure Measures (host : Host W) (clocks : W → Odometer) (f : Flight W) (m : Message)
    (latency : Int64) : Prop where
  acknowledged : m.timestamp + latency = host.now f.returned
  moved : ∀ deltas : List Int64,
    clocks f.returned = deltas.foldl Odometer.advance (clocks f.made) →
      latency = Int64.ofInt (deltas.map Int64.toInt).sum
  fitting : -2 ^ 63 ≤ f.movement (Odometer.time ∘ clocks) →
    f.movement (Odometer.time ∘ clocks) < 2 ^ 63 →
      latency.toInt = f.movement (Odometer.time ∘ clocks)

end Flight

namespace Canary

variable {W : Type}

/-- The flight of the message that an attempt makes. -/
def flight (host : Host W) (topic : String) (c : Canary W) (partition : Int32) : Flight W :=
  let (m, _) := c.producer.stamp (host.now c.world)
  let sent := host.send topic partition m.payload (host.emit (.sending m.json partition) c.world)
  ⟨topic, partition, m.payload, sent.1, c.world, sent.2⟩

/-- The flights of attempts, one after the other. -/
def flights (host : Host W) (topic : String) : List Int32 → Canary W → List (Flight W)
  | [], _ => []
  | partition :: partitions, c =>
    c.flight host topic partition :: flights host topic partitions (c.attempt host topic partition)

/-- The flights of a fan-out, unless it is refused. -/
def flightsTo (host : Host W) (topic : String) (count : Int32) (c : Canary W) : List (Flight W) :=
  if count < 0 ∨ c.producer.closed then [] else c.flights host topic (partitionRange count)

/-- The flights of a fan-out of a cycle, if it found partitions. -/
def flightsFanned (host : Host W) (schedule : Schedule) (c : Canary W) :
    Option Int32 → List (Flight W)
  | none => []
  | some n =>
    let c := { c with world := host.emit (.fanningOut n schedule.topic) c.world }
    c.flightsTo host schedule.topic n

/-- The flights of one operation. -/
def flightsOf (host : Host W) (c : Canary W) : Operation W → List (Flight W)
  | .send topic count => c.flightsTo host topic count
  | .cycle schedule =>
    let c := c.refresh host schedule.topic
    let (n, world) := schedule.count host c.world
    flightsFanned host schedule { c with world := world } n
  | .refresh _ | .close | .outside _ => []

/-- The flights of operations one after the other. -/
def flightsAll (host : Host W) : List (Operation W) → Canary W → List (Flight W)
  | [], _ => []
  | op :: ops, c => c.flightsOf host op ++ flightsAll host ops (c.perform host op)

end Canary

/-! ## What is counted for flights -/

/-- What a flight is counted as is the outcome that the producer makes of it, if the clock shows the
time. -/
theorem Flight.recorded_flight {W : Type} {host : Host W} {time : W → Int}
    (hclock : ∀ w, host.now w = Int64.ofInt (time w)) (topic : String) (c : Canary W)
    (partition : Int32) :
    let f := c.flight host topic partition
    (f.recorded c.producer.clientId time).outcome =
      Producer.outcome (c.producer.stamp (host.now c.world)).1 partition f.answer
        (host.now f.returned) := by
  intro f
  unfold recorded Producer.outcome
  rw [hclock f.returned]
  cases f.answer with
  | error failure => rfl
  | ok delivery =>
    -- The stamp is what the clock showed when the message was made.
    have hlatency := ofInt_sub_ofInt (time c.world) (time f.returned)
    rw [← hclock c.world] at hlatency
    exact congrArg (Outcome.delivered partition delivery.offset) hlatency.symm

/-- From one canary to another, flights are all that the record shows and all that is counted, and
every message is carried by its flight. -/
structure Canary.Follows {W : Type} (host : Host W) (time : W → Int) (c : Canary (Ledger W))
    (flights : List (Flight W)) (c' : Canary (Ledger W)) : Prop where
  clientId : c'.producer.clientId = c.producer.clientId
  dispatches : dispatches c'.world.entries =
    dispatches c.world.entries ++ flights.map (Flight.dispatch host)
  instruments : c'.producer.instruments = c.producer.instruments.recordAll
    (flights.map (Flight.recorded c.producer.clientId time))
  carries : ∀ f ∈ flights, ∃ m, f.Carries host m

namespace Canary

variable {W : Type} {host : Host W} {time : W → Int} {c c' c'' : Canary (Ledger W)}

/-- If no message is sent and a producer is closed at most, nothing is counted. -/
theorem Follows.idle (hproducer : c'.producer = { c.producer with closed := c'.producer.closed })
    (hentries : KafkaCanary.dispatches c'.world.entries =
      KafkaCanary.dispatches c.world.entries) : c.Follows host time [] c' where
  clientId := by rw [hproducer]
  dispatches := by rw [hentries, List.map_nil, List.append_nil]
  instruments := by
    rw [hproducer]
    rfl
  carries := List.forall_mem_nil _

theorem Follows.trans {flights flights' : List (Flight W)} (h : c.Follows host time flights c')
    (h' : c'.Follows host time flights' c'') :
    c.Follows host time (flights ++ flights') c'' where
  clientId := h'.clientId.trans h.clientId
  dispatches := by rw [h'.dispatches, h.dispatches, List.map_append, List.append_assoc]
  instruments := by
    rw [h'.instruments, h.instruments, h.clientId, List.map_append, Instruments.recordAll,
      Instruments.recordAll, Instruments.recordAll, List.foldl_append]
  carries := List.forall_mem_append.2 ⟨h.carries, h'.carries⟩

/-- An attempt is one flight. -/
theorem follows_attempt (hclock : ∀ w, host.now w = Int64.ofInt (time w)) (topic : String)
    (partition : Int32) (c : Canary (Ledger W)) :
    c.Follows host time [c.base.flight host topic partition]
      (c.attempt host.recording topic partition) := by
  have hrecorded := Flight.recorded_flight hclock topic c.base partition
  simp only [attempt, Host.recording_emitAll]
  constructor
  · rfl
  · exact dispatches_concat_some rfl _
  · show _ = c.producer.instruments.record c.producer.clientId _
    exact congrArg (c.producer.instruments.record c.producer.clientId) hrecorded.symm
  · exact List.forall_mem_singleton.2 ⟨_, Message.ofPayload_payload _, rfl, rfl⟩

theorem follows_flights (hclock : ∀ w, host.now w = Int64.ofInt (time w)) (topic : String)
    (partitions : List Int32) (c : Canary (Ledger W)) :
    c.Follows host time (c.base.flights host topic partitions)
      (partitions.foldl (attempt host.recording topic) c) := by
  induction partitions generalizing c with
  | nil => exact .idle rfl rfl
  | cons partition partitions ih =>
    have hrest := ih (c.attempt host.recording topic partition)
    rw [base_attempt] at hrest
    exact (follows_attempt hclock topic partition c).trans hrest

theorem follows_sendToPartitions (hclock : ∀ w, host.now w = Int64.ofInt (time w))
    (topic : String) (count : Int32) (c : Canary (Ledger W)) :
    c.Follows host time (c.base.flightsTo host topic count)
      (c.sendToPartitions host.recording topic count) := by
  unfold sendToPartitions flightsTo
  by_cases hneg : count < 0
  · rw [if_pos hneg, if_pos (.inl hneg)]
    exact .idle rfl rfl
  rw [if_neg hneg]
  by_cases hclosed : c.producer.closed
  · rw [if_pos hclosed, if_pos (.inr hclosed)]
    exact .idle rfl rfl
  · rw [if_neg hclosed, if_neg (show ¬(count < 0 ∨ c.base.producer.closed) from
      not_or.2 ⟨hneg, hclosed⟩)]
    exact follows_flights hclock topic (partitionRange count) c

theorem follows_refresh (topic : String) (c : Canary (Ledger W)) :
    c.Follows host time [] (c.refresh host.recording topic) := by
  unfold refresh
  dsimp only
  split <;> exact .idle rfl (dispatches_concat_none rfl _)

theorem follows_close (c : Canary (Ledger W)) :
    c.Follows host time [] (c.close host.recording).2 := by
  unfold close
  by_cases hclosed : c.producer.closed
  · rw [if_pos hclosed]
    exact .idle rfl rfl
  rw [if_neg hclosed]
  dsimp only
  split <;> exact .idle rfl (dispatches_concat_none rfl _)

theorem follows_count (schedule : Schedule) (c : Canary (Ledger W)) :
    c.Follows host time [] ⟨c.producer, (schedule.count host.recording c.world).2⟩ := by
  unfold Schedule.count
  cases schedule.partitions with
  | some n => exact .idle rfl rfl
  | none => exact .idle rfl (dispatches_concat_none rfl _)

theorem follows_fanOut (hclock : ∀ w, host.now w = Int64.ofInt (time w)) (schedule : Schedule)
    (count : Option Int32) (c : Canary (Ledger W)) :
    c.Follows host time (c.base.flightsFanned host schedule count)
      (schedule.fanOut host.recording count c).2 := by
  cases count with
  | none => exact .idle rfl rfl
  | some n =>
    let fanningOut : Canary (Ledger W) :=
      { c with world := host.recording.emit (.fanningOut n schedule.topic) c.world }
    have hidle : c.Follows host time [] fanningOut := .idle rfl rfl
    exact hidle.trans (follows_sendToPartitions hclock schedule.topic n fanningOut)

theorem follows_runCycle (hclock : ∀ w, host.now w = Int64.ofInt (time w)) (schedule : Schedule)
    (c : Canary (Ledger W)) :
    c.Follows host time (c.base.flightsOf host (.cycle schedule))
      (schedule.runCycle host.recording c).2 := by
  let refreshed := c.refresh host.recording schedule.topic
  let count := schedule.count host.recording refreshed.world
  let counted : Canary (Ledger W) := ⟨refreshed.producer, count.2⟩
  -- Without the record, the same partitions are found in the same world.
  have hflights : c.base.flightsOf host (.cycle schedule) =
      counted.base.flightsFanned host schedule count.1 := by
    obtain ⟨hanswer, hworld⟩ := count_recording host schedule refreshed.world
    rw [hanswer, show counted.base = ⟨refreshed.base.producer, _⟩ from
      congrArg (Canary.mk refreshed.producer) hworld, flightsOf, ← base_refresh]
    rfl
  have hidle : c.Follows host time [] counted :=
    (follows_refresh schedule.topic c).trans (follows_count schedule refreshed)
  rw [hflights]
  exact hidle.trans (follows_fanOut hclock schedule count.1 counted)

/-- The flights of an operation are all that it counts. -/
theorem follows_perform (hclock : ∀ w, host.now w = Int64.ofInt (time w)) (op : Operation W)
    (c : Canary (Ledger W)) :
    c.Follows host time (c.base.flightsOf host op) (c.perform host.recording op.recorded) := by
  cases op with
  | send topic count => exact follows_sendToPartitions hclock topic count c
  | refresh topic => exact follows_refresh topic c
  | close => exact follows_close c
  | cycle schedule => exact follows_runCycle hclock schedule c
  | outside change => exact .idle rfl rfl

/-- The flights of a run are all that it counts. -/
theorem follows_performAll (hclock : ∀ w, host.now w = Int64.ofInt (time w))
    (ops : List (Operation W)) (c : Canary (Ledger W)) :
    c.Follows host time (c.base.flightsAll host ops)
      (c.performAll host.recording (ops.map .recorded)) := by
  induction ops generalizing c with
  | nil => exact .idle rfl rfl
  | cons op ops ih =>
    have hrest := ih (c.perform host.recording op.recorded)
    rw [base_perform] at hrest
    exact (follows_perform hclock op c).trans hrest

end Canary

/-! ## Latencies -/

theorem Outcome.skew?_delivered (partition : Int32) (offset latency : Int64) :
    (delivered partition offset latency).skew? = if latency < 0 then some latency else none := by
  show (some latency).filter (· < 0) = _
  rw [Option.filter_some]
  simp

/-- The movement during a flight is the latency of its message. -/
theorem Flight.Carries.measures {W : Type} {host : Host W} {clocks : W → Odometer}
    (hclock : ∀ w, host.now w = (clocks w).clock.now) {f : Flight W} {m : Message}
    (h : f.Carries host m) :
    f.Measures host clocks m (Int64.ofInt (f.movement (Odometer.time ∘ clocks))) where
  acknowledged := by
    have hmoved : (clocks f.made).time + f.movement (Odometer.time ∘ clocks) =
        (clocks f.returned).time := (Int.add_comm _ _).trans (Int.sub_add_cancel _ _)
    rw [h.stamped, hclock, hclock, (clocks f.made).shown, (clocks f.returned).shown,
      ← Int64.ofInt_add, hmoved]
  moved deltas hdeltas := by
    have htime := ((clocks f.made).advanceAll deltas).1
    rw [← hdeltas] at htime
    exact congrArg Int64.ofInt (Int.sub_eq_iff_eq_add.2 (htime.trans (Int.add_comm _ _)))
  fitting := Int64.toInt_ofInt_of_le

/-- In every run of a fresh producer, the latency of a message is the movement of the clock from
when it was made to when the client returned, modulo the width of the clock. It is counted as it
is, and as a skew if it is negative. -/
theorem latencies_of_fresh_run {W : Type} (host : Host W) (clocks : W → Odometer)
    (hclock : ∀ w, host.now w = (clocks w).clock.now) (clientId : String) (bounds : List Float)
    (w : W) (ops : List (Operation W)) :
    let start : Canary W := ⟨.init clientId (.init bounds), w⟩
    let run := start.recorded.performAll host.recording (ops.map .recorded)
    let flights := start.flightsAll host ops
    let records := flights.map (·.recorded clientId (Odometer.time ∘ clocks))
    run.base = start.performAll host ops ∧
      dispatches run.world.entries = flights.map (·.dispatch host) ∧
      run.producer.instruments = (Instruments.init bounds).recordAll records ∧
      run.producer.instruments.Counts bounds records ∧
      ∀ f ∈ flights, ∃ m, f.Carries host m ∧ ∀ delivery, f.answer = .ok delivery →
        ∃ latency, f.Measures host clocks m latency ∧
          let outcome := (f.recorded clientId (Odometer.time ∘ clocks)).outcome
          outcome = .delivered f.partition delivery.offset latency ∧
            outcome.timed? = some latency ∧
            outcome.skew? = if latency < 0 then some latency else none := by
  intro start run flights records
  have hshown (w : W) : host.now w = Int64.ofInt ((Odometer.time ∘ clocks) w) :=
    (hclock w).trans (clocks w).shown
  -- The run and its flights go side by side: every send adds a flight and records it.
  have hfollows : start.recorded.Follows host _ flights run :=
    Canary.follows_performAll hshown ops start.recorded
  have hcounted : run.producer.instruments = (Instruments.init bounds).recordAll records :=
    hfollows.instruments
  refine ⟨start.recorded.base_performAll host ops, hfollows.dispatches, hcounted,
    hcounted ▸ .recordAll bounds records, fun f hf => ?_⟩
  obtain ⟨m, hm⟩ := hfollows.carries f hf
  refine ⟨m, hm, fun delivery hdelivery => ?_⟩
  let latency := Int64.ofInt (f.movement (Odometer.time ∘ clocks))
  have houtcome : (f.recorded clientId (Odometer.time ∘ clocks)).outcome =
      .delivered f.partition delivery.offset latency := by
    rw [Flight.recorded, hdelivery]
  refine ⟨latency, hm.measures hclock, ?_⟩
  rw [houtcome]
  exact ⟨rfl, rfl, Outcome.skew?_delivered ..⟩

/-- A world that is a clock, and a client that takes every message and moves the clock meanwhile,
by the partition. -/
def Host.moving (deltas : Int32 → List Int64) : Host Odometer where
  now o := o.clock.now
  elapsed _ := 0
  waitUntil _ o := o
  emit _ o := o
  send _ partition _ o := (.ok ⟨partition, 0⟩, (deltas partition).foldl .advance o)
  refresh _ o := (.ok (), o)
  partitionCount _ o := (none, o)
  close o := (.ok (), o)

/-- The clock wraps within the first message and goes back within the second one, and the movement
within the third one is more than a clock can show. -/
theorem latencies_of_run_past_last_time :
    let host := Host.moving fun partition =>
      if partition = 0 then [5] else if partition = 1 then [3, -13] else
        [Int64.maxValue, Int64.maxValue]
    let start : Canary Odometer :=
      ⟨.init "canary-client" (.init [5, 50]), .start Int64.maxValue⟩
    let flights := start.flightsAll host [.send "t" 3]
    (∀ o, host.now o = o.clock.now) ∧
      flights.map (·.movement Odometer.time) = [5, -10, 2 ^ 64 - 2] ∧
      flights.map (·.recorded "canary-client" Odometer.time) =
        [⟨"canary-client", .delivered 0 0 5⟩, ⟨"canary-client", .delivered 1 0 (-10)⟩,
          ⟨"canary-client", .delivered 2 0 (-2)⟩] ∧
      ∀ f ∈ flights, ∃ m latency, f.Measures host id m latency := by
  intro host start flights
  -- All messages of this run are acknowledged, so that all have latencies.
  have hanswers : ∀ f ∈ flights, f.answer = .ok ⟨f.partition, 0⟩ := by decide +kernel
  obtain ⟨-, -, -, -, hflights⟩ :=
    latencies_of_fresh_run host id (fun _ => rfl) "canary-client" [5, 50] (.start Int64.maxValue)
      [.send "t" 3]
  refine ⟨fun _ => rfl, by decide +kernel, by decide +kernel, fun f hf => ?_⟩
  obtain ⟨m, -, hm⟩ := hflights f hf
  obtain ⟨latency, hlatency, -⟩ := hm _ (hanswers f hf)
  exact ⟨m, latency, hlatency⟩

end KafkaCanary
