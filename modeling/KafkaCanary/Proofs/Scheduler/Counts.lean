import KafkaCanary.Proofs.Scheduler.Cycles

/-!
# The number that a cycle returns

A cycle returns the number of partitions that it has found out, or 0 if it has found out none. It
does not count its messages for that. As long as the producer is open, one message goes to each of
these partitions, so that the two numbers agree. A closed producer refuses to send, and the cycle
returns the same number as if it had sent.

## Main results

* `FanOut.length_block`: how many messages a fan-out sends;
* `Schedule.returned_and_sent_of_fanOut`: what a cycle returns after its fan-out, and what it sends;
* `sends_of_cycle`: the number that a cycle returns against the messages that it sends.
-/

namespace KafkaCanary

/-! ## Fan-outs -/

/-- A fan-out sends to as many partitions as it is told to; that of a closed producer to none. -/
theorem FanOut.length_block (f : FanOut) :
    (f.block.length : Int) = if f.closed then 0 else max f.count.toInt 0 := by
  have hneg : f.count < 0 ↔ f.count.toInt < 0 := Int32.lt_iff_toInt_lt
  unfold FanOut.block
  by_cases hclosed : f.closed
  · simp [hclosed]
  by_cases hcount : f.count < 0
  · have := hneg.1 hcount
    rw [if_pos (.inr hcount), if_neg hclosed, List.length_nil]
    omega
  · have := mt hneg.2 hcount
    rw [if_neg (by simp [hclosed, hcount]), if_neg hclosed, List.length_map, List.length_range]
    omega

theorem map_address_dispatches (entries : List Entry) :
    (dispatches entries).map Dispatch.address = entries.filterMap Entry.address? := by
  rw [dispatches, List.map_filterMap]
  rfl

theorem toInt_max_zero (n : Int32) : (max n 0).toInt = max n.toInt 0 := by
  have hle : n ≤ 0 ↔ n.toInt ≤ 0 := Int32.le_iff_toInt_le
  show (if n ≤ 0 then 0 else n).toInt = _
  by_cases h : n ≤ 0
  · have := hle.1 h
    rw [if_pos h, Int32.toInt_zero]
    omega
  · have := mt hle.2 h
    rw [if_neg h]
    omega

/-! ## Cycles -/

namespace Schedule

variable {W : Type} (host : Host W)

/-- What a cycle returns is the number of partitions, whatever becomes of the fan-out. What is sent
depends on whether the producer is closed. -/
theorem returned_and_sent_of_fanOut (schedule : Schedule) (count : Option Int32)
    (c : Canary (Ledger W)) :
    let found := max (count.elim 0 Int32.toInt) 0
    let fanOut := schedule.fanOut host.recording count c
    fanOut.1.toInt = found ∧ ∃ sent, fanOut.2.world.entries = c.world.entries ++ sent ∧
      ((dispatches sent).length : Int) = if c.producer.closed then 0 else found := by
  intro found fanOut
  obtain ⟨sent, hentries, hsent⟩ := c.exists_sent_of_fanOut host schedule count
  -- Every call of the fan-out has an address, so every one of them hands over a message.
  have haddresses : (dispatches sent).map Dispatch.address =
      addressesOf schedule.topic c.producer.closed count := by
    have h := congrArg (List.filterMap id) hsent
    simpa [map_address_dispatches] using h
  have hlength := congrArg List.length haddresses
  rw [List.length_map] at hlength
  refine ⟨?_, sent, hentries, ?_⟩
  · cases count with
    | none => rfl
    | some n => exact toInt_max_zero n
  · rw [hlength]
    cases count with
    | none => simp [addressesOf, found]
    | some n => exact FanOut.length_block ⟨schedule.topic, n, c.producer.closed⟩

/-- A cycle hands no message to the client before its fan-out. -/
theorem exists_inquiries (schedule : Schedule) (c : Canary (Ledger W)) :
    let refreshed := c.refresh host.recording schedule.topic
    ∃ inquiries, (schedule.count host.recording refreshed.world).2.entries =
        c.world.entries ++ inquiries ∧ dispatches inquiries = [] := by
  intro refreshed
  obtain ⟨refreshment, answer, hrefreshed, hrefreshment, -⟩ :=
    c.exists_refreshed host schedule.topic
  obtain ⟨asked, hasked, hquestion⟩ := refreshed.exists_asked host schedule
  refine ⟨refreshment :: asked, ?_, ?_⟩
  · rw [hasked, hrefreshed, List.append_assoc]
    rfl
  have hnone : refreshment.dispatch? = none := by rw [Entry.dispatch?, hrefreshment]
  rw [dispatches, List.filterMap_cons_none hnone]
  -- A schedule that says the number of partitions asks nothing.
  cases hpartitions : schedule.partitions with
  | some n =>
    rw [hpartitions] at hquestion
    rw [hquestion.1, List.filterMap_nil]
  | none =>
    rw [hpartitions] at hquestion
    obtain ⟨question, rfl, hexchange⟩ := hquestion
    exact List.filterMap_cons_none (by rw [Entry.dispatch?, hexchange])

end Schedule

/-- A cycle returns the number of partitions that it has found out, but no less than 0. As many
messages are sent if the producer is open, and none if it is closed: the two numbers agree unless
the producer is closed and there are partitions. -/
theorem sends_of_cycle {W : Type} (host : Host W) (schedule : Schedule) (c : Canary (Ledger W)) :
    let refreshed := c.refresh host.recording schedule.topic
    let found := (schedule.count host.recording refreshed.world).1
    let cycle := schedule.runCycle host.recording c
    cycle.1.toInt = max (found.elim 0 Int32.toInt) 0 ∧
      ∃ calls, cycle.2.world.entries = c.world.entries ++ calls ∧
        ((dispatches calls).length : Int) = (if c.producer.closed then 0 else cycle.1.toInt) ∧
        (((dispatches calls).length : Int) = cycle.1.toInt ↔
          (c.producer.closed → cycle.1 = 0)) := by
  intro refreshed found cycle
  obtain ⟨inquiries, hinquiries, hnone⟩ := schedule.exists_inquiries host c
  obtain ⟨hreturned, sent, hsent, hlength⟩ :=
    schedule.returned_and_sent_of_fanOut host found
      ⟨refreshed.producer, (schedule.count host.recording refreshed.world).2⟩
  rw [c.producer_refresh host.recording schedule.topic, ← hreturned] at hlength
  have hcalls : cycle.2.world.entries = c.world.entries ++ (inquiries ++ sent) := by
    rw [← List.append_assoc, ← hinquiries]
    exact hsent
  -- Neither the refresh nor the question for the count is a dispatch.
  have hdispatches : dispatches (inquiries ++ sent) = dispatches sent := by
    rw [dispatches, List.filterMap_append, ← dispatches, hnone]
    rfl
  have hsends : ((dispatches (inquiries ++ sent)).length : Int) =
      if c.producer.closed then 0 else cycle.1.toInt := by
    rw [hdispatches]
    exact hlength
  have hzero : cycle.1 = 0 ↔ cycle.1.toInt = 0 := Int32.toInt_inj.symm
  refine ⟨hreturned, inquiries ++ sent, hcalls, hsends, ?_⟩
  rw [hsends, hzero]
  by_cases hclosed : c.producer.closed
  · simp [hclosed, eq_comm]
  · simp [hclosed]

/-- A producer that is closed sends nothing in a cycle over two partitions, and the cycle returns
2. -/
theorem sends_of_cycle_after_close :
    let schedule : Schedule := ⟨"t", ⟨.ofMillis 1000, by decide⟩, some 2⟩
    let start : Canary Bench := ⟨.init "canary" (.init [5, 50]), .init .init 0⟩
    let closed := start.recorded.performAll Bench.host.recording [.close]
    let cycle := schedule.runCycle Bench.host.recording closed
    let sent := dispatches (cycle.2.world.entries.drop closed.world.entries.length)
    closed.producer.closed ∧ cycle.1 = 2 ∧ sent = [] ∧ (sent.length : Int) ≠ cycle.1.toInt := by
  decide +kernel

end KafkaCanary
