import KafkaCanary.Proofs.Message.RoundTrip
import KafkaCanary.Proofs.Producer.Ledger

/-!
# The sequence of messages

Where the messages of a run go, and how they are numbered. A run sends what its fan-outs ask for,
one after the other: a fan-out on an open producer sends one message to each of its partitions, in
increasing order, whatever becomes of them. The messages of the whole run are numbered from 1 on
without a gap, across fan-outs, topics and failures, modulo the width of the number.

## Main results

* `addresses_performAll`: the messages of a run are those of its fan-outs, in order;
* `Account.Numbered.step`, `Account.Numbered.performAll`: the numbering is an invariant;
* `dispatches_of_fresh_run`: both, from a fresh producer.
-/

namespace KafkaCanary

/-! ## Fan-outs -/

/-- A fan-out that is asked for. -/
structure FanOut where
  /-- The topic. -/
  topic : String
  /-- The number of partitions. -/
  count : Int32
  /-- Whether the producer is closed. -/
  closed : Bool

/-- Where a fan-out sends: to each partition from 0 on, unless the producer is closed or the number
is negative. -/
def FanOut.block (f : FanOut) : List (String × Int) :=
  if f.closed ∨ f.count < 0 then []
  else (List.range f.count.toInt.toNat).map fun i : Nat => (f.topic, (i : Int))

/-- Where a message was sent. -/
def Dispatch.address (d : Dispatch) : String × Int :=
  (d.topic, d.partition.toInt)

/-- The sender and the number that the bytes of a message say. -/
def Dispatch.read (d : Dispatch) : Except Message.ReadFault (String × Nat) :=
  (Message.ofPayload d.payload).map fun m => (m.producerId, m.messageId.toNat)

namespace Canary

variable {W : Type}

/-- The fan-out that an operation asks for. A cycle asks for one if it finds out the number of
partitions. -/
def fanOut? (host : Host W) (c : Canary W) : Operation W → Option FanOut
  | .send topic count => some ⟨topic, count, c.producer.closed⟩
  | .cycle schedule =>
    let c := c.refresh host schedule.topic
    (schedule.count host c.world).1.map fun n => ⟨schedule.topic, n, c.producer.closed⟩
  | _ => none

/-- The fan-outs that operations ask for, one after the other. -/
def fanOuts (host : Host W) (c : Canary W) : List (Operation W) → List FanOut
  | [] => []
  | op :: ops => (c.fanOut? host op).toList ++ (c.perform host op).fanOuts host ops

/-- Where the messages of a record were sent. -/
def addresses (c : Canary (Ledger W)) : List (String × Int) :=
  (dispatches c.world.entries).map Dispatch.address

/-! ## Where messages go -/

variable (host : Host W)

/-- A probe adds its address. -/
theorem addresses_attempt (topic : String) (c : Canary (Ledger W)) (partition : Int32) :
    (c.attempt host.recording topic partition).addresses =
      c.addresses ++ [(topic, partition.toInt)] := by
  simp only [addresses, attempt, Host.recording_emitAll]
  refine (congrArg _ (dispatches_concat_some rfl _)).trans ?_
  rw [List.map_append]
  rfl

/-- Probes add their addresses in order. -/
theorem addresses_foldl_attempt (topic : String) (partitions : List Int32)
    (c : Canary (Ledger W)) :
    (partitions.foldl (attempt host.recording topic) c).addresses =
      c.addresses ++ partitions.map fun partition => (topic, partition.toInt) := by
  induction partitions generalizing c with
  | nil => simp
  | cons partition partitions ih =>
    rw [List.foldl_cons, ih, addresses_attempt, List.map_cons, List.append_assoc]
    rfl

/-- The partitions of a fan-out are the numbers below the count. -/
theorem map_toInt_partitionRange (count : Int32) :
    (partitionRange count).map Int32.toInt =
      (List.range count.toInt.toNat).map fun i : Nat => (i : Int) := by
  rw [partitionRange, List.map_map]
  refine List.map_congr_left fun i hi => ?_
  have hi : i < count.toInt.toNat := List.mem_range.1 hi
  -- The count fits its width, so every number below it does.
  have hcount := count.toInt_lt
  refine Int32.toInt_ofNat_of_lt ?_
  omega

/-- Sending to every partition adds its block. -/
theorem addresses_sendToPartitions (topic : String) (count : Int32) (c : Canary (Ledger W)) :
    (c.sendToPartitions host.recording topic count).addresses =
      c.addresses ++ FanOut.block ⟨topic, count, c.producer.closed⟩ := by
  unfold sendToPartitions FanOut.block
  by_cases hneg : count < 0
  · rw [if_pos hneg, if_pos (.inr hneg), List.append_nil]
    rfl
  rw [if_neg hneg]
  by_cases hclosed : c.producer.closed
  · rw [if_pos hclosed, if_pos (.inl hclosed), List.append_nil]
    rfl
  · rw [if_neg hclosed, if_neg (by simp [hneg, hclosed]), addresses_foldl_attempt]
    have := congrArg (List.map fun z => (topic, z)) (map_toInt_partitionRange count)
    rw [List.map_map, List.map_map] at this
    exact congrArg _ this

/-- A refresh adds no address. -/
theorem addresses_refresh (topic : String) (c : Canary (Ledger W)) :
    (c.refresh host.recording topic).addresses = c.addresses := by
  unfold addresses refresh
  dsimp only
  split <;> exact congrArg _ (dispatches_concat_none rfl _)

/-- A close adds no address. -/
theorem addresses_close (c : Canary (Ledger W)) :
    (c.close host.recording).2.addresses = c.addresses := by
  unfold addresses close
  by_cases hclosed : c.producer.closed
  · rw [if_pos hclosed]
    rfl
  · rw [if_neg hclosed]
    dsimp only
    split <;> exact congrArg _ (dispatches_concat_none rfl _)

/-- Asking for the count adds no address. -/
theorem addresses_count (schedule : Schedule) (c : Canary (Ledger W)) :
    addresses ⟨c.producer, (schedule.count host.recording c.world).2⟩ = c.addresses := by
  unfold addresses Schedule.count
  cases schedule.partitions with
  | some n => rfl
  | none => exact congrArg _ (dispatches_concat_none rfl _)

/-- A cycle adds the block of its fan-out, if it makes one. -/
theorem addresses_runCycle (schedule : Schedule) (c : Canary (Ledger W)) :
    (schedule.runCycle host.recording c).2.addresses =
      c.addresses ++ (c.fanOut? host.recording (.cycle schedule)).toList.flatMap FanOut.block := by
  have hcount := addresses_count host schedule (c.refresh host.recording schedule.topic)
  rw [addresses_refresh] at hcount
  rw [← hcount]
  simp only [Schedule.runCycle, fanOut?]
  cases (schedule.count host.recording (c.refresh host.recording schedule.topic).world).1 with
  | none => exact (List.append_nil _).symm
  | some n =>
    simp only [Option.map_some, Option.toList_some, List.flatMap_singleton]
    exact addresses_sendToPartitions host schedule.topic n _

/-- Recording does not change which fan-out an operation asks for. -/
theorem fanOut?_recorded (c : Canary (Ledger W)) (op : Operation W) :
    c.fanOut? host.recording op.recorded = c.base.fanOut? host op := by
  cases op with
  | cycle schedule =>
    have hcount := count_recording host schedule (c.refresh host.recording schedule.topic).world
    simp only [Operation.recorded, fanOut?]
    rw [hcount.1, ← base_refresh]
    rfl
  | _ => rfl

/-- One operation adds the block of its fan-out, if it makes one. -/
theorem addresses_perform (op : Operation W) (c : Canary (Ledger W)) :
    (c.perform host.recording op.recorded).addresses =
      c.addresses ++ (c.base.fanOut? host op).toList.flatMap FanOut.block := by
  rw [← fanOut?_recorded]
  cases op with
  | send topic count =>
    refine (addresses_sendToPartitions host topic count c).trans ?_
    rw [Operation.recorded, fanOut?, Option.toList_some, List.flatMap_singleton]
  | refresh topic => exact (addresses_refresh host topic c).trans (List.append_nil _).symm
  | close => exact (addresses_close host c).trans (List.append_nil _).symm
  | cycle schedule => exact addresses_runCycle host schedule c
  | outside change => exact (List.append_nil _).symm

/-- The messages of a run go where its fan-outs send, one after the other. -/
theorem addresses_performAll (ops : List (Operation W)) (c : Canary (Ledger W)) :
    (c.performAll host.recording (ops.map .recorded)).addresses =
      c.addresses ++ (c.base.fanOuts host ops).flatMap FanOut.block := by
  induction ops generalizing c with
  | nil => exact (List.append_nil _).symm
  | cons op ops ih =>
    show ((c.perform host.recording op.recorded).performAll host.recording _).addresses = _
    rw [ih, addresses_perform, base_perform, fanOuts, List.flatMap_append, List.append_assoc]

end Canary

/-! ## Numbers -/

namespace Account

/-- The messages of a producer are numbered in the order they were handed to the client, from 1 on,
and the last number is remembered. -/
structure Numbered (clientId : String) (a : Account) : Prop where
  /-- Every message is made in the name of the client. -/
  sender : a.producer.factory.producerId = clientId
  /-- The last number is the number of messages. -/
  last : a.producer.lastMessageId.toNat = (dispatches a.entries).length % UInt64.size
  /-- The bytes of the messages say their numbers. -/
  read : (dispatches a.entries).map Dispatch.read =
    (List.range (dispatches a.entries).length).map fun k => .ok (clientId, (k + 1) % UInt64.size)

/-- A producer that has just been made numbers from one. -/
theorem Numbered.init (clientId : String) (instruments : Instruments) :
    Numbered clientId ⟨.init clientId instruments, []⟩ :=
  ⟨rfl, rfl, rfl⟩

/-- The next number is one more than the number of messages. -/
theorem Numbered.next {clientId : String} {a : Account} (h : Numbered clientId a) :
    (a.producer.lastMessageId + 1).toNat =
      ((dispatches a.entries).length + 1) % UInt64.size := by
  rw [UInt64.toNat_add, h.last]
  exact Nat.mod_add_mod _ UInt64.size 1

/-- Numbering depends on the factory and the dispatches only. -/
theorem Numbered.congr {clientId : String} {a b : Account} (h : Numbered clientId a)
    (hfactory : b.producer.factory = a.producer.factory)
    (hdispatches : dispatches b.entries = dispatches a.entries) : Numbered clientId b := by
  obtain ⟨hsender, hlast, hread⟩ := h
  constructor
  · rw [hfactory, hsender]
  · rw [Producer.lastMessageId, hfactory, hdispatches]; exact hlast
  · rw [hdispatches]; exact hread

/-- The bytes of the next message say the next number. -/
theorem Numbered.read_next {clientId : String} {a : Account} (h : Numbered clientId a)
    (topic : String) (partition : Int32) (now : Int64) (answer : Except Failure Delivery)
    (returned : Int64) :
    Dispatch.read ⟨topic, partition, (a.producer.stamp now).1.payload, answer, returned⟩ =
      .ok (clientId, ((dispatches a.entries).length + 1) % UInt64.size) := by
  rw [Dispatch.read, Message.ofPayload_payload]
  show Except.ok (a.producer.factory.producerId, (a.producer.lastMessageId + 1).toNat) = _
  rw [h.sender, h.next]

/-- Every step keeps messages numbered. -/
theorem Numbered.step {clientId : String} {a b : Account} (hstep : Step a b)
    (h : Numbered clientId a) : Numbered clientId b := by
  rcases hstep.dispatches_eq with
    ⟨hproducer, hsent⟩ | ⟨topic, partition, now, answer, returned, hproducer, hsent⟩
  · refine h.congr ?_ hsent
    rw [hproducer]
  -- Answers have no part in the numbering, so the message counts whatever becomes of it.
  have hfactory : b.producer.factory = (a.producer.factory.next now).2 := by
    rw [hproducer]
    rfl
  constructor
  · rw [hfactory]
    exact h.sender
  · rw [Producer.lastMessageId, hfactory, hsent, List.length_append]
    exact h.next
  · rw [hsent, List.map_append, List.length_append, h.read, List.map_singleton, h.read_next,
      List.length_singleton, List.range_succ, List.map_append, List.map_singleton]

/-- Every run keeps messages numbered. -/
theorem Numbered.performAll {W : Type} (host : Host W) (ops : List (Operation W))
    {clientId : String} {c : Canary (Ledger W)} (h : Numbered clientId c.account) :
    Numbered clientId (c.performAll host.recording (ops.map .recorded)).account :=
  (c.performAll_reaches host ops).preserves Numbered.step h

end Account

/-- In every run of a fresh producer, the messages go where the fan-outs send, one after the other;
the `k`-th message of the whole run says the client id and the number `k`; and the last number is
the number of messages. Numbers are taken modulo their width. -/
theorem dispatches_of_fresh_run {W : Type} (host : Host W) (clientId : String)
    (instruments : Instruments) (w : W) (ops : List (Operation W)) :
    let start : Canary W := ⟨.init clientId instruments, w⟩
    let run := start.recorded.performAll host.recording (ops.map .recorded)
    let sent := dispatches run.world.entries
    run.base = start.performAll host ops ∧
      sent.map Dispatch.address = (start.fanOuts host ops).flatMap FanOut.block ∧
      sent.map Dispatch.read =
        (List.range sent.length).map (fun k => .ok (clientId, (k + 1) % UInt64.size)) ∧
      run.producer.lastMessageId.toNat = sent.length % UInt64.size := by
  intro start run sent
  have hnumbered : Account.Numbered clientId run.account :=
    .performAll host ops (.init clientId instruments)
  refine ⟨Canary.base_performAll host ops start.recorded, ?_, hnumbered.read, hnumbered.last⟩
  exact Canary.addresses_performAll host ops start.recorded

end KafkaCanary
