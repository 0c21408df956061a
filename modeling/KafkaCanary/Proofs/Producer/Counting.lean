import KafkaCanary.Proofs.Metrics.Tally
import KafkaCanary.Proofs.Producer.Sequence

/-!
# What a run counts

The samples of a producer against the messages that its client got. Every message is counted once
as produced, and then either as failed or with its latency, always under the partition it was sent
to, whatever partition the answer names. What the instruments show for a partition is what was
counted for its fingerprint; if no other partition of the run has the same fingerprint, these are
its own messages.

## Main results

* `Account.Counted.step`, `Account.Reaches.counted`: the counts are an invariant;
* `Account.Counted.samples_eq`: what the instruments show for labels;
* `samples_of_fresh_run`: the samples of every run of a fresh producer.
-/

namespace KafkaCanary

namespace Dispatch

/-- The labels that a message is counted under. -/
def labels (clientId : String) (d : Dispatch) : Labels :=
  .of clientId d.partition

/-- Whether the client returned without an error. -/
def succeeded (d : Dispatch) : Bool :=
  match d.answer with
  | .ok _ => true
  | .error _ => false

/-- The time from making a message to the acknowledgement of its success, modulo the width of the
clock. The message itself says when it was made. -/
def latency? (d : Dispatch) : Option Int64 :=
  match d.answer, Message.ofPayload d.payload with
  | .ok _, .ok m => some (d.returned - m.timestamp)
  | _, _ => none

/-- Whether a message was acknowledged before it was made. -/
def skewed (d : Dispatch) : Bool :=
  d.latency?.any (· < 0)

/-- What is counted for a message if it passes a test. -/
def counted (clientId : String) (test : Dispatch → Bool) (d : Dispatch) : Option (Labels × Unit) :=
  if test d then some (d.labels clientId, ()) else none

/-- What is counted for a message in a histogram. -/
def timed (clientId : String) (d : Dispatch) : Option (Labels × Int64) :=
  d.latency?.map fun latency => (d.labels clientId, latency)

end Dispatch

/-- What is exposed for a client and a partition. -/
structure Samples where
  /-- Attempts to send. -/
  produced : Nat
  /-- Attempts that failed. -/
  failed : Nat
  /-- Latencies counted. -/
  latencies : Nat
  /-- Acknowledgements that came before the message was made. -/
  skewed : Nat
deriving DecidableEq, Repr

/-- What instruments show for labels. -/
def Instruments.samples (m : Instruments) (labels : Labels) : Samples where
  produced := (m.produced.get? labels).getD 0
  failed := (m.failed.get? labels).getD 0
  latencies := ((m.latency.get? labels).map Histogram.count).getD 0
  skewed := (m.skewed.get? labels).getD 0

/-! ## The invariant -/

namespace Account

/-- The instruments are in accord with the messages that the client got. -/
structure Counted (clientId : String) (bounds : List Float) (a : Account) : Prop where
  /-- Samples are of the client. -/
  client : a.producer.clientId = clientId
  /-- The bounds of the histograms stay as they are. -/
  kept : a.producer.instruments.bounds = bounds
  /-- Every message is counted as produced. -/
  produced : Tallies 0 (fun _ n => n + 1) a.producer.instruments.produced
    ((dispatches a.entries).filterMap (Dispatch.counted clientId fun _ => true))
  /-- Every failure is counted as failed. -/
  failed : Tallies 0 (fun _ n => n + 1) a.producer.instruments.failed
    ((dispatches a.entries).filterMap (Dispatch.counted clientId (!·.succeeded)))
  /-- Every success is counted with its latency. -/
  latency : Tallies (.init bounds) (fun v => Histogram.observe bounds (millisFloat v))
    a.producer.instruments.latency ((dispatches a.entries).filterMap (Dispatch.timed clientId))
  /-- Every clock skew is counted as one. -/
  skewed : Tallies 0 (fun _ n => n + 1) a.producer.instruments.skewed
    ((dispatches a.entries).filterMap (Dispatch.counted clientId (·.skewed)))
  /-- Every success has a latency. -/
  timed : ∀ d ∈ dispatches a.entries, d.latency?.isSome = d.succeeded

theorem Counted.init (clientId : String) (bounds : List Float) :
    Counted clientId bounds ⟨.init clientId (.init bounds), []⟩ :=
  ⟨rfl, rfl, .empty, .empty, .empty, .empty, nofun⟩

theorem Counted.congr {clientId : String} {bounds : List Float} {a b : Account}
    (h : Counted clientId bounds a) (hclient : b.producer.clientId = a.producer.clientId)
    (hinstruments : b.producer.instruments = a.producer.instruments)
    (hdispatches : dispatches b.entries = dispatches a.entries) : Counted clientId bounds b := by
  obtain ⟨h1, h2, h3, h4, h5, h6, h7⟩ := h
  constructor
  · rw [hclient, h1]
  · rw [hinstruments, h2]
  · rw [hinstruments, hdispatches]; exact h3
  · rw [hinstruments, hdispatches]; exact h4
  · rw [hinstruments, hdispatches]; exact h5
  · rw [hinstruments, hdispatches]; exact h6
  · rw [hdispatches]; exact h7

/-- A message with its answer keeps the counts in accord. -/
theorem Counted.send {clientId : String} {bounds : List Float} {a b : Account}
    (h : Counted clientId bounds a) {topic : String} {partition : Int32} {now : Int64}
    {answer : Except Failure Delivery} {returned : Int64}
    (hproducer : b.producer = ((a.producer.stamp now).2.settle (a.producer.stamp now).1 partition
      answer returned).1)
    (hsent : dispatches b.entries = dispatches a.entries ++
      [⟨topic, partition, (a.producer.stamp now).1.payload, answer, returned⟩]) :
    Counted clientId bounds b := by
  obtain ⟨p, entries⟩ := a
  obtain ⟨_, entries'⟩ := b
  obtain rfl := hproducer
  obtain ⟨rfl, rfl, hproduced, hfailed, hlatency, hskewed, htimed⟩ := h
  cases answer with
  | error failure =>
    -- A failure is counted as produced and as failed, and has no latency.
    constructor
    · rfl
    · rfl
    · rw [hsent]; exact hproduced.concat_some rfl
    · rw [hsent]; exact hfailed.concat_some rfl
    · rw [hsent]; exact hlatency.concat_none rfl
    · rw [hsent]; exact hskewed.concat_none rfl
    · rw [hsent]; exact List.forall_mem_append.2 ⟨htimed, List.forall_mem_singleton.2 rfl⟩
  | ok delivery =>
    -- A success is counted as produced and with its latency, and as skewed if that is negative. The
    -- message is read back from its bytes, which say when it was made.
    have hlat : Dispatch.latency?
        ⟨topic, partition, (p.stamp now).1.payload, .ok delivery, returned⟩ =
          some (returned - now) := by
      rw [Dispatch.latency?, Message.ofPayload_payload]
      rfl
    constructor
    · rfl
    · rfl
    · rw [hsent]; exact hproduced.concat_some rfl
    · rw [hsent]; exact hfailed.concat_none rfl
    · rw [hsent]
      refine hlatency.concat_some ?_
      rw [Dispatch.timed, hlat]
      rfl
    · rw [hsent]
      show Tallies 0 _ (if returned - now < 0 then _ else _) _
      by_cases hneg : returned - now < 0
      · rw [if_pos hneg]
        refine hskewed.concat_some (b := ()) ?_
        rw [Dispatch.counted, Dispatch.skewed, hlat, Option.any_some, if_pos (decide_eq_true hneg)]
        rfl
      · rw [if_neg hneg]
        refine hskewed.concat_none ?_
        rw [Dispatch.counted, Dispatch.skewed, hlat, Option.any_some, if_neg (by simpa using hneg)]
    · rw [hsent]
      refine List.forall_mem_append.2 ⟨htimed, List.forall_mem_singleton.2 ?_⟩
      rw [hlat]
      rfl

/-- Every step keeps the counts in accord. -/
theorem Counted.step {clientId : String} {bounds : List Float} {a b : Account} (hstep : Step a b)
    (h : Counted clientId bounds a) : Counted clientId bounds b := by
  rcases hstep.dispatches_eq with ⟨hproducer, hsent⟩ | ⟨_, _, _, _, _, hproducer, hsent⟩
  · refine h.congr ?_ ?_ hsent <;> rw [hproducer]
  · exact h.send hproducer hsent

/-- Every point of a run has its counts in accord. -/
theorem Reaches.counted {clientId : String} {bounds : List Float} {a : Account}
    (h : Reaches ⟨.init clientId (.init bounds), []⟩ a) : Counted clientId bounds a :=
  h.preserves Counted.step (.init clientId bounds)

end Account

/-! ## What the samples show -/

namespace Dispatch

theorem map_fst_filterMap_counted (clientId : String) (test : Dispatch → Bool)
    (ds : List Dispatch) : (ds.filterMap (counted clientId test)).map Prod.fst =
      (ds.filter test).map (labels clientId) := by
  induction ds with
  | nil => rfl
  | cons d ds ih =>
    by_cases htest : test d
    · have hd : counted clientId test d = some (d.labels clientId, ()) := if_pos htest
      rw [List.filterMap_cons_some hd, List.filter_cons_of_pos htest, List.map_cons, ih]
      rfl
    · have hd : counted clientId test d = none := if_neg htest
      rw [List.filterMap_cons_none hd, List.filter_cons_of_neg htest, ih]

/-- If every success has a latency, the latencies counted are those of the successes. -/
theorem map_fst_filterMap_timed (clientId : String) {ds : List Dispatch}
    (h : ∀ d ∈ ds, d.latency?.isSome = d.succeeded) :
    (ds.filterMap (timed clientId)).map Prod.fst =
      (ds.filter succeeded).map (labels clientId) := by
  induction ds with
  | nil => rfl
  | cons d ds ih =>
    obtain ⟨hd, hds⟩ := List.forall_mem_cons.1 h
    cases hlatency : d.latency? with
    | none =>
      rw [hlatency] at hd
      rw [List.filterMap_cons_none (by rw [timed, hlatency]; rfl),
        List.filter_cons_of_neg (by rw [← hd]; nofun), ih hds]
    | some latency =>
      rw [hlatency] at hd
      rw [List.filterMap_cons_some (by rw [timed, hlatency]; rfl),
        List.filter_cons_of_pos hd.symm, List.map_cons, List.map_cons, ih hds]

/-- Only a success can be acknowledged too early. -/
theorem succeeded_of_skewed {d : Dispatch} (h : d.skewed) : d.succeeded := by
  rw [skewed, latency?] at h
  rw [succeeded]
  cases hanswer : d.answer with
  | ok _ => rfl
  | error _ => rw [hanswer] at h; cases h

end Dispatch

namespace Samples

/-- The samples for labels if messages are told apart by the fingerprints of their labels. -/
def pooled (clientId : String) (sent : List Dispatch) (labels : Labels) : Samples where
  produced := shown (sent.map (Dispatch.labels clientId)) labels
  failed := shown ((sent.filter (!·.succeeded)).map (Dispatch.labels clientId)) labels
  latencies := shown ((sent.filter (·.succeeded)).map (Dispatch.labels clientId)) labels
  skewed := shown ((sent.filter (·.skewed)).map (Dispatch.labels clientId)) labels

/-- The samples for a partition if messages are told apart by their partitions. -/
def own (sent : List Dispatch) (partition : Int32) : Samples where
  produced := sent.countP (·.partition == partition)
  failed := sent.countP fun d => d.partition == partition && !d.succeeded
  latencies := sent.countP fun d => d.partition == partition && d.succeeded
  skewed := sent.countP fun d => d.partition == partition && d.skewed

/-- A message to a partition fails or has a latency. -/
theorem produced_own (sent : List Dispatch) (partition : Int32) :
    (own sent partition).produced =
      (own sent partition).failed + (own sent partition).latencies := by
  show sent.countP _ = _
  rw [sent.countP_eq_countP_filter_add _ Dispatch.succeeded, List.countP_filter,
    List.countP_filter, Nat.add_comm]
  rfl

theorem skewed_own_le (sent : List Dispatch) (partition : Int32) :
    (own sent partition).skewed ≤ (own sent partition).latencies := by
  refine List.countP_mono_left fun d _ h => ?_
  rw [Bool.and_eq_true] at h ⊢
  exact ⟨h.1, Dispatch.succeeded_of_skewed h.2⟩

end Samples

/-- A partition whose fingerprint no other partition that messages were sent to has. -/
def Unshared (clientId : String) (sent : List Dispatch) (partition : Int32) : Prop :=
  ∀ d ∈ sent, (d.labels clientId).fingerprint = (Labels.of clientId partition).fingerprint →
    d.partition = partition

theorem Labels.of_inj {clientId : String} {partition partition' : Int32}
    (h : Labels.of clientId partition = Labels.of clientId partition') :
    partition = partition' :=
  Int32.toInt_inj.1 (Json.integerText_inj (congrArg Labels.partition h))

/-- If a partition has its fingerprint for itself, then its messages are shown. -/
theorem Unshared.shown_eq {clientId : String} {sent : List Dispatch} {partition : Int32}
    (h : Unshared clientId sent partition) (test : Dispatch → Bool) :
    shown ((sent.filter test).map (Dispatch.labels clientId)) (.of clientId partition) =
      sent.countP fun d => d.partition == partition && test d := by
  rw [shown_of_unshared, List.countP_map, List.countP_filter]
  · refine List.countP_congr fun d _ => ?_
    simp only [Function.comp_apply, Bool.and_eq_true, decide_eq_true_iff, beq_iff_eq]
    refine and_congr_left' ⟨Labels.of_inj, fun heq => ?_⟩
    rw [Dispatch.labels, heq]
  · intro l hl hfingerprint
    obtain ⟨d, hd, rfl⟩ := List.mem_map.1 hl
    rw [Dispatch.labels, h d (List.mem_filter.1 hd).1 hfingerprint]

theorem Unshared.pooled_eq_own {clientId : String} {sent : List Dispatch} {partition : Int32}
    (h : Unshared clientId sent partition) :
    Samples.pooled clientId sent (.of clientId partition) = .own sent partition := by
  have hproduced := h.shown_eq fun _ => true
  rw [List.filter_eq_self.2 fun _ _ => rfl] at hproduced
  simp only [Bool.and_true] at hproduced
  rw [Samples.pooled, hproduced, h.shown_eq, h.shown_eq, h.shown_eq, Samples.own]

/-- The samples of a partition are told by its fingerprint. -/
theorem Account.Counted.samples_eq {clientId : String} {bounds : List Float} {a : Account}
    (h : Counted clientId bounds a) (labels : Labels) :
    a.producer.instruments.samples labels = .pooled clientId (dispatches a.entries) labels := by
  obtain ⟨-, -, hproduced, hfailed, hlatency, hskewed, htimed⟩ := h
  -- A counter is the number of its events, and a histogram says how many it has counted.
  have hcounter {test : Dispatch → Bool} {table : Table Labels Nat}
      (h : Tallies 0 (fun _ n => n + 1) table
        ((dispatches a.entries).filterMap (Dispatch.counted clientId test))) :
      (table.get? labels).getD 0 =
        shown (((dispatches a.entries).filter test).map (Dispatch.labels clientId)) labels := by
    have := h.size_eq_shown id rfl (fun _ _ => rfl) labels
    rwa [Option.map_id_fun, id, Dispatch.map_fst_filterMap_counted] at this
  have hhistogram := hlatency.size_eq_shown Histogram.count rfl (fun _ _ => rfl) labels
  rw [Dispatch.map_fst_filterMap_timed clientId htimed] at hhistogram
  rw [Instruments.samples, hcounter hproduced, hcounter hfailed, hcounter hskewed, hhistogram,
    List.filter_eq_self.2 fun _ _ => rfl]
  rfl

/-- At every point of every run of a fresh producer, the samples are those of the messages handed to
the client so far, told apart by fingerprints. For a partition that has its fingerprint for itself
these are its own messages: each is counted as produced, and as failed or with its latency, and a
skew is counted for latencies only. -/
theorem samples_of_fresh_run {W : Type} (host : Host W) (clientId : String) (bounds : List Float)
    (w : W) (ops : List (Operation W)) :
    let start : Canary W := ⟨.init clientId (.init bounds), w⟩
    let run := start.recorded.performAll host.recording (ops.map .recorded)
    run.base = start.performAll host ops ∧ start.recorded.account.Reaches run.account ∧
      ∀ a : Account, start.recorded.account.Reaches a →
        (∀ labels, a.producer.instruments.samples labels =
          .pooled clientId (dispatches a.entries) labels) ∧
        ∀ partition, Unshared clientId (dispatches a.entries) partition →
          let samples := a.producer.instruments.samples (.of clientId partition)
          samples = .own (dispatches a.entries) partition ∧
            samples.produced = samples.failed + samples.latencies ∧
            samples.skewed ≤ samples.latencies := by
  intro start run
  refine ⟨start.recorded.base_performAll host ops, start.recorded.performAll_reaches host ops,
    fun a ha => ⟨ha.counted.samples_eq, fun partition h => ?_⟩⟩
  intro samples
  have hown : samples = .own (dispatches a.entries) partition :=
    (ha.counted.samples_eq _).trans h.pooled_eq_own
  rw [hown]
  exact ⟨rfl, Samples.produced_own _ _, Samples.skewed_own_le _ _⟩

instance {clientId : String} {sent : List Dispatch} {partition : Int32} :
    Decidable (Unshared clientId sent partition) :=
  inferInstanceAs (Decidable (∀ d ∈ sent, _ → _))

/-- A world that is a clock, which goes back at every message, and a client that answers messages by
their partitions. -/
def Host.answering (answer : Int32 → Except Failure Delivery) : Host Int64 where
  now clock := clock
  elapsed _ := 0
  waitUntil _ clock := clock
  emit _ clock := clock
  send _ partition _ clock := (answer partition, clock - 1)
  refresh _ clock := (.ok (), clock)
  partitionCount _ clock := (some 0, clock)
  close clock := (.ok (), clock)

theorem samples_of_run_with_failure :
    let host : Host Int64 :=
      .answering fun partition => if partition = 1 then .error (.of "down") else .ok ⟨7, 0⟩
    let start : Canary Int64 := ⟨.init "canary-client" (.init [5, 50]), 0⟩
    let a := (start.recorded.performAll host.recording ([.send "t" 3].map .recorded)).account
    start.recorded.account.Reaches a ∧
      Unshared "canary-client" (dispatches a.entries) 1 ∧
      Unshared "canary-client" (dispatches a.entries) 2 ∧
      a.producer.instruments.samples (.of "canary-client" 1) = ⟨1, 1, 0, 0⟩ ∧
      a.producer.instruments.samples (.of "canary-client" 2) = ⟨1, 0, 1, 1⟩ := by
  intro host start a
  obtain ⟨-, ha, hsamples⟩ := samples_of_fresh_run host "canary-client" [5, 50] 0 [.send "t" 3]
  have h1 : Unshared "canary-client" (dispatches a.entries) 1 := by decide +kernel
  have h2 : Unshared "canary-client" (dispatches a.entries) 2 := by decide +kernel
  refine ⟨ha, h1, h2, ?_, ?_⟩
  · exact ((hsamples a ha).2 1 h1).1.trans (by decide +kernel)
  · exact ((hsamples a ha).2 2 h2).1.trans (by decide +kernel)

/-- Two partitions can share a fingerprint. The messages to both are then shown for the first one
of them. -/
theorem samples_of_shared_fingerprint :
    let host : Host Int64 := .answering fun partition => .ok ⟨partition, 0⟩
    let start : Canary Int64 := ⟨.init "canary-g73wJvQbZib" (.init [5, 50]), 0⟩
    let a := (start.recorded.performAll host.recording ([.send "t" 13].map .recorded)).account
    (Samples.own (dispatches a.entries) 12).produced = 1 ∧
      (a.producer.instruments.samples (.of "canary-g73wJvQbZib" 12)).produced = 0 ∧
      (a.producer.instruments.samples (.of "canary-g73wJvQbZib" 1)).produced = 2 := by
  decide +kernel

end KafkaCanary
