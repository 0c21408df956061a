import KafkaCanary.Proofs.Scheduler.Tasks

/-!
# Closing a producer

What closing does to a producer, and what a closed producer does. A producer is open until a close
of it succeeds. Until then every close is passed on to the client, and one that fails leaves the
producer as it was; afterwards no close and no message reaches the client, and nothing about the
producer changes any more.

## Main results

* `closed_carryOutAll_iff`: a producer is closed iff one of its closes has succeeded;
* `close_of_open`: what a close does to an open producer;
* `Account.Idle.step`: a closed producer stays as it is;
* `closings_of_fresh_run`: all of this, in every run of a fresh producer.
-/

namespace KafkaCanary

namespace Canary

variable {W : Type} (host : Host W)

/-- The result of the close that a task asks for, if it asks for one. -/
def closing? (c : Canary W) : Task W → Option (Except Failure Unit)
  | .operation .close => some (c.close host).1
  | _ => none

/-- The results of the closes that tasks ask for, one after the other. -/
def closings (c : Canary W) : List (Task W) → List (Except Failure Unit)
  | [] => []
  | task :: tasks => (c.closing? host task).toList ++ (c.carryOut host task).closings tasks

/-! ## When a producer is closed -/

theorem closed_close_iff (c : Canary W) :
    (c.close host).2.producer.closed ↔ c.producer.closed ∨ (c.close host).1 = .ok () := by
  unfold close
  by_cases hclosed : c.producer.closed
  · simp [hclosed]
  rw [if_neg hclosed]
  rcases host.close (host.emit .producerClosing c.world) with ⟨answer, w⟩
  cases answer with
  | error failure => simp [hclosed]
  | ok => simp

theorem closed_runFrom (schedule : Schedule) (shutdown : Shutdown W) (due n : Nat)
    (c : Canary W) :
    (schedule.runFrom host shutdown due n c).2.producer.closed = c.producer.closed := by
  fun_induction Schedule.runFrom host schedule shutdown due n c with
  | case1 => rfl
  | case2 => rfl
  | case3 due n c _ _ woken ih => rw [ih, schedule.closed_runCycle]

/-- Only a close that succeeds makes a producer closed. -/
theorem closed_carryOut_iff (task : Task W) (c : Canary W) :
    (c.carryOut host task).producer.closed ↔
      c.producer.closed ∨ c.closing? host task = some (.ok ()) := by
  cases task with
  | run schedule shutdown =>
    let begun := schedule.started host c
    have hrun := closed_runFrom host schedule shutdown (host.elapsed begun.world) 0 begun
    exact (Bool.eq_iff_iff.1 hrun).trans (by simp [begun, closing?, Schedule.started])
  | operation op =>
    cases op with
    | send topic count =>
      have hsend := closed_sendToPartitions host topic count c
      exact (Bool.eq_iff_iff.1 hsend).trans (by simp [closing?])
    | refresh topic =>
      have hrefresh := congrArg Producer.closed (producer_refresh host topic c)
      exact (Bool.eq_iff_iff.1 hrefresh).trans (by simp [closing?])
    | close => exact (closed_close_iff host c).trans (by simp [closing?])
    | cycle schedule =>
      have hcycle := schedule.closed_runCycle host c
      exact (Bool.eq_iff_iff.1 hcycle).trans (by simp [closing?])
    | outside change => simp [closing?, carryOut, perform]

/-- A producer is closed iff one of its closes has succeeded. -/
theorem closed_carryOutAll_iff (tasks : List (Task W)) (c : Canary W) :
    (c.carryOutAll host tasks).producer.closed ↔
      c.producer.closed ∨ .ok () ∈ c.closings host tasks := by
  induction tasks generalizing c with
  | nil => simp [carryOutAll, closings]
  | cons task tasks ih =>
    rw [carryOutAll_cons, ih, closed_carryOut_iff, closings, List.mem_append, Option.mem_toList,
      or_assoc]

/-! ## One close -/

/-- A close of an open producer reaches the client and returns its answer. If that is a failure, the
producer stays as it is. -/
theorem close_of_open {c : Canary (Ledger W)} (h : c.producer.closed = false) :
    ∃ entry, (c.close host.recording).2.world.entries = c.world.entries ++ [entry] ∧
      entry.exchange = .close (c.close host.recording).1 ∧
      (c.close host.recording).2.producer =
        match (c.close host.recording).1 with
        | .ok () => { c.producer with closed := true }
        | .error _ => c.producer := by
  unfold close
  rw [if_neg (Bool.eq_false_iff.1 h)]
  rcases hc : host.close (host.emit .producerClosing c.world.world) with ⟨answer, w⟩
  simp only [Host.recording, hc]
  cases answer with
  | error failure => exact ⟨_, rfl, rfl, rfl⟩
  | ok => exact ⟨_, rfl, rfl, rfl⟩

/-- A close of a closed producer succeeds and does nothing. -/
theorem close_of_closed {c : Canary (Ledger W)} (h : c.producer.closed = true) :
    (c.close host.recording).1 = .ok () ∧ (c.close host.recording).2.account = c.account := by
  unfold close
  rw [if_pos h]
  exact ⟨rfl, rfl⟩

end Canary

/-! ## A closed producer -/

/-- Whether a call asks about the cluster only. -/
def Entry.isInquiry (entry : Entry) : Bool :=
  match entry.exchange with
  | .refresh _ _ | .count _ _ => true
  | .send _ _ _ _ | .close _ => false

namespace Account

/-- Since the account `a`, the producer is as it was, and its calls asked about the cluster only. -/
def Idle (a b : Account) : Prop :=
  b.producer = a.producer ∧
    ∃ calls, b.entries = a.entries ++ calls ∧ ∀ entry ∈ calls, entry.isInquiry

theorem Idle.refl (a : Account) : Idle a a :=
  ⟨rfl, [], (List.append_nil _).symm, nofun⟩

theorem Idle.concat {a b : Account} (h : Idle a b) {entry : Entry} (hentry : entry.isInquiry) :
    Idle a ⟨b.producer, b.entries ++ [entry]⟩ := by
  obtain ⟨hproducer, calls, hcalls, hinquiries⟩ := h
  refine ⟨hproducer, calls ++ [entry], ?_, ?_⟩
  · rw [hcalls, List.append_assoc]
  · exact List.forall_mem_append.2 ⟨hinquiries, List.forall_mem_singleton.2 hentry⟩

/-- A closed producer stays as it is: whatever else a step can do needs a producer that is open. -/
theorem Idle.step {a b c : Account} (hclosed : a.producer.closed = true) (hstep : Step b c)
    (h : Idle a b) : Idle a c := by
  have hb : b.producer.closed = true := by rw [h.1, hclosed]
  cases hstep with
  | refresh => exact h.concat rfl
  | count => exact h.concat rfl
  | close hopen => exact absurd (hopen.symm.trans hb) nofun
  | closeFailed hopen => exact absurd (hopen.symm.trans hb) nofun
  | send hopen => exact absurd (hopen.symm.trans hb) nofun

theorem Reaches.idle {a b : Account} (h : Reaches a b) (hclosed : a.producer.closed = true) :
    Idle a b :=
  h.preserves (Idle.step hclosed) (.refl a)

/-! ## Messages after a failed close -/

/-- The numbers of messages go on where they were. -/
theorem Numbered.read_append {clientId : String} {a b : Account} (ha : Numbered clientId a)
    (hb : Numbered clientId b) {calls : List Entry} (h : b.entries = a.entries ++ calls) :
    (dispatches calls).map Dispatch.read = (List.range (dispatches calls).length).map fun i =>
      .ok (clientId, (a.producer.lastMessageId.toNat + i + 1) % UInt64.size) := by
  have hsplit : dispatches b.entries = dispatches a.entries ++ dispatches calls := by
    rw [h, dispatches, List.filterMap_append]
    rfl
  have hread := hb.read
  rw [hsplit, List.map_append, List.length_append, List.range_add, List.map_append, ha.read]
    at hread
  rw [List.append_cancel_left hread, List.map_map]
  refine List.map_congr_left fun i _ => ?_
  rw [Function.comp_apply, ha.last, Nat.add_assoc, Nat.add_assoc, Nat.mod_add_mod]

end Account

/-- The result of every close of a closed producer is a success. -/
theorem Canary.closings_of_closed {W : Type} (host : Host W) (tasks : List (Task W))
    {c : Canary W} (h : c.producer.closed = true) :
    ∀ result ∈ c.closings host tasks, result = .ok () := by
  induction tasks generalizing c with
  | nil => exact nofun
  | cons task tasks ih =>
    refine List.forall_mem_append.2 ⟨fun result hresult => ?_, ih ?_⟩
    · rw [Option.mem_toList] at hresult
      -- Only a close has a result.
      unfold closing? at hresult
      split at hresult
      · rw [close, if_pos h] at hresult
        exact (Option.some.inj hresult).symm
      · cases hresult
    · exact (closed_carryOut_iff host task c).2 (.inl h)

/-- In every run of a fresh producer, a close reaches the client iff no close before it has
succeeded, and then returns the answer of the client. If that is a failure, the producer stays open
and as it was, so that the numbers of later messages go on where they were. Once a close has
succeeded, every later one succeeds, and neither a close nor a message reaches the client or changes
the producer. -/
theorem closings_of_fresh_run {W : Type} (host : Host W) (clientId : String)
    (instruments : Instruments) (w : W) (tasks : List (Task W)) :
    let start : Canary W := ⟨.init clientId instruments, w⟩
    let run := start.recorded.carryOutAll host.recording (tasks.map .recorded)
    let closing := run.close host.recording
    run.base = start.carryOutAll host tasks ∧
      (.ok () ∉ start.closings host tasks →
        (∃ entry, closing.2.world.entries = run.world.entries ++ [entry] ∧
          entry.exchange = .close closing.1) ∧
        (closing.1 = .ok () → closing.2.producer = { run.producer with closed := true }) ∧
        ∀ failure, closing.1 = .error failure →
          closing.2.producer = run.producer ∧ run.producer.closed = false ∧
          ∀ topic count, ∃ sent,
            (closing.2.sendToPartitions host.recording topic count).world.entries =
              closing.2.world.entries ++ sent ∧
            sent.map Entry.address? = (FanOut.block ⟨topic, count, false⟩).map some ∧
            (dispatches sent).map Dispatch.read = (List.range (dispatches sent).length).map
              fun i => .ok (clientId, (run.producer.lastMessageId.toNat + i + 1) % UInt64.size)) ∧
      (.ok () ∈ start.closings host tasks →
        closing.1 = .ok () ∧ closing.2.account = run.account ∧
        ∀ later, let after := run.carryOutAll host.recording (later.map .recorded)
          after.producer = run.producer ∧
          (∀ result ∈ run.base.closings host later, result = .ok ()) ∧
          ∃ calls, after.world.entries = run.world.entries ++ calls ∧
            ∀ entry ∈ calls, entry.isInquiry) := by
  intro start run closing
  have hbase : run.base = start.carryOutAll host tasks := start.recorded.base_carryOutAll host tasks
  have hclosed : run.producer.closed ↔ .ok () ∈ start.closings host tasks := by
    have h := Canary.closed_carryOutAll_iff host tasks start
    rw [← hbase] at h
    exact h.trans (or_iff_right nofun)
  refine ⟨hbase, fun hnone => ?_, fun hsome => ?_⟩
  · have hopen : run.producer.closed = false :=
      Bool.eq_false_iff.2 fun h => hnone (hclosed.1 h)
    obtain ⟨entry, hentries, hexchange, hproducer⟩ := Canary.close_of_open host hopen
    refine ⟨⟨entry, hentries, hexchange⟩, fun hok => ?_, fun failure hfailure => ?_⟩
    · exact hproducer.trans (by rw [hok])
    have hsame : closing.2.producer = run.producer := hproducer.trans (by rw [hfailure])
    refine ⟨hsame, hopen, fun topic count => ?_⟩
    obtain ⟨sent, hsent, haddresses⟩ :=
      Canary.exists_sent_of_sendToPartitions host topic count closing.2
    rw [hsame, hopen] at haddresses
    refine ⟨sent, hsent, haddresses, ?_⟩
    -- The close and the fan-out are steps of the run, which numbers all its messages.
    have hrun : Account.Numbered clientId run.account :=
      (start.recorded.carryOutAll_reaches host tasks).preserves .step (.init clientId instruments)
    have hclosing := (Canary.close_reaches host run).preserves .step hrun
    have hafter := (Canary.sendToPartitions_reaches host topic count closing.2).preserves
      .step hclosing
    have hread := hclosing.read_append hafter hsent
    rwa [show closing.2.account.producer = run.producer from hsame] at hread
  · have hrun := hclosed.2 hsome
    obtain ⟨hresult, haccount⟩ := Canary.close_of_closed host hrun
    refine ⟨hresult, haccount, fun later => ?_⟩
    intro after
    obtain ⟨hproducer, hcalls⟩ := (run.carryOutAll_reaches host later).idle hrun
    exact ⟨hproducer, run.base.closings_of_closed host later hrun, hcalls⟩

/-- A bench on which closing fails. -/
def Bench.busy : Bench :=
  .init { Script.init with closeFailure := some (.of "busy") } 0

/-- A client that is not closed at first is open to messages and to another close. After that close
it is closed. -/
theorem closings_of_run_with_failed_close :
    let start : Canary Bench := ⟨.init "canary-client" (.init [5, 50]), .busy⟩
    let relent (b : Bench) : Bench := { b with script := { b.script with closeFailure := none } }
    let first : List (Task Bench) := [.operation (.send "t" 2), .operation .close]
    let second : List (Task Bench) :=
      first ++ [.operation (.send "t" 1), .operation (.outside relent), .operation .close]
    let run tasks := start.recorded.carryOutAll Bench.host.recording (tasks.map Task.recorded)
    let third := (run first).close Bench.host.recording
    let fourth := (run second).close Bench.host.recording
    .ok () ∉ start.closings Bench.host first ∧ third.1 = .error (.of "busy") ∧
      third.2.producer = (run first).producer ∧
      (∃ entry, third.2.world.entries = (run first).world.entries ++ [entry] ∧
        entry.exchange = .close third.1) ∧
      .ok () ∈ start.closings Bench.host second ∧ fourth.1 = .ok () ∧
      fourth.2.account = (run second).account ∧ (run second).producer.lastMessageId = 3 := by
  intro start relent first second run third fourth
  have hfirst : .ok () ∉ start.closings Bench.host first := by decide +kernel
  have hthird : third.1 = .error (.of "busy") := by decide +kernel
  have hsecond : .ok () ∈ start.closings Bench.host second := by decide +kernel
  obtain ⟨-, hopen, -⟩ :=
    closings_of_fresh_run Bench.host "canary-client" (.init [5, 50]) .busy first
  obtain ⟨hcall, -, hfailed⟩ := hopen hfirst
  obtain ⟨-, -, hclosed⟩ :=
    closings_of_fresh_run Bench.host "canary-client" (.init [5, 50]) .busy second
  obtain ⟨hfourth, haccount, -⟩ := hclosed hsecond
  have hlast : (run second).producer.lastMessageId = 3 := by decide +kernel
  -- The runs are compared as they are written; carrying them out again would take long.
  with_reducible
    exact ⟨hfirst, hthird, (hfailed _ hthird).1, hcall, hsecond, hfourth, haccount, hlast⟩

end KafkaCanary
