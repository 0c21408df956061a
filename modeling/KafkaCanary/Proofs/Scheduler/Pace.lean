import KafkaCanary.Proofs.Scheduler.Cycles
import Mathlib

/-!
# The pace of a scheduler

When the cycles of a run begin. The time at which a cycle is due depends on that of the one before
it and on how late that one was. A cycle that is late beyond the tolerance moves all later ones, so
that cycles that were missed are not made up for; one that is less late leaves the later ones where
they are, which brings the next one nearer to it by the tolerance at most.

Whatever cycles last, each is due an interval at least after the one before it was due. This bounds
their number, and that bound is met if no cycle lasts longer than the interval.

## Main results

* `Schedule.CyclesFrom.isChain_spaced`: how far apart cycles begin;
* `Schedule.CyclesFrom.length_le`: how many cycles there are at most;
* `Schedule.CyclesFrom.map_begun_eq`, `Schedule.CyclesFrom.length_eq`: when cycles that are short
  begin, and how many there are;
* `pace_of_run`: the pace of every run.
-/

namespace KafkaCanary

/-- A shutdown that does not come before its time. -/
def Shutdown.Punctual {W : Type} (shutdown : Shutdown W) (host : Host W) : Prop :=
  ∀ w, shutdown.arrived w → shutdown.latest ≤ host.elapsed w

theorem Shutdown.punctual_silentAt {W : Type} (host : Host W) (time : Nat) :
    (silentAt time : Shutdown W).Punctual host :=
  nofun

theorem Shutdown.Over.latest_le {W : Type} {shutdown : Shutdown W} {host : Host W} {w : W}
    (h : shutdown.Over host w) (hpunctual : shutdown.Punctual host) :
    shutdown.latest ≤ host.elapsed w :=
  h.elim (hpunctual w) id

/-- A cycle that ends within an interval after it began. -/
def Cycle.Short (cycle : Cycle) (period : Nat) : Prop :=
  cycle.ended ≤ cycle.begun + period

namespace Schedule

/-! ## When the next cycle is due -/

theorem add_le_nextDue {period due begun : Nat} (h : due ≤ begun) :
    due + period ≤ nextDue period due begun := by
  unfold nextDue
  split
  · exact Nat.add_le_add_right h period
  · exact Nat.le_refl _

theorem begun_add_le_nextDue (period due begun : Nat) :
    begun + period ≤ nextDue period due begun + tolerance := by
  unfold nextDue
  split <;> omega

theorem nextDue_self (period due : Nat) : nextDue period due due = due + period :=
  if_neg (Nat.not_lt_of_le (Nat.le_add_right due tolerance))

/-- An interval less leaves room for one cycle less. -/
theorem ceilDiv_sub_eq_succ {period due latest : Nat} (hperiod : 0 < period)
    (hdue : due < latest) :
    (latest - due) ⌈/⌉ period = (latest - (due + period)) ⌈/⌉ period + 1 := by
  rw [Nat.ceilDiv_eq_add_pred_div, Nat.ceilDiv_eq_add_pred_div, ← Nat.add_div_right _ hperiod]
  rcases Nat.lt_or_ge (latest - due) period with hlt | hge
  · -- The time that is left is shorter than an interval.
    rw [Nat.sub_eq_zero_of_le (show latest ≤ due + period by omega), Nat.zero_add,
      Nat.div_eq_of_lt_le (k := 1) (by omega) (by omega),
      Nat.div_eq_of_lt_le (k := 1) (by omega) (by omega)]
  · congr 1
    omega

/-! ## The cycles of a run -/

namespace CyclesFrom

variable {W : Type} {host : Host W} {schedule : Schedule} {shutdown : Shutdown W} {due : Nat}
  {c c' : Canary (Ledger W)} {cycles : List Cycle}

theorem begun_cycle (htimely : host.Timely) (c : Canary (Ledger W)) :
    (schedule.cycle host (c.pause host due)).begun = max (host.elapsed c.world.world) due :=
  Cycles.elapsed_pause htimely due c

theorem begun_head (htimely : host.Timely)
    (h : CyclesFrom host schedule shutdown due c cycles c') :
    ∀ cycle ∈ cycles.head?, cycle.begun = max (host.elapsed c.world.world) due := by
  cases h with
  | halted _ => exact nofun
  | ended _ _ => exact nofun
  | next _ _ _ =>
    rintro cycle ⟨⟩
    exact begun_cycle htimely c

/-- Cycles begin an interval apart, or less by the tolerance at most. -/
theorem isChain_spaced (htimely : host.Timely)
    (h : CyclesFrom host schedule shutdown due c cycles c') :
    cycles.IsChain fun a b =>
      a.begun + schedule.interval.val.millis ≤ b.begun + tolerance := by
  induction h with
  | halted _ => exact .nil
  | ended _ _ => exact .nil
  | next _ _ hcycles ih =>
    refine List.isChain_cons.2 ⟨fun cycle hcycle => ?_, ih⟩
    -- The next cycle begins when it is due or later.
    rw [hcycles.begun_head htimely cycle hcycle]
    exact (begun_add_le_nextDue _ _ _).trans (Nat.add_le_add_right (Nat.le_max_right _ _) _)

/-- Each cycle is due an interval at least after the one before it was due, and before the
shutdown. -/
theorem length_le (htimely : host.Timely)
    (h : CyclesFrom host schedule shutdown due c cycles c') :
    cycles.length ≤ (shutdown.latest - due) ⌈/⌉ schedule.interval.val.millis := by
  have hperiod := schedule.interval.property
  induction h with
  | halted _ => exact Nat.zero_le _
  | ended _ _ => exact Nat.zero_le _
  | @next due c c' cycles _ hdue _ ih =>
    -- However late the cycle began, there is an interval less for those after it.
    have hnext : due + schedule.interval.val.millis ≤
        nextDue schedule.interval.val.millis due
          (schedule.cycle host (c.pause host due)).begun := by
      refine add_le_nextDue ?_
      rw [begun_cycle htimely]
      exact Nat.le_max_right _ _
    have hmono := (gc_mul_ceilDiv hperiod).monotone_l
      (Nat.sub_le_sub_left hnext shutdown.latest)
    rw [List.length_cons, ceilDiv_sub_eq_succ hperiod hdue]
    exact Nat.succ_le_succ (ih.trans hmono)

/-- A short cycle that begins when it is due has ended when the next one is due. -/
theorem elapsed_le_nextDue (hbegun : (schedule.cycle host (c.pause host due)).begun = due)
    (hshort : (schedule.cycle host (c.pause host due)).Short schedule.interval.val.millis) :
    host.elapsed (schedule.runCycle host.recording (c.pause host due)).2.world.world ≤
      nextDue schedule.interval.val.millis due
        (schedule.cycle host (c.pause host due)).begun := by
  rw [hbegun, nextDue_self]
  unfold Cycle.Short at hshort
  rwa [hbegun] at hshort

/-- Short cycles begin when they are due, at regular times. -/
theorem map_begun_eq (htimely : host.Timely)
    (h : CyclesFrom host schedule shutdown due c cycles c')
    (hnow : host.elapsed c.world.world ≤ due)
    (hshort : ∀ cycle ∈ cycles, cycle.Short schedule.interval.val.millis) :
    cycles.map Cycle.begun = List.range' due cycles.length schedule.interval.val.millis := by
  induction h with
  | halted _ => rfl
  | ended _ _ => rfl
  | @next due c c' cycles _ hdue _ ih =>
    obtain ⟨hcycle, hcycles⟩ := List.forall_mem_cons.1 hshort
    have hbegun : (schedule.cycle host (c.pause host due)).begun = due := by
      rw [begun_cycle htimely, Nat.max_eq_right hnow]
    rw [List.map_cons, ih (elapsed_le_nextDue hbegun hcycle) hcycles, hbegun, nextDue_self]
    rfl

/-- There are as many short cycles as there is time for. -/
theorem length_eq (htimely : host.Timely) (hpunctual : shutdown.Punctual host)
    (h : CyclesFrom host schedule shutdown due c cycles c')
    (hnow : host.elapsed c.world.world ≤ due)
    (hshort : ∀ cycle ∈ cycles, cycle.Short schedule.interval.val.millis) :
    cycles.length = (shutdown.latest - due) ⌈/⌉ schedule.interval.val.millis := by
  induction h with
  | halted hover =>
    -- The shutdown is over before the next cycle is due, so that there is no time for another one.
    rw [Nat.sub_eq_zero_of_le ((hover.latest_le hpunctual).trans hnow), zero_ceilDiv]
    rfl
  | ended _ hdue =>
    rw [Nat.sub_eq_zero_of_le hdue, zero_ceilDiv]
    rfl
  | @next due c c' cycles _ hdue _ ih =>
    obtain ⟨hcycle, hcycles⟩ := List.forall_mem_cons.1 hshort
    have hbegun : (schedule.cycle host (c.pause host due)).begun = due := by
      rw [begun_cycle htimely, Nat.max_eq_right hnow]
    rw [List.length_cons, ih (elapsed_le_nextDue hbegun hcycle) hcycles, hbegun, nextDue_self,
      ceilDiv_sub_eq_succ schedule.interval.property hdue]

end CyclesFrom

end Schedule

/-- The pace of every run, whatever its cycles last. The first cycle begins at once. No cycle begins
before the one before it has ended, nor before an interval has passed since that one began, less the
tolerance of 5 ms. There are as many cycles at most as intervals have begun before the shutdown. If
no cycle lasts longer than the interval, then they begin exactly an interval apart, and there are as
many as that. -/
theorem pace_of_run {W : Type} (host : Host W) (htimely : host.Timely) (schedule : Schedule)
    (shutdown : Shutdown W) (c : Canary W) :
    let run := schedule.run host.recording shutdown.recorded c.recorded
    let start := host.elapsed c.world
    let period := schedule.interval.val.millis
    let span := shutdown.latest - start
    run.1 = (schedule.run host shutdown c).1 ∧ run.2.base = (schedule.run host shutdown c).2 ∧
      ∃ (cycles : List Cycle) (last : Canary (Ledger W)),
        schedule.CyclesFrom host shutdown start (schedule.started host.recording c.recorded)
          cycles last ∧
        run.2.world.entries = cycles.flatMap Cycle.calls ∧
        run.1 = cycles.length ∧
        (∀ cycle ∈ cycles, cycle.Complete schedule c.producer.closed) ∧
        (shutdown.Punctual host → 0 < span → cycles.head?.map Cycle.begun = some start) ∧
        cycles.IsChain (fun a b => a.ended ≤ b.begun) ∧
        cycles.IsChain (fun a b => a.begun + period ≤ b.begun + 5) ∧
        cycles.length ≤ span ⌈/⌉ period ∧
        ((∀ cycle ∈ cycles, cycle.Short period) →
          cycles.map Cycle.begun = List.range' start cycles.length period ∧
          (shutdown.Punctual host → cycles.length = span ⌈/⌉ period)) := by
  intro run start period span
  obtain ⟨hcount, hbase⟩ := schedule.base_run host shutdown c.recorded
  let begun := schedule.started host.recording c.recorded
  -- The report of the start takes no time.
  have hnow : host.elapsed begun.world.world = start := htimely.elapsed_emit _ _
  obtain ⟨cycles, last, hfrom, hlength, hentries⟩ :=
    schedule.exists_cyclesFrom_of_runFrom host shutdown (host.elapsed begun.world.world) 0 begun
  have hcycles := hfrom.cycles
  rw [hnow] at hfrom
  refine ⟨hcount, hbase, cycles, last, hfrom, hentries.trans (hcycles.entries_eq htimely),
    hlength.trans (Nat.zero_add _), hcycles.complete htimely, fun hpunctual hspan => ?_,
    hcycles.isChain htimely, hfrom.isChain_spaced htimely, hfrom.length_le htimely,
    fun hshort => ⟨?_, fun hpunctual => ?_⟩⟩
  · have hlt : host.elapsed begun.world.world < shutdown.latest := by omega
    have hhead := hfrom.begun_head htimely
    cases hfrom with
    | halted hover => exact absurd (hover.latest_le hpunctual) (Nat.not_le_of_lt hlt)
    | ended _ hdue => omega
    | next _ _ _ =>
      refine congrArg some ((hhead _ rfl).trans ?_)
      rw [hnow, Nat.max_self]
  · exact hfrom.map_begun_eq htimely hnow.le hshort
  · exact hfrom.length_eq htimely hpunctual hnow.le hshort

/-! ## On a bench -/

namespace Bench

/-- A bench on which refreshing takes 1003 ms, and nothing any more after half a second. -/
def hastening : Bench :=
  { init { Script.init with partitions := some 1, refreshWait := 1003 } 0 with
    planned := [⟨500, fun script => { script with refreshWait := 0 }, 0⟩] }

end Bench

/-- The second of the cycles at an interval of 1000 ms comes 3 ms late, which is tolerated, so that
the third one comes 997 ms after it. -/
theorem pace_of_run_after_delay :
    let schedule : Schedule := ⟨"t", ⟨.ofMillis 1000, by decide⟩, none⟩
    let c : Canary Bench := ⟨.init "canary-client" (.init [5, 50]), .hastening⟩
    let shutdown : Shutdown Bench := .silentAt 2500
    let run := schedule.run Bench.host.recording shutdown.recorded c.recorded
    Bench.host.Timely ∧ shutdown.Punctual Bench.host ∧
      (run.2.world.entries.filter Entry.isRefresh).map Entry.begun = [0, 1003, 2000] ∧
      ∃ cycles : List Cycle, run.2.world.entries = cycles.flatMap Cycle.calls ∧
        run.1 = cycles.length ∧ cycles.length ≤ 2500 ⌈/⌉ 1000 ∧
        cycles.IsChain (fun a b => a.begun + 1000 ≤ b.begun + 5) ∧
        cycles.head?.map Cycle.begun = some 0 := by
  intro schedule c shutdown run
  have hpunctual := Shutdown.punctual_silentAt Bench.host 2500
  obtain ⟨-, -, cycles, last, -, hcalls, hlength, -, hfirst, -, hspaced, hle, -⟩ :=
    pace_of_run Bench.host Bench.host_timely schedule shutdown c
  have hperiod : schedule.interval.val.millis = 1000 := Duration.millis_ofMillis 1000
  have hspan : shutdown.latest - Bench.host.elapsed c.world = 2500 := rfl
  rw [hperiod] at hspaced hle
  rw [hspan] at hle
  exact ⟨Bench.host_timely, hpunctual, by decide +kernel, cycles, hcalls, hlength, hle, hspaced,
    hfirst hpunctual (by decide)⟩

end KafkaCanary
