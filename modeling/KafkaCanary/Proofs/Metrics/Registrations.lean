import KafkaCanary.Metrics.Exposition
import KafkaCanary.Proofs.Metrics.Histograms
import KafkaCanary.Proofs.Metrics.Tally
import KafkaCanary.Proofs.Message.RoundTrip
import Mathlib.Data.List.Basic
import Mathlib.Data.List.Forall2

/-!
# What a registry exposes

A registry is given bounds to register and outcomes to record, in any order. It keeps the first
bounds that can be used and the outcomes recorded after them (`Registry.history`), and what it
exposes is told by these: which labels a family lists, in which order, and with which values.
Outcomes are told apart by the fingerprints of their labels, so the values of labels are their own
if no other labels recorded share their fingerprint.

## Main results

* `Registry.performAll_empty`: a registry after any steps;
* `Instruments.Counts.recordAll`: the instruments are in accord with the outcomes recorded;
* `Instruments.Counts.reading_eq_pooled`, `reading_of_unshared`: what they show under labels;
* `families_eq_of_perm`: the order of the outcomes matters for sums only;
* `exposition_of_steps`: all of this, for a registry after any steps.
-/

namespace KafkaCanary

/-! ## Steps -/

/-- An outcome with the client it was recorded for. -/
structure Recorded where
  /-- The client id. -/
  clientId : String
  /-- The outcome. -/
  outcome : Outcome
deriving DecidableEq, Repr

/-- The labels that an outcome is counted under. -/
def Recorded.labels (r : Recorded) : Labels :=
  .of r.clientId r.outcome.partition

/-- What is done with a registry. -/
inductive Registry.Step where
  /-- Registering instruments. -/
  | register (bounds : List Float)
  /-- Recording an outcome. -/
  | record (recorded : Recorded)

/-- The outcome that a step records. -/
def Registry.Step.recorded? : Step → Option Recorded
  | .register _ => none
  | .record recorded => some recorded

/-- The instruments after outcomes. -/
def Instruments.recordAll (m : Instruments) (records : List Recorded) : Instruments :=
  records.foldl (fun m r => m.record r.clientId r.outcome) m

namespace Registry

/-- The registry after a step. If registering fails it stays as it is. -/
def perform (registry : Registry) : Step → Registry
  | .register bounds => (registry.register bounds).toOption.getD registry
  | .record recorded => registry.record recorded.clientId recorded.outcome

/-- The registry after steps. -/
def performAll (registry : Registry) (steps : List Step) : Registry :=
  steps.foldl perform registry

/-- The first bounds that can be used, and the outcomes recorded after them. -/
def history : List Step → Option (List Float × List Recorded)
  | [] => none
  | .register bounds :: steps =>
    if (Buckets.check bounds).isOk then some (bounds, steps.filterMap Step.recorded?)
    else history steps
  | .record _ :: steps => history steps

theorem performAll_append (registry : Registry) (steps steps' : List Step) :
    registry.performAll (steps ++ steps') = (registry.performAll steps).performAll steps' :=
  List.foldl_append

/-- Registering succeeds if the bounds can be used and there are no instruments. -/
theorem register_isOk_iff (registry : Registry) (bounds : List Float) :
    (registry.register bounds).isOk ↔
      (Buckets.check bounds).isOk ∧ registry.instruments = none := by
  rw [register]
  cases Buckets.check bounds with
  | error fault => exact ⟨nofun, fun h => nomatch h.1⟩
  | ok =>
    cases registry.instruments with
    | none => exact ⟨fun _ => ⟨rfl, rfl⟩, fun _ => rfl⟩
    | some m => exact ⟨nofun, fun h => nomatch h.2⟩

/-- A registration that fails changes nothing. -/
theorem perform_register_of_not_isOk {registry : Registry} {bounds : List Float}
    (h : ¬(registry.register bounds).isOk) : registry.perform (.register bounds) = registry := by
  rw [perform]
  cases hregister : registry.register bounds with
  | error fault => rfl
  | ok registry' => exact absurd (by rw [hregister]; rfl) h

/-- A registration that succeeds leaves instruments behind. -/
theorem perform_register_of_isOk {registry : Registry} {bounds : List Float}
    (h : (registry.register bounds).isOk) :
    registry.perform (.register bounds) = ⟨some (.init bounds)⟩ := by
  obtain ⟨hcheck, hnone⟩ := (registry.register_isOk_iff bounds).1 h
  rw [perform, register, hnone]
  cases hbounds : Buckets.check bounds with
  | error fault => rw [hbounds] at hcheck; cases hcheck
  | ok => rfl

/-- A registry with instruments keeps them. -/
theorem performAll_some (m : Instruments) (steps : List Step) :
    performAll ⟨some m⟩ steps = ⟨some (m.recordAll (steps.filterMap Step.recorded?))⟩ := by
  induction steps generalizing m with
  | nil => rfl
  | cons step steps ih =>
    cases step with
    | register bounds =>
      have hkept : perform ⟨some m⟩ (.register bounds) = ⟨some m⟩ :=
        perform_register_of_not_isOk fun h => nomatch ((register_isOk_iff _ _).1 h).2
      rw [performAll, List.foldl_cons, hkept]
      exact ih m
    | record r => exact ih (m.record r.clientId r.outcome)

/-- A registry after any steps has instruments with the first bounds that can be used, after the
outcomes recorded since. -/
theorem performAll_empty (steps : List Step) : Registry.empty.performAll steps =
    ⟨(history steps).map fun (bounds, records) => (Instruments.init bounds).recordAll records⟩ := by
  induction steps with
  | nil => rfl
  | cons step steps ih =>
    cases step with
    | record r => exact ih
    | register bounds =>
      rw [performAll, List.foldl_cons, perform, register, history]
      cases hcheck : Buckets.check bounds with
      | error fault => exact ih
      | ok =>
        -- From here on there are instruments, and the registry keeps them.
        exact performAll_some _ _

end Registry

/-! ## What instruments show -/

namespace Outcome

/-- The latency that is counted for an outcome. -/
def timed? (o : Outcome) : Option Int64 :=
  if o.success then o.latency else none

/-- Something if an outcome is a failure. -/
def failure? (o : Outcome) : Option Unit :=
  if o.success then none else some ()

/-- The latency of an outcome if it is negative. -/
def skew? (o : Outcome) : Option Int64 :=
  o.timed?.filter (· < 0)

end Outcome

/-- A number that is listed if it is positive. -/
def listed (n : Nat) : Option Nat :=
  if n = 0 then none else some n

/-- What is shown under labels, with nothing for families that do not list them. -/
structure Reading where
  /-- Attempts to send. -/
  produced : Option Nat
  /-- Attempts that failed. -/
  failed : Option Nat
  /-- Acknowledgements that came before the message was made. -/
  skewed : Option Nat
  /-- The number of latencies, and for each bound the number of those that are not greater. -/
  latency : Option (Nat × List Nat)
deriving DecidableEq, Repr

/-- What instruments show under labels. -/
def Instruments.reading (m : Instruments) (labels : Labels) : Reading where
  produced := m.produced.get? labels
  failed := m.failed.get? labels
  skewed := m.skewed.get? labels
  latency := (m.latency.get? labels).map fun h => (h.count, h.cumulative)

namespace Reading

/-- The reading of numbers and latencies. -/
def of (bounds : List Float) (produced failed skewed : Nat) (latencies : List Int64) : Reading where
  produced := listed produced
  failed := listed failed
  skewed := listed skewed
  latency := (listed latencies.length).map fun n =>
    (n, bounds.map fun b => latencies.countP (millisFloat · ≤ b))

/-- The reading of outcomes. -/
def own (bounds : List Float) (outcomes : List Outcome) : Reading :=
  let latencies := outcomes.filterMap Outcome.timed?
  .of bounds outcomes.length (outcomes.countP (!·.success)) (latencies.countP (· < 0)) latencies

/-- The reading does not depend on the order of the outcomes. -/
theorem own_perm (bounds : List Float) {outcomes outcomes' : List Outcome}
    (h : outcomes.Perm outcomes') : own bounds outcomes = own bounds outcomes' := by
  have hlatencies := h.filterMap Outcome.timed?
  simp only [own, of, h.length_eq, h.countP_eq, hlatencies.length_eq, hlatencies.countP_eq]

end Reading

/-- What a record counts as, by what is picked from its outcome. -/
def Recorded.event {β : Type} (pick : Outcome → Option β) (r : Recorded) : Option (Labels × β) :=
  (pick r.outcome).map fun b => (r.labels, b)

/-- What records count as. -/
def events {β : Type} (pick : Outcome → Option β) (records : List Recorded) : List (Labels × β) :=
  records.filterMap (Recorded.event pick)

/-- The outcomes recorded for labels. -/
def outcomesOf (records : List Recorded) (labels : Labels) : List Outcome :=
  (records.filter (·.labels = labels)).map Recorded.outcome

/-- The reading under labels if outcomes are told apart by the fingerprints of their labels: every
family shows all it has counted under the labels of a fingerprint that it counted first. -/
def Reading.pooled (bounds : List Float) (records : List Recorded) (labels : Labels) : Reading :=
  .of bounds (held (events some records) labels).length
    (held (events Outcome.failure? records) labels).length
    (held (events Outcome.skew? records) labels).length
    (held (events Outcome.timed? records) labels)

/-- Labels that were not recorded, or share their fingerprint with no others recorded. -/
def UnsharedLabels (records : List Recorded) (labels : Labels) : Prop :=
  labels ∈ records.map Recorded.labels →
    ∀ r ∈ records, r.labels.fingerprint = labels.fingerprint → r.labels = labels

instance {records : List Recorded} {labels : Labels} : Decidable (UnsharedLabels records labels) :=
  inferInstanceAs (Decidable (_ → ∀ r ∈ records, _ → _))

/-! ## The invariant -/

instance : Std.TransOrd Labels :=
  inferInstanceAs
    (Std.TransCmp (compareLex (compareOn Labels.clientId) (compareOn Labels.partition)))

/-- Counting keeps a table sorted. -/
theorem Table.Sorted.countEvent {α β : Type} {table : Table Labels α} (h : table.Sorted) (start : α)
    (f : β → α → α) (event : Option (Labels × β)) : (table.countEvent start f event).Sorted := by
  cases event with
  | none => exact h
  | some e => exact h.insert _ _

/-- What recording does to each family: it counts what is picked from the outcome. -/
theorem Instruments.record_eq (m : Instruments) (r : Recorded) :
    m.record r.clientId r.outcome =
      { bounds := m.bounds
        produced := m.produced.countEvent 0 (fun _ n => n + 1) (r.event some)
        failed := m.failed.countEvent 0 (fun _ n => n + 1) (r.event Outcome.failure?)
        skewed := m.skewed.countEvent 0 (fun _ n => n + 1) (r.event Outcome.skew?)
        latency := m.latency.countEvent (.init m.bounds)
          (fun v => Histogram.observe m.bounds (millisFloat v)) (r.event Outcome.timed?) } := by
  obtain ⟨clientId, partition, success, offset, latency⟩ := r
  cases success with
  | false => rfl
  | true =>
    cases latency with
    | none => rfl
    | some latency =>
      -- A latency is counted, and as a skew too if it is negative.
      by_cases hneg : latency < 0
      · have hskew : Outcome.skew? ⟨partition, true, offset, some latency⟩ = some latency :=
          if_pos (decide_eq_true hneg)
        simp only [Instruments.record, Instruments.observe, Recorded.event, hskew, if_pos hneg]
        rfl
      · have hskew : Outcome.skew? ⟨partition, true, offset, some latency⟩ = none :=
          if_neg (by simpa using hneg)
        simp only [Instruments.record, Instruments.observe, Recorded.event, hskew, if_neg hneg]
        rfl

/-- Every family lists its labels in increasing order. -/
structure Instruments.Sorted (m : Instruments) : Prop where
  produced : m.produced.Sorted
  failed : m.failed.Sorted
  skewed : m.skewed.Sorted
  latency : m.latency.Sorted

/-- The instruments are in accord with the outcomes recorded. -/
structure Instruments.Counts (bounds : List Float) (m : Instruments) (records : List Recorded) :
    Prop where
  kept : m.bounds = bounds
  produced : Tallies 0 (fun _ n => n + 1) m.produced (events some records)
  failed : Tallies 0 (fun _ n => n + 1) m.failed (events Outcome.failure? records)
  skewed : Tallies 0 (fun _ n => n + 1) m.skewed (events Outcome.skew? records)
  latency : Tallies (.init bounds) (fun v => Histogram.observe bounds (millisFloat v)) m.latency
    (events Outcome.timed? records)
  sorted : m.Sorted

namespace Instruments.Counts

theorem init (bounds : List Float) : Counts bounds (.init bounds) [] :=
  ⟨rfl, .empty, .empty, .empty, .empty, .empty, .empty, .empty, .empty⟩

variable {bounds : List Float} {m : Instruments} {records : List Recorded}

/-- Recording an outcome keeps the instruments in accord. -/
theorem record (h : Counts bounds m records) (r : Recorded) :
    Counts bounds (m.record r.clientId r.outcome) (records ++ [r]) := by
  obtain ⟨rfl, hproduced, hfailed, hskewed, hlatency, hsorted⟩ := h
  rw [Instruments.record_eq]
  constructor
  · rfl
  · exact hproduced.concat r
  · exact hfailed.concat r
  · exact hskewed.concat r
  · exact hlatency.concat r
  · constructor
    · exact hsorted.produced.countEvent ..
    · exact hsorted.failed.countEvent ..
    · exact hsorted.skewed.countEvent ..
    · exact hsorted.latency.countEvent ..

theorem recordAll (bounds : List Float) (records : List Recorded) :
    Counts bounds ((Instruments.init bounds).recordAll records) records := by
  induction records using List.reverseRecOn with
  | nil => exact .init bounds
  | append_singleton records r ih =>
    rw [Instruments.recordAll, List.foldl_append]
    exact ih.record r

end Instruments.Counts

/-! ## Readings -/

theorem Tallies.get?_eq_listed {β : Type} {table : Table Labels Nat} {es : List (Labels × β)}
    (h : Tallies 0 (fun _ n => n + 1) table es) (labels : Labels) :
    table.get? labels = listed (held es labels).length := by
  rw [h labels, tally_eq_held, List.foldl_add_const, Nat.zero_add, Nat.one_mul, listed]

/-- What instruments show is told by the outcomes recorded and their fingerprints. -/
theorem Instruments.Counts.reading_eq_pooled {bounds : List Float} {m : Instruments}
    {records : List Recorded} (h : Counts bounds m records) (hbounds : Buckets.Ascending bounds)
    (labels : Labels) : m.reading labels = .pooled bounds records labels := by
  have hlatency : (m.latency.get? labels).map (fun h => (h.count, h.cumulative)) =
      (listed (held (events Outcome.timed? records) labels).length).map fun n =>
        (n, bounds.map fun b =>
          (held (events Outcome.timed? records) labels).countP (millisFloat · ≤ b)) := by
    have hfold (values : List Int64) :
        values.foldl (fun a v => Histogram.observe bounds (millisFloat v) a) (.init bounds) =
          .observeAll bounds (values.map millisFloat) := by
      rw [Histogram.observeAll, List.foldl_map]
    rw [h.latency labels, tally_eq_held, hfold, listed]
    split
    · rfl
    · -- Here the order of the bounds matters: the sums count what is not greater.
      rw [Option.map_some, Option.map_some, Histogram.count_observeAll,
        Histogram.cumulative_observeAll hbounds, List.length_map]
      simp only [List.countP_map]
      rfl
  rw [reading, Reading.pooled, Reading.of, h.produced.get?_eq_listed, h.failed.get?_eq_listed,
    h.skewed.get?_eq_listed, hlatency]

theorem labels_mem_of_mem_events {β : Type} {pick : Outcome → Option β} {records : List Recorded}
    {event : Labels × β} (h : event ∈ events pick records) :
    ∃ r ∈ records, r.labels = event.1 := by
  obtain ⟨r, hr, hsome⟩ := List.mem_filterMap.1 h
  obtain ⟨b, -, rfl⟩ := Option.map_eq_some_iff.1 hsome
  exact ⟨r, hr, rfl⟩

theorem filter_events {β : Type} (pick : Outcome → Option β) (records : List Recorded)
    (labels : Labels) : ((events pick records).filter (·.1 = labels)).map Prod.snd =
      (outcomesOf records labels).filterMap pick := by
  rw [events, outcomesOf, List.filter_filterMap, List.map_filterMap, List.filterMap_map,
    List.filterMap_filter]
  refine List.filterMap_congr fun r _ => ?_
  rw [Recorded.event]
  by_cases hlabels : r.labels = labels
  · rw [if_pos (decide_eq_true hlabels), Function.comp_apply]
    cases pick r.outcome with
    | none => rfl
    | some b => simp [hlabels]
  · rw [if_neg (by simpa using hlabels)]
    cases pick r.outcome with
    | none => rfl
    | some b => simp [hlabels]

/-- Labels that share their fingerprint with no others hold what was recorded for them. -/
theorem UnsharedLabels.held_events {records : List Recorded} {labels : Labels}
    (h : UnsharedLabels records labels) {β : Type} (pick : Outcome → Option β) :
    held (events pick records) labels = (outcomesOf records labels).filterMap pick := by
  rw [← filter_events]
  by_cases hmem : labels ∈ records.map Recorded.labels
  · refine held_of_unshared fun event hevent => ?_
    obtain ⟨r, hr, hlabels⟩ := labels_mem_of_mem_events hevent
    rw [← hlabels]
    exact h hmem r hr
  · -- Nothing was recorded for the labels, so nothing is held for them.
    have hnot (event : Labels × β) (hevent : event ∈ events pick records) : event.1 ≠ labels := by
      rintro rfl
      obtain ⟨r, hr, hlabels⟩ := labels_mem_of_mem_events hevent
      exact hmem (List.mem_map.2 ⟨r, hr, hlabels⟩)
    rw [held_of_not_mem, List.filter_eq_nil_iff.2, List.map_nil]
    · exact fun event hevent => by simpa using hnot event hevent
    · intro hlabels
      obtain ⟨event, hevent, hlabels⟩ := List.mem_map.1 hlabels
      exact hnot event hevent hlabels

/-- Labels that share their fingerprint with no others show what was recorded for them. -/
theorem UnsharedLabels.pooled_eq_own {records : List Recorded} {labels : Labels}
    (h : UnsharedLabels records labels) (bounds : List Float) :
    Reading.pooled bounds records labels = .own bounds (outcomesOf records labels) := by
  have hfailed (outcomes : List Outcome) :
      (outcomes.filterMap Outcome.failure?).length = outcomes.countP (!·.success) := by
    rw [List.length_filterMap_eq_countP]
    refine List.countP_congr fun o _ => ?_
    rw [Outcome.failure?]
    cases o.success <;> simp
  have hskewed (outcomes : List Outcome) : (outcomes.filterMap Outcome.skew?).length =
      (outcomes.filterMap Outcome.timed?).countP (· < 0) := by
    rw [List.countP_eq_length_filter, List.filter_filterMap]
    rfl
  rw [Reading.pooled, h.held_events, h.held_events, h.held_events, h.held_events, hfailed, hskewed,
    List.filterMap_some, Reading.own]

/-! ## The order of outcomes -/

/-- A family without the samples that are sums of latencies. -/
def Family.withoutSums (f : Family) : Family :=
  { f with samples := f.samples.filter (·.name ≠ instrumentName "latency" ++ "_sum") }

/-- The samples of a histogram that are numbers. -/
def numberSamples (bounds : List Float) (labels : Labels) (count : Nat) (cumulative : List Nat) :
    List Sample :=
  (bounds.zip cumulative).map (fun (bound, n) =>
    ⟨instrumentName "latency" ++ "_bucket", labels, some (Decimal.plain.text bound), toString n⟩) ++
  [⟨instrumentName "latency" ++ "_bucket", labels, some "+Inf", toString count⟩,
    ⟨instrumentName "latency" ++ "_count", labels, none, toString count⟩]

theorem filter_histogramSamples (bounds : List Float) (labels : Labels) (h : Histogram) :
    (histogramSamples (instrumentName "latency") bounds labels h).filter
      (·.name ≠ instrumentName "latency" ++ "_sum") =
        numberSamples bounds labels h.count h.cumulative := by
  have hbucket : instrumentName "latency" ++ "_bucket" ≠ instrumentName "latency" ++ "_sum" := by
    decide
  rw [histogramSamples, List.filter_append, numberSamples, List.filter_eq_self.2]
  · rfl
  · intro sample hsample
    obtain ⟨_, -, rfl⟩ := List.mem_map.1 hsample
    exact decide_eq_true hbucket

section Families

variable {m m' : Instruments}

/-- The numbers of histograms tell their family but for the sums. -/
theorem withoutSums_histogramFamily (help : String) (hbounds : m.bounds = m'.bounds)
    (h : m.latency.entries.map (Prod.map id fun h => (h.count, h.cumulative)) =
      m'.latency.entries.map (Prod.map id fun h => (h.count, h.cumulative))) :
    (histogramFamily "latency" help m.bounds m.latency).withoutSums =
      (histogramFamily "latency" help m'.bounds m'.latency).withoutSums := by
  have hsamples (bounds : List Float) (table : Table Labels Histogram) :
      (table.entries.flatMap fun e =>
        histogramSamples (instrumentName "latency") bounds e.1 e.2).filter
          (·.name ≠ instrumentName "latency" ++ "_sum") =
        (table.entries.map (Prod.map id fun h => (h.count, h.cumulative))).flatMap
          fun e => numberSamples bounds e.1 e.2.1 e.2.2 := by
    rw [List.filter_flatMap, List.flatMap_map]
    exact List.flatMap_congr fun e _ => filter_histogramSamples bounds e.1 e.2
  rw [Family.withoutSums, Family.withoutSums, Family.mk.injEq]
  refine ⟨rfl, rfl, rfl, (hsamples m.bounds m.latency).trans ?_⟩
  rw [h, hbounds]
  exact (hsamples m'.bounds m'.latency).symm

/-- A family of histograms is empty if there are none. -/
theorem isEmpty_histogramFamily (help : String) (bounds : List Float)
    (table : Table Labels Histogram) :
    (histogramFamily "latency" help bounds table).samples.isEmpty = table.entries.isEmpty := by
  obtain ⟨entries⟩ := table
  cases entries with
  | nil => rfl
  | cons entry rest => simp [histogramFamily, histogramSamples]

/-- Counters and the numbers of histograms tell what is exposed but for the sums. -/
theorem withoutSums_families (hbounds : m.bounds = m'.bounds) (hproduced : m.produced = m'.produced)
    (hfailed : m.failed = m'.failed) (hskewed : m.skewed = m'.skewed)
    (hlatency : m.latency.entries.map (Prod.map id fun h => (h.count, h.cumulative)) =
      m'.latency.entries.map (Prod.map id fun h => (h.count, h.cumulative))) :
    m.families.map Family.withoutSums = m'.families.map Family.withoutSums := by
  have hempty : m.latency.entries.isEmpty = m'.latency.entries.isEmpty := by
    rw [← List.isEmpty_map, hlatency, List.isEmpty_map]
  have hfamily := withoutSums_histogramFamily "Records produced latency in milliseconds" hbounds
    hlatency
  rw [Instruments.families, Instruments.families, hproduced, hfailed, hskewed]
  -- Family by family, they are listed alike, and show the same but for the sums.
  let Alike (f f' : Family) : Prop :=
    f.samples.isEmpty = f'.samples.isEmpty ∧ f.withoutSums = f'.withoutSums
  have hlisted {f f' : Family} (h : Alike f f') :
      (!f.samples.isEmpty) = true ↔ (!f'.samples.isEmpty) = true := by rw [h.1]
  have hshown {f f' : Family} (h : Alike f f') : f.withoutSums = f'.withoutSums := h.2
  rw [← List.forall₂_eq_eq_eq]
  refine List.rel_map (fun _ _ h => hshown h) (List.rel_filter (fun _ _ h => hlisted h) ?_)
  refine .cons ⟨rfl, rfl⟩ (.cons ⟨rfl, rfl⟩ (.cons ⟨?_, hfamily⟩ (.cons ⟨rfl, rfl⟩ .nil)))
  rw [isEmpty_histogramFamily, isEmpty_histogramFamily, hempty]

/-- The order of the outcomes matters for sums only, if labels do not share fingerprints. -/
theorem families_eq_of_perm {bounds : List Float} (hbounds : Buckets.Ascending bounds)
    {records records' : List Recorded} (h : m.Counts bounds records)
    (h' : m'.Counts bounds records') (hperm : records.Perm records')
    (hunshared : ∀ r ∈ records, UnsharedLabels records r.labels) :
    m.families.map Family.withoutSums = m'.families.map Family.withoutSums := by
  have hreading (labels : Labels) : m.reading labels = m'.reading labels := by
    -- Labels that were not recorded are unshared anyway.
    have hown : UnsharedLabels records labels := fun hmem => by
      obtain ⟨r, hr, rfl⟩ := List.mem_map.1 hmem
      exact hunshared r hr hmem
    have hown' : UnsharedLabels records' labels := fun hmem r hr =>
      hown ((hperm.map _).mem_iff.2 hmem) r (hperm.mem_iff.2 hr)
    rw [h.reading_eq_pooled hbounds, h'.reading_eq_pooled hbounds, hown.pooled_eq_own,
      hown'.pooled_eq_own]
    exact Reading.own_perm bounds ((hperm.filter _).map _)
  refine withoutSums_families (h.kept.trans h'.kept.symm) ?_ ?_ ?_ ?_
  · exact h.sorted.produced.ext h'.sorted.produced fun labels =>
      congrArg Reading.produced (hreading labels)
  · exact h.sorted.failed.ext h'.sorted.failed fun labels =>
      congrArg Reading.failed (hreading labels)
  · exact h.sorted.skewed.ext h'.sorted.skewed fun labels =>
      congrArg Reading.skewed (hreading labels)
  · exact h.sorted.latency.map_entries_eq h'.sorted.latency _ fun labels =>
      congrArg Reading.latency (hreading labels)

end Families

/-! ## Main result -/

theorem Labels.of_eq_of_iff {clientId clientId' : String} {partition partition' : Int32} :
    Labels.of clientId partition = .of clientId' partition' ↔
      clientId = clientId' ∧ partition = partition' := by
  constructor
  · intro h
    exact ⟨congrArg Labels.clientId h,
      Int32.toInt_inj.1 (Json.integerText_inj (congrArg Labels.partition h))⟩
  · rintro ⟨rfl, rfl⟩
    rfl

namespace Registry

/-- The bounds that a registry keeps can be used. -/
theorem check_of_history {steps : List Step} {bounds : List Float} {records : List Recorded}
    (h : history steps = some (bounds, records)) : Buckets.check bounds = .ok () := by
  induction steps with
  | nil => cases h
  | cons step steps ih =>
    cases step with
    | record r => exact ih h
    | register bounds' =>
      rw [history] at h
      split at h
      · next hcheck =>
        cases h
        cases hbounds : Buckets.check bounds with
        | error fault => rw [hbounds] at hcheck; cases hcheck
        | ok => rfl
      · exact ih h

/-- So they ascend. -/
theorem ascending_of_history {steps : List Step} {bounds : List Float} {records : List Recorded}
    (h : history steps = some (bounds, records)) : Buckets.Ascending bounds :=
  Buckets.ascending_of_check (check_of_history h)

/-- The instruments of a registry are in accord with what it was given. -/
theorem counts_of_history {steps : List Step} {bounds : List Float} {records : List Recorded}
    (h : history steps = some (bounds, records)) :
    ∃ m, (Registry.empty.performAll steps).instruments = some m ∧ m.Counts bounds records := by
  rw [performAll_empty, h]
  exact ⟨_, rfl, .recordAll bounds records⟩

end Registry

/-- What is exposed after any steps. At most one registration succeeds, and one that fails changes
nothing that follows. Once there are instruments, every family lists its labels in increasing order,
with what was counted for their fingerprint since the registration. For a client and a partition
that share their fingerprint with no others recorded, these are their own outcomes: how many there
are, how many failed, how many have a latency, how many of these latencies are negative, and how
many are at most a bound. If no labels share a fingerprint, then the order of the outcomes matters
for the sums of latencies only. -/
theorem exposition_of_steps (steps : List Registry.Step) :
    let registry := Registry.empty.performAll steps
    (∀ bounds later bounds', (registry.register bounds).isOk →
      ¬((Registry.empty.performAll (steps ++ .register bounds :: later)).register bounds').isOk) ∧
    (∀ bounds later, ¬(registry.register bounds).isOk →
      Registry.empty.performAll (steps ++ .register bounds :: later) =
        Registry.empty.performAll (steps ++ later)) ∧
    (Registry.history steps = none → registry.instruments = none) ∧
    ∀ bounds records, Registry.history steps = some (bounds, records) →
      ∃ m, registry.instruments = some m ∧ m.bounds = bounds ∧ m.Sorted ∧
        (∀ labels, m.reading labels = .pooled bounds records labels) ∧
        (∀ clientId partition, UnsharedLabels records (.of clientId partition) →
          m.reading (.of clientId partition) = .own bounds
            ((records.filter fun r => r.clientId = clientId ∧
              r.outcome.partition = partition).map Recorded.outcome)) ∧
        ((∀ r ∈ records, UnsharedLabels records r.labels) → ∀ steps' records',
          Registry.history steps' = some (bounds, records') → records.Perm records' →
            ∃ m', (Registry.empty.performAll steps').instruments = some m' ∧
              m.families.map Family.withoutSums = m'.families.map Family.withoutSums) := by
  intro registry
  refine ⟨fun bounds later bounds' hok hok' => ?_, fun bounds later hnot => ?_, fun hnone => ?_,
    fun bounds records hhistory => ?_⟩
  · -- A registration that succeeds leaves instruments behind, and then no other one does.
    rw [Registry.performAll_append, Registry.performAll, List.foldl_cons,
      Registry.perform_register_of_isOk hok] at hok'
    rw [← Registry.performAll, Registry.performAll_some, Registry.register_isOk_iff] at hok'
    cases hok'.2
  · rw [Registry.performAll_append, Registry.performAll, List.foldl_cons,
      Registry.perform_register_of_not_isOk hnot, Registry.performAll_append]
    rfl
  · rw [show registry = _ from Registry.performAll_empty steps, hnone]
    rfl
  · have hbounds := Registry.ascending_of_history hhistory
    obtain ⟨m, hm, hcounts⟩ := Registry.counts_of_history hhistory
    have hreading := hcounts.reading_eq_pooled hbounds
    refine ⟨m, hm, hcounts.kept, hcounts.sorted, hreading, fun clientId partition hown => ?_,
      fun hunshared steps' records' hhistory' hperm => ?_⟩
    · -- Labels name their client and their partition, so these are the outcomes of both.
      have hlabels : records.filter (·.labels = .of clientId partition) =
          records.filter fun r => r.clientId = clientId ∧ r.outcome.partition = partition :=
        List.filter_congr fun r _ => decide_eq_decide.2 Labels.of_eq_of_iff
      rw [hreading, hown.pooled_eq_own, outcomesOf, hlabels]
    · obtain ⟨m', hm', hcounts'⟩ := Registry.counts_of_history hhistory'
      exact ⟨m', hm', families_eq_of_perm hbounds hcounts hcounts' hperm hunshared⟩

/-- A registry that refuses two registrations, with outcomes of all kinds. -/
theorem exposition_of_steps_with_refusals :
    let records : List Recorded :=
      [⟨"canary", .delivered 1 7 (-3)⟩, ⟨"canary", ⟨1, true, none, none⟩⟩,
        ⟨"canary", ⟨1, false, none, some 9⟩⟩, ⟨"canary", .delivered 1 8 20⟩, ⟨"probe", .failed 1⟩]
    let opening : List Registry.Step := [.record ⟨"canary", .failed 1⟩, .register [50, 5]]
    let steps := opening ++ .register [5, 50] :: records.map .record
    let registry := Registry.empty.performAll steps
    ((Registry.empty.performAll opening).register [5, 50]).isOk ∧
      ¬(registry.register [1]).isOk ∧
      Registry.empty.performAll (steps ++ [.register [1]]) = registry ∧
      Registry.history [.register [1, 0]] = none ∧
      (Registry.empty.performAll [.register [1, 0]]).instruments = none ∧
      Registry.history steps = some ([5, 50], records) ∧
      UnsharedLabels records (.of "canary" 1) ∧ UnsharedLabels records (.of "probe" 1) ∧
      ∃ m, registry.instruments = some m ∧
        m.reading (.of "canary" 1) = ⟨some 4, some 1, some 1, some (2, [1, 2])⟩ ∧
        m.reading (.of "probe" 1) = ⟨some 1, some 1, none, none⟩ ∧
        ∃ m', (Registry.empty.performAll
            (.register [5, 50] :: records.reverse.map .record)).instruments = some m' ∧
          m.families.map Family.withoutSums = m'.families.map Family.withoutSums := by
  intro records opening steps registry
  have hopening : ((Registry.empty.performAll opening).register [5, 50]).isOk := by decide +kernel
  have hhistory : Registry.history steps = some ([5, 50], records) := by decide +kernel
  have hcanary : UnsharedLabels records (.of "canary" 1) := by decide +kernel
  have hprobe : UnsharedLabels records (.of "probe" 1) := by decide +kernel
  have hnone : Registry.history [.register [1, 0]] = none := by decide +kernel
  obtain ⟨hatmost, -, -, -⟩ := exposition_of_steps opening
  have hrefused := hatmost [5, 50] (records.map .record) [1] hopening
  obtain ⟨-, hunchanged, -, hexposed⟩ := exposition_of_steps steps
  obtain ⟨-, -, hempty, -⟩ := exposition_of_steps [.register [1, 0]]
  obtain ⟨m, hm, -, -, -, hown, hperm⟩ := hexposed [5, 50] records hhistory
  refine ⟨hopening, hrefused, ?_, hnone, hempty hnone, hhistory, hcanary, hprobe, m, hm, ?_, ?_, ?_⟩
  · exact (hunchanged [1] [] hrefused).trans (congrArg _ steps.append_nil)
  · exact (hown "canary" 1 hcanary).trans (by decide +kernel)
  · exact (hown "probe" 1 hprobe).trans (by decide +kernel)
  · exact hperm (by decide +kernel) _ records.reverse (by decide +kernel) records.reverse_perm.symm

/-- Labels of two clients share a fingerprint if one client id goes on where the other one ends. The
outcomes of both are then shown for the labels recorded first. -/
theorem reading_of_shared_fingerprint :
    let records : List Recorded := [⟨"a1", .delivered 2 7 3⟩, ⟨"a", .delivered 12 7 3⟩]
    let registry := Registry.empty.performAll (.register [5, 50] :: records.map .record)
    let shown (labels : Labels) := registry.instruments.map (·.reading labels)
    shown (.of "a1" 2) = some ⟨some 2, none, none, some (2, [2, 2])⟩ ∧
      shown (.of "a" 12) = some ⟨none, none, none, none⟩ ∧
      Reading.own [5, 50] (outcomesOf records (.of "a1" 2)) =
        ⟨some 1, none, none, some (1, [1, 1])⟩ ∧
      Reading.own [5, 50] (outcomesOf records (.of "a" 12)) =
        ⟨some 1, none, none, some (1, [1, 1])⟩ := by
  decide +kernel

end KafkaCanary
