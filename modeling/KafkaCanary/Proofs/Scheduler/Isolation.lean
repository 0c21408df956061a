import KafkaCanary.Proofs.Producer.Counting
import KafkaCanary.Proofs.Scheduler.Tasks
import Mathlib.Data.List.Forall2

/-!
# Isolation of failures

What a failure changes. Two hosts are twins if they differ only in whether messages to one partition
`k` fail, and whether refreshes do: everything else about their clients, times and clocks is alike.
The same tasks on twins lead to the same calls at the same times with the same bytes, and to
producers that differ in their instruments only. What the instruments show can differ for the
partition `k`, and for partitions that share its fingerprint.

The hosts of a pair have worlds of their own, and a relation `R` says which worlds belong together.
Reports may differ, so they must not matter: `R` is kept if one host of a pair reports something.

## Main results

* `Host.Twins.recording`: the calls of twins are recorded alike;
* `Canary.Twins.carryOutAll`: tasks on twins;
* `Instruments.agree_of_twins`: what the instruments of twins show;
* `failures_isolated`: all of this, for tasks of a fresh producer.
-/

namespace KafkaCanary

/-! ## Twins -/

/-- Two hosts that differ only in the answers to messages to the partition `k` and to refreshes. -/
structure Host.Twins {W₁ W₂ : Type} (host₁ : Host W₁) (host₂ : Host W₂) (k : Int32)
    (R : W₁ → W₂ → Prop) : Prop where
  now {w₁ w₂} : R w₁ w₂ → host₁.now w₁ = host₂.now w₂
  elapsed {w₁ w₂} : R w₁ w₂ → host₁.elapsed w₁ = host₂.elapsed w₂
  waitUntil {w₁ w₂} (time) : R w₁ w₂ → R (host₁.waitUntil time w₁) (host₂.waitUntil time w₂)
  emit_left {w₁ w₂} (event) : R w₁ w₂ → R (host₁.emit event w₁) w₂
  emit_right {w₁ w₂} (event) : R w₁ w₂ → R w₁ (host₂.emit event w₂)
  send {w₁ w₂} (topic partition payload) : R w₁ w₂ →
    R (host₁.send topic partition payload w₁).2 (host₂.send topic partition payload w₂).2 ∧
      (partition ≠ k →
        (host₁.send topic partition payload w₁).1 = (host₂.send topic partition payload w₂).1)
  refresh {w₁ w₂} (topic) : R w₁ w₂ → R (host₁.refresh topic w₁).2 (host₂.refresh topic w₂).2
  partitionCount {w₁ w₂} (topic) : R w₁ w₂ →
    R (host₁.partitionCount topic w₁).2 (host₂.partitionCount topic w₂).2 ∧
      (host₁.partitionCount topic w₁).1 = (host₂.partitionCount topic w₂).1
  close {w₁ w₂} : R w₁ w₂ →
    R (host₁.close w₁).2 (host₂.close w₂).2 ∧ (host₁.close w₁).1 = (host₂.close w₂).1

/-- The same call, with answers that differ only if the call was for a message to the partition `k`
or for a refresh. -/
inductive Exchange.Twins (k : Int32) : Exchange → Exchange → Prop
  | send {topic partition payload answer₁ answer₂} : (partition ≠ k → answer₁ = answer₂) →
      Twins k (.send topic partition payload answer₁) (.send topic partition payload answer₂)
  | refresh {topic answer₁ answer₂} : Twins k (.refresh topic answer₁) (.refresh topic answer₂)
  | count {topic answer₁ answer₂} : answer₁ = answer₂ →
      Twins k (.count topic answer₁) (.count topic answer₂)
  | close {answer₁ answer₂} : answer₁ = answer₂ → Twins k (.close answer₁) (.close answer₂)

/-- The same call at the same time, and at the same time on the wall clock when it returned. -/
structure Entry.Twins (k : Int32) (entry₁ entry₂ : Entry) : Prop where
  exchange : entry₁.exchange.Twins k entry₂.exchange
  begun : entry₁.begun = entry₂.begun
  returned : entry₁.returned = entry₂.returned

/-- Worlds that belong together, after the same calls. -/
structure Ledger.Twins {W₁ W₂ : Type} (k : Int32) (R : W₁ → W₂ → Prop) (l₁ : Ledger W₁)
    (l₂ : Ledger W₂) : Prop where
  world : R l₁.world l₂.world
  entries : List.Forall₂ (Entry.Twins k) l₁.entries l₂.entries

/-- Producers that differ in their instruments only, in worlds that belong together. -/
structure Canary.Twins {W₁ W₂ : Type} (R : W₁ → W₂ → Prop) (c₁ : Canary W₁) (c₂ : Canary W₂) :
    Prop where
  clientId : c₁.producer.clientId = c₂.producer.clientId
  factory : c₁.producer.factory = c₂.producer.factory
  closed : c₁.producer.closed = c₂.producer.closed
  world : R c₁.world c₂.world

/-- The same operation. What happens outside the producer keeps worlds together. -/
inductive Operation.Twins {W₁ W₂ : Type} (R : W₁ → W₂ → Prop) :
    Operation W₁ → Operation W₂ → Prop
  | send (topic : String) (count : Int32) : Twins R (.send topic count) (.send topic count)
  | refresh (topic : String) : Twins R (.refresh topic) (.refresh topic)
  | close : Twins R .close .close
  | cycle (schedule : Schedule) : Twins R (.cycle schedule) (.cycle schedule)
  | outside {change₁ : W₁ → W₁} {change₂ : W₂ → W₂} :
      (∀ {w₁ w₂}, R w₁ w₂ → R (change₁ w₁) (change₂ w₂)) →
        Twins R (.outside change₁) (.outside change₂)

/-- The same shutdown. -/
structure Shutdown.Twins {W₁ W₂ : Type} (R : W₁ → W₂ → Prop) (shutdown₁ : Shutdown W₁)
    (shutdown₂ : Shutdown W₂) : Prop where
  latest : shutdown₁.latest = shutdown₂.latest
  arrived {w₁ w₂} : R w₁ w₂ → shutdown₁.arrived w₁ = shutdown₂.arrived w₂
  announce {w₁ w₂} : R w₁ w₂ → R (shutdown₁.announce w₁) (shutdown₂.announce w₂)

/-- The same task. -/
inductive Task.Twins {W₁ W₂ : Type} (R : W₁ → W₂ → Prop) : Task W₁ → Task W₂ → Prop
  | operation {op₁ : Operation W₁} {op₂ : Operation W₂} :
      op₁.Twins R op₂ → Twins R (.operation op₁) (.operation op₂)
  | run (schedule : Schedule) {shutdown₁ : Shutdown W₁} {shutdown₂ : Shutdown W₂} :
      shutdown₁.Twins R shutdown₂ → Twins R (.run schedule shutdown₁) (.run schedule shutdown₂)

section Twins

variable {W₁ W₂ : Type} {host₁ : Host W₁} {host₂ : Host W₂} {k : Int32} {R : W₁ → W₂ → Prop}

namespace Host.Twins

/-- Events leave twin hosts twins, whatever the events are. -/
theorem emit (h : host₁.Twins host₂ k R) (event₁ event₂ : Event) {w₁ : W₁} {w₂ : W₂}
    (hw : R w₁ w₂) : R (host₁.emit event₁ w₁) (host₂.emit event₂ w₂) :=
  h.emit_left event₁ (h.emit_right event₂ hw)

/-- Twins may report different numbers of events. -/
theorem emitAll (h : host₁.Twins host₂ k R) (events₁ events₂ : List Event) {w₁ : W₁} {w₂ : W₂}
    (hw : R w₁ w₂) : R (host₁.emitAll events₁ w₁) (host₂.emitAll events₂ w₂) := by
  have hright : R w₁ (host₂.emitAll events₂ w₂) := by
    induction events₂ generalizing w₂ with
    | nil => exact hw
    | cons event events ih => exact ih (h.emit_right event hw)
  clear hw
  induction events₁ generalizing w₁ with
  | nil => exact hright
  | cons event events ih => exact ih (h.emit_left event hright)

/-- Twin hosts know the same count. -/
theorem count (h : host₁.Twins host₂ k R) (schedule : Schedule)
    {w₁ : W₁} {w₂ : W₂} (hw : R w₁ w₂) :
    R (schedule.count host₁ w₁).2 (schedule.count host₂ w₂).2 ∧
      (schedule.count host₁ w₁).1 = (schedule.count host₂ w₂).1 := by
  unfold Schedule.count
  cases schedule.partitions with
  | some n => exact ⟨hw, rfl⟩
  | none => exact h.partitionCount schedule.topic hw

/-! ## Recording -/

/-- The calls of twins are recorded alike. -/
theorem recording (h : host₁.Twins host₂ k R) :
    host₁.recording.Twins host₂.recording k (Ledger.Twins k R) where
  now hl := h.now hl.world
  elapsed hl := h.elapsed hl.world
  waitUntil time hl := ⟨h.waitUntil time hl.world, hl.entries⟩
  emit_left event hl := ⟨h.emit_left event hl.world, hl.entries⟩
  emit_right event hl := ⟨h.emit_right event hl.world, hl.entries⟩
  send topic partition payload hl := by
    obtain ⟨hworld, hanswer⟩ := h.send topic partition payload hl.world
    refine ⟨⟨hworld, List.rel_append hl.entries (.cons ?_ .nil)⟩, hanswer⟩
    exact ⟨.send hanswer, h.elapsed hl.world, h.now hworld⟩
  refresh topic hl := by
    have hworld := h.refresh topic hl.world
    refine ⟨hworld, List.rel_append hl.entries (.cons ?_ .nil)⟩
    exact ⟨.refresh, h.elapsed hl.world, h.now hworld⟩
  partitionCount topic hl := by
    obtain ⟨hworld, hanswer⟩ := h.partitionCount topic hl.world
    refine ⟨⟨hworld, List.rel_append hl.entries (.cons ?_ .nil)⟩, hanswer⟩
    exact ⟨.count hanswer, h.elapsed hl.world, h.now hworld⟩
  close hl := by
    obtain ⟨hworld, hanswer⟩ := h.close hl.world
    refine ⟨⟨hworld, List.rel_append hl.entries (.cons ?_ .nil)⟩, hanswer⟩
    exact ⟨.close hanswer, h.elapsed hl.world, h.now hworld⟩

end Host.Twins

/-- Operations that are twins stay so with a ledger kept. -/
theorem Operation.Twins.recorded {op₁ : Operation W₁} {op₂ : Operation W₂} (h : op₁.Twins R op₂) :
    op₁.recorded.Twins (Ledger.Twins k R) op₂.recorded := by
  cases h with
  | send topic count => exact .send topic count
  | refresh topic => exact .refresh topic
  | close => exact .close
  | cycle schedule => exact .cycle schedule
  | outside hchange => exact .outside fun hl => ⟨hchange hl.world, hl.entries⟩

/-- Tasks that are twins stay so with a ledger kept. -/
theorem Task.Twins.recorded {task₁ : Task W₁} {task₂ : Task W₂} (h : task₁.Twins R task₂) :
    task₁.recorded.Twins (Ledger.Twins k R) task₂.recorded := by
  cases h with
  | operation hop => exact .operation hop.recorded
  | run schedule hshutdown =>
    refine .run schedule ⟨hshutdown.latest, fun hl => hshutdown.arrived hl.world, fun hl => ?_⟩
    exact ⟨hshutdown.announce hl.world, hl.entries⟩

/-- Twins see the shutdown at the same time. -/
theorem Shutdown.Twins.over_iff {shutdown₁ : Shutdown W₁} {shutdown₂ : Shutdown W₂}
    (hs : shutdown₁.Twins R shutdown₂) (h : host₁.Twins host₂ k R) {w₁ : W₁} {w₂ : W₂}
    (hw : R w₁ w₂) : (shutdown₁.arrived w₁ || shutdown₁.latest ≤ host₁.elapsed w₁) = true ↔
      shutdown₂.Over host₂ w₂ := by
  rw [hs.arrived hw, hs.latest, h.elapsed hw, Bool.or_eq_true, decide_eq_true_iff]
  rfl

/-! ## Tasks on twins -/

namespace Canary.Twins

variable {c₁ : Canary W₁} {c₂ : Canary W₂}

/-- Canaries stay twins when their worlds are exchanged for twins. -/
theorem withWorld (hc : c₁.Twins R c₂) {w₁ : W₁} {w₂ : W₂} (hw : R w₁ w₂) :
    Canary.Twins R { c₁ with world := w₁ } { c₂ with world := w₂ } :=
  ⟨hc.clientId, hc.factory, hc.closed, hw⟩

/-- Both twins make the same message at the same time, and it counts whatever becomes of it. -/
theorem attempt (h : host₁.Twins host₂ k R) (hc : c₁.Twins R c₂) (topic : String)
    (partition : Int32) :
    (c₁.attempt host₁ topic partition).Twins R (c₂.attempt host₂ topic partition) := by
  obtain ⟨⟨clientId, factory, closed, instruments₁⟩, w₁⟩ := c₁
  obtain ⟨⟨_, _, _, instruments₂⟩, w₂⟩ := c₂
  obtain ⟨rfl, rfl, rfl, hw⟩ := hc
  have hnow : host₁.now w₁ = host₂.now w₂ := h.now hw
  simp only [Canary.attempt, Producer.stamp, hnow]
  refine ⟨rfl, rfl, rfl, h.emitAll _ _ ?_⟩
  exact (h.send topic partition _ (h.emit _ _ hw)).1

/-- A fan-out leaves twins twins: one send after another, by `attempt`. -/
theorem foldl_attempt (h : host₁.Twins host₂ k R) (hc : c₁.Twins R c₂) (topic : String)
    (partitions : List Int32) : (partitions.foldl (Canary.attempt host₁ topic) c₁).Twins R
      (partitions.foldl (Canary.attempt host₂ topic) c₂) := by
  induction partitions generalizing c₁ c₂ with
  | nil => exact hc
  | cons partition partitions ih => exact ih (hc.attempt h topic partition)

/-- Sending to every partition leaves twins twins. -/
theorem sendToPartitions (h : host₁.Twins host₂ k R) (hc : c₁.Twins R c₂) (topic : String)
    (count : Int32) : (c₁.sendToPartitions host₁ topic count).Twins R
      (c₂.sendToPartitions host₂ topic count) := by
  unfold Canary.sendToPartitions
  rw [hc.closed]
  split
  · exact hc.withWorld (h.emit _ _ hc.world)
  split
  · exact hc.withWorld (h.emit _ _ hc.world)
  · exact hc.foldl_attempt h topic _

/-- A refresh that fails is reported and nothing else. -/
theorem refresh (h : host₁.Twins host₂ k R) (hc : c₁.Twins R c₂) (topic : String) :
    (c₁.refresh host₁ topic).Twins R (c₂.refresh host₂ topic) := by
  have hw := h.refresh topic (h.emit (.refreshing topic) (.refreshing topic) hc.world)
  unfold Canary.refresh
  generalize host₁.refresh topic (host₁.emit (.refreshing topic) c₁.world) = refreshed₁ at hw ⊢
  generalize host₂.refresh topic (host₂.emit (.refreshing topic) c₂.world) = refreshed₂ at hw ⊢
  rcases refreshed₁ with ⟨failure₁ | _, w₁⟩ <;> rcases refreshed₂ with ⟨failure₂ | _, w₂⟩
  · exact hc.withWorld (h.emit _ _ hw)
  · exact hc.withWorld (h.emit_left _ hw)
  · exact hc.withWorld (h.emit_right _ hw)
  · exact hc.withWorld hw

/-- Twins close with the same result and stay twins. -/
theorem close (h : host₁.Twins host₂ k R) (hc : c₁.Twins R c₂) :
    (c₁.close host₁).1 = (c₂.close host₂).1 ∧ (c₁.close host₁).2.Twins R (c₂.close host₂).2 := by
  have hclose := h.close (h.emit .producerClosing .producerClosing hc.world)
  unfold Canary.close
  rw [hc.closed]
  split
  · exact ⟨rfl, hc.withWorld (h.emit _ _ hc.world)⟩
  generalize host₁.close (host₁.emit .producerClosing c₁.world) = closed₁ at hclose ⊢
  generalize host₂.close (host₂.emit .producerClosing c₂.world) = closed₂ at hclose ⊢
  obtain ⟨answer, w₁⟩ := closed₁
  obtain ⟨_, w₂⟩ := closed₂
  obtain ⟨hw, rfl⟩ := hclose
  cases answer with
  | error failure => exact ⟨rfl, hc.withWorld hw⟩
  | ok => exact ⟨rfl, hc.clientId, hc.factory, rfl, h.emit _ _ hw⟩

/-- A fan-out of the schedule leaves twins twins, with the count known or not. -/
theorem fanOut (h : host₁.Twins host₂ k R) (hc : c₁.Twins R c₂) (schedule : Schedule)
    (count : Option Int32) :
    (schedule.fanOut host₁ count c₁).2.Twins R (schedule.fanOut host₂ count c₂).2 := by
  cases count with
  | none => exact hc.withWorld (h.emit _ _ hc.world)
  | some n => exact (hc.withWorld (h.emit _ _ hc.world)).sendToPartitions h schedule.topic n

/-- A cycle leaves twins twins. -/
theorem runCycle (h : host₁.Twins host₂ k R) (hc : c₁.Twins R c₂) (schedule : Schedule) :
    (schedule.runCycle host₁ c₁).2.Twins R (schedule.runCycle host₂ c₂).2 := by
  have hrefresh := hc.refresh h schedule.topic
  obtain ⟨hw, hcount⟩ := h.count schedule hrefresh.world
  simp only [Schedule.runCycle]
  rw [hcount]
  exact (hrefresh.withWorld hw).fanOut h schedule _

/-- One operation leaves twins twins. -/
theorem perform (h : host₁.Twins host₂ k R) (hc : c₁.Twins R c₂) {op₁ : Operation W₁}
    {op₂ : Operation W₂} (hop : op₁.Twins R op₂) :
    (c₁.perform host₁ op₁).Twins R (c₂.perform host₂ op₂) := by
  cases hop with
  | send topic count => exact hc.sendToPartitions h topic count
  | refresh topic => exact hc.refresh h topic
  | close => exact (hc.close h).2
  | cycle schedule => exact hc.runCycle h schedule
  | outside hchange => exact hc.withWorld (hchange hc.world)

/-- Twins run the same number of cycles. -/
theorem runFrom (h : host₁.Twins host₂ k R) (schedule : Schedule) {shutdown₁ : Shutdown W₁}
    {shutdown₂ : Shutdown W₂} (hs : shutdown₁.Twins R shutdown₂) (due n : Nat)
    (hc : c₁.Twins R c₂) :
    (schedule.runFrom host₁ shutdown₁ due n c₁).1 =
        (schedule.runFrom host₂ shutdown₂ due n c₂).1 ∧
      (schedule.runFrom host₁ shutdown₁ due n c₁).2.Twins R
        (schedule.runFrom host₂ shutdown₂ due n c₂).2 := by
  revert c₂
  -- The cases are those of the first twin, and the second one is in the same case.
  fun_induction Schedule.runFrom host₁ schedule shutdown₁ due n c₁
  case case1 due n c₁ hover =>
    intro c₂ hc
    rw [hs.over_iff h hc.world] at hover
    rw [Schedule.runFrom_of_over host₂ schedule shutdown₂ hover]
    exact ⟨rfl, hc⟩
  case case2 due n c₁ hover hdue =>
    intro c₂ hc
    rw [hs.over_iff h hc.world] at hover
    rw [hs.latest] at hdue ⊢
    rw [Schedule.runFrom_of_latest_le host₂ schedule shutdown₂ hover hdue]
    exact ⟨rfl, hc.withWorld (h.waitUntil _ hc.world)⟩
  case case3 due n c₁ hover hdue woken ih =>
    intro c₂ hc
    rw [hs.over_iff h hc.world] at hover
    rw [hs.latest] at hdue
    rw [Schedule.runFrom_of_lt_latest host₂ schedule shutdown₂ hover hdue]
    have hw : R woken (host₂.waitUntil due c₂.world) := h.waitUntil due hc.world
    rw [h.elapsed hw] at ih ⊢
    exact ih ((hc.withWorld hw).runCycle h schedule)

/-- A run of the schedule leaves twins twins, and stops at the same time for both. -/
theorem run (h : host₁.Twins host₂ k R) (hc : c₁.Twins R c₂) (schedule : Schedule)
    {shutdown₁ : Shutdown W₁} {shutdown₂ : Shutdown W₂} (hs : shutdown₁.Twins R shutdown₂) :
    (schedule.run host₁ shutdown₁ c₁).2.Twins R (schedule.run host₂ shutdown₂ c₂).2 := by
  let starting := Event.schedulerStarting schedule.topic schedule.interval.val.millis
  have hstarted := hc.withWorld (h.emit starting starting hc.world)
  have helapsed : host₁.elapsed (host₁.emit starting c₁.world) =
      host₂.elapsed (host₂.emit starting c₂.world) := h.elapsed hstarted.world
  obtain ⟨-, hrun⟩ :=
    runFrom h schedule hs (host₂.elapsed (host₂.emit starting c₂.world)) 0 hstarted
  simp only [Schedule.run]
  rw [helapsed]
  exact hrun.withWorld (h.emit _ _ (hs.announce hrun.world))

/-- One task leaves twins twins. -/
theorem carryOut (h : host₁.Twins host₂ k R) (hc : c₁.Twins R c₂) {task₁ : Task W₁}
    {task₂ : Task W₂} (htask : task₁.Twins R task₂) :
    (c₁.carryOut host₁ task₁).Twins R (c₂.carryOut host₂ task₂) := by
  cases htask with
  | operation hop => exact hc.perform h hop
  | run schedule hs => exact hc.run h schedule hs

/-- The same tasks keep twins together. -/
theorem carryOutAll (h : host₁.Twins host₂ k R) (hc : c₁.Twins R c₂) {tasks₁ : List (Task W₁)}
    {tasks₂ : List (Task W₂)} (htasks : List.Forall₂ (Task.Twins R) tasks₁ tasks₂) :
    (c₁.carryOutAll host₁ tasks₁).Twins R (c₂.carryOutAll host₂ tasks₂) := by
  induction htasks generalizing c₁ c₂ with
  | nil => exact hc
  | cons htask _ ih => exact ih (hc.carryOut h htask)

end Canary.Twins

end Twins

/-! ## What instruments show -/

/-- The same message to the same partition. The answers differ only for the partition `k`. -/
structure Dispatch.Twins (k : Int32) (d₁ d₂ : Dispatch) : Prop where
  partition : d₁.partition = d₂.partition
  answer : d₁.partition ≠ k → d₁ = d₂

section Samples

variable {k : Int32} {ds₁ ds₂ : List Dispatch}

/-- Twin entries are both dispatches, and then twins, or neither is one. -/
theorem Entry.Twins.dispatch? {entry₁ entry₂ : Entry} (h : entry₁.Twins k entry₂) :
    Option.Rel (Dispatch.Twins k) entry₁.dispatch? entry₂.dispatch? := by
  obtain ⟨exchange₁, begun₁, returned₁⟩ := entry₁
  obtain ⟨exchange₂, begun₂, returned₂⟩ := entry₂
  obtain ⟨hexchange, -, rfl⟩ := h
  cases hexchange with
  | send hanswer => exact .some ⟨rfl, fun hne => by rw [hanswer hne]⟩
  | refresh => exact .none
  | count _ => exact .none
  | close _ => exact .none

/-- Ledgers of twins tell of twin dispatches, one by one. -/
theorem forall₂_dispatches {entries₁ entries₂ : List Entry}
    (h : List.Forall₂ (Entry.Twins k) entries₁ entries₂) :
    List.Forall₂ (Dispatch.Twins k) (dispatches entries₁) (dispatches entries₂) :=
  List.rel_filterMap (fun _ _ hentry => hentry.dispatch?) h

/-- Twin dispatches count under the same labels. -/
theorem map_labels_of_twins (clientId : String) (h : List.Forall₂ (Dispatch.Twins k) ds₁ ds₂) :
    ds₁.map (Dispatch.labels clientId) = ds₂.map (Dispatch.labels clientId) := by
  induction h with
  | nil => rfl
  | cons hd _ ih => rw [List.map_cons, List.map_cons, ih, Dispatch.labels, Dispatch.labels,
      hd.partition]

/-- Labels that were not addressed, or do not have the fingerprint of the partition `k`. -/
def Apart (clientId : String) (sent : List Dispatch) (k : Int32) (labels : Labels) : Prop :=
  labels ∈ sent.map (Dispatch.labels clientId) →
    labels.fingerprint ≠ (Labels.of clientId k).fingerprint

variable {α β : Type} {start : α} {f : β → α → α} {table₁ table₂ : Table Labels α}
  {event : Dispatch → Option (Labels × β)} {clientId : String}

/-- What twins count for a fingerprint other than that of the partition `k` is the same. -/
theorem filter_filterMap_of_twins (hevent : ∀ {d e}, event d = some e → e.1 = d.labels clientId)
    {print : UInt64} (hprint : (Labels.of clientId k).fingerprint ≠ print)
    (h : List.Forall₂ (Dispatch.Twins k) ds₁ ds₂) :
    (ds₁.filterMap event).filter (·.1.fingerprint == print) =
      (ds₂.filterMap event).filter (·.1.fingerprint == print) := by
  have hout {d : Dispatch} (hd : d.partition = k) (ds : List Dispatch) :
      ((d :: ds).filterMap event).filter (·.1.fingerprint == print) =
        (ds.filterMap event).filter (·.1.fingerprint == print) := by
    cases he : event d with
    | none => rw [List.filterMap_cons_none he]
    | some e =>
      rw [List.filterMap_cons_some he, List.filter_cons_of_neg]
      rwa [hevent he, Dispatch.labels, hd, beq_iff_eq]
  -- A dispatch to the partition that fails is under another fingerprint on both sides; any other is
  -- the same on both sides.
  induction h with
  | nil => rfl
  | @cons d₁ d₂ ds₁ ds₂ hd _ ih =>
    by_cases hk : d₁.partition = k
    · rw [hout hk, hout (hd.partition ▸ hk), ih]
    · obtain rfl := hd.answer hk
      cases he : event d₁ with
      | none => rw [List.filterMap_cons_none he, List.filterMap_cons_none he, ih]
      | some e =>
        rw [List.filterMap_cons_some he, List.filterMap_cons_some he, List.filter_cons,
          List.filter_cons, ih]

/-- Tables of what twins counted agree on labels apart from the partition `k`. -/
theorem Tallies.agree (h₁ : Tallies start f table₁ (ds₁.filterMap event))
    (h₂ : Tallies start f table₂ (ds₂.filterMap event))
    (hds : List.Forall₂ (Dispatch.Twins k) ds₁ ds₂)
    (hevent : ∀ {d e}, event d = some e → e.1 = d.labels clientId) {labels : Labels}
    (hapart : Apart clientId ds₁ k labels) : table₁.get? labels = table₂.get? labels := by
  rw [h₁ labels, h₂ labels]
  by_cases hshares : labels.fingerprint = (Labels.of clientId k).fingerprint
  · -- Such labels were not addressed, so neither table shows them.
    have hnot {ds : List Dispatch} (h : labels ∉ ds.map (Dispatch.labels clientId)) :
        tally start f (ds.filterMap event) labels = none := by
      refine tally_of_not_mem fun hmem => h ?_
      obtain ⟨e, he, rfl⟩ := List.mem_map.1 hmem
      obtain ⟨d, hd, hsome⟩ := List.mem_filterMap.1 he
      exact List.mem_map.2 ⟨d, hd, (hevent hsome).symm⟩
    have hnone : labels ∉ ds₁.map (Dispatch.labels clientId) := fun hmem => hapart hmem hshares
    rw [hnot hnone, hnot (map_labels_of_twins clientId hds ▸ hnone)]
  · exact tally_congr (filter_filterMap_of_twins hevent (Ne.symm hshares) hds)

/-- A dispatch is counted under its own labels. -/
theorem Dispatch.counted_eq_some {test : Dispatch → Bool} {d : Dispatch} {e : Labels × Unit}
    (h : d.counted clientId test = some e) : e.1 = d.labels clientId := by
  rw [Dispatch.counted] at h
  split at h
  · cases h; rfl
  · cases h

/-- A dispatch is timed under its own labels. -/
theorem Dispatch.timed_eq_some {d : Dispatch} {e : Labels × Int64}
    (h : d.timed clientId = some e) : e.1 = d.labels clientId := by
  obtain ⟨_, -, rfl⟩ := Option.map_eq_some_iff.1 h
  rfl

/-- Every message counts as produced, whatever its answer. -/
theorem filterMap_counted_true (clientId : String) (ds : List Dispatch) :
    ds.filterMap (Dispatch.counted clientId fun _ => true) =
      (ds.map (Dispatch.labels clientId)).map fun labels => (labels, ()) := by
  induction ds with
  | nil => rfl
  | cons d ds ih =>
    have hd : d.counted clientId (fun _ => true) = some (d.labels clientId, ()) := if_pos rfl
    rw [List.filterMap_cons_some hd, ih]
    rfl

/-- What the instruments of twins show: the same messages as produced, and for labels apart from the
partition `k` the same failures, latencies and skews. -/
theorem Account.Counted.agree {bounds : List Float} {a₁ a₂ : Account}
    (h₁ : Counted clientId bounds a₁) (h₂ : Counted clientId bounds a₂)
    (h : List.Forall₂ (Entry.Twins k) a₁.entries a₂.entries) :
    let m₁ := a₁.producer.instruments
    let m₂ := a₂.producer.instruments
    (∀ labels, m₁.produced.get? labels = m₂.produced.get? labels) ∧
      ∀ labels, Apart clientId (dispatches a₁.entries) k labels →
        m₁.failed.get? labels = m₂.failed.get? labels ∧
          m₁.latency.get? labels = m₂.latency.get? labels ∧
          m₁.skewed.get? labels = m₂.skewed.get? labels := by
  have hds := forall₂_dispatches h
  refine ⟨fun labels => ?_, fun labels hapart => ⟨?_, ?_, ?_⟩⟩
  · rw [h₁.produced labels, h₂.produced labels, filterMap_counted_true, filterMap_counted_true,
      map_labels_of_twins clientId hds]
  · exact h₁.failed.agree h₂.failed hds Dispatch.counted_eq_some hapart
  · exact h₁.latency.agree h₂.latency hds Dispatch.timed_eq_some hapart
  · exact h₁.skewed.agree h₂.skewed hds Dispatch.counted_eq_some hapart

end Samples

/-- Failures of messages to one partition, and of refreshes, are isolated. The same tasks of a fresh
producer on twins lead to the same calls at the same times, to the same last number and state, to
the same number of messages produced under all labels, and to the same samples under all labels
apart from that partition. -/
theorem failures_isolated {W₁ W₂ : Type} {host₁ : Host W₁} {host₂ : Host W₂} {k : Int32}
    {R : W₁ → W₂ → Prop} (h : host₁.Twins host₂ k R) (clientId : String) (bounds : List Float)
    {w₁ : W₁} {w₂ : W₂} (hw : R w₁ w₂) {tasks₁ : List (Task W₁)} {tasks₂ : List (Task W₂)}
    (htasks : List.Forall₂ (Task.Twins R) tasks₁ tasks₂) :
    let start₁ : Canary W₁ := ⟨.init clientId (.init bounds), w₁⟩
    let start₂ : Canary W₂ := ⟨.init clientId (.init bounds), w₂⟩
    let run₁ := start₁.recorded.carryOutAll host₁.recording (tasks₁.map .recorded)
    let run₂ := start₂.recorded.carryOutAll host₂.recording (tasks₂.map .recorded)
    run₁.base = start₁.carryOutAll host₁ tasks₁ ∧ run₂.base = start₂.carryOutAll host₂ tasks₂ ∧
      List.Forall₂ (Entry.Twins k) run₁.world.entries run₂.world.entries ∧
      run₁.producer.lastMessageId = run₂.producer.lastMessageId ∧
      run₁.producer.closed = run₂.producer.closed ∧
      (∀ labels, run₁.producer.instruments.produced.get? labels =
        run₂.producer.instruments.produced.get? labels) ∧
      ∀ labels, Apart clientId (dispatches run₁.world.entries) k labels →
        run₁.producer.instruments.failed.get? labels =
            run₂.producer.instruments.failed.get? labels ∧
          run₁.producer.instruments.latency.get? labels =
            run₂.producer.instruments.latency.get? labels ∧
          run₁.producer.instruments.skewed.get? labels =
            run₂.producer.instruments.skewed.get? labels := by
  intro start₁ start₂ run₁ run₂
  -- Both runs begin as twins, and each task keeps them so. Their counts follow from their ledgers.
  have hstart : start₁.recorded.Twins (Ledger.Twins k R) start₂.recorded :=
    ⟨rfl, rfl, rfl, hw, .nil⟩
  have htasks : List.Forall₂ (Task.Twins (Ledger.Twins k R)) (tasks₁.map .recorded)
      (tasks₂.map .recorded) := List.rel_map (fun _ _ htask => htask.recorded) htasks
  have hrun : run₁.Twins (Ledger.Twins k R) run₂ := hstart.carryOutAll h.recording htasks
  have hreaches₁ := start₁.recorded.carryOutAll_reaches host₁ tasks₁
  have hreaches₂ := start₂.recorded.carryOutAll_reaches host₂ tasks₂
  obtain ⟨hproduced, hsamples⟩ := hreaches₁.counted.agree hreaches₂.counted hrun.world.entries
  refine ⟨start₁.recorded.base_carryOutAll host₁ tasks₁,
    start₂.recorded.base_carryOutAll host₂ tasks₂, hrun.world.entries, ?_, hrun.closed, hproduced,
    hsamples⟩
  rw [Producer.lastMessageId, Producer.lastMessageId, hrun.factory]

/-! ## On a bench -/

/-- Benches with nothing planned whose scripts differ in how messages to the partition `k` and
refreshes fail. -/
structure Bench.Twins (k : Int32) (b₁ b₂ : Bench) : Prop where
  script : b₂.script = { b₁.script with
    failures := b₂.script.failures, refreshFailure := b₂.script.refreshFailure }
  failures : ∀ partition, partition ≠ k →
    b₁.script.failures.get? partition = b₂.script.failures.get? partition
  clock : b₁.clock = b₂.clock
  elapsed : b₁.elapsed = b₂.elapsed
  planned₁ : b₁.planned = []
  planned₂ : b₂.planned = []

namespace Bench.Twins

variable {k : Int32} {b₁ b₂ : Bench}

/-- A call noted on both sides keeps benches twins, whatever call it is. -/
theorem note (h : b₁.Twins k b₂) (call₁ call₂ : Call) : (b₁.note call₁).Twins k (b₂.note call₂) :=
  ⟨h.script, h.failures, h.clock, h.elapsed, h.planned₁, h.planned₂⟩

/-- A clock moved by as much on both sides. -/
theorem shift (h : b₁.Twins k b₂) (delta : Int64) : (b₁.shift delta).Twins k (b₂.shift delta) :=
  ⟨h.script, h.failures, congrArg (·.advance delta) h.clock, h.elapsed, h.planned₁, h.planned₂⟩

/-- A wait for the same time on both sides. -/
theorem waitUntil (h : b₁.Twins k b₂) (time : Nat) :
    (b₁.waitUntil time).Twins k (b₂.waitUntil time) := by
  obtain ⟨script₁, clock, elapsed, _, calls₁, journal₁⟩ := b₁
  obtain ⟨script₂, _, _, _, calls₂, journal₂⟩ := b₂
  obtain ⟨hscript, hfailures, rfl, rfl, rfl, rfl⟩ := h
  exact ⟨hscript, hfailures, rfl, rfl, rfl, rfl⟩

/-- A wait of the same length on both sides. -/
theorem last (h : b₁.Twins k b₂) (wait : Nat) : (b₁.last wait).Twins k (b₂.last wait) := by
  unfold Bench.last
  split
  · exact h
  · rw [h.elapsed]
    exact h.waitUntil _

/-- Twin benches read the same time. -/
theorem now_eq (h : b₁.Twins k b₂) : b₁.now = b₂.now := by
  rw [Bench.now, Bench.now, h.clock, h.elapsed]

/-- What a script says about other things than those failures. -/
theorem script_eq (h : b₁.Twins k b₂) {α : Type} (read : Script → α)
    (hread : ∀ script failures refreshFailure,
      read { script with failures := failures, refreshFailure := refreshFailure } = read script) :
    read b₁.script = read b₂.script :=
  (hread _ _ _).symm.trans (congrArg read h.script).symm

/-- A send keeps benches twins, and answers alike except at the partition that fails. -/
theorem answerSend (h : b₁.Twins k b₂) (partition : Int32) :
    (b₁.answerSend partition).2.Twins k (b₂.answerSend partition).2 ∧
      (partition ≠ k → (b₁.answerSend partition).1 = (b₂.answerSend partition).1) := by
  have hstate (b : Bench) : (b.answerSend partition).2 = b.shift b.script.ackDelay := by
    unfold Bench.answerSend
    dsimp only
    split <;> rfl
  have hdelay := h.script_eq Script.ackDelay fun _ _ _ => rfl
  have hreported := h.script_eq Script.reported fun _ _ _ => rfl
  have hoffsets := h.script_eq Script.offsets fun _ _ _ => rfl
  refine ⟨?_, fun hne => ?_⟩
  · rw [hstate, hstate, hdelay]
    exact h.shift _
  · simp only [Bench.answerSend, Bench.shift, h.failures partition hne, hreported, hoffsets]
    split <;> rfl

/-- A refresh keeps benches twins. -/
theorem answerRefresh (h : b₁.Twins k b₂) : b₁.answerRefresh.2.Twins k b₂.answerRefresh.2 := by
  unfold Bench.answerRefresh
  split <;> split <;> exact h

/-- A close keeps benches twins and answers alike. -/
theorem answerClose (h : b₁.Twins k b₂) :
    b₁.answerClose.2.Twins k b₂.answerClose.2 ∧ b₁.answerClose.1 = b₂.answerClose.1 := by
  unfold Bench.answerClose
  rw [h.script_eq Script.closeFailure fun _ _ _ => rfl]
  split
  · exact ⟨h, rfl⟩
  · exact ⟨h, rfl⟩

end Bench.Twins

/-- Benches of which only the failures differ are twins. -/
theorem Bench.host_twins (k : Int32) : Bench.host.Twins Bench.host k (Bench.Twins k) where
  now h := h.now_eq
  elapsed h := h.elapsed
  waitUntil time h := h.waitUntil time
  emit_left _ h := ⟨h.script, h.failures, h.clock, h.elapsed, h.planned₁, h.planned₂⟩
  emit_right _ h := ⟨h.script, h.failures, h.clock, h.elapsed, h.planned₁, h.planned₂⟩
  send topic partition payload h := by
    have hwait := h.script_eq Script.sendWait fun _ _ _ => rfl
    simp only [Bench.host, hwait]
    exact ((h.note _ _).last _).answerSend partition
  refresh topic h := by
    have hwait := h.script_eq Script.refreshWait fun _ _ _ => rfl
    simp only [Bench.host, hwait]
    exact ((h.note _ _).last _).answerRefresh
  partitionCount topic h := ⟨h.note _ _, h.script_eq Script.partitions fun _ _ _ => rfl⟩
  close h := by
    have hwait := h.script_eq Script.closeWait fun _ _ _ => rfl
    simp only [Bench.host, hwait]
    exact ((h.note _ _).last _).answerClose

/-- A bench on which sending to a partition fails, and refreshing as well. -/
def Bench.failingAt (k : Int32) : Bench :=
  .init { Script.init with
    sendWait := 5, ackDelay := -3, failures := .ofList [(k, .of "down")],
    refreshFailure := some (.of "lost") } 0

/-- A bench on which nothing fails. -/
def Bench.sound : Bench :=
  .init { Script.init with sendWait := 5, ackDelay := -3 } 0

/-- A bench on which one partition fails and one on which none does are twins. -/
theorem Bench.failingAt_twins_sound (k : Int32) : (Bench.failingAt k).Twins k .sound where
  script := rfl
  failures partition hne := by
    show Table.get? (Table.insert .empty k _) partition = none
    rw [Table.get?_insert, if_neg hne]
    rfl
  clock := rfl
  elapsed := rfl
  planned₁ := rfl
  planned₂ := rfl

/-- A scheduler sends to three partitions three times, whether or not one of them fails. -/
theorem failures_isolated_on_bench :
    let schedule : Schedule := ⟨"t", ⟨.ofMillis 1000, by decide⟩, some 3⟩
    let tasks : List (Task Bench) := [.run schedule (.silentAt 2300), .operation .close]
    let start (b : Bench) : Canary Bench := ⟨.init "canary-client" (.init [5, 50]), b⟩
    let run (b : Bench) := (start b).recorded.carryOutAll Bench.host.recording
      (tasks.map Task.recorded)
    Bench.host.Twins Bench.host 1 (Bench.Twins 1) ∧ (Bench.failingAt 1).Twins 1 .sound ∧
      List.Forall₂ (Task.Twins (Bench.Twins 1)) tasks tasks ∧
      List.Forall₂ (Entry.Twins 1) (run (.failingAt 1)).world.entries
        (run .sound).world.entries ∧
      (run (.failingAt 1)).world.entries.length = 13 := by
  intro schedule tasks start run
  have htasks : List.Forall₂ (Task.Twins (Bench.Twins 1)) tasks tasks :=
    .cons (.run schedule ⟨rfl, fun _ => rfl, id⟩) (.cons (.operation .close) .nil)
  obtain ⟨-, -, hentries, -⟩ := failures_isolated (Bench.host_twins 1) "canary-client" [5, 50]
    (Bench.failingAt_twins_sound 1) htasks
  exact ⟨Bench.host_twins 1, Bench.failingAt_twins_sound 1, htasks, hentries, by decide +kernel⟩

/-- A failure at a partition can move the latencies of another one that shares its fingerprint: the
instruments show them under the labels of the partition that has one first. -/
theorem latency_moved_by_failure :
    let start (b : Bench) : Canary Bench := ⟨.init "canary-g73wJvQbZib" (.init [5, 50]), b⟩
    let run (b : Bench) := (start b).carryOutAll Bench.host [.operation (.send "t" 13)]
    let shown (b : Bench) :=
      ((run b).producer.instruments.latency.get? (.of "canary-g73wJvQbZib" 12)).map (·.count)
    Bench.host.Twins Bench.host 1 (Bench.Twins 1) ∧ (Bench.failingAt 1).Twins 1 .sound ∧
      Labels.of "canary-g73wJvQbZib" 12 ≠ .of "canary-g73wJvQbZib" 1 ∧
      shown (.failingAt 1) = some 1 ∧ shown .sound = none := by
  intro start run shown
  have hshown : shown (.failingAt 1) = some 1 ∧ shown .sound = none := by decide +kernel
  exact ⟨Bench.host_twins 1, Bench.failingAt_twins_sound 1, by decide +kernel, hshown⟩

end KafkaCanary
