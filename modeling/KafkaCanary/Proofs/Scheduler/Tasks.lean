import KafkaCanary.Proofs.Scheduler.Cycles

/-!
# Tasks

What a canary is put to: single operations of its producer and whole runs of a scheduler, in any
order. A run of a scheduler is a sequence of steps like any other operation, so what every step
preserves is preserved by tasks as well.

## Main results

* `base_carryOutAll`: recording the calls of tasks does not change them;
* `carryOutAll_reaches`: tasks are sequences of steps.
-/

namespace KafkaCanary

/-- What a canary can be put to. -/
inductive Task (W : Type) where
  /-- A single operation. -/
  | operation (op : Operation W)
  /-- A run of a scheduler, until its shutdown. -/
  | run (schedule : Schedule) (shutdown : Shutdown W)

/-- The task in a world whose calls are recorded. -/
def Task.recorded {W : Type} : Task W → Task (Ledger W)
  | .operation op => .operation op.recorded
  | .run schedule shutdown => .run schedule shutdown.recorded

namespace Canary

variable {W : Type} (host : Host W)

/-- Carry out one task. -/
def carryOut (c : Canary W) : Task W → Canary W
  | .operation op => c.perform host op
  | .run schedule shutdown => (schedule.run host shutdown c).2

/-- Carry out tasks one after the other. -/
def carryOutAll (tasks : List (Task W)) (c : Canary W) : Canary W :=
  tasks.foldl (carryOut host) c

theorem carryOutAll_cons (task : Task W) (tasks : List (Task W)) (c : Canary W) :
    c.carryOutAll host (task :: tasks) = (c.carryOut host task).carryOutAll host tasks :=
  rfl

/-! ## Recording changes nothing -/

theorem base_carryOut (task : Task W) (c : Canary (Ledger W)) :
    (c.carryOut host.recording task.recorded).base = c.base.carryOut host task := by
  cases task with
  | operation op => exact base_perform host op c
  | run schedule shutdown => exact (schedule.base_run host shutdown c).2

/-- Recording the calls does not change what tasks do. -/
theorem base_carryOutAll (tasks : List (Task W)) (c : Canary (Ledger W)) :
    (c.carryOutAll host.recording (tasks.map .recorded)).base = c.base.carryOutAll host tasks := by
  induction tasks generalizing c with
  | nil => rfl
  | cons task tasks ih => rw [List.map_cons, carryOutAll_cons, ih, base_carryOut, carryOutAll_cons]

/-! ## Steps -/

/-- Between cycles a run takes no steps, it only lets time pass. -/
theorem runFrom_reaches (schedule : Schedule) (shutdown : Shutdown (Ledger W)) (due n : Nat)
    (c : Canary (Ledger W)) :
    c.account.Reaches (schedule.runFrom host.recording shutdown due n c).2.account := by
  fun_induction Schedule.runFrom host.recording schedule shutdown due n c with
  | case1 => exact .refl
  | case2 => exact .refl
  | case3 due n c _ _ woken ih =>
    have hcycle := runCycle_reaches host schedule { c with world := woken }
    exact hcycle.trans ih

theorem run_reaches (schedule : Schedule) (shutdown : Shutdown W) (c : Canary (Ledger W)) :
    c.account.Reaches (schedule.run host.recording shutdown.recorded c).2.account :=
  -- The reports at both ends are no calls, and neither is the announcement.
  runFrom_reaches host schedule shutdown.recorded _ 0 (schedule.started host.recording c)

theorem carryOut_reaches (task : Task W) (c : Canary (Ledger W)) :
    c.account.Reaches (c.carryOut host.recording task.recorded).account := by
  cases task with
  | operation op => exact perform_reaches host op c
  | run schedule shutdown => exact run_reaches host schedule shutdown c

/-- Tasks are sequences of steps. -/
theorem carryOutAll_reaches (tasks : List (Task W)) (c : Canary (Ledger W)) :
    c.account.Reaches (c.carryOutAll host.recording (tasks.map .recorded)).account := by
  induction tasks generalizing c with
  | nil => exact .refl
  | cons task tasks ih => exact (carryOut_reaches host task c).trans (ih _)

end Canary

end KafkaCanary
