import KafkaCanary.Proofs.Producer.Callers
import Mathlib.Data.List.Nodup

/-!
# The lock of a producer

Callers that share a producer hand its lock over in the order of asking. Whatever the order of their
steps, at most one caller is between getting the lock and giving it up, the others wait in the
queue, and no caller gets the lock twice.

## Main results

* `Crew.Disciplined.turn`, `Crew.Disciplined.admission`: every step keeps the discipline of the
  lock;
* `Crew.Disciplined.eq_of_holds`: at most one caller has got the lock.
-/

namespace KafkaCanary

/-- What holds of a caller at its place: the queue is of those who have asked for the lock and not
given it up, the first of them alone can have got it, and the order is of those who have. -/
structure Caller.Keeps (queue : List Nat) (order : List Admission) (i : Nat) (caller : Caller) :
    Prop where
  mem_queue : i ∈ queue ↔ caller.phase.asks
  head : caller.phase.holds → queue.head? = some i
  locks : caller.phase.asks → caller.errand.locks
  refreshing : caller.phase = .refreshing → caller.errand.locks = false
  mem_order : i ∈ order.map Admission.caller ↔
    caller.phase.holds ∨ caller.phase.isFinished ∧ caller.errand.locks

namespace Crew

variable {W : Type} {crew crew' : Crew W} {errands : List Errand} {order order' : List Admission}
  {i : Nat} {errand : Errand} {phase phase' : Phase}

/-- The callers keep to the lock, and no caller gets it twice. -/
structure Disciplined (errands : List Errand) (order : List Admission) (crew : Crew W) : Prop where
  errands_eq : crew.callers.map Caller.errand = errands
  queue_nodup : crew.queue.Nodup
  order_nodup : (order.map Admission.caller).Nodup
  order_errand : ∀ a ∈ order, errands[a.caller]? = some a.errand
  keeps : ∀ i (caller : Caller), crew.callers[i]? = some caller →
    caller.Keeps crew.queue order i

theorem callers_moveTo_self (hcaller : crew.callers[i]? = some ⟨errand, phase⟩)
    (phase' : Phase) : (crew.moveTo i phase').callers[i]? = some ⟨errand, phase'⟩ := by
  simp [moveTo, hcaller]

theorem callers_moveTo_of_ne {j : Nat} (h : j ≠ i) (crew : Crew W) (phase' : Phase) :
    (crew.moveTo i phase').callers[j]? = crew.callers[j]? := by
  simp [moveTo, h.symm]

theorem map_errand_moveTo (crew : Crew W) (i : Nat) (phase' : Phase) :
    (crew.moveTo i phase').callers.map Caller.errand = crew.callers.map Caller.errand := by
  refine List.ext_getElem? fun j => ?_
  by_cases h : j = i
  · subst h
    rcases hcaller : crew.callers[j]? with _ | ⟨errand, phase⟩
    · simp [moveTo, hcaller]
    · simp [callers_moveTo_self hcaller, hcaller]
  · simp [callers_moveTo_of_ne h]

namespace Disciplined

theorem init (producer : Producer) (errands : List Errand) (w : W) :
    Disciplined errands [] (Crew.init producer errands w) where
  errands_eq := by simp [Crew.init, Function.comp_def]
  queue_nodup := .nil
  order_nodup := .nil
  order_errand := nofun
  keeps i caller h := by
    obtain ⟨errand, -, rfl⟩ : ∃ errand, errands[i]? = some errand ∧ ⟨errand, .ready⟩ = caller := by
      simpa [Crew.init] using h
    constructor <;> simp [Crew.init, Phase.asks, Phase.holds, Phase.isFinished]

/-- When one caller gets to another phase, the others keep to the lock if the queue and the order
are the same to them. -/
theorem moved (h : Disciplined errands order crew)
    (hcaller : crew.callers[i]? = some ⟨errand, phase⟩)
    (hcallers : crew'.callers = (crew.moveTo i phase').callers) (hqueue : crew'.queue.Nodup)
    (horder : (order'.map Admission.caller).Nodup)
    (herrand : ∀ a ∈ order', errands[a.caller]? = some a.errand)
    (hothers : ∀ j, j ≠ i → (j ∈ crew'.queue ↔ j ∈ crew.queue) ∧
      (crew.queue.head? = some j → crew'.queue.head? = some j) ∧
      (j ∈ order'.map Admission.caller ↔ j ∈ order.map Admission.caller))
    (hself : Caller.Keeps crew'.queue order' i ⟨errand, phase'⟩) :
    Disciplined errands order' crew' where
  errands_eq := by rw [hcallers, map_errand_moveTo, h.errands_eq]
  queue_nodup := hqueue
  order_nodup := horder
  order_errand := herrand
  keeps j caller hj := by
    rw [hcallers] at hj
    by_cases hij : j = i
    · subst hij
      rw [callers_moveTo_self hcaller] at hj
      cases hj
      exact hself
    · rw [callers_moveTo_of_ne hij] at hj
      obtain ⟨hmem, hhead, hadmitted⟩ := hothers j hij
      have hkeeps := h.keeps j caller hj
      exact ⟨hmem.trans hkeeps.mem_queue, fun hholds => hhead (hkeeps.head hholds), hkeeps.locks,
        hkeeps.refreshing, hadmitted.trans hkeeps.mem_order⟩

/-- A caller that neither gets nor gives up anything leaves the queue and the order alone. -/
theorem stays (h : Disciplined errands order crew)
    (hcaller : crew.callers[i]? = some ⟨errand, phase⟩)
    (hcallers : crew'.callers = (crew.moveTo i phase').callers) (hqueue : crew'.queue = crew.queue)
    (hself : Caller.Keeps crew.queue order i ⟨errand, phase⟩ →
      Caller.Keeps crew.queue order i ⟨errand, phase'⟩) : Disciplined errands order crew' := by
  refine h.moved hcaller hcallers (hqueue ▸ h.queue_nodup) h.order_nodup h.order_errand
    (fun j _ => ?_) ?_
  · rw [hqueue]
    exact ⟨.rfl, id, .rfl⟩
  · rw [hqueue]
    exact hself (h.keeps i _ hcaller)

/-- A caller that has got the lock keeps it. -/
theorem holding (h : Disciplined errands order crew)
    (hcaller : crew.callers[i]? = some ⟨errand, phase⟩)
    (hcallers : crew'.callers = (crew.moveTo i phase').callers) (hqueue : crew'.queue = crew.queue)
    (hholds : phase.holds) (hholds' : phase'.holds) : Disciplined errands order crew' := by
  refine h.stays hcaller hcallers hqueue fun hkeeps => ?_
  have hasks := Phase.asks_of_holds hholds
  have hasks' := Phase.asks_of_holds hholds'
  refine ⟨hkeeps.mem_queue.trans (iff_of_true hasks hasks'), fun _ => hkeeps.head hholds,
    fun _ => hkeeps.locks hasks, ?_,
    hkeeps.mem_order.trans (iff_of_true (.inl hholds) (.inl hholds'))⟩
  rintro rfl
  cases hholds'

/-- The first in the queue gets the lock. -/
theorem acquire (h : Disciplined errands order crew)
    (hcaller : crew.callers[i]? = some ⟨errand, .queued⟩) (hhead : crew.queue.head? = some i)
    (hcallers : crew'.callers = (crew.moveTo i phase').callers) (hqueue : crew'.queue = crew.queue)
    (hholds : phase'.holds) {closed : Bool} :
    Disciplined errands (order ++ [⟨i, errand, closed⟩]) crew' := by
  have hkeeps := h.keeps i _ hcaller
  have hnew : i ∉ order.map Admission.caller :=
    fun hmem => absurd (hkeeps.mem_order.1 hmem) (by simp [Phase.holds, Phase.isFinished])
  have herrand : errands[i]? = some errand := by
    rw [← h.errands_eq, List.getElem?_map, hcaller]
    rfl
  have hasks := Phase.asks_of_holds hholds
  refine h.moved hcaller hcallers (hqueue ▸ h.queue_nodup) ?_ ?_ (fun j hj => ?_) ?_
  · rw [List.map_append, List.map_singleton, ← List.concat_eq_append]
    exact .concat hnew h.order_nodup
  · intro a ha
    rcases List.mem_append.1 ha with ha | ha
    · exact h.order_errand a ha
    · cases List.mem_singleton.1 ha
      exact herrand
  · rw [hqueue]
    exact ⟨.rfl, id, by simp [hj]⟩
  · rw [hqueue]
    refine ⟨hkeeps.mem_queue.trans (iff_of_true rfl hasks), fun _ => hhead,
      fun _ => hkeeps.locks rfl, ?_, by simp [hholds]⟩
    rintro rfl
    cases hholds

/-- A step by which nobody gets the lock keeps the discipline. -/
theorem turn {crew crew' : Crew (Transcript W)} (h : Disciplined errands order crew)
    (hturn : Turn crew i none crew') : Disciplined errands order crew' := by
  cases hturn with
  | excuse hcaller hlocks hphase _ =>
    refine h.stays hcaller rfl rfl fun hkeeps => ?_
    have hasks := Bool.eq_false_iff.1 (Phase.asks_eq_false hphase)
    have hholds := mt Phase.asks_of_holds hasks
    refine ⟨hkeeps.mem_queue.trans (iff_of_false nofun hasks), fun h => absurd h hholds,
      fun h => absurd h hasks, fun _ => hlocks, hkeeps.mem_order.trans (iff_of_false ?_ ?_)⟩
    · rintro (hready | ⟨hready, -⟩)
      · cases hready
      · cases hready
    · rintro (h | ⟨-, h⟩)
      · exact hholds h
      · exact Bool.false_ne_true (hlocks.symm.trans h)
  | learn hcaller _ =>
    refine h.stays hcaller rfl rfl fun hkeeps => ?_
    have hlocks := hkeeps.refreshing rfl
    refine ⟨hkeeps.mem_queue, nofun, nofun, nofun, hkeeps.mem_order.trans ?_⟩
    simp [hlocks, Phase.holds]
  | ask hcaller hlocks =>
    have hkeeps := h.keeps i _ hcaller
    have hnew : i ∉ crew.queue := fun hmem => Bool.false_ne_true (hkeeps.mem_queue.1 hmem)
    have hqueue : (crew.queue ++ [i]).Nodup := by
      rw [← List.concat_eq_append]
      exact .concat hnew h.queue_nodup
    refine h.moved hcaller rfl hqueue h.order_nodup h.order_errand (fun j hj => ⟨?_, ?_, .rfl⟩) ?_
    · simp [moveTo, hj]
    · -- Who comes last does not get in front of the first.
      intro hhead
      show (crew.queue ++ [i]).head? = some j
      rw [List.head?_append, hhead]
      rfl
    · refine ⟨?_, nofun, fun _ => hlocks, nofun, hkeeps.mem_order.trans ?_⟩
      · simp [moveTo, Phase.asks]
      · simp [Phase.holds, Phase.isFinished]
  | stamp hcaller _ | done hcaller _ | dispatch hcaller _ | receive hcaller _ | settle hcaller _
  | closeFailed hcaller _ | closed hcaller _ => exact h.holding hcaller rfl rfl rfl rfl
  | leave hcaller =>
    have hkeeps := h.keeps i _ hcaller
    obtain ⟨queue, hqueue⟩ : ∃ queue, crew.queue = i :: queue :=
      List.head?_eq_some_iff.1 (hkeeps.head rfl)
    have hnodup := h.queue_nodup
    rw [hqueue] at hnodup
    -- The caller that leaves is the first in the queue, and it is there only once.
    have htail : crew.queue.tail = queue := by rw [hqueue, List.tail_cons]
    refine h.moved hcaller rfl ?_ h.order_nodup h.order_errand (fun j hj => ⟨?_, ?_, .rfl⟩) ?_
    · show crew.queue.tail.Nodup
      exact htail ▸ (List.nodup_cons.1 hnodup).2
    · show j ∈ crew.queue.tail ↔ j ∈ crew.queue
      rw [htail, hqueue]
      simp [hj]
    · rw [hqueue]
      exact fun hhead => absurd (Option.some.inj hhead).symm hj
    · have hgone : i ∉ crew.queue.tail := htail ▸ (List.nodup_cons.1 hnodup).1
      refine ⟨?_, nofun, nofun, nofun, hkeeps.mem_order.trans ?_⟩
      · simpa [moveTo, Phase.asks] using hgone
      · simp [Phase.holds, Phase.isFinished, hkeeps.locks rfl]

/-- So does one by which a caller gets it. -/
theorem admission {crew crew' : Crew (Transcript W)} {admission : Admission}
    (h : Disciplined errands order crew) (hturn : Turn crew i (some admission) crew') :
    Disciplined errands (order ++ [admission]) crew' := by
  cases hturn with
  | pass hcaller hhead _ _ | close hcaller hhead _ _ | fanOut hcaller hhead _ =>
    apply h.acquire hcaller hhead <;> rfl

/-- At most one caller has got the lock. -/
theorem eq_of_holds (h : Disciplined errands order crew) {j : Nat} {caller caller' : Caller}
    (hi : crew.callers[i]? = some caller) (hj : crew.callers[j]? = some caller')
    (hholds : caller.phase.holds) (hholds' : caller'.phase.holds) : i = j :=
  Option.some.inj (((h.keeps i caller hi).head hholds).symm.trans
    ((h.keeps j caller' hj).head hholds'))

/-- A caller with an errand that needs the lock has got it when it is done. -/
theorem mem_order_of_finished (h : Disciplined errands order crew)
    {result : Except Failure Unit} (hcaller : crew.callers[i]? = some ⟨errand, .finished result⟩)
    (hlocks : errand.locks) : i ∈ order.map Admission.caller :=
  (h.keeps i _ hcaller).mem_order.2 (.inr ⟨rfl, hlocks⟩)

end Disciplined

end Crew

end KafkaCanary
