import KafkaCanary.Proofs.Producer.Locking
import Mathlib

/-!
# Callers get done

No caller waits for the lock of a producer forever. As long as some caller is not done there is one
that can take a step: either it needs no lock, or the first in the queue has the lock and can go on.
And whatever the client answers, every step brings its caller nearer to its end, so that all callers
are done after no more steps than their errands have.

The two together leave no room for a deadlock or for an endless run. They say nothing about
fairness: it is up to the order of the steps which caller is done first.

## Main definitions

* `Caller.stepsLeft`: how many steps a caller has before it at most.

## Main results

* `Crew.exists_step`: some caller can take a step;
* `Crew.Turn.stepsLeft_lt`: every step leaves fewer;
* `callers_get_done`: both, at every point of every run, and what follows from them.
-/

namespace KafkaCanary

/-! ## What is left to do -/

/-- The number of messages that an errand is about. -/
def Errand.messages : Errand → Nat
  | .send _ count => count.toInt.toNat
  | .refresh _ | .close => 0

/-- The number of steps that an errand takes at most. A message takes four of them. -/
def Errand.steps (errand : Errand) : Nat :=
  4 * errand.messages + 4

/-- The number of steps that a caller has before it at most. -/
def Caller.stepsLeft (caller : Caller) : Nat :=
  let messages := caller.errand.messages
  match caller.phase with
  | .ready => caller.errand.steps
  | .queued => 4 * messages + 3
  | .serving served => 4 * (messages - served) + 2
  | .stamped served _ => 4 * (messages - (served + 1)) + 5
  | .sending served _ => 4 * (messages - (served + 1)) + 4
  | .answered served _ _ _ => 4 * (messages - (served + 1)) + 3
  | .closing => 2
  | .refreshing | .leaving _ => 1
  | .finished _ => 0

namespace Crew

variable {W : Type}

/-- The number of steps that callers have before them at most. -/
def stepsLeft (crew : Crew W) : Nat :=
  (crew.callers.map Caller.stepsLeft).sum

/-- Every place in the queue is that of a caller. -/
def Seated (crew : Crew W) : Prop :=
  ∀ i ∈ crew.queue, ∃ caller, crew.callers[i]? = some caller

/-- A sum gets less if one of its terms does. -/
theorem sum_map_modify_lt {callers : List Caller} {i : Nat} {caller : Caller}
    (hcaller : callers[i]? = some caller) {f : Caller → Caller}
    (hless : (f caller).stepsLeft < caller.stepsLeft) :
    ((callers.modify i f).map Caller.stepsLeft).sum < (callers.map Caller.stepsLeft).sum := by
  induction callers generalizing i with
  | nil => cases hcaller
  | cons first callers ih =>
    cases i with
    | zero =>
      cases hcaller
      simpa using hless
    | succ i => simpa using ih hcaller

section Turns

variable {crew crew' : Crew (Transcript W)} {i : Nat} {admission : Option Admission}

/-- Every step brings its caller nearer to its end, and leaves the others where they are. -/
theorem Turn.stepsLeft_lt (h : Turn crew i admission crew') : crew'.stepsLeft < crew.stepsLeft := by
  -- Only the caller that moves counts, since nobody else's phase changes.
  have hmoved {errand : Errand} {phase phase' : Phase}
      (hcaller : crew.callers[i]? = some ⟨errand, phase⟩)
      (hless : Caller.stepsLeft ⟨errand, phase'⟩ < Caller.stepsLeft ⟨errand, phase⟩) :
      ((crew.moveTo i phase').callers.map Caller.stepsLeft).sum < crew.stepsLeft :=
    sum_map_modify_lt hcaller hless
  cases h with
  | @excuse errand phase t hcaller _ hphase _ =>
    refine hmoved hcaller ?_
    rcases hphase with rfl | hfinished
    · simp only [Caller.stepsLeft, Errand.steps]
      omega
    · cases phase with
      | finished result => exact Nat.succ_pos _
      | _ => cases hfinished
  | learn hcaller _ | leave hcaller => exact hmoved hcaller Nat.zero_lt_one
  | ask hcaller _ => exact hmoved hcaller (Nat.lt_succ_self _)
  | pass hcaller _ _ _ | close hcaller _ _ _ | done hcaller _ | fanOut hcaller _ _ =>
    refine hmoved hcaller ?_
    simp only [Caller.stepsLeft]
    omega
  | stamp hcaller hserved =>
    refine hmoved hcaller ?_
    simp only [Caller.stepsLeft, Errand.messages]
    omega
  | dispatch hcaller _ | receive hcaller _ | settle hcaller _ =>
    exact hmoved hcaller (Nat.lt_succ_self _)
  | closeFailed hcaller _ | closed hcaller _ => exact hmoved hcaller (Nat.lt_succ_self 1)

/-- Only callers queue up. -/
theorem Turn.seated (h : Turn crew i admission crew') (hseated : crew.Seated) : crew'.Seated := by
  -- No step removes a caller, it only changes a phase.
  have hmoved {phase : Phase} {j : Nat} {caller : Caller}
      (hcaller : crew.callers[j]? = some caller) :
      ∃ caller, (crew.moveTo i phase).callers[j]? = some caller := by
    by_cases hj : j = i
    · subst hj
      exact ⟨_, callers_moveTo_self hcaller phase⟩
    · exact ⟨caller, (callers_moveTo_of_ne hj crew phase).trans hcaller⟩
  have hkept {phase : Phase} : ∀ j ∈ crew.queue,
      ∃ caller, (crew.moveTo i phase).callers[j]? = some caller := fun j hj =>
    have ⟨_, hcaller⟩ := hseated j hj
    hmoved hcaller
  cases h with
  | ask hcaller _ =>
    intro j hj
    rcases List.mem_append.1 hj with hj | hj
    · exact hkept j hj
    · exact List.mem_singleton.1 hj ▸ hmoved hcaller
  | leave _ => exact fun j hj => hkept j (List.mem_of_mem_tail hj)
  | _ => exact hkept

end Turns

/-! ## Some caller can take a step -/

variable (line : Line W)

/-- A caller that is not done can take a step, unless it waits for its turn in the queue. -/
theorem exists_step_of_turn {crew : Crew W} {i : Nat} {caller : Caller}
    (hcaller : crew.callers[i]? = some caller) (hphase : caller.phase.isFinished = false)
    (hhead : caller.phase = .queued → crew.queue.head? = some i) :
    ∃ crew', crew.step line i = some crew' := by
  obtain ⟨errand, phase⟩ := caller
  unfold step
  rw [hcaller]
  cases phase with
  | queued => exact ⟨_, if_pos (hhead rfl)⟩
  | finished result => cases hphase
  | _ => exact ⟨_, rfl⟩

/-- As long as some caller is not done, there is one that can take a step. -/
theorem exists_step {errands : List Errand} {order : List Admission} {crew : Crew W}
    (hkeeps : Disciplined errands order crew) (hseated : crew.Seated) {i : Nat} {caller : Caller}
    (hcaller : crew.callers[i]? = some caller) (hphase : caller.phase.isFinished = false) :
    ∃ j crew', crew.step line j = some crew' := by
  by_cases hqueued : caller.phase = .queued
  · -- Whoever waits is in the queue, and the first of the queue can go on.
    have hasks : caller.phase.asks := by
      rw [hqueued]
      rfl
    have hmem := (hkeeps.keeps i caller hcaller).mem_queue.2 hasks
    obtain ⟨j, rest, hqueue⟩ := List.exists_cons_of_ne_nil (List.ne_nil_of_mem hmem)
    have hj : j ∈ crew.queue := hqueue ▸ List.mem_cons_self
    obtain ⟨first, hfirst⟩ := hseated j hj
    have hasks := (hkeeps.keeps j first hfirst).mem_queue.1 hj
    refine ⟨j, exists_step_of_turn line hfirst ?_ fun _ => hqueue ▸ rfl⟩
    refine Bool.eq_false_iff.2 fun hfinished => ?_
    rw [Phase.asks_eq_false (.inr hfinished)] at hasks
    cases hasks
  · exact ⟨i, exists_step_of_turn line hcaller hphase fun h => absurd h hqueued⟩

/-! ## Runs -/

/-- A step without the record of its signals. -/
theorem exists_turn_of_step {crew crew' : Crew W} {i : Nat} (h : crew.step line i = some crew') :
    ∃ turned, Turn crew.recorded i (crew.recorded.admission? i) turned ∧ turned.base = crew' := by
  have hbase : (crew.recorded.step line.recording i).map base = some crew' :=
    (base_step line crew.recorded i).trans h
  obtain ⟨turned, hstep, hturned⟩ := Option.map_eq_some_iff.1 hbase
  exact ⟨turned, turn_of_step line hstep, hturned⟩

/-- Every step leaves fewer. -/
theorem stepsLeft_lt_of_step {crew crew' : Crew W} {i : Nat}
    (h : crew.step line i = some crew') : crew'.stepsLeft < crew.stepsLeft := by
  obtain ⟨turned, hturn, rfl⟩ := exists_turn_of_step line h
  exact hturn.stepsLeft_lt

/-- No move leaves more. -/
theorem stepsLeft_move_le (crew : Crew W) (move : Move W) :
    (crew.move line move).stepsLeft ≤ crew.stepsLeft := by
  cases move with
  | outside change => exact Nat.le_refl _
  | step i =>
    rw [Crew.move]
    rcases hstep : crew.step line i with _ | crew'
    · exact Nat.le_refl _
    · exact Nat.le_of_lt (stepsLeft_lt_of_step line hstep)

/-- Nor does a run. -/
theorem stepsLeft_moveAll_le (crew : Crew W) (moves : List (Move W)) :
    (crew.moveAll line moves).stepsLeft ≤ crew.stepsLeft := by
  induction moves generalizing crew with
  | nil => exact Nat.le_refl _
  | cons move moves ih => exact Nat.le_trans (ih _) (stepsLeft_move_le line crew move)

/-- A run can be cut anywhere. -/
theorem moveAll_append (crew : Crew W) (moves moves' : List (Move W)) :
    crew.moveAll line (moves ++ moves') = (crew.moveAll line moves).moveAll line moves' :=
  List.foldl_append

/-- Whether callers keep to the lock is a matter of the callers and the queue alone. -/
theorem Disciplined.congr {V : Type} {errands : List Errand} {order : List Admission}
    {crew : Crew V} (h : Disciplined errands order crew) {crew' : Crew W}
    (hcallers : crew'.callers = crew.callers) (hqueue : crew'.queue = crew.queue) :
    Disciplined errands order crew' where
  errands_eq := hcallers ▸ h.errands_eq
  queue_nodup := hqueue ▸ h.queue_nodup
  order_nodup := h.order_nodup
  order_errand := h.order_errand
  keeps i caller hcaller := hqueue ▸ h.keeps i caller (hcallers ▸ hcaller)

/-- At every point of a run the callers keep to the lock, and only callers wait for it. -/
theorem disciplined_moveAll (start : Producer) (errands : List Errand) (w : W)
    (moves : List (Move W)) :
    let crew := (init start errands w).moveAll line moves
    (∃ order, Disciplined errands order crew) ∧ crew.Seated := by
  intro crew
  let P order (crew : Crew (Transcript W)) := Disciplined errands order crew ∧ crew.Seated
  have hinit : P [] (init start errands w).recorded :=
    ⟨(Disciplined.init start errands w).congr rfl rfl, nofun⟩
  have hrun := moveAll_preserves (P := P) line ?_ ?_ ?_ moves hinit
  · have hbase : _ = crew := base_moveAll line moves (init start errands w).recorded
    rw [← hbase]
    exact ⟨⟨_, hrun.1.congr rfl rfl⟩, hrun.2⟩
  · exact fun h hturn => ⟨h.1.turn hturn, hturn.seated h.2⟩
  · exact fun h hturn => ⟨h.1.admission hturn, hturn.seated h.2⟩
  · exact fun w h => ⟨h.1.congr rfl rfl, h.2⟩

/-- From every point of a run callers can go on until all of them are done. -/
theorem exists_steps_to_end (start : Producer) (errands : List Errand) (w : W)
    (moves : List (Move W)) :
    let crew := (init start errands w).moveAll line moves
    ∃ steps : List Nat, steps.length ≤ crew.stepsLeft ∧
      ∀ caller ∈ (crew.moveAll line (steps.map .step)).callers, caller.phase.isFinished := by
  intro crew
  induction hleft : crew.stepsLeft using Nat.strongRecOn generalizing moves with
  | _ left ih =>
    by_cases hdone : ∀ caller ∈ crew.callers, caller.phase.isFinished
    · exact ⟨[], Nat.zero_le _, hdone⟩
    -- Somebody is not done, so somebody can take a step, and there is less to do after it.
    push Not at hdone
    obtain ⟨caller, hmem, hphase⟩ := hdone
    obtain ⟨i, hcaller⟩ := List.mem_iff_getElem?.1 hmem
    obtain ⟨⟨order, hkeeps⟩, hseated⟩ := disciplined_moveAll line start errands w moves
    obtain ⟨j, crew', hstep⟩ :=
      exists_step line hkeeps hseated hcaller (Bool.eq_false_iff.2 hphase)
    have hnext : (init start errands w).moveAll line (moves ++ [.step j]) = crew' := by
      rw [moveAll_append]
      show (crew.step line j).getD crew = crew'
      rw [hstep]
      rfl
    have hless : crew'.stepsLeft < left := hleft ▸ stepsLeft_lt_of_step line hstep
    obtain ⟨steps, hlength, hfinished⟩ := ih _ hless _ (congrArg stepsLeft hnext)
    refine ⟨j :: steps, Nat.le_trans (Nat.succ_le_succ hlength) hless, ?_⟩
    rw [hnext] at hfinished
    show ∀ caller ∈ (((crew.step line j).getD crew).moveAll line _).callers, _
    rw [hstep]
    exact hfinished

end Crew

/-- At every point of every run of callers, as long as some caller is not done there is one that can
take a step. Every step leaves fewer steps to take, and from the beginning there are no more than
the errands have. So all callers are done after that many steps, if in every one of them somebody
gets on, and there is such a way to the end. -/
theorem callers_get_done {W : Type} (line : Line W) (start : Producer) (errands : List Errand)
    (w : W) (moves : List (Move W)) :
    let crew := (Crew.init start errands w).moveAll line moves
    (∀ caller ∈ crew.callers, caller.phase.isFinished = false →
      ∃ i crew', crew.step line i = some crew') ∧
    (∀ i crew', crew.step line i = some crew' → crew'.stepsLeft < crew.stepsLeft) ∧
    crew.stepsLeft ≤ (errands.map Errand.steps).sum ∧
    ∃ steps : List Nat, steps.length ≤ crew.stepsLeft ∧
      ∀ caller ∈ (crew.moveAll line (steps.map .step)).callers, caller.phase.isFinished := by
  intro crew
  obtain ⟨⟨order, hkeeps⟩, hseated⟩ := Crew.disciplined_moveAll line start errands w moves
  refine ⟨fun caller hmem hphase => ?_, fun i crew' => Crew.stepsLeft_lt_of_step line, ?_,
    Crew.exists_steps_to_end line start errands w moves⟩
  · obtain ⟨i, hcaller⟩ := List.mem_iff_getElem?.1 hmem
    exact Crew.exists_step line hkeeps hseated hcaller hphase
  · have hinit : (Crew.init start errands w).stepsLeft = (errands.map Errand.steps).sum := by
      rw [Crew.stepsLeft, Crew.init, List.map_map]
      rfl
    exact hinit ▸ Crew.stepsLeft_moveAll_le line _ moves

end KafkaCanary
