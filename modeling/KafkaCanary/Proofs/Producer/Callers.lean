import KafkaCanary.Proofs.Producer.Ledger
import KafkaCanary.Producer.Concurrent

/-!
# Runs of concurrent callers

Callers that share a producer take their steps in any order, and anything may happen to the world
between them. A line notes what it is asked for and what it answers (`Line.recording`), which does
not change the run. The callers that need the lock are listed in the order in which they get it
(`Crew.admissions`).

Everything that one step can do is said once (`Crew.Turn`), and what every step keeps holds at every
point of a run.

## Main results

* `Crew.base_moveAll`: with the record erased, a recorded run is the run itself;
* `Crew.turn_of_step`: everything that a step can do;
* `Crew.moveAll_preserves`: what every step keeps is an invariant of the runs.
-/

namespace KafkaCanary

/-! ## Runs -/

/-- Something that happens while callers are at work. -/
inductive Move (W : Type) where
  /-- A caller takes a step, if it can. -/
  | step (caller : Nat)
  /-- Something that the callers have no part in, such as time that passes. -/
  | outside (change : W → W)

/-- A caller that has got the lock. -/
structure Admission where
  /-- Its place in the list. -/
  caller : Nat
  /-- What it wants. -/
  errand : Errand
  /-- Whether the producer was closed when it got the lock. -/
  closed : Bool

namespace Crew

variable {W : Type}

/-- One move. A caller that cannot take a step leaves everything as it is. -/
def move (line : Line W) (crew : Crew W) : Move W → Crew W
  | .step i => (crew.step line i).getD crew
  | .outside change => { crew with world := change crew.world }

/-- Moves one after the other. -/
def moveAll (line : Line W) (moves : List (Move W)) (crew : Crew W) : Crew W :=
  moves.foldl (move line) crew

/-- The caller that gets the lock by a step, if one does. -/
def admission? (crew : Crew W) (i : Nat) : Option Admission :=
  match crew.callers[i]? with
  | some ⟨errand, .queued⟩ =>
    if crew.queue.head? = some i then some ⟨i, errand, crew.producer.closed⟩ else none
  | _ => none

/-- The caller that gets the lock by a move, if one does. -/
def admitted? (crew : Crew W) : Move W → Option Admission
  | .step i => crew.admission? i
  | .outside _ => none

/-- The callers that get the lock, in the order in which they get it. -/
def admissions (line : Line W) (crew : Crew W) : List (Move W) → List Admission
  | [] => []
  | move :: moves => (crew.admitted? move).toList ++ (crew.move line move).admissions line moves

end Crew

namespace Phase

/-- Whether a caller has asked for the lock and not yet given it up. -/
def asks : Phase → Bool
  | .ready | .refreshing | .finished _ => false
  | .queued | .serving _ | .stamped _ _ | .sending _ _ | .answered _ _ _ _ | .closing
  | .leaving _ => true

/-- Whether a caller has got the lock and not yet given it up. -/
def holds : Phase → Bool
  | .ready | .queued | .refreshing | .finished _ => false
  | .serving _ | .stamped _ _ | .sending _ _ | .answered _ _ _ _ | .closing | .leaving _ => true

/-- Whether a caller is at the work that it needs the lock for. -/
def works : Phase → Bool
  | .ready | .queued | .refreshing | .leaving _ | .finished _ => false
  | .serving _ | .stamped _ _ | .sending _ _ | .answered _ _ _ _ | .closing => true

/-- Whether a caller is done. -/
def isFinished : Phase → Bool
  | .finished _ => true
  | _ => false

/-- Who holds the lock has asked for it. -/
theorem asks_of_holds {phase : Phase} (h : phase.holds = true) : phase.asks = true := by
  cases phase <;> first | rfl | cases h

/-- Who works for an errand holds the lock. -/
theorem holds_of_works {phase : Phase} (h : phase.works = true) : phase.holds = true := by
  cases phase <;> first | rfl | cases h

/-- A caller that needs no lock has not asked for it. -/
theorem asks_eq_false {phase : Phase} (h : phase = .refreshing ∨ phase.isFinished) :
    phase.asks = false := by
  rcases h with rfl | hfinished
  · rfl
  · cases phase <;> first | rfl | cases hfinished

/-- Who has not asked for the lock does no work. -/
theorem works_eq_false {phase : Phase} (h : phase.asks = false) : phase.works = false :=
  Bool.eq_false_iff.2 fun hworks =>
    Bool.eq_false_iff.1 h (asks_of_holds (holds_of_works hworks))

end Phase

/-- Whether an errand needs the lock. A negative number of partitions is refused without it. -/
def Errand.locks : Errand → Bool
  | .send _ count => ¬count < 0
  | .refresh _ => false
  | .close => true

/-! ## The recording line -/

/-- What a client is asked for, and what it answers. -/
inductive Signal where
  /-- Bytes are to be sent to a partition of a topic. -/
  | sending (topic : String) (partition : Int32) (payload : List UInt8)
  /-- The sending is answered, at a time on the wall clock. -/
  | sent (answer : Except Failure Delivery) (returned : Int64)
  /-- The connections are to be released. -/
  | closing
  /-- The closing is answered. -/
  | closed (answer : Except Failure Unit)

/-- A world with the signals noted in it. -/
structure Transcript (W : Type) where
  /-- The world. -/
  world : W
  /-- The signals, in order. -/
  signals : List Signal

/-- The line that notes every message and every closing. -/
def Line.recording {W : Type} (line : Line W) : Line (Transcript W) where
  now t := line.now t.world
  emit event t := { t with world := line.emit event t.world }
  startSend topic partition payload t :=
    ⟨line.startSend topic partition payload t.world,
      t.signals ++ [.sending topic partition payload]⟩
  answerSend topic partition t :=
    let (answer, w) := line.answerSend topic partition t.world
    (answer, ⟨w, t.signals ++ [.sent answer (line.now w)]⟩)
  startRefresh topic t := { t with world := line.startRefresh topic t.world }
  answerRefresh topic t :=
    let (answer, w) := line.answerRefresh topic t.world
    (answer, { t with world := w })
  startClose t := ⟨line.startClose t.world, t.signals ++ [.closing]⟩
  answerClose t :=
    let (answer, w) := line.answerClose t.world
    (answer, ⟨w, t.signals ++ [.closed answer]⟩)

namespace Line

variable {W : Type} (line : Line W)

/-- A refresh is passed on and noted with its answer. -/
theorem recording_answerRefresh (topic : String) (t : Transcript W) :
    line.recording.answerRefresh topic t =
      let answered := line.answerRefresh topic t.world
      (answered.1, ⟨answered.2, t.signals⟩) :=
  rfl

/-- A close is passed on and noted with its answer. -/
theorem recording_answerClose (t : Transcript W) :
    line.recording.answerClose t =
      let answered := line.answerClose t.world
      (answered.1, ⟨answered.2, t.signals ++ [.closed answered.1]⟩) :=
  rfl

end Line

/-- The move in a world whose signals are noted. -/
def Move.recorded {W : Type} : Move W → Move (Transcript W)
  | .step i => .step i
  | .outside change => .outside fun t => { t with world := change t.world }

namespace Crew

variable {W : Type} (line : Line W)

/-- A crew without the record of its signals. -/
def base (crew : Crew (Transcript W)) : Crew W :=
  ⟨crew.producer, crew.callers, crew.queue, crew.world.world⟩

/-- A crew at the beginning of a record. -/
def recorded (crew : Crew W) : Crew (Transcript W) :=
  ⟨crew.producer, crew.callers, crew.queue, ⟨crew.world, []⟩⟩

/-! ## Recording changes nothing -/

/-- Reports change the world only. -/
theorem foldl_report (events : List Event) (crew : Crew W) :
    events.foldl (fun crew e => crew.report line e) crew =
      { crew with world := events.foldl (fun w e => line.emit e w) crew.world } := by
  induction events generalizing crew with
  | nil => rfl
  | cons event events ih => exact ih (crew.report line event)

/-- Events are passed on and not noted. -/
theorem foldl_emit_recording (events : List Event) (t : Transcript W) :
    events.foldl (fun t e => line.recording.emit e t) t =
      { t with world := events.foldl (fun w e => line.emit e w) t.world } := by
  induction events generalizing t with
  | nil => rfl
  | cons event events ih => exact ih (line.recording.emit event t)

/-- Beginning an errand is the same without the record. -/
theorem base_begin (crew : Crew (Transcript W)) (i : Nat) (errand : Errand) :
    (crew.begin line.recording i errand).base = crew.base.begin line i errand := by
  cases errand with
  | refresh topic => rfl
  | close => rfl
  | send topic count =>
    dsimp only [begin]
    by_cases hneg : count < 0
    · rw [if_pos hneg, if_pos hneg]
      rfl
    · rw [if_neg hneg, if_neg hneg]
      rfl

/-- Taking the lock is the same without the record. -/
theorem base_enter (crew : Crew (Transcript W)) (i : Nat) (errand : Errand) :
    (crew.enter line.recording i errand).base = crew.base.enter line i errand := by
  have hclosed : crew.base.producer.closed = crew.producer.closed := rfl
  unfold enter
  rw [hclosed]
  cases errand with
  | refresh topic => rfl
  | close => cases crew.producer.closed <;> rfl
  | send topic count => cases crew.producer.closed <;> rfl

/-- Serving one partition is the same without the record. -/
theorem base_serve (crew : Crew (Transcript W)) (i served : Nat) (errand : Errand) :
    (crew.serve line.recording i served errand).base = crew.base.serve line i served errand := by
  cases errand with
  | refresh topic => rfl
  | close => rfl
  | send topic count =>
    dsimp only [serve]
    by_cases hserved : served < count.toInt.toNat
    · rw [if_pos hserved, if_pos hserved]
      rfl
    · rw [if_neg hserved, if_neg hserved]
      rfl

/-- Settling what came of a send is the same without the record. -/
theorem base_settle (crew : Crew (Transcript W)) (i served : Nat) (m : Message)
    (answer : Except Failure Delivery) (time : Int64) :
    (crew.settle line.recording i served m answer time).base =
      crew.base.settle line i served m answer time := by
  simp only [settle, foldl_report, foldl_emit_recording]
  rfl

/-- Closing is the same without the record. -/
theorem base_shut (crew : Crew (Transcript W)) (i : Nat) :
    (crew.shut line.recording i).base = crew.base.shut line i := by
  have hworld : crew.base.world = crew.world.world := rfl
  rw [shut, shut, Line.recording_answerClose, hworld]
  rcases line.answerClose crew.world.world with ⟨failure | ⟨⟩, w⟩ <;> rfl

/-- Refreshing is the same without the record. -/
theorem base_learn (crew : Crew (Transcript W)) (i : Nat) (errand : Errand) :
    (crew.learn line.recording i errand).base = crew.base.learn line i errand := by
  have hworld : crew.base.world = crew.world.world := rfl
  rw [learn, learn, Line.recording_answerRefresh, hworld]
  rcases line.answerRefresh (topicOf errand) crew.world.world with ⟨failure | ⟨⟩, w⟩ <;> rfl

/-- A step of one caller is the same without the record. -/
theorem base_step (crew : Crew (Transcript W)) (i : Nat) :
    (crew.step line.recording i).map base = crew.base.step line i := by
  have hcallers : crew.base.callers = crew.callers := rfl
  have hqueue : crew.base.queue = crew.queue := rfl
  unfold step
  rw [hcallers, hqueue]
  rcases crew.callers[i]? with _ | ⟨errand, phase⟩
  · rfl
  cases phase with
  | ready => exact congrArg some (base_begin line crew i errand)
  | queued =>
    by_cases hhead : crew.queue.head? = some i
    · simp only [if_pos hhead]
      exact congrArg some (base_enter line crew i errand)
    · simp only [if_neg hhead]
      rfl
  | serving served => exact congrArg some (base_serve line crew i served errand)
  | stamped served m => rfl
  | sending served m => rfl
  | answered served m answer time =>
    exact congrArg some (base_settle line crew i served m answer time)
  | closing => exact congrArg some (base_shut line crew i)
  | refreshing => exact congrArg some (base_learn line crew i errand)
  | leaving result => rfl
  | finished result => rfl

/-- A move of the crew is the same without the record. -/
theorem base_move (crew : Crew (Transcript W)) (move : Move W) :
    (crew.move line.recording move.recorded).base = crew.base.move line move := by
  cases move with
  | outside change => rfl
  | step i =>
    simp only [Move.recorded, Crew.move, ← base_step]
    cases crew.step line.recording i <;> rfl

/-- Recording the signals does not change a run. -/
theorem base_moveAll (moves : List (Move W)) (crew : Crew (Transcript W)) :
    (crew.moveAll line.recording (moves.map .recorded)).base = crew.base.moveAll line moves := by
  induction moves generalizing crew with
  | nil => rfl
  | cons move moves ih =>
    show ((crew.move line.recording move.recorded).moveAll line.recording _).base = _
    rw [ih, base_move]
    rfl

/-- Nor the order in which callers get the lock. -/
theorem admissions_recorded (moves : List (Move W)) (crew : Crew (Transcript W)) :
    crew.admissions line.recording (moves.map .recorded) = crew.base.admissions line moves := by
  induction moves generalizing crew with
  | nil => rfl
  | cons move moves ih =>
    rw [List.map_cons, admissions, admissions, ih, base_move]
    cases move <;> rfl

/-! ## What a step can do -/

/-- Everything that a step of a caller can do, with the caller that gets the lock by it. Only the
caller that steps gets to another phase, and the world is of interest for its signals only. -/
inductive Turn (crew : Crew (Transcript W)) (i : Nat) :
    Option Admission → Crew (Transcript W) → Prop
  /-- An errand that needs no lock is begun, or refused at once. -/
  | excuse {errand : Errand} {phase : Phase} {t : Transcript W} :
      crew.callers[i]? = some ⟨errand, .ready⟩ → errand.locks = false →
      phase = .refreshing ∨ phase.isFinished → t.signals = crew.world.signals →
      Turn crew i none ({ crew with world := t }.moveTo i phase)
  | learn {errand : Errand} {t : Transcript W} :
      crew.callers[i]? = some ⟨errand, .refreshing⟩ → t.signals = crew.world.signals →
      Turn crew i none ({ crew with world := t }.moveTo i (.finished (.ok ())))
  | ask {errand : Errand} :
      crew.callers[i]? = some ⟨errand, .ready⟩ → errand.locks →
      Turn crew i none ({ crew with queue := crew.queue ++ [i] }.moveTo i .queued)
  /-- The lock is got in vain, as there is nothing to do any more. -/
  | pass {errand : Errand} {t : Transcript W} :
      crew.callers[i]? = some ⟨errand, .queued⟩ → crew.queue.head? = some i →
      crew.producer.closed ∨ errand.locks = false → t.signals = crew.world.signals →
      Turn crew i (some ⟨i, errand, crew.producer.closed⟩)
        ({ crew with world := t }.moveTo i (.leaving (.ok ())))
  | fanOut {topic : String} {count : Int32} :
      crew.callers[i]? = some ⟨.send topic count, .queued⟩ → crew.queue.head? = some i →
      crew.producer.closed = false →
      Turn crew i (some ⟨i, .send topic count, crew.producer.closed⟩) (crew.moveTo i (.serving 0))
  | close {t : Transcript W} :
      crew.callers[i]? = some ⟨.close, .queued⟩ → crew.queue.head? = some i →
      crew.producer.closed = false → t.signals = crew.world.signals ++ [.closing] →
      Turn crew i (some ⟨i, .close, crew.producer.closed⟩)
        ({ crew with world := t }.moveTo i .closing)
  | stamp {topic : String} {count : Int32} {served : Nat} {now : Int64} :
      crew.callers[i]? = some ⟨.send topic count, .serving served⟩ →
      served < count.toInt.toNat →
      Turn crew i none ({ crew with producer := (crew.producer.stamp now).2 }.moveTo i
        (.stamped served (crew.producer.stamp now).1))
  | done {errand : Errand} {served : Nat} :
      crew.callers[i]? = some ⟨errand, .serving served⟩ →
      (∀ topic count, errand = .send topic count → count.toInt.toNat ≤ served) →
      Turn crew i none (crew.moveTo i (.leaving (.ok ())))
  | dispatch {errand : Errand} {served : Nat} {m : Message} {t : Transcript W} :
      crew.callers[i]? = some ⟨errand, .stamped served m⟩ →
      t.signals = crew.world.signals ++
        [.sending (topicOf errand) (Int32.ofNat served) m.payload] →
      Turn crew i none ({ crew with world := t }.moveTo i (.sending served m))
  | receive {errand : Errand} {served : Nat} {m : Message} {answer : Except Failure Delivery}
      {time : Int64} {t : Transcript W} :
      crew.callers[i]? = some ⟨errand, .sending served m⟩ →
      t.signals = crew.world.signals ++ [.sent answer time] →
      Turn crew i none ({ crew with world := t }.moveTo i (.answered served m answer time))
  | settle {errand : Errand} {served : Nat} {m : Message} {answer : Except Failure Delivery}
      {time : Int64} {t : Transcript W} :
      crew.callers[i]? = some ⟨errand, .answered served m answer time⟩ →
      t.signals = crew.world.signals →
      Turn crew i none
        ({ crew with
          producer := (crew.producer.settle m (Int32.ofNat served) answer time).1
          world := t }.moveTo i (.serving (served + 1)))
  | closeFailed {errand : Errand} {failure : Failure} {t : Transcript W} :
      crew.callers[i]? = some ⟨errand, .closing⟩ →
      t.signals = crew.world.signals ++ [.closed (.error failure)] →
      Turn crew i none ({ crew with world := t }.moveTo i (.leaving (.error failure)))
  | closed {errand : Errand} {t : Transcript W} :
      crew.callers[i]? = some ⟨errand, .closing⟩ →
      t.signals = crew.world.signals ++ [.closed (.ok ())] →
      Turn crew i none
        ({ crew with producer := { crew.producer with closed := true }, world := t }.moveTo i
          (.leaving (.ok ())))
  | leave {errand : Errand} {result : Except Failure Unit} :
      crew.callers[i]? = some ⟨errand, .leaving result⟩ →
      Turn crew i none ({ crew with queue := crew.queue.tail }.moveTo i (.finished result))

section Turns

variable {crew crew' : Crew (Transcript W)} {i : Nat} {errand : Errand}

/-- Who begins an errand takes a turn that does not enter. -/
theorem turn_of_begin (hcaller : crew.callers[i]? = some ⟨errand, .ready⟩) :
    Turn crew i none (crew.begin line.recording i errand) := by
  cases errand with
  | refresh topic => exact .excuse hcaller rfl (.inl rfl) rfl
  | close => exact .ask hcaller rfl
  | send topic count =>
    dsimp only [begin]
    by_cases hneg : count < 0
    · rw [if_pos hneg]
      exact .excuse hcaller (by simp [Errand.locks, hneg]) (.inr rfl) rfl
    · rw [if_neg hneg]
      exact .ask hcaller (by simp [Errand.locks, hneg])

/-- Who is first in the queue takes the turn that enters. -/
theorem turn_of_enter (hcaller : crew.callers[i]? = some ⟨errand, .queued⟩)
    (hhead : crew.queue.head? = some i) :
    Turn crew i (some ⟨i, errand, crew.producer.closed⟩)
      (crew.enter line.recording i errand) := by
  cases errand with
  | refresh topic => exact .pass hcaller hhead (.inr rfl) rfl
  | close =>
    dsimp only [enter]
    by_cases hclosed : crew.producer.closed
    · rw [if_pos hclosed]
      exact .pass hcaller hhead (.inl hclosed) rfl
    · rw [if_neg hclosed]
      exact .close hcaller hhead (Bool.eq_false_iff.2 hclosed) rfl
  | send topic count =>
    dsimp only [enter]
    by_cases hclosed : crew.producer.closed
    · rw [if_pos hclosed]
      exact .pass hcaller hhead (.inl hclosed) rfl
    · rw [if_neg hclosed]
      exact .fanOut hcaller hhead (Bool.eq_false_iff.2 hclosed)

/-- A send is a turn of its caller. -/
theorem turn_of_serve {served : Nat} (hcaller : crew.callers[i]? = some ⟨errand, .serving served⟩) :
    Turn crew i none (crew.serve line.recording i served errand) := by
  cases errand with
  | refresh topic => exact .done hcaller nofun
  | close => exact .done hcaller nofun
  | send topic count =>
    dsimp only [serve]
    by_cases hserved : served < count.toInt.toNat
    · rw [if_pos hserved]
      exact .stamp hcaller hserved
    · rw [if_neg hserved]
      refine .done hcaller ?_
      rintro _ _ ⟨⟩
      exact Nat.le_of_not_lt hserved

/-- Settling a send is a turn of its caller. -/
theorem turn_of_settle {served : Nat} {m : Message} {answer : Except Failure Delivery}
    {time : Int64} (hcaller : crew.callers[i]? = some ⟨errand, .answered served m answer time⟩) :
    Turn crew i none (crew.settle line.recording i served m answer time) := by
  simp only [Crew.settle, foldl_report, foldl_emit_recording]
  exact .settle hcaller rfl

/-- Closing is a turn of its caller. -/
theorem turn_of_shut (hcaller : crew.callers[i]? = some ⟨errand, .closing⟩) :
    Turn crew i none (crew.shut line.recording i) := by
  rw [shut, Line.recording_answerClose]
  rcases line.answerClose crew.world.world with ⟨failure | ⟨⟩, w⟩
  · exact .closeFailed hcaller rfl
  · exact .closed hcaller rfl

/-- Refreshing is a turn of its caller. -/
theorem turn_of_learn (hcaller : crew.callers[i]? = some ⟨errand, .refreshing⟩) :
    Turn crew i none (crew.learn line.recording i errand) := by
  rw [Crew.learn, Line.recording_answerRefresh]
  rcases line.answerRefresh (topicOf errand) crew.world.world with ⟨failure | ⟨⟩, w⟩
  · exact .learn hcaller rfl
  · exact .learn hcaller rfl

/-- Everything that a step can do. -/
theorem turn_of_step (h : crew.step line.recording i = some crew') :
    Turn crew i (crew.admission? i) crew' := by
  unfold step at h
  unfold admission?
  rcases hcaller : crew.callers[i]? with _ | ⟨errand, phase⟩
  · rw [hcaller] at h
    cases h
  rw [hcaller] at h
  -- What a step does depends on the phase of the caller alone.
  cases phase with
  | ready =>
    cases h
    exact turn_of_begin line hcaller
  | queued =>
    by_cases hhead : crew.queue.head? = some i
    · simp only [if_pos hhead] at h ⊢
      cases h
      exact turn_of_enter line hcaller hhead
    · simp only [if_neg hhead] at h
      cases h
  | serving served =>
    cases h
    exact turn_of_serve line hcaller
  | stamped served m =>
    cases h
    exact .dispatch hcaller rfl
  | sending served m =>
    cases h
    exact .receive hcaller rfl
  | answered served m answer time =>
    cases h
    exact turn_of_settle line hcaller
  | closing =>
    cases h
    exact turn_of_shut line hcaller
  | refreshing =>
    cases h
    exact turn_of_learn line hcaller
  | leaving result =>
    cases h
    exact .leave hcaller
  | finished result => cases h

end Turns

/-! ## Runs as sequences of steps -/

/-- A caller that cannot take a step does not get the lock. -/
theorem admission?_eq_none {crew : Crew W} {i : Nat} (h : crew.step line i = none) :
    crew.admission? i = none := by
  unfold step at h
  unfold admission?
  rcases hcaller : crew.callers[i]? with _ | ⟨errand, phase⟩
  · rfl
  rw [hcaller] at h
  cases phase with
  | queued =>
    by_cases hhead : crew.queue.head? = some i
    · simp only [if_pos hhead] at h
      cases h
    · exact if_neg hhead
  | _ => rfl

/-- What holds at first, and is kept by every step and by everything from outside, holds at every
point of a run. -/
theorem moveAll_preserves {P : List Admission → Crew (Transcript W) → Prop}
    (hturn : ∀ {order crew i crew'}, P order crew → Turn crew i none crew' → P order crew')
    (hadmission : ∀ {order crew i admission crew'}, P order crew →
      Turn crew i (some admission) crew' → P (order ++ [admission]) crew')
    (houtside : ∀ {order crew} (w : W), P order crew →
      P order { crew with world := ⟨w, crew.world.signals⟩ })
    (moves : List (Move W)) {order : List Admission} {crew : Crew (Transcript W)}
    (h : P order crew) :
    P (order ++ crew.admissions line.recording (moves.map .recorded))
      (crew.moveAll line.recording (moves.map .recorded)) := by
  induction moves generalizing order crew with
  | nil =>
    show P (order ++ []) crew
    rwa [List.append_nil]
  | cons move moves ih =>
    rw [List.map_cons, admissions, ← List.append_assoc]
    refine ih ?_
    -- A move that admits nobody leaves the order as it is.
    cases move with
    | outside change =>
      show P (order ++ []) _
      rw [List.append_nil]
      exact houtside (change crew.world.world) h
    | step i =>
      show P (order ++ (crew.admission? i).toList) ((crew.step line.recording i).getD crew)
      rcases hstep : crew.step line.recording i with _ | crew'
      · rw [admission?_eq_none line.recording hstep, Option.toList_none, List.append_nil]
        exact h
      have hcan := turn_of_step line hstep
      rcases hadmitted : crew.admission? i with _ | admission
      · rw [hadmitted] at hcan
        rw [Option.toList_none, List.append_nil]
        exact hturn h hcan
      · rw [hadmitted] at hcan
        exact hadmission h hcan

end Crew

end KafkaCanary
