import KafkaCanary.Proofs.Producer.Locking
import KafkaCanary.Proofs.Producer.Replay
import KafkaCanary.Rehearsal.Bench

/-!
# Concurrent callers one after the other

Whatever the order in which concurrent callers of a producer take their steps, what they do to the
producer and to its client is what they do one after the other, in the order in which they get the
lock. While nobody is at work, the whole run is one of callers one after the other (`Sequential`).
The caller that is at work is amid a fan-out or a close (`Engaged`), and going on leads to such a
run.

## Main results

* `Crew.Serial.turn`, `Crew.Serial.admission`: every step keeps this;
* `interleaving_of_fresh_crew`: what it means for the messages, their numbers, the counters and
  closing.
-/

namespace KafkaCanary

/-- Callers one after the other, and `served` messages of the fan-out of another. -/
def Served (start : Producer) (past : List Admission) (topic : String) (served : Nat)
    (p : Producer) (signals : List Signal) : Prop :=
  ∃ q before more, Sequential start past q before ∧ q.closed = false ∧
    Plays (.send topic (Int32.ofNat served)) q p more ∧ signals = before ++ more

/-- Callers one after the other, and the work of another up to a phase of it. -/
inductive Engaged (start : Producer) (past : List Admission) :
    Errand → Phase → Producer → List Signal → Prop
  | serving {topic : String} {count : Int32} {served : Nat} {p : Producer}
      {signals : List Signal} : Served start past topic served p signals →
      served ≤ count.toInt.toNat →
      Engaged start past (.send topic count) (.serving served) p signals
  | stamped {topic : String} {count : Int32} {served : Nat} {p : Producer}
      {signals : List Signal} {made : Int64} : Served start past topic served p signals →
      served < count.toInt.toNat →
      Engaged start past (.send topic count) (.stamped served (p.stamp made).1) (p.stamp made).2
        signals
  | sending {topic : String} {count : Int32} {served : Nat} {p : Producer}
      {signals : List Signal} {made : Int64} : Served start past topic served p signals →
      served < count.toInt.toNat →
      Engaged start past (.send topic count) (.sending served (p.stamp made).1) (p.stamp made).2
        (signals ++ [.sending topic (Int32.ofNat served) (p.stamp made).1.payload])
  | answered {topic : String} {count : Int32} {served : Nat} {p : Producer}
      {signals : List Signal} {made : Int64} {answer : Except Failure Delivery}
      {returned : Int64} : Served start past topic served p signals →
      served < count.toInt.toNat →
      Engaged start past (.send topic count) (.answered served (p.stamp made).1 answer returned)
        (p.stamp made).2 (signals ++ [.sending topic (Int32.ofNat served)
          (p.stamp made).1.payload, .sent answer returned])
  | closing {p : Producer} {signals : List Signal} : Sequential start past p signals →
      p.closed = false → Engaged start past .close .closing p (signals ++ [.closing])

namespace Served

variable {start p : Producer} {past : List Admission} {topic : String} {count : Int32}
  {served : Nat} {signals : List Signal}

theorem zero (h : Sequential start past p signals) (hopen : p.closed = false) (topic : String) :
    Served start past topic 0 p signals :=
  ⟨p, signals, [], h, hopen, .send_zero hopen topic, (List.append_nil signals).symm⟩

/-- One more message, whatever its answer. -/
theorem succ (h : Served start past topic served p signals) (hserved : served < count.toInt.toNat)
    (made : Int64) (answer : Except Failure Delivery) (returned : Int64) :
    Served start past topic (served + 1) (p.sent (Int32.ofNat served) made answer returned)
      (signals ++ [.sending topic (Int32.ofNat served) (p.stamp made).1.payload,
        .sent answer returned]) := by
  obtain ⟨q, before, more, hbefore, hopen, hplays, rfl⟩ := h
  refine ⟨q, before, _, hbefore, hopen, hplays.send_succ hopen hserved made answer returned, ?_⟩
  rw [List.append_assoc]

/-- A fan-out that is under way is a whole one to fewer partitions. -/
theorem sequential (h : Served start past topic served p signals) (i : Nat) :
    Sequential start (past ++ [⟨i, .send topic (Int32.ofNat served), false⟩]) p signals := by
  obtain ⟨q, before, more, hbefore, hopen, hplays, rfl⟩ := h
  exact .concat hbefore hopen.symm hplays

end Served

namespace Engaged

variable {start p : Producer} {past : List Admission} {errand : Errand} {served : Nat}
  {m : Message} {signals : List Signal}

theorem stamp {topic : String} {count : Int32}
    (h : Engaged start past (.send topic count) (.serving served) p signals)
    (hserved : served < count.toInt.toNat) (made : Int64) :
    Engaged start past (.send topic count) (.stamped served (p.stamp made).1) (p.stamp made).2
      signals := by
  cases h with
  | serving h _ => exact .stamped h hserved

theorem dispatch (h : Engaged start past errand (.stamped served m) p signals) :
    Engaged start past errand (.sending served m) p
      (signals ++ [.sending (Crew.topicOf errand) (Int32.ofNat served) m.payload]) := by
  cases h with
  | stamped h hserved => exact .sending h hserved

theorem receive (h : Engaged start past errand (.sending served m) p signals)
    (answer : Except Failure Delivery) (returned : Int64) :
    Engaged start past errand (.answered served m answer returned) p
      (signals ++ [.sent answer returned]) := by
  cases h with
  | sending h hserved =>
    rw [List.append_assoc]
    exact .answered h hserved

theorem settle {answer : Except Failure Delivery} {returned : Int64}
    (h : Engaged start past errand (.answered served m answer returned) p signals) :
    Engaged start past errand (.serving (served + 1))
      (p.settle m (Int32.ofNat served) answer returned).1 signals := by
  cases h with
  | answered h hserved => exact .serving (h.succ hserved _ answer returned) hserved

/-- A fan-out is done when there is no partition left. -/
theorem done (h : Engaged start past errand (.serving served) p signals) (hlocks : errand.locks)
    (hdone : ∀ topic count, errand = .send topic count → count.toInt.toNat ≤ served) (i : Nat) :
    Sequential start (past ++ [⟨i, errand, false⟩]) p signals := by
  cases h with
  | @serving topic count _ _ _ h hserved =>
    have hcount : ¬count < 0 := by simpa [Errand.locks] using hlocks
    have hall : served = count.toInt.toNat := Nat.le_antisymm hserved (hdone topic count rfl)
    have hsequential := h.sequential i
    rwa [hall, ofNat_toNat_toInt hcount] at hsequential

theorem closeFailed (h : Engaged start past errand .closing p signals) (failure : Failure)
    (i : Nat) :
    Sequential start (past ++ [⟨i, errand, false⟩]) p
      (signals ++ [.closed (.error failure)]) := by
  cases h with
  | closing h hopen =>
    rw [List.append_assoc]
    exact .concat h hopen.symm (.close_error hopen failure)

theorem closed (h : Engaged start past errand .closing p signals) (i : Nat) :
    Sequential start (past ++ [⟨i, errand, false⟩]) { p with closed := true }
      (signals ++ [.closed (.ok ())]) := by
  cases h with
  | closing h hopen =>
    rw [List.append_assoc]
    exact .concat h hopen.symm (.close_ok hopen)

/-- Whatever the phase of a caller, going on without another message leads to a run of callers one
after the other. A fan-out that is under way counts as one to fewer partitions. -/
theorem exists_sequential {phase : Phase} (h : Engaged start past errand phase p signals)
    (i : Nat) : ∃ done q more k, Sequential start done q (signals ++ more) ∧
      (∀ s ∈ more, ¬s.IsSending) ∧
      done.flatMap Admission.block =
        past.flatMap Admission.block ++ (Admission.block ⟨i, errand, false⟩).take k := by
  -- The partitions that have been served are the first ones of the whole fan-out.
  have hblock {topic : String} {count : Int32} {served : Nat} (h : served ≤ count.toInt.toNat) :
      List.flatMap Admission.block (past ++ [⟨i, .send topic (Int32.ofNat served), false⟩]) =
        past.flatMap Admission.block ++
          (Admission.block ⟨i, .send topic count, false⟩).take served := by
    rw [List.flatMap_append, List.flatMap_singleton, Admission.block_send, Admission.block_send,
      toInt_ofNat_of_le h, Int.toNat_natCast, ← List.map_take, List.take_range, Nat.min_eq_left h]
  cases h with
  | serving h hserved =>
    refine ⟨_, p, [], _, ?_, nofun, hblock hserved⟩
    rw [List.append_nil]
    exact h.sequential i
  | @stamped _ _ _ q _ _ h hserved =>
    refine ⟨_, q, [], _, ?_, nofun, hblock (Nat.le_of_lt hserved)⟩
    rw [List.append_nil]
    exact h.sequential i
  | @sending _ _ served q _ made h hserved =>
    -- The message has been sent, so it counts, whatever answer may come.
    let answer : Except Failure Delivery := .error (.of "lost")
    refine ⟨_, q.sent (Int32.ofNat served) made answer 0, [.sent answer 0], _, ?_, ?_,
      hblock hserved⟩
    · rw [List.append_assoc]
      exact (h.succ hserved made answer 0).sequential i
    · exact List.forall_mem_singleton.2 id
  | @answered _ _ served q _ made answer returned h hserved =>
    refine ⟨_, q.sent (Int32.ofNat served) made answer returned, [], _, ?_, nofun,
      hblock hserved⟩
    rw [List.append_nil]
    exact (h.succ hserved made answer returned).sequential i
  | closing h hopen =>
    let failure : Failure := .of "lost"
    refine ⟨past ++ [⟨i, .close, false⟩], p, [.closed (.error failure)], 0, ?_, ?_, ?_⟩
    · rw [List.append_assoc]
      exact .concat h hopen.symm (.close_error hopen failure)
    · exact List.forall_mem_singleton.2 id
    · rw [List.flatMap_append]
      rfl

end Engaged

namespace Crew

variable {W : Type}

/-- Nobody is at work that needs the lock. -/
def Quiet (crew : Crew W) : Prop :=
  ∀ (i : Nat) (caller : Caller), crew.callers[i]? = some caller → caller.phase.works = false

/-- What the callers have done is what they do one after the other, in the order in which they got
the lock. The last of them may still be at work. -/
inductive Serial (start : Producer) (order : List Admission) (crew : Crew (Transcript W)) : Prop
  | quiet : crew.Quiet → Sequential start order crew.producer crew.world.signals →
      Serial start order crew
  | busy {past : List Admission} {i : Nat} {errand : Errand} {phase : Phase} :
      order = past ++ [⟨i, errand, false⟩] → crew.callers[i]? = some ⟨errand, phase⟩ →
      phase.works → Engaged start past errand phase crew.producer crew.world.signals →
      Serial start order crew

section Serial

variable {crew crew' : Crew (Transcript W)} {start : Producer} {errands : List Errand}
  {order : List Admission} {i : Nat} {errand : Errand} {phase phase' : Phase}

/-- Nobody is at work while the first in the queue waits. -/
theorem Disciplined.quiet (h : Disciplined errands order crew)
    (hcaller : crew.callers[i]? = some ⟨errand, .queued⟩) (hhead : crew.queue.head? = some i) :
    crew.Quiet := by
  intro j caller hj
  refine Bool.eq_false_iff.2 fun hworks => ?_
  have hj' := (h.keeps j caller hj).head (Phase.holds_of_works hworks)
  obtain rfl : i = j := Option.some.inj (hhead.symm.trans hj')
  rw [hcaller] at hj
  cases hj
  cases hworks

/-- Nobody is at work when nobody else is, and the one who moves is not either. -/
theorem quiet_of_others
    (hothers : ∀ (j : Nat) (caller : Caller), j ≠ i → crew.callers[j]? = some caller →
      caller.phase.works = false)
    (hcaller : crew.callers[i]? = some ⟨errand, phase⟩)
    (hcallers : crew'.callers = (crew.moveTo i phase').callers) (hrest : phase'.works = false) :
    crew'.Quiet := by
  intro j caller hj
  rw [hcallers] at hj
  by_cases hij : j = i
  · subst hij
    rw [callers_moveTo_self hcaller] at hj
    cases hj
    exact hrest
  · rw [callers_moveTo_of_ne hij] at hj
    exact hothers j caller hij hj

theorem Quiet.moveTo (h : crew.Quiet) (hcaller : crew.callers[i]? = some ⟨errand, phase⟩)
    (hcallers : crew'.callers = (crew.moveTo i phase').callers) (hrest : phase'.works = false) :
    crew'.Quiet :=
  quiet_of_others (fun j caller _ hj => h j caller hj) hcaller hcallers hrest

/-- Nobody else is at work with the one who is. -/
theorem Disciplined.quiet_moveTo (h : Disciplined errands order crew)
    (hcaller : crew.callers[i]? = some ⟨errand, phase⟩) (hworks : phase.works)
    (hcallers : crew'.callers = (crew.moveTo i phase').callers) (hrest : phase'.works = false) :
    crew'.Quiet := by
  refine quiet_of_others (fun j caller hij hj => ?_) hcaller hcallers hrest
  refine Bool.eq_false_iff.2 fun hworks' => hij ?_
  exact h.eq_of_holds hj hcaller (Phase.holds_of_works hworks') (Phase.holds_of_works hworks)

namespace Serial

/-- A caller that is at work is the last one that got the lock. -/
theorem engaged (h : Serial start order crew) (hkeeps : Disciplined errands order crew)
    (hcaller : crew.callers[i]? = some ⟨errand, phase⟩) (hworks : phase.works) :
    ∃ past, order = past ++ [⟨i, errand, false⟩] ∧
      Engaged start past errand phase crew.producer crew.world.signals := by
  cases h with
  | quiet hquiet _ => exact absurd hworks (Bool.eq_false_iff.1 (hquiet i _ hcaller))
  | @busy past j errand' phase' horder hj hworks' hengaged =>
    -- Both are at work, so both have got the lock, and only one caller can have it.
    obtain rfl : i = j := hkeeps.eq_of_holds hcaller hj (Phase.holds_of_works hworks)
      (Phase.holds_of_works hworks')
    rw [hcaller] at hj
    cases hj
    exact ⟨past, horder, hengaged⟩

/-- While nobody is at work, the run is one of callers one after the other. -/
theorem sequential (h : Serial start order crew) (hquiet : crew.Quiet) :
    Sequential start order crew.producer crew.world.signals := by
  cases h with
  | quiet _ h => exact h
  | busy _ hcaller hworks _ => exact absurd hworks (Bool.eq_false_iff.1 (hquiet _ _ hcaller))

/-- A step that has no part in the work changes nothing about it. -/
theorem aside (h : Serial start order crew) (hcaller : crew.callers[i]? = some ⟨errand, phase⟩)
    (hcallers : crew'.callers = (crew.moveTo i phase').callers) (hrest : phase.works = false)
    (hrest' : phase'.works = false)
    (hproducer : crew'.producer = crew.producer)
    (hsignals : crew'.world.signals = crew.world.signals) : Serial start order crew' := by
  cases h with
  | quiet hquiet h =>
    exact .quiet (hquiet.moveTo hcaller hcallers hrest') (by rwa [hproducer, hsignals])
  | @busy past j errand' phase'' horder hj hworks hengaged =>
    -- The caller that steps is not the one at work, which stays in its phase.
    have hij : j ≠ i := by
      rintro rfl
      rw [hcaller] at hj
      cases hj
      exact absurd hworks (Bool.eq_false_iff.1 hrest)
    refine .busy horder ?_ hworks (by rwa [hproducer, hsignals])
    rw [hcallers, callers_moveTo_of_ne hij, hj]

/-- A step of the caller at work takes it further. -/
theorem further (h : Serial start order crew) (hkeeps : Disciplined errands order crew)
    (hcaller : crew.callers[i]? = some ⟨errand, phase⟩)
    (hcallers : crew'.callers = (crew.moveTo i phase').callers) (hworks : phase.works)
    (hworks' : phase'.works)
    (hengaged : ∀ {past}, Engaged start past errand phase crew.producer crew.world.signals →
      Engaged start past errand phase' crew'.producer crew'.world.signals) :
    Serial start order crew' := by
  obtain ⟨past, horder, hpast⟩ := h.engaged hkeeps hcaller hworks
  refine .busy horder ?_ hworks' (hengaged hpast)
  rw [hcallers, callers_moveTo_self hcaller]

/-- With its last step, the run is one of callers one after the other. -/
theorem complete (h : Serial start order crew) (hkeeps : Disciplined errands order crew)
    (hcaller : crew.callers[i]? = some ⟨errand, phase⟩)
    (hcallers : crew'.callers = (crew.moveTo i phase').callers) (hworks : phase.works)
    (hrest : phase'.works = false)
    (hsequential : ∀ {past}, Engaged start past errand phase crew.producer crew.world.signals →
      Sequential start (past ++ [⟨i, errand, false⟩]) crew'.producer crew'.world.signals) :
    Serial start order crew' := by
  obtain ⟨past, rfl, hpast⟩ := h.engaged hkeeps hcaller hworks
  exact .quiet (hkeeps.quiet_moveTo hcaller hworks hcallers hrest) (hsequential hpast)

/-- A step by which nobody gets the lock keeps the callers one after the other. -/
theorem turn (h : Serial start order crew) (hkeeps : Disciplined errands order crew)
    (hturn : Turn crew i none crew') : Serial start order crew' := by
  cases hturn with
  | excuse hcaller _ hphase hsignals =>
    exact h.aside hcaller rfl rfl (Phase.works_eq_false (Phase.asks_eq_false hphase)) rfl hsignals
  | learn hcaller hsignals => exact h.aside hcaller rfl rfl rfl rfl hsignals
  | ask hcaller _ => exact h.aside hcaller rfl rfl rfl rfl rfl
  | leave hcaller => exact h.aside hcaller rfl rfl rfl rfl rfl
  -- All the other steps belong to the one who is at work.
  | stamp hcaller hserved =>
    exact h.further hkeeps hcaller rfl rfl rfl fun hpast => hpast.stamp hserved _
  | done hcaller hdone =>
    have hlocks := (hkeeps.keeps i _ hcaller).locks rfl
    exact h.complete hkeeps hcaller rfl rfl rfl fun hpast => hpast.done hlocks hdone i
  | dispatch hcaller hsignals =>
    refine h.further hkeeps hcaller rfl rfl rfl fun hpast => ?_
    exact hsignals ▸ hpast.dispatch
  | receive hcaller hsignals =>
    refine h.further hkeeps hcaller rfl rfl rfl fun hpast => ?_
    exact hsignals ▸ hpast.receive _ _
  | settle hcaller hsignals =>
    refine h.further hkeeps hcaller rfl rfl rfl fun hpast => ?_
    exact hsignals ▸ hpast.settle
  | closeFailed hcaller hsignals =>
    refine h.complete hkeeps hcaller rfl rfl rfl fun hpast => ?_
    exact hsignals ▸ hpast.closeFailed _ i
  | closed hcaller hsignals =>
    refine h.complete hkeeps hcaller rfl rfl rfl fun hpast => ?_
    exact hsignals ▸ hpast.closed i

/-- So does one by which a caller gets it. It is the first in the queue, so nobody is at work. -/
theorem admission {admission : Admission} (h : Serial start order crew)
    (hkeeps : Disciplined errands order crew) (hturn : Turn crew i (some admission) crew') :
    Serial start (order ++ [admission]) crew' := by
  cases hturn with
  | @pass errand t hcaller hhead hvain hsignals =>
    have hquiet := hkeeps.quiet hcaller hhead
    have hlocks := (hkeeps.keeps i _ hcaller).locks rfl
    have hclosed : crew.producer.closed := by
      refine hvain.resolve_right fun hfree => ?_
      exact Bool.false_ne_true (hfree.symm.trans hlocks)
    refine .quiet (hquiet.moveTo hcaller rfl rfl) ?_
    show Sequential start _ crew.producer t.signals
    rw [hsignals, ← List.append_nil crew.world.signals]
    exact .concat (h.sequential hquiet) rfl (.of_closed hclosed hlocks)
  | fanOut hcaller hhead hopen =>
    have hpast := h.sequential (hkeeps.quiet hcaller hhead)
    rw [hopen]
    refine .busy rfl (callers_moveTo_self hcaller _) rfl ?_
    exact .serving (.zero hpast hopen _) (Nat.zero_le _)
  | close hcaller hhead hopen hsignals =>
    have hpast := h.sequential (hkeeps.quiet hcaller hhead)
    rw [hopen]
    refine .busy rfl (callers_moveTo_self hcaller _) rfl ?_
    exact hsignals ▸ .closing hpast hopen

/-- Everything about a run is said by one of callers one after the other. -/
theorem exists_sequential (h : Serial start order crew) :
    ∃ past current done p more k, order = past ++ current ∧ current.length ≤ 1 ∧
      (∀ a ∈ current, ∃ caller, crew.callers[a.caller]? = some caller ∧ caller.phase.works) ∧
      (current = [] → Sequential start order crew.producer crew.world.signals) ∧
      Sequential start done p (crew.world.signals ++ more) ∧ (∀ s ∈ more, ¬s.IsSending) ∧
      done.flatMap Admission.block =
        past.flatMap Admission.block ++ (current.flatMap Admission.block).take k := by
  cases h with
  | quiet _ h =>
    refine ⟨order, [], order, crew.producer, [], 0, ?_, Nat.zero_le 1, nofun, fun _ => h, ?_, nofun,
      ?_⟩
    · rw [List.append_nil]
    · rwa [List.append_nil]
    · exact (List.append_nil _).symm
  | @busy past i errand phase horder hcaller hworks hengaged =>
    obtain ⟨done, p, more, k, hdone, hmore, hblocks⟩ := hengaged.exists_sequential i
    refine ⟨past, [⟨i, errand, false⟩], done, p, more, k, horder, Nat.le_refl 1, ?_, nofun, hdone,
      hmore, ?_⟩
    · exact List.forall_mem_singleton.2 ⟨_, hcaller, hworks⟩
    · rwa [List.flatMap_singleton]

end Serial

end Serial

/-- At every point of a run the callers keep to the lock and are one after the other. -/
theorem serial_moveAll (line : Line W) (start : Producer) (errands : List Errand) (w : W)
    (moves : List (Move W)) :
    let run := (init start errands w).recorded.moveAll line.recording (moves.map .recorded)
    let order := (init start errands w).admissions line moves
    Disciplined errands order run ∧ Serial start order run := by
  intro run order
  let P order (crew : Crew (Transcript W)) :=
    Disciplined errands order crew ∧ Serial start order crew
  have hinit : P [] (init start errands w).recorded := by
    have hkeeps : Disciplined errands [] (init start errands w).recorded := .init _ _ _
    refine ⟨hkeeps, .quiet (fun i caller hi => ?_) .nil⟩
    exact Bool.eq_false_iff.2 fun hworks =>
      absurd ((hkeeps.keeps i caller hi).head (Phase.holds_of_works hworks)) nofun
  have hrun : P ([] ++ order) run := by
    have horder := admissions_recorded line moves (init start errands w).recorded
    rw [← show _ = order from horder]
    refine moveAll_preserves line ?_ ?_ ?_ moves hinit
    · intro order crew i crew' h hturn
      exact ⟨h.1.turn hturn, h.2.turn h.1 hturn⟩
    · intro order crew i admission crew' h hturn
      exact ⟨h.1.admission hturn, h.2.admission h.1 hturn⟩
    · intro order crew w h
      obtain ⟨⟨herrands, hqueue, horder, herrand, hkeeps⟩, hserial⟩ := h
      refine ⟨⟨herrands, hqueue, horder, herrand, hkeeps⟩, ?_⟩
      cases hserial with
      | quiet hquiet h => exact .quiet hquiet h
      | busy horder hcaller hworks h => exact .busy horder hcaller hworks h
  exact hrun

end Crew

/-- However callers of a fresh producer interleave, no caller gets the lock twice, and a caller that
needs it has got it when it is done. The messages are those of whole fan-outs, one after the other
in the order of the lock; only the last of them may still be under way. The `k`-th message says the
client id and the number `k`, modulo the width of the number. No message follows a close that the
client has accepted. When nobody is at work, the producer with all its counters is as it is after
the same callers one after the other, in the order of the lock and with the same answers. -/
theorem interleaving_of_fresh_crew {W : Type} (line : Line W) (clientId : String)
    (instruments : Instruments) (errands : List Errand) (w : W) (moves : List (Move W)) :
    let start : Producer := .init clientId instruments
    let crew : Crew W := .init start errands w
    let run := crew.recorded.moveAll line.recording (moves.map .recorded)
    let order := crew.admissions line moves
    let signals := run.world.signals
    let numbers := signals.filterMap Signal.read?
    run.base = crew.moveAll line moves ∧
      (order.map Admission.caller).Nodup ∧
      (∀ a ∈ order, errands[a.caller]? = some a.errand) ∧
      (∀ (i : Nat) (errand : Errand) (result : Except Failure Unit),
        run.callers[i]? = some ⟨errand, .finished result⟩ → errand.locks →
          i ∈ order.map Admission.caller) ∧
      numbers = (List.range numbers.length).map (fun k => .ok (clientId, (k + 1) % UInt64.size)) ∧
      signals.Pairwise (fun s s' => s.IsAcceptance → ¬s'.IsSending) ∧
      ∃ past current k, order = past ++ current ∧ current.length ≤ 1 ∧
        (∀ a ∈ current, ∃ caller, run.callers[a.caller]? = some caller ∧ caller.phase.works) ∧
        signals.filterMap Signal.address? =
          past.flatMap Admission.block ++ (current.flatMap Admission.block).take k ∧
        (current = [] → ∃ cues,
          let alone : Canary Replay := ⟨start, ⟨cues, none⟩⟩
          let replayed := alone.recorded.performAll Replay.host.recording
            ((order.map fun a => a.errand.operation).map .recorded)
          replayed.producer = run.producer ∧
            replayed.world.entries.flatMap Entry.signals = signals) := by
  intro start crew run order signals numbers
  obtain ⟨hkeeps, hserial⟩ := Crew.serial_moveAll line start errands w moves
  obtain ⟨past, current, done, p, more, k, horder, hlength, hworks, hquiet, hdone, hmore,
    hblocks⟩ := hserial.exists_sequential
  obtain ⟨entries, hreaches, hentries⟩ := hdone.reaches
  -- The signals so far and those still to come of the current caller are a sequential run, to which
  -- the invariants of sequential runs apply.
  have hnumbered : Account.Numbered clientId ⟨p, entries⟩ :=
    hreaches.preserves .step (.init clientId instruments)
  have hsilenced : Account.Silenced ⟨p, entries⟩ :=
    hreaches.preserves .step (.init clientId instruments)
  have hnumbers : numbers = (dispatches entries).map Dispatch.read := by
    rw [← Entry.filterMap_read?, hentries,
      Signal.filterMap_append Signal.read?_of_not_isSending signals hmore]
  have hcount : numbers.length = (dispatches entries).length := by rw [hnumbers, List.length_map]
  have haddresses := hdone.addresses
  rw [Signal.filterMap_append Signal.address?_of_not_isSending signals hmore, hblocks] at haddresses
  have hsilent : (signals ++ more).Pairwise fun s s' => s.IsAcceptance → ¬s'.IsSending := by
    rw [← hentries]
    exact hsilenced.silent
  refine ⟨crew.recorded.base_moveAll line moves, hkeeps.order_nodup, hkeeps.order_errand, ?_, ?_,
    (List.pairwise_append.1 hsilent).1, past, current, k, horder, hlength, hworks, haddresses, ?_⟩
  · intro i errand result hcaller hlocks
    exact hkeeps.mem_order_of_finished hcaller hlocks
  · rw [hcount, hnumbers, hnumbered.read]
  · intro hnobody
    obtain ⟨cues, hcues⟩ := (hquiet hnobody).performAll_eq
    obtain ⟨calls, hcalls, hsignals⟩ := hcues []
    refine ⟨cues ++ [], congrArg Canary.producer hcalls, ?_⟩
    exact (congrArg (fun c => c.world.entries.flatMap Entry.signals) hcalls).trans hsignals

/-- Callers take their steps in turn, the second of them first. It gets the lock first, too, and the
last of them finds the producer closed. -/
example :
    let crew : Crew Bench := .init (.init "canary-client" (.init [5, 50]))
      [.send "a" 2, .send "b" 1, .close, .send "c" 1] (.init .init 0)
    let rounds : List (Move Bench) :=
      (List.replicate 20 [.step 1, .step 0, .step 2, .step 3]).flatten
    let run := crew.recorded.moveAll Bench.line.recording (rounds.map .recorded)
    (crew.admissions Bench.line rounds).map Admission.caller = [1, 0, 2, 3] ∧
      run.world.signals.filterMap Signal.address? = [("b", 0), ("a", 0), ("a", 1)] ∧
      run.producer.lastMessageId = 3 := by
  decide +kernel

end KafkaCanary
