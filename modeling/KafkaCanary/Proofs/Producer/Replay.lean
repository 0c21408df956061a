import KafkaCanary.Proofs.Producer.Callers
import KafkaCanary.Proofs.Producer.Sequence
import Mathlib.Data.List.Basic

/-!
# Replaying callers one after the other

What a producer does for callers that come one after the other, when the answers of the client and
the times at which it is asked and answers are given in advance. A host that reads them from a list
of cues (`Replay.host`) replays what has happened to concurrent callers, without any of them in the
way of another.

A fan-out to one partition more is a fan-out followed by one message, so a fan-out that is under way
is a whole fan-out to fewer partitions.

## Main results

* `Sequential.performAll_eq`: callers that got the lock one after the other are replayed by some
  cues;
* `Sequential.addresses`: their fan-outs are whole and do not mix;
* `Account.Silenced.step`: no message follows a close that the client has accepted.
-/

namespace KafkaCanary

/-! ## Signals of a record -/

namespace Signal

/-- Whether a message is to be sent. -/
def IsSending : Signal → Prop
  | .sending _ _ _ => True
  | .sent _ _ | .closing | .closed _ => False

/-- Whether the client has been closed. -/
def IsAcceptance : Signal → Prop
  | .closed (.ok ()) => True
  | .closed (.error _) | .sending _ _ _ | .sent _ _ | .closing => False

/-- Where a message is to be sent. -/
def address? : Signal → Option (String × Int)
  | .sending topic partition _ => some (topic, partition.toInt)
  | .sent _ _ | .closing | .closed _ => none

/-- The sender and the number that the bytes of a message say. -/
def read? : Signal → Option (Except Message.ReadFault (String × Nat))
  | .sending _ _ payload =>
    some ((Message.ofPayload payload).map fun m => (m.producerId, m.messageId.toNat))
  | .sent _ _ | .closing | .closed _ => none

/-- What sends no message has no part in what is read from the messages. -/
theorem filterMap_append {α : Type} {f : Signal → Option α}
    (hother : ∀ s : Signal, ¬s.IsSending → f s = none) (signals : List Signal)
    {more : List Signal} (hmore : ∀ s ∈ more, ¬s.IsSending) :
    (signals ++ more).filterMap f = signals.filterMap f := by
  rw [List.filterMap_append, List.filterMap_eq_nil_iff.2 fun s hs => hother s (hmore s hs),
    List.append_nil]

/-- Only a send has an address. -/
theorem address?_of_not_isSending (s : Signal) (hs : ¬s.IsSending) : s.address? = none := by
  cases s <;> first | rfl | exact absurd trivial hs

/-- Only a send reads the clock. -/
theorem read?_of_not_isSending (s : Signal) (hs : ¬s.IsSending) : s.read? = none := by
  cases s <;> first | rfl | exact absurd trivial hs

end Signal

/-- The signals of a call. -/
def Entry.signals (entry : Entry) : List Signal :=
  match entry.exchange with
  | .send topic partition payload answer =>
    [.sending topic partition payload, .sent answer entry.returned]
  | .close answer => [.closing, .closed answer]
  | .refresh _ _ | .count _ _ => []

namespace Entry

/-- What is read from the sendings of a record is what is read from its messages. -/
theorem filterMap_signals {α : Type} {f : Signal → Option α} {g : Dispatch → α}
    (hother : ∀ s : Signal, ¬s.IsSending → f s = none)
    (hsending : ∀ d : Dispatch, f (.sending d.topic d.partition d.payload) = some (g d))
    (entries : List Entry) :
    (entries.flatMap signals).filterMap f = (dispatches entries).map g := by
  have hentry (entry : Entry) : entry.signals.filterMap f = (entry.dispatch?.map g).toList := by
    obtain ⟨exchange, begun, returned⟩ := entry
    cases exchange with
    | send topic partition payload answer =>
      have hsent := hsending ⟨topic, partition, payload, answer, returned⟩
      have hanswer := hother (.sent answer returned) id
      exact (List.filterMap_cons_some hsent).trans
        (congrArg _ (List.filterMap_cons_none hanswer))
    | close answer =>
      have hclosing := hother .closing id
      have hclosed := hother (.closed answer) id
      exact (List.filterMap_cons_none hclosing).trans (List.filterMap_cons_none hclosed)
    | refresh topic answer => rfl
    | count topic answer => rfl
  rw [dispatches, List.filterMap_flatMap, List.map_filterMap, List.filterMap_eq_flatMap_toList]
  exact congrArg (fun f => List.flatMap f entries) (funext hentry)

/-- The addresses among the signals of entries are those of their dispatches. -/
theorem filterMap_address? (entries : List Entry) :
    (entries.flatMap signals).filterMap Signal.address? =
      (dispatches entries).map Dispatch.address := by
  exact filterMap_signals Signal.address?_of_not_isSending (fun _ => rfl) entries

/-- The times among the signals of entries are those of their dispatches. -/
theorem filterMap_read? (entries : List Entry) :
    (entries.flatMap signals).filterMap Signal.read? =
      (dispatches entries).map Dispatch.read := by
  exact filterMap_signals Signal.read?_of_not_isSending (fun _ => rfl) entries

end Entry

/-! ## Nothing after closing -/

namespace Account

/-- The signals of a record. -/
def signals (a : Account) : List Signal :=
  a.entries.flatMap Entry.signals

/-- A producer that is open has not closed its client, and no message follows such a close. -/
structure Silenced (a : Account) : Prop where
  /-- No close has been accepted while the producer is open. -/
  opened : a.producer.closed = false → ∀ s ∈ a.signals, ¬s.IsAcceptance
  /-- No message follows a close that has been accepted. -/
  silent : a.signals.Pairwise fun s s' => s.IsAcceptance → ¬s'.IsSending

/-- The signals of a last entry come last. -/
theorem signals_concat (p : Producer) (entries : List Entry) (entry : Entry) :
    signals ⟨p, entries ++ [entry]⟩ = entries.flatMap Entry.signals ++ entry.signals := by
  rw [signals, List.flatMap_append, List.flatMap_singleton]

/-- A producer that has just been made is open, and nothing has come of it yet. -/
theorem Silenced.init (clientId : String) (instruments : Instruments) :
    Silenced ⟨.init clientId instruments, []⟩ :=
  ⟨fun _ => nofun, .nil⟩

/-- A call of an open producer says nothing that matters later, unless it closes the producer. -/
theorem Silenced.concat {p p' : Producer} {entries : List Entry} {entry : Entry}
    (h : Silenced ⟨p, entries⟩) (hopen : p.closed = false)
    (hentry : entry.signals.Pairwise fun s s' => s.IsAcceptance → ¬s'.IsSending)
    (hopened : p'.closed = false → ∀ s ∈ entry.signals, ¬s.IsAcceptance) :
    Silenced ⟨p', entries ++ [entry]⟩ := by
  have hbefore : ∀ s ∈ entries.flatMap Entry.signals, ¬s.IsAcceptance := h.opened hopen
  constructor
  · intro hopen' s hs
    rw [signals_concat] at hs
    rcases List.mem_append.1 hs with hs | hs
    · exact hbefore s hs
    · exact hopened hopen' s hs
  · rw [signals_concat, List.pairwise_append]
    exact ⟨h.silent, hentry, fun s hs _ _ haccepted => absurd haccepted (hbefore s hs)⟩

/-- No step sends a message after the client has accepted a close. -/
theorem Silenced.step {a b : Account} (hstep : Step a b) (h : Silenced a) : Silenced b := by
  cases hstep with
  | refresh | count =>
    constructor <;> rw [signals_concat, show Entry.signals _ = [] from rfl, List.append_nil]
    · exact h.opened
    · exact h.silent
  | close hopen =>
    refine h.concat hopen ?_ nofun
    simp [Entry.signals, Signal.IsAcceptance]
  | closeFailed hopen =>
    refine h.concat hopen ?_ fun _ => ?_
    · simp [Entry.signals, Signal.IsAcceptance]
    · simp [Entry.signals, Signal.IsAcceptance]
  | send hopen =>
    refine h.concat hopen ?_ fun _ => ?_
    · simp [Entry.signals, Signal.IsAcceptance]
    · simp [Entry.signals, Signal.IsAcceptance]

end Account

/-! ## A host with answers given in advance -/

/-- What a client answers, with the times that matter. -/
inductive Cue where
  /-- A message made at one time is answered at another. -/
  | send (made : Int64) (answer : Except Failure Delivery) (returned : Int64)
  /-- A close is answered. -/
  | close (answer : Except Failure Unit)

/-- A world that consists of answers to come. -/
structure Replay where
  /-- The answers to come. -/
  cues : List Cue
  /-- When the last message was answered, until that is reported. -/
  returned : Option Int64

namespace Replay

/-- The wall clock shows when the last message was answered until that is reported, and then when
the next message is made. -/
def now (r : Replay) : Int64 :=
  match r.returned, r.cues with
  | some time, _ => time
  | none, .send made _ _ :: _ => made
  | none, _ => 0

/-- The host that gives the answers in order. -/
def host : Host Replay where
  now := now
  elapsed _ := 0
  waitUntil _ r := r
  emit _ r := { r with returned := none }
  send _ _ _ r :=
    match r.cues with
    | .send _ answer returned :: cues => (answer, ⟨cues, some returned⟩)
    | _ => (.error (.of "no answer left"), r)
  refresh _ r := (.ok (), r)
  partitionCount _ r := (none, r)
  close r :=
    match r.cues with
    | .close answer :: cues => (answer, ⟨cues, none⟩)
    | _ => (.error (.of "no answer left"), r)

/-- Where no answer waits to be reported, events change nothing. -/
theorem emitAll_none (events : List Event) (cues : List Cue) :
    host.emitAll events ⟨cues, none⟩ = ⟨cues, none⟩ := by
  induction events with
  | nil => rfl
  | cons event events ih => exact ih

end Replay

/-- The operation that a caller asks for. -/
def Errand.operation {W : Type} : Errand → Operation W
  | .send topic count => .send topic count
  | .refresh topic => .refresh topic
  | .close => .close

/-- A producer with the answers for what is to come. -/
def Producer.cued (p : Producer) (cues : List Cue) (entries : List Entry) :
    Canary (Ledger Replay) :=
  ⟨p, ⟨⟨cues, none⟩, entries⟩⟩

/-- The producer after one more message, made and answered at times given. -/
def Producer.sent (p : Producer) (partition : Int32) (made : Int64)
    (answer : Except Failure Delivery) (returned : Int64) : Producer :=
  ((p.stamp made).2.settle (p.stamp made).1 partition answer returned).1

/-- A probe with its cue at hand plays it. -/
theorem attempt_cued (p : Producer) (topic : String) (partition : Int32) (made : Int64)
    (answer : Except Failure Delivery) (returned : Int64) (rest : List Cue)
    (entries : List Entry) :
    (p.cued (.send made answer returned :: rest) entries).attempt Replay.host.recording topic
        partition =
      (p.sent partition made answer returned).cued rest (entries ++
        [⟨.send topic partition (p.stamp made).1.payload answer, 0, returned⟩]) := by
  let after := p.sent partition made answer returned
  let outcome := Producer.outcome (p.stamp made).1 partition answer returned
  have hreports : Replay.host.emitAll outcome.events ⟨rest, none⟩ = ⟨rest, none⟩ :=
    Replay.emitAll_none outcome.events rest
  simp only [Canary.attempt, Host.recording_emitAll]
  -- The report of the answer lets the clock go on, and the others leave it alone.
  exact congrArg (fun r => (⟨after, ⟨r, entries ++ _⟩⟩ : Canary (Ledger Replay))) hreports

/-- With some answers in advance, an operation leads from one producer to another, and makes
signals meanwhile. -/
def Plays (op : Operation Replay) (p q : Producer) (signals : List Signal) : Prop :=
  ∃ cues, ∀ rest entries, ∃ calls,
    (p.cued (cues ++ rest) entries).perform Replay.host.recording op.recorded =
      q.cued rest (entries ++ calls) ∧
    calls.flatMap Entry.signals = signals

/-! ## Fan-outs that are under way -/

section FanOuts

variable {topic : String} {count : Int32} {served : Nat}

/-- A number of partitions up to a count has the width of the count. -/
theorem toInt_ofNat_of_le (h : served ≤ count.toInt.toNat) :
    (Int32.ofNat served).toInt = served := by
  have hcount := count.toInt_lt
  refine Int32.toInt_ofNat_of_lt ?_
  omega

/-- A count that is not negative is its number. -/
theorem ofNat_toNat_toInt (hcount : ¬count < 0) : Int32.ofNat count.toInt.toNat = count := by
  have hpos : 0 ≤ count.toInt := Int.not_lt.1 fun h => hcount (Int32.lt_iff_toInt_lt.2 h)
  refine Int32.toInt_inj.1 ?_
  rw [toInt_ofNat_of_le (Nat.le_refl _), Int.toNat_of_nonneg hpos]

/-- The partitions up to one that is served are the first numbers. -/
theorem partitionRange_ofNat (h : served ≤ count.toInt.toNat) :
    partitionRange (Int32.ofNat served) = (List.range served).map Int32.ofNat := by
  rw [partitionRange, toInt_ofNat_of_le h, Int.toNat_natCast]

/-- On an open producer, a fan-out is a message to each partition. -/
theorem perform_send_of_open {W : Type} (host : Host W) {c : Canary W}
    (hopen : c.producer.closed = false) (hserved : served ≤ count.toInt.toNat) :
    c.perform host (.send topic (Int32.ofNat served)) =
      ((List.range served).map Int32.ofNat).foldl (Canary.attempt host topic) c := by
  have hnneg : ¬Int32.ofNat served < 0 := by
    intro hneg
    have hneg := Int32.lt_iff_toInt_lt.1 hneg
    rw [toInt_ofNat_of_le hserved] at hneg
    exact absurd hneg (Int.not_lt.2 (Int.natCast_nonneg served))
  rw [Canary.perform, Canary.sendToPartitions, if_neg hnneg, if_neg (Bool.eq_false_iff.1 hopen),
    partitionRange_ofNat hserved]

end FanOuts

/-! ## Operations with answers given in advance -/

namespace Plays

variable {p q : Producer} {signals : List Signal}

/-- A fan-out to no partition does nothing. -/
theorem send_zero (hopen : p.closed = false) (topic : String) :
    Plays (.send topic (Int32.ofNat 0)) p p [] := by
  refine ⟨[], fun rest entries => ⟨[], ?_, rfl⟩⟩
  rw [List.append_nil]
  exact perform_send_of_open _ hopen (Nat.zero_le (0 : Int32).toInt.toNat)

/-- A fan-out to one partition more is a fan-out followed by a message. -/
theorem send_succ {topic : String} {count : Int32} {served : Nat}
    (h : Plays (.send topic (Int32.ofNat served)) p q signals)
    (hopen : p.closed = false) (hserved : served < count.toInt.toNat) (made : Int64)
    (answer : Except Failure Delivery) (returned : Int64) :
    Plays (.send topic (Int32.ofNat (served + 1))) p
      (q.sent (Int32.ofNat served) made answer returned)
      (signals ++ [.sending topic (Int32.ofNat served) (q.stamp made).1.payload,
        .sent answer returned]) := by
  obtain ⟨cues, hcues⟩ := h
  refine ⟨cues ++ [.send made answer returned], fun rest entries => ?_⟩
  obtain ⟨calls, hcalls, hsignals⟩ := hcues (.send made answer returned :: rest) entries
  refine ⟨calls ++ [⟨.send topic (Int32.ofNat served) (q.stamp made).1.payload answer, 0,
    returned⟩], ?_, ?_⟩
  · rw [Operation.recorded, perform_send_of_open _ hopen (Nat.le_of_lt hserved)] at hcalls
    rw [Operation.recorded, perform_send_of_open _ hopen hserved, List.range_succ, List.map_append,
      List.foldl_append, List.append_assoc, List.singleton_append, hcalls, ← List.append_assoc]
    exact attempt_cued q topic (Int32.ofNat served) made answer returned rest _
  · rw [List.flatMap_append, hsignals, List.flatMap_singleton]
    rfl

/-- A closed producer has nothing to do for a caller that needs its lock. -/
theorem of_closed {errand : Errand} (hclosed : p.closed = true) (hlocks : errand.locks) :
    Plays errand.operation p p [] := by
  refine ⟨[], fun rest entries => ⟨[], ?_, rfl⟩⟩
  rw [List.append_nil, List.nil_append]
  have hclosed : (p.cued rest entries).producer.closed = true := hclosed
  cases errand with
  | refresh topic => cases hlocks
  | close =>
    show ((p.cued rest entries).close _).2 = _
    rw [Canary.close, if_pos hclosed]
    rfl
  | send topic count =>
    have hcount : ¬count < 0 := by simpa [Errand.locks] using hlocks
    show (p.cued rest entries).sendToPartitions _ topic count = _
    rw [Canary.sendToPartitions, if_neg hcount, if_pos hclosed]
    rfl

/-- A close that fails leaves the producer open. -/
theorem close_error (hopen : p.closed = false) (failure : Failure) :
    Plays .close p p [.closing, .closed (.error failure)] := by
  refine ⟨[.close (.error failure)], fun rest entries =>
    ⟨[⟨.close (.error failure), 0, Replay.now ⟨rest, none⟩⟩], ?_, rfl⟩⟩
  have hopen : ¬(p.cued (.close (.error failure) :: rest) entries).producer.closed = true :=
    Bool.eq_false_iff.1 hopen
  show (Canary.close _ (p.cued (.close (.error failure) :: rest) entries)).2 = _
  rw [Canary.close, if_neg hopen]
  rfl

/-- A close that is accepted closes the producer. -/
theorem close_ok (hopen : p.closed = false) :
    Plays .close p { p with closed := true } [.closing, .closed (.ok ())] := by
  refine ⟨[.close (.ok ())], fun rest entries =>
    ⟨[⟨.close (.ok ()), 0, Replay.now ⟨rest, none⟩⟩], ?_, rfl⟩⟩
  have hopen : ¬(p.cued (.close (.ok ()) :: rest) entries).producer.closed = true :=
    Bool.eq_false_iff.1 hopen
  show (Canary.close _ (p.cued (.close (.ok ()) :: rest) entries)).2 = _
  rw [Canary.close, if_neg hopen]
  rfl

end Plays

/-! ## Callers one after the other -/

/-- Where the messages of a caller are to go. -/
def Admission.block (admission : Admission) : List (String × Int) :=
  match admission.errand with
  | .send topic count => FanOut.block ⟨topic, count, admission.closed⟩
  | .refresh _ | .close => []

/-- On an open producer, a caller sends a message to each partition. -/
theorem Admission.block_send (i : Nat) (topic : String) (count : Int32) :
    block ⟨i, .send topic count, false⟩ =
      (List.range count.toInt.toNat).map fun partition : Nat => (topic, (partition : Int)) := by
  dsimp only [block, FanOut.block]
  by_cases hcount : count < 0
  · have hneg : count.toInt < 0 := Int32.lt_iff_toInt_lt.1 hcount
    rw [if_pos (.inr hcount), Int.toNat_of_nonpos (Int.le_of_lt hneg)]
    rfl
  · rw [if_neg (by simp [hcount])]

/-- An operation that is played sends to the block of its errand. -/
theorem Plays.addresses {admission : Admission} {p q : Producer} {signals : List Signal}
    (h : Plays admission.errand.operation p q signals) (hclosed : admission.closed = p.closed) :
    signals.filterMap Signal.address? = admission.block := by
  obtain ⟨cues, hcues⟩ := h
  obtain ⟨calls, hcalls, rfl⟩ := hcues [] []
  have haddresses :=
    Canary.addresses_perform Replay.host admission.errand.operation (p.cued (cues ++ []) [])
  rw [hcalls] at haddresses
  rw [Entry.filterMap_address?]
  refine haddresses.trans ?_
  obtain ⟨i, errand, closed⟩ := admission
  cases hclosed
  cases errand with
  | send topic count => exact List.append_nil _
  | refresh topic => rfl
  | close => rfl

/-- Callers that got the lock one after the other are replayed. -/
inductive Sequential (start : Producer) : List Admission → Producer → List Signal → Prop
  | nil : Sequential start [] start []
  | concat {done : List Admission} {p q : Producer} {admission : Admission}
      {signals more : List Signal} :
      Sequential start done p signals → admission.closed = p.closed →
      Plays admission.errand.operation p q more →
      Sequential start (done ++ [admission]) q (signals ++ more)

namespace Sequential

variable {start p : Producer} {done : List Admission} {signals : List Signal}

/-- The fan-outs of callers are whole and do not mix. -/
theorem addresses (h : Sequential start done p signals) :
    signals.filterMap Signal.address? = done.flatMap Admission.block := by
  induction h with
  | nil => rfl
  | concat _ hclosed hplays ih =>
    rw [List.filterMap_append, List.flatMap_append, List.flatMap_singleton, ih,
      hplays.addresses hclosed]

/-- Some cues replay all the callers. -/
theorem performAll_eq (h : Sequential start done p signals) :
    ∃ cues, ∀ rest, ∃ entries,
      (start.cued (cues ++ rest) []).performAll Replay.host.recording
        ((done.map fun admission => admission.errand.operation).map .recorded) =
          p.cued rest entries ∧
      entries.flatMap Entry.signals = signals := by
  induction h with
  | nil => exact ⟨[], fun rest => ⟨[], rfl, rfl⟩⟩
  | concat _ _ hplays ih =>
    obtain ⟨cues, hcues⟩ := ih
    obtain ⟨cues', hcues'⟩ := hplays
    refine ⟨cues ++ cues', fun rest => ?_⟩
    obtain ⟨entries, hentries, hsignals⟩ := hcues (cues' ++ rest)
    obtain ⟨calls, hcalls, hmore⟩ := hcues' rest entries
    refine ⟨entries ++ calls, ?_, ?_⟩
    · rw [Canary.performAll, List.map_append, List.map_append, List.foldl_append,
        List.append_assoc]
      exact (congrArg (Canary.perform _ · _) hentries).trans hcalls
    · rw [List.flatMap_append, hsignals, hmore]

/-- Callers one after the other take the steps of a run. -/
theorem reaches (h : Sequential start done p signals) :
    ∃ entries, Account.Reaches ⟨start, []⟩ ⟨p, entries⟩ ∧
      entries.flatMap Entry.signals = signals := by
  obtain ⟨cues, hcues⟩ := h.performAll_eq
  obtain ⟨entries, hentries, hsignals⟩ := hcues []
  refine ⟨entries, ?_, hsignals⟩
  have hreaches := Canary.performAll_reaches Replay.host
    (done.map fun admission => admission.errand.operation) (start.cued (cues ++ []) [])
  rwa [hentries] at hreaches

end Sequential

end KafkaCanary
