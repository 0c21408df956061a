import KafkaCanary.Proofs.Client.Journal
import KafkaCanary.Rehearsal.Cluster

/-!
# Responses belong to their requests

A client takes a response for the answer to a request only if it was read as one whole frame from
the connection that the request was written to, and carries the request's correlation id. A
connection on which a response may still be on its way is never used again.

All of this is an invariant of the steps of a client (`Journal.Correlated`).

## Main results

* `Journal.Step.correlated`: the invariant;
* `Attempt.whole`: what is read as a response is the message of one whole frame;
* `responses_correlate`: what holds of all requests in the life of a client.
-/

namespace KafkaCanary

/-! ## Acts of requests -/

/-- Whether an act belongs to a request. -/
def Act.isExchange : Act → Bool
  | .reported (.requesting _ _ _ _) | .wrote _ _ _ | .received _ _ _ => true
  | .reported _ | .dialled _ _ | .shut _ _ => false

/-- What is done between requests exchanges no bytes. -/
theorem Act.isExchange_eq_false_of_isIdle {act : Act} (h : act.isIdle) :
    act.isExchange = false := by
  cases act with
  | reported event => cases event <;> first | rfl | cases h
  | dialled target result => rfl
  | shut id result => rfl
  | wrote id bytes result => cases h
  | received id count result => cases h

/-- Acts between requests exchange no bytes. -/
theorem Idle.filter_isExchange {acts : List Act} (h : Idle acts) :
    acts.filter Act.isExchange = [] := by
  refine List.filter_eq_nil_iff.2 fun act hact => ?_
  rw [Act.isExchange_eq_false_of_isIdle (h act hact)]
  exact Bool.false_ne_true

/-- Opening a connection exchanges no bytes. -/
theorem Connection.Opens.filter_isExchange {acts : List Act}
    {result : Except ClientFault Connection} (h : Opens acts result) :
    acts.filter Act.isExchange = [] := by
  cases result with
  | error fault => exact Idle.filter_isExchange h
  | ok connection =>
    obtain ⟨before, target, after, rfl, -, hbefore, hafter⟩ := h
    rw [List.filter_append, List.filter_cons_of_neg Bool.false_ne_true, hbefore.filter_isExchange,
      hafter.filter_isExchange]
    rfl

/-- All acts of a request exchange bytes. -/
theorem Attempt.filter_isExchange_acts (a : Attempt) : a.acts.filter Act.isExchange = a.acts := by
  obtain ⟨request, version, correlationId, connection, fate⟩ := a
  cases fate <;> rfl

/-! ## Numbers of 32 bits -/

/-- The counter of requests is wider than a correlation id, so that it does not matter when it
starts again. -/
theorem ofNat_toNat_ofNat (n : Nat) : Int32.ofNat (UInt64.ofNat n).toNat = Int32.ofNat n := by
  refine Int32.toBitVec_inj.1 (BitVec.eq_of_toNat_eq ?_)
  simp

/-- Equal ids are counts that differ by whole turns of 32 bits. -/
theorem mod_eq_of_ofNat_eq {m n : Nat} (h : Int32.ofNat m = Int32.ofNat n) :
    m % UInt32.size = n % UInt32.size := by
  have := congrArg (fun x => x.toBitVec.toNat) h
  simpa using this

/-- A word that is not negative is its number. -/
theorem toInt_ofNat_of_nonneg {n : Nat} (hn : n < UInt32.size) (h : 0 ≤ Int32.ofNat n) :
    (Int32.ofNat n).toInt.toNat = n := by
  rw [Int32.le_iff_toInt_le] at h
  rw [Int32.toInt_ofNat'] at h ⊢
  simp only [Int.bmod_def, UInt32.size, Int32.size, Int32.toInt_zero] at *
  omega

/-- Bytes are digits below 256, by induction on them. -/
theorem foldl_digit_lt (bytes : List UInt8) (n : Nat) :
    bytes.foldl (fun n b => n * 256 + b.toNat) n < (n + 1) * Nat.pow 256 bytes.length := by
  induction bytes generalizing n with
  | nil => exact Nat.lt_of_lt_of_eq (Nat.lt_succ_self n) (Nat.mul_one _).symm
  | cons b bytes ih =>
    have hdigit : n * 256 + b.toNat + 1 ≤ (n + 1) * 256 := by
      have := b.toNat_lt
      omega
    refine Nat.lt_of_lt_of_le (ih _) (Nat.le_trans (Nat.mul_le_mul_right _ hdigit) ?_)
    rw [List.length_cons, Nat.mul_assoc, Nat.mul_comm 256]
    exact Nat.le_refl _

/-- Four bytes are a number of 32 bits. -/
theorem ofBigEndian_lt_size {bytes : List UInt8} (h : bytes.length = 4) :
    Wire.ofBigEndian bytes < UInt32.size := by
  have hlt := foldl_digit_lt bytes 0
  rwa [h] at hlt

/-! ## Whole frames -/

/-- Whether an act, if it is a successful read, returned as many bytes as were asked for. -/
def Act.isExact : Act → Bool
  | .received _ count (.ok bytes) => bytes.length = count
  | _ => true

/-- A read returns as many bytes as were asked for, or fails. -/
def ReadsExactly (acts : List Act) : Prop :=
  ∀ act ∈ acts, act.isExact

instance (acts : List Act) : Decidable (ReadsExactly acts) :=
  inferInstanceAs (Decidable (∀ act ∈ acts, act.isExact))

/-- A response, if there is one, is the message of one whole frame: the four bytes that were read
before it are its length. -/
def Attempt.Whole (a : Attempt) : Prop :=
  ∀ frame length message, a.fate = .answered frame length message →
    length.length = 4 ∧ Wire.ofBigEndian length = message.length

/-- On a network that reads exactly, what was read is the length announced. -/
theorem Attempt.whole {a : Attempt} (hbounded : a.fate.Bounded) (hexact : ReadsExactly a.acts) :
    a.Whole := by
  intro frame length message hfate
  unfold Attempt.acts at hexact
  rw [hfate] at hbounded hexact
  have hlength : length.length = 4 := by
    have hread := hexact (.received a.connection.id 4 (.ok length)) (by simp [Fate.acts])
    exact of_decide_eq_true hread
  have hmessage : message.length = (announced length).toInt.toNat := by
    have hread := hexact (.received a.connection.id (announced length).toInt.toNat (.ok message))
      (by simp [Fate.acts])
    exact of_decide_eq_true hread
  refine ⟨hlength, ?_⟩
  -- Four bytes with a length that is not negative as an integer of 32 bits are that length.
  rw [hmessage, announced, toInt_ofNat_of_nonneg (ofBigEndian_lt_size hlength) hbounded.1]

/-- Every frame carries the correlation id of its request behind its length, API and version. -/
theorem Request.correlationId_of_frame {request : Request} {version : Int16}
    {correlationId : Int32} {clientId : String} {frame : List UInt8}
    (h : request.frame version correlationId clientId = .ok frame) :
    (frame.drop 8).take 4 = Wire.int32Bytes correlationId := by
  obtain ⟨length, rest, rfl⟩ := Request.exists_of_frame_eq_ok h
  rfl

/-! ## The invariant -/

namespace Journal

/-- The attempts of a client are told apart by their connections and correlation ids. -/
structure Correlated (config : ClientConfig) (j : Journal) : Prop where
  config_eq : j.client.config = config
  exchanges : j.acts.filter Act.isExchange = j.attempts.flatMap Attempt.acts
  next : j.client.nextCorrelation = UInt64.ofNat (j.attempts.length + 1)
  numbered : j.attempts.map Attempt.correlationId =
    (List.range' 1 j.attempts.length).map Int32.ofNat
  retired : j.client.retired =
    ((j.attempts.filter Attempt.retires).map (·.connection.id)).reverse
  frames : ∀ a ∈ j.attempts,
    a.request.frame a.version a.correlationId config.clientId = a.fate.frame ∧ a.fate.Bounded
  separate : (issued j.acts).Nodup →
    j.attempts.Pairwise fun a b => a.retires → b.connection.id ≠ a.connection.id

/-- The invariant depends on few fields of the client, and on the acts of requests. -/
theorem Correlated.mono {config : ClientConfig} {client client' : Client} {acts acts' : List Act}
    {attempts : List Attempt} (h : Correlated config ⟨client, acts, attempts⟩)
    (hgrows : acts <+: acts')
    (hacts : acts'.filter Act.isExchange = acts.filter Act.isExchange)
    (hconfig : client'.config = client.config)
    (hnext : client'.nextCorrelation = client.nextCorrelation)
    (hretired : client'.retired = client.retired) :
    Correlated config ⟨client', acts', attempts⟩ where
  config_eq := hconfig.trans h.config_eq
  exchanges := hacts.trans h.exchanges
  next := hnext.trans h.next
  numbered := h.numbered
  retired := hretired.trans h.retired
  frames := h.frames
  separate hnodup := h.separate (nodup_issued_mono hgrows hnodup)

/-- An act that exchanges no bytes at the end changes nothing. -/
theorem filter_isExchange_concat {act : Act} (h : act.isExchange = false) (acts : List Act) :
    (acts ++ [act]).filter Act.isExchange = acts.filter Act.isExchange := by
  rw [List.filter_append, List.filter_cons_of_neg (by rw [h]; nofun), List.filter_nil,
    List.append_nil]

/-- The next id is the number of requests so far and one more. -/
theorem Correlated.correlation_eq {config : ClientConfig} {j : Journal}
    (h : j.Correlated config) : j.client.correlation = Int32.ofNat (j.attempts.length + 1) := by
  rw [Client.correlation, h.next, ofNat_toNat_ofNat]

/-- A request keeps the journal correlated: it takes the next id on a connection still in use. -/
theorem Correlated.attempt {config : ClientConfig} {client : Client} {acts : List Act}
    {attempts : List Attempt} {a : Attempt} (h : Correlated config ⟨client, acts, attempts⟩)
    (husable : client.Usable acts a.connection) (hmakes : client.Makes a) :
    Correlated config ⟨client.after a, acts ++ a.acts, attempts ++ [a]⟩ where
  config_eq := h.config_eq
  exchanges := by
    rw [List.filter_append, Attempt.filter_isExchange_acts, h.exchanges, List.flatMap_append,
      List.flatMap_singleton]
  next := by
    rw [List.length_append, List.length_singleton, UInt64.ofNat_add _ 1]
    exact congrArg (· + 1) h.next
  numbered := by
    rw [List.map_append, h.numbered, List.length_append, List.length_singleton, List.range'_concat,
      List.map_append, List.map_singleton, List.map_singleton, hmakes.correlationId_eq,
      h.correlation_eq, Nat.one_mul, Nat.add_comm]
  retired := by
    show (if a.retires then a.connection.id :: client.retired else client.retired) = _
    rw [List.filter_append, List.map_append, List.reverse_append, h.retired]
    cases hretires : a.retires with
    | true => rw [List.filter_cons_of_pos hretires]; rfl
    | false => rw [List.filter_cons_of_neg (by rw [hretires]; nofun)]; rfl
  frames := by
    refine List.forall_mem_append.2 ⟨h.frames, List.forall_mem_singleton.2 ?_⟩
    have hframe := hmakes.frame_eq
    rw [h.config_eq] at hframe
    exact ⟨hframe, hmakes.bounded⟩
  separate hnodup := by
    have hbefore := nodup_issued_mono (List.prefix_append acts a.acts) hnodup
    refine List.pairwise_append.2 ⟨h.separate hbefore, List.pairwise_singleton _ _, ?_⟩
    intro b hb c hc hretires heq
    obtain rfl := List.mem_singleton.1 hc
    -- The connections of attempts that retire are those that the client has retired.
    have hmem : b.connection.id ∈ client.retired := by
      rw [h.retired, List.mem_reverse]
      exact List.mem_map_of_mem (List.mem_filter.2 ⟨hb, hretires⟩)
    have hfresh := husable.fresh hbefore
    rw [Client.isRetired, List.contains_eq_mem, decide_eq_false_iff_not, heq] at hfresh
    exact hfresh hmem

/-- One step keeps the journal correlated, case by case. -/
theorem Step.correlated {config : ClientConfig} {i j : Journal} (hstep : Step i j)
    (h : i.Correlated config) : j.Correlated config := by
  cases hstep with
  | idle hidle =>
    exact h.mono (List.prefix_append _ _)
      (filter_isExchange_concat (Act.isExchange_eq_false_of_isIdle hidle) _) rfl rfl rfl
  | rebootstrap _ _ =>
    exact h.mono (List.prefix_append _ _) (filter_isExchange_concat rfl _) rfl rfl rfl
  | link _ _ _ =>
    exact h.mono (List.prefix_append _ _) (filter_isExchange_concat rfl _) rfl rfl rfl
  | attempt husable hmakes => exact h.attempt husable hmakes
  | learn => exact h.mono List.prefix_rfl rfl rfl rfl rfl
  | adopt => exact h.mono List.prefix_rfl rfl rfl rfl rfl
  | close => exact h.mono List.prefix_rfl rfl rfl rfl rfl

/-- A client begins with a correlated journal. -/
theorem Begins.correlated {config : ClientConfig} {j : Journal} (h : Client.Begins config j) :
    j.Correlated config := by
  obtain ⟨connection, acts, hopens, rfl⟩ := h
  exact ⟨rfl, hopens.filter_isExchange, rfl, rfl, rfl, List.forall_mem_nil _, fun _ => .nil⟩

end Journal

/-! ## The requests of a life -/

/-- No response to an attempt is outstanding: it was never written, or its own response arrived in
full and did not belong to another request. -/
def Attempt.Settled (a : Attempt) : Prop :=
  (∃ fault, a.fate = .unwritable fault) ∨
    ∃ frame length message, a.fate = .answered frame length message ∧ a.isForeign message = false

/-- A request that does not retire its connection leaves no response outstanding. -/
theorem Attempt.settled_of_not_retires {a : Attempt} (h : ¬a.retires) : a.Settled := by
  rw [retires] at h
  rcases hfate : a.fate with fault | _ | _ | _ | _ | ⟨frame, length, message⟩
  case unwritable => exact .inl ⟨fault, hfate⟩
  case answered =>
    rw [hfate] at h
    exact .inr ⟨frame, length, message, hfate, Bool.eq_false_iff.2 h⟩
  all_goals
    rw [hfate] at h
    exact (h rfl).elim

/-- Attempts that account for all requests among the acts of a client. -/
structure Accounts (clientId : String) (acts : List Act) (attempts : List Attempt) : Prop where
  /-- Whatever is written or read is written or read for one attempt after the other. -/
  exchanges : acts.filter Act.isExchange = attempts.flatMap Attempt.acts
  /-- An attempt has the frame of its request, or none if the request has none. -/
  frame_eq : ∀ a ∈ attempts,
    a.fate.frame = a.request.frame a.version a.correlationId clientId
  /-- The frame carries the correlation id of the attempt. -/
  carried : ∀ a ∈ attempts, ∀ frame, a.fate.frame = .ok frame →
    (frame.drop 8).take 4 = Wire.int32Bytes a.correlationId
  /-- A response is the message of one whole frame. -/
  whole : ∀ a ∈ attempts, a.Whole
  /-- The correlation ids count the attempts from one. -/
  numbered : ∀ (k : Nat) (a : Attempt), attempts[k]? = some a →
    a.correlationId = Int32.ofNat (k + 1)
  /-- Attempts that are not too far apart have different correlation ids. -/
  distinct : ∀ (i j : Nat) (a b : Attempt), attempts[i]? = some a → attempts[j]? = some b →
    i < j → j < i + UInt32.size → a.correlationId ≠ b.correlationId
  /-- After an attempt that retires its connection there is no attempt over that connection. -/
  separate : ∀ (i j : Nat) (a b : Attempt), attempts[i]? = some a → attempts[j]? = some b →
    i < j → a.retires → b.connection.id ≠ a.connection.id
  /-- When an attempt begins, no response to an earlier one is outstanding on its connection. -/
  settled : ∀ (i j : Nat) (a b : Attempt), attempts[i]? = some a → attempts[j]? = some b →
    i < j → b.connection.id = a.connection.id → a.Settled

/-- Where nothing was written or read there was no attempt. -/
theorem Idle.accounts {acts : List Act} (h : Idle acts) (clientId : String) :
    Accounts clientId acts [] where
  exchanges := h.filter_isExchange
  frame_eq _ ha := (List.not_mem_nil ha).elim
  carried _ ha := (List.not_mem_nil ha).elim
  whole _ ha := (List.not_mem_nil ha).elim
  numbered _ _ ha := by cases List.getElem?_nil.symm.trans ha
  distinct _ _ _ _ ha := by cases List.getElem?_nil.symm.trans ha
  separate _ _ _ _ ha := by cases List.getElem?_nil.symm.trans ha
  settled _ _ _ _ ha := by cases List.getElem?_nil.symm.trans ha

namespace Journal

/-- Requests are numbered in their order, from one on. -/
theorem Correlated.correlationId_eq {config : ClientConfig} {j : Journal}
    (h : j.Correlated config) {k : Nat} {a : Attempt} (ha : j.attempts[k]? = some a) :
    a.correlationId = Int32.ofNat (k + 1) := by
  have hk := congrArg (fun ids : List Int32 => ids[k]?) h.numbered
  obtain ⟨hlt, -⟩ := List.getElem?_eq_some_iff.1 ha
  simp only [List.getElem?_map, ha, Option.map_some, List.getElem?_range' hlt] at hk
  rw [Option.some.inj hk, Nat.one_mul, Nat.add_comm]

/-- A connection that was retired is not written to again. -/
theorem Correlated.connection_ne {config : ClientConfig} {j : Journal}
    (h : j.Correlated config) (hissued : (issued j.acts).Nodup) {i k : Nat} {a b : Attempt}
    (ha : j.attempts[i]? = some a) (hb : j.attempts[k]? = some b) (hlt : i < k)
    (hretires : a.retires) : b.connection.id ≠ a.connection.id := by
  obtain ⟨hi, rfl⟩ := List.getElem?_eq_some_iff.1 ha
  obtain ⟨hk, rfl⟩ := List.getElem?_eq_some_iff.1 hb
  exact List.pairwise_iff_getElem.1 (h.separate hissued) i k hi hk hlt hretires

/-- What a correlated journal tells of the bytes exchanged. -/
theorem Correlated.accounts {config : ClientConfig} {j : Journal} (h : j.Correlated config)
    (hissued : (issued j.acts).Nodup) (hexact : ReadsExactly j.acts) :
    Accounts config.clientId j.acts j.attempts where
  exchanges := h.exchanges
  frame_eq a ha := (h.frames a ha).1.symm
  carried a ha frame hframe :=
    Request.correlationId_of_frame ((h.frames a ha).1.trans hframe)
  whole a ha := by
    refine a.whole (h.frames a ha).2 fun act hact => hexact act ?_
    have hmem : act ∈ j.attempts.flatMap Attempt.acts := List.mem_flatMap.2 ⟨a, ha, hact⟩
    rw [← h.exchanges] at hmem
    exact (List.mem_filter.1 hmem).1
  numbered k a ha := h.correlationId_eq ha
  distinct i j a b ha hb hlt hnear heq := by
    rw [h.correlationId_eq ha, h.correlationId_eq hb] at heq
    have hmod := mod_eq_of_ofNat_eq heq
    unfold UInt32.size at hmod hnear
    omega
  separate i j a b ha hb hlt hretires := h.connection_ne hissued ha hb hlt hretires
  settled i j a b ha hb hlt hconnection :=
    Attempt.settled_of_not_retires fun hretires =>
      h.connection_ne hissued ha hb hlt hretires hconnection

end Journal

/-- The first of the results for a partition of a topic says where a record was stored. -/
def ProduceResponse.Reports (response : ProduceResponse) (topic : String) (partition : Int32)
    (delivery : Delivery) : Prop :=
  ∃ before result after,
    (response.topics.filter (·.name = topic)).flatMap (·.partitions) =
        before ++ result :: after ∧
      (∀ r ∈ before, r.index ≠ partition) ∧ result.index = partition ∧ result.errorCode = 0 ∧
      delivery = ⟨partition, result.baseOffset⟩

/-- A delivery stands in the response. -/
theorem ProduceResponse.reports_of_delivery {response : ProduceResponse} {topic : String}
    {partition : Int32} {delivery : Delivery}
    (h : response.delivery topic partition = .ok delivery) :
    response.Reports topic partition delivery := by
  unfold ProduceResponse.delivery at h
  rcases hresult : response.result? topic partition with _ | result
  · rw [hresult] at h
    cases h
  rw [hresult] at h
  dsimp only at h
  by_cases hcode : result.errorCode ≠ 0
  · rw [if_pos hcode] at h
    cases h
  rw [if_neg hcode] at h
  obtain ⟨hindex, before, after, hresults, hbefore⟩ := List.find?_eq_some_iff_append.1 hresult
  obtain rfl := of_decide_eq_true hindex
  cases h
  refine ⟨before, result, after, hresults, fun r hr => ?_, rfl, Decidable.not_not.1 hcode, rfl⟩
  have := hbefore r hr
  simpa using this

/-- The requests in the life of a client, and the answers that are made of their responses. -/
theorem responses_correlate {N : Type} (net : Network N) (config : ClientConfig)
    (ops : List (Client.Operation N)) (n : N)
    (hissued : (issued (Client.recordedLifetime net config ops n).2.acts).Nodup)
    (hexact : ReadsExactly (Client.recordedLifetime net config ops n).2.acts) :
    let run := Client.recordedLifetime net config ops n
    (run.1, run.2.network) = Client.lifetime net config ops n ∧
    (∃ attempts, Accounts config.clientId run.2.acts attempts ∧
      ∀ client, run.1 = .ok client →
        client.retired = ((attempts.filter Attempt.retires).map (·.connection.id)).reverse ∧
        ∀ topic partition payload delivery s',
          outcome (Client.send net.recording topic partition payload) ⟨client, run.2⟩ =
            (.ok delivery, s') →
          ∃ a response,
            s'.network.acts.filter Act.isExchange = (attempts ++ [a]).flatMap Attempt.acts ∧
            a.correlationId = Int32.ofNat (attempts.length + 1) ∧
            (∃ timestamp timeoutMillis, a.request =
              .produce (.single topic partition payload timestamp timeoutMillis)) ∧
            a.Answers (ProduceResponse.read a.version) response ∧
            response.Reports topic partition delivery) ∧
    ∀ (α : Type) (connection : Connection) (request : Request) (version : Int16)
      (body : Wire.Reader α) (s s' : Session (Tape N)) (answer : α),
      outcome (Client.call net.recording connection request version body) s = (.ok answer, s') →
      ∃ a : Attempt, a.connection = connection ∧ a.request = request ∧ a.version = version ∧
        s.client.Makes a ∧ s'.network.acts = s.network.acts ++ a.acts ∧ a.Answers body answer ∧
        (ReadsExactly s'.network.acts → a.Whole) := by
  intro run
  refine ⟨Client.base_lifetime net config ops n, ?_, ?_⟩
  · rcases Client.exists_comes_of_recordedLifetime net config ops n with
      ⟨⟨fault, hfault⟩, hidle⟩ | ⟨client, attempts, hcomes, hclient⟩
    · refine ⟨[], hidle.accounts _, fun client hclient => ?_⟩
      cases hfault.symm.trans hclient
    · -- A client that connected has begun, and every step keeps its journal correlated.
      have hcorrelated : Journal.Correlated config ⟨client, run.2.acts, attempts⟩ :=
        hcomes.preserves Journal.Begins.correlated Journal.Step.correlated
      refine ⟨attempts, hcorrelated.accounts hissued hexact, ?_⟩
      intro client' hok
      obtain rfl := hclient client' hok
      refine ⟨hcorrelated.retired, ?_⟩
      intro topic partition payload delivery s' hsend
      -- One more send is more steps of the same kind, so that its request is numbered as the
      -- others.
      have hsent := Client.sent net topic partition payload ⟨client', run.2⟩
      rw [hsend] at hsent
      obtain ⟨new, hreaches, hasks, hanswered⟩ := hsent.exists_reaches hcomes.known.retired attempts
      obtain ⟨a, response, rfl, hanswers, hdelivery⟩ := hanswered delivery rfl
      have hcorrelated' := hreaches.preserves Journal.Step.correlated hcorrelated
      have hlast : (attempts ++ [a])[attempts.length]? = some a := List.getElem?_concat_length
      exact ⟨a, response, hcorrelated'.exchanges, hcorrelated'.correlationId_eq hlast,
        hasks a List.mem_cons_self, hanswers, ProduceResponse.reports_of_delivery hdelivery⟩
  · intro α connection request version body s s' answer hcall
    obtain ⟨a, hconnection, hrequest, hversion, hmakes, -, hacts, hanswer⟩ :=
      Client.calls_call net connection request version body s
    rw [hcall] at hacts hanswer
    refine ⟨a, hconnection, hrequest, hversion, hmakes, hacts, hanswer answer rfl, fun hexact => ?_⟩
    replace hacts : s'.network.acts = s.network.acts ++ a.acts := hacts
    rw [hacts] at hexact
    exact a.whole hmakes.bounded fun act hact => hexact act (List.mem_append_right _ hact)

/-! ## In a cluster -/

namespace Cluster

/-- A cluster of one broker that answers a record with silence, and the next one with an offset. -/
def hesitant : Cluster :=
  { init true [(.up, ⟨"b", 1⟩)] with
    replies := [
      ⟨.versions ⟨0, []⟩, 0, false⟩,
      ⟨.metadata ⟨[⟨1, "b", 1⟩], [⟨0, some "t", [⟨0, 0, 1⟩]⟩]⟩, 0, false⟩,
      ⟨.nothing, 0, false⟩,
      ⟨.produce ⟨[⟨"t", [⟨0, 0, 7⟩]⟩]⟩, 0, false⟩] }

end Cluster

/-- The record after the one that was met with silence goes over a new connection, with a
correlation id of its own. -/
theorem responses_correlate_after_silence :
    let config : ClientConfig := ⟨["b:1"], "c", .ofMillis 1000⟩
    let run := Client.recordedLifetime Cluster.network config
      [.refresh "t", .send "t" 0 [1], .send "t" 0 [2]] Cluster.hesitant
    (issued run.2.acts).Nodup ∧ ReadsExactly run.2.acts ∧ issued run.2.acts = [0, 1, 2] ∧
      run.1.toOption.map Client.retired = some [1] ∧
      ∃ attempts, Accounts "c" run.2.acts attempts ∧
        run.1.toOption.map Client.retired =
          some ((attempts.filter Attempt.retires).map (·.connection.id)).reverse := by
  intro config run
  have hissued : issued run.2.acts = [0, 1, 2] := by decide +kernel
  have hnodup : (issued run.2.acts).Nodup := by
    rw [hissued]
    decide
  have hexact : ReadsExactly run.2.acts := by decide +kernel
  obtain ⟨-, ⟨attempts, haccounts, hclient⟩, -⟩ :=
    responses_correlate Cluster.network config _ Cluster.hesitant hnodup hexact
  have hretired : run.1.toOption.map Client.retired = some [1] := by decide +kernel
  refine ⟨hnodup, hexact, hissued, hretired, attempts, haccounts, ?_⟩
  rcases hrun : run.1 with fault | client
  · rw [hrun] at hretired
    cases hretired
  · exact congrArg some (hclient client hrun).1

end KafkaCanary
