import KafkaCanary.Proofs.Client.Routing
import KafkaCanary.Proofs.Protocol.Frames

/-!
# Timeouts on the wire

A client tells the brokers how long they may take with a record. It tells all of them the same, the
limit that it was configured with, in every frame that it writes in its life.

## Main results

* `Client.Sent.exists_acts`: what is written for a record;
* `Client.Comes.tells_of_operate`: one operation tells nothing but the limit;
* `Client.tells_of_recordedLifetime`: nor does the life of a client;
* `Client.timeoutMillis_of_recordedLifetime`: brokers find nothing else.
-/

namespace KafkaCanary

/-- Whether a request tells a broker this timeout, unless it tells none. -/
def Request.Tells (timeoutMillis : Int32) : Request → Prop
  | .produce r => r.timeoutMillis = timeoutMillis
  | .metadata _ | .versions _ => True

/-- A broker finds the timeout that a request tells. -/
theorem Request.Tells.visible {timeoutMillis : Int32} {request : Request}
    (h : request.Tells timeoutMillis) (version : Int16) :
    (request.visible version).Tells timeoutMillis := by
  cases request with
  | produce r => exact h
  | metadata _ | versions _ => trivial

/-- What a broker reads from the frame of a request tells the same timeout. -/
theorem Request.Tells.of_ofFrame? {timeoutMillis : Int32} {request request' : Request}
    (h : request.Tells timeoutMillis) {version : Int16} {correlationId : Int32} {clientId : String}
    {frame : List UInt8} {header : RequestHeader}
    (hframe : request.frame version correlationId clientId = .ok frame)
    (hlength : (frame.drop 4).length ≤ 2147483647)
    (hread : Request.ofFrame? frame = some (header, request')) : request'.Tells timeoutMillis := by
  have hfound := (Request.ofFrame?_frame hframe hlength).2
  rw [hread] at hfound
  cases hfound
  exact h.visible version

namespace Client

/-- Every frame written is one of a request that tells the configured limit. -/
def Tells (config : ClientConfig) (acts : List Act) : Prop :=
  ∀ id frame result, .wrote id frame result ∈ acts →
    ∃ request, Frames config request frame ∧ request.Tells config.limit.millis32

variable {N : Type} {s s' : Session (Tape N)} {config : ClientConfig}

theorem Tells.append {acts acts' : List Act} (h : Tells config acts) (h' : Tells config acts') :
    Tells config (acts ++ acts') := fun id frame result hmem =>
  (List.mem_append.1 hmem).elim (h id frame result) (h' id frame result)

/-- Acts that belong to no request write no frame. -/
theorem tells_of_filter_isExchange {acts : List Act} (h : acts.filter Act.isExchange = []) :
    Tells config acts := fun _ _ _ hmem =>
  absurd rfl (List.filter_eq_nil_iff.1 h _ hmem)

/-- While a connection to a leader is got, no frame is written. -/
theorem Linked.exists_filter_isExchange {nodeId : Int32} {result : Except ClientFault Connection}
    (h : Linked s nodeId (result, s')) :
    s'.client.config = s.client.config ∧ ∃ acts, s'.network.acts = s.network.acts ++ acts ∧
      acts.filter Act.isExchange = [] := by
  cases h with
  | closed _ | held _ _ _ | unknown _ _ => exact ⟨rfl, [], by simp, rfl⟩
  | failed _ _ hacts hopens _ | opened _ _ hacts hopens _ =>
    exact ⟨rfl, _, hacts, hopens.filter_isExchange⟩

/-- For a record, one frame is written at most, and it tells the limit. -/
theorem Sent.exists_acts {topic : String} {partition : Int32} {payload : List UInt8}
    {run : Except ClientFault Delivery × Session (Tape N)}
    (h : Sent s topic partition payload run) :
    ∃ acts, run.2.network.acts = s.network.acts ++ acts ∧ Tells s.client.config acts := by
  cases h with
  | unroutable _ => exact ⟨[], by simp, tells_of_filter_isExchange rfl⟩
  | unlinked _ hlinked | unbatched _ hlinked =>
    obtain ⟨-, acts, hacts, hfilter⟩ := hlinked.exists_filter_isExchange
    exact ⟨acts, hacts, tells_of_filter_isExchange hfilter⟩
  | @tried _ linked idle a timestamp _ t _ hlinked hidle hmakes hrequest hacts _ =>
    obtain ⟨hconfig, acts, hlinkedActs, hfilter⟩ := hlinked.exists_filter_isExchange
    -- A frame is written for the record only, and connecting writes none.
    have hattempt : Tells s.client.config a.acts := by
      intro id frame result hwrote
      obtain ⟨-, hframe⟩ := Attempt.of_wrote hwrote
      refine ⟨a.request, ⟨a.version, a.correlationId, ?_⟩, by rw [hrequest]; rfl⟩
      rw [← hconfig, hmakes.frame_eq, hframe]
    refine ⟨acts ++ idle ++ a.acts, ?_, ?_⟩
    · rw [hacts, hlinkedActs]
      simp
    · exact ((tells_of_filter_isExchange hfilter).append
        (tells_of_filter_isExchange hidle.filter_isExchange)).append hattempt

variable (net : Network N)

/-- An operation of a client tells the limit, and nothing else. -/
theorem Comes.tells_of_operate {attempts : List Attempt} (h : Comes config (s.journal attempts))
    (op : Operation N) (htells : Tells config s.network.acts) :
    Tells config (operate net.recording s op.recorded).network.acts := by
  obtain ⟨acts, hacts, hwrites⟩ := h.exists_acts_of_operate net op
  cases op with
  | send topic partition payload =>
    have hconfig : s.client.config = config :=
      (h.preserves Journal.Begins.correlated Journal.Step.correlated).config_eq
    obtain ⟨acts, hacts, hsent⟩ := (sent net topic partition payload s).exists_acts
    rw [hconfig] at hsent
    show Tells config (outcome _ s).2.network.acts
    rw [hacts]
    exact htells.append hsent
  | refresh _ | close | outside _ =>
    -- The requests of the other operations tell no timeout.
    rw [hacts]
    refine htells.append fun id frame result hwrote => ?_
    obtain ⟨request, hasks, hframe⟩ := hwrites id frame result hwrote
    refine ⟨request, hframe, ?_⟩
    first
      | exact hasks.elim
      | exact hasks ▸ trivial

theorem Comes.tells_of_operateAll {attempts : List Attempt} (h : Comes config (s.journal attempts))
    (ops : List (Operation N)) (htells : Tells config s.network.acts) :
    Tells config (operateAll net.recording (ops.map .recorded) s).network.acts := by
  induction ops generalizing s attempts with
  | nil => exact htells
  | cons op ops ih =>
    obtain ⟨attempts', hcomes⟩ := h.exists_of_operateAll net [op]
    exact ih hcomes (h.tells_of_operate net op htells)

/-- In its whole life, a client tells the limit that it was configured with. -/
theorem tells_of_recordedLifetime (config : ClientConfig) (ops : List (Operation N)) (n : N) :
    Tells config (recordedLifetime net config ops n).2.acts := by
  have hconnect : Tells config (connect net.recording config ⟨n, []⟩).2.acts :=
    fun id frame result hwrote => ⟨_, frames_of_connect net hwrote, trivial⟩
  have hcomes := exists_comes_of_connect net config n
  unfold recordedLifetime lifetime
  revert hconnect hcomes
  rcases connect net.recording config ⟨n, []⟩ with ⟨fault | client, t⟩
  · -- Without a connection there is no client, and nothing more is written.
    exact fun hconnect _ => hconnect
  · rintro hconnect (⟨⟨fault, hfault⟩, -⟩ | ⟨client', attempts, hcomes, -, hclient⟩)
    · cases hfault
    · obtain rfl := hclient client rfl
      exact Comes.tells_of_operateAll net (s := ⟨client, t⟩) hcomes ops hconnect

/-- A broker that reads a record from what a client has written finds the limit with it. -/
theorem timeoutMillis_of_recordedLifetime (config : ClientConfig) (ops : List (Operation N)) (n : N)
    {id : Nat} {frame : List UInt8} {result : Except Mishap Unit}
    (hwrote : .wrote id frame result ∈ (recordedLifetime net config ops n).2.acts)
    (hlength : (frame.drop 4).length ≤ 2147483647) {header : RequestHeader} {r : ProduceRequest}
    (hread : Request.ofFrame? frame = some (header, .produce r)) :
    r.timeoutMillis = config.limit.millis32 := by
  obtain ⟨request, ⟨version, correlationId, hframe⟩, htells⟩ :=
    tells_of_recordedLifetime net config ops n id frame result hwrote
  exact htells.of_ofFrame? hframe hlength hread

end Client

end KafkaCanary
