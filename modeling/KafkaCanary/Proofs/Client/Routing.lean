import KafkaCanary.Proofs.Client.Correlation
import KafkaCanary.Proofs.Client.Metadata

/-!
# Where records go

A record goes to the broker that the last refresh of its topic named as the leader of its partition,
at the address at which the last refresh of any topic listed that broker. A client that has a
connection to a leader does not look the address up. That it need not do so is an invariant: the
connection was opened to the address at which the broker is listed now (`Client.Located`).

## Main results

* `Journal.Step.located`: the invariant;
* `Client.Informed.operateAll`: what a client knows is what its refreshes have told it;
* `records_routed`: where the records go that a client sends, and who else writes frames.
-/

namespace KafkaCanary

/-! ## What refreshes say -/

/-- A refresh that has succeeded, and the response that it was given. -/
structure Refresh where
  topic : String
  response : MetadataResponse

namespace Refresh

/-- The leaders of the partitions of a topic, as the last refresh of the topic names them. Refreshes
are listed with the last one first. -/
def leadersOf? (refreshes : List Refresh) (topic : String) : Option LeaderTable := do
  let own ← refreshes.find? (·.topic = topic)
  let listing ← (own.response.listing topic).toOption
  return listing.leaderTable

/-- The address of a broker, as the last refresh lists it. -/
def addressOf? (refreshes : List Refresh) (nodeId : Int32) : Option String := do
  let last ← refreshes.head?
  last.response.brokerTable.get? nodeId

/-- The address that the records for a partition go to. -/
def route? (refreshes : List Refresh) (topic : String) (partition : Int32) : Option String := do
  let leaders ← leadersOf? refreshes topic
  let leader ← leaders.get? partition
  if 0 ≤ leader then addressOf? refreshes leader else none

end Refresh

namespace Client

variable {N : Type} (net : Network N)

/-- The refresh that an operation is, if it is one and succeeds. -/
def refreshBy? (s : Session (Tape N)) : Operation N → Option Refresh
  | .refresh topic => (heard net topic s).map (⟨topic, ·⟩)
  | .send _ _ _ | .close | .outside _ => none

/-- The refreshes among operations, with the last one first. -/
def refreshesFrom : List (Operation N) → Session (Tape N) → List Refresh
  | [], _ => []
  | op :: ops, s =>
    refreshesFrom ops (operate net.recording s op.recorded) ++ (refreshBy? net s op).toList

/-- The refreshes in the life of a client, with the last one first. -/
def refreshes (config : ClientConfig) (ops : List (Operation N)) (n : N) : List Refresh :=
  match connect net.recording config ⟨n, []⟩ with
  | (.error _, _) => []
  | (.ok client, t) => refreshesFrom net ops ⟨client, t⟩

/-! ## What a client knows -/

/-- What a client knows is what its refreshes have told it. -/
structure Informed (client : Client) (refreshes : List Refresh) : Prop where
  brokers : ∀ nodeId, client.brokers.get? nodeId = Refresh.addressOf? refreshes nodeId
  leaders : ∀ topic, client.leaders.get? topic = Refresh.leadersOf? refreshes topic

variable {s s' : Session (Tape N)}

/-- A client that keeps its directory stays informed. -/
theorem Informed.of_eq {client client' : Client} {refreshes : List Refresh}
    (h : client.Informed refreshes) (hbrokers : client'.brokers = client.brokers)
    (hleaders : client'.leaders = client.leaders) : client'.Informed refreshes := by
  obtain ⟨hbrokers', hleaders'⟩ := h
  rw [← hbrokers] at hbrokers'
  rw [← hleaders] at hleaders'
  exact ⟨hbrokers', hleaders'⟩

/-- A client that adopts a response knows what it says. -/
theorem Informed.adopt {client : Client} {refreshes : List Refresh} (h : client.Informed refreshes)
    {topic : String} {response : MetadataResponse} {listing : TopicListing}
    (hlisting : response.listing topic = .ok listing) :
    (client.adopt topic response.brokerTable listing.leaderTable).Informed
      (⟨topic, response⟩ :: refreshes) where
  brokers nodeId := rfl
  leaders other := by
    refine (Table.get?_insert client.leaders topic other listing.leaderTable).trans ?_
    unfold Refresh.leadersOf?
    by_cases hother : other = topic
    · subst hother
      rw [if_pos rfl, List.find?_cons, decide_eq_true rfl]
      show _ = (response.listing other).toOption.bind _
      rw [hlisting]
      rfl
    · rw [if_neg hother, List.find?_cons_of_neg fun h => hother (of_decide_eq_true h).symm]
      exact h.leaders other

/-- The route of a record is the listed address of its leader, if the client knows both. -/
theorem Informed.route?_eq {client : Client} {refreshes : List Refresh}
    (h : client.Informed refreshes) (topic : String) (partition : Int32) :
    Refresh.route? refreshes topic partition =
      (client.leaderOf topic partition).toOption.bind client.brokers.get? := by
  rw [Refresh.route?, leaderOf, h.leaders topic]
  rcases Refresh.leadersOf? refreshes topic with _ | leaders
  · rfl
  show (leaders.get? partition).bind _ = _
  dsimp only
  rcases leaders.get? partition with _ | leader
  · rfl
  show (if 0 ≤ leader then Refresh.addressOf? refreshes leader else none) = _
  by_cases hleader : 0 ≤ leader
  · rw [if_pos hleader, ← h.brokers leader]
    simp only [if_pos hleader]
    rfl
  · rw [if_neg hleader]
    simp only [if_neg hleader]
    rfl

/-- Linking to a leader leaves the directory as it is. -/
theorem Linked.directory_eq {nodeId : Int32} {result : Except ClientFault Connection}
    (h : Linked s nodeId (result, s')) :
    s'.client.brokers = s.client.brokers ∧ s'.client.leaders = s.client.leaders := by
  cases h <;> exact ⟨rfl, rfl⟩

/-- A send leaves the directory as it is. -/
theorem Sent.directory_eq {topic : String} {partition : Int32} {payload : List UInt8}
    {result : Except ClientFault Delivery} (h : Sent s topic partition payload (result, s')) :
    s'.client.brokers = s.client.brokers ∧ s'.client.leaders = s.client.leaders := by
  cases h with
  | unroutable _ => exact ⟨rfl, rfl⟩
  | unlinked _ hlinked | unbatched _ hlinked => exact hlinked.directory_eq
  | tried _ hlinked _ _ _ _ _ => exact hlinked.directory_eq

/-- A close leaves the directory as it is. -/
theorem ShutDown.directory_eq {result : Except ClientFault Unit} (h : ShutDown s (result, s')) :
    s'.client.brokers = s.client.brokers ∧ s'.client.leaders = s.client.leaders := by
  cases h <;> exact ⟨rfl, rfl⟩

/-- An operation tells the client what it hears, and makes it forget nothing else. -/
theorem Informed.operate {refreshes : List Refresh} (h : s.client.Informed refreshes)
    (op : Operation N) :
    (operate net.recording s op.recorded).client.Informed
      ((refreshBy? net s op).toList ++ refreshes) := by
  cases op with
  | refresh topic =>
    show (outcome (refresh net.recording topic) s).2.client.Informed
      (((heard net topic s).map _).toList ++ refreshes)
    -- A refresh that fails is not heard and changes nothing; one that succeeds is adopted.
    rcases hrefresh : outcome (refresh net.recording topic) s with ⟨fault | ⟨⟩, s'⟩
    · obtain ⟨hbrokers, hleaders, -⟩ :=
        knowledge_eq_iff.1 (knowledge_of_refresh_error net hrefresh)
      rw [heard, hrefresh]
      exact h.of_eq hbrokers hleaders
    · obtain ⟨response, listing, before, hheard, hlisting, hknowledge, hclient⟩ :=
        exists_adopt_of_refresh_ok net hrefresh
      obtain ⟨hbrokers, hleaders, -⟩ := knowledge_eq_iff.1 hknowledge
      rw [hheard]
      dsimp only
      rw [hclient]
      exact (h.of_eq hbrokers hleaders).adopt hlisting
  | send topic partition payload =>
    obtain ⟨hbrokers, hleaders⟩ := (sent net topic partition payload s).directory_eq
    exact h.of_eq hbrokers hleaders
  | close =>
    obtain ⟨hbrokers, hleaders⟩ := (shutDown net s).directory_eq
    exact h.of_eq hbrokers hleaders
  | outside change => exact h

/-- Operations tell the client what they hear. -/
theorem Informed.operateAll {refreshes : List Refresh} (h : s.client.Informed refreshes)
    (ops : List (Operation N)) :
    (operateAll net.recording (ops.map .recorded) s).client.Informed
      (refreshesFrom net ops s ++ refreshes) := by
  induction ops generalizing s refreshes with
  | nil => exact h
  | cons op ops ih =>
    rw [refreshesFrom, List.append_assoc]
    exact ih (h.operate net op)

/-- Asking for versions leaves what is known of the cluster as it is. -/
theorem Discovers.knowledge_eq {result : Except ClientFault Unit}
    (h : Discovers s (result, s')) : s'.client.knowledge = s.client.knowledge := by
  cases h with
  | unlinked _ _ hlinked => exact hlinked.knowledge_eq
  | failed _ _ hlinked _ _ _ => exact hlinked.knowledge_eq
  | learnt _ _ hlinked _ _ _ _ => exact hlinked.knowledge_eq

/-- A client that has only just connected knows nothing about the cluster. -/
theorem informed_of_connect {config : ClientConfig} {t t' : Tape N} {client : Client}
    (h : connect net.recording config t = (.ok client, t')) : client.Informed [] := by
  have hconnects := connects net config t
  rw [h] at hconnects
  cases hconnects with
  | @answered connection _ _ _ _ _ hdiscovers =>
    obtain ⟨hbrokers, hleaders, -⟩ := knowledge_eq_iff.1 hdiscovers.knowledge_eq
    have hinit : (Client.init config connection).Informed [] := ⟨fun _ => rfl, fun _ => rfl⟩
    exact hinit.of_eq hbrokers hleaders

/-- A client knows what the refreshes in its life have told it. -/
theorem informed_of_recordedLifetime {config : ClientConfig} {ops : List (Operation N)} {n : N}
    {client : Client} {t : Tape N} (h : recordedLifetime net config ops n = (.ok client, t)) :
    client.Informed (refreshes net config ops n) := by
  unfold recordedLifetime lifetime at h
  unfold refreshes
  rcases hconnect : connect net.recording config ⟨n, []⟩ with ⟨fault | client', t'⟩
  · rw [hconnect] at h
    cases h
  rw [hconnect] at h
  have hinformed := (informed_of_connect net hconnect).operateAll net (s := ⟨client', t'⟩) ops
  rw [List.append_nil] at hinformed
  cases h
  exact hinformed

/-! ## Where connections lead to -/

/-- Every connection to a leader was opened to the address at which the leader is listed now. -/
def Located (client : Client) : Prop :=
  ∀ nodeId connection, client.connections.get? nodeId = some connection →
    client.brokers.get? nodeId = some connection.address

end Client

/-- One step keeps every connection at the address its leader is listed at. -/
theorem Journal.Step.located {i j : Journal} (hstep : Step i j) (h : i.client.Located) :
    j.client.Located := by
  cases hstep with
  | idle _ => exact h
  | rebootstrap _ _ => exact h
  | @link client _ _ nodeId connection _ _ hbroker _ =>
    intro nodeId' connection' hconnection
    replace hconnection :=
      (Table.get?_insert client.connections nodeId nodeId' connection).symm.trans hconnection
    by_cases hnode : nodeId' = nodeId
    · rw [if_pos hnode] at hconnection
      cases hconnection
      rw [hnode]
      exact hbroker
    · rw [if_neg hnode] at hconnection
      exact h nodeId' connection' hconnection
  | attempt _ _ => exact h
  | learn => exact h
  | adopt =>
    -- What is kept has passed the test, wherever it was listed before.
    intro nodeId connection hconnection
    exact of_decide_eq_true (List.mem_filter.1 (Table.mem_of_get? hconnection)).2
  | close => exact nofun

/-- At every point of a life the connections are at the addresses their leaders are listed at. -/
theorem Client.Comes.located {config : ClientConfig} {j : Journal} (h : Client.Comes config j) :
    j.client.Located := by
  refine h.preserves (P := fun j => j.client.Located) ?_ Journal.Step.located
  rintro _ ⟨connection, acts, -, rfl⟩
  exact nofun

/-! ## What a sending does -/

/-- Connections are opened to one address only, and frames are written only over connections that
were opened to it. -/
structure Directed (address : String) (before acts : List Act) : Prop where
  opens : ∀ target id, .dialled target (.ok id) ∈ acts → Address.parse address = .ok target
  writes : ∀ id frame result, .wrote id frame result ∈ acts →
    ∃ target, Address.parse address = .ok target ∧ .dialled target (.ok id) ∈ before ++ acts
  /-- The connection was never one to another address, if the network gives no number twice. -/
  only : (issued (before ++ acts)).Nodup → ∀ id frame result target,
    .wrote id frame result ∈ acts → .dialled target (.ok id) ∈ before ++ acts →
    Address.parse address = .ok target

/-- Writes are directed if each goes to a connection opened at the address. -/
theorem Directed.of_writes {address : String} {before acts : List Act}
    (hopens : ∀ target id, .dialled target (.ok id) ∈ acts → Address.parse address = .ok target)
    (hwrites : ∀ id frame result, .wrote id frame result ∈ acts →
      ∃ target, Address.parse address = .ok target ∧ .dialled target (.ok id) ∈ before ++ acts) :
    Directed address before acts := by
  refine ⟨hopens, hwrites, fun hissued id frame result target hwrote hdialled => ?_⟩
  obtain ⟨target', htarget', hdialled'⟩ := hwrites id frame result hwrote
  rwa [eq_of_dialled hissued hdialled hdialled']

/-- What a request writes is its frame, to its connection. -/
theorem Attempt.of_wrote {a : Attempt} {id : Nat} {frame : List UInt8} {result : Except Mishap Unit}
    (h : .wrote id frame result ∈ a.acts) : id = a.connection.id ∧ a.fate.frame = .ok frame := by
  obtain ⟨request, version, correlationId, connection, fate⟩ := a
  cases fate <;> simp_all [Attempt.acts, Fate.acts, Fate.frame]

/-- A request that was answered was written. -/
theorem Attempt.exists_wrote_of_answers {α : Type} {a : Attempt} {body : Wire.Reader α} {answer : α}
    (h : a.Answers body answer) : ∃ frame, .wrote a.connection.id frame (.ok ()) ∈ a.acts := by
  obtain ⟨frame, length, message, -, -, hfate, -, -⟩ := h
  refine ⟨frame, ?_⟩
  rw [Attempt.acts, hfate]
  exact List.mem_cons_of_mem _ List.mem_cons_self

namespace Client

variable {N : Type} {s s' : Session (Tape N)}

/-- No connection is opened to a leader that is not listed. -/
theorem Linked.eq_of_unlisted {nodeId : Int32} {result : Except ClientFault Connection}
    (h : Linked s nodeId (result, s')) (hlocated : s.client.Located)
    (hnone : s.client.brokers.get? nodeId = none) : (∃ fault, result = .error fault) ∧ s' = s := by
  cases h with
  | closed _ => exact ⟨⟨_, rfl⟩, rfl⟩
  | held _ hconnection _ => cases hnone.symm.trans (hlocated _ _ hconnection)
  | unknown _ _ => exact ⟨⟨_, rfl⟩, rfl⟩
  | failed _ hbroker _ _ _ => cases hnone.symm.trans hbroker
  | opened _ hbroker _ _ _ => cases hnone.symm.trans hbroker

/-- A connection to a leader is one to the address at which the leader is listed. -/
theorem Linked.exists_acts {nodeId : Int32} {result : Except ClientFault Connection}
    {address : String} (h : Linked s nodeId (result, s')) (hlocated : s.client.Located)
    (haddress : s.client.brokers.get? nodeId = some address) :
    ∃ acts, s'.network.acts = s.network.acts ++ acts ∧ acts.filter Act.isExchange = [] ∧
      (∀ target id, .dialled target (.ok id) ∈ acts → Address.parse address = .ok target) ∧
      ∀ connection, result = .ok connection → connection.address = address := by
  cases h with
  | closed _ => exact ⟨[], (List.append_nil _).symm, rfl, nofun, nofun⟩
  | held _ hconnection _ =>
    refine ⟨[], (List.append_nil _).symm, rfl, nofun, ?_⟩
    rintro _ ⟨⟩
    exact Option.some.inj ((hlocated _ _ hconnection).symm.trans haddress)
  | unknown _ _ => exact ⟨[], (List.append_nil _).symm, rfl, nofun, nofun⟩
  | failed _ hbroker hacts hopens hdials =>
    obtain rfl := Option.some.inj (hbroker.symm.trans haddress)
    exact ⟨_, hacts, hopens.filter_isExchange, fun target id => hdials target (.ok id), nofun⟩
  | opened _ hbroker hacts hopens hdials =>
    obtain rfl := Option.some.inj (hbroker.symm.trans haddress)
    refine ⟨_, hacts, hopens.filter_isExchange, fun target id => hdials target (.ok id), ?_⟩
    rintro _ ⟨⟩
    rfl

/-- A record without a route is not sent. -/
theorem Sent.eq_of_unrouted {topic : String} {partition : Int32} {payload : List UInt8}
    {result : Except ClientFault Delivery} (h : Sent s topic partition payload (result, s'))
    (hlocated : s.client.Located)
    (hroute : (s.client.leaderOf topic partition).toOption.bind s.client.brokers.get? = none) :
    (∃ fault, result = .error fault) ∧ s' = s := by
  cases h with
  | unroutable _ => exact ⟨⟨_, rfl⟩, rfl⟩
  | unlinked hleader hlinked | unbatched hleader hlinked =>
    rw [hleader] at hroute
    exact ⟨⟨_, rfl⟩, (hlinked.eq_of_unlisted hlocated hroute).2⟩
  | tried hleader hlinked _ _ _ _ _ =>
    rw [hleader] at hroute
    obtain ⟨⟨_, hfault⟩, -⟩ := hlinked.eq_of_unlisted hlocated hroute
    cases hfault

/-- A record with a route is sent nowhere else, and is sent there if it is stored. -/
theorem Sent.directed {topic : String} {partition : Int32} {payload : List UInt8}
    {result : Except ClientFault Delivery} (h : Sent s topic partition payload (result, s'))
    (hlocated : s.client.Located) {attempts : List Attempt} (hknown : (s.journal attempts).Known)
    {address : String}
    (hroute : (s.client.leaderOf topic partition).toOption.bind s.client.brokers.get? =
      some address) :
    ∃ acts, s'.network.acts = s.network.acts ++ acts ∧ Directed address s.network.acts acts ∧
      ∀ delivery, result = .ok delivery → ∃ id frame, .wrote id frame (.ok ()) ∈ acts := by
  cases h with
  | unroutable hfault =>
    rw [hfault] at hroute
    cases hroute
  | unlinked hleader hlinked | unbatched hleader hlinked =>
    rw [hleader] at hroute
    obtain ⟨acts, hacts, hexchanges, hopens, -⟩ := hlinked.exists_acts hlocated hroute
    refine ⟨acts, hacts, .of_writes hopens fun id frame result hwrote => ?_, nofun⟩
    exact absurd rfl (List.filter_eq_nil_iff.1 hexchanges _ hwrote)
  | @tried _ linked idle a _ _ t hleader hlinked hidle _ _ hacts hdelivery =>
    rw [hleader] at hroute
    obtain ⟨acts, hlinkedActs, hexchanges, hopens, hconnection⟩ :=
      hlinked.exists_acts hlocated hroute
    -- Whether the client had the connection or has just opened it, it was opened at its address.
    obtain ⟨target, htarget, hdialled⟩ :=
      ((hlinked.reaches attempts).preserves Journal.Step.known hknown).holds
        (hlinked.usable hknown.retired).held
    rw [hconnection _ rfl] at htarget
    replace hacts : t.acts = s.network.acts ++ (acts ++ (idle ++ a.acts)) := by
      rw [hacts, hlinkedActs, List.append_assoc, List.append_assoc]
    -- Only the attempt writes, and only over its connection.
    have hexchange : (acts ++ (idle ++ a.acts)).filter Act.isExchange = a.acts := by
      rw [List.filter_append, List.filter_append, hexchanges, hidle.filter_isExchange,
        a.filter_isExchange_acts]
      rfl
    refine ⟨_, hacts, .of_writes (fun target id hmem => ?_) (fun id frame result hwrote => ?_),
      fun delivery hresult => ?_⟩
    · rcases List.mem_append.1 hmem with hmem | hmem
      · exact hopens target id hmem
      rcases List.mem_append.1 hmem with hmem | hmem
      · cases hidle _ hmem
      · cases List.filter_eq_self.1 a.filter_isExchange_acts _ hmem
    · have hmem : .wrote id frame result ∈ List.filter Act.isExchange _ :=
        List.mem_filter.2 ⟨hwrote, rfl⟩
      rw [hexchange] at hmem
      obtain ⟨rfl, -⟩ := Attempt.of_wrote hmem
      refine ⟨target, htarget, ?_⟩
      rw [← List.append_assoc, ← hlinkedActs]
      exact List.mem_append_left _ hdialled
    · obtain ⟨response, hanswers, -⟩ := hdelivery delivery hresult
      obtain ⟨frame, hwrote⟩ := Attempt.exists_wrote_of_answers hanswers
      exact ⟨_, frame, List.mem_append_right _ (List.mem_append_right _ hwrote)⟩

/-! ## Who writes frames -/

/-- The frame of a request, in some version and with some correlation id. -/
def Frames (config : ClientConfig) (request : Request) (frame : List UInt8) : Prop :=
  ∃ version correlationId, request.frame version correlationId config.clientId = .ok frame

/-- Frames are written only in attempts. -/
theorem exists_attempt_of_wrote {config : ClientConfig} {j : Journal} (h : j.Correlated config)
    {acts : List Act} {new : List Attempt} (hnew : ∀ a ∈ new, a ∈ j.attempts)
    (hexchanges : acts.filter Act.isExchange = new.flatMap Attempt.acts) {id : Nat}
    {frame : List UInt8} {result : Except Mishap Unit} (hwrote : .wrote id frame result ∈ acts) :
    ∃ a ∈ new, Frames config a.request frame := by
  have hmem : .wrote id frame result ∈ acts.filter Act.isExchange :=
    List.mem_filter.2 ⟨hwrote, rfl⟩
  rw [hexchanges] at hmem
  obtain ⟨a, ha, hmem⟩ := List.mem_flatMap.1 hmem
  obtain ⟨-, hframe⟩ := Attempt.of_wrote hmem
  exact ⟨a, ha, a.version, a.correlationId, (h.frames a (hnew a ha)).1.trans hframe⟩

variable (net : Network N)

/-- An operation writes only frames of the requests that it is made of. -/
theorem Comes.exists_acts_of_operate {config : ClientConfig} {attempts : List Attempt}
    (h : Comes config (s.journal attempts)) (op : Operation N) :
    ∃ acts, (operate net.recording s op.recorded).network.acts = s.network.acts ++ acts ∧
      ∀ id frame result, .wrote id frame result ∈ acts →
        ∃ request, op.Asks request ∧ Frames config request frame := by
  obtain ⟨new, hreaches, hasks⟩ := exists_reaches_of_operate net op s h.known.retired attempts
  obtain ⟨acts, hacts⟩ := hreaches.acts_grow
  refine ⟨acts, hacts.symm, fun id frame result hwrote => ?_⟩
  -- The attempts account for all that is written before the operation, and for all with it.
  have hcorrelated := h.preserves Journal.Begins.correlated Journal.Step.correlated
  have hcorrelated' := hreaches.preserves Journal.Step.correlated hcorrelated
  have hexchanges : acts.filter Act.isExchange = new.flatMap Attempt.acts := by
    have hall := hcorrelated'.exchanges
    rw [← hacts, List.filter_append, hcorrelated.exchanges] at hall
    exact List.append_cancel_left (hall.trans List.flatMap_append)
  obtain ⟨a, ha, hframe⟩ := exists_attempt_of_wrote hcorrelated'
    (fun a ha => List.mem_append_right _ ha) hexchanges hwrote
  exact ⟨a.request, hasks a ha, hframe⟩

/-- Connecting writes only frames of the first question. -/
theorem frames_of_connect {config : ClientConfig} {n : N} {id : Nat} {frame : List UInt8}
    {result : Except Mishap Unit}
    (h : .wrote id frame result ∈ (connect net.recording config ⟨n, []⟩).2.acts) :
    Frames config (.versions ⟨"", ""⟩) frame := by
  rcases exists_comes_of_connect net config n with ⟨-, hidle⟩ | ⟨client, attempts, hcomes, hasks, -⟩
  · cases hidle _ h
  · have hcorrelated := hcomes.preserves Journal.Begins.correlated Journal.Step.correlated
    obtain ⟨a, ha, hframe⟩ :=
      exists_attempt_of_wrote hcorrelated (fun _ ha => ha) hcorrelated.exchanges h
    rwa [hasks a ha] at hframe

end Client

/-- Where the records go that a client sends at any point of its life. Each of its connections to
leaders is one to the address at which the leader is listed. A record is sent only to the address
that the refreshes so far give its partition, and it is sent there if it is stored. If they give
none, then nothing is done at all. The frames of records are written only when records are sent. -/
theorem records_routed {N : Type} (net : Network N) (config : ClientConfig)
    (ops : List (Client.Operation N)) (n : N) (client : Client) (t : Tape N)
    (hlife : Client.recordedLifetime net config ops n = (.ok client, t)) :
    Client.lifetime net config ops n = (.ok client, t.network) ∧
    (∀ nodeId connection, client.connections.get? nodeId = some connection →
      client.brokers.get? nodeId = some connection.address) ∧
    (∀ topic partition payload,
      match Refresh.route? (Client.refreshes net config ops n) topic partition,
        outcome (Client.send net.recording topic partition payload) ⟨client, t⟩ with
      | none, (result, s') => (∃ fault, result = .error fault) ∧ s' = ⟨client, t⟩
      | some address, (result, s') =>
        ∃ acts, s'.network.acts = t.acts ++ acts ∧ Directed address t.acts acts ∧
          ∀ delivery, result = .ok delivery → ∃ id frame, .wrote id frame (.ok ()) ∈ acts) ∧
    (∀ op : Client.Operation N, ∃ acts,
      (Client.operate net.recording ⟨client, t⟩ op.recorded).network.acts = t.acts ++ acts ∧
      ∀ id frame result, .wrote id frame result ∈ acts →
        ∃ request, op.Asks request ∧ Client.Frames config request frame) ∧
    ∀ id frame result,
      .wrote id frame result ∈ (Client.connect net.recording config ⟨n, []⟩).2.acts →
        Client.Frames config (.versions ⟨"", ""⟩) frame := by
  have hbase := Client.base_lifetime net config ops n
  rw [hlife] at hbase
  obtain ⟨attempts, hcomes⟩ := Client.comes_of_recordedLifetime net hlife
  have hcomes : Client.Comes config (Session.journal ⟨client, t⟩ attempts) := hcomes
  refine ⟨hbase.symm, hcomes.located, fun topic partition payload => ?_,
    hcomes.exists_acts_of_operate net, fun _ _ _ => Client.frames_of_connect net⟩
  -- A send goes where the client's directory says, and that is what its last refresh said.
  have hsent := Client.sent net topic partition payload ⟨client, t⟩
  have hinformed := (Client.informed_of_recordedLifetime net hlife).route?_eq topic partition
  rcases hroute : Refresh.route? (Client.refreshes net config ops n) topic partition
    with _ | address
  · exact hsent.eq_of_unrouted hcomes.located (hinformed.symm.trans hroute)
  · exact hsent.directed hcomes.located hcomes.known (hinformed.symm.trans hroute)

/-- A record that is sent after its broker has moved goes to where the broker is now, and one for a
topic that was never refreshed goes nowhere. -/
theorem records_routed_after_move :
    let config : ClientConfig := ⟨["b:1"], "c", .ofMillis 1000⟩
    let ops := [.refresh "t", .send "t" 0 [1], .refresh "t"]
    let refreshes := Client.refreshes Cluster.network config ops Cluster.moving
    ∃ client t,
      Client.recordedLifetime Cluster.network config ops Cluster.moving = (.ok client, t) ∧
      Refresh.route? refreshes "t" 0 = some "b:2" ∧ Refresh.route? refreshes "u" 0 = none ∧
      (∃ result s', outcome (Client.send Cluster.network.recording "t" 0 [2]) ⟨client, t⟩ =
          (result, s') ∧
        s'.network.network.receipts.map Receipt.broker = [0, 0, 0, 0, 1] ∧
        ∃ acts, s'.network.acts = t.acts ++ acts ∧ Directed "b:2" t.acts acts) ∧
      (outcome (Client.send Cluster.network.recording "u" 0 [2]) ⟨client, t⟩).2 = ⟨client, t⟩ := by
  intro config ops refreshes
  have hroute : Refresh.route? refreshes "t" 0 = some "b:2" := by decide +kernel
  have hunrouted : Refresh.route? refreshes "u" 0 = none := by decide +kernel
  let life := Client.recordedLifetime Cluster.network config ops Cluster.moving
  have hreceived : life.1.toOption.any (fun client =>
      (outcome (Client.send Cluster.network.recording "t" 0 [2])
        ⟨client, life.2⟩).2.network.network.receipts.map Receipt.broker = [0, 0, 0, 0, 1]) := by
    decide +kernel
  rcases hlife : life with ⟨fault | client, t⟩
  · rw [hlife] at hreceived
    cases hreceived
  rw [hlife] at hreceived
  replace hreceived := of_decide_eq_true hreceived
  obtain ⟨-, -, hsend, -, -⟩ :=
    records_routed Cluster.network config ops Cluster.moving client t hlife
  have hmoved := hsend "t" 0 [2]
  have hnever := hsend "u" 0 [2]
  rw [hroute] at hmoved
  rw [hunrouted] at hnever
  rcases hsent : outcome (Client.send Cluster.network.recording "t" 0 [2]) ⟨client, t⟩
    with ⟨result, s'⟩
  rw [hsent] at hmoved hreceived
  obtain ⟨acts, hacts, hdirected, -⟩ := hmoved
  refine ⟨client, t, hlife, hroute, hunrouted, ?_, hnever.2⟩
  exact ⟨result, s', hsent, hreceived, acts, hacts, hdirected⟩

end KafkaCanary
