import KafkaCanary.Proofs.Client.Journal
import KafkaCanary.Rehearsal.Cluster

/-!
# What a refresh changes

A refresh that fails changes nothing about what a client knows of its cluster, wherever it fails.
One that succeeds takes over what the response says, all at once: the addresses of all brokers, the
leaders of the topic, and of the connections to leaders those whose broker has not moved.

## Main results

* `Client.knowledge_of_refresh_error`: a failed refresh changes nothing;
* `Client.exists_adopt_of_refresh_ok`: a refresh that succeeds adopts the response it was given;
* `refresh_all_or_nothing`: both, field by field, for every client that there can be.
-/

namespace KafkaCanary

/-! ## What was heard -/

/-- The bytes that an act received, if it received any. -/
def Act.received? : Act → Option (List UInt8)
  | .received _ _ (.ok bytes) => some bytes
  | _ => none

/-- What was received last. -/
def lastReceived? (acts : List Act) : Option (List UInt8) :=
  acts.reverse.findSome? Act.received?

theorem lastReceived?_append_idle {idle : List Act} (h : Idle idle) (acts : List Act) :
    lastReceived? (acts ++ idle) = lastReceived? acts := by
  have hnone : idle.reverse.findSome? Act.received? = none := by
    refine List.findSome?_eq_none_iff.2 fun act hact => ?_
    have hidle := h act (List.mem_reverse.1 hact)
    cases act with
    | received id count result => cases hidle
    | reported event => rfl
    | dialled target result => rfl
    | wrote id bytes result => rfl
    | shut id result => rfl
  rw [lastReceived?, List.reverse_append, List.findSome?_append, hnone]
  rfl

theorem lastReceived?_append_acts {a : Attempt} {frame length message : List UInt8}
    (h : a.fate = .answered frame length message) (acts : List Act) :
    lastReceived? (acts ++ a.acts) = some message := by
  rw [lastReceived?, List.reverse_append, List.findSome?_append, Attempt.acts, h]
  rfl

/-- The metadata in the message of a response of some version. -/
def MetadataResponse.ofMessage? (version : Int16) (message : List UInt8) :
    Option MetadataResponse := do
  let (_, rest) ← ((readResponseHeader .metadata version).run message).toOption
  let (response, _) ← ((MetadataResponse.read version).run rest).toOption
  return response

theorem MetadataResponse.ofMessage?_eq_some {version : Int16} {correlationId : Int32}
    {message rest rest' : List UInt8} {response : MetadataResponse}
    (hheader : (readResponseHeader .metadata version).run message = .ok (correlationId, rest))
    (hbody : (MetadataResponse.read version).run rest = .ok (response, rest')) :
    ofMessage? version message = some response := by
  rw [ofMessage?, hheader]
  show (((MetadataResponse.read version).run rest).toOption.bind fun p => some p.1) = _
  rw [hbody]
  rfl

namespace Client

variable {N : Type} (net : Network N)

/-- The response that a refresh of a topic is given, if the refresh succeeds: what it receives last,
read in the version that it asks for. -/
def heard (topic : String) (s : Session (Tape N)) : Option MetadataResponse :=
  match outcome (refresh net.recording topic) s with
  | (.error _, _) => none
  | (.ok (), s') =>
    (lastReceived? s'.network.acts).bind
      (MetadataResponse.ofMessage? (s.client.chooseVersion .metadata 1).1)

/-! ## What is known -/

/-- What a client knows about its cluster, and the connections that rest on that. -/
def knowledge (client : Client) :
    BrokerTable × Table String LeaderTable × Table Int32 Connection :=
  (client.brokers, client.leaders, client.connections)

variable {s s' : Session (Tape N)} {topic : String}

theorem knowledge_eq_iff {client client' : Client} :
    client.knowledge = client'.knowledge ↔ client.brokers = client'.brokers ∧
      client.leaders = client'.leaders ∧ client.connections = client'.connections := by
  simp only [knowledge, Prod.mk.injEq]

theorem Bootstrapped.knowledge_eq {result : Except ClientFault Connection}
    (h : Bootstrapped s (result, s')) : s'.client.knowledge = s.client.knowledge := by
  cases h <;> rfl

/-- A refresh that fails changes nothing about what is known. -/
theorem knowledge_of_refresh_error {fault : ClientFault}
    (h : outcome (refresh net.recording topic) s = (.error fault, s')) :
    s'.client.knowledge = s.client.knowledge := by
  have hrefreshed := refreshed net topic s
  rw [h] at hrefreshed
  cases hrefreshed with
  | unlinked _ _ hlinked => exact hlinked.knowledge_eq
  | failed _ _ hlinked _ _ _ => exact hlinked.knowledge_eq

/-- A refresh that succeeds has made an attempt, and adopts what answers it. -/
theorem exists_answers_of_refresh_ok
    (h : outcome (refresh net.recording topic) s = (.ok (), s')) :
    ∃ (a : Attempt) (before after : List Act) (response : MetadataResponse)
      (listing : TopicListing) (client : Client),
      s'.network.acts = before ++ a.acts ++ after ∧ a.fate.Bounded ∧
      a.Answers (MetadataResponse.read a.version) response ∧ heard net topic s = some response ∧
      response.listing topic = .ok listing ∧ client.knowledge = s.client.knowledge ∧
      s'.client = client.adopt topic response.brokerTable listing.leaderTable := by
  have hrefreshed := refreshed net topic s
  rw [h] at hrefreshed
  cases hrefreshed with
  | @adopted _ _ _ t linked a response listing _ _ hlinked hmakes hrequest hversion hacts hidle
      hanswers hlisting =>
    refine ⟨a, _, _, response, listing, linked.client.after a, hacts, hmakes.bounded, hanswers, ?_,
      hlisting, hlinked.knowledge_eq, rfl⟩
    obtain ⟨frame, length, message, rest, rest', hfate, hheader, hbody⟩ := hanswers
    -- Nothing is received any more once the response has been.
    have hmessage : lastReceived? t.acts = some message := by
      rw [hacts, lastReceived?_append_idle hidle, lastReceived?_append_acts hfate]
    rw [Attempt.header, hrequest, hversion] at hheader
    rw [hversion] at hbody
    rw [heard, h]
    show (lastReceived? t.acts).bind _ = some response
    rw [hmessage]
    exact MetadataResponse.ofMessage?_eq_some hheader hbody

/-- A refresh that succeeds adopts the response that it was given. -/
theorem exists_adopt_of_refresh_ok
    (h : outcome (refresh net.recording topic) s = (.ok (), s')) :
    ∃ (response : MetadataResponse) (listing : TopicListing) (client : Client),
      heard net topic s = some response ∧
      response.listing topic = .ok listing ∧ client.knowledge = s.client.knowledge ∧
      s'.client = client.adopt topic response.brokerTable listing.leaderTable := by
  obtain ⟨_, _, _, response, listing, client, -, -, -, hadopted⟩ :=
    exists_answers_of_refresh_ok net h
  exact ⟨response, listing, client, hadopted⟩

end Client

/-! ## Sorted connections -/

theorem Journal.Step.sorted {i j : Journal} (hstep : Step i j)
    (h : i.client.connections.Sorted) : j.client.connections.Sorted := by
  cases hstep with
  | idle _ => exact h
  | rebootstrap _ _ => exact h
  | link _ _ _ => exact h.insert _ _
  | attempt _ _ => exact h
  | learn => exact h
  | adopt => exact h.filter _
  | close => exact .empty

theorem Client.Comes.sorted {config : ClientConfig} {j : Journal} (h : Client.Comes config j) :
    j.client.connections.Sorted := by
  refine h.preserves (P := fun j => j.client.connections.Sorted) ?_ Journal.Step.sorted
  rintro _ ⟨connection, acts, -, rfl⟩
  exact .empty

/-- The leader connections that a refresh keeps are those of brokers that are listed where they
were. -/
theorem Client.get?_connections_adopt {client : Client} (h : client.connections.Sorted)
    (topic : String) (brokers : BrokerTable) (partitions : LeaderTable) (nodeId : Int32)
    (connection : Connection) :
    (client.adopt topic brokers partitions).connections.get? nodeId = some connection ↔
      client.connections.get? nodeId = some connection ∧
        brokers.get? nodeId = some connection.address := by
  refine (h.get?_filter_eq_some_iff _).trans (and_congr_right fun _ => ?_)
  exact decide_eq_true_iff

/-- What every refresh of every client does. If it fails, the addresses of the brokers, the leaders
of all topics and the connections to leaders are as before. If it succeeds, the addresses are those
in the response that it was given, so are the leaders of the topic, those of the other topics are as
before, and of the connections to leaders those are kept whose broker is listed at the connection's
address. -/
theorem refresh_all_or_nothing {N : Type} (net : Network N) (config : ClientConfig)
    (ops : List (Client.Operation N)) (n : N) (client : Client) (t : Tape N)
    (hlife : Client.recordedLifetime net config ops n = (.ok client, t)) (topic : String) :
    Client.lifetime net config ops n = (.ok client, t.network) ∧
    Agrees Session.base (Client.refresh net.recording topic) (Client.refresh net topic) ∧
    match outcome (Client.refresh net.recording topic) ⟨client, t⟩ with
    | (.error _, s') =>
      s'.client.brokers = client.brokers ∧ s'.client.leaders = client.leaders ∧
      s'.client.connections = client.connections ∧
      (∀ other, s'.client.partitionCount other = client.partitionCount other) ∧
      ∀ other partition, s'.client.leaderOf other partition = client.leaderOf other partition
    | (.ok (), s') => ∃ response listing,
      Client.heard net topic ⟨client, t⟩ = some response ∧ response.listing topic = .ok listing ∧
      s'.client.brokers = response.brokerTable ∧
      s'.client.leaders.get? topic = some listing.leaderTable ∧
      (∀ other, other ≠ topic →
        s'.client.leaders.get? other = client.leaders.get? other) ∧
      ∀ nodeId connection, s'.client.connections.get? nodeId = some connection ↔
        client.connections.get? nodeId = some connection ∧
          response.brokerTable.get? nodeId = some connection.address := by
  have hbase := Client.base_lifetime net config ops n
  rw [hlife] at hbase
  refine ⟨hbase.symm, Client.agrees_refresh net topic, ?_⟩
  rcases hrefresh : outcome (Client.refresh net.recording topic) ⟨client, t⟩
    with ⟨fault | ⟨⟩, s'⟩
  · obtain ⟨hbrokers, hleaders, hconnections⟩ :=
      Client.knowledge_eq_iff.1 (Client.knowledge_of_refresh_error net hrefresh)
    refine ⟨hbrokers, hleaders, hconnections, fun other => ?_, fun other partition => ?_⟩
    · rw [Client.partitionCount, hleaders, Client.partitionCount]
    · rw [Client.leaderOf, hleaders, Client.leaderOf]
  · obtain ⟨response, listing, before, hheard, hlisting, hknowledge, hclient⟩ :=
      Client.exists_adopt_of_refresh_ok net hrefresh
    obtain ⟨-, hleaders, hconnections⟩ := Client.knowledge_eq_iff.1 hknowledge
    -- The entries are in order, so that what the filter keeps under a number is what was there.
    have hsorted : before.connections.Sorted := by
      obtain ⟨attempts, hcomes⟩ := Client.comes_of_recordedLifetime net hlife
      rw [hconnections]
      exact hcomes.sorted
    have hinsert := Table.get?_insert before.leaders topic
    dsimp only
    rw [hclient, ← hleaders, ← hconnections]
    refine ⟨response, listing, hheard, hlisting, rfl, ?_, fun other hne => ?_,
      Client.get?_connections_adopt hsorted topic _ _⟩
    · exact (hinsert topic listing.leaderTable).trans (if_pos rfl)
    · exact (hinsert other listing.leaderTable).trans (if_neg hne)

/-! ## In a cluster -/

namespace Cluster

/-- A cluster in which the broker of a topic stores one record and then moves. -/
def moving : Cluster :=
  let topics : List TopicListing := [⟨0, some "t", [⟨0, 0, 1⟩]⟩]
  { init true [(.up, ⟨"b", 1⟩), (.up, ⟨"b", 2⟩)] with
    replies := [
      ⟨.versions ⟨0, []⟩, 0, false⟩,
      ⟨.metadata ⟨[⟨1, "b", 1⟩], topics⟩, 0, false⟩,
      ⟨.produce ⟨[⟨"t", [⟨0, 0, 7⟩]⟩]⟩, 0, false⟩,
      ⟨.metadata ⟨[⟨1, "b", 2⟩], topics⟩, 0, false⟩] }

end Cluster

/-- The refresh that finds out that a broker has moved drops the connection to it. -/
theorem refresh_all_or_nothing_of_moved_broker :
    let config : ClientConfig := ⟨["b:1"], "c", .ofMillis 1000⟩
    ∃ client t, Client.recordedLifetime Cluster.network config [.refresh "t", .send "t" 0 [1]]
        Cluster.moving = (.ok client, t) ∧
      client.connections.get? 1 = some ⟨1, "b:1"⟩ ∧
      ∃ s', outcome (Client.refresh Cluster.network.recording "t") ⟨client, t⟩ = (.ok (), s') ∧
        s'.client.brokers.get? 1 = some "b:2" ∧
        ∀ connection, s'.client.connections.get? 1 ≠ some connection := by
  intro config
  let life := Client.recordedLifetime Cluster.network config [.refresh "t", .send "t" 0 [1]]
    Cluster.moving
  have hheld : life.1.toOption.any (fun client =>
      client.connections.get? 1 = some ⟨1, "b:1"⟩) := by decide +kernel
  have hmoved : life.1.toOption.any (fun client =>
      let run := outcome (Client.refresh Cluster.network.recording "t") ⟨client, life.2⟩
      run.1.toOption = some () ∧ run.2.client.brokers.get? 1 = some "b:2") := by decide +kernel
  rcases hlife : life with ⟨fault | client, t⟩
  · rw [hlife] at hheld
    cases hheld
  rw [hlife] at hheld hmoved
  replace hheld := of_decide_eq_true hheld
  obtain ⟨hrefreshed, hmoved⟩ := of_decide_eq_true hmoved
  have hall := (refresh_all_or_nothing Cluster.network config _ _ client t hlife "t").2.2
  rcases hrefresh : outcome (Client.refresh Cluster.network.recording "t") ⟨client, t⟩
    with ⟨fault | ⟨⟩, s'⟩
  · rw [hrefresh] at hrefreshed
    cases hrefreshed
  rw [hrefresh] at hall hmoved
  obtain ⟨response, listing, -, -, hbrokers, -, -, hconnections⟩ := hall
  refine ⟨client, t, hlife, hheld, s', hrefresh, hmoved, fun connection hconnection => ?_⟩
  obtain ⟨hkept, hlisted⟩ := (hconnections 1 connection).1 hconnection
  rw [hheld] at hkept
  cases hkept
  rw [← hbrokers, hmoved] at hlisted
  exact absurd hlisted (by decide)

end KafkaCanary
