import KafkaCanary.Proofs.Client.Routing
import KafkaCanary.Proofs.Scheduler.Cycles
import KafkaCanary.Proofs.Wire.Consumption
import Mathlib.Data.List.Perm.Subperm

/-!
# Which partitions a cycle reaches

A client knows the leaders of the partitions that are listed, and says how many there are. A cycle
sends to the partitions below that number. The two agree only if the partitions that are listed are
those below their number: then every partition that is listed gets one message, and otherwise some
partition gets none. Either way a message goes to the broker that is listed last as the leader of
its partition, and nowhere if the partition is not listed.

The number of partitions fits its 32 bits, because a message that lists partitions has at least one
byte for each of them.

## Main results

* `count_partitionRange_iff`: when the partitions below a number are those that are listed;
* `Client.countable_of_refreshes`: no client is told of more partitions than it can count;
* `Client.Placed.handled_of_sendings`: what becomes of the messages of a cycle;
* `partitions_of_cycle`: what a cycle does with the listing of its topic.
-/

namespace KafkaCanary

/-! ## Listed partitions -/

namespace TopicListing

/-- The partitions that are listed, in order and as often as they are listed. -/
def indices (listing : TopicListing) : List Int32 :=
  listing.partitions.map (·.index)

/-- The leader of a partition in its last listing. -/
def leader? (listing : TopicListing) (partition : Int32) : Option Int32 :=
  (listing.partitions.reverse.find? (·.index = partition)).map (·.leader)

/-- The table of a listing has the leader of the last entry of each partition. -/
theorem get?_leaderTable (listing : TopicListing) (partition : Int32) :
    listing.leaderTable.get? partition = listing.leader? partition := by
  rw [leaderTable, Table.get?_ofList, ← List.map_reverse, List.find?_map, Option.map_map]
  rfl

/-- The table of a listing has one entry for each partition listed, however often. -/
theorem size_leaderTable (listing : TopicListing) :
    listing.leaderTable.size = listing.indices.dedup.length := by
  rw [leaderTable, Table.size_ofList, List.map_map]
  rfl

/-- No more partitions are listed than there are entries. -/
theorem length_dedup_indices_le (listing : TopicListing) :
    listing.indices.dedup.length ≤ listing.partitions.length :=
  (List.dedup_sublist _).length_le.trans_eq (List.length_map _)

end TopicListing

section Range

/-- No partition is addressed twice. -/
theorem nodup_partitionRange (count : Int32) : (partitionRange count).Nodup := by
  refine List.Nodup.of_map Int32.toInt ?_
  rw [Canary.map_toInt_partitionRange]
  exact List.nodup_range.map fun _ _ => Int.ofNat.inj

/-- The partitions below a count are addressed, from 0 on. -/
theorem mem_partitionRange {count partition : Int32} :
    partition ∈ partitionRange count ↔ 0 ≤ partition.toInt ∧ partition.toInt < count.toInt := by
  have hmem : partition ∈ partitionRange count ↔
      partition.toInt ∈ (partitionRange count).map Int32.toInt :=
    (List.mem_map_of_injective fun _ _ => Int32.toInt_inj.1).symm
  rw [hmem, Canary.map_toInt_partitionRange, List.mem_map]
  constructor
  · rintro ⟨i, hi, heq⟩
    have := List.mem_range.1 hi
    omega
  · rintro ⟨hnonneg, hlt⟩
    exact ⟨partition.toInt.toNat, List.mem_range.2 (by omega), Int.toNat_of_nonneg hnonneg⟩

/-- As many partitions are addressed as the count says, none for a negative one. -/
theorem length_partitionRange (count : Int32) :
    (partitionRange count).length = count.toInt.toNat := by
  rw [partitionRange, List.length_map, List.length_range]

/-- The partitions below the number of those that are listed are the ones that are listed, each
once, iff no partition is listed that is not below that number. -/
theorem count_partitionRange_iff {listed : List Int32} {count : Int32}
    (hcount : count.toInt = listed.dedup.length) :
    (∀ partition, (partitionRange count).count partition = if partition ∈ listed then 1 else 0) ↔
      ∀ partition ∈ listed, 0 ≤ partition.toInt ∧ partition.toInt < listed.dedup.length := by
  rw [← hcount]
  constructor
  · intro h partition hmem
    have hone := h partition
    rw [if_pos hmem] at hone
    exact mem_partitionRange.1 (List.count_pos_iff.1 (hone ▸ Nat.one_pos))
  · intro h partition
    -- There are as many below the number as are listed, so that none of them is missing.
    have hsub : listed.dedup ⊆ partitionRange count := fun partition hmem =>
      mem_partitionRange.2 (h partition (List.mem_dedup.1 hmem))
    have hperm : listed.dedup.Perm (partitionRange count) := by
      refine (List.subperm_of_subset (List.nodup_dedup listed) hsub).perm_of_length_le ?_
      rw [length_partitionRange, hcount, Int.toNat_natCast]
    rw [List.Nodup.count (nodup_partitionRange count)]
    exact if_congr (hperm.mem_iff.symm.trans List.mem_dedup) rfl rfl

end Range

/-! ## Responses that can be counted -/

/-- There are no more partitions of a topic than a number of 32 bits can count. -/
def MetadataResponse.Countable (response : MetadataResponse) : Prop :=
  ∀ listing ∈ response.topics, listing.partitions.length ≤ Connection.greatestResponse

/-- The listing of a topic stands in the response. -/
theorem MetadataResponse.mem_topics_of_listing {response : MetadataResponse} {topic : String}
    {listing : TopicListing} (h : response.listing topic = .ok listing) :
    listing ∈ response.topics := by
  unfold MetadataResponse.listing at h
  rcases hfind : response.topics.find? (·.name = some topic) with _ | found
  · rw [hfind] at h
    cases h
  · rw [hfind] at h
    dsimp only at h
    by_cases hcode : found.errorCode ≠ 0
    · rw [if_pos hcode] at h
      cases h
    · rw [if_neg hcode] at h
      cases h
      exact List.mem_of_find?_eq_some hfind

/-- The number of partitions of a countable response fits the count's width. -/
theorem MetadataResponse.Countable.toInt_ofNat {response : MetadataResponse}
    (h : response.Countable) {topic : String} {listing : TopicListing}
    (hlisting : response.listing topic = .ok listing) :
    (Int32.ofNat listing.leaderTable.size).toInt = listing.indices.dedup.length := by
  have hsize := h listing (MetadataResponse.mem_topics_of_listing hlisting)
  have hdedup := listing.length_dedup_indices_le
  rw [listing.size_leaderTable]
  refine Int32.toInt_ofNat_of_lt ?_
  unfold Connection.greatestResponse at hsize
  omega

/-- What holds of all acts of a run holds of those up to any moment. -/
theorem ReadsExactly.mono {acts acts' : List Act} (h : ReadsExactly acts')
    (hgrows : acts <+: acts') : ReadsExactly acts := fun act hact =>
  h act (hgrows.subset hact)

/-- A response that answers an attempt lists no more than fits the greatest message. -/
theorem Attempt.Answers.countable {a : Attempt} {version : Int16} {response : MetadataResponse}
    (h : a.Answers (MetadataResponse.read version) response) (hbounded : a.fate.Bounded)
    (hexact : ReadsExactly a.acts) : response.Countable := by
  -- The message has the length that was announced for it, and that one was bounded.
  have hwhole := a.whole hbounded hexact
  obtain ⟨frame, length, message, rest, rest', hfate, hheader, hbody⟩ := h
  obtain ⟨hlength, hmessage⟩ := hwhole frame length message hfate
  rw [hfate] at hbounded
  obtain ⟨hnonneg, hgreatest⟩ := hbounded
  rw [announced, toInt_ofNat_of_nonneg (ofBigEndian_lt_size hlength) hnonneg, hmessage] at hgreatest
  have hrest := spends_readResponseHeader _ _ message a.correlationId rest hheader
  intro listing hlisting
  have hpartitions := MetadataResponse.length_partitions_le hbody hlisting
  omega

namespace Client

variable {N : Type} (net : Network N)

/-- A response that was heard on a network that reads exactly is countable. -/
theorem countable_of_heard {s : Session (Tape N)} {topic : String} {response : MetadataResponse}
    (h : heard net topic s = some response)
    (hexact : ReadsExactly (outcome (refresh net.recording topic) s).2.network.acts) :
    response.Countable := by
  rcases hrefresh : outcome (refresh net.recording topic) s with ⟨fault | ⟨⟩, s'⟩
  · rw [heard, hrefresh] at h
    cases h
  obtain ⟨a, before, after, response', -, -, hacts, hbounded, hanswers, hheard, -⟩ :=
    exists_answers_of_refresh_ok net hrefresh
  cases hheard.symm.trans h
  rw [hrefresh] at hexact
  replace hexact : ReadsExactly s'.network.acts := hexact
  rw [hacts] at hexact
  exact hanswers.countable hbounded fun act hact =>
    hexact act (List.mem_append_left _ (List.mem_append_right _ hact))

/-- A refresh that an operation made has a countable response. -/
theorem countable_of_refreshBy? {s : Session (Tape N)} {op : Operation N} {refreshed : Refresh}
    (h : refreshBy? net s op = some refreshed)
    (hexact : ReadsExactly (operate net.recording s op.recorded).network.acts) :
    refreshed.response.Countable := by
  cases op with
  | refresh topic =>
    obtain ⟨response, hheard, rfl⟩ := Option.map_eq_some_iff.1 h
    exact countable_of_heard net hheard hexact
  | send _ _ _ | close | outside _ => cases h

/-- All refreshes of a run have countable responses, by one operation after another. -/
theorem countable_of_refreshesFrom {ops : List (Operation N)} {s : Session (Tape N)}
    {attempts : List Attempt} (hknown : (s.journal attempts).Known)
    (hexact : ReadsExactly (operateAll net.recording (ops.map .recorded) s).network.acts) :
    ∀ refreshed ∈ refreshesFrom net ops s, refreshed.response.Countable := by
  induction ops generalizing s attempts with
  | nil => exact List.forall_mem_nil _
  | cons op ops ih =>
    obtain ⟨new, hop, -⟩ := exists_reaches_of_operate net op s hknown.retired attempts
    have hknown' := hop.preserves Journal.Step.known hknown
    obtain ⟨_, hops⟩ := exists_reaches_of_operateAll net ops _ _ hknown'
    refine List.forall_mem_append.2 ⟨ih hknown' hexact, fun refreshed hrefreshed => ?_⟩
    exact countable_of_refreshBy? net (Option.mem_toList.1 hrefreshed) (hexact.mono hops.acts_grow)

/-- No client is told of more partitions than it can count. -/
theorem countable_of_refreshes {config : ClientConfig} {ops : List (Operation N)} {n : N}
    {client : Client} {t : Tape N} (h : recordedLifetime net config ops n = (.ok client, t))
    (hexact : ReadsExactly t.acts) :
    ∀ refreshed ∈ refreshes net config ops n, refreshed.response.Countable := by
  unfold recordedLifetime lifetime at h
  unfold refreshes
  have hconnects := exists_comes_of_connect net config n
  rcases hconnect : connect net.recording config ⟨n, []⟩ with ⟨fault | client', t'⟩
  · exact List.forall_mem_nil _
  rw [hconnect] at h hconnects
  rcases hconnects with ⟨⟨fault, hfault⟩, -⟩ | ⟨client'', attempts, hcomes, -, hclient⟩
  · cases hfault
  obtain rfl := hclient client' rfl
  have hknown : (Session.journal ⟨client', t'⟩ attempts).Known := hcomes.known
  refine countable_of_refreshesFrom net hknown ?_
  cases h
  exact hexact

end Client

/-! ## The messages of a cycle -/

/-- A message that is handed to the client, with the worlds around it. -/
structure Sending (W : Type) where
  partition : Int32
  payload : List UInt8
  before : W
  answer : Except Failure Delivery
  after : W

/-- The call that hands the message over. -/
def Sending.exchange {W : Type} (topic : String) (sending : Sending W) : Exchange :=
  .send topic sending.partition sending.payload sending.answer

namespace Canary

variable {W : Type} (host : Host W) (topic : String)

/-- The message of an attempt. -/
def sending (c : Canary W) (partition : Int32) : Sending W :=
  let (m, _) := c.producer.stamp (host.now c.world)
  let before := host.emit (.sending m.json partition) c.world
  let (answer, after) := host.send topic partition m.payload before
  ⟨partition, m.payload, before, answer, after⟩

/-- The messages of attempts, one after the other. -/
def sendings : List Int32 → Canary W → List (Sending W)
  | [], _ => []
  | partition :: partitions, c =>
    c.sending host topic partition :: sendings partitions (c.attempt host topic partition)

/-- A fan-out sends to its partitions in their order. -/
theorem map_partition_sendings (partitions : List Int32) (c : Canary W) :
    (sendings host topic partitions c).map Sending.partition = partitions := by
  induction partitions generalizing c with
  | nil => rfl
  | cons partition partitions ih => exact congrArg (partition :: ·) (ih _)

/-- After a refresh there is at most a report. -/
theorem world_refresh (c : Canary W) :
    let refreshed := (host.refresh topic (host.emit (.refreshing topic) c.world)).2
    (c.refresh host topic).world = refreshed ∨
      ∃ event, (c.refresh host topic).world = host.emit event refreshed := by
  unfold refresh
  rcases host.refresh topic (host.emit (.refreshing topic) c.world) with ⟨failure | ⟨⟩, w⟩
  · exact .inr ⟨_, rfl⟩
  · exact .inl rfl

/-- The messages of attempts are those that the client gets. -/
theorem exists_sent_of_sendings (partitions : List Int32) (c : Canary (Ledger W)) : ∃ sent,
    (partitions.foldl (attempt host.recording topic) c).world.entries = c.world.entries ++ sent ∧
      sent.map Entry.exchange =
        (sendings host topic partitions c.base).map (Sending.exchange topic) := by
  induction partitions generalizing c with
  | nil => exact ⟨[], (List.append_nil _).symm, rfl⟩
  | cons partition partitions ih =>
    obtain ⟨sent, hentries, hsent⟩ := ih (c.attempt host.recording topic partition)
    have hattempt : ∃ entry : Entry,
        (c.attempt host.recording topic partition).world.entries = c.world.entries ++ [entry] ∧
          entry.exchange = (c.base.sending host topic partition).exchange topic := by
      simp only [attempt, Host.recording_emitAll]
      exact ⟨_, rfl, rfl⟩
    obtain ⟨entry, hentry, hexchange⟩ := hattempt
    rw [base_attempt] at hsent
    refine ⟨entry :: sent, ?_, ?_⟩
    · rw [List.foldl_cons, hentries, hentry, List.append_assoc]
      rfl
    · rw [List.map_cons, hsent, hexchange]
      rfl

end Canary

namespace Schedule

variable {W : Type} (host : Host W)

/-- The canary that sends the messages of a cycle, if it finds out the number of partitions. -/
def fanningOut (schedule : Schedule) (count : Int32) (c : Canary W) : Canary W :=
  let refreshed := c.refresh host schedule.topic
  let asked := (schedule.count host refreshed.world).2
  { refreshed with world := host.emit (.fanningOut count schedule.topic) asked }

/-- A cycle that has to ask for the number of partitions asks for it after a refresh, and then sends
its messages. -/
theorem exists_entries_of_runCycle {schedule : Schedule} (hpartitions : schedule.partitions = none)
    {c : Canary W} (hopen : c.producer.closed = false) {count : Int32} (hcount : 0 ≤ count)
    (hasked : (host.partitionCount schedule.topic (c.refresh host schedule.topic).world).1 =
      some count) :
    ∃ refreshed asked sent,
      (schedule.runCycle host.recording c.recorded).2.world.entries = refreshed :: asked :: sent ∧
      (∃ answer, refreshed.exchange = .refresh schedule.topic answer) ∧
      asked.exchange = .count schedule.topic (some count) ∧
      sent.map Entry.exchange = (Canary.sendings host schedule.topic (partitionRange count)
        (schedule.fanningOut host count c)).map (Sending.exchange schedule.topic) := by
  let c' := c.recorded.refresh host.recording schedule.topic
  have hbase : c'.base = c.refresh host schedule.topic :=
    c.recorded.base_refresh host schedule.topic
  have hopen' : c'.producer.closed = false :=
    (congrArg Producer.closed (c.recorded.producer_refresh host.recording schedule.topic)).trans
      hopen
  obtain ⟨refreshed, answer, hrefreshed, hexchange, -⟩ :=
    c.recorded.exists_refreshed host schedule.topic
  obtain ⟨_, hcounted, hpartition⟩ := c'.exists_asked host schedule
  rw [hpartitions] at hpartition
  obtain ⟨asked, rfl, hanswer⟩ := hpartition
  let fanning : Canary (Ledger W) :=
    ⟨c'.producer, host.recording.emit (.fanningOut count schedule.topic)
      (schedule.count host.recording c'.world).2⟩
  -- Apart from the record, this is how the schedule fans out.
  obtain ⟨hfound, hworld⟩ := Canary.count_recording host schedule c'.world
  have hfanning : fanning.base = schedule.fanningOut host count c := by
    unfold fanningOut
    rw [← hbase]
    exact congrArg (Canary.mk c'.producer <| host.emit (.fanningOut count schedule.topic) ·) hworld
  replace hfound : (schedule.count host.recording c'.world).1 = some count := by
    rw [hfound, Schedule.count, hpartitions]
    exact (congrArg (fun c => (host.partitionCount schedule.topic c.world).1) hbase).trans hasked
  have hcycle : (schedule.runCycle host.recording c.recorded).2 =
      (partitionRange count).foldl (Canary.attempt host.recording schedule.topic) fanning := by
    unfold runCycle
    dsimp only
    rw [hfound]
    show Canary.sendToPartitions host.recording schedule.topic count fanning = _
    rw [Canary.sendToPartitions, if_neg (Int32.not_lt.2 hcount),
      if_neg (Bool.eq_false_iff.1 hopen')]
  obtain ⟨sent, hentries, hsent⟩ :=
    Canary.exists_sent_of_sendings host schedule.topic (partitionRange count) fanning
  rw [hfanning] at hsent
  refine ⟨refreshed, asked, sent, ?_, ⟨answer, hexchange⟩, ?_, hsent⟩
  · rw [hcycle, hentries]
    show (schedule.count host.recording c'.world).2.entries ++ sent = _
    rw [hcounted, hrefreshed]
    rfl
  · rw [hanswer, hfound]

end Schedule

/-! ## Where the messages of a cycle go -/

/-- The leaders known of a topic are those of its last refresh. -/
theorem Refresh.leadersOf?_eq {refreshes : List Refresh} {topic : String} {last : Refresh}
    {listing : TopicListing} (hlast : refreshes.find? (·.topic = topic) = some last)
    (hlisting : last.response.listing topic = .ok listing) :
    leadersOf? refreshes topic = some listing.leaderTable := by
  unfold leadersOf?
  rw [hlast]
  show (last.response.listing topic).toOption.bind _ = _
  rw [hlisting]
  rfl

namespace Client

variable {N : Type} {s s' : Session (Tape N)} {refreshes refreshes' : List Refresh}

/-- The count of a topic is the size of the table of its leaders. -/
theorem Informed.partitionCount_eq {client : Client} (h : client.Informed refreshes)
    {topic : String} {leaders : LeaderTable}
    (hleaders : Refresh.leadersOf? refreshes topic = some leaders) :
    client.partitionCount topic = some (Int32.ofNat leaders.size) := by
  rw [partitionCount, h.leaders topic, hleaders]
  rfl

/-- The leader of a partition is the one listed last for it, if that is a broker at all. -/
theorem Informed.leaderOf_eq {client : Client} (h : client.Informed refreshes) {topic : String}
    {listing : TopicListing}
    (hleaders : Refresh.leadersOf? refreshes topic = some listing.leaderTable)
    (partition : Int32) : client.leaderOf topic partition =
      match listing.leader? partition with
      | none => .error (.unknownPartition partition topic)
      | some leader => if 0 ≤ leader then .ok leader else .error (.noLeader partition topic) := by
  rw [leaderOf, h.leaders topic, hleaders]
  dsimp only
  rewrite [listing.get?_leaderTable]
  rfl

/-- What has to hold of a client for its records to go where its refreshes say. -/
structure Placed (s : Session (Tape N)) (refreshes : List Refresh) : Prop where
  informed : s.client.Informed refreshes
  located : s.client.Located
  known : (s.journal []).Known

/-- What a client is placed to know moves along with its journal. -/
theorem Placed.of_reaches (h : Placed s refreshes) {attempts : List Attempt}
    (hreaches : Journal.Reaches (s.journal []) (s'.journal attempts))
    (hinformed : s'.client.Informed refreshes') : Placed s' refreshes' := by
  have hlocated : (s'.journal attempts).client.Located :=
    hreaches.preserves (P := fun j => j.client.Located) Journal.Step.located h.located
  obtain ⟨hbootstrap, hconnections, hretired⟩ :=
    hreaches.preserves Journal.Step.known h.known
  exact ⟨hinformed, hlocated, hbootstrap, hconnections, hretired⟩

variable (net : Network N)

/-- A report changes nothing about the client. -/
theorem Placed.report (h : Placed s refreshes) (event : Event) :
    Placed ⟨s.client, net.recording.emit event s.network⟩ refreshes :=
  ⟨h.informed, h.located, h.known.mono (List.prefix_append _ _)⟩

/-- Reports change nothing about what a client knows. -/
theorem Placed.reportAll (h : Placed s refreshes) (events : List Event) :
    Placed ((host net.recording).emitAll events s) refreshes := by
  induction events generalizing s with
  | nil => exact h
  | cons event events ih => exact ih (h.report net event)

/-- One operation adds its refresh, if it made one, to what a client knows. -/
theorem Placed.operate (h : Placed s refreshes) (op : Operation N) :
    Placed (operate net.recording s op.recorded) ((refreshBy? net s op).toList ++ refreshes) := by
  obtain ⟨_, hreaches, -⟩ := exists_reaches_of_operate net op s h.known.retired []
  exact h.of_reaches hreaches (h.informed.operate net op)

/-- After a whole lifetime a client knows what its refreshes told it. -/
theorem placed_of_recordedLifetime {config : ClientConfig} {ops : List (Operation N)} {n : N}
    {client : Client} {t : Tape N} (h : recordedLifetime net config ops n = (.ok client, t)) :
    Placed ⟨client, t⟩ (Client.refreshes net config ops n) := by
  obtain ⟨attempts, hcomes⟩ := comes_of_recordedLifetime net h
  obtain ⟨hbootstrap, hconnections, hretired⟩ := hcomes.known
  exact ⟨informed_of_recordedLifetime net h, hcomes.located, hbootstrap, hconnections, hretired⟩

/-- An operation as a host performs it is its outcome, with the fault told as a failure. -/
theorem perform_eq {α : Type} (action : ClientM N α) (s : Session N) : perform action s =
    ((outcome action s).1.mapError ClientFault.failure, (outcome action s).2) := by
  rw [perform, show action.run.run s = outcome action s from rfl]
  rcases outcome action s with ⟨fault | a, s'⟩ <;> rfl

/-- What becomes of a message for a partition of a topic that is listed. -/
def Handled (refreshes : List Refresh) (topic : String) (listing : TopicListing)
    (sending : Sending (Session (Tape N))) : Prop :=
  match listing.leader? sending.partition with
  | none =>
    sending.answer = .error (ClientFault.unknownPartition sending.partition topic).failure ∧
      sending.after = sending.before
  | some leader =>
    if 0 ≤ leader then
      match Refresh.addressOf? refreshes leader with
      | none => (∃ failure, sending.answer = .error failure) ∧ sending.after = sending.before
      | some address => ∃ acts,
        sending.after.network.acts = sending.before.network.acts ++ acts ∧
        Directed address sending.before.network.acts acts ∧
        ∀ delivery, sending.answer = .ok delivery → ∃ id frame, .wrote id frame (.ok ()) ∈ acts
    else
      sending.answer = .error (ClientFault.noLeader sending.partition topic).failure ∧
        sending.after = sending.before

/-- A send goes to the leader that the last refresh lists, or fails for want of one. -/
theorem Placed.handled (h : Placed s refreshes) {topic : String} {listing : TopicListing}
    (hleaders : Refresh.leadersOf? refreshes topic = some listing.leaderTable)
    (partition : Int32) (payload : List UInt8) :
    let sent := (host net.recording).send topic partition payload s
    Handled refreshes topic listing ⟨partition, payload, s, sent.1, sent.2⟩ := by
  intro sent
  have hsent : sent = _ := perform_eq (send net.recording topic partition payload) s
  have hleader := h.informed.leaderOf_eq hleaders partition
  have hmade := Client.sent net topic partition payload s
  unfold Handled
  dsimp only
  rcases hlisted : listing.leader? partition with _ | leader
  · rw [hlisted] at hleader
    rw [hsent, outcome_send_of_unroutable net.recording hleader]
    exact ⟨rfl, rfl⟩
  rw [hlisted] at hleader
  dsimp only at hleader ⊢
  -- A partition without a leader has a negative one.
  by_cases hnonneg : 0 ≤ leader
  · rw [if_pos hnonneg] at hleader ⊢
    have hroute : (s.client.leaderOf topic partition).toOption.bind s.client.brokers.get? =
        Refresh.addressOf? refreshes leader := by
      rw [hleader]
      exact h.informed.brokers leader
    rw [hsent]
    rcases hresult : outcome (send net.recording topic partition payload) s with ⟨result, s'⟩
    rw [hresult] at hmade
    dsimp only
    rcases haddress : Refresh.addressOf? refreshes leader with _ | address
    · obtain ⟨⟨fault, rfl⟩, hsame⟩ := hmade.eq_of_unrouted h.located (hroute.trans haddress)
      exact ⟨⟨fault.failure, rfl⟩, hsame⟩
    · obtain ⟨acts, hacts, hdirected, hstored⟩ :=
        hmade.directed h.located h.known (hroute.trans haddress)
      exact ⟨acts, hacts, hdirected, fun delivery hdelivery =>
        hstored delivery (mapError_eq_ok_iff.1 hdelivery)⟩
  · rw [if_neg hnonneg] at hleader ⊢
    rw [hsent, outcome_send_of_unroutable net.recording hleader]
    exact ⟨rfl, rfl⟩

/-- A probe leaves a client knowing what it knew. -/
theorem Placed.attempt {c : Canary (Session (Tape N))} (h : Placed c.world refreshes)
    (topic : String) (partition : Int32) :
    Placed (c.attempt (host net.recording) topic partition).world refreshes := by
  let sending := c.sending (host net.recording) topic partition
  have hsent : Placed sending.after refreshes := by
    have hbefore : Placed sending.before refreshes := h.report net _
    have hafter : sending.after =
        (outcome (send net.recording topic partition sending.payload) sending.before).2 :=
      congrArg Prod.snd (perform_eq _ _)
    rw [hafter]
    exact hbefore.operate net (.send topic partition sending.payload)
  exact hsent.reportAll net _

/-- What becomes of the messages of attempts, one after the other. -/
theorem Placed.handled_of_sendings {c : Canary (Session (Tape N))} (h : Placed c.world refreshes)
    {topic : String} {listing : TopicListing}
    (hleaders : Refresh.leadersOf? refreshes topic = some listing.leaderTable)
    (partitions : List Int32) :
    ∀ sending ∈ Canary.sendings (host net.recording) topic partitions c,
      Handled refreshes topic listing sending := by
  induction partitions generalizing c with
  | nil => exact List.forall_mem_nil _
  | cons partition partitions ih =>
    refine List.forall_mem_cons.2 ⟨?_, ih (h.attempt net topic partition)⟩
    exact (h.report net _).handled net hleaders partition _

/-- The refresh of a cycle. -/
def cycleRefresh? (topic : String) (s : Session (Tape N)) : Option Refresh :=
  refreshBy? net ((host net.recording).emit (.refreshing topic) s) (.refresh topic)

/-- A refresh that a host performs leaves what the operation leaves. -/
theorem snd_refresh_host (topic : String) (s : Session (Tape N)) :
    ((host net.recording).refresh topic s).2 = operate net.recording s (.refresh topic) :=
  congrArg Prod.snd (perform_eq (Client.refresh net.recording topic) s)

/-- The refresh of a cycle tells the client what it hears. -/
theorem Placed.refresh {c : Canary (Session (Tape N))} (h : Placed c.world refreshes)
    (topic : String) :
    Placed (c.refresh (host net.recording) topic).world
      ((cycleRefresh? net topic c.world).toList ++ refreshes) := by
  have hrefreshed := (h.report net (.refreshing topic)).operate net (.refresh topic)
  rcases Canary.world_refresh (host net.recording) topic c with heq | ⟨event, heq⟩
  · rw [heq, snd_refresh_host]
    exact hrefreshed
  · rw [heq, snd_refresh_host]
    exact hrefreshed.report net event

/-- To report how a refresh went takes nothing away. -/
theorem acts_refresh_grow (topic : String) (c : Canary (Session (Tape N))) :
    (operate net.recording ((host net.recording).emit (.refreshing topic) c.world)
      (.refresh topic)).network.acts <+:
        (c.refresh (host net.recording) topic).world.network.acts := by
  rcases Canary.world_refresh (host net.recording) topic c with heq | ⟨event, heq⟩
  · refine ⟨[], ?_⟩
    rw [heq, snd_refresh_host, List.append_nil]
  · rw [heq, snd_refresh_host]
    exact List.prefix_append _ _

/-- A refresh only adds to the acts of a network. -/
theorem Placed.acts_grow {c : Canary (Session (Tape N))} (h : Placed c.world refreshes)
    (topic : String) :
    c.world.network.acts <+: (c.refresh (host net.recording) topic).world.network.acts := by
  let begun := (host net.recording).emit (.refreshing topic) c.world
  have hbegun : Placed begun refreshes := h.report net (.refreshing topic)
  obtain ⟨_, hreaches, -⟩ :=
    exists_reaches_of_operate net (.refresh topic) begun hbegun.known.retired []
  exact (List.prefix_append _ _).trans (hreaches.acts_grow.trans (acts_refresh_grow net topic c))

/-- The refresh of a cycle, too, does not tell the client of more partitions than it can count. -/
theorem countable_of_cycleRefresh? {topic : String} {c : Canary (Session (Tape N))}
    (hexact : ReadsExactly (c.refresh (host net.recording) topic).world.network.acts)
    {refreshed : Refresh} (h : cycleRefresh? net topic c.world = some refreshed) :
    refreshed.response.Countable :=
  countable_of_refreshBy? net h (hexact.mono (acts_refresh_grow net topic c))

/-- To find out the number of partitions changes nothing about the client. -/
theorem Placed.fanningOut {schedule : Schedule} {c : Canary (Session (Tape N))}
    (h : Placed (c.refresh (host net.recording) schedule.topic).world refreshes) (count : Int32) :
    Placed (schedule.fanningOut (host net.recording) count c).world refreshes := by
  unfold Schedule.fanningOut Schedule.count
  cases schedule.partitions <;> exact h.report net _

end Client

/-- What a client and a cycle make of the listing of a topic. Whenever the last refresh of a topic
has listed it, the number of its partitions is that of the different partitions listed. A cycle for
which the cluster has to say how many partitions there are sends to as many as the last refresh of
its topic has listed, its own or an earlier one. It sends to each partition listed once and to no
other one iff every partition listed is below that number. In any case a message for a partition
that is listed goes to the leader in its last listing, if it has one, and nothing is done for a
message for a partition that is not listed. -/
theorem partitions_of_cycle {N : Type} (net : Network N) (config : ClientConfig)
    (ops : List (Client.Operation N)) (n : N) (client : Client) (t : Tape N)
    (hlife : Client.recordedLifetime net config ops n = (.ok client, t)) (schedule : Schedule)
    (hpartitions : schedule.partitions = none) (producer : Producer)
    (hopen : producer.closed = false)
    (hexact : ReadsExactly (Canary.refresh (Client.host net.recording) schedule.topic
      ⟨producer, ⟨client, t⟩⟩).world.network.acts) :
    let host := Client.host net.recording
    let c : Canary (Session (Tape N)) := ⟨producer, ⟨client, t⟩⟩
    let topic := schedule.topic
    let earlier := Client.refreshes net config ops n
    let refreshes := (Client.cycleRefresh? net topic c.world).toList ++ earlier
    Client.lifetime net config ops n = (.ok client, t.network) ∧
    (∀ other last listing, earlier.find? (·.topic = other) = some last →
      last.response.listing other = .ok listing →
      ∃ count, client.partitionCount other = some count ∧
        count.toInt = listing.indices.dedup.length) ∧
    ∀ last listing, refreshes.find? (·.topic = topic) = some last →
      last.response.listing topic = .ok listing →
      ∃ count refreshed asked sent,
        let sendings := Canary.sendings host topic (partitionRange count)
          (schedule.fanningOut host count c)
        count.toInt = listing.indices.dedup.length ∧
        (schedule.runCycle host.recording c.recorded).2.world.entries =
          refreshed :: asked :: sent ∧
        (∃ answer, refreshed.exchange = .refresh topic answer) ∧
        asked.exchange = .count topic (some count) ∧
        sent.map Entry.exchange = sendings.map (Sending.exchange topic) ∧
        ((∀ partition, (sendings.map Sending.partition).count partition =
            if partition ∈ listing.indices then 1 else 0) ↔
          ∀ partition ∈ listing.indices,
            0 ≤ partition.toInt ∧ partition.toInt < listing.indices.dedup.length) ∧
        ∀ sending ∈ sendings, Client.Handled refreshes topic listing sending := by
  intro host c topic earlier refreshes
  have hbase := Client.base_lifetime net config ops n
  rw [hlife] at hbase
  have hplaced : Client.Placed c.world earlier := Client.placed_of_recordedLifetime net hlife
  have hrefreshed : Client.Placed (c.refresh host topic).world refreshes :=
    hplaced.refresh net topic
  have hearlier : ∀ refreshed ∈ earlier, refreshed.response.Countable :=
    Client.countable_of_refreshes net hlife (hexact.mono (hplaced.acts_grow net topic))
  refine ⟨hbase.symm, fun other last listing hlast hlisting => ?_,
    fun last listing hlast hlisting => ?_⟩
  · refine ⟨_, hplaced.informed.partitionCount_eq (Refresh.leadersOf?_eq hlast hlisting), ?_⟩
    exact (hearlier last (List.mem_of_find?_eq_some hlast)).toInt_ofNat hlisting
  -- The last refresh of the topic is that of the cycle, or an earlier one if that has failed.
  have hcountable : last.response.Countable := by
    rcases List.mem_append.1 (List.mem_of_find?_eq_some hlast) with hmem | hmem
    · exact Client.countable_of_cycleRefresh? net hexact (Option.mem_toList.1 hmem)
    · exact hearlier last hmem
  have hleaders := Refresh.leadersOf?_eq hlast hlisting
  have hasked := hrefreshed.informed.partitionCount_eq hleaders
  have hcount := hcountable.toInt_ofNat hlisting
  have hnonneg : 0 ≤ Int32.ofNat listing.leaderTable.size := by
    rw [Int32.le_iff_toInt_le, hcount]
    exact Int.natCast_nonneg _
  obtain ⟨refreshed, asked, sent, hentries, hrefresh, hanswer, hsent⟩ :=
    schedule.exists_entries_of_runCycle host hpartitions hopen hnonneg hasked
  refine ⟨_, refreshed, asked, sent, hcount, hentries, hrefresh, hanswer, hsent, ?_,
    (hrefreshed.fanningOut net _).handled_of_sendings net hleaders _⟩
  rw [Canary.map_partition_sendings]
  exact count_partitionRange_iff hcount

/-! ## In a cluster -/

namespace Cluster

/-- Metadata that lists one partition twice, with another leader each time, and leaves a gap before
the other one. -/
def scattered : MetadataResponse :=
  ⟨[⟨1, "b", 1⟩, ⟨2, "b", 2⟩], [⟨0, some "t", [⟨0, 0, 1⟩, ⟨0, 5, 1⟩, ⟨0, 0, 2⟩]⟩]⟩

/-- A cluster that answers with such metadata. -/
def scattering : Cluster :=
  { init true [(.up, ⟨"b", 1⟩), (.up, ⟨"b", 2⟩)] with
    replies := [⟨.versions ⟨0, []⟩, 0, false⟩, ⟨.metadata scattered, 0, false⟩] }

end Cluster

/-- Of the partitions 0 and 5 a cycle reaches the first one, at its second leader, and takes 1 for
the other one. -/
theorem partitions_of_cycle_of_scattered_listing :
    let config : ClientConfig := ⟨["b:1"], "c", .ofMillis 1000⟩
    let schedule : Schedule := ⟨"t", ⟨.ofMillis 1000, by decide⟩, none⟩
    let producer : Producer := .init "canary-client" (.init [5, 50])
    let host := Client.host Cluster.network.recording
    ∃ client t,
      Client.recordedLifetime Cluster.network config [] Cluster.scattering = (.ok client, t) ∧
      let c : Canary (Session (Tape Cluster)) := ⟨producer, ⟨client, t⟩⟩
      let sendings := Canary.sendings host "t" (partitionRange 2) (schedule.fanningOut host 2 c)
      (∃ refreshed asked sent,
        (schedule.runCycle host.recording c.recorded).2.world.entries =
          refreshed :: asked :: sent ∧
        asked.exchange = .count "t" (some 2) ∧
        sent.map Entry.exchange = sendings.map (Sending.exchange "t")) ∧
      sendings.map Sending.partition = [0, 1] ∧
      ∀ sending ∈ sendings,
        (sending.partition = 0 → ∃ acts,
          sending.after.network.acts = sending.before.network.acts ++ acts ∧
            Directed "b:2" sending.before.network.acts acts) ∧
        (sending.partition = 1 →
          sending.answer = .error (ClientFault.unknownPartition 1 "t").failure ∧
            sending.after = sending.before) := by
  intro config schedule producer host
  let life := Client.recordedLifetime Cluster.network config [] Cluster.scattering
  have hrun : life.1.toOption.any (fun client =>
      let c : Canary (Session (Tape Cluster)) := ⟨producer, ⟨client, life.2⟩⟩
      ReadsExactly (c.refresh host "t").world.network.acts ∧
        (Client.cycleRefresh? Cluster.network "t" c.world).map Refresh.response =
          some Cluster.scattered) := by
    decide +kernel
  rcases hlife : life with ⟨fault | client, t⟩
  · rw [hlife] at hrun
    cases hrun
  rw [hlife] at hrun
  obtain ⟨hexact, hheard⟩ := of_decide_eq_true hrun
  obtain ⟨last, hlast, hresponse⟩ := Option.map_eq_some_iff.1 hheard
  obtain ⟨response, -, rfl⟩ := Option.map_eq_some_iff.1 hlast
  obtain rfl : response = Cluster.scattered := hresponse
  let listing : TopicListing := ⟨0, some "t", [⟨0, 0, 1⟩, ⟨0, 5, 1⟩, ⟨0, 0, 2⟩]⟩
  obtain ⟨-, -, hcycle⟩ := partitions_of_cycle Cluster.network config [] Cluster.scattering client t
    hlife schedule rfl producer rfl hexact
  have hleader : listing.leader? 0 = some 2 := by decide
  have hunlisted : listing.leader? 1 = none := by decide
  have hdistinct : listing.indices.dedup.length = 2 := by decide
  rw [hlast] at hcycle
  obtain ⟨count, refreshed, asked, sent, hcount, hentries, -, hasked, hsent, -, hhandled⟩ :=
    hcycle ⟨"t", Cluster.scattered⟩ listing rfl rfl
  obtain rfl : count = 2 := Int32.toInt_inj.1 (hcount.trans (by rw [hdistinct]; rfl))
  refine ⟨client, t, hlife, ⟨refreshed, asked, sent, hentries, hasked, hsent⟩, ?_, ?_⟩
  · rw [Canary.map_partition_sendings]
    rfl
  intro sending hsending
  have hsent := hhandled sending hsending
  unfold Client.Handled at hsent
  refine ⟨fun hpartition => ?_, fun hpartition => ?_⟩
  · rw [hpartition, hleader] at hsent
    obtain ⟨acts, hacts, hdirected, -⟩ := hsent
    exact ⟨acts, hacts, hdirected⟩
  · rw [hpartition, hunlisted] at hsent
    exact hsent

end KafkaCanary

