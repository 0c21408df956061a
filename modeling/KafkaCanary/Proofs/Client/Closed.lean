import KafkaCanary.Proofs.Client.Metadata

/-!
# Closed clients

What a client does after it has been closed, however its end went: nothing. It refuses records and
refreshes before it gets a connection, so that it opens none, not even in place of one that is
broken, makes no request and takes no correlation id. What it knows of its cluster stays as it was.

## Main results

* `Client.outcome_send_of_closed`, `Client.outcome_refresh_of_closed`,
  `Client.outcome_close_of_closed`: what the operations of a closed client end in;
* `Client.reports_of_operateAll`: a closed client stays as it is, and only reports;
* `nothing_after_close`: what follows the end of every client that there can be.
-/

namespace KafkaCanary

namespace Client

variable {N : Type} (net : Network N)

/-! ## Operations of a closed client -/

section Closed

variable {s : Session N}

theorem outcome_bootstrapConnection_of_closed (h : s.client.closed = true) :
    outcome (bootstrapConnection net) s = (.error .closed, s) := by
  rw [bootstrapConnection, outcome_bind, ClientM.outcome_ensureOpen_of_closed h]

theorem outcome_leaderConnection_of_closed (h : s.client.closed = true) (nodeId : Int32) :
    outcome (leaderConnection net nodeId) s = (.error .closed, s) := by
  rw [leaderConnection, outcome_bind, ClientM.outcome_ensureOpen_of_closed h]

/-- A closed client refuses records, also those whose leader it knows. -/
theorem outcome_send_of_closed (h : s.client.closed = true) (topic : String) (partition : Int32)
    (payload : List UInt8) :
    ∃ fault, outcome (send net topic partition payload) s = (.error fault, s) := by
  rcases hleader : s.client.leaderOf topic partition with fault | leader
  · exact ⟨fault, outcome_send_of_unroutable net hleader payload⟩
  rw [send, outcome_bind, ClientM.outcome_ask]
  dsimp only [id]
  rw [outcome_bind, ClientM.outcome_ofExcept, hleader]
  dsimp only [mapError_ok]
  rw [outcome_bind, outcome_leaderConnection_of_closed net h]
  exact ⟨.closed, rfl⟩

/-- A closed client refuses to refresh. It reports the version that it would have asked for, if that
is not the preferred one. -/
theorem outcome_refresh_of_closed (h : s.client.closed = true) (topic : String) :
    outcome (refresh net topic) s =
      (.error .closed, ⟨s.client,
        (s.client.chooseVersion .metadata 1).2.foldl (fun n event => net.emit event n)
          s.network⟩) := by
  have hbootstrap : ∀ begun : N, outcome (bootstrapConnection net) ⟨s.client, begun⟩ =
      (.error .closed, ⟨s.client, begun⟩) := fun _ =>
    outcome_bootstrapConnection_of_closed net h
  -- The report about the version comes before the client is found closed.
  rw [refresh, outcome_bind, outcome_supportedVersion]
  dsimp only
  rw [outcome_bind, hbootstrap]

/-- To close a closed client does nothing and succeeds. -/
theorem outcome_close_of_closed (h : s.client.closed = true) :
    outcome (close net) s = (.ok (), ⟨s.client, net.emit .clientAlreadyClosed s.network⟩) := by
  rw [close, outcome_bind, ClientM.outcome_ask, h]
  rfl

end Closed

/-- Between two sessions the client has only reported, and not that it makes a request. -/
def Reports (s s' : Session (Tape N)) : Prop :=
  s'.client = s.client ∧ ∃ events : List Event,
    s'.network.acts = s.network.acts ++ events.map .reported ∧ Idle (events.map .reported)

theorem Reports.refl (s : Session (Tape N)) : Reports s s :=
  ⟨rfl, [], (List.append_nil _).symm, .nil⟩

theorem Reports.trans {s s' s'' : Session (Tape N)} (h : Reports s s') (h' : Reports s' s'') :
    Reports s s'' := by
  obtain ⟨hclient, events, hacts, hidle⟩ := h
  obtain ⟨hclient', events', hacts', hidle'⟩ := h'
  refine ⟨hclient'.trans hclient, events ++ events', ?_, ?_⟩
  · rw [hacts', hacts, List.append_assoc, List.map_append]
  · rw [List.map_append]
    exact hidle.append hidle'

/-- Whatever a closed client is asked to do, it only reports. -/
theorem reports_of_operate {s : Session (Tape N)} (h : s.client.closed = true) (op : Operation N) :
    Reports s (operate net.recording s op.recorded) := by
  cases op with
  | refresh topic =>
    refine (congrArg (Reports s)
      (congrArg Prod.snd (outcome_refresh_of_closed net.recording h topic))).mpr ?_
    exact ⟨rfl, _, acts_foldl_emit net _ _, idle_chooseVersion s.client .metadata 1⟩
  | send topic partition payload =>
    obtain ⟨fault, hsend⟩ := outcome_send_of_closed net.recording h topic partition payload
    refine (congrArg (Reports s) (congrArg Prod.snd hsend)).mpr ?_
    exact .refl s
  | close =>
    refine (congrArg (Reports s)
      (congrArg Prod.snd (outcome_close_of_closed net.recording h))).mpr ?_
    exact ⟨rfl, [.clientAlreadyClosed], rfl, .singleton rfl⟩
  | outside change => exact ⟨rfl, [], (List.append_nil _).symm, .nil⟩

/-- A closed client stays as it is, and only reports. -/
theorem reports_of_operateAll {s : Session (Tape N)} (h : s.client.closed = true)
    (ops : List (Operation N)) :
    Reports s (operateAll net.recording (ops.map .recorded) s) := by
  induction ops generalizing s with
  | nil => exact .refl s
  | cons op ops ih =>
    have hop := reports_of_operate net h op
    exact hop.trans (ih (hop.1.symm ▸ h))

/-! ## The end of a client -/

/-- A closed client has no connections to leaders. -/
def Sealed (client : Client) : Prop :=
  client.closed = true → client.connections = .empty

end Client

theorem Journal.Step.sealed {i j : Journal} (hstep : Step i j) (h : i.client.Sealed) :
    j.client.Sealed := by
  cases hstep with
  | idle _ => exact h
  | rebootstrap _ _ => exact h
  | link hopen _ _ =>
    -- Only an open client connects to a leader.
    intro hclosed
    cases hopen.symm.trans hclosed
  | attempt _ _ => exact h
  | learn => exact h
  | @adopt client _ _ _ brokers _ =>
    intro hclosed
    have hconnections : client.connections = .empty := h hclosed
    dsimp only [Client.adopt]
    rw [hconnections]
    rfl
  | close => exact fun _ => rfl

theorem Client.Comes.sealed {config : ClientConfig} {j : Journal} (h : Client.Comes config j) :
    j.client.Sealed := by
  refine h.preserves (P := fun j => j.client.Sealed) ?_ Journal.Step.sealed
  rintro _ ⟨connection, acts, -, rfl⟩
  exact nofun

/-- An end leaves the client closed and without connections to leaders, whatever it returns. -/
theorem Client.ShutDown.client_eq {N : Type} {s s' : Session (Tape N)}
    {result : Except ClientFault Unit} (h : Client.ShutDown s (result, s'))
    (hsealed : s.client.Sealed) :
    s'.client = { s.client with closed := true, connections := .empty } := by
  cases h with
  | again hclosed _ _ => rw [← hsealed hclosed, ← hclosed]
  | first _ _ _ => rfl

/-- What follows the first end of a client and every later one, at any point of its life and
whatever the end returns. The client stays as the end has left it: closed, without connections to
leaders, and otherwise as it was, so that no correlation id is taken. All that is done to the
network is to report events, none of them a request. A record or a refresh is refused, a further end
succeeds, and the numbers of partitions are those from before the end. -/
theorem nothing_after_close {N : Type} (net : Network N) (config : ClientConfig)
    (before later : List (Client.Operation N)) (n : N) (client : Client) (t : Tape N)
    (hlife : Client.recordedLifetime net config before n = (.ok client, t)) :
    let closed := (outcome (Client.close net.recording) ⟨client, t⟩).2
    let s := Client.operateAll net.recording (later.map .recorded) closed
    Client.lifetime net config (before ++ .close :: later) n = (.ok s.client, s.network.network) ∧
    s.client = { client with closed := true, connections := .empty } ∧
    (∃ events : List Event, s.network.acts = closed.network.acts ++ events.map .reported ∧
      Idle (events.map .reported)) ∧
    (∀ topic, s.client.partitionCount topic = client.partitionCount topic) ∧
    (∀ topic partition payload, ∃ fault,
      outcome (Client.send net topic partition payload) s.base = (.error fault, s.base)) ∧
    (∀ topic, ∃ n', outcome (Client.refresh net topic) s.base = (.error .closed, ⟨s.client, n'⟩)) ∧
    outcome (Client.close net) s.base =
      (.ok (), ⟨s.client, net.emit .clientAlreadyClosed s.network.network⟩) := by
  intro closed s
  have hshut := Client.shutDown net ⟨client, t⟩
  obtain ⟨attempts, hcomes⟩ := Client.comes_of_recordedLifetime net hlife
  -- A sealed client has nothing left to forget, so the close fixes its memory for good.
  have hsealed : Client.Sealed client := hcomes.sealed
  have hclosed : closed.client = { client with closed := true, connections := .empty } :=
    hshut.client_eq hsealed
  obtain ⟨hclient, events, hacts, hidle⟩ :=
    Client.reports_of_operateAll net (s := closed) (by rw [hclosed]) later
  replace hclient : s.client = { client with closed := true, connections := .empty } :=
    hclient.trans hclosed
  -- What is done later goes on from the recorded close; its record is erased at the end.
  have hbase := Client.base_lifetime net config (before ++ .close :: later) n
  rw [Client.recordedLifetime_append net hlife] at hbase
  have hs : s.base.client.closed = true := congrArg Client.closed hclient
  refine ⟨hbase.symm, hclient, ⟨events, hacts, hidle⟩, fun topic => ?_,
    Client.outcome_send_of_closed net hs,
    fun topic => ⟨_, Client.outcome_refresh_of_closed net hs topic⟩,
    Client.outcome_close_of_closed net hs⟩
  rw [hclient]
  rfl

/-- A client with a connection to a leader has none after its end, and answers as before how many
partitions there are. -/
theorem nothing_after_close_of_linked :
    let config : ClientConfig := ⟨["b:1"], "c", .ofMillis 1000⟩
    let before := [.refresh "t", .send "t" 0 [1]]
    let later := [.refresh "t", .send "t" 0 [2], .close]
    ∃ client t,
      Client.recordedLifetime Cluster.network config before Cluster.moving = (.ok client, t) ∧
      client.connections.get? 1 = some ⟨1, "b:1"⟩ ∧ client.partitionCount "t" = some 1 ∧
      ∃ client' c,
        Client.lifetime Cluster.network config (before ++ .close :: later) Cluster.moving =
          (.ok client', c) ∧
        client' = { client with closed := true, connections := .empty } ∧
        client'.partitionCount "t" = some 1 ∧
        (∃ fault, outcome (Client.send Cluster.network "t" 0 [3]) ⟨client', c⟩ =
          (.error fault, ⟨client', c⟩)) ∧
        (outcome (Client.refresh Cluster.network "t") ⟨client', c⟩).1 = .error .closed ∧
        (outcome (Client.close Cluster.network) ⟨client', c⟩).1 = .ok () := by
  intro config before later
  let life := Client.recordedLifetime Cluster.network config before Cluster.moving
  have hheld : life.1.toOption.any (fun client =>
      client.connections.get? 1 = some ⟨1, "b:1"⟩ ∧ client.partitionCount "t" = some 1) := by
    decide +kernel
  rcases hlife : life with ⟨fault | client, t⟩
  · rw [hlife] at hheld
    cases hheld
  rw [hlife] at hheld
  obtain ⟨hlinked, hcount⟩ := of_decide_eq_true hheld
  obtain ⟨hlater, hclient, -, hcounts, hsend, hrefresh, hclose⟩ :=
    nothing_after_close Cluster.network config before later Cluster.moving client t hlife
  obtain ⟨n', hrefresh⟩ := hrefresh "t"
  exact ⟨client, t, hlife, hlinked, hcount, _, _, hlater, hclient, (hcounts "t").trans hcount,
    hsend "t" 0 [3], congrArg Prod.fst hrefresh, congrArg Prod.fst hclose⟩

end KafkaCanary
