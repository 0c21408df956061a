import KafkaCanary.Proofs.Client.Connections
import KafkaCanary.Proofs.Client.Runs

/-!
# What operations end in

All the ways in which an operation of a client can end, with what is done to the network on the way.
An operation gets a connection, makes one attempt over it, and changes what the client knows only
when everything else has succeeded.

## Main results

* `Client.sent`, `Client.refreshed`, `Client.shutDown`, `Client.discovers`: everything that can come
  of a sending, a refresh, an end, and the first question of a client.
-/

namespace KafkaCanary

namespace Client

variable {N : Type}

/-- Everything that can come of sending a record. -/
inductive Sent (s : Session (Tape N)) (topic : String) (partition : Int32)
    (payload : List UInt8) : Except ClientFault Delivery × Session (Tape N) → Prop
  | unroutable {fault : ClientFault} : s.client.leaderOf topic partition = .error fault →
      Sent s topic partition payload (.error fault, s)
  | unlinked {leader : Int32} {fault : ClientFault} {s' : Session (Tape N)} :
      s.client.leaderOf topic partition = .ok leader → Linked s leader (.error fault, s') →
      Sent s topic partition payload (.error fault, s')
  | unbatched {leader : Int32} {connection : Connection} {fault : RecordBatch.Fault}
      {s' : Session (Tape N)} :
      s.client.leaderOf topic partition = .ok leader → Linked s leader (.ok connection, s') →
      Sent s topic partition payload (.error (.unbatched fault), s')
  | tried {leader : Int32} {linked : Session (Tape N)} {idle : List Act} {a : Attempt}
      {timestamp : Int64} {result : Except ClientFault Delivery} {t : Tape N} :
      s.client.leaderOf topic partition = .ok leader →
      Linked s leader (.ok a.connection, linked) →
      Idle idle → linked.client.Makes a →
      a.request = .produce
        (.single topic partition payload timestamp s.client.config.limit.millis32) →
      t.acts = linked.network.acts ++ idle ++ a.acts →
      (∀ delivery, result = .ok delivery → ∃ response,
        a.Answers (ProduceResponse.read a.version) response ∧
          response.delivery topic partition = .ok delivery) →
      a.version = (linked.client.chooseVersion .produce 3).1 →
      Sent s topic partition payload (result, ⟨linked.client.after a, t⟩)

/-- Everything that can come of a refresh. -/
inductive Refreshed (s : Session (Tape N)) (topic : String) :
    Except ClientFault Unit × Session (Tape N) → Prop
  | unlinked {idle : List Act} {begun : Tape N} {fault : ClientFault} {s' : Session (Tape N)} :
      Idle idle → begun.acts = s.network.acts ++ idle →
      Bootstrapped ⟨s.client, begun⟩ (.error fault, s') →
      Refreshed s topic (.error fault, s')
  | failed {idle : List Act} {begun t : Tape N} {linked : Session (Tape N)} {a : Attempt}
      {fault : ClientFault} :
      Idle idle → begun.acts = s.network.acts ++ idle →
      Bootstrapped ⟨s.client, begun⟩ (.ok a.connection, linked) → linked.client.Makes a →
      a.request = .metadata (.of (some [topic])) → t.acts = linked.network.acts ++ a.acts →
      a.version = (s.client.chooseVersion .metadata 1).1 →
      Refreshed s topic (.error fault, ⟨linked.client.after a, t⟩)
  | adopted {idle idle' : List Act} {begun t : Tape N} {linked : Session (Tape N)} {a : Attempt}
      {response : MetadataResponse} {listing : TopicListing} :
      Idle idle → begun.acts = s.network.acts ++ idle →
      Bootstrapped ⟨s.client, begun⟩ (.ok a.connection, linked) → linked.client.Makes a →
      a.request = .metadata (.of (some [topic])) →
      a.version = (s.client.chooseVersion .metadata 1).1 →
      t.acts = linked.network.acts ++ a.acts ++ idle' → Idle idle' →
      a.Answers (MetadataResponse.read a.version) response →
      response.listing topic = .ok listing →
      Refreshed s topic (.ok (),
        ⟨(linked.client.after a).adopt topic response.brokerTable listing.leaderTable, t⟩)

/-- Everything that can come of the first question of a client. -/
inductive Discovers (s : Session (Tape N)) : Except ClientFault Unit × Session (Tape N) → Prop
  | unlinked {idle : List Act} {begun : Tape N} {fault : ClientFault} {s' : Session (Tape N)} :
      Idle idle → begun.acts = s.network.acts ++ idle →
      Bootstrapped ⟨s.client, begun⟩ (.error fault, s') → Discovers s (.error fault, s')
  | failed {idle : List Act} {begun t : Tape N} {linked : Session (Tape N)} {a : Attempt}
      {fault : ClientFault} :
      Idle idle → begun.acts = s.network.acts ++ idle →
      Bootstrapped ⟨s.client, begun⟩ (.ok a.connection, linked) → linked.client.Makes a →
      a.request = .versions ⟨"", ""⟩ → t.acts = linked.network.acts ++ a.acts →
      Discovers s (.error fault, ⟨linked.client.after a, t⟩)
  | learnt {idle idle' : List Act} {begun t : Tape N} {linked : Session (Tape N)} {a : Attempt}
      {versions : Table Int16 (Int16 × Int16)} :
      Idle idle → begun.acts = s.network.acts ++ idle →
      Bootstrapped ⟨s.client, begun⟩ (.ok a.connection, linked) → linked.client.Makes a →
      a.request = .versions ⟨"", ""⟩ → t.acts = linked.network.acts ++ a.acts ++ idle' →
      Idle idle' → Discovers s (.ok (), ⟨{ linked.client.after a with versions := versions }, t⟩)

/-- Everything that can come of connecting to a cluster. -/
inductive Connects (config : ClientConfig) (t : Tape N) :
    Except ClientFault Client × Tape N → Prop
  | unlinked {idle : List Act} {fault : ClientFault} {t' : Tape N} :
      Idle idle → t'.acts = t.acts ++ idle → Connects config t (.error fault, t')
  | refused {connection : Connection} {acts : List Act} {begun : Tape N} {fault : ClientFault}
      {s : Session (Tape N)} :
      Connection.Opens acts (.ok connection) → begun.acts = t.acts ++ acts →
      Discovers ⟨.init config connection, begun⟩ (.error fault, s) →
      Connects config t (.error fault, s.network)
  | answered {connection : Connection} {acts : List Act} {begun : Tape N}
      {s : Session (Tape N)} :
      Connection.Opens acts (.ok connection) → begun.acts = t.acts ++ acts →
      Discovers ⟨.init config connection, begun⟩ (.ok (), s) →
      Connects config t (.ok s.client, s.network)

/-- Everything that can come of an end. -/
inductive ShutDown (s : Session (Tape N)) : Except ClientFault Unit × Session (Tape N) → Prop
  | again {idle : List Act} {result : Except ClientFault Unit} {t : Tape N} :
      s.client.closed = true → Idle idle → t.acts = s.network.acts ++ idle →
      ShutDown s (result, ⟨s.client, t⟩)
  | first {idle : List Act} {result : Except ClientFault Unit} {t : Tape N} :
      s.client.closed = false → Idle idle → t.acts = s.network.acts ++ idle →
      ShutDown s (result, ⟨{ s.client with closed := true, connections := .empty }, t⟩)

variable (net : Network N)

theorem acts_foldl_emit (events : List Event) (t : Tape N) :
    (events.foldl (fun t event => net.recording.emit event t) t).acts =
      t.acts ++ events.map .reported := by
  induction events generalizing t with
  | nil => exact (List.append_nil _).symm
  | cons event events ih => exact (ih _).trans (List.append_assoc _ _ _)

theorem idle_chooseVersion (client : Client) (api : ApiKey) (preferred : Int16) :
    Idle ((client.chooseVersion api preferred).2.map .reported) := by
  unfold chooseVersion
  rcases client.versions.get? api.code with _ | ⟨least, greatest⟩
  · exact Idle.singleton rfl
  dsimp only
  by_cases h : least ≤ preferred ∧ preferred ≤ greatest
  · rw [if_pos h]
    exact Idle.nil
  · rw [if_neg h]
    exact Idle.singleton rfl

theorem outcome_supportedVersion (api : ApiKey) (preferred : Int16) (s : Session N) :
    outcome (supportedVersion net api preferred) s =
      (.ok (s.client.chooseVersion api preferred).1,
        ⟨s.client, (s.client.chooseVersion api preferred).2.foldl (fun n e => net.emit e n)
          s.network⟩) :=
  rfl

/-- A record without a leader is not sent. -/
theorem outcome_send_of_unroutable {s : Session N} {topic : String} {partition : Int32}
    {fault : ClientFault} (h : s.client.leaderOf topic partition = .error fault)
    (payload : List UInt8) :
    outcome (send net topic partition payload) s = (.error fault, s) := by
  rw [send, outcome_bind, ClientM.outcome_ask]
  dsimp only [id]
  rw [outcome_bind, ClientM.outcome_ofExcept, h]
  rfl

/-- Everything that can come of sending a record. -/
theorem sent (topic : String) (partition : Int32) (payload : List UInt8)
    (s : Session (Tape N)) :
    Sent s topic partition payload
      (outcome (send net.recording topic partition payload) s) := by
  rw [send, outcome_bind, ClientM.outcome_ask]
  dsimp only [id]
  rw [outcome_bind, ClientM.outcome_ofExcept]
  rcases hleader : s.client.leaderOf topic partition with fault | leader
  · exact .unroutable hleader
  dsimp only [mapError_ok]
  rw [outcome_bind]
  have hlinked := linked net s leader
  revert hlinked
  rcases outcome (leaderConnection net.recording leader) s with ⟨fault | connection, linked⟩
  · exact .unlinked hleader
  intro hlinked
  dsimp only
  rw [outcome_bind, outcome_get]
  dsimp only
  rw [outcome_bind, ClientM.outcome_ofExcept, ProduceRequest.build]
  rcases RecordBatch.fault? (net.recording.now linked.network) payload with _ | fault
  rotate_left
  · exact .unbatched hleader hlinked
  dsimp only [mapError_ok]
  rw [outcome_bind, outcome_supportedVersion]
  -- From here on there is an attempt, whatever comes of it.
  refine ((calls_call net _ _ _ _).during _).bind (P := Sent s topic partition payload) ?_
  rintro a t rfl hrequest hversion hmakes hacts
  rw [acts_foldl_emit] at hacts
  have htried : ∀ result, (∀ delivery, result = .ok delivery → ∃ response,
      a.Answers (ProduceResponse.read a.version) response ∧
        response.delivery topic partition = .ok delivery) →
      Sent s topic partition payload (result, ⟨linked.client.after a, t⟩) := fun _ hdelivery =>
    .tried hleader hlinked (idle_chooseVersion linked.client .produce 3) hmakes hrequest hacts
      hdelivery hversion
  constructor
  · exact fun fault => htried _ nofun
  · intro response hanswers
    rw [ClientM.outcome_ofExcept]
    refine htried _ fun delivery hdelivery => ⟨response, ?_, mapError_eq_ok_iff.1 hdelivery⟩
    rwa [hversion]

/-- Everything that can come of a refresh. -/
theorem refreshed (topic : String) (s : Session (Tape N)) :
    Refreshed s topic (outcome (refresh net.recording topic) s) := by
  rw [refresh, outcome_bind, outcome_supportedVersion]
  dsimp only
  have hbegun := acts_foldl_emit net (s.client.chooseVersion .metadata 1).2 s.network
  have hidle := idle_chooseVersion s.client .metadata 1
  revert hbegun
  generalize (s.client.chooseVersion .metadata 1).2.foldl
    (fun t event => net.recording.emit event t) s.network = begun
  intro hbegun
  rw [outcome_bind]
  have hlinked := bootstrapped net ⟨s.client, begun⟩
  revert hlinked
  rcases outcome (bootstrapConnection net.recording) ⟨s.client, begun⟩
    with ⟨fault | connection, linked⟩
  · exact .unlinked hidle hbegun
  intro hlinked
  refine ((calls_call net _ _ _ _).during _).bind (P := Refreshed s topic) ?_
  rintro a t rfl hrequest hversion hmakes hacts
  have hfailed : ∀ fault, Refreshed s topic (.error fault, ⟨linked.client.after a, t⟩) := fun _ =>
    .failed hidle hbegun hlinked hmakes hrequest hacts hversion
  refine ⟨hfailed, fun response hanswers => ?_⟩
  -- The last thing that can fail is the listing. Nothing has been adopted before.
  rw [outcome_bind, ClientM.outcome_ofExcept]
  rcases hlisting : response.listing topic with fault | listing
  · exact hfailed _
  dsimp only [mapError_ok]
  rw [outcome_bind, ClientM.outcome_reportAll]
  dsimp only
  rw [outcome_bind, ClientM.outcome_report]
  dsimp only
  rw [ClientM.outcome_update]
  have hread : Idle ((listing.events topic).map .reported ++
      [.reported (.metadataRead topic listing.leaderTable.size response.brokerTable.size)]) := by
    refine Idle.append ?_ (.singleton rfl)
    rw [TopicListing.events, List.map_map]
    exact List.forall_mem_map.2 fun _ _ => rfl
  refine .adopted hidle hbegun hlinked hmakes hrequest hversion ?_ hread ?_ hlisting
  · show ((listing.events topic).foldl (fun t event => net.recording.emit event t) t).acts ++ _ = _
    rw [acts_foldl_emit, hacts, List.append_assoc]
  · rwa [hversion]

/-- Everything that can come of the first question of a client. -/
theorem discovers (s : Session (Tape N)) :
    Discovers s (outcome (discoverVersions net.recording) s) := by
  rw [discoverVersions, outcome_bind, ClientM.outcome_report]
  dsimp only
  rw [outcome_bind]
  have hidle : Idle [.reported .discovering] := Idle.singleton rfl
  let begun := net.recording.emit .discovering s.network
  have hlinked := bootstrapped net ⟨s.client, begun⟩
  revert hlinked
  rcases outcome (bootstrapConnection net.recording) ⟨s.client, begun⟩
    with ⟨fault | connection, linked⟩
  · exact .unlinked hidle rfl
  intro hlinked
  refine (calls_call net _ _ _ _).bind (P := Discovers s) ?_
  rintro a t rfl hrequest - hmakes hacts
  -- From here on a fault leaves the client with the request made and nothing learnt.
  have hfailed : ∀ fault, Discovers s (.error fault, ⟨linked.client.after a, t⟩) := fun _ =>
    .failed hidle rfl hlinked hmakes hrequest hacts
  refine ⟨hfailed, fun response _ => ?_⟩
  by_cases hcode : response.errorCode ≠ 0
  · rw [if_pos hcode]
    exact hfailed _
  rw [if_neg hcode]
  refine .learnt hidle rfl hlinked hmakes hrequest (congrArg (· ++ _) hacts) ?_
  exact Idle.singleton rfl

/-- Everything that can come of connecting to a cluster. -/
theorem connects (config : ClientConfig) (t : Tape N) :
    Connects config t (connect net.recording config t) := by
  rw [connect_eq]
  by_cases h : config.servers.isEmpty
  · rw [if_pos h]
    have hnone : Idle [] := .nil
    exact .unlinked hnone (List.append_nil _).symm
  rw [if_neg h]
  have hconnecting : Idle [.reported (.connecting config.servers)] := .singleton rfl
  obtain ⟨acts, hacts, hopens⟩ := Connection.opening_toAny net config.limit config.servers
    connectAttempts (net.recording.emit (.connecting config.servers) t)
  have hacts := hacts.trans (List.append_assoc _ _ _)
  revert hopens hacts
  rcases outcome (Connection.toAny net.recording config.limit config.servers connectAttempts)
    (net.recording.emit (.connecting config.servers) t) with ⟨fault | connection, t'⟩
  · exact fun hidle hacts => .unlinked (hconnecting.append hidle) hacts
  intro hopens hacts
  have hbegun : (net.recording.emit (.bootstrapped connection.address) t').acts =
      t.acts ++ (.reported (.connecting config.servers) :: (acts ++
        [.reported (.bootstrapped connection.address)])) :=
    (congrArg (· ++ _) hacts).trans (List.append_assoc _ _ _)
  have hbootstrapped : Idle [.reported (.bootstrapped connection.address)] := .singleton rfl
  -- The reports before and after are idle and belong to the opening.
  replace hopens := (hopens.append_idle hbootstrapped).idle_append hconnecting
  have hdiscovers := discovers net ⟨.init config connection,
    net.recording.emit (.bootstrapped connection.address) t'⟩
  revert hdiscovers
  dsimp only
  rcases outcome (discoverVersions net.recording) ⟨.init config connection,
    net.recording.emit (.bootstrapped connection.address) t'⟩ with ⟨fault | ⟨⟩, s⟩
  · exact .refused hopens hbegun
  · exact .answered hopens hbegun

/-- A computation that changes nothing about the client and makes no request. -/
def Idles {α : Type} (x : ClientM (Tape N) α) : Prop :=
  ∀ s, ∃ idle, Idle idle ∧ (outcome x s).2.client = s.client ∧
    (outcome x s).2.network.acts = s.network.acts ++ idle

theorem Idles.pure {α : Type} (a : α) : Idles (Pure.pure a : ClientM (Tape N) α) :=
  fun _ => ⟨[], .nil, rfl, (List.append_nil _).symm⟩

theorem Idles.bind {α β : Type} {x : ClientM (Tape N) α} {f : α → ClientM (Tape N) β}
    (hx : Idles x) (hf : ∀ a, Idles (f a)) : Idles (x >>= f) := by
  intro s
  rw [outcome_bind]
  obtain ⟨idle, hidle, hclient, hacts⟩ := hx s
  revert hclient hacts
  rcases outcome x s with ⟨fault | a, s'⟩
  · exact fun hclient hacts => ⟨idle, hidle, hclient, hacts⟩
  · intro hclient hacts
    obtain ⟨idle', hidle', hclient', hacts'⟩ := hf a s'
    refine ⟨idle ++ idle', hidle.append hidle', hclient'.trans hclient, ?_⟩
    rw [hacts', hacts, List.append_assoc]

theorem idles_mapM {α β : Type} {f : α → ClientM (Tape N) β} (h : ∀ a, Idles (f a))
    (as : List α) : Idles (as.mapM f) := by
  induction as with
  | nil => exact .pure []
  | cons a as ih =>
    rw [List.mapM_cons]
    exact (h a).bind fun b => ih.bind fun bs => .pure (b :: bs)

theorem idles_shutConnection (connection : Connection) :
    Idles (shutConnection net.recording connection) := by
  intro s
  rw [outcome_shutConnection]
  by_cases hretired : s.client.isRetired connection
  · rw [if_pos hretired]
    exact ⟨[], .nil, rfl, (List.append_nil _).symm⟩
  rw [if_neg hretired]
  dsimp only
  rw [Network.recording_shutdown]
  dsimp only
  cases shutResult connection.address (net.shutdown connection.id s.network.network).1 with
  | none => exact ⟨[_], Idle.singleton rfl, rfl, rfl⟩
  | some fault =>
    refine ⟨[.shut _ _, .reported (.closeFailed fault.message)], ?_, rfl, List.append_assoc _ _ _⟩
    exact List.forall_mem_cons.2 ⟨rfl, Idle.singleton rfl⟩

/-- Everything that can come of an end. -/
theorem shutDown (s : Session (Tape N)) : ShutDown s (outcome (close net.recording) s) := by
  rw [close, outcome_bind, ClientM.outcome_ask]
  dsimp only
  by_cases hclosed : s.client.closed
  · rw [if_pos hclosed]
    exact .again hclosed (.singleton rfl) rfl
  rw [if_neg hclosed, outcome_bind, ClientM.outcome_ask]
  dsimp only [id]
  rw [outcome_bind, ClientM.outcome_update]
  dsimp only
  rw [outcome_bind]
  -- Connections are shut one after another, and a fault with one does not keep the others open.
  obtain ⟨idle, hidle, hclient, hacts⟩ := idles_mapM (idles_shutConnection net)
    (s.client.connections.entries.map (·.2) ++ [s.client.bootstrap])
    ⟨{ s.client with closed := true, connections := .empty }, s.network⟩
  revert hclient hacts
  rcases outcome ((s.client.connections.entries.map (·.2) ++ [s.client.bootstrap]).mapM
      (shutConnection net.recording))
    ⟨{ s.client with closed := true, connections := .empty }, s.network⟩
    with ⟨fault | faults, ⟨client, t⟩⟩
  · rintro rfl hacts
    exact .first (Bool.eq_false_iff.2 hclosed) hidle hacts
  · rintro rfl hacts
    dsimp only
    rcases faults.findSome? id with _ | fault
    · exact .first (Bool.eq_false_iff.2 hclosed) hidle hacts
    · exact .first (Bool.eq_false_iff.2 hclosed) hidle hacts

end Client

end KafkaCanary
