import KafkaCanary.Proofs.Client.Attempts

/-!
# Where connections come from

What is done to the network to get a connection, and which connection comes of it. A client has a
connection for questions and one for each leader. It goes on with the one that it has unless that
has been retired, and opens another one otherwise.

## Main results

* `Connection.opening_toAny`: nothing is written while a server is looked for;
* `Client.bootstrapped`: the ways in which the connection for questions is got;
* `Client.linked`: the ways in which the connection to a leader is got.
-/

namespace KafkaCanary

/-! ## Acts that have nothing to do with requests -/

/-- Whether an act neither belongs to a request nor opens a connection. -/
def Act.isIdle : Act → Bool
  | .reported (.requesting _ _ _ _) | .dialled _ (.ok _) | .wrote _ _ _ | .received _ _ _ => false
  | .reported _ | .dialled _ (.error _) | .shut _ _ => true

/-- Acts none of which belongs to a request or opens a connection. -/
def Idle (acts : List Act) : Prop :=
  ∀ act ∈ acts, act.isIdle

/-- No acts are idle. -/
theorem Idle.nil : Idle [] :=
  List.forall_mem_nil _

/-- Idle acts one after another are idle. -/
theorem Idle.append {acts acts' : List Act} (h : Idle acts) (h' : Idle acts') :
    Idle (acts ++ acts') :=
  List.forall_mem_append.2 ⟨h, h'⟩

/-- An idle act alone is idle. -/
theorem Idle.singleton {act : Act} (h : act.isIdle) : Idle [act] :=
  List.forall_mem_singleton.2 h

namespace Connection

/-- What is done to the network while a connection is to be opened: of all that is dialled at most
one connection is opened, and it is the one that is returned. -/
def Opens (acts : List Act) : Except ClientFault Connection → Prop
  | .error _ => Idle acts
  | .ok connection => ∃ before target after,
      acts = before ++ .dialled target (.ok connection.id) :: after ∧
        Address.parse connection.address = .ok target ∧
        Idle before ∧ Idle after

/-- Only the address given is dialled. -/
def Dials (acts : List Act) (address : String) : Prop :=
  ∀ target result, .dialled target result ∈ acts → Address.parse address = .ok target

/-- A computation that opens a connection, and does nothing else. -/
def Opening {N : Type} (x : NetworkM (Tape N) Connection) : Prop :=
  ∀ t, ∃ acts, (outcome x t).2.acts = t.acts ++ acts ∧ Opens acts (outcome x t).1

/-- A connection may be opened after idle acts. -/
theorem Opens.idle_append {idle acts : List Act} {result : Except ClientFault Connection}
    (hidle : Idle idle) (h : Opens acts result) : Opens (idle ++ acts) result := by
  cases result with
  | error fault => exact Idle.append hidle h
  | ok connection =>
    obtain ⟨before, target, after, rfl, htarget, hbefore, hafter⟩ := h
    exact ⟨idle ++ before, target, after, (List.append_assoc _ _ _).symm, htarget,
      hidle.append hbefore, hafter⟩

/-- Idle acts may follow a connection that was opened. -/
theorem Opens.append_idle {idle acts : List Act} {connection : Connection}
    (h : Opens acts (.ok connection)) (hidle : Idle idle) :
    Opens (acts ++ idle) (.ok connection) := by
  obtain ⟨before, target, after, rfl, htarget, hbefore, hafter⟩ := h
  exact ⟨before, target, after ++ idle, List.append_assoc _ _ _, htarget, hbefore,
    hafter.append hidle⟩

section Openings

variable {N : Type} (net : Network N)

/-- What fails at once has opened nothing. -/
theorem Opening.throw (fault : ClientFault) :
    Opening (MonadExcept.throw fault : NetworkM (Tape N) Connection) :=
  fun _ => ⟨[], (List.append_nil _).symm, Idle.nil⟩

/-- Where a first attempt to open a connection fails, a second may follow. -/
theorem Opening.tryCatch {x : NetworkM (Tape N) Connection}
    {f : ClientFault → NetworkM (Tape N) Connection} (hx : Opening x)
    (hf : ∀ fault, Opening (f fault)) : Opening (MonadExcept.tryCatch x f) := by
  intro t
  rw [outcome_tryCatch]
  obtain ⟨acts, hacts, hopens⟩ := hx t
  revert hacts hopens
  rcases outcome x t with ⟨fault | connection, t'⟩
  · -- The first computation has opened nothing, so the connection is that of the second.
    intro hacts hidle
    obtain ⟨acts', hacts', hopens⟩ := hf fault t'
    refine ⟨acts ++ acts', ?_, hopens.idle_append hidle⟩
    rw [hacts', hacts, List.append_assoc]
  · exact fun hacts hopens => ⟨acts, hacts, hopens⟩

/-- A connection may be opened after a report. -/
theorem Opening.reported {event : Event} (hevent : (Act.reported event).isIdle)
    {x : NetworkM (Tape N) Connection} (hx : Opening x) :
    Opening (NetworkM.change (net.recording.emit event) >>= fun _ => x) := by
  intro t
  obtain ⟨acts, hacts, hopens⟩ := hx (net.recording.emit event t)
  refine ⟨.reported event :: acts, hacts.trans (List.append_assoc _ _ _), ?_⟩
  exact hopens.idle_append (.singleton hevent)

/-- A connection may be opened after a wait, which leaves no trace. -/
theorem Opening.waited (time : Tape N → Nat) {x : NetworkM (Tape N) Connection}
    (hx : Opening x) :
    Opening (NetworkM.change (fun t => net.recording.waitUntil (time t) t) >>= fun _ => x) :=
  fun t => hx (net.recording.waitUntil (time t) t)

/-- A connection that was opened may be reported. -/
theorem Opening.thenReported {x : NetworkM (Tape N) Connection} (hx : Opening x)
    (event : Connection → Event) (hevent : ∀ c, (Act.reported (event c)).isIdle) :
    Opening
      (x >>= fun c => NetworkM.change (net.recording.emit (event c)) >>= fun _ => pure c) := by
  intro t
  rw [outcome_bind]
  obtain ⟨acts, hacts, hopens⟩ := hx t
  revert hacts hopens
  rcases outcome x t with ⟨fault | connection, t'⟩
  · exact fun hacts hopens => ⟨acts, hacts, hopens⟩
  · intro hacts hopens
    refine ⟨acts ++ [.reported (event connection)], ?_,
      hopens.append_idle (.singleton (hevent connection))⟩
    show t'.acts ++ _ = _
    rw [hacts, List.append_assoc]

/-- Dialling opens at most the connection to the address given, and dials nothing else. -/
theorem exists_acts_of_dial (limit : Duration) (address : String) (t : Tape N) :
    ∃ acts, (outcome (dial net.recording limit address) t).2.acts = t.acts ++ acts ∧
      Opens acts (outcome (dial net.recording limit address) t).1 ∧
      (∀ connection, (outcome (dial net.recording limit address) t).1 = .ok connection →
        connection.address = address) ∧
      Dials acts address := by
  unfold dial
  rcases htarget : Address.parse address with fault | target
  · exact ⟨[], (List.append_nil _).symm, Idle.nil, nofun, nofun⟩
  dsimp only
  rw [outcome_bind, outcome_get]
  dsimp only
  rw [outcome_bind, NetworkM.outcome_ask, Network.recording_connect]
  -- The address is good, so the network decides. Either way it is dialled once.
  rcases net.connect target (net.recording.elapsed t + limit.millis) t.network with ⟨mishap | id, n⟩
  · refine ⟨[.dialled target (.error mishap)], rfl, Idle.singleton rfl, nofun, ?_⟩
    intro target' result h
    cases List.mem_singleton.1 h
    exact htarget
  · refine ⟨[.dialled target (.ok id), .reported (.connected address)],
      List.append_assoc _ _ _, ?_, ?_, ?_⟩
    · exact ⟨[], target, [.reported (.connected address)], rfl, htarget, .nil,
        Idle.singleton rfl⟩
    · rintro _ ⟨⟩
      rfl
    · intro target' result h
      rcases List.mem_cons.1 h with h | h
      · cases h
        exact htarget
      · cases List.mem_singleton.1 h

/-- Opening a connection to one address dials it once, if it is an address at all. -/
theorem opening_dial (limit : Duration) (address : String) :
    Opening (dial net.recording limit address) := by
  intro t
  obtain ⟨acts, hacts, hopens, -, -⟩ := exists_acts_of_dial net limit address t
  exact ⟨acts, hacts, hopens⟩

/-- Trying the servers of a list opens the first that can be opened, by induction on the list. -/
theorem opening_sweep (limit : Duration) (attempt : Nat) (servers : List String)
    (last : ClientFault) : Opening (sweep net.recording limit attempt servers last) := by
  induction servers generalizing last with
  | nil => exact .throw last
  | cons server rest ih =>
    refine .tryCatch ?_ fun _ => ih _
    by_cases h : 1 < attempt
    · simp only [if_pos h]
      exact (opening_dial net limit server).thenReported net _ fun _ => rfl
    · simp only [if_neg h, bind_pure]
      exact opening_dial net limit server

/-- Trying the whole list again and again opens one connection or none, by induction. -/
theorem opening_tryRounds (limit : Duration) (servers : List String) (rounds attempt : Nat)
    (last : ClientFault) :
    Opening (tryRounds net.recording limit servers rounds attempt last) := by
  induction rounds generalizing attempt last with
  | zero => exact .throw last
  | succ rounds ih =>
    refine .tryCatch (opening_sweep net limit attempt servers last) fun fault => ?_
    by_cases h : rounds = 0
    · rw [if_pos h]
      exact .throw fault
    · rw [if_neg h]
      exact .reported net rfl (.waited net _ (ih (attempt + 1) fault))

/-- Whichever server is found, nothing is written on the way. -/
theorem opening_toAny (limit : Duration) (servers : List String) (attempts : Nat) :
    Opening (toAny net.recording limit servers attempts) :=
  .tryCatch (opening_tryRounds net limit servers attempts 1 .noServers) fun _ => .throw _

end Openings

end Connection

/-! ## The connections of a client -/

namespace Client

variable {N : Type}

/-- The ways in which the connection for questions is got. -/
inductive Bootstrapped (s : Session (Tape N)) :
    Except ClientFault Connection × Session (Tape N) → Prop
  | closed : s.client.closed = true → Bootstrapped s (.error .closed, s)
  | held : s.client.closed = false → s.client.isRetired s.client.bootstrap = false →
      Bootstrapped s (.ok s.client.bootstrap, s)
  | failed {fault : ClientFault} {t : Tape N} {acts : List Act} : s.client.closed = false →
      t.acts = s.network.acts ++ acts → Connection.Opens acts (.error fault) →
      Bootstrapped s (.error fault, ⟨s.client, t⟩)
  | opened {connection : Connection} {t : Tape N} {acts : List Act} : s.client.closed = false →
      t.acts = s.network.acts ++ acts → Connection.Opens acts (.ok connection) →
      Bootstrapped s (.ok connection, ⟨{ s.client with bootstrap := connection }, t⟩)

/-- The ways in which the connection to a leader is got. -/
inductive Linked (s : Session (Tape N)) (nodeId : Int32) :
    Except ClientFault Connection × Session (Tape N) → Prop
  | closed : s.client.closed = true → Linked s nodeId (.error .closed, s)
  | held {connection : Connection} : s.client.closed = false →
      s.client.connections.get? nodeId = some connection →
      s.client.isRetired connection = false → Linked s nodeId (.ok connection, s)
  | unknown : s.client.closed = false → s.client.brokers.get? nodeId = none →
      Linked s nodeId (.error (.unknownBroker nodeId), s)
  | failed {address : String} {fault : ClientFault} {t : Tape N} {acts : List Act} :
      s.client.closed = false → s.client.brokers.get? nodeId = some address →
      t.acts = s.network.acts ++ acts → Connection.Opens acts (.error fault) →
      Connection.Dials acts address → Linked s nodeId (.error fault, ⟨s.client, t⟩)
  | opened {connection : Connection} {t : Tape N} {acts : List Act} :
      s.client.closed = false → s.client.brokers.get? nodeId = some connection.address →
      t.acts = s.network.acts ++ acts → Connection.Opens acts (.ok connection) →
      Connection.Dials acts connection.address →
      Linked s nodeId (.ok connection,
        ⟨{ s.client with connections := s.client.connections.insert nodeId connection }, t⟩)

variable (net : Network N)

/-- Everything that can come of asking for the connection for questions. -/
theorem bootstrapped (s : Session (Tape N)) :
    Bootstrapped s (outcome (bootstrapConnection net.recording) s) := by
  rw [bootstrapConnection, outcome_bind]
  rcases hclosed : s.client.closed with _ | _
  · rw [ClientM.outcome_ensureOpen_of_open hclosed]
    dsimp only
    rw [outcome_bind, ClientM.outcome_ask]
    dsimp only [id]
    by_cases hretired : s.client.isRetired s.client.bootstrap
    · rw [if_pos hretired, outcome_bind, ClientM.outcome_report]
      dsimp only
      rw [outcome_bind, ClientM.outcome_onNetwork]
      dsimp only
      -- A first connection that was retired is replaced, and what replaces it is opened now.
      let event := Event.reconnecting s.client.bootstrap.address
      have hevent : Idle [.reported event] := .singleton rfl
      obtain ⟨acts, hacts, hopens⟩ := Connection.opening_toAny net s.client.config.limit
        s.client.config.servers 1 (net.recording.emit event s.network)
      replace hacts := hacts.trans (List.append_assoc _ _ _)
      revert hopens hacts
      rcases outcome
        (Connection.toAny net.recording s.client.config.limit s.client.config.servers 1)
        (net.recording.emit event s.network) with ⟨fault | connection, t⟩
      · exact fun hopens hacts => .failed hclosed hacts (hopens.idle_append hevent)
      · exact fun hopens hacts => .opened hclosed hacts (hopens.idle_append hevent)
    · rw [if_neg hretired]
      exact .held hclosed (Bool.eq_false_iff.2 hretired)
  · rw [ClientM.outcome_ensureOpen_of_closed hclosed]
    exact .closed hclosed

/-- Opening the connection to a leader links to it or fails. -/
theorem linked_openLeader {s : Session (Tape N)} (hopen : s.client.closed = false)
    (nodeId : Int32) : Linked s nodeId (outcome (openLeader net.recording nodeId) s) := by
  rw [openLeader, outcome_bind, ClientM.outcome_ask]
  dsimp only [id]
  rcases haddress : s.client.brokers.get? nodeId with _ | address
  · exact .unknown hopen haddress
  dsimp only
  rw [outcome_bind, ClientM.outcome_onNetwork]
  obtain ⟨acts, hacts, hopens, hconnection, hdials⟩ :=
    Connection.exists_acts_of_dial net s.client.config.limit address s.network
  revert hacts hopens hconnection
  rcases outcome (Connection.dial net.recording s.client.config.limit address) s.network
    with ⟨fault | connection, t⟩
  · exact fun hacts hopens _ => .failed hopen haddress hacts hopens hdials
  · intro hacts hopens hconnection
    obtain rfl := hconnection connection rfl
    exact .opened hopen haddress hacts hopens hdials

/-- Everything that can come of asking for the connection to a leader. -/
theorem linked (s : Session (Tape N)) (nodeId : Int32) :
    Linked s nodeId (outcome (leaderConnection net.recording nodeId) s) := by
  rw [leaderConnection, outcome_bind]
  rcases hclosed : s.client.closed with _ | _
  · rw [ClientM.outcome_ensureOpen_of_open hclosed]
    dsimp only
    rw [outcome_bind, ClientM.outcome_ask]
    dsimp only [id]
    rcases hconnection : s.client.connections.get? nodeId with _ | connection
    · exact linked_openLeader net hclosed nodeId
    dsimp only
    by_cases hretired : s.client.isRetired connection
    · rw [if_pos hretired]
      exact linked_openLeader net hclosed nodeId
    · rw [if_neg hretired]
      exact .held hclosed hconnection (Bool.eq_false_iff.2 hretired)
  · rw [ClientM.outcome_ensureOpen_of_closed hclosed]
    exact .closed hclosed

end Client

end KafkaCanary
