import KafkaCanary.Proofs.Client.Operations
import KafkaCanary.Proofs.Client.Runs
import KafkaCanary.Proofs.Table
import Mathlib.Logic.Relation

/-!
# The journal of a client

The life of a client as a sequence of steps. A step does something to the network that is no part of
a request, opens a connection, makes an attempt over a connection that the client has and has not
retired, or changes what the client knows (`Journal.Step`). What every step preserves holds through
the whole life of a client.

That a connection was not retired before an attempt takes that the network gives no number twice:
only then is a connection that was just opened not one of those retired.

## Main results

* `Client.exists_reaches_of_operate`: every operation is a sequence of steps;
* `Client.exists_comes_of_recordedLifetime`: so is the life of a client;
* `Journal.Reaches.preserves`: an invariant of the steps is one of the life.
-/

namespace KafkaCanary

/-! ## Connections -/

/-- The number of the connection that an act opened, if it opened one. -/
def Act.issued? : Act → Option Nat
  | .dialled _ (.ok id) => some id
  | _ => none

/-- The numbers given to connections. -/
def issued (acts : List Act) : List Nat :=
  acts.filterMap Act.issued?

/-- Connections are issued in the order of the acts. -/
theorem issued_append (acts acts' : List Act) :
    issued (acts ++ acts') = issued acts ++ issued acts' :=
  List.filterMap_append

/-- If no connection is issued twice in the end, none was at any moment before. -/
theorem nodup_issued_mono {acts acts' : List Act} (hgrows : acts <+: acts')
    (h : (issued acts').Nodup) : (issued acts).Nodup :=
  h.sublist (hgrows.filterMap _).sublist

/-- A connection was opened to one address, if the network gives no number twice. -/
theorem eq_of_dialled {acts : List Act} (hissued : (issued acts).Nodup) {id : Nat}
    {target target' : Address} (h : .dialled target (.ok id) ∈ acts)
    (h' : .dialled target' (.ok id) ∈ acts) : target = target' := by
  obtain ⟨before, after, rfl⟩ := List.append_of_mem h
  have hid : id ∉ issued (before ++ after) := by
    rw [issued_append] at hissued ⊢
    exact (List.nodup_cons.1 (List.perm_middle.nodup hissued)).1
  have hother : Act.dialled target' (.ok id) ∉ before ++ after :=
    fun hmem => hid (List.mem_filterMap.2 ⟨_, hmem, rfl⟩)
  rw [List.mem_append] at hother
  rcases List.mem_append.1 h' with h' | h'
  · exact absurd (.inl h') hother
  rcases List.mem_cons.1 h' with heq | h'
  · cases heq
    rfl
  · exact absurd (.inr h') hother

/-- A connection was opened at its address. -/
def Dialled (acts : List Act) (connection : Connection) : Prop :=
  ∃ target, Address.parse connection.address = .ok target ∧
    .dialled target (.ok connection.id) ∈ acts

/-- A connection that was opened remains so. -/
theorem Dialled.mono {acts acts' : List Act} {connection : Connection}
    (h : Dialled acts connection) (hgrows : acts <+: acts') : Dialled acts' connection := by
  obtain ⟨target, htarget, hmem⟩ := h
  exact ⟨target, htarget, hgrows.subset hmem⟩

/-- A connection that was opened was issued. -/
theorem Dialled.mem_issued {acts : List Act} {connection : Connection}
    (h : Dialled acts connection) : connection.id ∈ issued acts := by
  obtain ⟨target, -, hmem⟩ := h
  exact List.mem_filterMap.2 ⟨_, hmem, rfl⟩

/-- Whether a client has a connection, be it for questions or to a leader. -/
def Client.Holds (client : Client) (connection : Connection) : Prop :=
  connection = client.bootstrap ∨
    ∃ nodeId, client.connections.get? nodeId = some connection

/-- What a connection has to be for an attempt. It has not been retired, unless the network gave it
a number that it had given before. -/
structure Client.Usable (client : Client) (acts : List Act) (connection : Connection) : Prop where
  opened : client.closed = false
  held : client.Holds connection
  fresh : (issued acts).Nodup → client.isRetired connection = false

/-- A connection that may be used remains so as acts are added. -/
theorem Client.Usable.mono {client : Client} {acts acts' : List Act} {connection : Connection}
    (h : client.Usable acts connection) (hgrows : acts <+: acts') :
    client.Usable acts' connection :=
  ⟨h.opened, h.held, fun hnodup => h.fresh (nodup_issued_mono hgrows hnodup)⟩

/-! ## Steps -/

/-- A client with what was done to its network, and the attempts among that. -/
structure Journal where
  client : Client
  acts : List Act
  attempts : List Attempt

namespace Journal

/-- Everything that can happen to a client in one go. -/
inductive Step : Journal → Journal → Prop
  | idle {client : Client} {acts : List Act} {attempts : List Attempt} {act : Act} :
      act.isIdle → Step ⟨client, acts, attempts⟩ ⟨client, acts ++ [act], attempts⟩
  | rebootstrap {client : Client} {acts : List Act} {attempts : List Attempt}
      {connection : Connection} {target : Address} :
      client.closed = false → Address.parse connection.address = .ok target →
      Step ⟨client, acts, attempts⟩ ⟨{ client with bootstrap := connection },
        acts ++ [.dialled target (.ok connection.id)], attempts⟩
  | link {client : Client} {acts : List Act} {attempts : List Attempt} {nodeId : Int32}
      {connection : Connection} {target : Address} :
      client.closed = false → client.brokers.get? nodeId = some connection.address →
      Address.parse connection.address = .ok target →
      Step ⟨client, acts, attempts⟩
        ⟨{ client with connections := client.connections.insert nodeId connection },
          acts ++ [.dialled target (.ok connection.id)], attempts⟩
  | attempt {client : Client} {acts : List Act} {attempts : List Attempt} {a : Attempt} :
      client.Usable acts a.connection → client.Makes a →
      Step ⟨client, acts, attempts⟩ ⟨client.after a, acts ++ a.acts, attempts ++ [a]⟩
  | learn {client : Client} {acts : List Act} {attempts : List Attempt}
      {versions : Table Int16 (Int16 × Int16)} :
      Step ⟨client, acts, attempts⟩ ⟨{ client with versions := versions }, acts, attempts⟩
  | adopt {client : Client} {acts : List Act} {attempts : List Attempt} {topic : String}
      {brokers : BrokerTable} {partitions : LeaderTable} :
      Step ⟨client, acts, attempts⟩ ⟨client.adopt topic brokers partitions, acts, attempts⟩
  | close {client : Client} {acts : List Act} {attempts : List Attempt} :
      Step ⟨client, acts, attempts⟩
        ⟨{ client with closed := true, connections := .empty }, acts, attempts⟩

/-- Any number of steps. -/
def Reaches : Journal → Journal → Prop :=
  Relation.ReflTransGen Step

/-- What every step preserves, any number of steps preserve. -/
theorem Reaches.preserves {P : Journal → Prop} (hstep : ∀ {i j}, Step i j → P i → P j)
    {i j : Journal} (h : Reaches i j) (hi : P i) : P j := by
  induction h with
  | refl => exact hi
  | tail _ hs ih => exact hstep hs ih

/-- Nothing that was done is undone. -/
theorem Reaches.acts_grow {i j : Journal} (h : Reaches i j) : i.acts <+: j.acts := by
  refine h.preserves (P := fun j => i.acts <+: j.acts) (fun hstep hgrows => ?_) List.prefix_rfl
  cases hstep with
  | idle _ | rebootstrap _ _ | link _ _ _ | attempt _ _ =>
    exact hgrows.trans (List.prefix_append _ _)
  | learn | adopt | close => exact hgrows

/-- Acts between requests are steps of the journal. -/
theorem reaches_idle {idle : List Act} (hidle : Idle idle) (client : Client) (acts : List Act)
    (attempts : List Attempt) :
    Reaches ⟨client, acts, attempts⟩ ⟨client, acts ++ idle, attempts⟩ := by
  induction idle generalizing acts with
  | nil =>
    rw [List.append_nil]
    exact .refl
  | cons act idle ih =>
    obtain ⟨hact, hrest⟩ := List.forall_mem_cons.1 hidle
    have := ih hrest (acts ++ [act])
    rw [List.append_assoc] at this
    exact .head (.idle hact) this

/-! ## What is known about connections -/

/-- Every connection that the client has was opened at its address, and every one that it has
retired was opened. -/
structure Known (j : Journal) : Prop where
  bootstrap : Dialled j.acts j.client.bootstrap
  connections : ∀ entry ∈ j.client.connections.entries, Dialled j.acts entry.2
  retired : ∀ id ∈ j.client.retired, id ∈ issued j.acts

/-- A connection that is held was opened. -/
theorem Known.holds {j : Journal} (h : j.Known) {connection : Connection}
    (hholds : j.client.Holds connection) : Dialled j.acts connection := by
  rcases hholds with rfl | ⟨nodeId, hconnection⟩
  · exact h.bootstrap
  · exact h.connections (nodeId, connection) (Table.mem_of_get? hconnection)

/-- What is done later takes nothing away. -/
theorem Known.mono {client : Client} {acts acts' : List Act} {attempts : List Attempt}
    (h : Known ⟨client, acts, attempts⟩) (hgrows : acts <+: acts') :
    Known ⟨client, acts', attempts⟩ where
  bootstrap := h.bootstrap.mono hgrows
  connections entry hentry := (h.connections entry hentry).mono hgrows
  retired id hid := (hgrows.filterMap _).subset (h.retired id hid)

/-- One step leaves every connection that is held one that was opened. -/
theorem Step.known {i j : Journal} (hstep : Step i j) (h : i.Known) : j.Known := by
  cases hstep with
  | idle _ => exact h.mono (List.prefix_append _ _)
  | @rebootstrap client acts attempts connection target _ htarget =>
    obtain ⟨-, hconnections, hretired⟩ :
        Known ⟨client, acts ++ [.dialled target (.ok connection.id)], attempts⟩ :=
      h.mono (List.prefix_append _ _)
    refine ⟨⟨target, htarget, ?_⟩, hconnections, hretired⟩
    exact List.mem_append_right _ List.mem_cons_self
  | @link client acts attempts nodeId connection target _ _ htarget =>
    obtain ⟨hbootstrap, hconnections, hretired⟩ :
        Known ⟨client, acts ++ [.dialled target (.ok connection.id)], attempts⟩ :=
      h.mono (List.prefix_append _ _)
    refine ⟨hbootstrap, fun entry hentry => ?_, hretired⟩
    rcases Table.mem_insertEntry hentry with rfl | hentry
    · exact ⟨target, htarget, List.mem_append_right _ List.mem_cons_self⟩
    · exact hconnections entry hentry
  | @attempt client acts attempts a husable _ =>
    -- The connection that the attempt may retire is one that the client has.
    have hdialled := h.holds husable.held
    obtain ⟨hbootstrap, hconnections, hretired⟩ : Known ⟨client, acts ++ a.acts, attempts⟩ :=
      h.mono (List.prefix_append _ _)
    refine ⟨hbootstrap, hconnections, fun id hid => ?_⟩
    replace hid : id ∈ if a.retires then a.connection.id :: client.retired else client.retired :=
      hid
    by_cases hretires : a.retires
    · rw [if_pos hretires] at hid
      rcases List.mem_cons.1 hid with rfl | hid
      · exact (hdialled.mono (List.prefix_append acts a.acts)).mem_issued
      · exact hretired id hid
    · rw [if_neg hretires] at hid
      exact hretired id hid
  | learn => exact ⟨h.bootstrap, h.connections, h.retired⟩
  | adopt =>
    exact ⟨h.bootstrap, fun entry hentry => h.connections entry (List.mem_filter.1 hentry).1,
      h.retired⟩
  | close => exact ⟨h.bootstrap, nofun, h.retired⟩

end Journal

/-! ## Operations as sequences of steps -/

/-- A session as a journal. -/
def Session.journal {N : Type} (s : Session (Tape N)) (attempts : List Attempt) : Journal :=
  ⟨s.client, s.network.acts, attempts⟩

open Journal

namespace Client

variable {N : Type} {s s' : Session (Tape N)}

/-- A connection that was just opened is not one of those retired, if no number is given twice. -/
theorem isRetired_eq_false_of_opens {acts acts' : List Act} {client : Client}
    {connection : Connection} (hopens : Connection.Opens acts' (.ok connection))
    (hretired : ∀ id ∈ client.retired, id ∈ issued acts) (hnodup : (issued (acts ++ acts')).Nodup) :
    client.isRetired connection = false := by
  -- The numbers that are retired were given before, and the number of the connection only now.
  obtain ⟨before, target, after, rfl, -, -, -⟩ := hopens
  rw [issued_append, List.nodup_append] at hnodup
  have hmem : connection.id ∈ issued (before ++ .dialled target (.ok connection.id) :: after) :=
    List.mem_filterMap.2 ⟨_, List.mem_append_right _ List.mem_cons_self, rfl⟩
  rw [isRetired, List.contains_eq_mem, decide_eq_false_iff_not]
  exact fun hid => hnodup.2.2 _ (hretired _ hid) _ hmem rfl

/-- The client takes a connection over when it is opened, between acts that do not matter. -/
theorem reaches_of_opens {client client' : Client} {connection : Connection} {acts' : List Act}
    (hopens : Connection.Opens acts' (.ok connection)) (acts : List Act)
    {attempts : List Attempt}
    (hstep : ∀ acts target, Address.parse connection.address = .ok target →
      Step ⟨client, acts, attempts⟩
        ⟨client', acts ++ [.dialled target (.ok connection.id)], attempts⟩) :
    Reaches ⟨client, acts, attempts⟩ ⟨client', acts ++ acts', attempts⟩ := by
  obtain ⟨before, target, after, rfl, htarget, hbefore, hafter⟩ := hopens
  have heq : acts ++ (before ++ .dialled target (.ok connection.id) :: after) =
      acts ++ before ++ [.dialled target (.ok connection.id)] ++ after := by
    simp only [List.append_assoc, List.cons_append, List.nil_append]
  rw [heq]
  exact (reaches_idle hbefore client acts attempts).trans
    (.head (hstep _ target htarget) (reaches_idle hafter client' _ attempts))

/-- Bootstrapping is a sequence of steps. -/
theorem Bootstrapped.reaches {result : Except ClientFault Connection}
    (h : Bootstrapped s (result, s')) (attempts : List Attempt) :
    Reaches (s.journal attempts) (s'.journal attempts) := by
  unfold Session.journal
  cases h with
  | closed _ => exact .refl
  | held _ _ => exact .refl
  | failed _ hacts hopens =>
    rw [hacts]
    exact reaches_idle hopens _ _ _
  | opened hclosed hacts hopens =>
    rw [hacts]
    exact reaches_of_opens hopens _ fun _ _ htarget => .rebootstrap hclosed htarget

/-- Linking to a leader is a sequence of steps. -/
theorem Linked.reaches {nodeId : Int32} {result : Except ClientFault Connection}
    (h : Linked s nodeId (result, s')) (attempts : List Attempt) :
    Reaches (s.journal attempts) (s'.journal attempts) := by
  unfold Session.journal
  cases h with
  | closed _ => exact .refl
  | held _ _ _ => exact .refl
  | unknown _ _ => exact .refl
  | failed _ _ hacts hopens _ =>
    rw [hacts]
    exact reaches_idle hopens _ _ _
  | opened hclosed hbroker hacts hopens _ =>
    rw [hacts]
    exact reaches_of_opens hopens _ fun _ _ htarget => .link hclosed hbroker htarget

/-- The connection for questions can be used. -/
theorem Bootstrapped.usable {connection : Connection} (h : Bootstrapped s (.ok connection, s'))
    (hretired : ∀ id ∈ s.client.retired, id ∈ issued s.network.acts) :
    s'.client.Usable s'.network.acts connection := by
  cases h with
  | held hclosed hfresh => exact ⟨hclosed, .inl rfl, fun _ => hfresh⟩
  | opened hclosed hacts hopens =>
    rw [hacts]
    exact ⟨hclosed, .inl rfl, isRetired_eq_false_of_opens hopens hretired⟩

/-- So can the connection to a leader. -/
theorem Linked.usable {nodeId : Int32} {connection : Connection}
    (h : Linked s nodeId (.ok connection, s'))
    (hretired : ∀ id ∈ s.client.retired, id ∈ issued s.network.acts) :
    s'.client.Usable s'.network.acts connection := by
  cases h with
  | held hclosed hconnection hfresh =>
    exact ⟨hclosed, .inr ⟨nodeId, hconnection⟩, fun _ => hfresh⟩
  | opened hclosed hbroker hacts hopens _ =>
    rw [hacts]
    have hconnection := Table.get?_insert s.client.connections nodeId nodeId connection
    rw [if_pos rfl] at hconnection
    exact ⟨hclosed, .inr ⟨nodeId, hconnection⟩, isRetired_eq_false_of_opens hopens hretired⟩

/-- A sending is a sequence of steps, with one attempt at most. It succeeds only with an answer to
that attempt. -/
theorem Sent.exists_reaches {topic : String} {partition : Int32} {payload : List UInt8}
    {result : Except ClientFault Delivery} (h : Sent s topic partition payload (result, s'))
    (hretired : ∀ id ∈ s.client.retired, id ∈ issued s.network.acts)
    (attempts : List Attempt) :
    ∃ new, Reaches (s.journal attempts) (s'.journal (attempts ++ new)) ∧
      (∀ a ∈ new, (Operation.send topic partition payload : Operation N).Asks a.request) ∧
      ∀ delivery, result = .ok delivery → ∃ a response, new = [a] ∧
        a.Answers (ProduceResponse.read a.version) response ∧
        response.delivery topic partition = .ok delivery := by
  cases h with
  | unroutable _ => exact ⟨[], by rw [List.append_nil]; exact .refl, List.forall_mem_nil _, nofun⟩
  | unlinked _ hlinked | unbatched _ hlinked =>
    exact ⟨[], by rw [List.append_nil]; exact hlinked.reaches _, List.forall_mem_nil _, nofun⟩
  | @tried _ linked idle a timestamp _ t _ hlinked hidle hmakes hrequest hacts hdelivery =>
    -- The connection was linked to before the reports, and remains usable after them.
    have husable := (hlinked.usable hretired).mono (List.prefix_append _ idle)
    refine ⟨[a], ?_, List.forall_mem_singleton.2 ⟨_, _, hrequest⟩, fun delivery hresult => ?_⟩
    · unfold Session.journal
      rw [hacts]
      exact ((hlinked.reaches attempts).trans (reaches_idle hidle _ _ _)).tail
        (.attempt husable hmakes)
    · obtain ⟨response, hanswers, hresponse⟩ := hdelivery delivery hresult
      exact ⟨a, response, rfl, hanswers, hresponse⟩

/-- A question over the connection for questions starts with some reports, and is one attempt. -/
theorem Bootstrapped.reaches_attempt {client : Client} {acts idle : List Act} {begun : Tape N}
    {linked : Session (Tape N)} {a : Attempt} (hidle : Idle idle)
    (hbegun : begun.acts = acts ++ idle)
    (hlinked : Bootstrapped ⟨client, begun⟩ (.ok a.connection, linked))
    (hmakes : linked.client.Makes a) (hretired : ∀ id ∈ client.retired, id ∈ issued acts)
    (attempts : List Attempt) :
    Reaches ⟨client, acts, attempts⟩
      ⟨linked.client.after a, linked.network.acts ++ a.acts, attempts ++ [a]⟩ := by
  have hbegin : Reaches ⟨client, acts, attempts⟩ ⟨client, begun.acts, attempts⟩ := by
    rw [hbegun]
    exact reaches_idle hidle _ _ _
  have hissued : ∀ id ∈ client.retired, id ∈ issued begun.acts := by
    intro id hid
    rw [hbegun, issued_append]
    exact List.mem_append_left _ (hretired id hid)
  exact (hbegin.trans (hlinked.reaches attempts)).tail
    (.attempt (hlinked.usable hissued) hmakes)

/-- A refresh is a sequence of steps, with one attempt at most. -/
theorem Refreshed.exists_reaches {topic : String} {result : Except ClientFault Unit}
    (h : Refreshed s topic (result, s'))
    (hretired : ∀ id ∈ s.client.retired, id ∈ issued s.network.acts)
    (attempts : List Attempt) :
    ∃ new, Reaches (s.journal attempts) (s'.journal (attempts ++ new)) ∧
      ∀ a ∈ new, (Operation.refresh topic : Operation N).Asks a.request := by
  unfold Session.journal
  cases h with
  | @unlinked _ begun _ _ hidle hbegun hlinked =>
    refine ⟨[], ?_, List.forall_mem_nil _⟩
    rw [List.append_nil]
    refine .trans ?_ (hlinked.reaches attempts)
    unfold Session.journal
    rw [hbegun]
    exact reaches_idle hidle _ _ _
  | @failed _ _ _ _ a _ hidle hbegun hlinked hmakes hrequest hacts =>
    rw [hacts]
    refine ⟨[a], ?_, List.forall_mem_singleton.2 hrequest⟩
    exact hlinked.reaches_attempt hidle hbegun hmakes hretired attempts
  | @adopted _ _ _ _ _ a _ _ hidle hbegun hlinked hmakes hrequest _ hacts hidle' _ _ =>
    rw [hacts]
    refine ⟨[a], ?_, List.forall_mem_singleton.2 hrequest⟩
    have hasked := hlinked.reaches_attempt hidle hbegun hmakes hretired attempts
    exact (hasked.tail .adopt).trans (reaches_idle hidle' _ _ _)

/-- The first question is a sequence of steps, with one attempt at most. -/
theorem Discovers.exists_reaches {result : Except ClientFault Unit} (h : Discovers s (result, s'))
    (hretired : ∀ id ∈ s.client.retired, id ∈ issued s.network.acts) :
    ∃ new, Reaches (s.journal []) (s'.journal new) ∧
      ∀ a ∈ new, a.request = .versions ⟨"", ""⟩ := by
  unfold Session.journal
  cases h with
  | @unlinked _ begun _ _ hidle hbegun hlinked =>
    refine ⟨[], .trans ?_ (hlinked.reaches []), List.forall_mem_nil _⟩
    unfold Session.journal
    rw [hbegun]
    exact reaches_idle hidle _ _ _
  | @failed _ _ _ _ a _ hidle hbegun hlinked hmakes hrequest hacts =>
    rw [hacts]
    refine ⟨[a], ?_, List.forall_mem_singleton.2 hrequest⟩
    exact hlinked.reaches_attempt hidle hbegun hmakes hretired []
  | @learnt _ _ _ _ _ a _ hidle hbegun hlinked hmakes hrequest hacts hidle' =>
    rw [hacts]
    refine ⟨[a], ?_, List.forall_mem_singleton.2 hrequest⟩
    have hasked := hlinked.reaches_attempt hidle hbegun hmakes hretired []
    exact (hasked.tail .learn).trans (reaches_idle hidle' _ _ _)

/-- An end is a sequence of steps without an attempt. -/
theorem ShutDown.reaches {result : Except ClientFault Unit} (h : ShutDown s (result, s'))
    (attempts : List Attempt) : Reaches (s.journal attempts) (s'.journal attempts) := by
  unfold Session.journal
  cases h with
  | again _ hidle hacts =>
    rw [hacts]
    exact reaches_idle hidle _ _ _
  | first _ hidle hacts =>
    rw [hacts]
    exact .head .close (reaches_idle hidle _ _ _)

/-! ## Runs as sequences of steps -/

variable (net : Network N)

/-- Every operation is a sequence of steps, and its attempts are for the requests it is made of. -/
theorem exists_reaches_of_operate (op : Operation N) (s : Session (Tape N))
    (hretired : ∀ id ∈ s.client.retired, id ∈ issued s.network.acts)
    (attempts : List Attempt) :
    ∃ new, Reaches (s.journal attempts)
        ((operate net.recording s op.recorded).journal (attempts ++ new)) ∧
      ∀ a ∈ new, op.Asks a.request := by
  cases op with
  | refresh topic => exact (refreshed net topic s).exists_reaches hretired attempts
  | send topic partition payload =>
    obtain ⟨new, hreaches, hasks, -⟩ :=
      (sent net topic partition payload s).exists_reaches hretired attempts
    exact ⟨new, hreaches, hasks⟩
  | close =>
    refine ⟨[], ?_, List.forall_mem_nil _⟩
    rw [List.append_nil]
    exact (shutDown net s).reaches attempts
  | outside change =>
    refine ⟨[], ?_, List.forall_mem_nil _⟩
    rw [List.append_nil]
    exact .refl

/-- Operations one after the other are a sequence of steps. -/
theorem exists_reaches_of_operateAll (ops : List (Operation N)) (s : Session (Tape N))
    (attempts : List Attempt) (hknown : (s.journal attempts).Known) :
    ∃ attempts', Reaches (s.journal attempts)
      ((operateAll net.recording (ops.map .recorded) s).journal attempts') := by
  induction ops generalizing s attempts with
  | nil => exact ⟨attempts, .refl⟩
  | cons op ops ih =>
    -- That retired connections were opened is what the next operation starts from.
    obtain ⟨new, hop, -⟩ := exists_reaches_of_operate net op s hknown.retired attempts
    obtain ⟨attempts', hops⟩ := ih _ _ (hop.preserves Step.known hknown)
    exact ⟨attempts', hop.trans hops⟩

/-- A client that has only just opened its first connection. -/
def Begins (config : ClientConfig) (j : Journal) : Prop :=
  ∃ connection acts, Connection.Opens acts (.ok connection) ∧
    j = ⟨.init config connection, acts, []⟩

/-- The first connection was opened. -/
theorem Begins.known {config : ClientConfig} {j : Journal} (h : Begins config j) : j.Known := by
  obtain ⟨connection, _, ⟨before, target, after, rfl, htarget, -, -⟩, rfl⟩ := h
  have hmem : Act.dialled target (.ok connection.id) ∈
      before ++ .dialled target (.ok connection.id) :: after :=
    List.mem_append_right _ List.mem_cons_self
  exact ⟨⟨target, htarget, hmem⟩, List.forall_mem_nil _, List.forall_mem_nil _⟩

/-- A journal that a client can come to. -/
def Comes (config : ClientConfig) (j : Journal) : Prop :=
  ∃ i, Begins config i ∧ Reaches i j

/-- What holds at the beginning and is kept by each step holds of every journal that comes. -/
theorem Comes.preserves {config : ClientConfig} {P : Journal → Prop}
    (hbegin : ∀ {j}, Begins config j → P j) (hstep : ∀ {i j}, Step i j → P i → P j) {j : Journal}
    (h : Comes config j) : P j := by
  obtain ⟨i, hi, hreaches⟩ := h
  exact hreaches.preserves hstep (hbegin hi)

/-- At every point of a life the connections held are ones that were opened. -/
theorem Comes.known {config : ClientConfig} {j : Journal} (h : Comes config j) : j.Known :=
  h.preserves Begins.known Step.known

/-- A client that has just begun and asks for versions makes no other request by that. -/
theorem Discovers.exists_comes {config : ClientConfig} {connection : Connection} {acts : List Act}
    {begun : Tape N} {result : Except ClientFault Unit}
    (hopens : Connection.Opens acts (.ok connection)) (hbegun : begun.acts = acts)
    (h : Discovers ⟨.init config connection, begun⟩ (result, s')) :
    ∃ attempts, Comes config (s'.journal attempts) ∧
      ∀ a ∈ attempts, a.request = .versions ⟨"", ""⟩ := by
  have hinit : Begins config ⟨.init config connection, begun.acts, []⟩ :=
    ⟨connection, acts, hopens, by rw [hbegun]⟩
  obtain ⟨attempts, hreaches, hasks⟩ := h.exists_reaches (List.forall_mem_nil _)
  exact ⟨attempts, ⟨_, hinit, hreaches⟩, hasks⟩

/-- Connecting leads to a journal with no request but the first question, unless no connection is
opened and no request made. -/
theorem exists_comes_of_connect (config : ClientConfig) (n : N) :
    ((∃ fault, (connect net.recording config ⟨n, []⟩).1 = .error fault) ∧
        Idle (connect net.recording config ⟨n, []⟩).2.acts) ∨
      ∃ client attempts,
        Comes config ⟨client, (connect net.recording config ⟨n, []⟩).2.acts, attempts⟩ ∧
        (∀ a ∈ attempts, a.request = .versions ⟨"", ""⟩) ∧
        ∀ client', (connect net.recording config ⟨n, []⟩).1 = .ok client' → client' = client := by
  have hconnects := connects net config ⟨n, []⟩
  revert hconnects
  rcases connect net.recording config ⟨n, []⟩ with ⟨fault | client, t⟩
  · intro hconnects
    cases hconnects with
    | unlinked hidle hacts =>
      refine .inl ⟨⟨fault, rfl⟩, ?_⟩
      show Idle t.acts
      rw [hacts]
      exact hidle
    | refused hopens hbegun hdiscovers =>
      obtain ⟨attempts, hcomes, hasks⟩ := hdiscovers.exists_comes hopens hbegun
      exact .inr ⟨_, attempts, hcomes, hasks, nofun⟩
  · intro hconnects
    cases hconnects with
    | answered hopens hbegun hdiscovers =>
      obtain ⟨attempts, hcomes, hasks⟩ := hdiscovers.exists_comes hopens hbegun
      refine .inr ⟨_, attempts, hcomes, hasks, ?_⟩
      rintro client' ⟨⟩
      rfl

/-- Wherever a client comes to, its operations lead to another journal. -/
theorem Comes.exists_of_operateAll {config : ClientConfig} {s : Session (Tape N)}
    {attempts : List Attempt} (h : Comes config (s.journal attempts)) (ops : List (Operation N)) :
    ∃ attempts', Comes config
      ((operateAll net.recording (ops.map .recorded) s).journal attempts') := by
  obtain ⟨attempts', hops⟩ := exists_reaches_of_operateAll net ops s attempts h.known
  obtain ⟨i, hi, hreaches⟩ := h
  exact ⟨attempts', i, hi, hreaches.trans hops⟩

/-- The life of a client leads to a journal, unless no connection is opened and no request made. -/
theorem exists_comes_of_recordedLifetime (config : ClientConfig) (ops : List (Operation N))
    (n : N) :
    ((∃ fault, (recordedLifetime net config ops n).1 = .error fault) ∧
        Idle (recordedLifetime net config ops n).2.acts) ∨
      ∃ client attempts,
        Comes config ⟨client, (recordedLifetime net config ops n).2.acts, attempts⟩ ∧
        ∀ client', (recordedLifetime net config ops n).1 = .ok client' → client' = client := by
  have hconnects := exists_comes_of_connect net config n
  unfold recordedLifetime lifetime
  revert hconnects
  rcases connect net.recording config ⟨n, []⟩ with ⟨fault | client, t⟩
  · refine Or.imp_right ?_
    rintro ⟨client, attempts, hcomes, -, hclient⟩
    exact ⟨client, attempts, hcomes, hclient⟩
  · rintro (⟨⟨fault, hfault⟩, -⟩ | ⟨client', attempts, hcomes, -, hclient⟩)
    · cases hfault
    obtain rfl := hclient client rfl
    obtain ⟨attempts', hcomes⟩ := hcomes.exists_of_operateAll net (s := ⟨client, t⟩) ops
    refine .inr ⟨_, attempts', hcomes, ?_⟩
    rintro client' ⟨⟩
    rfl

/-- A client that lives has come to a journal. -/
theorem comes_of_recordedLifetime {config : ClientConfig} {ops : List (Operation N)} {n : N}
    {client : Client} {t : Tape N} (h : recordedLifetime net config ops n = (.ok client, t)) :
    ∃ attempts, Comes config ⟨client, t.acts, attempts⟩ := by
  rcases exists_comes_of_recordedLifetime net config ops n with
    ⟨⟨fault, hfault⟩, -⟩ | ⟨client', attempts, hcomes, hclient⟩
  · rw [h] at hfault
    cases hfault
  · obtain rfl := hclient client (congrArg Prod.fst h)
    rw [h] at hcomes
    exact ⟨attempts, hcomes⟩

end Client

end KafkaCanary
