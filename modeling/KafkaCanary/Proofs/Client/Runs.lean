import KafkaCanary.Proofs.Client.Recording

/-!
# Runs of a client

The life of a client: it connects to a cluster, and operations follow one after the other. Anything
may happen to the network between them.

## Main results

* `Client.base_lifetime`: recording changes nothing about the life of a client.
-/

namespace KafkaCanary.Client

variable {N : Type}

/-- What can happen to a client and the network around it. -/
inductive Operation (N : Type) where
  /-- New metadata of a topic. -/
  | refresh (topic : String)
  /-- A record for a partition of a topic. -/
  | send (topic : String) (partition : Int32) (payload : List UInt8)
  /-- An end. -/
  | close
  /-- Something that the client has no part in, such as a broker that hangs up. -/
  | outside (change : N → N)

/-- The requests that an operation is made of. -/
def Operation.Asks : Operation N → Request → Prop
  | .refresh topic, request => request = .metadata (.of (some [topic]))
  | .send topic partition payload, request => ∃ timestamp timeoutMillis,
      request = .produce (.single topic partition payload timestamp timeoutMillis)
  | .close, _ => False
  | .outside _, _ => False

/-- Perform one operation. -/
def operate (net : Network N) (s : Session N) : Operation N → Session N
  | .refresh topic => (outcome (refresh net topic) s).2
  | .send topic partition payload => (outcome (send net topic partition payload) s).2
  | .close => (outcome (close net) s).2
  | .outside change => ⟨s.client, change s.network⟩

/-- Perform operations one after the other. -/
def operateAll (net : Network N) (ops : List (Operation N)) (s : Session N) : Session N :=
  ops.foldl (operate net) s

/-- Connect to a cluster, and perform operations one after the other if that succeeds. -/
def lifetime (net : Network N) (config : ClientConfig) (ops : List (Operation N)) (n : N) :
    Except ClientFault Client × N :=
  match connect net config n with
  | (.error fault, n) => (.error fault, n)
  | (.ok client, n) =>
    let s := operateAll net ops ⟨client, n⟩
    (.ok s.client, s.network)

/-- The operation around a network that is recorded. -/
def Operation.recorded : Operation N → Operation (Tape N)
  | .refresh topic => .refresh topic
  | .send topic partition payload => .send topic partition payload
  | .close => .close
  | .outside change => .outside fun t => { t with network := change t.network }

/-- The life of a client around a network that is recorded from the beginning. -/
def recordedLifetime (net : Network N) (config : ClientConfig) (ops : List (Operation N)) (n : N) :
    Except ClientFault Client × Tape N :=
  lifetime net.recording config (ops.map .recorded) ⟨n, []⟩

variable (net : Network N)

/-- Recording changes nothing about an operation. -/
theorem base_operate (s : Session (Tape N)) (op : Operation N) :
    (operate net.recording s op.recorded).base = operate net s.base op := by
  cases op with
  | refresh topic => exact congrArg Prod.snd (agrees_refresh net topic s).symm
  | send topic partition payload =>
    exact congrArg Prod.snd (agrees_send net topic partition payload s).symm
  | close => exact congrArg Prod.snd (agrees_close net s).symm
  | outside change => rfl

theorem base_operateAll (ops : List (Operation N)) (s : Session (Tape N)) :
    (operateAll net.recording (ops.map .recorded) s).base = operateAll net ops s.base := by
  induction ops generalizing s with
  | nil => rfl
  | cons op ops ih =>
    refine (ih _).trans ?_
    rw [base_operate]
    rfl

theorem connect_eq (config : ClientConfig) (n : N) :
    connect net config n =
      if config.servers.isEmpty then (.error .noServers, n) else
        match outcome (Connection.toAny net config.limit config.servers connectAttempts)
          (net.emit (.connecting config.servers) n) with
        | (.error fault, n) => (.error fault, n)
        | (.ok connection, n) =>
          match outcome (discoverVersions net)
            ⟨.init config connection, net.emit (.bootstrapped connection.address) n⟩ with
          | (.error fault, s) => (.error fault, s.network)
          | (.ok (), s) => (.ok s.client, s.network) :=
  rfl

/-- Recording changes nothing about a connecting. -/
theorem base_connect (config : ClientConfig) (t : Tape N) :
    connect net config t.network =
      ((connect net.recording config t).1, (connect net.recording config t).2.network) := by
  rw [connect_eq, connect_eq]
  by_cases h : config.servers.isEmpty
  · rw [if_pos h, if_pos h]
  rw [if_neg h, if_neg h]
  have hserver := agrees_toAny net config.limit config.servers connectAttempts
    (net.recording.emit (.connecting config.servers) t)
  rw [show net.emit _ t.network = (net.recording.emit _ t).network from rfl, hserver]
  rcases outcome (Connection.toAny net.recording config.limit config.servers connectAttempts)
    (net.recording.emit (.connecting config.servers) t) with ⟨fault | connection, t⟩
  · rfl
  have hversions := agrees_discoverVersions net ⟨.init config connection,
    net.recording.emit (.bootstrapped connection.address) t⟩
  dsimp only
  rw [show (⟨_, net.emit _ t.network⟩ : Session N) =
    Session.base ⟨_, net.recording.emit _ t⟩ from rfl, hversions]
  rcases outcome (discoverVersions net.recording) ⟨.init config connection,
    net.recording.emit (.bootstrapped connection.address) t⟩ with ⟨fault | ⟨⟩, s⟩
  · rfl
  · rfl

/-- Recording changes nothing about the life of a client. -/
theorem base_lifetime (config : ClientConfig) (ops : List (Operation N)) (n : N) :
    ((recordedLifetime net config ops n).1, (recordedLifetime net config ops n).2.network) =
      lifetime net config ops n := by
  unfold recordedLifetime lifetime
  rw [base_connect net config ⟨n, []⟩]
  rcases connect net.recording config ⟨n, []⟩ with ⟨fault | client, t⟩
  · rfl
  · have hbase := base_operateAll net ops ⟨client, t⟩
    exact congrArg (fun s : Session N => (Except.ok s.client, s.network)) hbase

/-- A life goes on from where it has come to. -/
theorem recordedLifetime_append {config : ClientConfig} {ops : List (Operation N)} {n : N}
    {client : Client} {t : Tape N} (h : recordedLifetime net config ops n = (.ok client, t))
    (later : List (Operation N)) :
    recordedLifetime net config (ops ++ later) n =
      (.ok (operateAll net.recording (later.map .recorded) ⟨client, t⟩).client,
        (operateAll net.recording (later.map .recorded) ⟨client, t⟩).network) := by
  unfold recordedLifetime lifetime at h ⊢
  rcases hconnect : connect net.recording config ⟨n, []⟩ with ⟨fault | client', t'⟩
  · rw [hconnect] at h
    cases h
  rw [hconnect] at h
  dsimp only at h ⊢
  rw [List.map_append, operateAll, List.foldl_append]
  cases h
  rfl

end KafkaCanary.Client
