import KafkaCanary.Proofs.Client.Correlation

/-!
# When a connection is given up

A connection on which an answer may still be on its way is out of step: whoever reads from it next
may get the answer to an older request. A call that has put its frame on the way and got no answer
with its own correlation id therefore retires its connection, and a retired connection is replaced
before the next request. There is one way out of a call that does not: a response that arrives in
full, but is too short for its header or has a header that cannot be read, fails the call and leaves
the connection in use.

## Main results

* `Attempt.retires_eq_not_isGarbled`: which attempts without an answer retire their connection;
* `Client.opens_of_retired_bootstrap`, `Client.opens_of_retired_leader`: a retired connection is
  replaced by one that is opened for the next request;
* `retirement_of_call`: what a call without an answer does to its connection.
-/

namespace KafkaCanary

/-! ## Attempts without an answer -/

namespace Attempt

/-- Whether a response arrived in full, but has no header that can be read. -/
def isGarbled (a : Attempt) : Bool :=
  match a.fate.message? with
  | none => false
  | some message => (a.header message).toOption.isNone

/-- A response arrived whose header carries the correlation id of the request. -/
def Recognised (a : Attempt) : Prop :=
  ∃ message rest, a.fate.message? = some message ∧ a.header message = .ok (a.correlationId, rest)

/-- An attempt whose frame was to be written and whose answer was not recognised retires its
connection, unless the response is garbled. -/
theorem retires_eq_not_isGarbled {a : Attempt} {frame : List UInt8}
    (hframe : a.fate.frame = .ok frame) (h : ¬a.Recognised) : a.retires = !a.isGarbled := by
  unfold retires isGarbled
  rw [hframe]
  rcases hmessage : a.fate.message? with _ | message
  · rfl
  dsimp only
  unfold isForeign
  rcases hheader : a.header message with fault | ⟨got, rest⟩
  · rfl
  -- The header carries some correlation id, and it is not the one of the request.
  have hgot : got ≠ a.correlationId := by
    rintro rfl
    exact h ⟨message, rest, hmessage, hheader⟩
  simpa [Except.toOption] using hgot

/-- Only a recognised response is answered. -/
theorem Answers.recognised {α : Type} {a : Attempt} {body : Wire.Reader α} {answer : α}
    (h : a.Answers body answer) : a.Recognised := by
  obtain ⟨frame, length, message, rest, rest', hfate, hheader, -⟩ := h
  refine ⟨message, rest, ?_, hheader⟩
  rw [hfate]
  rfl

end Attempt

namespace Client

variable {N : Type} (net : Network N)

theorem isRetired_after (client : Client) (a : Attempt) :
    (client.after a).isRetired a.connection = (client.isRetired a.connection || a.retires) := by
  unfold isRetired after
  cases a.retires with
  | true => simp
  | false => simp

/-! ## Retired connections -/

/-- A retired connection for questions is replaced by one that is opened now. -/
theorem opens_of_retired_bootstrap {s s' : Session (Tape N)} {connection : Connection}
    (hretired : s.client.isRetired s.client.bootstrap = true)
    (h : outcome (bootstrapConnection net.recording) s = (.ok connection, s')) :
    ∃ acts, s'.network.acts = s.network.acts ++ acts ∧
      Connection.Opens acts (.ok connection) := by
  have hlinked := bootstrapped net s
  rw [h] at hlinked
  cases hlinked with
  | held _ hfresh => exact absurd (hretired.symm.trans hfresh) nofun
  | opened _ hacts hopens => exact ⟨_, hacts, hopens⟩

/-- So is a retired connection to a leader. -/
theorem opens_of_retired_leader {s s' : Session (Tape N)} {nodeId : Int32}
    {retired connection : Connection} (hget : s.client.connections.get? nodeId = some retired)
    (hretired : s.client.isRetired retired = true)
    (h : outcome (leaderConnection net.recording nodeId) s = (.ok connection, s')) :
    ∃ acts, s'.network.acts = s.network.acts ++ acts ∧
      Connection.Opens acts (.ok connection) := by
  have hlinked := linked net s nodeId
  rw [h] at hlinked
  cases hlinked with
  | held _ hconnection hfresh =>
    obtain rfl := Option.some.inj (hget.symm.trans hconnection)
    exact absurd (hretired.symm.trans hfresh) nofun
  | opened _ _ hacts hopens _ => exact ⟨_, hacts, hopens⟩

end Client

/-- What a call does to its connection. If the frame was to be written and no response with the
correlation id of the request was recognised, the call fails and the connection is retired, with one
exception: a garbled response leaves the client as it was but for the correlation id that it has
used. A connection that is retired is replaced by one that is opened for the next request. -/
theorem retirement_of_call {N α : Type} (net : Network N) (connection : Connection)
    (request : Request) (version : Int16) (body : Wire.Reader α) (s : Session (Tape N)) :
    let called := outcome (Client.call net.recording connection request version body) s
    (∃ a : Attempt, a.connection = connection ∧ a.request = request ∧ a.version = version ∧
      s.client.Makes a ∧ called.2.network.acts = s.network.acts ++ a.acts ∧
      ∀ frame, a.fate.frame = .ok frame → ¬a.Recognised →
        (∃ fault, called.1 = .error fault) ∧
        called.2.client.isRetired connection = (s.client.isRetired connection || !a.isGarbled) ∧
        (a.isGarbled → called.2.client =
          { s.client with nextCorrelation := s.client.nextCorrelation + 1 })) ∧
    ∀ (later later' : Session (Tape N)) (other : Connection),
      (later.client.isRetired later.client.bootstrap = true →
        outcome (Client.bootstrapConnection net.recording) later = (.ok other, later') →
        ∃ acts, later'.network.acts = later.network.acts ++ acts ∧
          Connection.Opens acts (.ok other)) ∧
      ∀ (nodeId : Int32) (leader : Connection),
        later.client.connections.get? nodeId = some leader →
        later.client.isRetired leader = true →
        outcome (Client.leaderConnection net.recording nodeId) later = (.ok other, later') →
        ∃ acts, later'.network.acts = later.network.acts ++ acts ∧
          Connection.Opens acts (.ok other) := by
  intro called
  refine ⟨?_, fun later later' other => ⟨Client.opens_of_retired_bootstrap net,
    fun nodeId leader => Client.opens_of_retired_leader net⟩⟩
  obtain ⟨a, rfl, hrequest, hversion, hmakes, hclient, hacts, hanswer⟩ :=
    Client.calls_call net connection request version body s
  refine ⟨a, rfl, hrequest, hversion, hmakes, hacts, fun frame hframe hunrecognised => ?_⟩
  -- What is not recognised retires the connection, unless its header cannot be read.
  have hretires := Attempt.retires_eq_not_isGarbled hframe hunrecognised
  refine ⟨?_, ?_, fun hgarbled => ?_⟩
  · rcases hcalled : called.1 with fault | answer
    · exact ⟨fault, rfl⟩
    · exact absurd (hanswer answer hcalled).recognised hunrecognised
  · rw [hclient, Client.isRetired_after, hretires]
  · rw [hclient, Client.after, hretires, hgarbled]
    rfl

/-! ## In a cluster -/

namespace Cluster

/-- A cluster of one broker that answers the first request for metadata with a frame of two bytes,
which are too few for a header. -/
def terse : Cluster :=
  { init true [(.up, ⟨"b", 1⟩)] with
    replies := [
      ⟨.versions ⟨0, []⟩, 0, false⟩,
      ⟨.frame [0, 0, 0, 2, 0, 0], 0, false⟩,
      ⟨.metadata ⟨[⟨1, "b", 1⟩], [⟨0, some "t", [⟨0, 0, 1⟩]⟩]⟩, 0, false⟩] }

end Cluster

/-- The client sends the next request over the connection on which it could not read the header of
an answer. -/
theorem retirement_of_call_with_garbled_response :
    let config : ClientConfig := ⟨["b:1"], "c", .ofMillis 1000⟩
    let run refreshes := Client.recordedLifetime Cluster.network config refreshes Cluster.terse
    let first := run [.refresh "t"]
    let second := run [.refresh "t", .refresh "t"]
    let writes := second.2.acts.filterMap fun
      | .wrote id _ (.ok ()) => some id
      | _ => none
    first.1.toOption.map (·.partitionCount "t") = some none ∧
      first.1.toOption.map Client.retired = some [] ∧
      second.1.toOption.map (·.partitionCount "t") = some (some 1) ∧
      issued second.2.acts = [0] ∧ writes = [0, 0, 0] := by
  decide +kernel

end KafkaCanary
