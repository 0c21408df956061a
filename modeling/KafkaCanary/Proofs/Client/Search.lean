import KafkaCanary.Proofs.Client.Outcome
import KafkaCanary.Rehearsal.Cluster

/-!
# Looking for a server

A client that looks for a server has a plan: all servers in their order, in as many rounds as there
may be, with a pause between two rounds. It follows the plan until a server is found. So the two
loops, one over the rounds and one over the servers in a round, are a single loop over the plan
(`follow`), and what is done is a first part of the plan, as far as the first success.

## Main results

* `outcome_toAny`: looking for a server is following the plan;
* `exists_search`: what is done while a plan is followed, and what comes of it;
* `search_of_toAny`: which servers are tried in which order, when the search ends and how.
-/

namespace KafkaCanary

namespace Connection

/-! ## Plans -/

/-- A stage of a plan. -/
inductive Stage where
  /-- Try a server. -/
  | visit (round : Nat) (server : String)
  /-- Wait for the next round. -/
  | pause (round : Nat)

/-- The stages of one of `attempts` rounds. There is no pause after the last one. -/
def roundStages (servers : List String) (attempts round : Nat) : List Stage :=
  servers.map (.visit round) ++ if round < attempts then [.pause round] else []

/-- The stages of all rounds, the first of which is number 1. -/
def plan (servers : List String) (attempts : Nat) : List Stage :=
  (List.range' 1 attempts).flatMap (roundStages servers attempts)

namespace Stage

def isVisit : Stage → Bool
  | visit _ _ => true
  | pause _ => false

def isPause : Stage → Bool
  | visit _ _ => false
  | pause _ => true

end Stage

section Counting

variable {servers : List String} {attempts : Nat}

/-- The rounds with a pause behind them, and the last one. -/
theorem plan_eq (hattempts : 0 < attempts) : plan servers attempts =
    (List.range' 1 (attempts - 1)).flatMap (fun round => servers.map (.visit round) ++
      [.pause round]) ++ servers.map (.visit attempts) := by
  obtain ⟨rounds, rfl⟩ := Nat.exists_eq_add_one.2 hattempts
  have hearlier : ∀ round ∈ List.range' 1 rounds, roundStages servers (rounds + 1) round =
      servers.map (.visit round) ++ [.pause round] := by
    intro round hmem
    rw [List.mem_range'_1] at hmem
    rw [roundStages, if_pos (by omega)]
  have hlast : roundStages servers (rounds + 1) (rounds + 1) =
      servers.map (.visit (rounds + 1)) := by
    rw [roundStages, if_neg (Nat.lt_irrefl _), List.append_nil]
  rw [Nat.add_sub_cancel, plan, List.range'_1_concat, List.flatMap_append, List.flatMap_singleton,
    Nat.add_comm 1 rounds, hlast, List.flatMap_def, List.flatMap_def, List.map_congr_left hearlier]

theorem countP_isVisit_plan : (plan servers attempts).countP Stage.isVisit =
    attempts * servers.length := by
  have hround (round : Nat) :
      (roundStages servers attempts round).countP Stage.isVisit = servers.length := by
    rw [roundStages, List.countP_append, List.countP_map]
    split <;> simp [Function.comp_def, Stage.isVisit]
  simp [plan, List.countP_flatMap, Function.comp_def, hround, List.map_const']

theorem countP_isPause_plan (hattempts : 0 < attempts) :
    (plan servers attempts).countP Stage.isPause = attempts - 1 := by
  have hvisits (round : Nat) :
      (servers.map (Stage.visit round)).countP Stage.isPause = 0 := by
    simp [List.countP_map, Function.comp_def, Stage.isPause]
  simp [plan_eq hattempts, List.countP_flatMap, Function.comp_def, hvisits, Stage.isPause,
    List.map_const']

/-- The last stage is a visit in the last round. -/
theorem exists_plan_eq_concat (hservers : servers ≠ []) (hattempts : 0 < attempts) :
    ∃ earlier server, plan servers attempts = earlier ++ [.visit attempts server] := by
  rw [plan_eq hattempts, ← List.dropLast_concat_getLast hservers, List.map_append,
    ← List.append_assoc]
  exact ⟨_, _, rfl⟩

end Counting

/-! ## Following a plan -/

section Following

variable {N : Type} (net : Network N) (limit : Duration)

/-- The network after a connection was opened. In later rounds this is reported. -/
def announce (round : Nat) (server : String) (n : N) : N :=
  if 1 < round then net.emit (.connectedOnAttempt server round) n else n

/-- The network after a pause, which begins with a report of the last fault. -/
def pauseAfter (round : Nat) (last : ClientFault) (n : N) : N :=
  let n := net.emit (.attemptFailed round last.message) n
  net.waitUntil (net.elapsed n + pauseMillis) n

/-- Follow a plan until a server is found. `last` is the fault before the first stage. -/
def follow : (stages : List Stage) → (last : ClientFault) → N → Except ClientFault Connection × N
  | [], last, n => (.error last, n)
  | .visit round server :: stages, _, n =>
    match outcome (dial net limit server) n with
    | (.ok connection, n) => (.ok connection, announce net round server n)
    | (.error fault, n) => follow stages fault n
  | .pause round :: stages, last, n => follow stages last (pauseAfter net round last n)

/-- The servers of a round are visited one after the other. -/
theorem follow_visits_append (round : Nat) (servers : List String) (stages : List Stage)
    (last : ClientFault) (n : N) :
    follow net limit (servers.map (.visit round) ++ stages) last n =
      match outcome (sweep net limit round servers last) n with
      | (.ok connection, n) => (.ok connection, n)
      | (.error fault, n) => follow net limit stages fault n := by
  induction servers generalizing last n with
  | nil => rfl
  | cons server servers ih =>
    rw [List.map_cons, List.cons_append, follow, sweep, outcome_tryCatch, outcome_bind]
    rcases outcome (dial net limit server) n with ⟨fault | connection, n⟩
    · exact ih fault n
    · by_cases hround : 1 < round
      · simp only [hround, if_true, announce]
        rfl
      · simp only [hround, if_false, announce]
        rfl

/-- The rounds are done one after the other, with a pause between two of them. -/
theorem outcome_tryRounds {servers : List String} {attempts rounds attempt : Nat}
    (h : attempt + rounds = attempts + 1) (last : ClientFault) (n : N) :
    outcome (tryRounds net limit servers rounds attempt last) n =
      follow net limit ((List.range' attempt rounds).flatMap (roundStages servers attempts))
        last n := by
  induction rounds generalizing attempt last n with
  | zero => rfl
  | succ rounds ih =>
    rw [List.range'_succ, List.flatMap_cons, roundStages, List.append_assoc, follow_visits_append,
      tryRounds, outcome_tryCatch]
    rcases outcome (sweep net limit attempt servers last) n with ⟨fault | connection, n⟩
    · -- The last of the rounds is the one that no other round is left after.
      by_cases hrounds : rounds = 0
      · subst hrounds
        simp [show ¬attempt < attempts by omega, follow]
      · simp only [hrounds, if_false, show attempt < attempts by omega, if_true]
        exact ih (by omega) fault (pauseAfter net attempt fault n)
    · rfl

/-- Looking for a server is following the plan. -/
theorem outcome_toAny (servers : List String) (attempts : Nat) (n : N) :
    outcome (toAny net limit servers attempts) n =
      let found := follow net limit (plan servers attempts) .noServers n
      (found.1.mapError (.allAttemptsFailed attempts), found.2) := by
  rw [toAny, outcome_tryCatch, outcome_tryRounds net limit (Nat.add_comm 1 attempts)]
  show _ = (Except.mapError _ (follow net limit (plan servers attempts) _ n).1, _)
  unfold plan
  rcases follow net limit _ _ n with ⟨fault | connection, n⟩ <;> rfl

end Following

/-! ## What is done -/

/-- Something that is done while a plan is followed. -/
inductive Move where
  /-- A server was tried. -/
  | tried (round : Nat) (server : String) (result : Except ClientFault Connection)
  /-- The next round was waited for. -/
  | paused (round : Nat)

namespace Move

/-- The stage of the plan that a move belongs to. -/
def stage : Move → Stage
  | tried round server _ => .visit round server
  | paused round => .pause round

/-- The connection that was opened, if one was. -/
def connection? : Move → Option Connection
  | tried _ _ (.ok connection) => some connection
  | tried _ _ (.error _) | paused _ => none

/-- The fault of a server that was tried in vain. -/
def fault? : Move → Option ClientFault
  | tried _ _ (.error fault) => some fault
  | tried _ _ (.ok _) | paused _ => none

end Move

section Searches

variable {N : Type} (net : Network N) (limit : Duration)

/-- A search leads from one network to another one. A server that is tried answers as the network at
that time makes it answer, and a pause is one second long. -/
inductive Search : (last : ClientFault) → N → List Move → N → Prop
  /-- Nothing is left to do. -/
  | stop {last : ClientFault} {n : N} : Search last n [] n
  /-- A server is tried, and a connection to it opened. -/
  | opened {last : ClientFault} {n n' n'' : N} {round : Nat} {server : String}
      {connection : Connection} {moves : List Move}
      (hdial : outcome (dial net limit server) n = (.ok connection, n'))
      (hrest : Search last (announce net round server n') moves n'') :
      Search last n (.tried round server (.ok connection) :: moves) n''
  /-- A server is tried in vain. -/
  | failed {last fault : ClientFault} {n n' n'' : N} {round : Nat} {server : String}
      {moves : List Move} (hdial : outcome (dial net limit server) n = (.error fault, n'))
      (hrest : Search fault n' moves n'') :
      Search last n (.tried round server (.error fault) :: moves) n''
  /-- The next round is waited for. -/
  | paused {last : ClientFault} {n n' : N} {round : Nat} {moves : List Move}
      (hrest : Search last (pauseAfter net round last n) moves n') :
      Search last n (.paused round :: moves) n'

/-- The last of the faults met, where `last` is that from before. -/
def lastFault (last : ClientFault) (moves : List Move) : ClientFault :=
  (moves.filterMap Move.fault?).getLast?.getD last

/-- What was done for the stages of a plan and what came of it: it ended with the first connection,
or with the last fault when there were no stages left. -/
def Concludes (stages : List Stage) (last : ClientFault) (moves : List Move) :
    Except ClientFault Connection → Prop
  | .ok connection => ∃ earlier round later,
      moves = earlier ++ [.tried round connection.address (.ok connection)] ∧
        stages = moves.map Move.stage ++ later ∧ ∀ move ∈ earlier, move.connection? = none
  | .error fault => fault = lastFault last moves ∧ stages = moves.map Move.stage ∧
      ∀ move ∈ moves, move.connection? = none

variable {net limit}

/-- The connection that is opened is one to the server. -/
theorem address_of_outcome_dial {server : String} {n n' : N} {connection : Connection}
    (h : outcome (dial net limit server) n = (.ok connection, n')) :
    connection.address = server := by
  unfold dial at h
  cases htarget : Address.parse server with
  | error fault =>
    rw [htarget] at h
    cases h
  | ok target =>
    rw [htarget] at h
    dsimp only at h
    rw [outcome_bind, outcome_get] at h
    dsimp only at h
    rw [outcome_bind, NetworkM.outcome_ask] at h
    revert h
    rcases net.connect target (net.elapsed n + limit.millis) n with ⟨mishap | id, n⟩
    · nofun
    · rintro ⟨⟩
      rfl

/-- What comes of a plan when its first stage finds no server. -/
theorem Concludes.cons {move : Move} {stages : List Stage} {last last' : ClientFault}
    {moves : List Move} {result : Except ClientFault Connection}
    (h : Concludes stages last' moves result) (hmove : move.connection? = none)
    (hlast : move.fault?.getD last = last') :
    Concludes (move.stage :: stages) last (move :: moves) result := by
  subst hlast
  cases result with
  | ok connection =>
    obtain ⟨earlier, round, later, rfl, rfl, hearlier⟩ := h
    exact ⟨move :: earlier, round, later, rfl, by simp, List.forall_mem_cons.2 ⟨hmove, hearlier⟩⟩
  | error fault =>
    obtain ⟨rfl, rfl, hmoves⟩ := h
    refine ⟨?_, by simp, List.forall_mem_cons.2 ⟨hmove, hmoves⟩⟩
    cases hfault : move.fault? <;> simp [lastFault, hfault, List.getLast?_cons]

variable (net limit)

/-- While a plan is followed, a search goes on. -/
theorem exists_search (stages : List Stage) (last : ClientFault) (n : N) :
    ∃ moves, Search net limit last n moves (follow net limit stages last n).2 ∧
      Concludes stages last moves (follow net limit stages last n).1 := by
  fun_induction follow net limit stages last n with
  | case1 last n => exact ⟨[], .stop, by simp [Concludes, lastFault]⟩
  | case2 last round server stages n connection n' hdial =>
    obtain rfl := address_of_outcome_dial hdial
    exact ⟨_, .opened hdial .stop, [], round, stages, rfl, rfl, by simp⟩
  | case3 last round server stages n fault n' hdial ih =>
    obtain ⟨moves, hsearch, hconcludes⟩ := ih
    exact ⟨_, .failed hdial hsearch, hconcludes.cons rfl rfl⟩
  | case4 round stages last n ih =>
    obtain ⟨moves, hsearch, hconcludes⟩ := ih
    exact ⟨_, .paused hsearch, hconcludes.cons rfl rfl⟩

/-! ## How searches end -/

/-- Of the moves of a plan that found no server, the last one failed if it was a visit, and the
search ends with its fault. -/
theorem exists_failed_of_map_stage {moves : List Move} {earlier : List Stage} {round : Nat}
    {server : String} (h : moves.map Move.stage = earlier ++ [.visit round server])
    (hmoves : ∀ move ∈ moves, move.connection? = none) (last : ClientFault) :
    ∃ before, moves = before ++ [.tried round server (.error (lastFault last moves))] := by
  obtain ⟨before, final, rfl, -, hfinal⟩ := List.map_eq_append_iff.1 h
  obtain ⟨move, rfl, hstage⟩ := List.map_eq_singleton_iff.1 hfinal
  have hnone : move.connection? = none := hmoves move (by simp)
  match move, hstage, hnone with
  | .tried _ _ (.error fault), rfl, _ => exact ⟨before, by simp [lastFault, Move.fault?]⟩

/-- While no server is found, every visit is a failure. -/
theorem countP_isVisit_map_stage {moves : List Move}
    (h : ∀ move ∈ moves, move.connection? = none) :
    (moves.map Move.stage).countP Stage.isVisit = moves.countP (·.fault?.isSome) := by
  rw [List.countP_map]
  refine List.countP_congr fun move hmem => ?_
  match move, h move hmem with
  | .tried _ _ (.error _), _ => simp [Move.stage, Move.fault?, Stage.isVisit]
  | .paused _, _ => simp [Move.stage, Move.fault?, Stage.isVisit]

/-- The visit that finds a server is one of the plan, so that not all of them fail. -/
theorem countP_fault?_lt_of_opened {servers : List String} {attempts round : Nat}
    {server : String} {connection : Connection} {earlier : List Move} {later : List Stage}
    (hplan : plan servers attempts =
      (earlier ++ [Move.tried round server (.ok connection)]).map Move.stage ++ later)
    (hearlier : ∀ move ∈ earlier, move.connection? = none) :
    (earlier ++ [Move.tried round server (.ok connection)]).countP (·.fault?.isSome) <
      attempts * servers.length := by
  have hopened : [Move.tried round server (.ok connection)].countP (·.fault?.isSome) = 0 := by
    simp [Move.fault?]
  have hvisit : ([Move.tried round server (.ok connection)].map Move.stage).countP
      Stage.isVisit = 1 := by
    simp [Move.stage, Stage.isVisit]
  have hvisits : (plan servers attempts).countP Stage.isVisit = attempts * servers.length :=
    countP_isVisit_plan
  rw [hplan, List.countP_append, List.map_append, List.countP_append, hvisit,
    countP_isVisit_map_stage hearlier] at hvisits
  rw [List.countP_append, hopened]
  omega

/-- Looking for a server in at least one round among at least one server. The moves are those of the
plan, in its order, up to the first server that is found. If one is found, it is the one that the
connection is to, and no move follows. If none is found, the moves are those of the whole plan, with
a pause after every round but the last, and the fault of the last server tried is told. This is so
if as many servers were tried in vain as the plan has visits, and only then. -/
theorem search_of_toAny {servers : List String} {attempts : Nat} (hservers : servers ≠ [])
    (hattempts : 0 < attempts) (n : N) :
    let run := outcome (toAny net limit servers attempts) n
    ∃ moves, Search net limit .noServers n moves run.2 ∧
      moves.map Move.stage <+: plan servers attempts ∧
      ((∃ connection earlier round,
          run.1 = .ok connection ∧
          moves = earlier ++ [.tried round connection.address (.ok connection)] ∧
          ∀ move ∈ earlier, move.connection? = none) ∨
        ∃ fault earlier server,
          run.1 = .error (.allAttemptsFailed attempts fault) ∧
          moves = earlier ++ [.tried attempts server (.error fault)] ∧
          (∀ move ∈ earlier, move.connection? = none) ∧
          moves.map Move.stage = plan servers attempts ∧
          (moves.map Move.stage).countP Stage.isPause = attempts - 1) ∧
      ((∃ fault, run.1 = .error fault) ↔
        moves.countP (·.fault?.isSome) = attempts * servers.length) := by
  -- The two loops are one walk along the plan of all attempts.
  rw [outcome_toAny]
  obtain ⟨moves, hsearch, hconcludes⟩ :=
    exists_search net limit (plan servers attempts) .noServers n
  revert hsearch hconcludes
  rcases follow net limit (plan servers attempts) .noServers n with ⟨fault | connection, n'⟩
  · rintro hsearch ⟨rfl, hplan, hmoves⟩
    -- The plan ends in a visit, so its fault is the last.
    obtain ⟨stages, server, hlast⟩ := exists_plan_eq_concat hservers hattempts
    obtain ⟨earlier, hearlier⟩ :=
      exists_failed_of_map_stage (hplan.symm.trans hlast) hmoves .noServers
    have hbefore : ∀ move ∈ earlier, move.connection? = none := by
      intro move hmem
      apply hmoves
      rw [hearlier]
      exact List.mem_append_left _ hmem
    have hpauses : (moves.map Move.stage).countP Stage.isPause = attempts - 1 := by
      rw [← hplan, countP_isPause_plan hattempts]
    have hfailures : moves.countP (·.fault?.isSome) = attempts * servers.length := by
      rw [← countP_isVisit_map_stage hmoves, ← hplan, countP_isVisit_plan]
    refine ⟨moves, hsearch, hplan ▸ List.prefix_rfl, .inr ?_, ?_⟩
    · exact ⟨_, earlier, server, rfl, hearlier, hbefore, hplan.symm, hpauses⟩
    · exact ⟨fun _ => hfailures, fun _ => ⟨_, rfl⟩⟩
  · rintro hsearch ⟨earlier, round, later, rfl, hplan, hearlier⟩
    have hfailures := countP_fault?_lt_of_opened hplan hearlier
    refine ⟨_, hsearch, ⟨later, hplan.symm⟩, .inl ?_, ?_, ?_⟩
    · exact ⟨connection, earlier, round, rfl, rfl, hearlier⟩
    · nofun
    · exact fun hall => absurd hall (Nat.ne_of_lt hfailures)

end Searches

end Connection

/-! ## In a cluster -/

namespace Cluster

/-- A network whose second broker comes up while the client waits. -/
def mending : Network Cluster :=
  { network with waitUntil := fun time c => (c.waitUntil time).setMode 1 .up }

/-- Two brokers that refuse connections. -/
def refusing : Cluster :=
  init true [(.down, ⟨"a", 1⟩), (.down, ⟨"b", 2⟩)]

end Cluster

namespace Connection

/-- The second server is found in the second of three rounds, after a second. Where no broker comes
up, all six attempts fail, two seconds pass, and the fault of the second server is told. -/
theorem search_of_toAny_in_second_round :
    let servers := ["a:1", "b:2"]
    let limit := Duration.ofMillis 5000
    let found := outcome (toAny Cluster.mending limit servers 3) Cluster.refusing
    let lost := outcome (toAny Cluster.network limit servers 3) Cluster.refusing
    servers ≠ [] ∧ 0 < 3 ∧ found.2.elapsed = 1000 ∧ lost.2.elapsed = 2000 ∧
      (∃ earlier round, found.1 = .ok ⟨0, "b:2"⟩ ∧
        Search Cluster.mending limit .noServers Cluster.refusing
          (earlier ++ [.tried round "b:2" (.ok ⟨0, "b:2"⟩)]) found.2 ∧
        ∀ move ∈ earlier, move.connection? = none) ∧
      ∃ moves fault, lost.1 = .error (.allAttemptsFailed 3 fault) ∧
        Search Cluster.network limit .noServers Cluster.refusing moves lost.2 ∧
        moves.map Move.stage = plan servers 3 ∧ moves.countP (·.fault?.isSome) = 6 := by
  intro servers limit found lost
  have hservers : servers ≠ [] := by simp [servers]
  have hfound : found.1 = .ok ⟨0, "b:2"⟩ := by rfl
  have hlost : lost.1 = .error (.allAttemptsFailed 3 (.unconnected "b:2" .refused)) := by rfl
  refine ⟨hservers, by decide, by decide +kernel, by decide +kernel, ?_, ?_⟩
  · obtain ⟨moves, hsearch, -, hends, -⟩ :=
      search_of_toAny Cluster.mending limit hservers (by decide : 0 < 3) Cluster.refusing
    obtain ⟨connection, earlier, round, hok, rfl, hearlier⟩ | ⟨fault, _, _, herror, -⟩ := hends
    · obtain rfl : ⟨0, "b:2"⟩ = connection := Except.ok.inj (hfound.symm.trans hok)
      exact ⟨earlier, round, hfound, hsearch, hearlier⟩
    · cases hfound.symm.trans herror
  · obtain ⟨moves, hsearch, -, hends, hfails⟩ :=
      search_of_toAny Cluster.network limit hservers (by decide : 0 < 3) Cluster.refusing
    obtain ⟨connection, _, _, hok, -⟩ | ⟨fault, _, _, herror, -, -, hplan, -⟩ := hends
    · cases hlost.symm.trans hok
    · exact ⟨moves, fault, herror, hsearch, hplan, hfails.1 ⟨_, hlost⟩⟩

end Connection

end KafkaCanary
