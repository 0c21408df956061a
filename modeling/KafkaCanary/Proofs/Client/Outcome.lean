import KafkaCanary.Client.Operations

/-!
# Outcomes of a client's computations

A computation of a client ends in a result or a fault, and in another state (`outcome`). Each way to
put computations together has its rule here, and so has each of the small computations that the
operations are made of. What a computation can fail with (`FailsWith`) follows from its parts in the
same way.

Two computations agree along a map of their states if they have the same result from a state and its
image, and end in a state and its image (`Agrees`). Agreement passes through the ways to put
computations together, one rule for each.
-/

namespace KafkaCanary

/-! ## What computations end in -/

section Outcome

variable {ε σ α β : Type}

/-- What a computation ends in from a state: a result or a fault, and another state. -/
def outcome (x : ExceptT ε (StateM σ) α) (s : σ) : Except ε α × σ :=
  x.run.run s

/-- A result alone leaves the state as it is. -/
@[simp]
theorem outcome_pure (a : α) (s : σ) :
    outcome (pure a : ExceptT ε (StateM σ) α) s = (.ok a, s) :=
  rfl

/-- A fault alone leaves the state as it is. -/
@[simp]
theorem outcome_throw (fault : ε) (s : σ) :
    outcome (throw fault : ExceptT ε (StateM σ) α) s = (.error fault, s) :=
  rfl

/-- Reading the state results in the state. -/
@[simp]
theorem outcome_get (s : σ) : outcome (get : ExceptT ε (StateM σ) σ) s = (.ok s, s) :=
  rfl

/-- The second computation goes on from the state the first ends in, unless the first failed. -/
theorem outcome_bind (x : ExceptT ε (StateM σ) α) (f : α → ExceptT ε (StateM σ) β) (s : σ) :
    outcome (x >>= f) s =
      match outcome x s with
      | (.ok a, s') => outcome (f a) s'
      | (.error fault, s') => (.error fault, s') := by
  show StateT.run (x.run >>= ExceptT.bindCont f) s = _
  unfold outcome
  rw [StateT.run_bind]
  rcases h : StateT.run x.run s with ⟨_ | _, _⟩ <;> rfl

/-- What is done about a fault goes on from the state the fault was met in. -/
theorem outcome_tryCatch (x : ExceptT ε (StateM σ) α) (f : ε → ExceptT ε (StateM σ) α) (s : σ) :
    outcome (tryCatch x f) s =
      match outcome x s with
      | (.ok a, s') => (.ok a, s')
      | (.error fault, s') => outcome (f fault) s' := by
  show StateT.run (ExceptT.tryCatch x f).run s = _
  unfold ExceptT.tryCatch outcome
  rw [ExceptT.run_mk, StateT.run_bind, show StateT.run x s = StateT.run x.run s from rfl]
  rcases StateT.run x.run s with ⟨_ | _, _⟩ <;> rfl

end Outcome

/-! ## What computations fail with -/

section FailsWith

variable {ε σ α β : Type}

/-- Every fault that a computation ends in has a property. -/
def FailsWith (p : ε → Prop) (x : ExceptT ε (StateM σ) α) : Prop :=
  ∀ s fault, (outcome x s).1 = .error fault → p fault

variable {p : ε → Prop} {x y : ExceptT ε (StateM σ) α}

/-- A result is no fault. -/
theorem FailsWith.pure (a : α) : FailsWith p (Pure.pure a : ExceptT ε (StateM σ) α) :=
  fun _ _ h => by cases h

/-- A fault thrown is the only fault there is. -/
theorem FailsWith.throw {fault : ε} (h : p fault) :
    FailsWith p (MonadExcept.throw fault : ExceptT ε (StateM σ) α) := by
  rintro _ _ ⟨⟩
  exact h

/-- Reading the state never fails. -/
theorem FailsWith.get : FailsWith p (MonadState.get : ExceptT ε (StateM σ) σ) :=
  fun _ _ h => by cases h

/-- Changing the state never fails. -/
theorem FailsWith.modifyGet (f : σ → α × σ) :
    FailsWith p (MonadStateOf.modifyGet f : ExceptT ε (StateM σ) α) :=
  fun _ _ h => by cases h

/-- A sequence fails with what one of its parts fails with. -/
theorem FailsWith.bind {f : α → ExceptT ε (StateM σ) β} (hx : FailsWith p x)
    (hf : ∀ a, FailsWith p (f a)) : FailsWith p (x >>= f) := by
  intro s fault h
  rw [outcome_bind] at h
  have hx := hx s
  revert h hx
  rcases outcome x s with ⟨fault' | a, s'⟩
  · intro h hx
    cases h
    exact hx _ rfl
  · exact fun h _ => hf a s' fault h

/-- Nothing follows a fault. -/
theorem FailsWith.throw_bind {fault : ε} (h : p fault) (f : α → ExceptT ε (StateM σ) β) :
    FailsWith p ((MonadExcept.throw fault : ExceptT ε (StateM σ) α) >>= f) := by
  rintro _ _ ⟨⟩
  exact h

/-- Of the faults that are caught only those count that their treatment ends in. -/
theorem FailsWith.tryCatch {f : ε → ExceptT ε (StateM σ) α} (hx : FailsWith p x)
    (hf : ∀ fault, p fault → FailsWith p (f fault)) :
    FailsWith p (MonadExcept.tryCatch x f) := by
  intro s fault h
  rw [outcome_tryCatch] at h
  have hx := hx s
  revert h hx
  rcases outcome x s with ⟨fault' | a, s'⟩
  · exact fun h hx => hf fault' (hx fault' rfl) s' fault h
  · exact fun h _ => by cases h

/-- A choice fails with what one of its branches fails with. -/
theorem FailsWith.ite {c : Prop} [Decidable c] (hx : FailsWith p x) (hy : FailsWith p y) :
    FailsWith p (if c then x else y) := by
  split
  · exact hx
  · exact hy

end FailsWith

/-! ## Computations that agree -/

section Agrees

variable {ε σ τ α β : Type}

/-- Two computations have the same result from a state and its image, and end in a state and its
image. -/
def Agrees (p : σ → τ) (x : ExceptT ε (StateM σ) α) (y : ExceptT ε (StateM τ) α) : Prop :=
  ∀ s, outcome y (p s) = ((outcome x s).1, p (outcome x s).2)

variable {p : σ → τ}

/-- The same result agrees along any map. -/
theorem Agrees.pure (a : α) :
    Agrees p (Pure.pure a : ExceptT ε (StateM σ) α) (Pure.pure a : ExceptT ε (StateM τ) α) :=
  fun _ => rfl

/-- The same fault agrees along any map. -/
theorem Agrees.throw (fault : ε) :
    Agrees p (MonadExcept.throw fault : ExceptT ε (StateM σ) α)
      (MonadExcept.throw fault : ExceptT ε (StateM τ) α) :=
  fun _ => rfl

/-- Two changes of state agree if the map carries one to the other. -/
theorem Agrees.modify {f : σ → σ} {g : τ → τ} (h : ∀ s, g (p s) = p (f s)) :
    Agrees p (MonadStateOf.modifyGet fun s => (PUnit.unit, f s) : ExceptT ε (StateM σ) PUnit)
      (MonadStateOf.modifyGet fun s => (PUnit.unit, g s) : ExceptT ε (StateM τ) PUnit) :=
  fun s => congrArg (Prod.mk _) (h s)

variable {x x' : ExceptT ε (StateM σ) α} {y y' : ExceptT ε (StateM τ) α}

/-- Sequences agree if both their parts do. -/
theorem Agrees.bind {f : α → ExceptT ε (StateM σ) β} {g : α → ExceptT ε (StateM τ) β}
    (hx : Agrees p x y) (hf : ∀ a, Agrees p (f a) (g a)) : Agrees p (x >>= f) (y >>= g) := by
  intro s
  rw [outcome_bind, outcome_bind, hx s]
  rcases outcome x s with ⟨fault | a, s'⟩
  · rfl
  · exact hf a s'

/-- Treatments of the same faults agree if they agree fault by fault. -/
theorem Agrees.tryCatch {f : ε → ExceptT ε (StateM σ) α} {g : ε → ExceptT ε (StateM τ) α}
    (hx : Agrees p x y) (hf : ∀ fault, Agrees p (f fault) (g fault)) :
    Agrees p (MonadExcept.tryCatch x f) (MonadExcept.tryCatch y g) := by
  intro s
  rw [outcome_tryCatch, outcome_tryCatch, hx s]
  rcases outcome x s with ⟨fault | a, s'⟩
  · exact hf fault s'
  · rfl

/-- Choices on the same condition agree if their branches do. -/
theorem Agrees.ite {c : Prop} [Decidable c] (hx : Agrees p x y) (hx' : Agrees p x' y') :
    Agrees p (if c then x else x') (if c then y else y') := by
  by_cases h : c
  · rwa [if_pos h, if_pos h]
  · rwa [if_neg h, if_neg h]

/-- A computation may stop under a condition before it goes on. -/
theorem Agrees.unless {c : Prop} [Decidable c] {fault : ε} {f : Unit → ExceptT ε (StateM σ) α}
    {g : Unit → ExceptT ε (StateM τ) α} (h : ∀ u, Agrees p (f u) (g u)) :
    Agrees p (if c then MonadExcept.throw fault >>= f else f ())
      (if c then MonadExcept.throw fault >>= g else g ()) :=
  .ite ((Agrees.throw fault).bind h) (h ())

/-- The same list gone through by computations that agree. -/
theorem Agrees.mapM {f : β → ExceptT ε (StateM σ) α} {g : β → ExceptT ε (StateM τ) α}
    (h : ∀ b, Agrees p (f b) (g b)) (bs : List β) : Agrees p (bs.mapM f) (bs.mapM g) := by
  induction bs with
  | nil => exact .pure []
  | cons b bs ih =>
    rw [List.mapM_cons, List.mapM_cons]
    exact (h b).bind fun a => ih.bind fun as => .pure (a :: as)

/-- What follows a look at the state may depend on the state, as long as it does so alike. -/
theorem Agrees.get {f : σ → ExceptT ε (StateM σ) α} {g : τ → ExceptT ε (StateM τ) α}
    (h : ∀ s, outcome (g (p s)) (p s) = ((outcome (f s) s).1, p (outcome (f s) s).2)) :
    Agrees p (MonadState.get >>= f) (MonadState.get >>= g) := by
  intro s
  rw [outcome_bind, outcome_bind]
  exact h s

end Agrees

/-! ## The small computations of a client -/

namespace NetworkM

/-- The fault of something asked of the network that was not done. -/
def faultOf (late : ClientFault) (failed : TransportFault → ClientFault) : Mishap → ClientFault
  | .late => late
  | .failed fault => failed fault

/-- A question to the network ends in its answer, with a mishap told as a fault. -/
theorem outcome_ask {N α : Type} (late : ClientFault) (failed : TransportFault → ClientFault)
    (f : N → Except Mishap α × N) (n : N) :
    outcome (ask late failed f) n = ((f n).1.mapError (faultOf late failed), (f n).2) := by
  have hasked : outcome (modifyGet f : NetworkM N (Except Mishap α)) n = (.ok (f n).1, (f n).2) :=
    rfl
  rw [ask, outcome_bind, hasked]
  rcases f n with ⟨(_ | fault) | a, n'⟩ <;> rfl

end NetworkM

namespace ClientM

variable {N α : Type}

/-- What is done on the network leaves the client's memory as it is. -/
theorem outcome_onNetwork (action : NetworkM N α) (s : Session N) :
    outcome (onNetwork action) s =
      ((outcome action s.network).1, ⟨s.client, (outcome action s.network).2⟩) := by
  rw [onNetwork, outcome_bind, outcome_get]
  dsimp only
  rw [show action.run.run s.network = outcome action s.network from rfl]
  rcases outcome action s.network with ⟨fault | a, n⟩ <;> rfl

/-- A report reaches the network and never fails. -/
@[simp]
theorem outcome_report (net : Network N) (event : Event) (s : Session N) :
    outcome (report net event) s = (.ok (), ⟨s.client, net.emit event s.network⟩) :=
  rfl

/-- Reports reach the network in their order. -/
@[simp]
theorem outcome_reportAll (net : Network N) (events : List Event) (s : Session N) :
    outcome (reportAll net events) s =
      (.ok (), ⟨s.client, events.foldl (fun n e => net.emit e n) s.network⟩) :=
  rfl

/-- An update changes the client's memory only. -/
@[simp]
theorem outcome_update (f : Client → Client) (s : Session N) :
    outcome (update f) s = (.ok (), ⟨f s.client, s.network⟩) :=
  rfl

/-- A question to the client's memory changes nothing. -/
@[simp]
theorem outcome_ask (f : Client → α) (s : Session N) :
    outcome (ask f) s = (.ok (f s.client), s) :=
  rfl

/-- A closed client refuses. -/
theorem outcome_ensureOpen_of_closed {s : Session N} (h : s.client.closed = true) :
    outcome ensureOpen s = (.error .closed, s) := by
  rw [ensureOpen, outcome_bind, outcome_ask, h]
  rfl

/-- An open client goes on unchanged. -/
theorem outcome_ensureOpen_of_open {s : Session N} (h : s.client.closed = false) :
    outcome ensureOpen s = (.ok (), s) := by
  rw [ensureOpen, outcome_bind, outcome_ask, h]
  rfl

/-- A result from elsewhere is taken over, with its fault told as the client's. -/
theorem outcome_ofExcept {ε : Type} (fault : ε → ClientFault) (result : Except ε α)
    (s : Session N) : outcome (ofExcept fault result) s = (result.mapError fault, s) := by
  cases result <;> rfl

/-- An undertaking is added to the fault and to nothing else. -/
theorem outcome_during (undertaking : Undertaking) (action : ClientM N α) (s : Session N) :
    outcome (during undertaking action) s =
      ((outcome action s).1.mapError (.during undertaking), (outcome action s).2) := by
  rw [during, outcome_tryCatch]
  rcases outcome action s with ⟨fault | a, s'⟩ <;> rfl

end ClientM

namespace Client

variable {N : Type} (net : Network N)

/-- What is known after the network was asked to close a connection. -/
def shutResult (address : String) : Except TransportFault Unit → Option ClientFault
  | .ok () | .error .notConnected => none
  | .error transport => some (.unclosed address transport)

/-- A retired connection is left alone, any other is shut and forgotten. -/
theorem outcome_shutConnection (connection : Connection) (s : Session N) :
    outcome (shutConnection net connection) s =
      if s.client.isRetired connection then (.ok none, s) else
        let shut := net.shutdown connection.id s.network
        let fault := shutResult connection.address shut.1
        (.ok fault, ⟨s.client,
          fault.elim shut.2 fun fault => net.emit (.closeFailed fault.message) shut.2⟩) := by
  rw [shutConnection, outcome_bind, ClientM.outcome_ask]
  by_cases h : s.client.isRetired connection
  · simp only [h]
    rfl
  simp only [h]
  show outcome (do
    set (⟨s.client, (net.shutdown connection.id s.network).2⟩ : Session N)
    match (net.shutdown connection.id s.network).1 with
    | .ok () | .error .notConnected => return none
    | .error transport =>
      let fault := ClientFault.unclosed connection.address transport
      ClientM.report net (.closeFailed fault.message)
      return some fault) s = _
  rcases net.shutdown connection.id s.network with ⟨transport | _, n⟩
  · cases transport <;> rfl
  · rfl

end Client

end KafkaCanary
