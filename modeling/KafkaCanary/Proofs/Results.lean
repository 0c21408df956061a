/-!
# Successful results

When a result that was mapped or passed on is a success: the result it came from was one.
-/

namespace KafkaCanary

variable {ε α β : Type}

/-- A mapped result is a success iff the result is one. -/
theorem map_eq_ok_iff {f : α → β} {r : Except ε α} {b : β} :
    r.map f = .ok b ↔ ∃ a, r = .ok a ∧ f a = b := by
  cases r <;> simp [Except.map]

/-- A result that is passed on ends in a success iff it is one and what follows succeeds. -/
theorem bind_eq_ok_iff {f : α → Except ε β} {r : Except ε α} {b : β} :
    r >>= f = .ok b ↔ ∃ a, r = .ok a ∧ f a = .ok b := by
  cases r <;> simp [bind, Except.bind]

@[simp]
theorem mapError_ok {ε' : Type} (f : ε → ε') (a : α) : (Except.ok a).mapError f = .ok a :=
  rfl

@[simp]
theorem mapError_error {ε' : Type} (f : ε → ε') (e : ε) :
    (Except.error e : Except ε α).mapError f = .error (f e) :=
  rfl

/-- A result with its fault renamed is a success iff the result is one. -/
theorem mapError_eq_ok_iff {ε' : Type} {f : ε → ε'} {r : Except ε α} {a : α} :
    r.mapError f = .ok a ↔ r = .ok a := by
  cases r <;> simp

end KafkaCanary
