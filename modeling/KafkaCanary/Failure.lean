/-!
# Failures

A failure that is passed on to people: what failed, followed by the causes from the outside in.
-/

namespace KafkaCanary

/-- A failure and its causes. -/
structure Failure where
  /-- What failed. -/
  summary : String
  /-- What led to it, the nearest cause first. -/
  causes : List String
deriving DecidableEq, Repr

namespace Failure

/-- A failure without causes. -/
def of (summary : String) : Failure :=
  ⟨summary, []⟩

/-- A failure that led to a wider one. -/
def within (summary : String) (failure : Failure) : Failure :=
  ⟨summary, failure.summary :: failure.causes⟩

/-- The whole failure in one line. -/
def text (failure : Failure) : String :=
  ": ".intercalate (failure.summary :: failure.causes)

end Failure

end KafkaCanary
