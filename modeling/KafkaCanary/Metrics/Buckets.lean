import KafkaCanary.Decimal.Layout
import KafkaCanary.Decimal.Literal
import KafkaCanary.Text.CommaList

/-!
# Latency Buckets

The upper bounds of a latency histogram, in milliseconds. Bounds have to be finite and strictly
increasing, and there has to be one at least.
-/

namespace KafkaCanary

/-- Why a list of bounds cannot be used. -/
inductive BucketFault where
  /-- There are no bounds. -/
  | empty
  /-- A bound is infinite or no number. -/
  | notFinite (bound : Float)
  /-- A bound is not less than the next one. -/
  | notIncreasing (bound next : Float)
  /-- An entry of a written list is no number. -/
  | invalid (entry : String)

/-- The description of a fault. -/
def BucketFault.message : BucketFault → String
  | .empty => "Latency buckets must not be empty"
  | .notFinite bound =>
    "Latency bucket " ++ Decimal.plain.text bound ++ " is not a finite number"
  | .notIncreasing bound next =>
    "Latency buckets must be strictly increasing: " ++ Decimal.plain.text bound ++
      " is followed by " ++ Decimal.plain.text next
  | .invalid entry => "Invalid latency bucket '" ++ entry ++ "': invalid float literal"

namespace Buckets

/-- The first bound that is not less than the one after it, with its successor. -/
def firstDescent : List Float → Option (Float × Float)
  | a :: b :: rest => if a ≥ b then some (a, b) else firstDescent (b :: rest)
  | _ => none

/-- Check that bounds can be used. A bound that is not finite is found before a descent. -/
def check (bounds : List Float) : Except BucketFault Unit :=
  if bounds.isEmpty then .error .empty
  else
    match bounds.find? (!·.isFinite) with
    | some bound => .error (.notFinite bound)
    | none =>
      match firstDescent bounds with
      | some (a, b) => .error (.notIncreasing a b)
      | none => .ok ()

/-- The number that an entry of a written list stands for. -/
def readEntry (entry : String) : Except BucketFault Float :=
  match Decimal.readLiteral entry with
  | some bound => .ok bound
  | none => .error (.invalid entry)

/-- The bounds in a comma-separated list. Every entry is read before any bound is judged. -/
def parse (list : String) : Except BucketFault (List Float) := do
  let bounds ← (Text.entries list).mapM readEntry
  check bounds
  return bounds

end Buckets

end KafkaCanary
