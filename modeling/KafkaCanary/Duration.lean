/-!
# Durations

Lengths of time in whole nanoseconds.
-/

namespace KafkaCanary

/-- A length of time. -/
structure Duration where
  /-- The number of nanoseconds. -/
  nanos : Nat
deriving DecidableEq, Repr

namespace Duration

/-- A number of milliseconds. -/
def ofMillis (millis : Nat) : Duration :=
  ⟨millis * 1000000⟩

/-- A number of seconds and nanoseconds. -/
def ofParts (seconds nanos : Nat) : Duration :=
  ⟨seconds * 1000000000 + nanos⟩

/-- The number of whole milliseconds. -/
def millis (d : Duration) : Nat :=
  d.nanos / 1000000

@[simp]
theorem millis_ofMillis (millis : Nat) : (ofMillis millis).millis = millis := by
  simp [ofMillis, Duration.millis]

/-- The number of whole milliseconds as an integer of 32 bits, or the greatest such integer if
the duration is longer. -/
def millis32 (d : Duration) : Int32 :=
  if d.millis < Int32.size / 2 then Int32.ofNat d.millis else Int32.maxValue

end Duration

/-- A length of time after which something happens again. It is counted in whole milliseconds, of
which there is one at least. The options give it in milliseconds, so no fraction of one is left
uncounted, and a shorter length cannot be given. -/
abbrev Period := { d : Duration // 0 < d.millis }

end KafkaCanary
