/-!
# Clocks

A wall clock shows milliseconds since the epoch as an integer of 64 bits, which wraps. A clock of
this kind is moved by hand.
-/

namespace KafkaCanary

/-- A clock that is moved by hand. -/
structure Clock where
  /-- The time shown, in milliseconds since the epoch. -/
  now : Int64
deriving DecidableEq, Repr

/-- Move a clock by `delta` milliseconds, backwards if negative. -/
def Clock.advance (clock : Clock) (delta : Int64) : Clock :=
  ⟨clock.now + delta⟩

end KafkaCanary
