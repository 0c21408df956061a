import KafkaCanary.Decimal.Literal
import KafkaCanary.Json.Lexeme

/-!
# JSON Numbers

A number is read in two steps: its digits are split off, then they are given a value. Integers
keep their exact value as long as it fits 64 bits. Every other number is a binary64 value, made
from as many leading digits as fit 64 bits and one multiplication or division by a power of ten,
so that it may differ in the last bit from the value nearest to the number.
-/

namespace KafkaCanary.Json

/-- Whether a byte is a decimal digit. -/
def isDigit (b : UInt8) : Bool :=
  0x30 ≤ b && b ≤ 0x39

/-- The value of a decimal digit. -/
def digitValue (b : UInt8) : Nat :=
  b.toNat - 0x30

/-- The digits that bytes begin with. -/
def leadingDigits (bytes : List UInt8) : List UInt8 :=
  bytes.takeWhile isDigit

/-- The bytes after the digits they begin with. -/
def afterDigits (bytes : List UInt8) : List UInt8 :=
  bytes.dropWhile isDigit

/-- A number as it is written. -/
structure Numeral where
  /-- Whether a minus sign stands in front. -/
  negative : Bool
  /-- The digits before the point: a lone zero, or digits that do not begin with one. -/
  whole : List UInt8
  /-- The digits after the point; none if there is no point. -/
  fraction : List UInt8
  /-- Whether the exponent has a minus sign, and its digits; `none` if there is no exponent. -/
  exponent : Option (Bool × List UInt8)
deriving DecidableEq, Repr

/-- The damage of a number that lacks a digit where `rest` begins; `cut` is the damage if the
bytes end there. -/
def missingDigit (cut : Damage) : (rest : List UInt8) → Damage
  | [] => cut
  | _ :: _ => .malformed

/-- The digits before the point. -/
def readWhole (cut : Damage) : List UInt8 → Except Damage (List UInt8 × List UInt8)
  | [] => .error cut
  | b :: rest =>
    -- A zero in front stands alone.
    if b == 0x30 then
      if leadingDigits rest = [] then .ok ([b], rest) else .error .malformed
    else if isDigit b then .ok (b :: leadingDigits rest, afterDigits rest)
    else .error .malformed

/-- The digits after the point, if bytes begin with a point. -/
def readFraction (cut : Damage) : List UInt8 → Except Damage (List UInt8 × List UInt8)
  | [] => .ok ([], [])
  | b :: rest =>
    if b == 0x2E then
      if leadingDigits rest = [] then .error (missingDigit cut rest)
      else .ok (leadingDigits rest, afterDigits rest)
    else .ok ([], b :: rest)

/-- Whether an exponent is negative, and the bytes after its sign. -/
def readSign : List UInt8 → Bool × List UInt8
  | [] => (false, [])
  | b :: rest =>
    if b == 0x2D then (true, rest) else if b == 0x2B then (false, rest) else (false, b :: rest)

/-- The exponent, if bytes begin with one. -/
def readExponent (cut : Damage) :
    List UInt8 → Except Damage (Option (Bool × List UInt8) × List UInt8)
  | [] => .ok (none, [])
  | b :: rest =>
    if b == 0x65 || b == 0x45 then
      let (negative, rest) := readSign rest
      if leadingDigits rest = [] then .error (missingDigit cut rest)
      else .ok (some (negative, leadingDigits rest), afterDigits rest)
    else .ok (none, b :: rest)

/-- Split a number from the bytes that begin with it; `cut` is the damage if the bytes end where
one more digit had to follow. -/
def readNumeral (cut : Damage) (bytes : List UInt8) : Except Damage (Numeral × List UInt8) := do
  let (negative, bytes) := match bytes with
    | [] => (false, [])
    | b :: rest => if b == 0x2D then (true, rest) else (false, b :: rest)
  let (whole, bytes) ← readWhole cut bytes
  let (fraction, bytes) ← readFraction cut bytes
  let (exponent, bytes) ← readExponent cut bytes
  return (⟨negative, whole, fraction, exponent⟩, bytes)

/-- The value of a number. -/
inductive Quantity where
  /-- An integer that fits 64 bits, with or without a sign. -/
  | integer (value : Int)
  /-- Any other number. -/
  | floating (value : Float)

/-- The digits taken into a significand of 64 bits: its value, how many digits were taken, and
the digits from the first one that did not fit. -/
def absorb (significand : Nat) : List UInt8 → Nat × Nat × List UInt8
  | [] => (significand, 0, [])
  | d :: ds =>
    if significand * 10 + digitValue d < UInt64.size then
      let (value, taken, rest) := absorb (significand * 10 + digitValue d) ds
      (value, taken + 1, rest)
    else (significand, 0, d :: ds)

/-- Scale a value by a power of ten; `none` if the result is infinite. -/
def scale (f : Float) (exponent : Int) : Option Float :=
  if exponent.natAbs ≤ 308 then
    let power := Decimal.nearest 1 exponent.natAbs
    if exponent < 0 then some (f / power)
    else if (f * power).isInf then none
    else some (f * power)
  else if f == 0 then some f
  else if 0 ≤ exponent then none
  else scale (f / Decimal.nearest 1 308) (exponent + 308)
termination_by exponent.natAbs
decreasing_by omega

namespace Numeral

/-- The value of an exponent's digits. -/
def exponentValue (ds : List UInt8) : Nat :=
  ds.foldl (fun n d => n * 10 + digitValue d) 0

/-- The value of an integer whose digits make up `significand`. -/
def integerValue (negative : Bool) (significand : Nat) : Quantity :=
  -- No integer has the sign of a negative zero.
  if !negative then .integer significand
  else if significand = 0 then .floating (-0.0)
  else if significand ≤ Int64.size / 2 then .integer (-significand)
  else .floating (-Float.ofNat significand)

/-- The value of `significand * 10 ^ exponent`; `none` if it is infinite. -/
def floatingValue (negative : Bool) (significand : Nat) (exponent : Int) : Option Quantity :=
  (scale (Float.ofNat significand) exponent).map fun f =>
    .floating (if negative then -f else f)

/-- The value of a number; `none` if its magnitude is beyond every finite one. An exponent
beyond 31 bits makes the number zero or infinite at once. -/
def quantity (n : Numeral) : Option Quantity :=
  -- Digits before the point that do not fit shift the value up, digits after it shift it down.
  let (significand, _, dropped) := absorb 0 n.whole
  let (significand, taken, _) := absorb significand n.fraction
  let shift : Int := dropped.length - taken
  match n.exponent with
  | none =>
    if n.fraction.isEmpty && dropped.isEmpty then
      some (integerValue n.negative significand)
    else floatingValue n.negative significand shift
  | some (negative, ds) =>
    let e := exponentValue ds
    if e < Int32.size / 2 then
      floatingValue n.negative significand (if negative then shift - e else shift + e)
    else if significand ≠ 0 && !negative then none
    else some (.floating (if n.negative then -0.0 else 0.0))

end Numeral

/-- The value of the number that bytes begin with. -/
def readQuantity (bytes : List UInt8) : Except Damage (Quantity × List UInt8) := do
  let (n, bytes) ← readNumeral .truncated bytes
  match n.quantity with
  | some q => return (q, bytes)
  | none => .error .malformed

theorem length_afterDigits_le (bytes : List UInt8) :
    (afterDigits bytes).length ≤ bytes.length :=
  (List.dropWhile_sublist isDigit).length_le

theorem length_readWhole_lt {cut : Damage} {bytes ds rest : List UInt8}
    (h : readWhole cut bytes = .ok (ds, rest)) : rest.length < bytes.length := by
  cases bytes with
  | nil => simp [readWhole] at h
  | cons b bytes =>
    have := length_afterDigits_le bytes
    simp only [readWhole] at h
    split at h <;> split at h <;> simp at h <;> grind

theorem length_readFraction_le {cut : Damage} {bytes ds rest : List UInt8}
    (h : readFraction cut bytes = .ok (ds, rest)) : rest.length ≤ bytes.length := by
  cases bytes with
  | nil => simp_all [readFraction]
  | cons b bytes =>
    have := length_afterDigits_le bytes
    simp only [readFraction] at h
    split at h
    · split at h <;> simp at h; grind
    · simp at h; grind

theorem length_readSign_le (bytes : List UInt8) : (readSign bytes).2.length ≤ bytes.length := by
  cases bytes with
  | nil => simp [readSign]
  | cons b bytes => simp only [readSign]; split <;> (try split) <;> simp

theorem length_readExponent_le {cut : Damage} {bytes rest : List UInt8}
    {e : Option (Bool × List UInt8)} (h : readExponent cut bytes = .ok (e, rest)) :
    rest.length ≤ bytes.length := by
  cases bytes with
  | nil => simp_all [readExponent]
  | cons b bytes =>
    have := length_readSign_le bytes
    have := length_afterDigits_le (readSign bytes).2
    simp only [readExponent] at h
    split at h
    · split at h <;> simp at h; grind
    · simp at h; grind

theorem length_readNumeral_lt {cut : Damage} {bytes rest : List UInt8} {n : Numeral}
    (h : readNumeral cut bytes = .ok (n, rest)) : rest.length < bytes.length := by
  simp only [readNumeral, bind, Except.bind] at h
  split at h <;> try contradiction
  next w hw =>
  split at h <;> try contradiction
  next f hf =>
  split at h <;> try contradiction
  next e he =>
  have h1 := length_readWhole_lt hw
  have h2 := length_readFraction_le hf
  have h3 := length_readExponent_le he
  simp [pure, Except.pure] at h
  cases bytes <;> grind

end KafkaCanary.Json
