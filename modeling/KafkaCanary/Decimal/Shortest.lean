/-!
# Shortest Digits

The decimal number with the fewest digits that reads back as a given binary64 value, and of
those the one nearest to it.

A finite value is `mantissa * 2 ^ exponent`. The numbers that round to it form an interval
around it; its ends belong to it when the mantissa is even. For each number of digits the two
neighbours of the value on that decimal grid are tried, so no shorter number is overlooked.
All arithmetic is exact.
-/

namespace KafkaCanary.Decimal

/-- Which of two equally near numbers is taken. -/
inductive Tie where
  /-- The greater one. -/
  | up
  /-- The one whose last digit is even. -/
  | toEven
deriving DecidableEq, Repr

/-- A positive finite binary64 value `mantissa * 2 ^ exponent`. -/
structure Dyadic where
  /-- The significant bits. -/
  mantissa : Nat
  /-- The power of two that the mantissa counts. -/
  exponent : Int
deriving DecidableEq, Repr

/-- The first bit of a mantissa, which is not stored. It stands above 52 stored bits. -/
def leadingBit : Nat :=
  Nat.pow 2 52

/-- The magnitude of a finite value. -/
def Dyadic.ofFloat (x : Float) : Dyadic :=
  let bits := x.toBits.toNat
  let field : Nat := bits / leadingBit % 2048
  let fraction := bits % leadingBit
  -- The smallest values have no leading bit.
  if field = 0 then ⟨fraction, -1074⟩ else ⟨leadingBit + fraction, (field : Int) - 1075⟩

/-- A decimal number `digits * 10 ^ exponent`. -/
structure Number where
  /-- The digits as a whole number. -/
  digits : Nat
  /-- The power of ten that the last digit counts. -/
  exponent : Int
deriving DecidableEq, Repr

/-- A decimal number without zeros at its end, as far as `fuel` allows. -/
def Number.stripZeros : (fuel : Nat) → Number → Number
  | 0, d => d
  | fuel + 1, d =>
    if d.digits ≠ 0 ∧ d.digits % 10 = 0 then
      stripZeros fuel ⟨d.digits / 10, d.exponent + 1⟩
    else d

namespace Dyadic

/-- The factor of a quarter of the last mantissa bit in a comparison with the decimal grid
`10 ^ k`. -/
def quarterFactor (v : Dyadic) (k : Int) : Nat :=
  Nat.pow 10 (-k).toNat * Nat.pow 2 (v.exponent - 2).toNat

/-- The factor of a point of the decimal grid `10 ^ k` in that comparison. -/
def gridFactor (v : Dyadic) (k : Int) : Nat :=
  Nat.pow 10 k.toNat * Nat.pow 2 (2 - v.exponent).toNat

/-- The lower end of the interval, in quarters of the last mantissa bit. The distance to the
next smaller value is halved below a power of two. -/
def lowerQuarters (v : Dyadic) : Nat :=
  if v.mantissa = leadingBit ∧ -1074 < v.exponent then 4 * v.mantissa - 1 else 4 * v.mantissa - 2

/-- The upper end of the interval, in quarters of the last mantissa bit. -/
def upperQuarters (v : Dyadic) : Nat :=
  4 * v.mantissa + 2

/-- Whether `d * 10 ^ k` reads back as the value. -/
def readsBack (v : Dyadic) (k : Int) (d : Nat) : Bool :=
  let point := d * v.gridFactor k
  let low := v.lowerQuarters * v.quarterFactor k
  let high := v.upperQuarters * v.quarterFactor k
  if v.mantissa % 2 = 0 then low ≤ point && point ≤ high else low < point && point < high

/-- The point of the decimal grid `10 ^ k` that stands for the value, if one reads back. -/
def onGrid (v : Dyadic) (tie : Tie) (k : Int) : Option Nat :=
  let value := 4 * v.mantissa * v.quarterFactor k
  let d := value / v.gridFactor k
  match v.readsBack k d, v.readsBack k (d + 1) with
  | false, false => none
  | true, false => some d
  | false, true => some (d + 1)
  | true, true =>
    -- Both neighbours read back, so the nearer one is taken.
    let below := value - d * v.gridFactor k
    let above := (d + 1) * v.gridFactor k - value
    if below < above then some d
    else if above < below then some (d + 1)
    else match tie with
      | .up => some (d + 1)
      | .toEven => some (if d % 2 = 0 then d else d + 1)

/-- Count the zeros after the point of a value below one, as far as `fuel` allows. -/
def leadingZeros (denominator : Nat) : (fuel : Nat) → (numerator : Nat) → Nat
  | 0, _ => 0
  | fuel + 1, numerator =>
    if numerator * 10 < denominator then leadingZeros denominator fuel (numerator * 10) + 1
    else 0

/-- The number of digits before the point; for a value below one, minus the number of zeros
that follow the point. -/
def magnitude (v : Dyadic) : Int :=
  let denominator := Nat.pow 2 (-v.exponent).toNat
  let whole := v.mantissa * Nat.pow 2 v.exponent.toNat / denominator
  if whole = 0 then -(leadingZeros denominator 400 v.mantissa : Int)
  else (Nat.toDigits 10 whole).length

/-- Try `n` digits, then one more, until a number reads back. Seventeen digits always do. -/
def search (v : Dyadic) (tie : Tie) (magnitude : Int) : (fuel : Nat) → (n : Nat) → Number
  | 0, _ => ⟨0, 0⟩
  | fuel + 1, n =>
    match v.onGrid tie (magnitude - n) with
    | some d => Number.stripZeros 18 ⟨d, magnitude - n⟩
    | none => search v tie magnitude fuel (n + 1)

/-- The shortest decimal number that reads back as the value. -/
def shortest (v : Dyadic) (tie : Tie) : Number :=
  v.search tie v.magnitude 20 1

end Dyadic

end KafkaCanary.Decimal
