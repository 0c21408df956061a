import KafkaCanary.Decimal.Shortest

/-!
# Floating-Point Text

How the shortest digits of a binary64 value are laid out: positionally or with an exponent.
Three layouts are in use. Metrics and error texts write every number positionally, settings are
announced with exponents at both ends of the scale, and faults of a JSON document name its
numbers with signed exponents.
-/

namespace KafkaCanary.Decimal

/-- The decisions that a layout of numbers makes. -/
structure Layout where
  /-- The least and the greatest power of ten of a first digit that is written positionally;
  `none` if all are. -/
  positional : Option (Int × Int)
  /-- Whether a whole number ends in `.0`. -/
  pointZero : Bool
  /-- Whether an exponent that is not negative has a plus sign. -/
  plusSign : Bool
  /-- Which of two equally near numbers of the same length is written. -/
  tie : Tie

/-- Numbers in metrics and error texts: always positional, whole numbers without a point. -/
def plain : Layout := ⟨none, false, false, .up⟩

/-- Numbers in announced settings: an exponent from `1e16` up and below `1e-4`. -/
def announced : Layout := ⟨some (-4, 15), true, false, .up⟩

/-- Numbers found in a JSON document: a signed exponent from `1e+16` up and below `1e-5`. -/
def quoted : Layout := ⟨some (-5, 15), true, true, .toEven⟩

/-- The digits `ds` with `before` of them standing before the point. -/
def positionalText (pointZero : Bool) (ds : List Char) (before : Int) : List Char :=
  let whole := if before ≤ 0 then ['0'] else
    ds.take before.toNat ++ List.replicate (before.toNat - ds.length) '0'
  let fraction := List.replicate (-before).toNat '0' ++ ds.drop before.toNat
  if fraction.isEmpty || ds.length ≤ before then
    if pointZero then whole ++ ['.', '0'] else whole
  else whole ++ '.' :: fraction

/-- The digits `ds` with one of them before the point, and the exponent `e`. -/
def exponentText (plusSign : Bool) (ds : List Char) (e : Int) : List Char :=
  let significand := match ds with
    | d :: r :: rest => d :: '.' :: r :: rest
    | ds => ds
  let sign := if e < 0 then ['-'] else if plusSign then ['+'] else []
  significand ++ 'e' :: sign ++ Nat.toDigits 10 e.natAbs

/-- A decimal number in a layout. -/
def Layout.decimalText (layout : Layout) (d : Number) : List Char :=
  let ds := Nat.toDigits 10 d.digits
  let before := (ds.length : Int) + d.exponent
  match layout.positional with
  | none => positionalText layout.pointZero ds before
  | some (least, greatest) =>
    if d.digits = 0 ∨ (least ≤ before - 1 ∧ before - 1 ≤ greatest) then
      positionalText layout.pointZero ds before
    else exponentText layout.plusSign ds (before - 1)

/-- The sign bit of a value. -/
def signBit (x : Float) : Bool :=
  Nat.pow 2 63 ≤ x.toBits.toNat

/-- The magnitude of a finite value as a decimal number. -/
def magnitudeOf (x : Float) (tie : Tie) : Number :=
  let v := Dyadic.ofFloat x
  if v.mantissa = 0 then ⟨0, 0⟩ else v.shortest tie

/-- The text of a value in a layout. -/
def Layout.text (layout : Layout) (x : Float) : String :=
  if x.isNaN then "NaN"
  else
    let sign := if signBit x then "-" else ""
    if x.isInf then sign ++ "inf"
    else sign ++ String.ofList (layout.decimalText (magnitudeOf x layout.tie))

end KafkaCanary.Decimal
