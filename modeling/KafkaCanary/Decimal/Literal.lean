import KafkaCanary.Decimal.Integer

/-!
# Floating-Point Literals

A literal is a number with optional sign, point and exponent, or one of the names `inf`,
`infinity` and `nan` in any case. A number stands for the binary64 value nearest to it.
-/

namespace KafkaCanary.Decimal

/-- The value of a sequence of digits. -/
def digitsValue (ds : List Char) : Nat :=
  ds.foldl (fun n d => n * 10 + digitValue d) 0

/-- The binary64 value nearest to `significand * 10 ^ exponent`. A number with its first digit
beyond the 400th place on either side of the point is known to be infinite or zero. -/
def nearest (significand : Nat) (exponent : Int) : Float :=
  if significand = 0 then 0
  else
    let place := ((Nat.toDigits 10 significand).length : Int) + exponent
    if 400 < place then 1.0 / 0.0
    else if place < -400 then 0
    else if 0 ≤ exponent then Float.ofScientific significand false exponent.toNat
    else Float.ofScientific significand true (-exponent).toNat

/-- The digits of an exponent and its sign, if `cs` is an exponent or empty. -/
def readExponent : List Char → Option Int
  | [] => some 0
  | e :: cs =>
    if e = 'e' || e = 'E' then
      let (negative, ds) := match cs with
        | '+' :: ds => (false, ds)
        | '-' :: ds => (true, ds)
        | ds => (false, ds)
      if ds.isEmpty || !ds.all Char.isDigit then none
      else some (if negative then -(digitsValue ds : Int) else digitsValue ds)
    else none

/-- The value of an unsigned number: digits with an optional point, at least one digit in all,
and an optional exponent. -/
def readNumber (cs : List Char) : Option Float :=
  let whole := cs.takeWhile Char.isDigit
  let (fraction, rest) := match cs.dropWhile Char.isDigit with
    | '.' :: rest => (rest.takeWhile Char.isDigit, rest.dropWhile Char.isDigit)
    | rest => ([], rest)
  if whole.isEmpty && fraction.isEmpty then none
  else
    (readExponent rest).map fun exponent =>
      nearest (digitsValue (whole ++ fraction)) (exponent - fraction.length)

/-- The value of an unsigned literal. -/
def readUnsignedLiteral (cs : List Char) : Option Float :=
  let name := String.ofList (cs.map Char.toLower)
  if name = "inf" || name = "infinity" then some (1.0 / 0.0)
  else if name = "nan" then some (0.0 / 0.0)
  else readNumber cs

/-- The value of a literal; `none` if the text is not one. -/
def readLiteral (s : String) : Option Float :=
  match s.toList with
  | '+' :: cs => readUnsignedLiteral cs
  | '-' :: cs => (readUnsignedLiteral cs).map Float.neg
  | cs => readUnsignedLiteral cs

end KafkaCanary.Decimal
