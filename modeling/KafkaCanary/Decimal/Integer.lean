/-!
# Decimal Integers

Writing an integer in decimal digits, and reading one that has to fit a fixed range. A reader
judges characters from the left: the first one that is no digit, or that takes the number out of
the range, decides the fault.
-/

namespace KafkaCanary.Decimal

/-- The digits of an integer, after a minus sign if it is negative. -/
def integerChars : Int → List Char
  | .ofNat n => Nat.toDigits 10 n
  | .negSucc n => '-' :: Nat.toDigits 10 (n + 1)

/-- The text of an integer. -/
def integerText (z : Int) : String :=
  String.ofList (integerChars z)

/-- Why a text is not an integer of the range asked for. -/
inductive IntegerFault where
  /-- The text has no characters. -/
  | empty
  /-- A character is no digit, or the text is a lone sign. -/
  | invalidDigit
  /-- The number lies above the range. -/
  | tooLarge
  /-- The number lies below the range. -/
  | tooSmall
deriving DecidableEq, Repr

/-- The description of a fault. -/
def IntegerFault.message : IntegerFault → String
  | .empty => "cannot parse integer from empty string"
  | .invalidDigit => "invalid digit found in string"
  | .tooLarge => "number too large to fit in target type"
  | .tooSmall => "number too small to fit in target type"

/-- The value of a decimal digit. -/
def digitValue (c : Char) : Nat :=
  c.toNat - '0'.toNat

/-- Append digits to `value`, which must stay at most `limit`; `excess` names the fault of a
number that does not. -/
def readDigits (limit : Nat) (excess : IntegerFault) (value : Nat) :
    List Char → Except IntegerFault Nat
  | [] => .ok value
  | c :: cs =>
    if c.isDigit then
      if value * 10 + digitValue c ≤ limit then
        readDigits limit excess (value * 10 + digitValue c) cs
      else .error excess
    else .error .invalidDigit

/-- Read a number from 0 to `limit`, with an optional plus sign. -/
def readUnsigned (limit : Nat) : List Char → Except IntegerFault Nat
  | [] => .error .empty
  | ['+'] => .error .invalidDigit
  | '+' :: cs => readDigits limit .tooLarge 0 cs
  | cs => readDigits limit .tooLarge 0 cs

/-- Read a number from `-bound` to `bound - 1`, with an optional sign. -/
def readSigned (bound : Nat) : List Char → Except IntegerFault Int
  | [] => .error .empty
  | ['+'] => .error .invalidDigit
  | ['-'] => .error .invalidDigit
  | '+' :: cs => (readDigits (bound - 1) .tooLarge 0 cs).map Int.ofNat
  | '-' :: cs => (readDigits bound .tooSmall 0 cs).map fun n => -(n : Int)
  | cs => (readDigits (bound - 1) .tooLarge 0 cs).map Int.ofNat

/-- Read an unsigned integer of 64 bits. -/
def readUInt64 (s : String) : Except IntegerFault UInt64 :=
  (readUnsigned (UInt64.size - 1) s.toList).map UInt64.ofNat

/-- Read a signed integer of 64 bits. -/
def readInt64 (s : String) : Except IntegerFault Int :=
  readSigned (Int64.size / 2) s.toList

/-- Read an unsigned integer of 16 bits. -/
def readUInt16 (s : String) : Except IntegerFault UInt16 :=
  (readUnsigned (UInt16.size - 1) s.toList).map UInt16.ofNat

end KafkaCanary.Decimal
