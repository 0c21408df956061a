/-!
# Integers on the Wire

Integers of fixed width travel as two's complement with the most significant byte first. Integers
of variable width travel in groups of seven bits with the least significant group first; a signed
one is folded into an unsigned one before.
-/

namespace KafkaCanary.Wire

/-- The last `width` digits of a number to base 256, the most significant first. -/
def bigEndian : (width : Nat) → Nat → List UInt8
  | 0, _ => []
  | width + 1, n => UInt8.ofNat (n / Nat.pow 256 width) :: bigEndian width n

/-- The number with the given digits to base 256. -/
def ofBigEndian (bytes : List UInt8) : Nat :=
  bytes.foldl (fun n b => n * 256 + b.toNat) 0

/-- The bytes of an integer of 8 bits. -/
def int8Bytes (x : Int8) : List UInt8 :=
  bigEndian 1 x.toBitVec.toNat

/-- The bytes of an integer of 16 bits. -/
def int16Bytes (x : Int16) : List UInt8 :=
  bigEndian 2 x.toBitVec.toNat

/-- The bytes of an integer of 32 bits. -/
def int32Bytes (x : Int32) : List UInt8 :=
  bigEndian 4 x.toBitVec.toNat

/-- The bytes of an integer of 64 bits. -/
def int64Bytes (x : Int64) : List UInt8 :=
  bigEndian 8 x.toBitVec.toNat

/-- The byte of a truth value. -/
def boolBytes (b : Bool) : List UInt8 :=
  [if b then 1 else 0]

/-- A number in groups of seven bits. Every group but the last has its high bit set. -/
def varintBytes (n : Nat) : List UInt8 :=
  if n < 128 then [UInt8.ofNat n]
  else UInt8.ofNat (n % 128 + 128) :: varintBytes (n / 128)
termination_by n
decreasing_by omega

/-- Fold an integer into a number, so that integers near zero give small numbers. -/
def zigzag (z : Int) : Nat :=
  if 0 ≤ z then 2 * z.toNat else 2 * (-z).toNat - 1

/-- The integer that was folded into a number. -/
def unzigzag (n : Nat) : Int :=
  if n % 2 = 0 then n / 2 else -((n + 1) / 2 : Nat)

/-- A signed integer of variable width. -/
def signedVarintBytes (z : Int) : List UInt8 :=
  varintBytes (zigzag z)

end KafkaCanary.Wire
