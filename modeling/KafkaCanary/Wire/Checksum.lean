/-!
# CRC-32C

The Castagnoli checksum of a sequence of bytes, computed bit by bit: the remainder of the message
modulo a polynomial over the field of two elements, with the bits of each byte taken from the
least significant one.
-/

namespace KafkaCanary.Wire

/-- The polynomial with its coefficients from the least significant bit down. -/
def castagnoli : UInt32 :=
  0x82F63B78

/-- Divide by one bit. -/
def checksumBit (crc : UInt32) : UInt32 :=
  if crc &&& 1 = 1 then (crc >>> 1) ^^^ castagnoli else crc >>> 1

/-- Divide by `n` bits. -/
def checksumBits : (n : Nat) → UInt32 → UInt32
  | 0, crc => crc
  | n + 1, crc => checksumBits n (checksumBit crc)

/-- Take a byte into the checksum. -/
def checksumByte (crc : UInt32) (b : UInt8) : UInt32 :=
  checksumBits 8 (crc ^^^ b.toUInt32)

/-- The CRC-32C of bytes. -/
def crc32c (bytes : List UInt8) : UInt32 :=
  bytes.foldl checksumByte 0xFFFFFFFF ^^^ 0xFFFFFFFF

end KafkaCanary.Wire
