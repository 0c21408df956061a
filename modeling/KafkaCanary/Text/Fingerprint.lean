/-!
# Fingerprints

A number of 64 bits that stands for a sequence of bytes. The bytes are taken one after the other:
each is combined with the number so far, which is then multiplied by a fixed prime. Few sequences
share a fingerprint, but some do.
-/

namespace KafkaCanary.Fingerprint

/-- The fingerprint of no bytes. -/
def basis : UInt64 :=
  0xCBF29CE484222325

/-- The prime that spreads a byte over the number. -/
def prime : UInt64 :=
  0x100000001B3

/-- Take a byte into a fingerprint. -/
def takeByte (print : UInt64) (b : UInt8) : UInt64 :=
  (print ^^^ b.toUInt64) * prime

/-- The fingerprint of bytes. -/
def ofBytes (bytes : List UInt8) : UInt64 :=
  bytes.foldl takeByte basis

end KafkaCanary.Fingerprint
