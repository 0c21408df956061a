import KafkaCanary.Message.Basic
import KafkaCanary.Text.Utf8

/-!
# Writing Messages

A message travels as a JSON object of three members in a fixed order, without blanks.
-/

namespace KafkaCanary

namespace Json

/-- The lower-case hexadecimal digit of a number below 16. -/
def hexDigit (n : Nat) : Char :=
  Nat.digitChar n

/-- A character inside a JSON string. Control characters are escaped, by a letter if they have
one, and so are the quotation mark and the backslash; every other character stands for itself. -/
def escapedChar (c : Char) : List Char :=
  if c = '"' then ['\\', '"']
  else if c = '\\' then ['\\', '\\']
  else if c = '\x08' then ['\\', 'b']
  else if c = '\t' then ['\\', 't']
  else if c = '\n' then ['\\', 'n']
  else if c = '\x0c' then ['\\', 'f']
  else if c = '\r' then ['\\', 'r']
  else if c.toNat < 0x20 then
    ['\\', 'u', '0', '0', hexDigit (c.toNat / 16), hexDigit (c.toNat % 16)]
  else [c]

/-- A JSON string. -/
def stringChars (s : String) : List Char :=
  '"' :: s.toList.flatMap escapedChar ++ ['"']

end Json

namespace Message

/-- The JSON object of a message. -/
def jsonChars (m : Message) : List Char :=
  "\x7b\"producerId\":".toList ++ Json.stringChars m.producerId ++
    ",\"messageId\":".toList ++ Nat.toDigits 10 m.messageId.toNat ++
    ",\"timestamp\":".toList ++ Decimal.integerChars m.timestamp.toInt ++ ['\x7d']

/-- The JSON object of a message. -/
def json (m : Message) : String :=
  String.ofList m.jsonChars

/-- The bytes that carry a message. -/
def payload (m : Message) : List UInt8 :=
  Utf8.encodeChars m.jsonChars

end Message

end KafkaCanary
