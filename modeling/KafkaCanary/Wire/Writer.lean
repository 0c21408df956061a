import KafkaCanary.Text.Utf8
import KafkaCanary.Wire.Integer

/-!
# Writing Fields

Texts, bytes, lists and optional fields on the wire. Every message comes in two styles: the plain
one has lengths of fixed width, and the compact one has lengths of variable width, increased by one
so that zero can stand for an absent field. What is longer than its length field can say is refused.
-/

namespace KafkaCanary.Wire

/-- What stands behind a length. -/
inductive Content where
  /-- A text. -/
  | text
  /-- Bytes. -/
  | bytes
  /-- A list. -/
  | list
deriving DecidableEq, Repr

namespace Content

/-- The name of a field. -/
def name (compact : Bool) : Content → String
  | text => if compact then "CompactString" else "String"
  | bytes => if compact then "CompactBytes" else "Data"
  | list => if compact then "CompactArray" else "Array"

/-- What the length of a field counts. -/
def unit : Content → String
  | text | bytes => "bytes"
  | list => "items"

/-- The width of a length of the plain style. -/
def width : Content → Nat
  | text => 2
  | bytes | list => 4

/-- The greatest length of a field. In the plain style lengths are signed integers; in the compact
one they are not, and are increased by one. -/
def limit : (compact : Bool) → Content → Nat
  | true, _ => 4294967294
  | false, text => 32767
  | false, bytes | false, list => 2147483647

end Content

/-- Why a message cannot be written. -/
inductive EncodeFault where
  /-- The message does not exist in the version asked for. -/
  | unsupportedVersion
  /-- A field is not at its default, and the version asked for does not have it. -/
  | fieldUnavailable
  /-- A field is longer than its length field can say. -/
  | tooLong (compact : Bool) (content : Content) (length : Nat)
deriving DecidableEq, Repr

/-- The description of a fault. -/
def EncodeFault.message : EncodeFault → String
  | .unsupportedVersion => "specified version not supported by this message type"
  | .fieldUnavailable => "A field is set that is not available on the selected protocol version"
  | .tooLong compact content length =>
    content.name compact ++ " is too long to encode (" ++ toString length ++ " " ++ content.unit ++
      ")"

/-- The bytes of a length. -/
def lengthBytes (compact : Bool) (content : Content) (n : Nat) : List UInt8 :=
  if compact then varintBytes (n + 1) else bigEndian content.width n

/-- A length, if it is not too great. -/
def lengthField (compact : Bool) (content : Content) (n : Nat) : Except EncodeFault (List UInt8) :=
  if n ≤ content.limit compact then .ok (lengthBytes compact content n)
  else .error (.tooLong compact content n)

/-- A text. -/
def textField (compact : Bool) (s : String) : Except EncodeFault (List UInt8) := do
  let bytes := Utf8.encode s
  let length ← lengthField compact .text bytes.length
  return length ++ bytes

/-- A text that may be absent. -/
def optionalTextField (compact : Bool) : Option String → Except EncodeFault (List UInt8)
  | none => .ok (if compact then varintBytes 0 else int16Bytes (-1))
  | some s => textField compact s

/-- Bytes behind their length. -/
def bytesField (compact : Bool) (bytes : List UInt8) : Except EncodeFault (List UInt8) := do
  let length ← lengthField compact .bytes bytes.length
  return length ++ bytes

/-- A list. -/
def listField {α : Type} (compact : Bool) (item : α → Except EncodeFault (List UInt8))
    (items : List α) : Except EncodeFault (List UInt8) := do
  let length ← lengthField compact .list items.length
  let written ← items.mapM item
  return length ++ written.flatten

/-- A list that may be absent. -/
def optionalListField {α : Type} (compact : Bool) (item : α → Except EncodeFault (List UInt8)) :
    Option (List α) → Except EncodeFault (List UInt8)
  | none => .ok (if compact then varintBytes 0 else int32Bytes (-1))
  | some items => listField compact item items

/-- A field of some versions. In the others it has to be at its default. -/
def fieldIf {α : Type} [DecidableEq α] (present : Bool) (default : α)
    (field : α → Except EncodeFault (List UInt8)) (a : α) : Except EncodeFault (List UInt8) :=
  if present then field a
  else if a = default then .ok []
  else .error .fieldUnavailable

/-- The tagged fields at the end of a structure of the compact style: there are none. -/
def tagsField (compact : Bool) : List UInt8 :=
  if compact then varintBytes 0 else []

end KafkaCanary.Wire
