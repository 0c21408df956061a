import KafkaCanary.Text.Utf8
import KafkaCanary.Wire.Integer

/-!
# Reading Fields

Readers of the fields on the wire, in the same two styles as they are written in. A reader takes
the bytes from where its field begins and leaves the bytes after it.
-/

namespace KafkaCanary.Wire

/-- Which kind of field a length belongs to. -/
inductive Lengthy where
  /-- A text. -/
  | text
  /-- A list. -/
  | list
deriving DecidableEq, Repr

/-- Why bytes are not the message they should be. -/
inductive DecodeFault where
  /-- A field of fixed width is cut short. -/
  | valueCut (requested available : Nat)
  /-- The contents of a text or a tagged field are cut short. -/
  | contentCut
  /-- A length is negative, or a field is absent that must not be. -/
  | negativeLength (kind : Lengthy) (length : Int)
  /-- A text is not UTF-8. -/
  | badText (fault : Utf8.Fault)
  /-- A tagged field does not exist in the version of the message. -/
  | unknownTag (tag : Nat) (version : Int16)
deriving DecidableEq, Repr

/-- The description of a fault. -/
def DecodeFault.message : DecodeFault → String
  | .valueCut requested available =>
    "Not enough bytes remaining in buffer to read value (requested " ++ toString requested ++
      " but only " ++ toString available ++ " available)"
  | .contentCut => "Not enough bytes remaining in buffer!\n"
  | .negativeLength .text length => s!"String length is negative ({length})"
  | .negativeLength .list length => s!"Array length is negative ({length})"
  | .badText fault => fault.message
  | .unknownTag tag version => s!"Tag {tag} is not valid for version {version.toInt}"

/-- A reader of a field. -/
abbrev Reader := StateT (List UInt8) (Except DecodeFault)

/-- The number of `width` bytes. -/
def readNat (width : Nat) : Reader Nat := fun bytes =>
  if width ≤ bytes.length then .ok (ofBigEndian (bytes.take width), bytes.drop width)
  else .error (.valueCut width bytes.length)

/-- An integer of 16 bits. -/
def readInt16 : Reader Int16 :=
  Int16.ofNat <$> readNat 2

/-- An integer of 32 bits. -/
def readInt32 : Reader Int32 :=
  Int32.ofNat <$> readNat 4

/-- An integer of 64 bits. -/
def readInt64 : Reader Int64 :=
  Int64.ofNat <$> readNat 8

/-- A truth value. -/
def readBool : Reader Bool :=
  (· != 0) <$> readNat 1

/-- The groups of a number of variable width, of which at most `groups` are read. -/
def readGroups : (groups : Nat) → Reader Nat
  | 0 => pure 0
  | groups + 1 => do
    let b ← readNat 1
    if b < 128 then return b
    let high ← readGroups groups
    return b - 128 + 128 * high

/-- A number of variable width that fits 32 bits. -/
def readVarint : Reader Nat :=
  (· % UInt32.size) <$> readGroups 5

/-- The next `n` bytes. -/
def readContent (n : Nat) : Reader (List UInt8) := fun bytes =>
  if n ≤ bytes.length then .ok (bytes.take n, bytes.drop n) else .error .contentCut

/-- A text of `n` bytes. -/
def readUtf8 (n : Nat) : Reader String := do
  let bytes ← readContent n
  match Utf8.decode bytes with
  | .ok s => return s
  | .error fault => throw (.badText fault)

/-- A length field; `none` stands for an absent field. -/
def readLength (compact : Bool) (kind : Lengthy) : Reader (Option Nat) := do
  if compact then
    match ← readVarint with
    | 0 => return none
    | n + 1 => return some n
  else
    let length : Int ← match kind with
      | .text => (·.toInt) <$> readInt16
      | .list => (·.toInt) <$> readInt32
    if length = -1 then return none
    else if length < 0 then throw (.negativeLength kind length)
    else return some length.toNat

/-- A length field of a field that must not be absent. -/
def readPresentLength (compact : Bool) (kind : Lengthy) : Reader Nat := do
  match ← readLength compact kind with
  | some n => return n
  | none => throw (.negativeLength kind (-1))

/-- A text. -/
def readTextField (compact : Bool) : Reader String := do
  readUtf8 (← readPresentLength compact .text)

/-- A text that may be absent. -/
def readOptionalTextField (compact : Bool) : Reader (Option String) := do
  match ← readLength compact .text with
  | none => return none
  | some n => return some (← readUtf8 n)

/-- The next `n` items. -/
def readItems {α : Type} (item : Reader α) : (n : Nat) → Reader (List α)
  | 0 => return []
  | n + 1 => do
    let first ← item
    let rest ← readItems item n
    return first :: rest

/-- A list. -/
def readListField {α : Type} (compact : Bool) (item : Reader α) : Reader (List α) := do
  readItems item (← readPresentLength compact .list)

/-- Read a field only in versions that have it. -/
def readIf {α : Type} (present : Bool) (absent : α) (reader : Reader α) : Reader α :=
  if present then reader else return absent

/-- The next `n` tagged fields. `known` says how to read a tag; the others are skipped. -/
def readTags (known : Nat → Option (Reader Unit)) : (n : Nat) → Reader Unit
  | 0 => return ()
  | n + 1 => do
    let tag ← readVarint
    let size ← readVarint
    match known tag with
    | some reader => reader
    | none => discard (readContent size)
    readTags known n

/-- The tagged fields at the end of a structure of the compact style. -/
def readTagsField (compact : Bool) (known : Nat → Option (Reader Unit)) : Reader Unit := do
  if compact then
    readTags known (← readVarint)

/-- No tag is known. -/
def noTags : Nat → Option (Reader Unit) :=
  fun _ => none

end KafkaCanary.Wire
