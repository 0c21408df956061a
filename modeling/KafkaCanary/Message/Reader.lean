import KafkaCanary.Decimal.Layout
import KafkaCanary.Json.Skip
import KafkaCanary.Message.Basic
import KafkaCanary.Text.Quoted
import KafkaCanary.Text.Utf8

/-!
# Reading Messages

A message is read from a JSON object with the members `producerId`, `messageId` and `timestamp`
in any order, or from a list of the three values. Members of other names are skipped. Bytes are
judged from the left, so the first departure from the expected form decides the fault.
-/

namespace KafkaCanary.Message

/-- A field of a message. -/
inductive Field where
  /-- The client id of the sender. -/
  | producerId
  /-- The number in the sequence. -/
  | messageId
  /-- The time of making. -/
  | timestamp
deriving DecidableEq, Repr

/-- The name of a field in a JSON object. -/
def Field.name : Field → String
  | .producerId => "producerId"
  | .messageId => "messageId"
  | .timestamp => "timestamp"

/-- The field of the given name. -/
def Field.named? (name : String) : Option Field :=
  if name = "producerId" then some .producerId
  else if name = "messageId" then some .messageId
  else if name = "timestamp" then some .timestamp
  else none

/-- What a reader is looking for. -/
inductive Wanted where
  /-- A whole message. -/
  | message
  /-- The value of a field. -/
  | field (field : Field)
deriving DecidableEq, Repr

/-- The description of what a reader is looking for. -/
def Wanted.description : Wanted → String
  | .message => "struct CanaryMessage"
  | .field .producerId => "a string"
  | .field .messageId => "u64"
  | .field .timestamp => "i64"

/-- A value that stands where another one is wanted. Of lists and objects only the kind is
known, because they are named as soon as they begin. -/
inductive Finding where
  /-- The word `null`. -/
  | null
  /-- A truth value. -/
  | boolean (value : Bool)
  /-- A number. -/
  | number (value : Json.Quantity)
  /-- A string. -/
  | text (value : String)
  /-- A list. -/
  | sequence
  /-- An object. -/
  | map

/-- The description of a value. -/
def Finding.description : Finding → String
  | .null => "null"
  | .boolean true => "boolean `true`"
  | .boolean false => "boolean `false`"
  | .number (.integer z) => "integer `" ++ Decimal.integerText z ++ "`"
  | .number (.floating x) => "floating point `" ++ Decimal.quoted.text x ++ "`"
  | .text s => "string " ++ Text.quoted s
  | .sequence => "sequence"
  | .map => "map"

/-- How a value that follows the grammar fails to be a message. -/
inductive Mismatch where
  /-- An object ends without one of the members. -/
  | missing (field : Field)
  /-- A member appears again. -/
  | duplicate (field : Field)
  /-- A value has another type than the one wanted. -/
  | wrongType (found : Finding) (wanted : Wanted)
  /-- An integer lies outside the range wanted. -/
  | outOfRange (value : Int) (wanted : Wanted)
  /-- A list ends after `length` values. -/
  | tooShort (length : Nat)

/-- The description of a mismatch. -/
def Mismatch.message : Mismatch → String
  | .missing field => "missing field `" ++ field.name ++ "`"
  | .duplicate field => "duplicate field `" ++ field.name ++ "`"
  | .wrongType found wanted =>
    "invalid type: " ++ found.description ++ ", expected " ++ wanted.description
  | .outOfRange value wanted =>
    "invalid value: integer `" ++ Decimal.integerText value ++ "`, expected " ++
      wanted.description
  | .tooShort length =>
    "invalid length " ++ toString length ++ ", expected struct CanaryMessage with 3 elements"

/-- Why bytes are not a message. -/
inductive ReadFault where
  /-- The bytes are no JSON document. -/
  | damaged (damage : Json.Damage)
  /-- The bytes hold something else than a message. -/
  | mismatch (mismatch : Mismatch)

/-- The result of a reader that knows the grammar only. -/
def liftDamage {α : Type} : Except Json.Damage α → Except ReadFault α
  | .ok a => .ok a
  | .error damage => .error (.damaged damage)

/-- The text of a string whose quotation mark has been read. -/
def readText (bytes : List UInt8) : Except ReadFault (String × List UInt8) :=
  match Json.readContents bytes with
  | .error damage => .error (.damaged damage)
  | .ok (contents, rest) =>
    match Utf8.decode contents with
    | .ok s => .ok (s, rest)
    | .error _ => .error (.damaged .malformed)

/-- The fault of a value that begins with `b` and has not the type wanted. The value is read as
far as its description needs it. -/
def unexpected (wanted : Wanted) (b : UInt8) (rest : List UInt8) : ReadFault :=
  let found : Except ReadFault Finding :=
    if b == 0x6E then (liftDamage (Json.readWord Json.nullTail rest)).map fun _ => .null
    else if b == 0x74 then
      (liftDamage (Json.readWord Json.trueTail rest)).map fun _ => .boolean true
    else if b == 0x66 then
      (liftDamage (Json.readWord Json.falseTail rest)).map fun _ => .boolean false
    else if b == 0x2D || Json.isDigit b then
      (liftDamage (Json.readQuantity (b :: rest))).map fun (q, _) => .number q
    else if b == Json.quote then (readText rest).map fun (s, _) => .text s
    else if b == 0x5B then .ok .sequence
    else if b == 0x7B then .ok .map
    else .error (.damaged .malformed)
  match found with
  | .ok finding => .mismatch (.wrongType finding wanted)
  | .error fault => fault

/-- The value of a text field. -/
def readTextField (field : Field) (bytes : List UInt8) : Except ReadFault (String × List UInt8) :=
  match Json.skipBlanks bytes with
  | [] => .error (.damaged .truncated)
  | b :: rest =>
    if b == Json.quote then readText rest else .error (unexpected (.field field) b rest)

/-- The value of an integer field that admits the integers from `least` to `greatest`. -/
def readIntegerField (field : Field) (least greatest : Int) (bytes : List UInt8) :
    Except ReadFault (Int × List UInt8) :=
  match Json.skipBlanks bytes with
  | [] => .error (.damaged .truncated)
  | b :: rest =>
    if b == 0x2D || Json.isDigit b then
      match Json.readQuantity (b :: rest) with
      | .error damage => .error (.damaged damage)
      | .ok (.integer z, rest) =>
        if least ≤ z ∧ z ≤ greatest then .ok (z, rest)
        else .error (.mismatch (.outOfRange z (.field field)))
      | .ok (.floating x, _) =>
        .error (.mismatch (.wrongType (.number (.floating x)) (.field field)))
    else .error (unexpected (.field field) b rest)

/-- The value of the field `producerId`. -/
def readProducerId : List UInt8 → Except ReadFault (String × List UInt8) :=
  readTextField .producerId

/-- The value of the field `messageId`. -/
def readMessageId (bytes : List UInt8) : Except ReadFault (UInt64 × List UInt8) :=
  Json.mapRead (fun z => UInt64.ofNat z.toNat)
    (readIntegerField .messageId 0 (UInt64.size - 1) bytes)

/-- The value of the field `timestamp`. -/
def readTimestamp (bytes : List UInt8) : Except ReadFault (Int64 × List UInt8) :=
  Json.mapRead Int64.ofInt
    (readIntegerField .timestamp Int64.minValue.toInt Int64.maxValue.toInt bytes)

/-- The fields found so far. -/
structure Draft where
  /-- The sender, if found. -/
  producerId : Option String
  /-- The number, if found. -/
  messageId : Option UInt64
  /-- The time, if found. -/
  timestamp : Option Int64
deriving DecidableEq, Repr

namespace Draft

/-- A draft without fields. -/
def empty : Draft :=
  ⟨none, none, none⟩

/-- Whether a field has been found. -/
def has (draft : Draft) : Field → Bool
  | .producerId => draft.producerId.isSome
  | .messageId => draft.messageId.isSome
  | .timestamp => draft.timestamp.isSome

/-- Read the value of a field into the draft. -/
def readField (draft : Draft) (field : Field) (bytes : List UInt8) :
    Except ReadFault (Draft × List UInt8) :=
  match field with
  | .producerId =>
    Json.mapRead (fun s => { draft with producerId := some s }) (readProducerId bytes)
  | .messageId =>
    Json.mapRead (fun n => { draft with messageId := some n }) (readMessageId bytes)
  | .timestamp =>
    Json.mapRead (fun t => { draft with timestamp := some t }) (readTimestamp bytes)

/-- The message of a draft, or its first missing field. -/
def finish (draft : Draft) : Except ReadFault Message :=
  match draft.producerId, draft.messageId, draft.timestamp with
  | none, _, _ => .error (.mismatch (.missing .producerId))
  | _, none, _ => .error (.mismatch (.missing .messageId))
  | _, _, none => .error (.mismatch (.missing .timestamp))
  | some producerId, some messageId, some timestamp => .ok ⟨producerId, messageId, timestamp⟩

end Draft

/-- The key that has to begin here. -/
def readKey (bytes : List UInt8) : Except ReadFault (String × List UInt8) :=
  match Json.skipBlanks bytes with
  | [] => .error (.damaged .truncated)
  | b :: rest => if b == Json.quote then readText rest else .error (.damaged .malformed)

/-- The next key of an object; `none` at its closing brace. Before every key but the first a
comma has to stand. -/
def nextKey (first : Bool) (bytes : List UInt8) : Except ReadFault (Option String × List UInt8) :=
  match Json.skipBlanks bytes with
  | [] => .error (.damaged .truncated)
  | b :: rest =>
    if b == 0x7D then .ok (none, rest)
    else if first then Json.mapRead some (readKey bytes)
    else if b == 0x2C then Json.mapRead some (readKey rest)
    else .error (.damaged .malformed)

/-- Read the colon and the value that follow a key. -/
def readMember (draft : Draft) (key : String) (bytes : List UInt8) :
    Except ReadFault (Draft × List UInt8) :=
  match Field.named? key with
  | some field =>
    -- A field that comes again is refused before its value is looked at.
    if draft.has field then .error (.mismatch (.duplicate field))
    else liftDamage (Json.readColon bytes) >>= draft.readField field
  | none =>
    (liftDamage (Json.readColon bytes >>= Json.skipValue)).map fun rest => (draft, rest)

theorem length_readText_le {bytes rest : List UInt8} {s : String}
    (h : readText bytes = .ok (s, rest)) : rest.length ≤ bytes.length := by
  simp only [readText] at h
  split at h
  · simp at h
  · next hc =>
    have := Json.length_readContents_le hc
    split at h
    · grind
    · simp at h

theorem length_readTextField_le {field : Field} {bytes rest : List UInt8} {s : String}
    (h : readTextField field bytes = .ok (s, rest)) : rest.length ≤ bytes.length := by
  have := Json.length_skipBlanks_le bytes
  simp only [readTextField] at h
  split at h
  · simp at h
  · split at h
    · have := length_readText_le h; grind
    · simp at h

theorem length_readQuantity_lt {bytes rest : List UInt8} {q : Json.Quantity}
    (h : Json.readQuantity bytes = .ok (q, rest)) : rest.length < bytes.length := by
  simp only [Json.readQuantity, bind, Except.bind] at h
  split at h
  · simp at h
  · next hn =>
    have := Json.length_readNumeral_lt hn
    split at h
    · simp only [pure, Except.pure] at h; grind
    · simp at h

theorem length_readIntegerField_le {field : Field} {least greatest : Int}
    {bytes rest : List UInt8} {z : Int}
    (h : readIntegerField field least greatest bytes = .ok (z, rest)) :
    rest.length ≤ bytes.length := by
  have := Json.length_skipBlanks_le bytes
  simp only [readIntegerField] at h
  split at h
  · simp at h
  · split at h
    · split at h
      · simp at h
      · next hq => have := length_readQuantity_lt hq; grind
      · simp at h
    · simp at h

theorem length_readField_le {draft draft' : Draft} {field : Field} {bytes rest : List UInt8}
    (h : draft.readField field bytes = .ok (draft', rest)) : rest.length ≤ bytes.length := by
  cases field <;> simp only [Draft.readField, Json.mapRead_eq_ok_iff] at h <;>
    obtain ⟨_, h, _⟩ := h
  · exact length_readTextField_le h
  · simp only [readMessageId, Json.mapRead_eq_ok_iff] at h
    obtain ⟨_, h, _⟩ := h
    exact length_readIntegerField_le h
  · simp only [readTimestamp, Json.mapRead_eq_ok_iff] at h
    obtain ⟨_, h, _⟩ := h
    exact length_readIntegerField_le h

theorem length_readMember_le {draft draft' : Draft} {key : String} {bytes rest : List UInt8}
    (h : readMember draft key bytes = .ok (draft', rest)) : rest.length ≤ bytes.length := by
  simp only [readMember] at h
  cases hc : Json.readColon bytes with
  | error e =>
    split at h <;> (try split at h) <;>
      simp [hc, liftDamage, bind, Except.bind, Except.map] at h
  | ok after =>
    have := Json.length_readColon_le hc
    split at h
    · split at h
      · simp at h
      · simp only [hc, liftDamage, bind, Except.bind] at h
        have := length_readField_le h
        omega
    · cases hs : Json.skipValue after with
      | error e => simp [hc, hs, liftDamage, bind, Except.bind, Except.map] at h
      | ok r =>
        have := Json.length_skipValue_le hs
        simp only [hc, hs, liftDamage, bind, Except.bind, Except.map, Except.ok.injEq,
          Prod.mk.injEq] at h
        grind

theorem length_readKey_lt {bytes rest : List UInt8} {key : String}
    (h : readKey bytes = .ok (key, rest)) : rest.length < bytes.length := by
  have := Json.length_skipBlanks_le bytes
  simp only [readKey] at h
  split at h
  · simp at h
  · split at h
    · have := length_readText_le h; grind
    · simp at h

theorem length_nextKey_lt {first : Bool} {bytes rest : List UInt8} {key : Option String}
    (h : nextKey first bytes = .ok (key, rest)) : rest.length < bytes.length := by
  have hb := Json.length_skipBlanks_le bytes
  simp only [nextKey] at h
  split at h
  · simp at h
  · split at h
    · grind
    split at h
    · obtain ⟨_, h, _⟩ := Json.mapRead_eq_ok_iff.1 h
      exact length_readKey_lt h
    split at h
    · obtain ⟨_, h, _⟩ := Json.mapRead_eq_ok_iff.1 h
      have := length_readKey_lt h
      grind
    · simp at h

/-- The rest of an object whose members so far are in the draft. -/
def readMembers (draft : Draft) (first : Bool) (bytes : List UInt8) :
    Except ReadFault (Message × List UInt8) :=
  match _hk : nextKey first bytes with
  | .error fault => .error fault
  | .ok (none, rest) => draft.finish.map fun m => (m, rest)
  | .ok (some key, rest) =>
    match _hm : readMember draft key rest with
    | .error fault => .error fault
    | .ok (draft, rest) => readMembers draft false rest
termination_by bytes.length
decreasing_by
  have := length_nextKey_lt _hk
  have := length_readMember_le _hm
  omega

/-- The bytes from where the next value of a list begins, after `length` values. Before every
value but the first a comma has to stand. -/
def nextElement (length : Nat) (bytes : List UInt8) : Except ReadFault (List UInt8) :=
  match Json.skipBlanks bytes with
  | [] => .error (.damaged .truncated)
  | b :: rest =>
    if b == 0x5D then .error (.mismatch (.tooShort length))
    else if length = 0 then .ok (b :: rest)
    else if b == 0x2C then
      match Json.skipBlanks rest with
      | [] => .error (.damaged .truncated)
      | c :: after =>
        -- A comma before the bracket is damage, not a list that is too short.
        if c == 0x5D then .error (.damaged .malformed) else .ok (c :: after)
    else .error (.damaged .malformed)

/-- The rest of a list. -/
def readElements (bytes : List UInt8) : Except ReadFault (Message × List UInt8) := do
  let (producerId, bytes) ← nextElement 0 bytes >>= readProducerId
  let (messageId, bytes) ← nextElement 1 bytes >>= readMessageId
  let (timestamp, bytes) ← nextElement 2 bytes >>= readTimestamp
  match Json.skipBlanks bytes with
  | [] => .error (.damaged .truncated)
  | b :: rest =>
    if b == 0x5D then return (⟨producerId, messageId, timestamp⟩, rest)
    else .error (.damaged .malformed)

/-- The message that bytes begin with. -/
def readMessage (bytes : List UInt8) : Except ReadFault (Message × List UInt8) :=
  match Json.skipBlanks bytes with
  | [] => .error (.damaged .truncated)
  | b :: rest =>
    if b == 0x5B then readElements rest
    else if b == 0x7B then readMembers .empty true rest
    else .error (unexpected .message b rest)

/-- The message that bytes hold, with nothing after it but blanks. -/
def ofPayload (bytes : List UInt8) : Except ReadFault Message :=
  match readMessage bytes with
  | .error fault => .error fault
  | .ok (m, rest) =>
    if Json.skipBlanks rest = [] then .ok m else .error (.damaged .malformed)

end KafkaCanary.Message
