/-!
# UTF-8

Reading bytes as UTF-8. A sequence that is not UTF-8 is reported with the place where its
first bad character begins and the number of bytes that already rule the character out.
-/

namespace KafkaCanary.Utf8

/-- Why a sequence of bytes is not UTF-8. -/
structure Fault where
  /-- The number of bytes before the first bad character. -/
  index : Nat
  /-- How many bytes no character can begin with; `none` if the bytes end inside a character. -/
  length : Option Nat
deriving DecidableEq, Repr

/-- The description of a fault. -/
def Fault.message (fault : Fault) : String :=
  match fault.length with
  | some n => s!"invalid utf-8 sequence of {n} bytes from index {fault.index}"
  | none => s!"incomplete utf-8 byte sequence from index {fault.index}"

/-- Whether a byte can follow the first byte of a character. -/
def isTail (b : UInt8) : Bool :=
  0x80 ≤ b && b ≤ 0xBF

/-- Whether a byte begins a character of two bytes. -/
def leadsTwo (a : UInt8) : Bool :=
  0xC2 ≤ a && a ≤ 0xDF

/-- Whether a byte begins a character of three bytes. -/
def leadsThree (a : UInt8) : Bool :=
  0xE0 ≤ a && a ≤ 0xEF

/-- Whether a byte begins a character of four bytes. -/
def leadsFour (a : UInt8) : Bool :=
  0xF0 ≤ a && a ≤ 0xF4

/-- Whether a byte can be the second one after the first byte of a character of three or four
bytes. The narrower ranges leave out overlong forms, surrogates and what lies past the last
code point. -/
def isSecond (a b : UInt8) : Bool :=
  if a == 0xE0 then 0xA0 ≤ b && b ≤ 0xBF
  else if a == 0xED then 0x80 ≤ b && b ≤ 0x9F
  else if a == 0xF0 then 0x90 ≤ b && b ≤ 0xBF
  else if a == 0xF4 then 0x80 ≤ b && b ≤ 0x8F
  else isTail b

/-- The character of two bytes. -/
def ofTwo (a b : UInt8) : Char :=
  Char.ofNat ((a.toNat - 0xC0) * 64 + (b.toNat - 0x80))

/-- The character of three bytes. -/
def ofThree (a b c : UInt8) : Char :=
  Char.ofNat (((a.toNat - 0xE0) * 64 + (b.toNat - 0x80)) * 64 + (c.toNat - 0x80))

/-- The character of four bytes. -/
def ofFour (a b c d : UInt8) : Char :=
  Char.ofNat
    ((((a.toNat - 0xF0) * 64 + (b.toNat - 0x80)) * 64 + (c.toNat - 0x80)) * 64 +
      (d.toNat - 0x80))

/-- The characters that bytes stand for, the first of them at `index`. -/
def decodeFrom (index : Nat) : List UInt8 → Except Fault (List Char)
  | [] => .ok []
  | a :: rest =>
    if a < 0x80 then
      (decodeFrom (index + 1) rest).map (Char.ofNat a.toNat :: ·)
    else if leadsTwo a then
      match rest with
      | [] => .error ⟨index, none⟩
      | b :: rest =>
        if isTail b then (decodeFrom (index + 2) rest).map (ofTwo a b :: ·)
        else .error ⟨index, some 1⟩
    else if leadsThree a then
      match rest with
      | [] => .error ⟨index, none⟩
      | b :: rest =>
        if !isSecond a b then .error ⟨index, some 1⟩
        else match rest with
          | [] => .error ⟨index, none⟩
          | c :: rest =>
            if isTail c then (decodeFrom (index + 3) rest).map (ofThree a b c :: ·)
            else .error ⟨index, some 2⟩
    else if leadsFour a then
      match rest with
      | [] => .error ⟨index, none⟩
      | b :: rest =>
        if !isSecond a b then .error ⟨index, some 1⟩
        else match rest with
          | [] => .error ⟨index, none⟩
          | c :: rest =>
            if !isTail c then .error ⟨index, some 2⟩
            else match rest with
              | [] => .error ⟨index, none⟩
              | d :: rest =>
                if isTail d then (decodeFrom (index + 4) rest).map (ofFour a b c d :: ·)
                else .error ⟨index, some 3⟩
    else .error ⟨index, some 1⟩

/-- The text that bytes stand for. -/
def decode (bytes : List UInt8) : Except Fault String :=
  (decodeFrom 0 bytes).map String.ofList

/-- The bytes of a text. -/
def encodeChars (cs : List Char) : List UInt8 :=
  cs.flatMap String.utf8EncodeChar

/-- The bytes of a text. -/
def encode (s : String) : List UInt8 :=
  encodeChars s.toList

end KafkaCanary.Utf8
