import KafkaCanary.Json.Numeral

/-!
# The grammar of JSON documents

The JSON grammar as predicates on bytes, without a reader in sight. A construct is described by the
bytes that make it up, and larger ones are concatenations of smaller ones.

There are two kinds of strings. A string whose text somebody wants is a sequence of characters, each
spelled in one of several ways (`Spelling`); such a string is UTF-8 and its escaped surrogates come
in pairs. A string that nobody reads has only its escapes checked (`LooseBody`).

## Main definitions

* `Blanks`, `Number`, `Quoted`: blanks, numbers, and strings with the text they stand for;
* `IntegerLiteral`: integers without a fraction or an exponent, with the number they stand for;
* `Derives`: the values that nobody reads, with any nesting.
-/

namespace KafkaCanary.Json

/-- Any number of blanks. -/
def Blanks (w : List UInt8) : Prop :=
  ∀ b ∈ w, isBlank b

/-! ## Numbers -/

/-- Decimal digits, one at least. -/
def Digits (ds : List UInt8) : Prop :=
  ds ≠ [] ∧ ∀ d ∈ ds, isDigit d

/-- Digits before a point: a lone zero, or digits that do not begin with one. -/
inductive Whole : List UInt8 → Prop
  /-- A lone zero. -/
  | zero : Whole [0x30]
  /-- Digits that do not begin with a zero. -/
  | digits {d : UInt8} {ds : List UInt8} :
      isDigit d → d ≠ 0x30 → (∀ d ∈ ds, isDigit d) → Whole (d :: ds)

/-- A point and the digits after it, or nothing. -/
inductive Fraction : List UInt8 → Prop
  /-- Nothing. -/
  | absent : Fraction []
  /-- A point and digits. -/
  | present {ds : List UInt8} : Digits ds → Fraction (0x2E :: ds)

/-- The letter `e` in either case, an optional sign and digits, or nothing. -/
inductive Exponent : List UInt8 → Prop
  /-- Nothing. -/
  | absent : Exponent []
  /-- No sign. -/
  | unsigned {e : UInt8} {ds : List UInt8} : e = 0x65 ∨ e = 0x45 → Digits ds → Exponent (e :: ds)
  /-- A plus or minus sign. -/
  | signed {e s : UInt8} {ds : List UInt8} :
      e = 0x65 ∨ e = 0x45 → s = 0x2B ∨ s = 0x2D → Digits ds → Exponent (e :: s :: ds)

/-- A number of any magnitude. -/
inductive Number : List UInt8 → Prop
  /-- No sign. -/
  | plain {w f e : List UInt8} : Whole w → Fraction f → Exponent e → Number (w ++ f ++ e)
  /-- A minus sign. -/
  | negative {w f e : List UInt8} :
      Whole w → Fraction f → Exponent e → Number (0x2D :: (w ++ f ++ e))

/-- The number that decimal digits stand for. -/
def decimalValue (ds : List UInt8) : Nat :=
  ds.foldl (fun n d => n * 10 + digitValue d) 0

/-- An integer in decimal digits, without a fraction or an exponent. Zero has no sign. -/
inductive IntegerLiteral : Int → List UInt8 → Prop
  /-- An integer that is not negative. -/
  | plain {ds : List UInt8} : Whole ds → IntegerLiteral (decimalValue ds) ds
  /-- A negative integer. -/
  | negative {ds : List UInt8} :
      Whole ds → decimalValue ds ≠ 0 → IntegerLiteral (-decimalValue ds) (0x2D :: ds)

/-! ## Strings -/

/-- The letters of the short escapes with the characters they stand for. -/
def shortForms : List (UInt8 × Char) :=
  [(0x22, '"'), (0x5C, '\\'), (0x2F, '/'), (0x62, '\x08'), (0x66, '\x0c'), (0x6E, '\n'),
    (0x72, '\r'), (0x74, '\t')]

/-- A hexadecimal digit in either case and its value. -/
def HexDigit (n : Nat) (b : UInt8) : Prop :=
  (n < 10 ∧ b.toNat = 0x30 + n) ∨
    (10 ≤ n ∧ n < 16 ∧ (b.toNat = 0x41 + (n - 10) ∨ b.toNat = 0x61 + (n - 10)))

/-- Four hexadecimal digits and their value. -/
inductive Quad : Nat → List UInt8 → Prop
  /-- The digits of a number, the most significant one first. -/
  | digits {i j k l : Nat} {a b c d : UInt8} :
      HexDigit i a → HexDigit j b → HexDigit k c → HexDigit l d →
        Quad (((i * 16 + j) * 16 + k) * 16 + l) [a, b, c, d]

/-- The bytes that stand for a character inside a string. -/
inductive Spelling : Char → List UInt8 → Prop
  /-- The character itself. -/
  | plain {c : Char} :
      0x20 ≤ c.toNat → c ≠ '"' → c ≠ '\\' → Spelling c (String.utf8EncodeChar c)
  /-- A short escape. -/
  | short {e : UInt8} {c : Char} : (e, c) ∈ shortForms → Spelling c [backslash, e]
  /-- The code point of the character, which is never a surrogate. -/
  | unit {c : Char} {q : List UInt8} : Quad c.toNat q → Spelling c (backslash :: letterU :: q)
  /-- The two surrogates of the character. -/
  | pair {c : Char} {high low : Nat} {q r : List UInt8} :
      Quad high q → Quad low r → 0xD800 ≤ high → high < 0xDC00 → 0xDC00 ≤ low → low < 0xE000 →
        c.toNat = 0x10000 + (high - 0xD800) * 0x400 + (low - 0xDC00) →
          Spelling c (backslash :: letterU :: q ++ backslash :: letterU :: r)

/-- Characters, one after the other. -/
inductive Spellings : List Char → List UInt8 → Prop
  /-- No character. -/
  | nil : Spellings [] []
  /-- A character, then more. -/
  | cons {c : Char} {cs : List Char} {sp body : List UInt8} :
      Spelling c sp → Spellings cs body → Spellings (c :: cs) (sp ++ body)

/-- A string that stands for a text. -/
def Quoted (s : String) (bytes : List UInt8) : Prop :=
  ∃ body, Spellings s.toList body ∧ bytes = quote :: (body ++ [quote])

/-- The contents of a string that nobody reads: any bytes past the control characters, and escapes,
whose code units need not pair up. -/
inductive LooseBody : List UInt8 → Prop
  /-- Nothing. -/
  | nil : LooseBody []
  /-- A byte that stands for itself. -/
  | plain {b : UInt8} {body : List UInt8} :
      0x20 ≤ b → b ≠ quote → b ≠ backslash → LooseBody body → LooseBody (b :: body)
  /-- A short escape. -/
  | short {e : UInt8} {c : Char} {body : List UInt8} :
      (e, c) ∈ shortForms → LooseBody body → LooseBody (backslash :: e :: body)
  /-- A code unit. -/
  | unit {n : Nat} {q body : List UInt8} :
      Quad n q → LooseBody body → LooseBody (backslash :: letterU :: (q ++ body))

/-- A string that nobody reads. -/
def Loose (bytes : List UInt8) : Prop :=
  ∃ body, LooseBody body ∧ bytes = quote :: (body ++ [quote])

/-! ## Values -/

/-- What a sequence of bytes can be derived as. -/
inductive Category where
  /-- A value without blanks around it. -/
  | value
  /-- The values of a list that is not empty, with commas between them. -/
  | elements
  /-- The members of an object that is not empty, with commas between them. -/
  | members

/-- The values that nobody reads. Blanks may stand around every part, and nesting has no limit. -/
inductive Derives : Category → List UInt8 → Prop
  /-- The word `null`. -/
  | nullWord : Derives .value [0x6E, 0x75, 0x6C, 0x6C]
  /-- The word `true`. -/
  | trueWord : Derives .value [0x74, 0x72, 0x75, 0x65]
  /-- The word `false`. -/
  | falseWord : Derives .value [0x66, 0x61, 0x6C, 0x73, 0x65]
  /-- A number. -/
  | number {n : List UInt8} : Number n → Derives .value n
  /-- A string. -/
  | string {s : List UInt8} : Loose s → Derives .value s
  /-- An empty list. -/
  | emptyList {w : List UInt8} : Blanks w → Derives .value (0x5B :: (w ++ [0x5D]))
  /-- A list. -/
  | list {es : List UInt8} : Derives .elements es → Derives .value (0x5B :: (es ++ [0x5D]))
  /-- An empty object. -/
  | emptyMap {w : List UInt8} : Blanks w → Derives .value (0x7B :: (w ++ [0x7D]))
  /-- An object. -/
  | map {ms : List UInt8} : Derives .members ms → Derives .value (0x7B :: (ms ++ [0x7D]))
  /-- The last element of a list. -/
  | lastElement {w v w' : List UInt8} :
      Blanks w → Derives .value v → Blanks w' → Derives .elements (w ++ v ++ w')
  /-- An element with others after it. -/
  | element {w v w' es : List UInt8} : Blanks w → Derives .value v → Blanks w' →
      Derives .elements es → Derives .elements (w ++ v ++ w' ++ 0x2C :: es)
  /-- The last member of an object. -/
  | lastMember {w k w1 w2 v w' : List UInt8} : Blanks w → Loose k → Blanks w1 → Blanks w2 →
      Derives .value v → Blanks w' → Derives .members (w ++ k ++ w1 ++ 0x3A :: (w2 ++ v ++ w'))
  /-- A member with others after it. -/
  | member {w k w1 w2 v w' ms : List UInt8} : Blanks w → Loose k → Blanks w1 → Blanks w2 →
      Derives .value v → Blanks w' → Derives .members ms →
        Derives .members (w ++ k ++ w1 ++ 0x3A :: (w2 ++ v ++ w' ++ 0x2C :: ms))

/-- Where a value can end: at the end of the bytes, at a blank, or at a byte that separates or
closes. -/
def Delimited (rest : List UInt8) : Prop :=
  ∀ b ∈ rest.head?, isBlank b ∨ b = 0x2C ∨ b = 0x5D ∨ b = 0x7D

end KafkaCanary.Json
