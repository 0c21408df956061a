/-!
# JSON Lexemes

The smallest parts of a JSON document, read from bytes: blanks, words and strings. A reader
takes the bytes from where its part begins and returns the part and the bytes after it.

A document that ends where more had to follow is truncated; any other departure from the
grammar makes it malformed.
-/

namespace KafkaCanary.Json

/-- How bytes fail to be a JSON document. -/
inductive Damage where
  /-- The bytes end inside a value. -/
  | truncated
  /-- No JSON document begins with the bytes read. -/
  | malformed
deriving DecidableEq, Repr

/-- Blanks between lexemes: space, tab, line feed and carriage return. -/
def isBlank (b : UInt8) : Bool :=
  b == 0x20 || b == 0x09 || b == 0x0A || b == 0x0D

/-- The bytes after the blanks they begin with. -/
def skipBlanks (bytes : List UInt8) : List UInt8 :=
  bytes.dropWhile isBlank

theorem length_skipBlanks_le (bytes : List UInt8) : (skipBlanks bytes).length ≤ bytes.length :=
  (List.dropWhile_sublist isBlank).length_le

/-- The bytes after `word`, if they begin with it. -/
def readWord : (word : List UInt8) → List UInt8 → Except Damage (List UInt8)
  | [], bytes => .ok bytes
  | _ :: _, [] => .error .truncated
  | w :: word, b :: bytes => if b == w then readWord word bytes else .error .malformed

theorem length_readWord_le {word bytes rest : List UInt8}
    (h : readWord word bytes = .ok rest) : rest.length ≤ bytes.length := by
  fun_induction readWord word bytes with
  | case1 bytes => simp_all
  | case2 => simp at h
  | case3 w word b bytes _ ih => have := ih h; simp; omega
  | case4 => simp at h

/-- The bytes `ull` after the `n` of `null`. -/
def nullTail : List UInt8 := [0x75, 0x6C, 0x6C]

/-- The bytes `rue` after the `t` of `true`. -/
def trueTail : List UInt8 := [0x72, 0x75, 0x65]

/-- The bytes `alse` after the `f` of `false`. -/
def falseTail : List UInt8 := [0x61, 0x6C, 0x73, 0x65]

/-- The byte that ends a string. -/
def quote : UInt8 := 0x22

/-- The byte that begins an escape. -/
def backslash : UInt8 := 0x5C

/-- The byte that an escape of one letter stands for. -/
def shortEscape? (b : UInt8) : Option UInt8 :=
  if b == 0x22 then some 0x22 -- quotation mark
  else if b == 0x5C then some 0x5C -- backslash
  else if b == 0x2F then some 0x2F -- slash
  else if b == 0x62 then some 0x08 -- b, backspace
  else if b == 0x66 then some 0x0C -- f, form feed
  else if b == 0x6E then some 0x0A -- n, line feed
  else if b == 0x72 then some 0x0D -- r, carriage return
  else if b == 0x74 then some 0x09 -- t, tab
  else none

/-- The letter `u`, which begins an escape of four hexadecimal digits. -/
def letterU : UInt8 := 0x75

/-- The value of a hexadecimal digit. -/
def hexValue? (b : UInt8) : Option Nat :=
  if 0x30 ≤ b && b ≤ 0x39 then some (b.toNat - 0x30)
  else if 0x41 ≤ b && b ≤ 0x46 then some (b.toNat - 0x41 + 10)
  else if 0x61 ≤ b && b ≤ 0x66 then some (b.toNat - 0x61 + 10)
  else none

/-- The value of four hexadecimal digits. -/
def hexQuad? (a b c d : UInt8) : Option Nat := do
  let a ← hexValue? a
  let b ← hexValue? b
  let c ← hexValue? c
  let d ← hexValue? d
  return ((a * 16 + b) * 16 + c) * 16 + d

/-- Whether a code unit is the first half of a surrogate pair. -/
def isHighSurrogate (n : Nat) : Bool :=
  0xD800 ≤ n && n ≤ 0xDBFF

/-- Whether a code unit is the second half of a surrogate pair. -/
def isLowSurrogate (n : Nat) : Bool :=
  0xDC00 ≤ n && n ≤ 0xDFFF

/-- The code point of a surrogate pair. -/
def pairCode (high low : Nat) : Nat :=
  (high - 0xD800) * 0x400 + (low - 0xDC00) + 0x10000

/-- The bytes of the character with the given code point. -/
def codeBytes (n : Nat) : List UInt8 :=
  String.utf8EncodeChar (Char.ofNat n)

/-- Apply a function to what a reader read. -/
def mapRead {ε α β : Type} (f : α → β) :
    Except ε (α × List UInt8) → Except ε (β × List UInt8)
  | .ok (a, rest) => .ok (f a, rest)
  | .error e => .error e

theorem mapRead_eq_ok_iff {ε α β : Type} {f : α → β} {r : Except ε (α × List UInt8)}
    {b : β} {rest : List UInt8} :
    mapRead f r = .ok (b, rest) ↔ ∃ a, r = .ok (a, rest) ∧ f a = b := by
  cases r with
  | error => simp [mapRead]
  | ok p => obtain ⟨a, rest'⟩ := p; simp only [mapRead, Except.ok.injEq, Prod.mk.injEq]; grind

/-- The contents of a string whose quotation mark has been read, with every escape undone, and
the bytes after the string. Escaped surrogates have to come in pairs. -/
def readContents : List UInt8 → Except Damage (List UInt8 × List UInt8)
  | [] => .error .truncated
  | b :: rest =>
    if b == quote then .ok ([], rest)
    else if b == backslash then
      match rest with
      | [] => .error .truncated
      | e :: rest =>
        match shortEscape? e with
        | some x => mapRead ([x] ++ ·) (readContents rest)
        | none =>
          if e == letterU then
            match rest with
            | a :: b :: c :: d :: rest =>
              match hexQuad? a b c d with
              | none => .error .malformed
              | some n =>
                if isLowSurrogate n then .error .malformed
                else if isHighSurrogate n then
                  -- The other half has to follow at once.
                  match rest with
                  | [] => .error .truncated
                  | s :: rest =>
                    if s == backslash then
                      match rest with
                      | [] => .error .truncated
                      | u :: rest =>
                        if u == letterU then
                          match rest with
                          | a :: b :: c :: d :: rest =>
                            match hexQuad? a b c d with
                            | none => .error .malformed
                            | some m =>
                              if isLowSurrogate m then
                                mapRead (codeBytes (pairCode n m) ++ ·) (readContents rest)
                              else .error .malformed
                          | _ => .error .truncated
                        else .error .malformed
                    else .error .malformed
                else mapRead (codeBytes n ++ ·) (readContents rest)
            | _ => .error .truncated
          else .error .malformed
    else if b < 0x20 then .error .malformed
    else mapRead ([b] ++ ·) (readContents rest)

theorem length_readContents_le {bytes contents rest : List UInt8}
    (h : readContents bytes = .ok (contents, rest)) : rest.length ≤ bytes.length := by
  fun_induction readContents bytes generalizing contents <;>
    simp only [List.length_cons, List.length_nil] <;> grind [mapRead_eq_ok_iff]

/-- The bytes after a string whose quotation mark has been read. Its escapes have to be well
formed, but the code units they name need not pair up. -/
def skipContents : List UInt8 → Except Damage (List UInt8)
  | [] => .error .truncated
  | b :: rest =>
    if b == quote then .ok rest
    else if b == backslash then
      match rest with
      | [] => .error .truncated
      | e :: rest =>
        if (shortEscape? e).isSome then skipContents rest
        else if e == letterU then
          match rest with
          | a :: b :: c :: d :: rest =>
            if (hexQuad? a b c d).isSome then skipContents rest else .error .malformed
          | _ => .error .truncated
        else .error .malformed
    else if b < 0x20 then .error .malformed
    else skipContents rest

end KafkaCanary.Json
