import KafkaCanary.Pattern.Basic
import KafkaCanary.Text.Alphanumeric
import KafkaCanary.Text.Blank

/-!
# Lexemes of Patterns

The small parts that patterns are written with: blanks and comments where they do not count,
characters behind a backslash, and what stands behind an opening parenthesis. Each reader returns
what it has read and the rest of the text.
-/

namespace KafkaCanary.Pattern

/-- A text without the blanks and comments that it begins with. A comment runs from a number sign
to the end of the line. -/
def dropBlanks (inComment : Bool) : List Char → List Char
  | [] => []
  | c :: cs =>
    if inComment then dropBlanks (c ≠ '\n') cs
    else if Text.isBlank c then dropBlanks false cs
    else if c = '#' then dropBlanks true cs
    else c :: cs

/-- A text without the blanks and comments that it begins with, if they do not count. -/
def skip (ignoreBlanks : Bool) (cs : List Char) : List Char :=
  if ignoreBlanks then dropBlanks false cs else cs

/-- The next character that counts, as it is seen from a hyphen: one number sign counts as a blank,
and where nothing but blanks follows the first of them is seen. -/
def glimpse (ignoreBlanks : Bool) (cs : List Char) : Option Char :=
  if !ignoreBlanks then cs.head?
  else
    let seen := match cs.dropWhile Text.isBlank with
      | '#' :: more => more.dropWhile Text.isBlank
      | more => more
    seen.head?.or cs.head?

/-- The value of a hexadecimal digit. -/
def hexValue? (c : Char) : Option Nat :=
  if c.isDigit then some (c.toNat - '0'.toNat)
  else if 'a' ≤ c ∧ c ≤ 'f' then some (c.toNat - 'a'.toNat + 10)
  else if 'A' ≤ c ∧ c ≤ 'F' then some (c.toNat - 'A'.toNat + 10)
  else none

/-- Read `count` hexadecimal digits behind those with the value given. -/
def readHex? (ignoreBlanks : Bool) (value : Nat) :
    (count : Nat) → List Char → Option (Nat × List Char)
  | 0, cs => some (value, cs)
  | count + 1, cs =>
    match skip ignoreBlanks cs with
    | [] => none
    | c :: cs => (hexValue? c).bind fun d => readHex? ignoreBlanks (value * 16 + d) count cs

/-- Read a character that is spelled by `count` hexadecimal digits. -/
def readSpelled? (ignoreBlanks : Bool) (count : Nat) (cs : List Char) :
    Option (Pattern × List Char) :=
  (readHex? ignoreBlanks 0 count cs).bind fun (n, cs) =>
    if n.isValidChar then some (.letter (Char.ofNat n) (count = 2), cs) else none

/-- Read the name of a property, which is one character. -/
def readProperty? (ignoreBlanks : Bool) (cs : List Char) : Option (Pattern × List Char) :=
  match skip ignoreBlanks cs with
  | [] | '\\' :: _ | '\x7b' :: _ => none
  | _ :: cs => some (.property, cs)

/-- Whether a character behind a backslash stands for itself. -/
def isEscapable (c : Char) : Bool :=
  c.toNat ≤ 0x7F && !c.isAlphanum && c ≠ '<' && c ≠ '>'

/-- Read what follows a backslash. -/
def readEscape? (ignoreBlanks : Bool) : List Char → Option (Pattern × List Char)
  | [] => none
  | c :: cs =>
    match c with
    | 'x' => readSpelled? ignoreBlanks 2 cs
    | 'u' => readSpelled? ignoreBlanks 4 cs
    | 'U' => readSpelled? ignoreBlanks 8 cs
    | 'p' | 'P' => readProperty? ignoreBlanks cs
    | 'd' | 's' | 'w' => some (.shorthand false, cs)
    | 'D' | 'S' | 'W' => some (.shorthand true, cs)
    | 'a' => some (.letter '\x07' false, cs)
    | 'f' => some (.letter '\x0c' false, cs)
    | 't' => some (.letter '\t' false, cs)
    | 'n' => some (.letter '\n' false, cs)
    | 'r' => some (.letter '\r' false, cs)
    | 'v' => some (.letter '\x0b' false, cs)
    | 'A' | 'z' => some (.edge, cs)
    | 'b' | 'B' | '<' | '>' => some (.wordEdge, cs)
    | c => if isEscapable c then some (.letter c false, cs) else none

/-- The switches that letters stand for; those behind a hyphen are switched off. -/
def switchesOf (letters : List Char) : Switches :=
  let state (c : Char) : Option Bool :=
    if letters.takeWhile (· ≠ '-') |>.contains c then some true
    else if letters.contains c then some false
    else none
  ⟨state 'i', state 'u', state 'x'⟩

/-- Whether letters are switches: each at most once, with one hyphen at most, not at the end. -/
def areSwitches (letters : List Char) : Bool :=
  letters.all (['-', 'i', 'm', 's', 'U', 'u', 'R', 'x'].contains ·) && decide letters.Nodup &&
    letters.getLast? ≠ some '-'

/-- Whether a text is the name of a group. -/
def isGroupName : List Char → Bool
  | [] => false
  | c :: cs =>
    (c = '_' || Text.isAlphabetic c) &&
      cs.all fun c => ['_', '.', '[', ']'].contains c || Text.isAlphanumeric c

/-- What an opening parenthesis opens. -/
inductive Opening where
  /-- Nothing: it sets switches. -/
  | switches (s : Switches)
  /-- A group. -/
  | group (s : Switches)
  /-- A group with a name. -/
  | named (name : List Char)

/-- Read the name of a group up to its end. -/
def readName? (cs : List Char) : Option (Opening × List Char) :=
  let name := cs.takeWhile (· ≠ '>')
  match cs.drop name.length with
  | _ :: rest => if isGroupName name then some (.named name, rest) else none
  | [] => none

/-- Read switches up to their end. -/
def readSwitches? (cs : List Char) : Option (Opening × List Char) :=
  let letters := cs.takeWhile fun c => c ≠ ':' ∧ c ≠ ')'
  if !areSwitches letters then none
  else
    match cs.drop letters.length with
    | ':' :: rest => some (.group (switchesOf letters), rest)
    | _ :: rest => if letters.isEmpty then none else some (.switches (switchesOf letters), rest)
    | [] => none

/-- Read what follows an opening parenthesis. Looking ahead or behind is not possible. -/
def readOpening? (ignoreBlanks : Bool) (cs : List Char) : Option (Opening × List Char) :=
  match skip ignoreBlanks cs with
  | '?' :: '=' :: _ | '?' :: '!' :: _ | '?' :: '<' :: '=' :: _ | '?' :: '<' :: '!' :: _ => none
  | '?' :: 'P' :: '<' :: rest => readName? rest
  | '?' :: '<' :: rest => readName? rest
  | '?' :: rest => readSwitches? rest
  | rest => some (.group .unset, rest)

end KafkaCanary.Pattern
