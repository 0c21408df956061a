/-!
# Patterns

The shape of a pattern for texts, a regular expression: as much of it as decides whether it can be
used. Which characters a class names is left out, since only its kind matters. A pattern can be used
if it is not nested too deeply and if none of its parts needs a table of Unicode or matches bytes
that are no text.
-/

namespace KafkaCanary

/-- A set of characters between brackets. -/
inductive CharacterSet where
  /-- The characters from one to another. -/
  | range (first last : Char)
  /-- A class with a name, such as the letters, or its complement. -/
  | named (negated : Bool)
  /-- A class with a letter behind a backslash, such as the digits, or its complement. -/
  | shorthand (negated : Bool)
  /-- The characters with a property of Unicode. -/
  | property
  /-- A set in brackets of its own, or its complement. -/
  | bracket (negated : Bool) (set : CharacterSet)
  /-- The characters of several sets, of none or of two at least. -/
  | union (sets : List CharacterSet)
  /-- What an operation makes of two sets. -/
  | operation (left right : CharacterSet)

/-- The switches that a pattern sets, as far as they matter; `none` leaves a switch as it is. -/
structure Switches where
  /-- Whether the case of letters does not matter. -/
  ignoreCase : Option Bool
  /-- Whether characters are those of Unicode and not bytes. -/
  unicode : Option Bool
  /-- Whether blanks and comments do not count. -/
  ignoreBlanks : Option Bool
deriving DecidableEq, Repr

/-- The switches of a pattern that sets none. -/
def Switches.unset : Switches :=
  ⟨none, none, none⟩

/-- A pattern. -/
inductive Pattern where
  /-- A character that stands for itself. One that is spelled by two hexadecimal digits can stand
  for a byte. -/
  | letter (c : Char) (asByte : Bool)
  /-- Any character. -/
  | anyCharacter
  /-- The beginning or the end of a line or of the text. -/
  | edge
  /-- The beginning or the end of a word, or neither of them. -/
  | wordEdge
  /-- A class with a letter behind a backslash, or its complement. -/
  | shorthand (negated : Bool)
  /-- The characters with a property of Unicode. -/
  | property
  /-- A set of characters between brackets, or its complement. -/
  | bracket (negated : Bool) (set : CharacterSet)
  /-- Switches for the rest of a group. -/
  | switches (s : Switches)
  /-- A pattern that may be repeated or left out. -/
  | repetition (p : Pattern)
  /-- A pattern in parentheses, with switches of its own. -/
  | group (s : Switches) (p : Pattern)
  /-- Patterns one after the other, none or two at least. -/
  | sequence (ps : List Pattern)
  /-- Alternatives. -/
  | choice (ps : List Pattern)

namespace CharacterSet

/-- The characters of the sets given. -/
def ofList : List CharacterSet → CharacterSet
  | [set] => set
  | sets => .union sets

mutual

/-- How deeply a set is nested. -/
def depth : CharacterSet → Nat
  | .range .. | .named _ | .shorthand _ | .property => 0
  | .bracket _ set => set.depth + 1
  | .union sets => if sets.isEmpty then 0 else greatestDepth sets + 1
  | .operation left right => max left.depth right.depth + 1

/-- How deeply the most deeply nested set is nested. -/
def greatestDepth : List CharacterSet → Nat
  | [] => 0
  | set :: sets => max set.depth (greatestDepth sets)

end

end CharacterSet

namespace Pattern

/-- The patterns given, one after the other. -/
def ofList : List Pattern → Pattern
  | [p] => p
  | ps => .sequence ps

mutual

/-- How deeply a pattern is nested. -/
def depth : Pattern → Nat
  | .letter .. | .anyCharacter | .edge | .wordEdge | .shorthand _ | .property | .switches _ => 0
  | .bracket _ set => set.depth + 1
  | .repetition p => p.depth + 1
  | .group _ p => p.depth + 1
  | .sequence ps => if ps.isEmpty then 0 else greatestDepth ps + 1
  | .choice ps => greatestDepth ps + 1

/-- How deeply the most deeply nested pattern is nested. -/
def greatestDepth : List Pattern → Nat
  | [] => 0
  | p :: ps => max p.depth (greatestDepth ps)

end

end Pattern

end KafkaCanary
