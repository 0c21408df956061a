import KafkaCanary.Pattern.Lexeme

/-!
# Reading Sets of Characters

A set of characters stands between brackets. It lists characters, ranges, classes and further sets;
two equal signs of operation between such lists combine them, from the left. A set that has been
opened waits on a stack until its closing bracket.
-/

namespace KafkaCanary

/-- A set that has been opened. -/
structure OpenSet where
  /-- Whether the complement is meant. -/
  negated : Bool
  /-- Whether nothing but hyphens has been read. -/
  fresh : Bool
  /-- The sets listed since the last sign of operation, the latest one first. -/
  sets : List CharacterSet
  /-- What stands in front of the last sign of operation. -/
  left : Option CharacterSet

namespace OpenSet

/-- List a set. -/
def push (o : OpenSet) (set : CharacterSet) : OpenSet :=
  { o with fresh := false, sets := set :: o.sets }

/-- The set read so far. -/
def close (o : OpenSet) : CharacterSet :=
  let right := CharacterSet.ofList o.sets.reverse
  match o.left with
  | none => right
  | some left => .operation left right

/-- A sign of operation has been read. -/
def operate (o : OpenSet) : OpenSet :=
  { o with fresh := false, sets := [], left := some o.close }

end OpenSet

namespace Pattern

/-- The names of the classes that have one. -/
def classNames : List String :=
  ["alnum", "alpha", "ascii", "blank", "cntrl", "digit", "graph", "lower", "print", "punct",
    "space", "upper", "word", "xdigit"]

/-- Read a class with a name, behind its opening bracket: the name between colons, and a
circumflex in front of it for the complement. -/
def readNamed? : List Char → Option (CharacterSet × List Char)
  | ':' :: cs =>
    let negated := cs.head? = some '^'
    let cs := if negated then cs.drop 1 else cs
    let name := cs.takeWhile (· ≠ ':')
    match cs.drop name.length with
    | ':' :: ']' :: rest =>
      if classNames.contains (String.ofList name) then some (.named negated, rest) else none
    | _ => none
  | _ => none

/-- Open a set behind its bracket. -/
def openSet (ignoreBlanks : Bool) (cs : List Char) : OpenSet × List Char :=
  match skip ignoreBlanks cs with
  | '^' :: rest => (⟨true, true, [], none⟩, rest)
  | rest => (⟨false, true, [], none⟩, rest)

/-- The set that a part of a pattern is, if it can stand in brackets. -/
def asSet? : Pattern → Option CharacterSet
  | .letter c _ => some (.range c c)
  | .shorthand negated => some (.shorthand negated)
  | .property => some .property
  | _ => none

/-- Read a character or a class behind a backslash. -/
def readMember? (ignoreBlanks : Bool) : List Char → Option (Pattern × List Char)
  | [] => none
  | c :: cs => if c = '\\' then readEscape? ignoreBlanks cs else some (.letter c false, cs)

/-- Read the end of a range and make the range. -/
def readRange? (ignoreBlanks : Bool) (first : Pattern) (cs : List Char) :
    Option (CharacterSet × List Char) :=
  match readMember? ignoreBlanks (skip ignoreBlanks cs) with
  | some (.letter last _, rest) =>
    match first with
    | .letter first _ => if first ≤ last then some (.range first last, rest) else none
    | _ => none
  | _ => none

/-- Read a member of a set: a range if a hyphen follows, unless that is the last character of the
set or one of two hyphens. -/
def readSet? (ignoreBlanks : Bool) (cs : List Char) : Option (CharacterSet × List Char) :=
  (readMember? ignoreBlanks cs).bind fun (first, rest) =>
    match skip ignoreBlanks rest with
    | '-' :: more =>
      let next := glimpse ignoreBlanks more
      if next = some ']' ∨ next = some '-' then first.asSet?.map (·, '-' :: more)
      else readRange? ignoreBlanks first more
    | [] => none
    | rest => first.asSet?.map (·, rest)

/-- The sets that are open after a step inside brackets, the innermost one first, or the set that
the last bracket has closed. -/
inductive BracketStep where
  /-- Sets are open. -/
  | inside (inner : OpenSet) (outer : List OpenSet)
  /-- The last set has been closed. -/
  | closed (p : Pattern)

/-- Close the innermost set. -/
def closeSet (inner : OpenSet) : List OpenSet → BracketStep
  | [] => .closed (.bracket inner.negated inner.close)
  | next :: outer => .inside (next.push (.bracket inner.negated inner.close)) outer

/-- Whether a character, doubled, is a sign of operation. -/
def isOperation (c : Char) : Bool :=
  c = '&' || c = '-' || c = '~'

/-- One step inside brackets, at the character `c` in front of `rest`. -/
def bracketStep? (ignoreBlanks : Bool) (inner : OpenSet) (outer : List OpenSet) (c : Char)
    (rest : List Char) : Option (BracketStep × List Char) :=
  if inner.fresh ∧ c = '-' then
    some (.inside { inner with sets := .range '-' '-' :: inner.sets } outer, rest)
  else if inner.fresh ∧ inner.sets.isEmpty ∧ c = ']' then
    some (.inside (inner.push (.range ']' ']')) outer, rest)
  else if c = ']' then some (closeSet inner outer, rest)
  else if c = '[' then
    match readNamed? rest with
    | some (set, rest) => some (.inside (inner.push set) outer, rest)
    | none =>
      let (opened, rest) := openSet ignoreBlanks rest
      some (.inside opened ({ inner with fresh := false } :: outer), rest)
  else if isOperation c ∧ rest.head? = some c then
    some (.inside inner.operate outer, rest.drop 1)
  else
    (readSet? ignoreBlanks (c :: rest)).map fun (set, rest) =>
      (.inside (inner.push set) outer, rest)

/-- Read up to the bracket that closes the last set. Every step takes a character. -/
def readBracketFrom? (ignoreBlanks : Bool) (inner : OpenSet) (outer : List OpenSet)
    (cs : List Char) : Option (Pattern × List Char) :=
  match skip ignoreBlanks cs with
  | [] => none
  | c :: rest =>
    match bracketStep? ignoreBlanks inner outer c rest with
    | none => none
    | some (.closed p, rest) => some (p, rest)
    | some (.inside inner outer, rest) =>
      if rest.length < cs.length then readBracketFrom? ignoreBlanks inner outer rest else none
termination_by cs.length

/-- Read a set behind its opening bracket. -/
def readBracket? (ignoreBlanks : Bool) (cs : List Char) : Option (Pattern × List Char) :=
  let (opened, rest) := openSet ignoreBlanks cs
  readBracketFrom? ignoreBlanks opened [] rest

end Pattern

end KafkaCanary
