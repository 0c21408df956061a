import KafkaCanary.Pattern.Bracket
import KafkaCanary.Pattern.Usable

/-!
# Reading Patterns

A pattern is read from the left. A group that has been opened waits on a stack until its closing
parenthesis. What repeats has to follow something that can be repeated, and how often cannot be
counted.
-/

namespace KafkaCanary.Pattern

/-- What stands around a group that has been opened. -/
structure Surroundings where
  /-- The switches of the group. -/
  switches : Switches
  /-- The patterns in front of the group, the latest one first. -/
  before : List Pattern
  /-- The alternatives to them, the latest one first. -/
  alternatives : List Pattern
  /-- Whether blanks do not count around the group. -/
  ignoreBlanks : Bool

/-- How far a pattern has been read. -/
structure Reading where
  /-- The patterns read in the innermost group, the latest one first. -/
  latest : List Pattern
  /-- The alternatives to them, the latest one first. -/
  alternatives : List Pattern
  /-- What stands around the groups that are open, the innermost one first. -/
  around : List Surroundings
  /-- Whether blanks do not count. -/
  ignoreBlanks : Bool
  /-- The names of groups. -/
  names : List (List Char)

namespace Reading

/-- Nothing has been read. -/
def init : Reading :=
  ⟨[], [], [], false, []⟩

/-- Add a pattern. -/
def push (r : Reading) (p : Pattern) : Reading :=
  { r with latest := p :: r.latest }

/-- The inside of the innermost group. -/
def inside (r : Reading) : Pattern :=
  let last := Pattern.ofList r.latest.reverse
  if r.alternatives.isEmpty then last else .choice (last :: r.alternatives).reverse

/-- An alternative begins. -/
def alternate (r : Reading) : Reading :=
  { r with
    latest := []
    alternatives := Pattern.ofList r.latest.reverse :: r.alternatives }

/-- A group with the switches given begins. -/
def enter (r : Reading) (s : Switches) : Reading :=
  { r with
    latest := []
    alternatives := []
    around := ⟨s, r.latest, r.alternatives, r.ignoreBlanks⟩ :: r.around
    ignoreBlanks := s.ignoreBlanks.getD r.ignoreBlanks }

/-- What an opening parenthesis opens begins. No two groups have one name. -/
def begin? (r : Reading) : Opening → Option Reading
  | .switches s =>
    some { r.push (.switches s) with ignoreBlanks := s.ignoreBlanks.getD r.ignoreBlanks }
  | .group s => some (r.enter s)
  | .named name =>
    if r.names.contains name then none
    else some ({ r with names := name :: r.names }.enter .unset)

/-- The innermost group ends. -/
def leave? (r : Reading) : Option Reading :=
  match r.around with
  | [] => none
  | s :: around =>
    some { r with
      latest := .group s.switches r.inside :: s.before
      alternatives := s.alternatives
      around := around
      ignoreBlanks := s.ignoreBlanks }

/-- Repeat the latest pattern, which must not be one of switches. -/
def repeat? (r : Reading) : Option Reading :=
  match r.latest with
  | [] | .switches _ :: _ => none
  | p :: latest => some { r with latest := .repetition p :: latest }

/-- One step, at the character `c` in front of `rest`. -/
def step? (r : Reading) (c : Char) (rest : List Char) : Option (Reading × List Char) :=
  match c with
  | '(' =>
    (readOpening? r.ignoreBlanks rest).bind fun (opening, rest) =>
      (r.begin? opening).map (·, rest)
  | ')' => r.leave?.map (·, rest)
  | '|' => some (r.alternate, rest)
  | '[' => (readBracket? r.ignoreBlanks rest).map fun (p, rest) => (r.push p, rest)
  | '?' | '*' | '+' =>
    r.repeat?.map (·, if rest.head? = some '?' then rest.drop 1 else rest)
  | '\x7b' => none
  | '\\' => (readEscape? r.ignoreBlanks rest).map fun (p, rest) => (r.push p, rest)
  | '.' => some (r.push .anyCharacter, rest)
  | '^' | '$' => some (r.push .edge, rest)
  | c => some (r.push (.letter c false), rest)

/-- Read a pattern to its end. Every step takes a character. -/
def readAll? (r : Reading) (cs : List Char) : Option Pattern :=
  match skip r.ignoreBlanks cs with
  | [] => if r.around.isEmpty then some r.inside else none
  | c :: rest =>
    match r.step? c rest with
    | none => none
    | some (r, rest) => if rest.length < cs.length then readAll? r rest else none
termination_by cs.length

end Reading

/-- Read a pattern. -/
def read? (cs : List Char) : Option Pattern :=
  Reading.init.readAll? cs

/-- Whether a text is a pattern that can be used. -/
def isPattern (cs : List Char) : Bool :=
  (read? cs).any isUsable

end KafkaCanary.Pattern
