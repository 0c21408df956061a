import KafkaCanary.Decimal.Literal
import KafkaCanary.Event
import KafkaCanary.Pattern.Reader
import KafkaCanary.Text.CommaList

/-!
# Event Filters

Which events people get to see. A filter is a list of directives, written with commas between
them. A directive is a level, or the beginning of a component's name with the level after an equals
sign, which may be left out; without a level it lets everything through. Brackets after the name
tell what else the directive asks of an event: a span in which it happens, or a field that it has,
which may have to have a value. The directive with the longest name that fits an event decides about
it; of several with the same name one that asks for a field, and of those the last one.
-/

namespace KafkaCanary

/-- How much attention an event has to deserve. -/
inductive Threshold where
  /-- More than any event does. -/
  | off
  /-- That of a level. -/
  | atLeast (level : Level)
deriving DecidableEq, Repr

namespace Threshold

/-- Whether an event of a level deserves enough attention. -/
def admits (level : Level) : Threshold → Bool
  | .off => false
  | .atLeast least => least.rank ≤ level.rank

/-- The threshold below all others. -/
def everything : Threshold :=
  .atLeast .debug

/-- The threshold that a number from 0 to 5 stands for. -/
def ofNat? : Nat → Option Threshold
  | 0 => some .off
  | 1 => some (.atLeast .error)
  | 2 => some (.atLeast .warn)
  | 3 => some (.atLeast .info)
  | 4 | 5 => some everything
  | _ => none

/-- The threshold that a word stands for. The case of letters does not matter. -/
def ofWord? (word : List Char) : Option Threshold :=
  match String.ofList (word.map Char.toLower) with
  | "off" => some .off
  | "error" => some (.atLeast .error)
  | "warn" => some (.atLeast .warn)
  | "info" => some (.atLeast .info)
  | "debug" | "trace" => some everything
  | _ => none

/-- The threshold that a word or a number stands for. -/
def read? (cs : List Char) : Option Threshold :=
  match Decimal.readUnsigned 5 cs with
  | .ok n => ofNat? n
  | .error _ => ofWord? cs

end Threshold

/-- A place in a directive. Blanks in front of a directive count for its parts, but not for the
characters between them: these are looked for in the text without the blanks, and the parts are cut
out of the text with the blanks at the same places. -/
structure Place where
  /-- The character in the text without the blanks. -/
  mark : Char
  /-- The character in the text with the blanks. -/
  content : Char

/-- The places of a text. -/
def Place.ofText (cs : List Char) : List Place :=
  (Text.trimStart cs).zipWith Place.mk cs

/-- What a directive asks of an event beside its component. -/
inductive Condition where
  /-- Nothing. -/
  | always
  /-- That it has a field. -/
  | field (name : List Char)
  /-- Something that no event has: a span, or a field with a value. -/
  | unmet
deriving DecidableEq, Repr

namespace Condition

/-- The only field of an event: its text. -/
def textField : List Char :=
  "message".toList

/-- Whether events meet a condition. -/
def isMet : Condition → Bool
  | .always => true
  | .field name => name = textField
  | .unmet => false

/-- How much a condition counts among directives with the same name. -/
def weight : Condition → Nat
  | .always => 0
  | _ => 1

/-- Whether a text can stand for the value of a field: it is a number or a pattern. -/
def isValue (cs : List Char) : Bool :=
  (Decimal.readLiteral (String.ofList cs)).isSome || Pattern.isPattern cs

/-- The condition of a field, with its value after an equals sign if there is one. A second equals
sign ends the value. `bare` says that there is no span. -/
def ofField? (bare : Bool) (field : List Char) : Option Condition :=
  match field, field.dropWhile (· ≠ '=') with
  | [], _ => none
  | _, [] => some (if bare then .field field else .unmet)
  | _, _ :: value => if isValue (value.takeWhile (· ≠ '=')) then some .unmet else none

/-- Read the inside of brackets up to their end; the rest of the text comes with the condition. -/
def readBrackets? (places : List Place) : Option (Condition × List Place) :=
  let span := places.takeWhile fun p => p.mark ≠ ']' ∧ p.mark ≠ '\x7b'
  match places.drop span.length with
  | ⟨']', _⟩ :: rest => some (.unmet, rest)
  | _ :: inside =>
    let field := inside.takeWhile (·.mark ≠ '\x7d')
    match inside.drop field.length with
    | _ :: ⟨']', _⟩ :: rest => (ofField? span.isEmpty (field.map (·.content))).map (·, rest)
    | _ => none
  | [] => none

end Condition

/-- What to do with the events of some components. -/
structure Directive where
  /-- The beginning of the components' names. -/
  target : List Char
  /-- What else the events have to meet. -/
  condition : Condition
  /-- The threshold for the events. -/
  threshold : Threshold
deriving DecidableEq, Repr

namespace Directive

/-- The directive for all events. -/
def uniform (threshold : Threshold) : Directive :=
  ⟨[], .always, threshold⟩

/-- Whether a character can begin a directive. -/
def isInitial (c : Char) : Bool :=
  c = '[' || c = '-' || c = ':' || c = '_' || Text.isAlphanumeric c

/-- The threshold after an equals sign. -/
def readLevel? (cs : List Char) : Option Threshold :=
  if cs.isEmpty then some .everything else Threshold.read? cs

/-- A directive without brackets and equals sign. -/
def ofWord (word : List Char) : Directive :=
  match Threshold.read? word with
  | some threshold => uniform threshold
  | none => ⟨word, .always, .everything⟩

/-- Read what follows the brackets of a directive. `level?` reads its level. -/
def readAfterBrackets? (level? : List Char → Option Threshold) (target : List Char)
    (condition : Condition) : List Place → Option Directive
  | ⟨'=', _⟩ :: level => (level? (level.map (·.content))).map (⟨target, condition, ·⟩)
  | rest =>
    if rest.all (Text.isBlank ·.mark) then some ⟨target, condition, .everything⟩ else none

/-- Read a directive. `level?` reads its level. -/
def readPlaces? (level? : List Char → Option Threshold) (places : List Place) :
    Option Directive :=
  if !places.head?.any (isInitial ·.mark) then none
  else
    -- The name ends at a bracket or at the equals sign, whichever comes first.
    let word := places.takeWhile fun p => p.mark ≠ '=' ∧ p.mark ≠ '['
    let target := word.map (·.content)
    match places.drop word.length with
    | [] => some (ofWord target)
    | ⟨'[', _⟩ :: inside => do
      let (condition, rest) ← Condition.readBrackets? inside
      readAfterBrackets? level? target condition rest
    | _ :: level => (level? (level.map (·.content))).map (⟨target, .always, ·⟩)

/-- Read a directive. One with blanks in front can have no level. -/
def read? (cs : List Char) : Option Directive :=
  let level? := if cs.head?.any Text.isBlank then fun _ => none else readLevel?
  readPlaces? level? (Place.ofText cs)

/-- Whether a directive fits the events of a component with the name given. -/
def fits (name : List Char) (directive : Directive) : Bool :=
  directive.target.isPrefixOf name && directive.condition.isMet

/-- The one of two directives that decides. -/
def stronger (earlier later : Directive) : Directive :=
  if later.target.length < earlier.target.length then earlier
  else if earlier.target.length < later.target.length then later
  else if later.condition.weight < earlier.condition.weight then earlier
  else later

end Directive

/-- Which events people get to see. -/
structure EventFilter where
  /-- The directives. -/
  directives : List Directive
deriving DecidableEq, Repr

namespace EventFilter

/-- The filter with the same threshold for all events. -/
def uniform (threshold : Threshold) : EventFilter :=
  ⟨[.uniform threshold]⟩

/-- Read a filter. Empty directives do not count, and a filter without directives shows errors. -/
def read? (s : String) : Option EventFilter := do
  let pieces := (Text.commaPieces s.toList).filter (!·.isEmpty)
  let directives ← pieces.mapM Directive.read?
  return if directives.isEmpty then uniform (.atLeast .error) else ⟨directives⟩

/-- The environment variable in which a filter is written. -/
def variableName : String := "RUST_LOG"

/-- The filter of a program: as written, or else one that shows all but details, or only errors
if the program is to be quiet. -/
def choose (written : Option String) (quiet : Bool) : EventFilter :=
  (written.bind read?).getD (uniform (.atLeast (if quiet then .error else .info)))

/-- The directive that decides about the events of a component, if any fits it. -/
def deciding? (filter : EventFilter) (component : Component) : Option Directive :=
  match filter.directives.filter (·.fits component.target.toList) with
  | [] => none
  | directive :: rest => some (rest.foldl Directive.stronger directive)

/-- Whether people get to see an event. -/
def admits (filter : EventFilter) (event : Event) : Bool :=
  (filter.deciding? event.component).any (·.threshold.admits event.level)

end EventFilter

end KafkaCanary
