import KafkaCanary.Options.Reader
import KafkaCanary.Terminal.Sequence

/-!
# Explaining the Settings

The text that explains the settings, and the texts of usage faults. They are written for a
terminal, with the names of settings and what a fault quotes emphasized, and are made plain for all
other readers. Values may hold control sequences too.
-/

namespace KafkaCanary

open Terminal

/-- A text whose later lines are set in as far as explanations are. -/
def setIn (s : String) : String :=
  String.ofList (s.toList.flatMap fun c =>
    if c = '\n' then c :: List.replicate 10 ' ' else [c])

/-- The lines that explain a setting. The value of its environment variable is shown. -/
def Setting.helpLines (environment : Environment) (setting : Setting) : List String :=
  let fallback := match setting.default? with
    | none => ""
    | some value => " [default: " ++ value ++ "]"
  ["      " ++ emphasized ("--" ++ setting.name) ++ " <" ++ setting.valueName ++ ">",
    "          " ++ setting.purpose ++ " [env: " ++ setting.variableName ++ "=" ++
      setIn ((environment setting.variableName).getD "") ++ "]" ++ fallback]

/-- The lines that explain a switch. -/
def Switch.helpLines (switch : Switch) : List String :=
  let letter := match switch.letter? with
    | none => "      "
    | some c => "  " ++ emphasized (String.ofList ['-', c]) ++ ", "
  [letter ++ emphasized switch.usage, "          " ++ switch.purpose]

/-- The text that explains the settings, as a terminal gets it. -/
def helpMarkup (environment : Environment) : String :=
  let lines := ["Kafka canary producer with per-partition latency metrics", "",
      "Usage: canary [OPTIONS]", "", "Options:"] ++
    Setting.all.flatMap (Setting.helpLines environment) ++ Switch.all.flatMap Switch.helpLines
  String.join (lines.map (· ++ "\n"))

/-- The text that explains the settings. -/
def helpText (medium : Medium) (environment : Environment) : String :=
  plain medium (helpMarkup environment)

/-- A text that a fault quotes. -/
def quotation (s : String) : String :=
  "'" ++ emphasized s ++ "'"

/-- The description of a usage fault, as a terminal gets it. -/
def UsageFault.markup (environment : Environment) : UsageFault → String
  | .unexpected argument => "error: unexpected argument " ++ quotation argument ++ " found"
  | .valueMissing setting =>
    "error: a value is required for " ++ quotation setting.usage ++ " but none was supplied"
  | .invalidValue value setting fault =>
    "error: invalid value " ++ quotation value ++ " for " ++ quotation setting.usage ++ ": " ++
      fault.message
  | .repeatedSetting setting =>
    "error: the argument " ++ quotation setting.usage ++ " cannot be used multiple times"
  | .repeatedSwitch switch =>
    "error: the argument " ++ quotation switch.usage ++ " cannot be used multiple times"
  | .excessValue value switch =>
    "error: unexpected value " ++ quotation value ++ " for " ++ quotation switch.usage ++
      " found; no more were expected"
  | .helpRequested => helpMarkup environment

/-- The first line of a text. A carriage return before the end of the line belongs to the end. -/
def firstLine (cs : List Char) : List Char :=
  let line := cs.takeWhile (· ≠ '\n')
  if line.length < cs.length ∧ line.getLast? = some '\r' then line.dropLast else line

/-- The description of a usage fault in one line. Values may hold line ends. -/
def UsageFault.headline (medium : Medium) (environment : Environment) (fault : UsageFault) :
    String :=
  String.ofList (firstLine (plain medium (fault.markup environment)).toList)

end KafkaCanary
