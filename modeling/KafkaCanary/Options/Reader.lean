import KafkaCanary.Options.Basic

/-!
# Reading Options

Options are read from the arguments of the command line, then from the environment, then from the
defaults. Arguments are judged from the left. A setting that awaits or holds its value is settled
by the next setting or switch, so an argument that is no setting is reported before the fault of
a value that stands in front of it.
-/

namespace KafkaCanary

/-- Why a text is not a value of a setting. -/
inductive ValueFault where
  /-- The text is no integer of 64 bits. -/
  | integer (fault : Decimal.IntegerFault)
  /-- The integer has more than 32 bits. -/
  | tooWide (value : Int)
deriving DecidableEq, Repr

/-- The description of a fault. -/
def ValueFault.message : ValueFault → String
  | .integer fault => fault.message
  | .tooWide value => Decimal.integerText value ++ " is not in -2147483648..=2147483647"

/-- Why the command line and the environment give no options. -/
inductive UsageFault where
  /-- An argument is no setting and no value is awaited. -/
  | unexpected (argument : String)
  /-- A setting has no value. -/
  | valueMissing (setting : Setting)
  /-- The value of a setting cannot be read. -/
  | invalidValue (value : String) (setting : Setting) (fault : ValueFault)
  /-- A setting is given twice. -/
  | repeatedSetting (setting : Setting)
  /-- A switch is given twice. -/
  | repeatedSwitch (switch : Switch)
  /-- A switch is given a value. -/
  | excessValue (value : String) (switch : Switch)
  /-- An explanation was asked for. -/
  | helpRequested
deriving DecidableEq, Repr

/-- Read a number of milliseconds: an unsigned integer of 64 bits. -/
def Setting.readCount (value : String) : Except ValueFault UInt64 :=
  match Decimal.readUInt64 value with
  | .ok n => .ok n
  | .error fault => .error (.integer fault)

/-- Read a number of partitions: an integer of 32 bits, which is first read as one of 64. -/
def Setting.readPartitions (value : String) : Except ValueFault Int32 :=
  match Decimal.readInt64 value with
  | .error fault => .error (.integer fault)
  | .ok z =>
    if Int32.minValue.toInt ≤ z ∧ z ≤ Int32.maxValue.toInt then .ok (Int32.ofInt z)
    else .error (.tooWide z)

/-- Check that a text can be the value of a setting. -/
def Setting.check (setting : Setting) (value : String) : Except UsageFault Unit :=
  let fault : Option ValueFault := match setting with
    | .reconcileInterval | .requestTimeout =>
      match readCount value with
      | .ok _ => none
      | .error fault => some fault
    | .partitions =>
      match readPartitions value with
      | .ok _ => none
      | .error fault => some fault
    | _ => none
  match fault with
  | none => .ok ()
  | some fault => .error (.invalidValue value setting fault)

/-- What an argument is by its form. -/
inductive Argument where
  /-- Two dashes and a name, and the value after an equals sign if there is one. -/
  | long (name : String) (value : Option String)
  /-- One dash and letters. -/
  | letters (letters : List Char)
  /-- Two dashes alone: no setting follows. -/
  | separator
  /-- Anything else, a lone dash too. -/
  | word
deriving DecidableEq, Repr

/-- The value after the first equals sign, if there is one. -/
def valueAfterSign (cs : List Char) : Option String :=
  match cs.dropWhile (· ≠ '=') with
  | [] => none
  | _ :: value => some (String.ofList value)

/-- The form of an argument. -/
def Argument.ofString (argument : String) : Argument :=
  match argument.toList with
  | '-' :: '-' :: [] => .separator
  | '-' :: '-' :: cs => .long (String.ofList (cs.takeWhile (· ≠ '='))) (valueAfterSign cs)
  | '-' :: c :: cs => .letters (c :: cs)
  | _ => .word

/-- A setting whose name has been read last. -/
structure Pending where
  /-- The setting. -/
  setting : Setting
  /-- Its value, unless that is still awaited. -/
  value : Option String
deriving DecidableEq, Repr

/-- What has been read from the command line. -/
structure Scan where
  /-- The settings given, with their values. -/
  given : List (Setting × String)
  /-- The setting that is not settled yet. -/
  pending : Option Pending
  /-- The switches given. -/
  switches : List Switch
deriving DecidableEq, Repr

namespace Scan

/-- Nothing has been read. -/
def init : Scan :=
  ⟨[], none, []⟩

/-- The value given for a setting. -/
def value? (scan : Scan) (setting : Setting) : Option String :=
  scan.given.lookup setting

/-- Give a value to a setting, which must not have one. -/
def assign (scan : Scan) (setting : Setting) (value : String) : Except UsageFault Scan :=
  if (scan.value? setting).isSome then .error (.repeatedSetting setting)
  else (setting.check value).map fun _ => { scan with given := (setting, value) :: scan.given }

/-- Give the pending setting its value. -/
def settle (scan : Scan) : Except UsageFault Scan :=
  match scan.pending with
  | none => .ok scan
  | some ⟨setting, none⟩ => .error (.valueMissing setting)
  | some ⟨setting, some value⟩ => { scan with pending := none }.assign setting value

/-- Turn a switch on, which must not be on. -/
def turnOn (scan : Scan) (switch : Switch) : Except UsageFault Scan := do
  let scan ← scan.settle
  if switch = .help then .error .helpRequested
  else if switch ∈ scan.switches then .error (.repeatedSwitch switch)
  else return { scan with switches := switch :: scan.switches }

/-- Turn on the switches of several letters. -/
def turnOnLetters (scan : Scan) : List Char → Except UsageFault Scan
  | [] => .ok scan
  | c :: cs =>
    match Switch.all.find? (·.letter? = some c) with
    | none => .error (.unexpected (String.ofList ['-', c]))
    | some switch => scan.turnOn switch >>= (turnOnLetters · cs)

/-- Read an argument of two dashes and a name. -/
def readLong (scan : Scan) (name : String) (value : Option String) : Except UsageFault Scan :=
  match Setting.all.find? (·.name = name), Switch.all.find? (·.name = name), value with
  | some setting, _, some value => scan.settle >>= (·.assign setting value)
  | some setting, _, none =>
    scan.settle.map fun scan => { scan with pending := some ⟨setting, none⟩ }
  | none, some switch, some value => .error (.excessValue value switch)
  | none, some switch, none => scan.turnOn switch
  | none, none, _ => .error (.unexpected ("--" ++ name))

/-- Read an argument that has no dashes in front: the value awaited, if any. -/
def readWord (scan : Scan) (argument : String) : Except UsageFault Scan :=
  match scan.pending with
  | some ⟨setting, none⟩ => .ok { scan with pending := some ⟨setting, some argument⟩ }
  | _ => .error (.unexpected argument)

/-- Read arguments to the end. -/
def readAll (scan : Scan) : List String → Except UsageFault Scan
  | [] => scan.settle
  | argument :: rest =>
    match Argument.ofString argument with
    | .separator =>
      match rest with
      | [] => scan.settle
      | argument :: _ => .error (.unexpected argument)
    | .long name value => scan.readLong name value >>= (readAll · rest)
    | .letters letters => scan.turnOnLetters letters >>= (readAll · rest)
    | .word => scan.readWord argument >>= (readAll · rest)

end Scan

/-- The values of the environment variables. -/
abbrev Environment := String → Option String

/-- The value of a setting that takes any text. -/
def Scan.text (scan : Scan) (environment : Environment) (setting : Setting) : String :=
  ((scan.value? setting).or (environment setting.variableName)).getD (setting.default?.getD "")

/-- The value of a setting that has to be read, if it is given anywhere. -/
def Scan.read {α : Type} (scan : Scan) (environment : Environment) (setting : Setting)
    (reader : String → Except ValueFault α) : Except UsageFault (Option α) :=
  match ((scan.value? setting).or (environment setting.variableName)).or setting.default? with
  | none => .ok none
  | some value =>
    match reader value with
    | .ok a => .ok (some a)
    | .error fault => .error (.invalidValue value setting fault)

/-- The options given by arguments and environment. -/
def Options.ofArguments (arguments : List String) (environment : Environment) :
    Except UsageFault Options := do
  let scan ← Scan.init.readAll arguments
  let interval ← scan.read environment .reconcileInterval Setting.readCount
  let timeout ← scan.read environment .requestTimeout Setting.readCount
  let partitions ← scan.read environment .partitions Setting.readPartitions
  return {
    bootstrapServers := scan.text environment .bootstrapServers
    topic := scan.text environment .topic
    clientId := scan.text environment .clientId
    latencyBuckets := scan.text environment .latencyBuckets
    reconcileIntervalMillis := interval.getD 0
    requestTimeoutMillis := timeout.getD 0
    partitions := partitions
    printMetrics := scan.switches.contains .printMetrics
    quiet := scan.switches.contains .quiet }

end KafkaCanary
