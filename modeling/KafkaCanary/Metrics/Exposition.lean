import KafkaCanary.Metrics.Instruments

/-!
# Exposition

The samples that instruments expose, and their text: one line per sample, the samples of a family
under two comment lines. Families and samples are listed in the order of their names and labels.
-/

namespace KafkaCanary

/-- One exposed value. -/
structure Sample where
  /-- The name of the sample. -/
  name : String
  /-- The labels of the sample. -/
  labels : Labels
  /-- The bound of a histogram bucket, as text. -/
  bound : Option String
  /-- The value, as text. -/
  value : String
deriving DecidableEq, Repr

/-- What kind of value a family counts. -/
inductive FamilyKind where
  /-- Numbers that only grow. -/
  | counter
  /-- Distributions of values. -/
  | histogram
deriving DecidableEq, Repr

/-- The samples of one instrument. -/
structure Family where
  /-- The name of the instrument. -/
  name : String
  /-- What the instrument counts. -/
  help : String
  /-- The kind of the instrument. -/
  kind : FamilyKind
  /-- The samples in order. -/
  samples : List Sample
deriving DecidableEq, Repr

/-- The name of a canary's instrument. -/
def instrumentName (name : String) : String :=
  "strimzi_canary_records_produced_" ++ name

/-- The family of a counter. -/
def counterFamily (name help : String) (table : Table Labels Nat) : Family where
  name := instrumentName name
  help := help
  kind := .counter
  samples := table.entries.map fun (labels, n) =>
    ⟨instrumentName name, labels, none, toString n⟩

/-- The samples of one histogram: its buckets, the sum and the count. -/
def histogramSamples (name : String) (bounds : List Float) (labels : Labels) (h : Histogram) :
    List Sample :=
  (bounds.zip h.cumulative).map (fun (bound, n) =>
    ⟨name ++ "_bucket", labels, some (Decimal.plain.text bound), toString n⟩) ++
  [⟨name ++ "_bucket", labels, some "+Inf", toString h.count⟩,
    ⟨name ++ "_sum", labels, none, Decimal.plain.text h.sum⟩,
    ⟨name ++ "_count", labels, none, toString h.count⟩]

/-- The family of a histogram. -/
def histogramFamily (name help : String) (bounds : List Float) (table : Table Labels Histogram) :
    Family where
  name := instrumentName name
  help := help
  kind := .histogram
  samples := table.entries.flatMap fun (labels, h) =>
    histogramSamples (instrumentName name) bounds labels h

/-- The families of instruments in the order of their names, without the empty ones. -/
def Instruments.families (m : Instruments) : List Family :=
  [counterFamily "clock_skew_total"
      "The total number of records acknowledged before their creation timestamp" m.skewed,
    counterFamily "failed_total" "The total number of records failed to produce" m.failed,
    histogramFamily "latency" "Records produced latency in milliseconds" m.bounds m.latency,
    counterFamily "total" "The total number of records produced" m.produced].filter
    (!·.samples.isEmpty)

/-- A character of a label value between quotation marks. -/
def labelChar (c : Char) : List Char :=
  if c = '\\' then ['\\', '\\']
  else if c = '"' then ['\\', '"']
  else if c = '\n' then ['\\', 'n']
  else [c]

/-- A label with its value. -/
def labelChars (name value : String) : List Char :=
  name.toList ++ '=' :: '"' :: value.toList.flatMap labelChar ++ ['"']

/-- The line of a sample, without its end. -/
def Sample.line (s : Sample) : List Char :=
  s.name.toList ++ '\x7b' :: labelChars "clientid" s.labels.clientId ++
    ',' :: labelChars "partition" s.labels.partition ++
    (match s.bound with
      | none => []
      | some bound => ',' :: labelChars "le" bound) ++
    '\x7d' :: ' ' :: s.value.toList

/-- The name of a kind. -/
def FamilyKind.name : FamilyKind → String
  | .counter => "counter"
  | .histogram => "histogram"

/-- The lines of a family: what it counts, its kind, its samples. -/
def Family.lines (f : Family) : List (List Char) :=
  ("# HELP " ++ f.name ++ " " ++ f.help).toList ::
    ("# TYPE " ++ f.name ++ " " ++ f.kind.name).toList ::
    f.samples.map Sample.line

/-- The text of families. -/
def exposeChars (families : List Family) : List Char :=
  (families.flatMap Family.lines).flatMap (· ++ ['\n'])

/-- The text of everything that a registry exposes. -/
def Registry.text (registry : Registry) : String :=
  match registry.instruments with
  | none => ""
  | some m => String.ofList (exposeChars m.families)

end KafkaCanary
