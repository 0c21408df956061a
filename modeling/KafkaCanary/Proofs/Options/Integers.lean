import KafkaCanary.Program
import KafkaCanary.Proofs.Client.Timeouts
import KafkaCanary.Proofs.Decimal.Integers
import KafkaCanary.Proofs.Options.Arguments
import Mathlib.Algebra.Group.Int.Defs
import Mathlib.Algebra.Group.Nat.Defs

/-!
# Integer options

Three settings are integers: two lengths of time, which are unsigned integers of 64 bits, and the
number of partitions, which is a signed one of 32. A text is accepted for one of them if it writes
an integer of its range, and options have the very integer that it writes, whatever else is on the
command line: what a scan has read for a setting stays (`Scan.Keeps`).

Of the lengths of time, further checks leave those that can be used. The limit for brokers that
passes them is short enough to be told to brokers as it is.

## Main results

* `Setting.readCount_eq_ok_iff`, `Setting.readPartitions_eq_ok_iff`: the texts accepted;
* `Scan.value?_of_readAll`: what is given for a setting stays, whatever follows;
* `Options.exists_scan_of_ofArguments`: options come from what was scanned;
* `Options.requestTimeout_eq_ok_iff`: the limits that can be used;
* `integers_of_command_line`: all of this, up to the frames that the client writes.
-/

namespace KafkaCanary

open Decimal (Natural Whole)

/-! ## Texts of integers -/

namespace Setting

/-- A length of time is accepted if it is written as a natural number of 64 bits. -/
theorem readCount_eq_ok_iff {value : String} {n : UInt64} :
    readCount value = .ok n ↔ Natural value.toList n.toNat := by
  rw [← Decimal.readUInt64_eq_ok_iff, readCount]
  cases Decimal.readUInt64 value <;> simp

/-- A number of partitions is accepted if it is written as an integer of 32 bits. -/
theorem readPartitions_eq_ok_iff {value : String} {n : Int32} :
    readPartitions value = .ok n ↔ Whole value.toList n.toInt := by
  have hmin : Int64.minValue.toInt ≤ Int32.minValue.toInt := by decide
  have hmax : Int32.maxValue.toInt ≤ Int64.maxValue.toInt := by decide
  have hlow := n.minValue_le_toInt
  have hhigh := n.toInt_le
  -- An integer of 32 bits is one of 64, so the reader does not refuse it.
  have hread : Whole value.toList n.toInt ↔ Decimal.readInt64 value = .ok n.toInt := by
    rw [Decimal.readInt64_eq_ok_iff]
    exact ⟨fun h => ⟨h, by omega, by omega⟩, And.left⟩
  rw [hread, readPartitions]
  cases Decimal.readInt64 value with
  | error fault => simp
  | ok z =>
    by_cases hz : Int32.minValue.toInt ≤ z ∧ z ≤ Int32.maxValue.toInt
    · simp only [if_pos hz, Except.ok.injEq]
      constructor
      · rintro rfl
        exact (Int32.toInt_ofInt_of_le hz.1 (Int.lt_add_one_iff.2 hz.2)).symm
      · rintro rfl
        exact n.ofInt_toInt
    · simp only [if_neg hz, reduceCtorEq, Except.ok.injEq, false_iff]
      rintro rfl
      exact hz ⟨hlow, hhigh⟩

/-- Whether a text writes an integer of the range of a setting. -/
def Writes (setting : Setting) (value : String) (z : Int) : Prop :=
  match setting with
  | .reconcileInterval | .requestTimeout => ∃ n : Nat, Natural value.toList n ∧ n < 2 ^ 64 ∧ n = z
  | .partitions => Whole value.toList z ∧ -2 ^ 31 ≤ z ∧ z < 2 ^ 31
  | .bootstrapServers | .topic | .clientId | .latencyBuckets => False

/-- The digits of an integer within its bounds are accepted. -/
theorem Writes.accepts {setting : Setting} {value : String} {z : Int}
    (h : setting.Writes value z) : setting.Accepts value := by
  cases setting with
  | reconcileInterval | requestTimeout =>
    obtain ⟨n, hn, hlt, -⟩ := h
    refine ⟨.ofNat n, readCount_eq_ok_iff.2 ?_⟩
    rwa [UInt64.toNat_ofNat_of_lt' hlt]
  | partitions =>
    obtain ⟨hz, hlow, hhigh⟩ := h
    refine ⟨.ofInt z, readPartitions_eq_ok_iff.2 ?_⟩
    rwa [Int32.toInt_ofInt_of_le hlow hhigh]
  | bootstrapServers | topic | clientId | latencyBuckets => trivial

end Setting

/-! ## What a scan keeps -/

namespace Scan

/-- The values of settings are still there. -/
def Keeps (scan scan' : Scan) : Prop :=
  ∀ setting value, scan.value? setting = some value → scan'.value? setting = some value

/-- A scan keeps what it has. -/
theorem Keeps.refl (scan : Scan) : scan.Keeps scan :=
  fun _ _ h => h

/-- What is kept and kept again is kept. -/
theorem Keeps.trans {scan scan' scan'' : Scan} (h : scan.Keeps scan') (h' : scan'.Keeps scan'') :
    scan.Keeps scan'' := fun setting value hvalue => h' setting value (h setting value hvalue)

variable {scan scan' : Scan}

/-- A value is given only to a setting that has none. -/
theorem of_assign {setting : Setting} {value : String}
    (h : scan.assign setting value = .ok scan') :
    scan.Keeps scan' ∧ scan'.value? setting = some value := by
  unfold assign at h
  split at h
  · cases h
  next hnone =>
    obtain ⟨-, -, rfl⟩ := map_eq_ok_iff.1 h
    refine ⟨fun other text hother => ?_, by simp [value?]⟩
    -- A setting that has a value is not the one that is given its value now.
    have hne : other ≠ setting := by
      rintro rfl
      exact hnone (by rw [hother]; rfl)
    simpa [value?, List.lookup_cons, beq_false_of_ne hne] using hother

/-- A setting that gets its value takes nothing away. -/
theorem keeps_of_settle (h : scan.settle = .ok scan') : scan.Keeps scan' := by
  unfold settle at h
  split at h
  · cases h
    exact .refl _
  · cases h
  · exact (of_assign h).1

/-- A switch takes nothing away. -/
theorem keeps_of_turnOn {switch : Switch} (h : scan.turnOn switch = .ok scan') :
    scan.Keeps scan' := by
  obtain ⟨settled, hsettled, h⟩ := bind_eq_ok_iff.1 h
  refine (keeps_of_settle hsettled).trans ?_
  split at h
  · cases h
  split at h
  · cases h
  · cases h
    exact .refl settled

/-- Several switches take nothing away. -/
theorem keeps_of_turnOnLetters {letters : List Char} (h : scan.turnOnLetters letters = .ok scan') :
    scan.Keeps scan' := by
  induction letters generalizing scan with
  | nil =>
    cases h
    exact .refl _
  | cons c cs ih =>
    rw [turnOnLetters] at h
    split at h
    · cases h
    · obtain ⟨turned, hturned, h⟩ := bind_eq_ok_iff.1 h
      exact (keeps_of_turnOn hturned).trans (ih h)

/-- A name takes nothing away. -/
theorem keeps_of_readLong {name : String} {value : Option String}
    (h : scan.readLong name value = .ok scan') : scan.Keeps scan' := by
  unfold readLong at h
  split at h
  · obtain ⟨settled, hsettled, h⟩ := bind_eq_ok_iff.1 h
    exact (keeps_of_settle hsettled).trans (of_assign h).1
  · obtain ⟨settled, hsettled, rfl⟩ := map_eq_ok_iff.1 h
    exact fun setting value => keeps_of_settle hsettled setting value
  · cases h
  · exact keeps_of_turnOn h
  · cases h

/-- One word takes nothing away. -/
theorem keeps_of_readWord {argument : String} (h : scan.readWord argument = .ok scan') :
    scan.Keeps scan' := by
  unfold readWord at h
  split at h
  · cases h
    exact .refl _
  · cases h

/-- An argument that is read keeps all values, and those behind it are read next. Only a separator
ends the arguments. -/
theorem of_readAll_cons {argument : String} {rest : List String}
    (h : scan.readAll (argument :: rest) = .ok scan') :
    (rest = [] ∧ scan.settle = .ok scan') ∨
      ∃ next, scan.Keeps next ∧ next.readAll rest = .ok scan' := by
  rw [readAll.eq_def] at h
  dsimp only at h
  split at h
  · -- After a separator, any word would be one too many.
    cases rest with
    | nil => exact .inl ⟨rfl, h⟩
    | cons => cases h
  · obtain ⟨next, hnext, h⟩ := bind_eq_ok_iff.1 h
    exact .inr ⟨next, keeps_of_readLong hnext, h⟩
  · obtain ⟨next, hnext, h⟩ := bind_eq_ok_iff.1 h
    exact .inr ⟨next, keeps_of_turnOnLetters hnext, h⟩
  · obtain ⟨next, hnext, h⟩ := bind_eq_ok_iff.1 h
    exact .inr ⟨next, keeps_of_readWord hnext, h⟩

/-- A whole command line takes nothing away, by induction on its words. -/
theorem keeps_of_readAll {arguments : List String} (h : scan.readAll arguments = .ok scan') :
    scan.Keeps scan' := by
  induction arguments generalizing scan with
  | nil =>
    rw [readAll] at h
    exact keeps_of_settle h
  | cons argument rest ih =>
    obtain ⟨-, hsettle⟩ | ⟨next, hkeeps, hnext⟩ := of_readAll_cons h
    · exact keeps_of_settle hsettle
    · exact hkeeps.trans (ih hnext)

/-- What is given for a setting in one argument is its value in the end. -/
theorem value?_of_readAll {setting : Setting} {value : String} {before after : List String}
    (h : scan.readAll (before ++ ("--" ++ setting.name ++ "=" ++ value) :: after) = .ok scan') :
    scan'.value? setting = some value := by
  induction before generalizing scan with
  | nil =>
    rw [List.nil_append, readAll.eq_def] at h
    dsimp only at h
    rw [Argument.ofString_name_value setting.name_toList] at h
    -- The argument assigns the value, and what is read later keeps it.
    obtain ⟨next, hnext, h⟩ := bind_eq_ok_iff.1 h
    unfold readLong at hnext
    rw [Setting.find?_name] at hnext
    obtain ⟨settled, -, hassign⟩ := bind_eq_ok_iff.1 hnext
    exact keeps_of_readAll h setting value (of_assign hassign).2
  | cons argument before ih =>
    obtain ⟨hend, -⟩ | ⟨next, -, hnext⟩ := of_readAll_cons h
    · simp at hend
    · exact ih hnext

variable {environment : Environment}

/-- What has been read for a setting is what the text that stands for it is read as. -/
theorem map_chosen?_of_read {α : Type} {setting : Setting}
    {reader : String → Except ValueFault α} {value : Option α}
    (h : scan.read environment setting reader = .ok value) :
    (scan.chosen? environment setting).map reader = value.map .ok := by
  rw [chosen?]
  unfold read at h
  split at h
  next hnone =>
    cases h
    rw [hnone]
    rfl
  next text htext =>
    rw [htext]
    cases hread : reader text with
    | ok a =>
      rw [hread] at h
      cases h
      simp [hread]
    | error fault =>
      rw [hread] at h
      cases h

end Scan

/-! ## Options and what was scanned -/

namespace Options

/-- Options come from a scan of the arguments, and have for every setting what the text stands for
that the scan leads to. -/
theorem exists_scan_of_ofArguments {arguments : List String} {environment : Environment}
    {o : Options} (h : ofArguments arguments environment = .ok o) :
    ∃ scan, Scan.init.readAll arguments = .ok scan ∧
      ∀ setting, o.Holds setting (scan.chosen? environment setting) := by
  obtain ⟨scan, hscan, h⟩ := bind_eq_ok_iff.1 h
  obtain ⟨interval, hinterval, h⟩ := bind_eq_ok_iff.1 h
  obtain ⟨timeout, htimeout, h⟩ := bind_eq_ok_iff.1 h
  obtain ⟨partitions, hpartitions, h⟩ := bind_eq_ok_iff.1 h
  cases h
  refine ⟨scan, hscan, fun setting => ?_⟩
  cases setting with
  | bootstrapServers | topic | clientId | latencyBuckets => exact Scan.chosen?_eq_text rfl
  | partitions => exact Scan.map_chosen?_of_read hpartitions
  | reconcileInterval =>
    have hread := Scan.map_chosen?_of_read hinterval
    rw [Scan.chosen?_eq_text rfl] at hread ⊢
    cases interval with
    | none => cases hread
    | some n => exact hread
  | requestTimeout =>
    have hread := Scan.map_chosen?_of_read htimeout
    rw [Scan.chosen?_eq_text rfl] at hread ⊢
    cases timeout with
    | none => cases hread
    | some n => exact hread

/-- Options have for a setting what is given for it in one argument, whatever the others are. -/
theorem holds_of_ofArguments {setting : Setting} {value : String} {before after : List String}
    {environment : Environment} {o : Options}
    (h : ofArguments (before ++ ("--" ++ setting.name ++ "=" ++ value) :: after) environment =
      .ok o) : o.Holds setting (some value) := by
  obtain ⟨scan, hscan, hholds⟩ := exists_scan_of_ofArguments h
  have hholds := hholds setting
  rwa [Scan.chosen?, Scan.value?_of_readAll hscan] at hholds

/-- The integer that options have for a setting. -/
def integer? (o : Options) : Setting → Option Int
  | .reconcileInterval => some o.reconcileIntervalMillis.toNat
  | .requestTimeout => some o.requestTimeoutMillis.toNat
  | .partitions => o.partitions.map Int32.toInt
  | .bootstrapServers | .topic | .clientId | .latencyBuckets => none

/-- Options that have for a setting what a text stands for have the integer that it writes. -/
theorem Holds.integer?_eq_iff {o : Options} {setting : Setting} {value : String} {z : Int}
    (h : o.Holds setting (some value)) :
    o.integer? setting = some z ↔ setting.Writes value z := by
  cases setting with
  | reconcileInterval | requestTimeout =>
    have hread := Setting.readCount_eq_ok_iff.1 (Option.some.inj h)
    simp only [integer?, Option.some.injEq, Setting.Writes]
    constructor
    · exact fun hz => ⟨_, hread, UInt64.toNat_lt _, hz⟩
    · rintro ⟨n, hn, -, rfl⟩
      rw [hread.unique hn]
  | partitions =>
    obtain ⟨n, hn, hread⟩ := Option.map_eq_some_iff.1 h.symm
    have hread := Setting.readPartitions_eq_ok_iff.1 hread.symm
    simp only [integer?, hn, Option.map_some, Option.some.injEq, Setting.Writes]
    constructor
    · rintro rfl
      exact ⟨hread, n.le_toInt, n.toInt_lt⟩
    · exact fun hz => hread.unique hz.1
  | bootstrapServers | topic | clientId | latencyBuckets => exact ⟨nofun, nofun⟩

/-- Options that have for a setting of an integer what a text stands for have an integer. -/
theorem Holds.exists_integer {o : Options} {setting : Setting} {value : String}
    (h : o.Holds setting (some value))
    (hsetting : setting ∈ [.reconcileInterval, .requestTimeout, .partitions]) :
    ∃ z, o.integer? setting = some z := by
  cases setting with
  | reconcileInterval | requestTimeout => exact ⟨_, rfl⟩
  | partitions =>
    obtain ⟨n, hn, -⟩ := Option.map_eq_some_iff.1 h.symm
    exact ⟨n.toInt, by rw [integer?, hn]; rfl⟩
  | bootstrapServers | topic | clientId | latencyBuckets => simp at hsetting

end Options

/-! ## Command lines around a setting -/

/-- Nothing is wrong with what else is given on a command line or in the environment, and the
setting is not given there. -/
structure Given.Around (setting : Setting) (before after : List Given)
    (environment : Environment) : Prop where
  proper : ∀ given ∈ before ++ after, given.Proper
  compatible :
    Compatible ((before ++ after).flatMap values) ((before ++ after).flatMap switches)
  free : setting ∉ ((before ++ after).flatMap values).map Prod.fst
  accepted : ∀ other text, other ≠ setting →
    other ∉ ((before ++ after).flatMap values).map Prod.fst →
    environment other.variableName = some text → other.Accepts text

/-- The arguments of what is given, with a setting among them in one argument. -/
def Given.argumentsAround (setting : Setting) (value : String) (before after : List Given) :
    List String :=
  before.flatMap arguments ++ ("--" ++ setting.name ++ "=" ++ value) :: after.flatMap arguments

section Around

variable {setting : Setting} {before after : List Given} {environment : Environment}

/-- Proper options around one that brings its value along are proper all together. -/
theorem Given.Around.proper_joined (h : Around setting before after environment)
    (value : String) : ∀ given ∈ before ++ .joined setting value :: after, given.Proper := by
  intro given hgiven
  rcases List.mem_append.1 hgiven with hmem | hmem
  · exact h.proper given (List.mem_append_left _ hmem)
  rcases List.mem_cons.1 hmem with rfl | hmem
  · trivial
  · exact h.proper given (List.mem_append_right _ hmem)

/-- The values of a command line with one option singled out. -/
theorem Given.flatMap_values_joined (setting : Setting) (value : String)
    (before after : List Given) : ((before ++ .joined setting value :: after).flatMap values).Perm
      ((setting, value) :: (before ++ after).flatMap values) := by
  simp only [List.flatMap_append, List.flatMap_cons]
  exact List.perm_middle

/-- Compatible options around one that is accepted are compatible all together. -/
theorem Given.Around.compatible_joined (h : Around setting before after environment)
    {value : String} (haccepts : setting.Accepts value) :
    Compatible ((before ++ .joined setting value :: after).flatMap values)
      ((before ++ .joined setting value :: after).flatMap switches) := by
  have hswitches : (before ++ .joined setting value :: after).flatMap switches =
      (before ++ after).flatMap switches := by
    simp [switches]
  refine Compatible.perm ⟨?_, h.compatible.switches, ?_⟩
    (flatMap_values_joined setting value before after) (hswitches ▸ .refl _)
  · exact List.nodup_cons.2 ⟨h.free, h.compatible.settings⟩
  · exact List.forall_mem_cons.2 ⟨haccepts, h.compatible.accepted⟩

/-- There are options if the value is accepted and nothing else is wrong. -/
theorem Given.Around.exists_options (h : Around setting before after environment)
    {value : String} (haccepts : setting.Accepts value) :
    ∃ o, Options.ofArguments (argumentsAround setting value before after) environment = .ok o := by
  have hcompatible := h.compatible_joined haccepts
  obtain ⟨scan, hread, hgiven, -⟩ :=
    Scan.exists_readAll_flatMap_arguments (h.proper_joined value) hcompatible
  -- The scan has what was given, the setting among it, in the order of the command line.
  have hkeys (other : Setting) : other ∈ scan.given.map Prod.fst ↔
      other = setting ∨ other ∈ ((before ++ after).flatMap values).map Prod.fst := by
    have hvalues := hgiven.trans (flatMap_values_joined setting value before after)
    rw [(hvalues.map Prod.fst).mem_iff]
    simp
  have hchosen (other : Setting) (text : String)
      (htext : scan.chosen? environment other = some text) : other.Accepts text := by
    refine Scan.accepts_of_chosen? (fun given hmem => ?_) ?_ (fun other text hother => ?_) htext
    · exact hcompatible.accepted given (hgiven.mem_iff.1 hmem)
    · exact (hgiven.map Prod.fst).nodup_iff.2 hcompatible.settings
    · -- What is not given comes from the environment, which was asked for no setting that is.
      rw [hkeys, not_or] at hother
      exact h.accepted other text hother.1 hother.2
  have harguments : (before ++ .joined setting value :: after).flatMap arguments =
      argumentsAround setting value before after := by
    simp [argumentsAround, arguments]
  obtain ⟨o, ho, -⟩ := exists_options_of_scan hread hchosen
  rw [harguments] at ho
  exact ⟨o, ho⟩

end Around

/-! ## Lengths of time that can be used -/

/-- A limit that fits is told to brokers as it is. -/
theorem Duration.toInt_millis32_ofMillis {n : Nat} (h : n ≤ 2147483647) :
    (ofMillis n).millis32.toInt = n := by
  have hlt : (ofMillis n).millis < Int32.size / 2 := by
    rw [millis_ofMillis]
    exact Nat.lt_succ_of_le h
  rw [millis32, if_pos hlt, millis_ofMillis]
  exact Int32.toInt_ofNat_of_lt (Nat.lt_succ_of_le h)

namespace Options

/-- The interval is accepted iff it is positive, and counts milliseconds. -/
theorem reconcileInterval_eq_ok_iff {o : Options} {interval : Period} :
    o.reconcileInterval = .ok interval ↔ 0 < o.reconcileIntervalMillis.toNat ∧
      interval.1 = .ofMillis o.reconcileIntervalMillis.toNat := by
  unfold reconcileInterval
  split
  next hzero => simp [hzero]
  next hpos =>
    rw [Except.ok.injEq, Subtype.ext_iff, eq_comm]
    exact ⟨fun h => ⟨Nat.pos_of_ne_zero hpos, h⟩, And.right⟩

/-- A limit can be used if there is one and it is not too long for brokers to be told. -/
theorem requestTimeout_eq_ok_iff {o : Options} {limit : Duration} :
    o.requestTimeout = .ok limit ↔ (1 ≤ o.requestTimeoutMillis.toNat ∧
      o.requestTimeoutMillis.toNat ≤ 2147483647) ∧
        limit = .ofMillis o.requestTimeoutMillis.toNat := by
  have hrange : (o.requestTimeoutMillis = 0 ∨ 2147483647 < o.requestTimeoutMillis) ↔
      ¬(1 ≤ o.requestTimeoutMillis.toNat ∧ o.requestTimeoutMillis.toNat ≤ 2147483647) := by
    rw [← UInt64.toNat_inj, UInt64.lt_iff_toNat_lt]
    simp only [UInt64.toNat_zero, UInt64.reduceToNat]
    omega
  unfold requestTimeout
  by_cases hfits : 1 ≤ o.requestTimeoutMillis.toNat ∧ o.requestTimeoutMillis.toNat ≤ 2147483647
  · rw [if_neg (mt hrange.1 (not_not.2 hfits)), Except.ok.injEq, eq_comm]
    exact ⟨fun h => ⟨hfits, h⟩, And.right⟩
  · simp [if_pos (hrange.2 hfits), hfits]

/-- The limit that a client is configured with is that of the options. -/
theorem requestTimeout_of_plan {o : Options} {plan : Plan} (h : o.plan = .ok plan) :
    o.requestTimeout = .ok plan.limit := by
  obtain ⟨bounds, -, h⟩ := bind_eq_ok_iff.1 h
  obtain ⟨interval, -, h⟩ := bind_eq_ok_iff.1 h
  obtain ⟨limit, hlimit, h⟩ := bind_eq_ok_iff.1 h
  cases h
  exact hlimit

end Options

/-! ## From the command line to the wire -/

/-- What becomes of an integer that is given on the command line. If nothing else is wrong, options
have it just if the text writes it and it is in the range of its setting, and on no command line at
all do options have another one. Lengths of time have to be positive to be used, and limits short
enough for brokers. A limit that can be used is told to the brokers as it is, in every frame that a
client with it ever writes. -/
theorem integers_of_command_line :
    (∀ setting value z before after environment, Given.Around setting before after environment →
      ((∃ o, Options.ofArguments (Given.argumentsAround setting value before after) environment =
          .ok o ∧ o.integer? setting = some z) ↔ setting.Writes value z)) ∧
    (∀ setting ∈ [Setting.reconcileInterval, .requestTimeout, .partitions],
      ∀ value before after environment o,
        Options.ofArguments (before ++ ("--" ++ setting.name ++ "=" ++ value) :: after)
          environment = .ok o →
        ∃ z, o.integer? setting = some z ∧ setting.Writes value z) ∧
    ∀ o : Options,
      ((∃ interval, o.reconcileInterval = .ok interval) ↔ 0 < o.reconcileIntervalMillis.toNat) ∧
      (∀ interval, o.reconcileInterval = .ok interval →
        interval.1.millis = o.reconcileIntervalMillis.toNat) ∧
      ((∃ limit, o.requestTimeout = .ok limit) ↔
        1 ≤ o.requestTimeoutMillis.toNat ∧ o.requestTimeoutMillis.toNat ≤ 2147483647) ∧
      ∀ limit, o.requestTimeout = .ok limit →
        limit.millis = o.requestTimeoutMillis.toNat ∧
        limit.millis32.toInt = o.requestTimeoutMillis.toNat ∧
        (∀ plan, o.plan = .ok plan → plan.limit = limit) ∧
        ∀ {N : Type} (net : Network N) (config : ClientConfig) (ops : List (Client.Operation N))
          (n : N), config.limit = limit →
          let run := Client.recordedLifetime net config ops n
          (run.1, run.2.network) = Client.lifetime net config ops n ∧
          ∀ id frame result, .wrote id frame result ∈ run.2.acts →
            (∃ request, Client.Frames config request frame ∧ ∀ r, request = .produce r →
              r.timeoutMillis.toInt = o.requestTimeoutMillis.toNat) ∧
            ((frame.drop 4).length ≤ 2147483647 → ∀ header r,
              Request.ofFrame? frame = some (header, .produce r) →
                r.timeoutMillis.toInt = o.requestTimeoutMillis.toNat) := by
  refine ⟨fun setting value z before after environment haround => ⟨?_, fun hwrites => ?_⟩,
    fun setting hsetting value before after environment o ho => ?_,
    fun o => ⟨?_, fun interval h => ?_, ?_, fun limit hlimit => ?_⟩⟩
  · rintro ⟨o, ho, hz⟩
    exact (Options.holds_of_ofArguments ho).integer?_eq_iff.1 hz
  · obtain ⟨o, ho⟩ := haround.exists_options hwrites.accepts
    exact ⟨o, ho, (Options.holds_of_ofArguments ho).integer?_eq_iff.2 hwrites⟩
  · have hholds := Options.holds_of_ofArguments ho
    obtain ⟨z, hz⟩ := hholds.exists_integer hsetting
    exact ⟨z, hz, hholds.integer?_eq_iff.1 hz⟩
  · simp only [Options.reconcileInterval_eq_ok_iff]
    refine ⟨fun ⟨_, hpos, _⟩ => hpos, fun hpos => ⟨⟨.ofMillis _, ?_⟩, hpos, rfl⟩⟩
    rwa [Duration.millis_ofMillis]
  · rw [(Options.reconcileInterval_eq_ok_iff.1 h).2, Duration.millis_ofMillis]
  · simp [Options.requestTimeout_eq_ok_iff]
  · -- The limit is the option's number, which fits the 32 bits that a request has for it.
    obtain ⟨⟨-, hfits⟩, rfl⟩ := Options.requestTimeout_eq_ok_iff.1 hlimit
    have htold := Duration.toInt_millis32_ofMillis hfits
    refine ⟨Duration.millis_ofMillis _, htold, fun plan hplan => ?_,
      fun net config ops n hconfig => ⟨Client.base_lifetime net config ops n, ?_⟩⟩
    · exact Except.ok.inj ((Options.requestTimeout_of_plan hplan).symm.trans hlimit)
    · intro id frame result hwrote
      obtain ⟨request, hframe, htells⟩ :=
        Client.tells_of_recordedLifetime net config ops n id frame result hwrote
      refine ⟨⟨request, hframe, ?_⟩, fun hlength header r hread => ?_⟩
      · rintro r rfl
        rw [htells, hconfig, htold]
      · rw [Client.timeoutMillis_of_recordedLifetime net config ops n hwrote hlength hread, hconfig,
          htold]

/-- The produce request that an act writes, with its header, if its frame is not too long to be
read. -/
def producedIn? (act : Act) : Option (RequestHeader × ProduceRequest) :=
  match act with
  | .wrote _ frame _ =>
    match Request.ofFrame? frame with
    | some (header, .produce r) =>
      if (frame.drop 4).length ≤ 2147483647 then some (header, r) else none
    | _ => none
  | _ => none

/-- A produce request that was sent stands in a frame that was written. -/
theorem exists_of_producedIn? {act : Act} {header : RequestHeader} {r : ProduceRequest}
    (h : producedIn? act = some (header, r)) : ∃ id frame result, act = .wrote id frame result ∧
      (frame.drop 4).length ≤ 2147483647 ∧ Request.ofFrame? frame = some (header, .produce r) := by
  cases act with
  | wrote id frame result =>
    rw [producedIn?] at h
    split at h
    · next hread =>
      obtain ⟨hlength, heq⟩ := Option.ite_none_right_eq_some.1 h
      cases heq
      exact ⟨id, frame, result, rfl, hlength, hread⟩
    · cases h
  | reported | dialled | received | shut => cases h

/-- A limit with a sign and more leading zeros than digits fit, which a broker is told, and one that
is too large by one. -/
theorem integers_of_command_line_with_leading_zeros :
    let environment : Environment := fun _ => none
    let config : ClientConfig := ⟨["b:1"], "c", .ofMillis 250⟩
    let run := Client.recordedLifetime Cluster.network config [.refresh "t", .send "t" 0 [1]]
      Cluster.moving
    (∃ o, Options.ofArguments
        ["-q", "--request-timeout-ms=+000000000000000000000250", "--topic", "t"] environment =
          .ok o ∧
      o.integer? .requestTimeout = some 250 ∧
      o.requestTimeout = .ok config.limit ∧
      ∃ id frame result header r, .wrote id frame result ∈ run.2.acts ∧
        Request.ofFrame? frame = some (header, .produce r) ∧ r.timeoutMillis.toInt = 250) ∧
    ∀ o, Options.ofArguments ["--request-timeout-ms=18446744073709551616"] environment ≠ .ok o := by
  intro environment config run
  obtain ⟨haccepted, hdenoted, husable⟩ := integers_of_command_line
  have haround : Given.Around .requestTimeout [.lettered .quiet 'q'] [.apart .topic "t"]
      environment := by
    refine ⟨?_, ⟨by decide, by decide, ?_⟩, by decide, nofun⟩
    · simp [Given.Proper, Switch.letter?]
    · simp [Given.values, Setting.Accepts]
  have hwrites : Setting.requestTimeout.Writes "+000000000000000000000250" 250 :=
    ⟨250, .plus ⟨by decide, List.all_eq_true.1 rfl⟩, by decide, rfl⟩
  obtain ⟨o, ho, hinteger⟩ := (haccepted _ _ _ _ _ _ haround).2 hwrites
  have hmillis : o.requestTimeoutMillis.toNat = 250 := Int.ofNat.inj (Option.some.inj hinteger)
  obtain ⟨-, -, hiff, hlimit⟩ := husable o
  obtain ⟨limit, hok⟩ := hiff.2 (by omega)
  obtain rfl : limit = config.limit := by
    rw [(Options.requestTimeout_eq_ok_iff.1 hok).2, hmillis]
  obtain ⟨-, -, -, hwire⟩ := hlimit _ hok
  obtain ⟨-, htold⟩ :=
    hwire Cluster.network config [.refresh "t", .send "t" 0 [1]] Cluster.moving rfl
  have hproduced : run.2.acts.any (producedIn? · |>.isSome) := by decide +kernel
  refine ⟨⟨o, ho, hinteger, hok, ?_⟩, fun o ho => ?_⟩
  · obtain ⟨act, hmem, hact⟩ := List.any_eq_true.1 hproduced
    obtain ⟨⟨header, r⟩, hact⟩ := Option.isSome_iff_exists.1 hact
    obtain ⟨id, frame, result, rfl, hlength, hread⟩ := exists_of_producedIn? hact
    refine ⟨id, frame, result, header, r, hmem, hread, ?_⟩
    rw [(htold id frame result hmem).2 hlength header r hread, hmillis]
    rfl
  · obtain ⟨z, -, n, hn, hlt, -⟩ :=
      hdenoted .requestTimeout (by simp) "18446744073709551616" [] [] environment o ho
    have hlarge : Natural "18446744073709551616".toList 18446744073709551616 :=
      .plain ⟨by decide, List.all_eq_true.1 rfl⟩
    rw [hn.unique hlarge] at hlt
    omega

end KafkaCanary
