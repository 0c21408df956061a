import KafkaCanary.Options.Reader
import KafkaCanary.Proofs.Text.Separators

/-!
# Options from the command line

What a command line says does not depend on the order in which settings and switches are given, nor
on the forms in which they are written. A scan of the arguments knows the values of the settings
that it has passed, the last of which it may not have checked yet (`Scan.values?`): what is given
next adds to them (`Scan.exists_readAll_arguments_append`), and the end of the arguments checks the
last one.

## Main results

* `Scan.exists_readAll_flatMap_arguments`: what the scan of a command line ends in;
* `Options.Holds.eq`: options are determined by what their settings stand for;
* `options_of_command_line`: where the value of every setting comes from.
-/

namespace KafkaCanary

/-! ## What can be given -/

/-- Something that is given on a command line, and the form in which it is written. -/
inductive Given where
  /-- A setting and its value in one argument, with an equals sign between them. -/
  | joined (setting : Setting) (value : String)
  /-- A setting and its value in two arguments. -/
  | apart (setting : Setting) (value : String)
  /-- A switch by its name. -/
  | switched (switch : Switch)
  /-- A switch by its letter. -/
  | lettered (switch : Switch) (letter : Char)

/-- Whether a text can be the value of a setting. -/
def Setting.Accepts : Setting → String → Prop
  | .reconcileInterval, value | .requestTimeout, value => ∃ n, readCount value = .ok n
  | .partitions, value => ∃ n, readPartitions value = .ok n
  | _, _ => True

namespace Given

/-- How it is written. -/
def arguments : Given → List String
  | joined setting value => ["--" ++ setting.name ++ "=" ++ value]
  | apart setting value => ["--" ++ setting.name, value]
  | switched switch => ["--" ++ switch.name]
  | lettered _ letter => [String.ofList ['-', letter]]

/-- The value that it gives to a setting. -/
def values : Given → List (Setting × String)
  | joined setting value | apart setting value => [(setting, value)]
  | switched _ | lettered _ _ => []

/-- The switch that it turns on. -/
def switches : Given → List Switch
  | joined _ _ | apart _ _ => []
  | switched switch | lettered switch _ => [switch]

/-- Whether it can be written in its form. A value that looks like a switch has to stand in the
argument of its setting. -/
def Proper : Given → Prop
  | joined _ _ => True
  | apart _ value => value = "-" ∨ value.toList.head? ≠ some '-'
  | switched switch => switch ≠ .help
  | lettered switch letter => switch ≠ .help ∧ switch.letter? = some letter

/-- What can be given together: no setting twice and no switch twice, and only values that the
settings accept. -/
structure Compatible (values : List (Setting × String)) (switches : List Switch) : Prop where
  settings : (values.map Prod.fst).Nodup
  switches : switches.Nodup
  accepted : ∀ entry ∈ values, entry.1.Accepts entry.2

/-- Compatible options are so in any order. -/
theorem Compatible.perm {values values' : List (Setting × String)}
    {switches switches' : List Switch} (h : Compatible values switches)
    (hvalues : values'.Perm values) (hswitches : switches'.Perm switches) :
    Compatible values' switches' where
  settings := (hvalues.map Prod.fst).nodup_iff.2 h.settings
  switches := hswitches.nodup_iff.2 h.switches
  accepted entry hentry := h.accepted entry (hvalues.mem_iff.1 hentry)

/-- Some of compatible options are compatible. -/
theorem Compatible.of_append {values values' : List (Setting × String)}
    {switches switches' : List Switch}
    (h : Compatible (values' ++ values) (switches' ++ switches)) : Compatible values switches where
  settings := h.settings.sublist ((List.sublist_append_right _ _).map Prod.fst)
  switches := h.switches.sublist (List.sublist_append_right _ _)
  accepted entry hentry := h.accepted entry (List.mem_append_right _ hentry)

end Given

/-- A value that is accepted passes its check. -/
theorem Setting.check_eq_ok {setting : Setting} {value : String} (h : setting.Accepts value) :
    setting.check value = .ok () := by
  cases setting with
  | reconcileInterval | requestTimeout | partitions =>
    obtain ⟨n, hn⟩ := h
    rw [check, hn]
  | bootstrapServers | topic | clientId | latencyBuckets => rfl

/-- A default can be the value of its setting. -/
theorem Setting.accepts_default {setting : Setting} {default : String}
    (h : setting.default? = some default) : setting.Accepts default := by
  cases setting with
  | reconcileInterval =>
    cases h
    exact ⟨30000, by decide +kernel⟩
  | requestTimeout =>
    cases h
    exact ⟨10000, by decide +kernel⟩
  | partitions => cases h
  | bootstrapServers | topic | clientId | latencyBuckets => trivial

/-! ## The form of an argument -/

section Names

/-- The name of a setting can be told from its value. -/
theorem Setting.name_toList (setting : Setting) :
    setting.name.toList ≠ [] ∧ '=' ∉ setting.name.toList := by
  cases setting <;> decide

/-- The name of a switch can be told from a value. -/
theorem Switch.name_toList (switch : Switch) :
    switch.name.toList ≠ [] ∧ '=' ∉ switch.name.toList := by
  cases switch <;> decide

/-- A setting is found by its name. -/
theorem Setting.find?_name (setting : Setting) :
    Setting.all.find? (·.name = setting.name) = some setting := by
  cases setting <;> rfl

/-- The name of a switch is the name of no setting. -/
theorem Setting.find?_name_switch (switch : Switch) :
    Setting.all.find? (·.name = switch.name) = none := by
  cases switch <;> rfl

/-- A switch is found by its name. -/
theorem Switch.find?_name (switch : Switch) :
    Switch.all.find? (·.name = switch.name) = some switch := by
  cases switch <;> rfl

/-- A switch is found by its letter. -/
theorem Switch.find?_letter {switch : Switch} {letter : Char} (h : switch.letter? = some letter) :
    Switch.all.find? (·.letter? = some letter) = some switch := by
  cases switch with
  | printMetrics => cases h
  | quiet | help =>
    cases h
    rfl

/-- No letter of a switch is a dash. -/
theorem Switch.letter_ne_dash {switch : Switch} {letter : Char}
    (h : switch.letter? = some letter) : letter ≠ '-' := by
  cases switch with
  | printMetrics => cases h
  | quiet | help =>
    cases h
    decide

end Names

namespace Argument

/-- An argument with two dashes is a name, up to its first equals sign. -/
theorem ofString_dashes {argument : String} {cs : List Char}
    (h : argument.toList = '-' :: '-' :: cs) (hcs : cs ≠ []) :
    ofString argument = .long (String.ofList (cs.takeWhile (· ≠ '='))) (valueAfterSign cs) := by
  obtain ⟨c, cs, rfl⟩ := List.exists_cons_of_ne_nil hcs
  rw [ofString, h]
  rfl

/-- A name alone is an argument without a value. -/
theorem ofString_name {name : String} (hname : name.toList ≠ [] ∧ '=' ∉ name.toList) :
    ofString ("--" ++ name) = .long name none := by
  obtain ⟨hne, hsign⟩ := hname
  rw [ofString_dashes (String.toList_append ..) hne, valueAfterSign,
    takeWhile_ne_of_not_mem hsign, dropWhile_ne_of_not_mem hsign, String.ofList_toList]

/-- A name may bring its value along. -/
theorem ofString_name_value {name : String} (hname : name.toList ≠ [] ∧ '=' ∉ name.toList)
    (value : String) : ofString ("--" ++ name ++ "=" ++ value) = .long name (some value) := by
  obtain ⟨hne, hsign⟩ := hname
  have hlist : ("--" ++ name ++ "=" ++ value).toList =
      '-' :: '-' :: (name.toList ++ '=' :: value.toList) := by
    simp
  -- The name has no equals sign, so that the first one is that before the value.
  rw [ofString_dashes hlist (List.append_ne_nil_of_left_ne_nil hne _), valueAfterSign,
    takeWhile_ne_append_cons hsign, dropWhile_ne_append_cons hsign, String.ofList_toList]
  simp

/-- A letter alone is one switch. -/
theorem ofString_letter {letter : Char} (h : letter ≠ '-') :
    ofString (String.ofList ['-', letter]) = .letters [letter] := by
  rw [ofString, String.toList_ofList]
  split <;> simp_all

/-- A value that does not look like a switch is a word. -/
theorem ofString_word {value : String} (h : value = "-" ∨ value.toList.head? ≠ some '-') :
    ofString value = .word := by
  rcases h with rfl | h
  · rfl
  · rw [ofString]
    split <;> simp_all

end Argument

/-! ## Scans -/

namespace Scan

/-- The values of the settings that have been passed, unless the last one still awaits its value. -/
def values? (scan : Scan) : Option (List (Setting × String)) :=
  match scan.pending with
  | none => some scan.given
  | some ⟨setting, value⟩ => value.map fun value => (setting, value) :: scan.given

variable {scan : Scan} {values : List (Setting × String)}

/-- A setting that was not given has no value. -/
theorem value?_eq_none_iff {setting : Setting} :
    scan.value? setting = none ↔ setting ∉ scan.given.map Prod.fst := by
  rw [value?, List.lookup_eq_none_iff]
  grind

/-- A setting that was given once has that value. -/
theorem value?_eq_some {setting : Setting} {value : String}
    (hsettings : (scan.given.map Prod.fst).Nodup) (h : (setting, value) ∈ scan.given) :
    scan.value? setting = some value := by
  obtain ⟨before, after, hgiven⟩ := List.append_of_mem h
  rw [hgiven, List.map_append, List.map_cons, List.nodup_append] at hsettings
  refine List.lookup_eq_some_iff.2 ⟨before, after, hgiven, fun entry hentry => bne_iff_ne.2 ?_⟩
  exact (hsettings.2.2 _ (List.mem_map_of_mem hentry) _ List.mem_cons_self).symm

/-- A value that is accepted is given to its setting. -/
theorem assign_eq {setting : Setting} {value : String}
    (hnew : setting ∉ scan.given.map Prod.fst) (haccepts : setting.Accepts value) :
    scan.assign setting value = .ok { scan with given := (setting, value) :: scan.given } := by
  rw [assign, value?_eq_none_iff.2 hnew, Setting.check_eq_ok haccepts]
  rfl

/-- The setting that was passed last is given its value. -/
theorem settle_eq (h : scan.values? = some values)
    (hcompatible : Given.Compatible values scan.switches) :
    scan.settle = .ok ⟨values, none, scan.switches⟩ := by
  obtain ⟨given, _ | ⟨setting, _ | value⟩, switches⟩ := scan
  · cases h
    rfl
  · cases h
  · cases h
    exact assign_eq (List.nodup_cons.1 hcompatible.settings).1
      (hcompatible.accepted _ List.mem_cons_self)

/-- A switch that is not on is turned on. -/
theorem turnOn_eq (hsettle : scan.settle = .ok ⟨values, none, scan.switches⟩) {switch : Switch}
    (hhelp : switch ≠ .help) (hnew : switch ∉ scan.switches) :
    scan.turnOn switch = .ok ⟨values, none, switch :: scan.switches⟩ := by
  rw [turnOn, hsettle]
  show (if switch = .help then _ else if switch ∈ scan.switches then _ else _) = _
  rw [if_neg hhelp, if_neg hnew]
  rfl

/-- After a name the scan goes on with what it has read. -/
theorem readAll_of_long {argument name : String} {value : Option String} {scan' : Scan}
    (hargument : Argument.ofString argument = .long name value)
    (hread : scan.readLong name value = .ok scan') (rest : List String) :
    scan.readAll (argument :: rest) = scan'.readAll rest := by
  rw [readAll.eq_def]
  dsimp only
  rw [hargument]
  dsimp only
  rw [hread]
  rfl

/-- What is given next adds to what has been passed. -/
theorem exists_readAll_arguments_append (h : scan.values? = some values) {given : Given}
    (hproper : given.Proper)
    (hcompatible : Given.Compatible (given.values ++ values) (given.switches ++ scan.switches)) :
    ∃ scan' : Scan, scan'.values? = some (given.values ++ values) ∧
      scan'.switches = given.switches ++ scan.switches ∧
      ∀ rest, scan.readAll (given.arguments ++ rest) = scan'.readAll rest := by
  have hsettle := settle_eq h hcompatible.of_append
  cases given with
  | joined setting value =>
    refine ⟨⟨(setting, value) :: values, none, scan.switches⟩, rfl, rfl,
      readAll_of_long (Argument.ofString_name_value setting.name_toList value) ?_⟩
    unfold readLong
    rw [Setting.find?_name, hsettle]
    exact assign_eq (List.nodup_cons.1 hcompatible.settings).1
      (hcompatible.accepted _ List.mem_cons_self)
  | apart setting value =>
    -- The value is checked only when the next setting or switch comes.
    refine ⟨⟨values, some ⟨setting, some value⟩, scan.switches⟩, rfl, rfl, fun rest => ?_⟩
    have hread : scan.readLong setting.name none =
        .ok ⟨values, some ⟨setting, none⟩, scan.switches⟩ := by
      unfold readLong
      rw [Setting.find?_name, hsettle]
      rfl
    refine (readAll_of_long (Argument.ofString_name setting.name_toList) hread _).trans ?_
    show readAll _ (value :: rest) = _
    rw [readAll.eq_def]
    dsimp only
    rw [Argument.ofString_word hproper]
    rfl
  | switched switch =>
    refine ⟨⟨values, none, switch :: scan.switches⟩, rfl, rfl,
      readAll_of_long (Argument.ofString_name switch.name_toList) ?_⟩
    unfold readLong
    rw [Setting.find?_name_switch, Switch.find?_name]
    exact turnOn_eq hsettle hproper (List.nodup_cons.1 hcompatible.switches).1
  | lettered switch letter =>
    obtain ⟨hhelp, hletter⟩ := hproper
    refine ⟨⟨values, none, switch :: scan.switches⟩, rfl, rfl, fun rest => ?_⟩
    have hread : scan.turnOnLetters [letter] = .ok ⟨values, none, switch :: scan.switches⟩ := by
      rw [turnOnLetters, Switch.find?_letter hletter]
      dsimp only
      rw [turnOn_eq hsettle hhelp (List.nodup_cons.1 hcompatible.switches).1]
      rfl
    rw [Given.arguments, List.singleton_append, readAll.eq_def]
    dsimp only
    rw [Argument.ofString_letter (Switch.letter_ne_dash hletter)]
    dsimp only
    rw [hread]
    rfl

/-- What is given next adds up. -/
theorem exists_readAll_flatMap_arguments_append (h : scan.values? = some values)
    {givens : List Given} (hproper : ∀ given ∈ givens, given.Proper)
    (hcompatible : Given.Compatible (givens.flatMap Given.values ++ values)
      (givens.flatMap Given.switches ++ scan.switches)) :
    ∃ scan' : Scan, scan.readAll (givens.flatMap Given.arguments) = .ok scan' ∧
      scan'.given.Perm (givens.flatMap Given.values ++ values) ∧
      scan'.switches.Perm (givens.flatMap Given.switches ++ scan.switches) := by
  induction givens generalizing scan values with
  | nil => exact ⟨_, settle_eq h hcompatible, .refl _, .refl _⟩
  | cons given givens ih =>
    obtain ⟨hgiven, hrest⟩ := List.forall_mem_cons.1 hproper
    simp only [List.flatMap_cons] at hcompatible ⊢
    -- The scan takes the values in the order in which they come, the latest one in front.
    have hvalues : (givens.flatMap Given.values ++ (given.values ++ values)).Perm
        (given.values ++ givens.flatMap Given.values ++ values) := by
      rw [← List.append_assoc]
      exact List.perm_append_comm.append_right _
    have hswitches : (givens.flatMap Given.switches ++ (given.switches ++ scan.switches)).Perm
        (given.switches ++ givens.flatMap Given.switches ++ scan.switches) := by
      rw [← List.append_assoc]
      exact List.perm_append_comm.append_right _
    have hall := hcompatible.perm hvalues hswitches
    obtain ⟨scan', hvalues', hswitches', hread⟩ :=
      exists_readAll_arguments_append h hgiven hall.of_append
    rw [← hswitches'] at hall hswitches
    obtain ⟨last, hlast, hgivens, hturned⟩ := ih hvalues' hrest hall
    exact ⟨last, (hread _).trans hlast, hgivens.trans hvalues, hturned.trans hswitches⟩

/-- What is given on a command line is what the scan of its arguments ends with. -/
theorem exists_readAll_flatMap_arguments {givens : List Given}
    (hproper : ∀ given ∈ givens, given.Proper)
    (hcompatible :
      Given.Compatible (givens.flatMap Given.values) (givens.flatMap Given.switches)) :
    ∃ scan : Scan, init.readAll (givens.flatMap Given.arguments) = .ok scan ∧
      scan.given.Perm (givens.flatMap Given.values) ∧
      scan.switches.Perm (givens.flatMap Given.switches) := by
  have hinit : init.values? = some [] := rfl
  have hread := exists_readAll_flatMap_arguments_append hinit hproper
  simp only [init, List.append_nil] at hread
  exact hread hcompatible

/-- The text that stands for the value of a setting: the one given, or else that of its
environment variable, or else its default. -/
def chosen? (scan : Scan) (environment : Environment) (setting : Setting) : Option String :=
  ((scan.value? setting).or (environment setting.variableName)).or setting.default?

variable {environment : Environment} {setting : Setting}

/-- What is given wins over the environment and the default. -/
theorem chosen?_of_mem {text : String} (hsettings : (scan.given.map Prod.fst).Nodup)
    (h : (setting, text) ∈ scan.given) : scan.chosen? environment setting = some text := by
  rw [chosen?, value?_eq_some hsettings h]
  rfl

/-- What is not given comes from the environment, else from the default. -/
theorem chosen?_of_not_mem (h : setting ∉ scan.given.map Prod.fst) :
    scan.chosen? environment setting =
      (environment setting.variableName).or setting.default? := by
  rw [chosen?, value?_eq_none_iff.2 h]
  rfl

/-- The environment matters only for settings that are not given, and the order in which the others
are given does not matter. -/
theorem chosen?_congr {scan' : Scan} {environment' : Environment}
    (hgiven : scan'.given.Perm scan.given) (hsettings : (scan.given.map Prod.fst).Nodup)
    (henvironment : ∀ setting, setting ∉ scan.given.map Prod.fst →
      environment' setting.variableName = environment setting.variableName) :
    scan'.chosen? environment' setting = scan.chosen? environment setting := by
  have hkeys := hgiven.map Prod.fst
  by_cases h : setting ∈ scan.given.map Prod.fst
  · obtain ⟨⟨_, text⟩, hmem, rfl⟩ := List.mem_map.1 h
    rw [chosen?_of_mem hsettings hmem,
      chosen?_of_mem (hkeys.nodup_iff.2 hsettings) (hgiven.mem_iff.2 hmem)]
  · rw [chosen?_of_not_mem h, chosen?_of_not_mem fun h' => h (hkeys.mem_iff.1 h'),
      henvironment setting h]

/-- The text that stands for the value of a setting can be its value. -/
theorem accepts_of_chosen? {text : String} (hgiven : ∀ given ∈ scan.given, given.1.Accepts given.2)
    (hsettings : (scan.given.map Prod.fst).Nodup)
    (henvironment : ∀ setting value, setting ∉ scan.given.map Prod.fst →
      environment setting.variableName = some value → setting.Accepts value)
    (h : scan.chosen? environment setting = some text) : setting.Accepts text := by
  by_cases hmem : setting ∈ scan.given.map Prod.fst
  · obtain ⟨⟨_, value⟩, hvalue, rfl⟩ := List.mem_map.1 hmem
    rw [chosen?_of_mem hsettings hvalue] at h
    cases h
    exact hgiven _ hvalue
  rw [chosen?_of_not_mem hmem] at h
  rcases hvalue : environment setting.variableName with _ | value
  · rw [hvalue] at h
    exact Setting.accepts_default h
  · rw [hvalue] at h
    obtain rfl := Option.some.inj h
    exact henvironment setting value hmem hvalue

/-- A setting with a default has a text in any case. -/
theorem chosen?_eq_text {default : String} (h : setting.default? = some default) :
    scan.chosen? environment setting = some (scan.text environment setting) := by
  rw [chosen?, text, h]
  cases (scan.value? setting).or (environment setting.variableName) <;> rfl

/-- A value is read if the text that stands for it can be. -/
theorem exists_read (setting : Setting) {α : Type} {reader : String → Except ValueFault α}
    (h : ∀ text, scan.chosen? environment setting = some text → ∃ a, reader text = .ok a) :
    ∃ value, scan.read environment setting reader = .ok value ∧
      (scan.chosen? environment setting).map reader = value.map .ok := by
  rcases hchosen : scan.chosen? environment setting with _ | text
  · refine ⟨none, ?_, rfl⟩
    rw [chosen?] at hchosen
    rw [read, hchosen]
  · obtain ⟨a, ha⟩ := h text hchosen
    refine ⟨some a, ?_, congrArg some ha⟩
    rw [chosen?] at hchosen
    rw [read, hchosen]
    dsimp only
    rw [ha]

/-- A value with a default is read if the text that stands for it can be. -/
theorem exists_read_of_default (setting : Setting) {default : String} {α : Type}
    {reader : String → Except ValueFault α} (hdefault : setting.default? = some default)
    (h : ∀ text, scan.chosen? environment setting = some text → ∃ a, reader text = .ok a) :
    ∃ a, scan.read environment setting reader = .ok (some a) ∧
      (scan.chosen? environment setting).map reader = some (.ok a) := by
  obtain ⟨value, hread, hvalue⟩ := exists_read setting h
  rw [chosen?_eq_text hdefault] at hvalue ⊢
  cases value with
  | none => cases hvalue
  | some a => exact ⟨a, hread, hvalue⟩

end Scan

/-! ## What options stand for -/

/-- Whether the value of a setting is what a text stands for. Without a text there is no value. -/
def Options.Holds (o : Options) : Setting → Option String → Prop
  | .bootstrapServers, text => text = some o.bootstrapServers
  | .topic, text => text = some o.topic
  | .clientId, text => text = some o.clientId
  | .latencyBuckets, text => text = some o.latencyBuckets
  | .reconcileInterval, text => text.map Setting.readCount = some (.ok o.reconcileIntervalMillis)
  | .requestTimeout, text => text.map Setting.readCount = some (.ok o.requestTimeoutMillis)
  | .partitions, text => text.map Setting.readPartitions = o.partitions.map .ok

attribute [ext] Options

/-- Options are determined by what their settings stand for and by what is switched on. -/
theorem Options.Holds.eq {o o' : Options} (texts : Setting → Option String)
    (h : ∀ setting, o.Holds setting (texts setting))
    (h' : ∀ setting, o'.Holds setting (texts setting))
    (hmetrics : o.printMetrics = o'.printMetrics) (hquiet : o.quiet = o'.quiet) : o = o' := by
  have hpartitions : o.partitions.map Except.ok = o'.partitions.map (.ok (ε := ValueFault)) :=
    (h .partitions).symm.trans (h' .partitions)
  refine Options.ext ?_ ?_ ?_ ?_ ?_ ?_ ?_ hmetrics hquiet
  · exact Option.some.inj ((h .bootstrapServers).symm.trans (h' .bootstrapServers))
  · exact Option.some.inj ((h .topic).symm.trans (h' .topic))
  · exact Option.some.inj ((h .clientId).symm.trans (h' .clientId))
  · exact Option.some.inj ((h .latencyBuckets).symm.trans (h' .latencyBuckets))
  · have hinterval := (h .reconcileInterval).symm.trans (h' .reconcileInterval)
    exact Except.ok.inj (Option.some.inj hinterval)
  · have htimeout := (h .requestTimeout).symm.trans (h' .requestTimeout)
    exact Except.ok.inj (Option.some.inj htimeout)
  · exact Option.map_injective (fun _ _ => Except.ok.inj) hpartitions

/-- Options can be had from every scan of which the texts chosen are accepted. -/
theorem exists_options_of_scan {arguments : List String} {scan : Scan}
    {environment : Environment} (hread : Scan.init.readAll arguments = .ok scan)
    (haccepts : ∀ setting text, scan.chosen? environment setting = some text →
      setting.Accepts text) :
    ∃ o, Options.ofArguments arguments environment = .ok o ∧
      (∀ setting, o.Holds setting (scan.chosen? environment setting)) ∧
      (o.printMetrics = true ↔ .printMetrics ∈ scan.switches) ∧
      (o.quiet = true ↔ .quiet ∈ scan.switches) := by
  obtain ⟨interval, hinterval, hintervalText⟩ :=
    Scan.exists_read_of_default .reconcileInterval rfl (haccepts .reconcileInterval)
  obtain ⟨timeout, htimeout, htimeoutText⟩ :=
    Scan.exists_read_of_default .requestTimeout rfl (haccepts .requestTimeout)
  obtain ⟨partitions, hpartitions, hpartitionsText⟩ :=
    Scan.exists_read .partitions (haccepts .partitions)
  -- Each of the options is read from the text that was chosen for it.
  let o : Options := {
    bootstrapServers := scan.text environment .bootstrapServers
    topic := scan.text environment .topic
    clientId := scan.text environment .clientId
    latencyBuckets := scan.text environment .latencyBuckets
    reconcileIntervalMillis := interval
    requestTimeoutMillis := timeout
    partitions := partitions
    printMetrics := scan.switches.contains .printMetrics
    quiet := scan.switches.contains .quiet }
  refine ⟨o, ?_, fun setting => ?_, List.contains_iff_mem, List.contains_iff_mem⟩
  · simp only [Options.ofArguments, hread, hinterval, htimeout, hpartitions, bind, Except.bind]
    rfl
  · cases setting with
    | reconcileInterval => exact hintervalText
    | requestTimeout => exact htimeoutText
    | partitions => exact hpartitionsText
    | bootstrapServers | topic | clientId | latencyBuckets => exact Scan.chosen?_eq_text rfl

/-- What a command line of compatible things stands for, and where the value of every setting comes
from: from the command line if it is given there, or else from the environment, or else from the
default. The order, the forms, and the environment variables of settings that are given do not
matter, not even if these have values that are not accepted. -/
theorem options_of_command_line (givens : List Given) (environment : Environment)
    (hproper : ∀ given ∈ givens, given.Proper)
    (hcompatible : Given.Compatible (givens.flatMap Given.values) (givens.flatMap Given.switches))
    (henvironment : ∀ setting value, setting ∉ (givens.flatMap Given.values).map Prod.fst →
      environment setting.variableName = some value → setting.Accepts value) :
    ∃ o, Options.ofArguments (givens.flatMap Given.arguments) environment = .ok o ∧
      (∀ setting value, (setting, value) ∈ givens.flatMap Given.values →
        o.Holds setting (some value)) ∧
      (∀ setting, setting ∉ (givens.flatMap Given.values).map Prod.fst →
        o.Holds setting ((environment setting.variableName).or setting.default?)) ∧
      (o.printMetrics = true ↔ .printMetrics ∈ givens.flatMap Given.switches) ∧
      (o.quiet = true ↔ .quiet ∈ givens.flatMap Given.switches) ∧
      ∀ (givens' : List Given) (environment' : Environment), (∀ given ∈ givens', given.Proper) →
        (givens'.flatMap Given.values).Perm (givens.flatMap Given.values) →
        (givens'.flatMap Given.switches).Perm (givens.flatMap Given.switches) →
        (∀ setting, setting ∉ (givens.flatMap Given.values).map Prod.fst →
          environment' setting.variableName = environment setting.variableName) →
        Options.ofArguments (givens'.flatMap Given.arguments) environment' = .ok o := by
  obtain ⟨scan, hread, hgiven, hswitches⟩ :=
    Scan.exists_readAll_flatMap_arguments hproper hcompatible
  have hkeys : ∀ setting, setting ∈ scan.given.map Prod.fst ↔
      setting ∈ (givens.flatMap Given.values).map Prod.fst := fun _ =>
    (hgiven.map Prod.fst).mem_iff
  have hsettings : (scan.given.map Prod.fst).Nodup :=
    (hgiven.map Prod.fst).nodup_iff.2 hcompatible.settings
  have haccepts : ∀ setting text, scan.chosen? environment setting = some text →
      setting.Accepts text := fun _ _ =>
    Scan.accepts_of_chosen? (fun _ hmem => hcompatible.accepted _ (hgiven.mem_iff.1 hmem)) hsettings
      fun setting value hmem => henvironment setting value fun h => hmem ((hkeys setting).2 h)
  obtain ⟨o, ho, hholds, hmetrics, hquiet⟩ := exists_options_of_scan hread haccepts
  refine ⟨o, ho, fun setting value hvalue => ?_, fun setting hmem => ?_,
    hmetrics.trans hswitches.mem_iff, hquiet.trans hswitches.mem_iff, ?_⟩
  · have hchosen := hholds setting
    rwa [Scan.chosen?_of_mem hsettings (hgiven.mem_iff.2 hvalue)] at hchosen
  · have hchosen := hholds setting
    rwa [Scan.chosen?_of_not_mem fun h => hmem ((hkeys setting).1 h)] at hchosen
  intro givens' environment' hproper' hvalues hturned hothers
  -- The other command line leads to a scan of which the same texts are chosen.
  obtain ⟨scan', hread', hgiven', hswitches'⟩ :=
    Scan.exists_readAll_flatMap_arguments hproper' (hcompatible.perm hvalues hturned)
  have hchosen : scan'.chosen? environment' = scan.chosen? environment := funext fun _ =>
    Scan.chosen?_congr ((hgiven'.trans hvalues).trans hgiven.symm) hsettings fun setting hmem =>
      hothers setting fun h => hmem ((hkeys setting).2 h)
  have hon : scan'.switches.Perm scan.switches := (hswitches'.trans hturned).trans hswitches.symm
  rw [← hchosen] at haccepts hholds
  obtain ⟨o', ho', hholds', hmetrics', hquiet'⟩ := exists_options_of_scan hread' haccepts
  rw [ho', Options.Holds.eq _ hholds' hholds
    (Bool.eq_iff_iff.2 ((hmetrics'.trans hon.mem_iff).trans hmetrics.symm))
    (Bool.eq_iff_iff.2 ((hquiet'.trans hon.mem_iff).trans hquiet.symm))]

/-- A command line that is written in two ways, with a lone dash, an equals sign in a value, and
once with a value in the environment that cannot be read. -/
theorem options_of_command_line_in_two_forms :
    let environment : Environment := fun name => if name = "CLIENT_ID" then some "c" else none
    let spoilt : Environment := fun name =>
      if name = "PARTITIONS" then some "many" else environment name
    ∃ o, Options.ofArguments
        ["--partitions=-1", "-q", "--topic", "-", "--bootstrap-servers=a=b"] spoilt = .ok o ∧
      Options.ofArguments
        ["--bootstrap-servers", "a=b", "--topic=-", "--quiet", "--partitions=-1"] environment =
          .ok o ∧
      o.bootstrapServers = "a=b" ∧ o.topic = "-" ∧ o.clientId = "c" ∧ o.partitions = some (-1) ∧
      o.reconcileIntervalMillis = 30000 ∧ o.printMetrics = false ∧ o.quiet = true := by
  intro environment spoilt
  let givens : List Given := [.joined .partitions "-1", .lettered .quiet 'q', .apart .topic "-",
    .joined .bootstrapServers "a=b"]
  let givens' : List Given := [.apart .bootstrapServers "a=b", .joined .topic "-",
    .switched .quiet, .joined .partitions "-1"]
  have hproper : ∀ given ∈ givens, given.Proper := by
    simp [givens, Given.Proper, Switch.letter?]
  have hproper' : ∀ given ∈ givens', given.Proper := by
    simp [givens', Given.Proper]
  have hpartitions : Setting.readPartitions "-1" = .ok (-1) := by decide +kernel
  have hcompatible :
      Given.Compatible (givens.flatMap Given.values) (givens.flatMap Given.switches) := by
    refine ⟨by decide, by decide, List.forall_mem_cons.2 ⟨⟨-1, hpartitions⟩, ?_⟩⟩
    simp [Given.values, Setting.Accepts]
  have henvironment : ∀ setting value, setting ∉ (givens.flatMap Given.values).map Prod.fst →
      spoilt setting.variableName = some value → setting.Accepts value := by
    intro setting value hmem hvalue
    cases setting with
    | bootstrapServers | topic | clientId | latencyBuckets => trivial
    | reconcileInterval =>
      cases (by decide : spoilt "RECONCILE_INTERVAL_MS" = none).symm.trans hvalue
    | requestTimeout =>
      cases (by decide : spoilt "REQUEST_TIMEOUT_MS" = none).symm.trans hvalue
    | partitions => exact absurd (by decide) hmem
  have hunset : ∀ setting, setting ∉ (givens.flatMap Given.values).map Prod.fst →
      environment setting.variableName = spoilt setting.variableName := by
    intro setting hmem
    cases setting with
    | partitions => exact absurd (by decide) hmem
    | bootstrapServers | topic | clientId | latencyBuckets | reconcileInterval | requestTimeout =>
      decide
  obtain ⟨o, ho, hgiven, hothers, hmetrics, hquiet, hsame⟩ :=
    options_of_command_line givens spoilt hproper hcompatible henvironment
  refine ⟨o, ho, hsame givens' environment hproper' (by decide) (by decide) hunset, ?_, ?_, ?_, ?_,
    ?_, Bool.eq_false_iff.2 fun h => absurd (hmetrics.1 h) (by decide), hquiet.2 (by decide)⟩
  · exact (Option.some.inj (hgiven .bootstrapServers "a=b" (by decide))).symm
  · exact (Option.some.inj (hgiven .topic "-" (by decide))).symm
  · have hclient : (spoilt "CLIENT_ID").or (some "canary-client") = some "c" := by decide
    exact Option.some.inj ((hothers .clientId (by decide)).symm.trans hclient)
  · obtain ⟨n, hn, heq⟩ := Option.map_eq_some_iff.1 (hgiven .partitions "-1" (by decide)).symm
    cases heq.trans hpartitions
    exact hn
  · have hinterval : ((spoilt "RECONCILE_INTERVAL_MS").or (some "30000")).map
        Setting.readCount = some (.ok 30000) := by decide +kernel
    exact Except.ok.inj (Option.some.inj
      ((hothers .reconcileInterval (by decide)).symm.trans hinterval))

end KafkaCanary
