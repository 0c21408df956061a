import KafkaCanary.Metrics.Exposition
import KafkaCanary.Proofs.Metrics.Registrations
import KafkaCanary.Proofs.Text.Separators

/-!
# Reading an exposition

An exposition is read line by line. A line that begins with a number sign is a comment, and every
other one that is not empty holds a sample: a name, labels between braces, and a value. The values
of labels stand between quotation marks, and a backslash before a character gives it another
meaning. The reader knows nothing of how the text came about.

Three characters could end a value, or its line, too early. They are escaped, so that neither a
quotation mark nor the end of a line is left in a value. Therefore each line is read as the sample
that it was written for, whatever the labels are.

## Main results

* `Exposition.readValue_flatMap_labelChar`: an escaped value is read up to its end;
* `Exposition.readLine_line`: a line is read as the sample that it was written for;
* `Exposition.newline_not_mem_line`: it is one line;
* `Exposition.readText_exposeChars`: the text of families is read as their samples.
-/

namespace KafkaCanary

namespace Exposition

/-! ## A reader -/

/-- What a character after a backslash stands for. -/
def unescape? : Char → Option Char
  | '\\' => some '\\'
  | '"' => some '"'
  | 'n' => some '\n'
  | _ => none

/-- Read a label value up to the quotation mark that ends it, and return what follows. -/
def readValue : List Char → Option (List Char × List Char)
  | [] => none
  | '"' :: rest => some ([], rest)
  | '\\' :: e :: rest => do
    let c ← unescape? e
    let (value, rest) ← readValue rest
    return (c :: value, rest)
  | c :: rest => do
    let (value, rest) ← readValue rest
    return (c :: value, rest)

/-- Read a label with its value. -/
def readLabel (cs : List Char) : Option ((String × String) × List Char) :=
  match cs.dropWhile (· ≠ '=') with
  | '=' :: '"' :: rest => do
    let (value, rest) ← readValue rest
    return ((String.ofList (cs.takeWhile (· ≠ '=')), String.ofList value), rest)
  | _ => none

/-- Reading a value uses up characters. -/
theorem length_lt_of_readValue {cs value rest : List Char}
    (h : readValue cs = some (value, rest)) : rest.length < cs.length := by
  fun_induction readValue cs generalizing value with
  | case1 => cases h
  | case2 rest' =>
    cases h
    exact Nat.lt_succ_self _
  | case3 e rest' ih =>
    obtain ⟨c, -, h⟩ := Option.bind_eq_some_iff.1 h
    obtain ⟨⟨value', remaining⟩, hread, h⟩ := Option.bind_eq_some_iff.1 h
    cases h
    exact Nat.lt_succ_of_lt (Nat.lt_succ_of_lt (ih hread))
  | case4 c rest' _ _ ih =>
    obtain ⟨⟨value', remaining⟩, hread, h⟩ := Option.bind_eq_some_iff.1 h
    cases h
    exact Nat.lt_succ_of_lt (ih hread)

/-- Reading a label uses up characters. -/
theorem length_lt_of_readLabel {cs rest : List Char} {label : String × String}
    (h : readLabel cs = some (label, rest)) : rest.length < cs.length := by
  rw [readLabel] at h
  split at h
  · next quoted hcs =>
    obtain ⟨⟨value, remaining⟩, hread, h⟩ := Option.bind_eq_some_iff.1 h
    cases h
    have hsuffix := (List.dropWhile_suffix (· ≠ '=') (l := cs)).length_le
    have hvalue := length_lt_of_readValue hread
    rw [hcs, List.length_cons, List.length_cons] at hsuffix
    omega
  · cases h

/-- Read labels, which commas separate, up to the brace that ends them. -/
def readLabels (cs : List Char) : Option (List (String × String) × List Char) :=
  match _h : readLabel cs with
  | some (label, ',' :: rest) => do
    let (labels, rest) ← readLabels rest
    return (label :: labels, rest)
  | some (label, '\x7d' :: rest) => some ([label], rest)
  | _ => none
termination_by cs.length
decreasing_by
  have hlabel := length_lt_of_readLabel ‹_›
  rw [List.length_cons] at hlabel
  omega

/-- The sample with the labels given. -/
def sampleOf? (name value : String) : List (String × String) → Option Sample
  | [("clientid", clientId), ("partition", partition)] =>
    some ⟨name, ⟨clientId, partition⟩, none, value⟩
  | [("clientid", clientId), ("partition", partition), ("le", bound)] =>
    some ⟨name, ⟨clientId, partition⟩, some bound, value⟩
  | _ => none

/-- Read the line of a sample. -/
def readLine (line : List Char) : Option Sample := do
  let (labels, rest) ← readLabels ((line.dropWhile (· ≠ '\x7b')).drop 1)
  match rest with
  | ' ' :: value =>
    sampleOf? (String.ofList (line.takeWhile (· ≠ '\x7b'))) (String.ofList value) labels
  | _ => none

/-- Whether a line is there for a sample: it is not empty and no comment. -/
def holdsSample (line : List Char) : Bool :=
  line.head?.any (· ≠ '#')

/-- Read the samples of an exposition. -/
def readText (text : String) : Option (List Sample) :=
  ((text.toList.splitOn '\n').filter holdsSample).mapM readLine

/-! ## Labels -/

/-- A label value is read as what was escaped. -/
theorem readValue_flatMap_labelChar (value rest : List Char) :
    readValue (value.flatMap labelChar ++ '"' :: rest) = some (value, rest) := by
  induction value with
  | nil => rfl
  | cons c value ih =>
    rw [List.flatMap_cons, List.append_assoc]
    -- Three characters are written with a backslash. All others are written as they are, and are
    -- neither a backslash nor a quotation mark.
    by_cases hbackslash : c = '\\'
    · subst hbackslash
      simp [labelChar, readValue, unescape?, ih]
    by_cases hquote : c = '"'
    · subst hquote
      simp [labelChar, readValue, unescape?, ih]
    by_cases hnewline : c = '\n'
    · subst hnewline
      simp [labelChar, readValue, unescape?, ih]
    · simp [labelChar, hbackslash, hquote, hnewline, readValue, ih]

/-- A label is read back, whatever its value. -/
theorem readLabel_labelChars {name : String} (hname : '=' ∉ name.toList) (value : String)
    (rest : List Char) :
    readLabel (labelChars name value ++ rest) = some ((name, value), rest) := by
  have hchars : labelChars name value ++ rest =
      name.toList ++ '=' :: '"' :: (value.toList.flatMap labelChar ++ '"' :: rest) := by
    simp [labelChars]
  rw [hchars, readLabel, takeWhile_ne_append_cons hname, dropWhile_ne_append_cons hname]
  simp [readValue_flatMap_labelChar]

/-- Labels with commas between them. -/
def labelsChars (labels : List (String × String)) : List Char :=
  List.intercalate [','] (labels.map fun (name, value) => labelChars name value)

/-- Labels are written with commas between them. -/
theorem labelsChars_cons_cons (label next : String × String) (labels : List (String × String)) :
    labelsChars (label :: next :: labels) =
      labelChars label.1 label.2 ++ ',' :: labelsChars (next :: labels) := by
  simp [labelsChars, List.intercalate_cons_cons]

/-- After a comma another label follows. -/
theorem readLabels_of_comma {cs rest rest' : List Char} {label : String × String}
    {labels : List (String × String)} (hlabel : readLabel cs = some (label, ',' :: rest))
    (hlabels : readLabels rest = some (labels, rest')) :
    readLabels cs = some (label :: labels, rest') := by
  rw [readLabels]
  split <;> simp_all

/-- After a brace no label follows. -/
theorem readLabels_of_brace {cs rest : List Char} {label : String × String}
    (hlabel : readLabel cs = some (label, '\x7d' :: rest)) :
    readLabels cs = some ([label], rest) := by
  rw [readLabels]
  split <;> simp_all

/-- Labels are read back. -/
theorem readLabels_labelsChars {labels : List (String × String)} (hne : labels ≠ [])
    (hnames : ∀ label ∈ labels, '=' ∉ label.1.toList) (rest : List Char) :
    readLabels (labelsChars labels ++ '\x7d' :: rest) = some (labels, rest) := by
  induction labels with
  | nil => exact absurd rfl hne
  | cons label labels ih =>
    have hlabel := readLabel_labelChars (hnames label List.mem_cons_self) label.2
    -- A brace follows the last label, and a comma every other one.
    cases labels with
    | nil =>
      rw [labelsChars, List.map_singleton, List.intercalate_singleton]
      exact readLabels_of_brace (hlabel _)
    | cons next labels =>
      have hlabels := ih (List.cons_ne_nil _ _) fun l hl => hnames l (List.mem_cons_of_mem _ hl)
      rw [labelsChars_cons_cons, List.append_assoc]
      exact readLabels_of_comma (hlabel _) hlabels

/-! ## Lines -/

/-- The labels of a sample with their names. -/
def labelsOf (s : Sample) : List (String × String) :=
  ("clientid", s.labels.clientId) :: ("partition", s.labels.partition) ::
    s.bound.toList.map ("le", ·)

/-- The names of labels are these three. -/
theorem mem_of_mem_labelsOf {s : Sample} {label : String × String} (h : label ∈ labelsOf s) :
    label.1 ∈ ["clientid", "partition", "le"] := by
  rw [labelsOf, List.mem_cons, List.mem_cons, List.mem_map] at h
  obtain rfl | rfl | ⟨bound, -, rfl⟩ := h <;> simp

/-- A name can be told from a comment and from what follows it. -/
def PlainName (name : String) : Prop :=
  ∀ c ∈ name.toList, c ≠ '\x7b' ∧ c ≠ '\n' ∧ c ≠ '#'

instance {name : String} : Decidable (PlainName name) :=
  List.decidableBAll _ name.toList

/-- A plain name has no newline. -/
theorem PlainName.newline_not_mem {name : String} (h : PlainName name) : '\n' ∉ name.toList :=
  fun hmem => (h _ hmem).2.1 rfl

/-- A name can be told from what follows it, and a value ends with its line. The labels do not
matter. -/
structure Plain (s : Sample) : Prop where
  name : PlainName s.name
  value : '\n' ∉ s.value.toList

/-- A line is a name, its labels in braces, a blank and a value. -/
theorem line_eq (s : Sample) : s.line =
    s.name.toList ++ '\x7b' :: (labelsChars (labelsOf s) ++ '\x7d' :: ' ' :: s.value.toList) := by
  obtain ⟨name, labels, bound, value⟩ := s
  cases bound <;> simp [Sample.line, labelsChars, labelsOf]

/-- A line is read as the sample that it was written for. -/
theorem readLine_line {s : Sample} (h : Plain s) : readLine s.line = some s := by
  have hbrace : '\x7b' ∉ s.name.toList := fun hmem => (h.name _ hmem).1 rfl
  have hlabels : readLabels (labelsChars (labelsOf s) ++ '\x7d' :: ' ' :: s.value.toList) =
      some (labelsOf s, ' ' :: s.value.toList) := by
    have hnames : ∀ name ∈ ["clientid", "partition", "le"], '=' ∉ name.toList := by decide
    exact readLabels_labelsChars (List.cons_ne_nil _ _)
      (fun label hlabel => hnames _ (mem_of_mem_labelsOf hlabel)) _
  rw [line_eq, readLine, takeWhile_ne_append_cons hbrace, dropWhile_ne_append_cons hbrace,
    List.drop_one, List.tail_cons, hlabels]
  obtain ⟨name, labels, bound, value⟩ := s
  cases bound <;> simp [labelsOf, sampleOf?]

/-- A newline in a label's value is escaped. -/
theorem newline_not_mem_labelChar (c : Char) : '\n' ∉ labelChar c := by
  unfold labelChar
  split
  · decide
  split
  · decide
  split
  · decide
  · next h => simpa using Ne.symm h

/-- Labels are written on one line. -/
theorem newline_not_mem_labelsChars {labels : List (String × String)}
    (hnames : ∀ label ∈ labels, '\n' ∉ label.1.toList) : '\n' ∉ labelsChars labels := by
  induction labels with
  | nil => exact List.not_mem_nil
  | cons label labels ih =>
    have hlabel : '\n' ∉ labelChars label.1 label.2 := by
      simp [labelChars, hnames label, newline_not_mem_labelChar]
    cases labels with
    | nil => simpa [labelsChars] using hlabel
    | cons next labels =>
      have hlabels := ih fun l hl => hnames l (List.mem_cons_of_mem _ hl)
      rw [labelsChars_cons_cons]
      simp [hlabel, hlabels]

/-- A line is one line. -/
theorem newline_not_mem_line {s : Sample} (h : Plain s) : '\n' ∉ s.line := by
  have hname := h.name.newline_not_mem
  have hnames : ∀ name ∈ ["clientid", "partition", "le"], '\n' ∉ name.toList := by decide
  have hlabels := newline_not_mem_labelsChars fun label hlabel =>
    hnames _ (mem_of_mem_labelsOf (s := s) hlabel)
  rw [line_eq]
  simp [hname, hlabels, h.value]

/-- A client id that looks like the rest of its line, with a line and a comment after it. -/
example : String.ofList
    (Sample.line ⟨"total", ⟨"a\"\x7d 1\ntotal 2\n#", "0"⟩, none, "3"⟩) =
      "total\x7bclientid=\"a\\\"\x7d 1\\ntotal 2\\n#\",partition=\"0\"\x7d 3" := by
  decide

/-- The line of a sample is no comment. -/
theorem holdsSample_line {s : Sample} (h : Plain s) : holdsSample s.line := by
  rw [line_eq]
  cases hname : s.name.toList with
  | nil => simp [holdsSample]
  | cons c cs =>
    have hc := (h.name c (hname ▸ List.mem_cons_self)).2.2
    simpa [holdsSample] using hc

/-! ## Texts -/

/-- What an exposition says about a family is told apart from its samples. -/
structure PlainFamily (f : Family) : Prop where
  name : PlainName f.name
  help : '\n' ∉ f.help.toList
  samples : ∀ s ∈ f.samples, Plain s

/-- The lines of a family that are no comments are those of its samples. -/
theorem filter_holdsSample_lines {f : Family} (h : PlainFamily f) :
    f.lines.filter holdsSample = f.samples.map Sample.line := by
  have hsamples : (f.samples.map Sample.line).filter holdsSample = f.samples.map Sample.line :=
    List.filter_eq_self.2 (List.forall_mem_map.2 fun s hs => holdsSample_line (h.samples s hs))
  rw [Family.lines, List.filter_cons_of_neg (by simp [holdsSample]),
    List.filter_cons_of_neg (by simp [holdsSample]), hsamples]

/-- The lines of a family are lines. -/
theorem newline_not_mem_lines {f : Family} (h : PlainFamily f) :
    ∀ line ∈ f.lines, '\n' ∉ line := by
  have hname := h.name.newline_not_mem
  have hkind : '\n' ∉ f.kind.name.toList := by cases f.kind <;> decide
  rw [Family.lines, List.forall_mem_cons, List.forall_mem_cons]
  refine ⟨?_, ?_, List.forall_mem_map.2 fun s hs => newline_not_mem_line (h.samples s hs)⟩
  · simp [hname, h.help]
  · simp [hname, hkind]

/-- The lines of plain samples are read back, one by one. -/
theorem mapM_readLine {samples : List Sample} (h : ∀ s ∈ samples, Plain s) :
    (samples.map Sample.line).mapM readLine = some samples := by
  induction samples with
  | nil => rfl
  | cons s samples ih =>
    rw [List.map_cons, List.mapM_cons, readLine_line (h s List.mem_cons_self),
      ih fun l hl => h l (List.mem_cons_of_mem _ hl)]
    rfl

/-- Line breaks cut the text of families into their lines. -/
theorem splitOn_exposeChars {families : List Family} (h : ∀ f ∈ families, PlainFamily f) :
    (exposeChars families).splitOn '\n' = families.flatMap Family.lines ++ [[]] := by
  refine splitOn_flatMap_concat fun line hline => ?_
  obtain ⟨f, hf, hline⟩ := List.mem_flatMap.1 hline
  exact newline_not_mem_lines (h f hf) line hline

/-- Every sample has its line in the text. -/
theorem line_mem_splitOn_exposeChars {families : List Family}
    (h : ∀ f ∈ families, PlainFamily f) {s : Sample}
    (hs : s ∈ families.flatMap Family.samples) :
    s.line ∈ (exposeChars families).splitOn '\n' := by
  obtain ⟨f, hf, hs⟩ := List.mem_flatMap.1 hs
  have hline : s.line ∈ f.lines :=
    List.mem_cons_of_mem _ (List.mem_cons_of_mem _ (List.mem_map_of_mem hs))
  rw [splitOn_exposeChars h]
  exact List.mem_append_left _ (List.mem_flatMap.2 ⟨f, hf, hline⟩)

/-- The text of families is read as their samples. -/
theorem readText_exposeChars {families : List Family} (h : ∀ f ∈ families, PlainFamily f) :
    readText (String.ofList (exposeChars families)) = some (families.flatMap Family.samples) := by
  have hsamples : ∀ s ∈ families.flatMap Family.samples, Plain s := by
    intro s hs
    obtain ⟨f, hf, hs⟩ := List.mem_flatMap.1 hs
    exact (h f hf).samples s hs
  have hfilter : (families.flatMap Family.lines).filter holdsSample =
      (families.flatMap Family.samples).map Sample.line := by
    rw [List.filter_flatMap, List.map_flatMap]
    exact List.flatMap_congr fun f hf => filter_holdsSample_lines (h f hf)
  rw [readText, String.toList_ofList, splitOn_exposeChars h, List.filter_append, hfilter,
    show [[]].filter holdsSample = [] from rfl, List.append_nil, mapM_readLine hsamples]

end Exposition

end KafkaCanary
