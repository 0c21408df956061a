import KafkaCanary.Proofs.Decimal.Layout
import KafkaCanary.Proofs.Metrics.BucketLists
import KafkaCanary.Proofs.Metrics.ExpositionText

/-!
# What is exposed

The samples of instruments, and that their text tells them. A sample is the value of something: of a
name, a client, a partition, and of a bound if it belongs to a histogram. There is one sample for
each of these. Names differ from family to family, labels within a family, and the bounds of a
histogram have different texts, because they are different finite numbers.

## Main results

* `Instruments.mem_exposed_iff`: the samples listed are those of the values held;
* `Instruments.nodup_exposed`: no two of them are values of the same;
* `Instruments.readText_families`: the text is read as the samples;
* `Registry.line_mem_of_exposes`: every sample has its line in the text;
* `exposition_read_back`: all this after any steps of a registry.
-/

namespace KafkaCanary

/-! ## Samples of instruments -/

/-- What instruments expose: a number for every label of a counter, and for every label of a
histogram the numbers at its bounds, their total, and the sum. -/
inductive Instruments.Exposes (m : Instruments) : Sample → Prop
  /-- Attempts to send. -/
  | produced {labels : Labels} {n : Nat} : m.produced.get? labels = some n →
      Exposes m ⟨instrumentName "total", labels, none, toString n⟩
  /-- Attempts that failed. -/
  | failed {labels : Labels} {n : Nat} : m.failed.get? labels = some n →
      Exposes m ⟨instrumentName "failed_total", labels, none, toString n⟩
  /-- Acknowledgements that came before the message was made. -/
  | skewed {labels : Labels} {n : Nat} : m.skewed.get? labels = some n →
      Exposes m ⟨instrumentName "clock_skew_total", labels, none, toString n⟩
  /-- Latencies that are not greater than a bound. -/
  | bucket {labels : Labels} {h : Histogram} {bound : Float} {n : Nat} :
      m.latency.get? labels = some h → (bound, n) ∈ m.bounds.zip h.cumulative →
        Exposes m ⟨instrumentName "latency" ++ "_bucket", labels, some (Decimal.plain.text bound),
          toString n⟩
  /-- Latencies under all bounds and above. -/
  | infinite {labels : Labels} {h : Histogram} : m.latency.get? labels = some h →
      Exposes m ⟨instrumentName "latency" ++ "_bucket", labels, some "+Inf", toString h.count⟩
  /-- The sum of the latencies. -/
  | sum {labels : Labels} {h : Histogram} : m.latency.get? labels = some h →
      Exposes m ⟨instrumentName "latency" ++ "_sum", labels, none, Decimal.plain.text h.sum⟩
  /-- The number of the latencies. -/
  | count {labels : Labels} {h : Histogram} : m.latency.get? labels = some h →
      Exposes m ⟨instrumentName "latency" ++ "_count", labels, none, toString h.count⟩

/-- The families of instruments, with the empty ones. -/
def Instruments.allFamilies (m : Instruments) : List Family :=
  [counterFamily "clock_skew_total"
      "The total number of records acknowledged before their creation timestamp" m.skewed,
    counterFamily "failed_total" "The total number of records failed to produce" m.failed,
    histogramFamily "latency" "Records produced latency in milliseconds" m.bounds m.latency,
    counterFamily "total" "The total number of records produced" m.produced]

/-- What holds of every family holds of all of them. -/
theorem Instruments.forall_mem_allFamilies {m : Instruments} {P : Family → Prop}
    (hskewed : P (counterFamily "clock_skew_total"
      "The total number of records acknowledged before their creation timestamp" m.skewed))
    (hfailed : P (counterFamily "failed_total"
      "The total number of records failed to produce" m.failed))
    (hlatency : P (histogramFamily "latency"
      "Records produced latency in milliseconds" m.bounds m.latency))
    (hproduced : P (counterFamily "total" "The total number of records produced" m.produced)) :
    ∀ f ∈ m.allFamilies, P f := by
  simp [allFamilies, hskewed, hfailed, hlatency, hproduced]

/-- The samples that instruments expose, in order. -/
def Instruments.exposed (m : Instruments) : List Sample :=
  m.families.flatMap Family.samples

/-- Empty families have no samples. -/
theorem Instruments.exposed_eq (m : Instruments) :
    m.exposed = m.allFamilies.flatMap Family.samples := by
  have hfilter (families : List Family) :
      (families.filter (!·.samples.isEmpty)).flatMap Family.samples =
        families.flatMap Family.samples := by
    induction families with
    | nil => rfl
    | cons f families ih =>
      by_cases hsamples : f.samples = []
      · simp [hsamples, ih]
      · simp [hsamples, ih]
  exact hfilter m.allFamilies

/-- The samples of a counter are its entries, one each. -/
theorem mem_counterFamily_iff {name help : String} {table : Table Labels Nat} (h : table.Sorted)
    {s : Sample} : s ∈ (counterFamily name help table).samples ↔ ∃ labels n,
      table.get? labels = some n ∧ ⟨instrumentName name, labels, none, toString n⟩ = s := by
  simp only [h.get?_eq_some_iff]
  rw [counterFamily, List.mem_map, Prod.exists]

/-- The samples of a histogram are those of its entries. -/
theorem mem_histogramFamily_iff {name help : String} {bounds : List Float}
    {table : Table Labels Histogram} (h : table.Sorted) {s : Sample} :
    s ∈ (histogramFamily name help bounds table).samples ↔ ∃ labels histogram,
      table.get? labels = some histogram ∧
        s ∈ histogramSamples (instrumentName name) bounds labels histogram := by
  simp only [h.get?_eq_some_iff]
  rw [histogramFamily, List.mem_flatMap, Prod.exists]

/-- A sample is listed if and only if the instruments hold its value. -/
theorem Instruments.mem_exposed_iff {m : Instruments} (hm : m.Sorted) {s : Sample} :
    s ∈ m.exposed ↔ m.Exposes s := by
  rw [exposed_eq, allFamilies, List.flatMap_cons, List.flatMap_cons, List.flatMap_cons,
    List.flatMap_singleton, List.mem_append, List.mem_append, List.mem_append,
    mem_counterFamily_iff hm.skewed, mem_counterFamily_iff hm.failed,
    mem_histogramFamily_iff hm.latency, mem_counterFamily_iff hm.produced]
  constructor
  · rintro (⟨labels, n, hn, rfl⟩ | ⟨labels, n, hn, rfl⟩ | ⟨labels, h, hh, hs⟩ |
      ⟨labels, n, hn, rfl⟩)
    · exact .skewed hn
    · exact .failed hn
    · rw [histogramSamples, List.mem_append, List.mem_map, Prod.exists, List.mem_cons,
        List.mem_cons, List.mem_singleton] at hs
      obtain ⟨bound, n, hn, rfl⟩ | rfl | rfl | rfl := hs
      · exact .bucket hh hn
      · exact .infinite hh
      · exact .sum hh
      · exact .count hh
    · exact .produced hn
  · rintro (hn | hn | hn | ⟨hh, hn⟩ | hh | hh | hh)
    · exact .inr (.inr (.inr ⟨_, _, hn, rfl⟩))
    · exact .inr (.inl ⟨_, _, hn, rfl⟩)
    · exact .inl ⟨_, _, hn, rfl⟩
    all_goals refine .inr (.inr (.inl ⟨_, _, hh, ?_⟩))
    · exact List.mem_append_left _ (List.mem_map.2 ⟨_, hn, rfl⟩)
    all_goals exact List.mem_append_right _ (by simp)

/-! ## Kinds of samples -/

/-- A histogram has samples of three kinds. -/
theorem forall_mem_histogramSamples {name : String} {labels : Labels} {P : Sample → Prop}
    (hbucket : ∀ (bound : String) (n : Nat), P ⟨name ++ "_bucket", labels, some bound, toString n⟩)
    (hsum : ∀ sum : Float, P ⟨name ++ "_sum", labels, none, Decimal.plain.text sum⟩)
    (hcount : ∀ n : Nat, P ⟨name ++ "_count", labels, none, toString n⟩) (bounds : List Float)
    (h : Histogram) : ∀ s ∈ histogramSamples name bounds labels h, P s := by
  rw [histogramSamples, List.forall_mem_append, List.forall_mem_map, List.forall_mem_cons,
    List.forall_mem_cons, List.forall_mem_singleton]
  exact ⟨fun _ _ => hbucket _ _, hbucket _ _, hsum _, hcount _⟩

/-- So have histograms that are listed together. -/
theorem forall_mem_histogramFamily {name : String} {P : Sample → Prop}
    (hbucket : ∀ (labels : Labels) (bound : String) (n : Nat),
      P ⟨instrumentName name ++ "_bucket", labels, some bound, toString n⟩)
    (hsum : ∀ (labels : Labels) (sum : Float),
      P ⟨instrumentName name ++ "_sum", labels, none, Decimal.plain.text sum⟩)
    (hcount : ∀ (labels : Labels) (n : Nat),
      P ⟨instrumentName name ++ "_count", labels, none, toString n⟩)
    (help : String) (bounds : List Float) (table : Table Labels Histogram) :
    ∀ s ∈ (histogramFamily name help bounds table).samples, P s := by
  intro s hs
  obtain ⟨e, -, hs⟩ := List.mem_flatMap.1 hs
  exact forall_mem_histogramSamples (hbucket e.1) (hsum e.1) (hcount e.1) bounds e.2 s hs

/-! ## Keys -/

/-- What a sample is the value of. -/
def Sample.key (s : Sample) : String × Labels × Option String :=
  (s.name, s.labels, s.bound)

/-- No value is less than itself, not-a-number included. -/
theorem Magnitude.lt_irrefl (a : Float) : ¬a < a := by
  intro h
  have hlt := (lt_iff.1 h).2.2
  have heq : order a.toModel.unpack a.toModel.unpack = .eq := Std.ReflCmp.compare_self
  rw [heq] at hlt
  cases hlt

/-- The texts of bounds that can be used are different. -/
theorem Buckets.nodup_texts_of_check {bounds : List Float} (h : Buckets.check bounds = .ok ()) :
    (bounds.map Decimal.plain.text).Nodup := by
  obtain ⟨-, hfinite, hordered⟩ := Buckets.check_eq_ok_iff.1 h
  refine List.pairwise_map.2 (hordered.imp_of_mem fun {a b} ha hb hlt htext => ?_)
  rw [Decimal.plain_text_inj (hfinite a ha) (hfinite b hb) htext] at hlt
  exact Magnitude.lt_irrefl b hlt

/-- No bound is written like the end of a histogram. -/
theorem plain_text_ne_inf (x : Float) : Decimal.plain.text x ≠ "+Inf" := by
  intro h
  have hplus := Decimal.mem_plain_text x '+' (by rw [h]; decide)
  revert hplus
  decide

/-- What is paired keeps its order, and some may be left over. -/
theorem map_fst_zip_sublist {α β : Type} (as : List α) (bs : List β) :
    ((as.zip bs).map Prod.fst).Sublist as := by
  induction as generalizing bs with
  | nil => exact .slnil
  | cons a as ih =>
    cases bs with
    | nil => exact List.nil_sublist _
    | cons b bs => exact (ih bs).cons_cons a

/-- No two samples of one histogram share a name and labels, as its bounds are written apart. -/
theorem nodup_histogramSamples {name : String} {bounds : List Float}
    (hbounds : (bounds.map Decimal.plain.text).Nodup) (labels : Labels) (h : Histogram) :
    ((histogramSamples name bounds labels h).map Sample.key).Nodup := by
  have hbuckets : ((bounds.zip h.cumulative).map fun e =>
      (name ++ "_bucket", labels, some (Decimal.plain.text e.1))).Nodup := by
    have hsublist := (map_fst_zip_sublist bounds h.cumulative).map Decimal.plain.text
    have htexts := hbounds.sublist hsublist
    rw [List.map_map] at htexts
    refine List.pairwise_map.2 ((List.pairwise_map.1 htexts).imp fun {e e'} hne heq => ?_)
    exact hne (Option.some.inj (congrArg (·.2.2) heq))
  -- The buckets differ in their bounds, and no bound is infinite or missing.
  rw [histogramSamples, List.map_append, List.map_map, List.nodup_append]
  refine ⟨hbuckets, by simp [Sample.key], ?_⟩
  intro key hkey key' hkey' heq
  obtain ⟨e, -, rfl⟩ := List.mem_map.1 hkey
  have hbound : key'.2.2 = some (Decimal.plain.text e.1) := heq ▸ rfl
  simp only [List.map_cons, List.map_nil, Sample.key, List.mem_cons, List.not_mem_nil, or_false]
    at hkey'
  obtain rfl | rfl | rfl := hkey'
  · exact plain_text_ne_inf e.1 (Option.some.inj hbound).symm
  · cases hbound
  · cases hbound

/-- No two samples of a family of histograms share a name and labels. -/
theorem nodup_histogramFamily {name help : String} {bounds : List Float}
    {table : Table Labels Histogram} (hbounds : (bounds.map Decimal.plain.text).Nodup)
    (h : table.Sorted) :
    ((histogramFamily name help bounds table).samples.map Sample.key).Nodup := by
  rw [histogramFamily, List.map_flatMap, List.nodup_flatMap]
  refine ⟨fun e _ => nodup_histogramSamples hbounds e.1 e.2, ?_⟩
  refine (List.pairwise_map.1 h.nodup_keys).imp fun {e e'} hne => ?_
  intro key hkey hkey'
  obtain ⟨s, hs, rfl⟩ := List.mem_map.1 hkey
  obtain ⟨s', hs', heq⟩ := List.mem_map.1 hkey'
  have hlabels (e : Labels × Histogram) :
      ∀ s ∈ histogramSamples (instrumentName name) bounds e.1 e.2, s.labels = e.1 :=
    forall_mem_histogramSamples (fun _ _ => rfl) (fun _ => rfl) (fun _ => rfl) bounds e.2
  -- Two samples of one family with the same labels belong to one histogram.
  refine hne ?_
  rw [← hlabels e s hs, ← hlabels e' s' hs']
  exact congrArg (·.2.1) heq.symm

/-- No two samples of a family of counters share a name and labels. -/
theorem nodup_counterFamily {name help : String} {table : Table Labels Nat} (h : table.Sorted) :
    ((counterFamily name help table).samples.map Sample.key).Nodup := by
  rw [counterFamily, List.map_map]
  refine List.pairwise_map.2 ((List.pairwise_map.1 h.nodup_keys).imp fun {e e'} hne heq => ?_)
  exact hne (congrArg (·.2.1) heq)

/-- The names of the samples of a family. -/
def Family.sampleNames (f : Family) : List String :=
  match f.kind with
  | .counter => [f.name]
  | .histogram => [f.name ++ "_bucket", f.name ++ "_sum", f.name ++ "_count"]

/-- A counter's samples have the names of their family. -/
theorem name_of_mem_counterFamily {name help : String} {table : Table Labels Nat} :
    ∀ s ∈ (counterFamily name help table).samples,
      s.name ∈ (counterFamily name help table).sampleNames :=
  List.forall_mem_map.2 fun _ _ => List.mem_cons_self

/-- A histogram's samples have the names of their family. -/
theorem name_of_mem_histogramFamily {name help : String} {bounds : List Float}
    {table : Table Labels Histogram} : ∀ s ∈ (histogramFamily name help bounds table).samples,
      s.name ∈ (histogramFamily name help bounds table).sampleNames :=
  forall_mem_histogramFamily (fun _ _ _ => .head _) (fun _ _ => .tail _ (.head _))
    (fun _ _ => .tail _ (.tail _ (.head _))) help bounds table

/-- What samples are the values of is different. -/
theorem Instruments.nodup_exposed {m : Instruments} (hm : m.Sorted)
    (hbounds : Buckets.check m.bounds = .ok ()) : (m.exposed.map Sample.key).Nodup := by
  rw [exposed_eq, List.map_flatMap, List.nodup_flatMap]
  constructor
  · exact forall_mem_allFamilies (nodup_counterFamily hm.skewed) (nodup_counterFamily hm.failed)
      (nodup_histogramFamily (Buckets.nodup_texts_of_check hbounds) hm.latency)
      (nodup_counterFamily hm.produced)
  · -- Families have no name of a sample in common.
    have hnames : (m.allFamilies.map Family.sampleNames).Pairwise fun names names' =>
        ∀ n ∈ names, n ∉ names' := by
      show [[instrumentName "clock_skew_total"], [instrumentName "failed_total"],
        [instrumentName "latency" ++ "_bucket", instrumentName "latency" ++ "_sum",
          instrumentName "latency" ++ "_count"], [instrumentName "total"]].Pairwise _
      decide
    have hmem : ∀ f ∈ m.allFamilies, ∀ s ∈ f.samples, s.name ∈ f.sampleNames :=
      forall_mem_allFamilies name_of_mem_counterFamily name_of_mem_counterFamily
        name_of_mem_histogramFamily name_of_mem_counterFamily
    refine (List.pairwise_map.1 hnames).imp_of_mem fun {f f'} hf hf' hdisjoint key hkey hkey' => ?_
    obtain ⟨s, hs, rfl⟩ := List.mem_map.1 hkey
    obtain ⟨s', hs', heq⟩ := List.mem_map.1 hkey'
    have hname : s'.name = s.name := congrArg Prod.fst heq
    exact hdisjoint s.name (hmem f hf s hs) (hname ▸ hmem f' hf' s' hs')

/-! ## Texts -/

/-- A number is written on one line. -/
theorem newline_not_mem_toString (n : Nat) : '\n' ∉ (toString n).toList := by
  intro h
  rw [Nat.toString_eq_ofList_toDigits, String.toList_ofList] at h
  have := Nat.isDigit_of_mem_toDigits (by decide) (by decide) h
  cases this

/-- A value is written on one line. -/
theorem newline_not_mem_plain_text (x : Float) : '\n' ∉ (Decimal.plain.text x).toList := by
  intro h
  have := Decimal.mem_plain_text x _ h
  revert this
  decide

/-- Counters can be read, whatever their labels are. -/
theorem plainFamily_counterFamily {name help : String}
    (hname : Exposition.PlainName (instrumentName name)) (hhelp : '\n' ∉ help.toList)
    (table : Table Labels Nat) : Exposition.PlainFamily (counterFamily name help table) where
  name := hname
  help := hhelp
  samples := List.forall_mem_map.2 fun e _ => ⟨hname, newline_not_mem_toString e.2⟩

/-- So can histograms. -/
theorem plainFamily_histogramFamily {name help : String}
    (hname : Exposition.PlainName (instrumentName name)) (hhelp : '\n' ∉ help.toList)
    (bounds : List Float) (table : Table Labels Histogram) :
    Exposition.PlainFamily (histogramFamily name help bounds table) where
  name := hname
  help := hhelp
  samples :=
    have hsuffixed {suffix : String} (hsuffix : Exposition.PlainName suffix) :
        Exposition.PlainName (instrumentName name ++ suffix) := by
      rw [Exposition.PlainName, String.toList_append]
      exact List.forall_mem_append.2 ⟨hname, hsuffix⟩
    forall_mem_histogramFamily
      (fun _ _ n => ⟨hsuffixed (by decide), newline_not_mem_toString n⟩)
      (fun _ sum => ⟨hsuffixed (by decide), newline_not_mem_plain_text sum⟩)
      (fun _ n => ⟨hsuffixed (by decide), newline_not_mem_toString n⟩) help bounds table

/-- Nothing in the families of instruments but their labels needs to be escaped. -/
theorem Instruments.plainFamily_of_mem_families {m : Instruments} {f : Family}
    (hf : f ∈ m.families) : Exposition.PlainFamily f := by
  have hplain : ∀ f ∈ m.allFamilies, Exposition.PlainFamily f :=
    forall_mem_allFamilies
      (plainFamily_counterFamily (by decide) (by decide) m.skewed)
      (plainFamily_counterFamily (by decide) (by decide) m.failed)
      (plainFamily_histogramFamily (by decide) (by decide) m.bounds m.latency)
      (plainFamily_counterFamily (by decide) (by decide) m.produced)
  exact hplain f (List.mem_of_mem_filter hf)

/-- The text of instruments is read as what they expose. -/
theorem Instruments.readText_families (m : Instruments) :
    Exposition.readText (String.ofList (exposeChars m.families)) = some m.exposed :=
  Exposition.readText_exposeChars fun _ => plainFamily_of_mem_families

/-- What instruments expose has its line in the text of a registry. -/
theorem Registry.line_mem_of_exposes {registry : Registry} {m : Instruments}
    (hm : registry.instruments = some m) (hsorted : m.Sorted) {s : Sample} (hs : m.Exposes s) :
    s.line ∈ registry.text.toList.splitOn '\n' := by
  rw [text, hm, String.toList_ofList]
  exact Exposition.line_mem_splitOn_exposeChars (fun _ => Instruments.plainFamily_of_mem_families)
    ((m.mem_exposed_iff hsorted).2 hs)

/-- What a registry exposes after any steps can be read back from its text, whatever the client ids
are. The samples read are those of the values that the instruments hold, and no two of them are
values of the same. -/
theorem exposition_read_back (steps : List Registry.Step) :
    let registry := Registry.empty.performAll steps
    registry.instruments = (Registry.history steps).map (fun (bounds, records) =>
      (Instruments.init bounds).recordAll records) ∧
    ∃ samples, Exposition.readText registry.text = some samples ∧
      (samples.map Sample.key).Nodup ∧
      ∀ s, s ∈ samples ↔ ∃ m, registry.instruments = some m ∧ m.Exposes s := by
  intro registry
  have hregistry := Registry.performAll_empty steps
  refine ⟨congrArg Registry.instruments hregistry, ?_⟩
  cases hhistory : Registry.history steps with
  | none =>
    have hempty : registry = ⟨none⟩ := by rw [show registry = _ from hregistry, hhistory]; rfl
    rw [hempty]
    exact ⟨[], rfl, List.nodup_nil, by simp⟩
  | some kept =>
    obtain ⟨bounds, records⟩ := kept
    -- The instruments count what the history kept, so that each key is written once.
    obtain ⟨m, hm, hcounts⟩ := Registry.counts_of_history hhistory
    have hcheck := Registry.check_of_history hhistory
    rw [← hcounts.kept] at hcheck
    refine ⟨m.exposed, ?_, m.nodup_exposed hcounts.sorted hcheck, fun s => ?_⟩
    · rw [Registry.text, hm]
      exact m.readText_families
    · rw [m.mem_exposed_iff hcounts.sorted]
      constructor
      · exact fun hs => ⟨m, hm, hs⟩
      · rintro ⟨m', hm', hs⟩
        rw [hm] at hm'
        cases hm'
        exact hs

/-- A client id with a quotation mark, a brace, line breaks, a comment and backslashes, for which a
message failed and another one was delivered. The lines of its samples stand in the text with
everything escaped, and the samples that are read from them have the client id as it is. -/
theorem exposition_read_back_of_odd_client_id :
    let clientId := "a\"\x7d 1\n# \\n\\"
    let steps : List Registry.Step := [.register [5, 50], .record ⟨clientId, .failed 0⟩,
      .record ⟨clientId, .delivered 0 1 7⟩]
    let registry := Registry.empty.performAll steps
    let produced : Sample :=
      ⟨"strimzi_canary_records_produced_total", ⟨clientId, "0"⟩, none, "2"⟩
    let delivered : Sample :=
      ⟨"strimzi_canary_records_produced_latency_bucket", ⟨clientId, "0"⟩, some "+Inf", "1"⟩
    let quoted := "\x7bclientid=\"a\\\"\x7d 1\\n# \\\\n\\\\\",partition=\"0\""
    (produced.name ++ quoted ++ "\x7d 2").toList ∈ registry.text.toList.splitOn '\n' ∧
      (delivered.name ++ quoted ++ ",le=\"+Inf\"\x7d 1").toList ∈
        registry.text.toList.splitOn '\n' ∧
      ∃ samples, Exposition.readText registry.text = some samples ∧ produced ∈ samples ∧
        delivered ∈ samples ∧ { produced with value := "1" } ∉ samples := by
  intro clientId steps registry produced delivered quoted
  obtain ⟨-, samples, hread, hnodup, hsamples⟩ := exposition_read_back steps
  have hhistory : Registry.history steps =
    some ([5, 50], [⟨clientId, .failed 0⟩, ⟨clientId, .delivered 0 1 7⟩]) := by decide +kernel
  obtain ⟨m, hm, hcounts⟩ := Registry.counts_of_history hhistory
  replace hm : registry.instruments = some m := hm
  have hvalues : (registry.instruments.map fun m => (m.produced.get? (.of clientId 0),
      (m.latency.get? (.of clientId 0)).map Histogram.count)) = some (some 2, some 1) := by
    decide +kernel
  rw [hm] at hvalues
  obtain ⟨hproduced, hlatency⟩ := Prod.mk.inj (Option.some.inj hvalues)
  obtain ⟨h, hh, hcount⟩ := Option.map_eq_some_iff.1 hlatency
  have hexposes : m.Exposes produced := by
    have hsample : ⟨instrumentName "total", .of clientId 0, none, toString 2⟩ = produced := by
      decide +kernel
    rw [← hsample]
    exact .produced hproduced
  have hexposes' : m.Exposes delivered := by
    have hsample : ⟨instrumentName "latency" ++ "_bucket", .of clientId 0, some "+Inf",
        toString 1⟩ = delivered := by decide +kernel
    have hinfinite := Instruments.Exposes.infinite hh
    rw [hcount, hsample] at hinfinite
    exact hinfinite
  refine ⟨?_, ?_, samples, hread, (hsamples _).2 ⟨m, hm, hexposes⟩,
    (hsamples _).2 ⟨m, hm, hexposes'⟩, ?_⟩
  · have hline := Registry.line_mem_of_exposes hm hcounts.sorted hexposes
    have hchars : produced.line = (produced.name ++ quoted ++ "\x7d 2").toList := by decide +kernel
    rw [← hchars]
    exact hline
  · have hline := Registry.line_mem_of_exposes hm hcounts.sorted hexposes'
    have hchars : delivered.line = (delivered.name ++ quoted ++ ",le=\"+Inf\"\x7d 1").toList := by
      decide +kernel
    rw [← hchars]
    exact hline
  · -- There is one sample of each key only.
    intro hother
    have hsame := List.inj_on_of_nodup_map hnodup hother
      ((hsamples _).2 ⟨m, hm, hexposes⟩) rfl
    exact absurd (congrArg Sample.value hsame) (by decide)

end KafkaCanary
