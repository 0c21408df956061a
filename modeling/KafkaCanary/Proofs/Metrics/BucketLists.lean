import KafkaCanary.Proofs.Metrics.Registrations
import KafkaCanary.Proofs.Results
import KafkaCanary.Proofs.Text.CommaLists

/-!
# Bucket lists

A written list of bounds is cut at its commas, every entry is read, and only then are the bounds
judged. Bounds are judged by pairs of neighbours, which is enough: floating-point numbers are not
totally ordered, but `<` is transitive on them, so that neighbours in order put all bounds in order.

A list is refused for one fault. Which one it is depends on the kind of fault before it depends on
its place: an entry that is no number comes before all others, wherever it stands, then a bound that
is not finite, and then two neighbours that are not in order.

## Main results

* `Magnitude.lt_iff_not_ge`, `Magnitude.lt_trans`: the order of finite bounds;
* `Buckets.mapM_readEntry_append`: the first entry that is no number is named;
* `Buckets.check_eq_ok_iff` and its companions: which bounds are judged how;
* `Buckets.parse_of_firstUnread`, `Buckets.parse_of_lists`: which of the two is told;
* `Buckets.written_bounds_judged`: the outcome for every list.
-/

namespace KafkaCanary

/-! ## The order of bounds -/

namespace Magnitude

open Float.Model

/-- One number is less than another one if both are numbers and the order says so. -/
theorem lt_iff {a b : Float} : a < b ↔ a.toModel.unpack ≠ .notANumber ∧
    b.toModel.unpack ≠ .notANumber ∧ order a.toModel.unpack b.toModel.unpack = .lt := by
  have hlt : a < b ↔ (a.toModel.unpack.compare b.toModel.unpack == some .lt) = true :=
    show decide (a.toModel < b.toModel) = true ↔ _ from decide_eq_true_iff
  rw [hlt, beq_iff_eq]
  -- The running comparison has no result for what is no number, the order has one for everything.
  by_cases h : a.toModel.unpack = .notANumber ∨ b.toModel.unpack = .notANumber
  · rw [compare_eq_none h]
    exact ⟨nofun, fun ⟨ha, hb, _⟩ => (h.elim ha hb).elim⟩
  · obtain ⟨ha, hb⟩ := not_or.1 h
    simp [compare_eq_order ha hb, ha, hb]

theorem lt_trans {a b c : Float} (hab : a < b) (hbc : b < c) : a < c := by
  obtain ⟨ha, -, hab⟩ := lt_iff.1 hab
  obtain ⟨-, hc, hbc⟩ := lt_iff.1 hbc
  exact lt_iff.2 ⟨ha, hc, Std.TransCmp.lt_trans hab hbc⟩

instance instTransLT : Trans (α := Float) (β := Float) (γ := Float) (· < ·) (· < ·) (· < ·) :=
  ⟨lt_trans⟩

/-- Of two finite numbers, one is less than the other one or at least as large. -/
theorem lt_iff_not_ge {a b : Float} (ha : a.isFinite) (hb : b.isFinite) : a < b ↔ ¬a ≥ b := by
  have hna := unpack_ne_of_isFinite ha
  have hnb := unpack_ne_of_isFinite hb
  have hswap : order a.toModel.unpack b.toModel.unpack =
      (order b.toModel.unpack a.toModel.unpack).swap := Std.OrientedCmp.eq_swap
  rw [lt_iff, ge_iff_le, le_iff]
  simp only [hna, hnb, ne_eq, not_false_eq_true, true_and]
  rw [hswap]
  cases order b.toModel.unpack a.toModel.unpack <;> simp

end Magnitude

/-! ## Entries read -/

namespace Buckets

/-- All entries are read if every one is a number. -/
theorem mapM_readEntry_eq_ok_iff {entries : List String} {bounds : List Float} :
    entries.mapM readEntry = .ok bounds ↔ entries.map Decimal.readLiteral = bounds.map some := by
  induction entries generalizing bounds with
  | nil => cases bounds <;> simp [pure, Except.pure]
  | cons entry entries ih =>
    rw [List.mapM_cons, bind_eq_ok_iff]
    cases hread : Decimal.readLiteral entry with
    | none => cases bounds <;> simp [readEntry, hread]
    | some bound =>
      cases bounds <;>
        simp [readEntry, hread, bind_eq_ok_iff, pure, Except.pure, ih, and_comm]

theorem mapM_readEntry_cons (entry : String) (entries : List String) :
    (entry :: entries).mapM readEntry =
      match Decimal.readLiteral entry with
      | some bound => (entries.mapM readEntry).map (bound :: ·)
      | none => .error (.invalid entry) := by
  rw [List.mapM_cons, readEntry]
  cases Decimal.readLiteral entry with
  | none => rfl
  | some bound => cases entries.mapM readEntry <;> rfl

/-- Entries are not read if one of them is no number, and the first such one is named. -/
theorem mapM_readEntry_append {before after : List String} {entry : String}
    (hnone : Decimal.readLiteral entry = none)
    (hbefore : ∀ e ∈ before, Decimal.readLiteral e ≠ none) :
    (before ++ entry :: after).mapM readEntry = .error (.invalid entry) := by
  induction before with
  | nil => rw [List.nil_append, mapM_readEntry_cons, hnone]
  | cons e before ih =>
    rw [List.forall_mem_cons] at hbefore
    obtain ⟨bound, hread⟩ := Option.ne_none_iff_exists'.1 hbefore.1
    rw [List.cons_append, mapM_readEntry_cons, hread, ih hbefore.2]
    rfl

/-- There is no other reason not to read entries. -/
theorem exists_of_mapM_readEntry {entries : List String} {fault : BucketFault}
    (h : entries.mapM readEntry = .error fault) : ∃ before entry after,
      entries = before ++ entry :: after ∧ fault = .invalid entry ∧
        Decimal.readLiteral entry = none ∧ ∀ e ∈ before, Decimal.readLiteral e ≠ none := by
  induction entries with
  | nil => cases h
  | cons e entries ih =>
    rw [mapM_readEntry_cons] at h
    cases hread : Decimal.readLiteral e with
    | none =>
      rw [hread] at h
      cases h
      exact ⟨[], e, entries, rfl, rfl, hread, List.forall_mem_nil _⟩
    | some bound =>
      rw [hread] at h
      cases hrest : entries.mapM readEntry with
      | ok bounds =>
        rw [hrest] at h
        cases h
      | error fault' =>
        rw [hrest] at h
        cases h
        obtain ⟨before, entry, after, rfl, hfault, hnone, hbefore⟩ := ih hrest
        refine ⟨e :: before, entry, after, rfl, hfault, hnone, List.forall_mem_cons.2 ⟨?_, hbefore⟩⟩
        rw [hread]
        exact Option.some_ne_none bound

end Buckets

/-! ## Bounds judged -/

namespace Buckets

/-- Bounds have no descent if neighbours are in order. -/
theorem firstDescent_eq_none_iff {bounds : List Float} :
    firstDescent bounds = none ↔ bounds.IsChain fun c d => ¬c ≥ d := by
  induction bounds with
  | nil => simp [firstDescent]
  | cons c rest ih =>
    cases rest with
    | nil => simp [firstDescent]
    | cons d rest =>
      rw [firstDescent, List.isChain_cons_cons, ← ih]
      by_cases h : c ≥ d <;> simp [h]

/-- Neighbours that are not in order are found if those before them are. -/
theorem firstDescent_append {before after : List Float} {a b : Float} (hab : a ≥ b)
    (hbefore : (before ++ [a]).IsChain fun c d => ¬c ≥ d) :
    firstDescent (before ++ a :: b :: after) = some (a, b) := by
  induction before with
  | nil => rw [List.nil_append, firstDescent, if_pos hab]
  | cons c before ih =>
    cases before with
    | nil =>
      rw [List.singleton_append, List.isChain_cons_cons] at hbefore
      rw [List.singleton_append, firstDescent, if_neg hbefore.1]
      exact ih hbefore.2
    | cons d before =>
      rw [List.cons_append, List.cons_append, List.isChain_cons_cons] at hbefore
      rw [List.cons_append, List.cons_append, firstDescent, if_neg hbefore.1]
      exact ih hbefore.2

theorem exists_of_firstDescent {bounds : List Float} {a b : Float}
    (h : firstDescent bounds = some (a, b)) : ∃ before after, bounds = before ++ a :: b :: after ∧
      a ≥ b ∧ (before ++ [a]).IsChain fun c d => ¬c ≥ d := by
  fun_induction firstDescent bounds with
  | case1 c d rest hcd =>
    cases h
    exact ⟨[], rest, rfl, hcd, .singleton _⟩
  | case2 c d rest hcd ih =>
    obtain ⟨before, after, hrest, hab, hbefore⟩ := ih h
    refine ⟨c :: before, after, by rw [hrest, List.cons_append], hab, ?_⟩
    -- The neighbour is the first bound before the descent, or begins it.
    cases before with
    | nil =>
      cases hrest
      exact List.isChain_cons_cons.2 ⟨hcd, hbefore⟩
    | cons e before =>
      cases hrest
      exact List.isChain_cons_cons.2 ⟨hcd, hbefore⟩
  | case3 => cases h

/-- Of several descents the first one is found. -/
theorem firstDescent_eq_some_iff {bounds : List Float} {a b : Float} :
    firstDescent bounds = some (a, b) ↔ ∃ before after, bounds = before ++ a :: b :: after ∧ a ≥ b ∧
      (before ++ [a]).IsChain fun c d => ¬c ≥ d := by
  refine ⟨exists_of_firstDescent, ?_⟩
  rintro ⟨before, after, rfl, hab, hbefore⟩
  exact firstDescent_append hab hbefore

/-- Finite neighbours in order put all bounds in order. -/
theorem pairwise_iff_isChain {bounds : List Float} (hfinite : ∀ b ∈ bounds, b.isFinite) :
    bounds.Pairwise (· < ·) ↔ bounds.IsChain fun a b => ¬a ≥ b := by
  rw [← List.isChain_iff_pairwise]
  induction bounds with
  | nil => simp
  | cons a rest ih =>
    cases rest with
    | nil => simp
    | cons b rest =>
      rw [List.isChain_cons_cons, List.isChain_cons_cons, ih (by simp_all),
        Magnitude.lt_iff_not_ge (by simp_all) (by simp_all)]

theorem find?_isFinite_eq_none_iff {bounds : List Float} :
    bounds.find? (!·.isFinite) = none ↔ ∀ b ∈ bounds, b.isFinite := by
  simp

/-- What the check says, by what it looks for: bounds that can be used have nothing that is looked
for, and of several faults the one looked for first is told. -/
theorem check_cases (bounds : List Float) :
    (bounds = [] ∧ check bounds = .error .empty) ∨
    (∃ b, bounds.find? (!·.isFinite) = some b ∧ check bounds = .error (.notFinite b)) ∨
    (bounds ≠ [] ∧ (∀ b ∈ bounds, b.isFinite) ∧
      ((∃ a b, firstDescent bounds = some (a, b) ∧ check bounds = .error (.notIncreasing a b)) ∨
        firstDescent bounds = none ∧ check bounds = .ok ())) := by
  rw [check]
  by_cases hempty : bounds = []
  · simp [hempty]
  rw [if_neg (by simpa using hempty)]
  cases hfind : bounds.find? (!·.isFinite) with
  | some b => simp
  | none =>
    have hfinite := find?_isFinite_eq_none_iff.1 hfind
    cases hdescent : firstDescent bounds with
    | none => simpa [hempty] using hfinite
    | some pair => simpa [hempty] using hfinite

/-- Bounds can be used if there is one and all are finite and in order. -/
theorem check_eq_ok_iff {bounds : List Float} : check bounds = .ok () ↔
    bounds ≠ [] ∧ (∀ b ∈ bounds, b.isFinite) ∧ bounds.Pairwise (· < ·) := by
  obtain ⟨hempty, hcheck⟩ | ⟨b, hfind, hcheck⟩ | ⟨hne, hfinite, h⟩ := check_cases bounds
  · subst hempty
    simp [hcheck]
  · have hb := List.find?_some hfind
    have hmem := List.mem_of_find?_eq_some hfind
    simp only [hcheck, reduceCtorEq, false_iff]
    rintro ⟨-, hfinite, -⟩
    simp [hfinite b hmem] at hb
  · rw [pairwise_iff_isChain hfinite, ← firstDescent_eq_none_iff]
    obtain ⟨a, b, hdescent, hcheck⟩ | ⟨hdescent, hcheck⟩ := h
    · simp [hcheck, hdescent]
    · simpa [hcheck, hdescent, hne] using hfinite

theorem check_eq_empty_iff {bounds : List Float} :
    check bounds = .error .empty ↔ bounds = [] := by
  obtain ⟨hempty, hcheck⟩ | ⟨b, hfind, hcheck⟩ | ⟨hne, -, ⟨a, b, -, hcheck⟩ | ⟨-, hcheck⟩⟩ :=
    check_cases bounds
  · simpa [hempty] using hcheck
  · have hmem := List.mem_of_find?_eq_some hfind
    simpa [hcheck] using List.ne_nil_of_mem hmem
  all_goals simp [hcheck, hne]

/-- A bound that is not finite is told if there is one, and of several ones the first. -/
theorem check_eq_notFinite_iff {bounds : List Float} {b : Float} :
    check bounds = .error (.notFinite b) ↔ ∃ before after, bounds = before ++ b :: after ∧
      ¬b.isFinite ∧ ∀ a ∈ before, a.isFinite := by
  have hfound : check bounds = .error (.notFinite b) ↔ bounds.find? (!·.isFinite) = some b := by
    obtain ⟨hempty, hcheck⟩ | ⟨c, hfind, hcheck⟩ | ⟨-, hfinite, h⟩ := check_cases bounds
    · exact ⟨fun h => by simp [hcheck] at h, fun h => by simp [hempty] at h⟩
    · simp [hcheck, hfind]
    · rw [find?_isFinite_eq_none_iff.2 hfinite]
      obtain ⟨c, d, -, hcheck⟩ | ⟨-, hcheck⟩ := h <;> simp [hcheck]
  rw [hfound, List.find?_eq_some_iff_append]
  constructor
  · rintro ⟨hb, before, after, hbounds, hbefore⟩
    exact ⟨before, after, hbounds, by simpa using hb, by simpa using hbefore⟩
  · rintro ⟨before, after, hbounds, hb, hbefore⟩
    exact ⟨by simpa using hb, before, after, hbounds, by simpa using hbefore⟩

/-- Two neighbours that are not in order are told if all bounds are finite, and of several ones the
first. -/
theorem check_eq_notIncreasing_iff {bounds : List Float} {a b : Float} :
    check bounds = .error (.notIncreasing a b) ↔ (∀ c ∈ bounds, c.isFinite) ∧
      ∃ before after, bounds = before ++ a :: b :: after ∧ ¬a < b ∧
        (before ++ [a]).Pairwise (· < ·) := by
  have hfound : check bounds = .error (.notIncreasing a b) ↔
      (∀ c ∈ bounds, c.isFinite) ∧ firstDescent bounds = some (a, b) := by
    obtain ⟨hempty, hcheck⟩ | ⟨c, hfind, hcheck⟩ | ⟨-, hfinite, h⟩ := check_cases bounds
    · subst hempty
      simp [hcheck, firstDescent]
    · have hc := List.find?_some hfind
      have hmem := List.mem_of_find?_eq_some hfind
      simp only [hcheck, Except.error.injEq, reduceCtorEq, false_iff]
      rintro ⟨hfinite, -⟩
      simp [hfinite c hmem] at hc
    · obtain ⟨c, d, hdescent, hcheck⟩ | ⟨hdescent, hcheck⟩ := h
      · simpa [hcheck, hdescent] using fun _ _ => hfinite
      · simp [hcheck, hdescent]
  rw [hfound, firstDescent_eq_some_iff]
  refine and_congr_right fun hfinite => exists_congr fun before => exists_congr fun after =>
    and_congr_right fun hbounds => ?_
  subst hbounds
  -- All bounds up to the descent are finite, so neighbours in order are enough there too.
  have hbefore : ∀ c ∈ before ++ [a], c.isFinite := fun c hc => hfinite c (by simp at hc ⊢; tauto)
  rw [pairwise_iff_isChain hbefore, Magnitude.lt_iff_not_ge (by simp_all) (by simp_all), not_not]

/-- The check says nothing of entries. -/
theorem check_ne_invalid (bounds : List Float) (entry : String) :
    check bounds ≠ .error (.invalid entry) := by
  obtain ⟨-, hcheck⟩ | ⟨b, -, hcheck⟩ | ⟨-, -, ⟨a, b, -, hcheck⟩ | ⟨-, hcheck⟩⟩ :=
    check_cases bounds <;> simp [hcheck]

/-! ## Lists parsed -/

/-- The bounds that a list stands for, whether they can be used or not. -/
def Lists (s : String) (bounds : List Float) : Prop :=
  (Text.entries s).map Decimal.readLiteral = bounds.map some

/-- The first entry of a list that is no number. -/
def FirstUnread (s entry : String) : Prop :=
  ∃ before after, Text.entries s = before ++ entry :: after ∧ Decimal.readLiteral entry = none ∧
    ∀ e ∈ before, Decimal.readLiteral e ≠ none

theorem exists_firstUnread_or_lists (s : String) :
    (∃ entry, FirstUnread s entry) ∨ ∃ bounds, Lists s bounds := by
  cases hread : (Text.entries s).mapM readEntry with
  | error fault =>
    obtain ⟨before, entry, after, hentries, -, hentry⟩ := exists_of_mapM_readEntry hread
    exact .inl ⟨entry, before, after, hentries, hentry⟩
  | ok bounds => exact .inr ⟨bounds, mapM_readEntry_eq_ok_iff.1 hread⟩

/-- A list is refused for its first entry that is no number, whatever else is wrong with it. -/
theorem parse_of_firstUnread {s entry : String} (h : FirstUnread s entry) :
    parse s = .error (.invalid entry) := by
  obtain ⟨before, after, hentries, hnone, hbefore⟩ := h
  rw [parse, hentries, mapM_readEntry_append hnone hbefore]
  rfl

/-- A list of numbers is refused for what the check says of them, and read if it says nothing. -/
theorem parse_of_lists {s : String} {bounds : List Float} (h : Lists s bounds) :
    parse s = (check bounds).map fun _ => bounds := by
  rw [parse, mapM_readEntry_eq_ok_iff.2 h]
  show (check bounds >>= fun _ => .ok bounds) = _
  cases check bounds <;> rfl

theorem parse_eq_error_iff_of_lists {s : String} {bounds : List Float} (h : Lists s bounds)
    (fault : BucketFault) : parse s = .error fault ↔ check bounds = .error fault := by
  rw [parse_of_lists h]
  cases check bounds <;> simp [Except.map]

theorem parse_eq_invalid_iff {s entry : String} :
    parse s = .error (.invalid entry) ↔ FirstUnread s entry := by
  refine ⟨fun h => ?_, parse_of_firstUnread⟩
  obtain ⟨entry', hunread⟩ | ⟨bounds, hlists⟩ := exists_firstUnread_or_lists s
  · rw [parse_of_firstUnread hunread] at h
    cases h
    exact hunread
  · exact absurd ((parse_eq_error_iff_of_lists hlists _).1 h) (check_ne_invalid bounds entry)

theorem parse_eq_ok_iff {s : String} {bounds : List Float} :
    parse s = .ok bounds ↔ Lists s bounds ∧ check bounds = .ok () := by
  constructor
  · intro h
    obtain ⟨entry, hunread⟩ | ⟨bounds', hlists⟩ := exists_firstUnread_or_lists s
    · simp [parse_of_firstUnread hunread] at h
    · rw [parse_of_lists hlists, map_eq_ok_iff] at h
      obtain ⟨_, hcheck, rfl⟩ := h
      exact ⟨hlists, hcheck⟩
  · rintro ⟨hlists, hcheck⟩
    rw [parse_of_lists hlists, hcheck]
    rfl

/-- What becomes of a written list. It is read as the bounds that it stands for if there is one,
all are finite and every one is less than all later ones, and such bounds can be registered. Of
several faults, the first entry that is no number is told, then that there are no bounds, then the
first bound that is not finite, then the first two neighbours that are not in order. -/
theorem written_bounds_judged (s : String) :
    Text.entries s = (((s.toList.splitOn ',').map fun piece =>
      (piece.dropWhile Text.isBlank).rdropWhile Text.isBlank).filter (· ≠ [])).map String.ofList ∧
    (∀ bounds, parse s = .ok bounds ↔ Lists s bounds ∧ bounds ≠ [] ∧
      (∀ b ∈ bounds, b.isFinite) ∧ bounds.Pairwise (· < ·)) ∧
    (∀ bounds, parse s = .ok bounds →
      Registry.empty.register bounds = .ok ⟨some (.init bounds)⟩) ∧
    ((∃ entry, FirstUnread s entry) ∨ ∃ bounds, Lists s bounds) ∧
    (∀ entry, parse s = .error (.invalid entry) ↔ FirstUnread s entry) ∧
    ∀ bounds, Lists s bounds →
      (parse s = .error .empty ↔ bounds = []) ∧
      (∀ b, parse s = .error (.notFinite b) ↔ ∃ before after, bounds = before ++ b :: after ∧
        ¬b.isFinite ∧ ∀ a ∈ before, a.isFinite) ∧
      ∀ a b, parse s = .error (.notIncreasing a b) ↔ (∀ c ∈ bounds, c.isFinite) ∧
        ∃ before after, bounds = before ++ a :: b :: after ∧ ¬a < b ∧
          (before ++ [a]).Pairwise (· < ·) := by
  refine ⟨Text.entries_eq_filter s, fun bounds => ?_, fun bounds h => ?_,
    exists_firstUnread_or_lists s, fun entry => parse_eq_invalid_iff, fun bounds h => ⟨?_, ?_, ?_⟩⟩
  · rw [parse_eq_ok_iff, check_eq_ok_iff]
  · rw [Registry.register, (parse_eq_ok_iff.1 h).2]
    rfl
  · rw [parse_eq_error_iff_of_lists h, check_eq_empty_iff]
  · intro b
    rw [parse_eq_error_iff_of_lists h, check_eq_notFinite_iff]
  · intro a b
    rw [parse_eq_error_iff_of_lists h, check_eq_notIncreasing_iff]

/-- A list with blanks and an empty entry, and one with every fault, which is told of the entry that
is no number although an infinite bound and a descent precede it. -/
theorem written_bounds_judged_with_every_fault :
    parse " 5 ,,1e1\t" = .ok [5, 10] ∧
      Registry.empty.register [5, 10] = .ok ⟨some (.init [5, 10])⟩ ∧
      parse "7, 5, inf, ten, x" = .error (.invalid "ten") ∧
      parse "7, 5, inf" = .error (.notFinite (1 / 0)) ∧
      parse "5, 7, 7, 6" = .error (.notIncreasing 7 7) ∧
      parse " , " = .error .empty := by
  obtain ⟨-, hok, hregister, -⟩ := written_bounds_judged " 5 ,,1e1\t"
  obtain ⟨-, -, -, -, hinvalid, -⟩ := written_bounds_judged "7, 5, inf, ten, x"
  obtain ⟨-, -, -, -, -, hinfinite⟩ := written_bounds_judged "7, 5, inf"
  obtain ⟨-, -, -, -, -, hdescent⟩ := written_bounds_judged "5, 7, 7, 6"
  obtain ⟨-, -, -, -, -, hempty⟩ := written_bounds_judged " , "
  have hlists : Lists " 5 ,,1e1\t" [5, 10] ∧ Lists "7, 5, inf" [7, 5, 1 / 0] ∧
      Lists "5, 7, 7, 6" [5, 7, 7, 6] ∧ Lists " , " [] := by
    unfold Lists
    decide +kernel
  have hunread : FirstUnread "7, 5, inf, ten, x" "ten" :=
    ⟨["7", "5", "inf"], ["x"], by decide +kernel⟩
  obtain ⟨hread, hlistInfinite, hlistDescent, hlistEmpty⟩ := hlists
  have hread := (hok [5, 10]).2 ⟨hread, by simp, by decide +kernel, by decide +kernel⟩
  refine ⟨hread, hregister _ hread, (hinvalid "ten").2 hunread, ?_, ?_, ?_⟩
  · exact ((hinfinite _ hlistInfinite).2.1 _).2 ⟨[7, 5], [], by simp, by decide +kernel⟩
  · exact ((hdescent _ hlistDescent).2.2 7 7).2
      ⟨by decide +kernel, [5], [6], by simp, by decide +kernel⟩
  · exact (hempty _ hlistEmpty).1.2 rfl

end Buckets

end KafkaCanary
