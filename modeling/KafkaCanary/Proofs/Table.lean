import KafkaCanary.Table
import Mathlib.Data.List.Dedup
import Mathlib.Data.List.Induction
import Mathlib.Data.List.Sort

/-!
# Laws of tables

What a table holds under a key after an insertion. These laws need only that keys that compare as
equal are equal. That the entries are in order matters where entries are taken away: then what stays
under a key is what was there, for there was one entry only.

## Main results

* `Table.get?_insert`: an insertion changes the value under its key and nothing else;
* `Table.mem_keys_iff`: the keys of a table are those it holds a value under;
* `Table.Sorted.get?_eq_some_iff`: a sorted table holds one value under a key;
* `Table.Sorted.map_entries_eq`: what sorted tables hold under keys tells their entries;
* `Table.get?_ofList`, `Table.size_ofList`: what a table of given entries holds, and how many
  entries it has.
-/

namespace KafkaCanary.Table

variable {κ α : Type} [Ord κ] [Std.LawfulEqOrd κ] [DecidableEq κ]

/-- The keys of a table. -/
def keys (table : Table κ α) : List κ :=
  table.entries.map Prod.fst

theorem findEntry_cons (key k : κ) (v : α) (rest : List (κ × α)) :
    findEntry key ((k, v) :: rest) = if key = k then some v else findEntry key rest := by
  simp only [findEntry, Std.LawfulEqOrd.compare_eq_iff_eq]

theorem findEntry_insertEntry (key key' : κ) (value : α)
    (entries : List (κ × α)) : findEntry key' (insertEntry key value entries) =
      if key' = key then some value else findEntry key' entries := by
  -- The new entry stands before the first that has a greater key, or in the place of its own.
  induction entries with
  | nil => rw [insertEntry, findEntry_cons]
  | cons entry rest ih =>
    obtain ⟨k, v⟩ := entry
    rw [insertEntry]
    split
    · rw [findEntry_cons]
    · next heq =>
      obtain rfl := Std.LawfulEqOrd.compare_eq_iff_eq.1 heq
      rw [findEntry_cons, findEntry_cons]
      by_cases h : key' = key
      · rw [if_pos h, if_pos h]
      · rw [if_neg h, if_neg h, if_neg h]
    · next hgt =>
      have hne : key ≠ k := by
        rintro rfl
        rw [Std.LawfulEqOrd.compare_eq_iff_eq.2 rfl] at hgt
        cases hgt
      rw [findEntry_cons, findEntry_cons, ih]
      by_cases h : key' = k
      · rw [if_pos h, if_pos h, if_neg (h ▸ hne.symm)]
      · rw [if_neg h, if_neg h]

/-- An insertion changes the value under its key and nothing else. -/
theorem get?_insert (table : Table κ α) (key key' : κ) (value : α) :
    (table.insert key value).get? key' = if key' = key then some value else table.get? key' :=
  findEntry_insertEntry key key' value table.entries

/-- The keys of a table are those it holds a value under. -/
theorem mem_keys_iff (table : Table κ α) (key : κ) :
    key ∈ table.keys ↔ (table.get? key).isSome := by
  obtain ⟨entries⟩ := table
  show key ∈ entries.map Prod.fst ↔ (findEntry key entries).isSome
  induction entries with
  | nil => simp [findEntry]
  | cons entry rest ih =>
    obtain ⟨k, v⟩ := entry
    rw [List.map_cons, List.mem_cons, ih, findEntry_cons]
    by_cases h : key = k
    · rw [if_pos h]
      exact ⟨fun _ => rfl, fun _ => .inl h⟩
    · rw [if_neg h]
      exact ⟨fun hk => hk.resolve_left h, .inr⟩

/-- A value under a key belongs to an entry. -/
theorem mem_of_get? {table : Table κ α} {key : κ} {value : α} (h : table.get? key = some value) :
    (key, value) ∈ table.entries := by
  obtain ⟨entries⟩ := table
  replace h : findEntry key entries = some value := h
  show (key, value) ∈ entries
  induction entries with
  | nil => cases h
  | cons entry rest ih =>
    obtain ⟨k, v⟩ := entry
    rw [findEntry_cons] at h
    by_cases hk : key = k
    · rw [if_pos hk] at h
      cases h
      rw [hk]
      exact List.mem_cons_self
    · rw [if_neg hk] at h
      exact List.mem_cons_of_mem _ (ih h)

omit [Std.LawfulEqOrd κ] [DecidableEq κ] in
theorem mem_insertEntry {key : κ} {value : α} {entries : List (κ × α)} {entry : κ × α}
    (h : entry ∈ insertEntry key value entries) : entry = (key, value) ∨ entry ∈ entries := by
  induction entries with
  | nil => exact .inl (List.mem_singleton.1 h)
  | cons first rest ih =>
    obtain ⟨k, v⟩ := first
    rw [insertEntry] at h
    split at h
    · exact List.mem_cons.1 h
    · exact (List.mem_cons.1 h).imp_right (List.mem_cons_of_mem _)
    · rcases List.mem_cons.1 h with h | h
      · exact .inr (h ▸ List.mem_cons_self)
      · exact (ih h).imp_right (List.mem_cons_of_mem _)

/-! ## Sorted tables -/

omit [Std.LawfulEqOrd κ] [DecidableEq κ] in
/-- The keys of a table increase from entry to entry. -/
def Sorted (table : Table κ α) : Prop :=
  table.entries.Pairwise fun a b => compare a.1 b.1 = .lt

namespace Sorted

omit [Std.LawfulEqOrd κ] [DecidableEq κ] in
theorem empty : (Table.empty : Table κ α).Sorted :=
  .nil

omit [Std.LawfulEqOrd κ] [DecidableEq κ] in
theorem filter {table : Table κ α} (h : table.Sorted) (p : κ → α → Bool) :
    (table.filter p).Sorted :=
  List.Pairwise.filter _ h

omit [DecidableEq κ] in
theorem insertEntry [Std.TransOrd κ] (key : κ) (value : α) {entries : List (κ × α)}
    (h : entries.Pairwise fun a b => compare a.1 b.1 = .lt) :
    (Table.insertEntry key value entries).Pairwise fun a b => compare a.1 b.1 = .lt := by
  induction entries with
  | nil => exact List.pairwise_singleton _ _
  | cons first rest ih =>
    obtain ⟨k, v⟩ := first
    obtain ⟨hfirst, hrest⟩ := List.pairwise_cons.1 h
    rw [Table.insertEntry]
    split
    · next hlt =>
      refine List.pairwise_cons.2 ⟨List.forall_mem_cons.2 ⟨hlt, fun entry hentry => ?_⟩, h⟩
      exact Std.TransCmp.lt_trans hlt (hfirst entry hentry)
    · next heq =>
      obtain rfl := Std.LawfulEqOrd.compare_eq_iff_eq.1 heq
      exact List.pairwise_cons.2 ⟨hfirst, hrest⟩
    · next hgt =>
      refine List.pairwise_cons.2 ⟨fun entry hentry => ?_, ih hrest⟩
      rcases mem_insertEntry hentry with rfl | hentry
      · exact Std.OrientedCmp.gt_iff_lt.1 hgt
      · exact hfirst entry hentry

omit [DecidableEq κ] in
theorem insert [Std.TransOrd κ] {table : Table κ α} (h : table.Sorted) (key : κ) (value : α) :
    (table.insert key value).Sorted :=
  insertEntry key value h

/-- A sorted table holds one value under a key. -/
theorem get?_eq_some_iff [Std.TransOrd κ] {table : Table κ α} (h : table.Sorted) {key : κ}
    {value : α} : table.get? key = some value ↔ (key, value) ∈ table.entries := by
  refine ⟨mem_of_get?, fun hmem => ?_⟩
  obtain ⟨entries⟩ := table
  replace h : entries.Pairwise fun a b => compare a.1 b.1 = .lt := h
  show findEntry key entries = some value
  induction entries with
  | nil => cases hmem
  | cons first rest ih =>
    obtain ⟨k, v⟩ := first
    obtain ⟨hfirst, hrest⟩ := List.pairwise_cons.1 h
    rw [findEntry_cons]
    rcases List.mem_cons.1 hmem with heq | hrest'
    · cases heq
      exact if_pos rfl
    · have hne : key ≠ k := by
        rintro rfl
        have hlt := hfirst (key, value) hrest'
        rw [Std.LawfulEqOrd.compare_eq_iff_eq.2 rfl] at hlt
        cases hlt
      rw [if_neg hne]
      exact ih hrest' hrest

/-- What stays under a key of a sorted table is what was there, if it passes the test. -/
theorem get?_filter_eq_some_iff [Std.TransOrd κ] {table : Table κ α} (h : table.Sorted)
    (p : κ → α → Bool) {key : κ} {value : α} :
    (table.filter p).get? key = some value ↔ table.get? key = some value ∧ p key value := by
  rw [(h.filter p).get?_eq_some_iff, h.get?_eq_some_iff]
  exact List.mem_filter

/-- Entries of sorted tables that hold the same under all keys, as far as `f` tells, are the same as
far as `f` tells. -/
theorem map_entries_eq [Std.TransOrd κ] {table table' : Table κ α} (h : table.Sorted)
    (h' : table'.Sorted) {β : Type} (f : α → β)
    (heq : ∀ key, (table.get? key).map f = (table'.get? key).map f) :
    table.entries.map (Prod.map id f) = table'.entries.map (Prod.map id f) := by
  let r (a b : κ × β) : Prop := compare a.1 b.1 = .lt
  have : Std.Irrefl r := ⟨fun a hlt => by
    have hself : compare a.1 a.1 = .eq := Std.LawfulEqOrd.compare_eq_iff_eq.2 rfl
    rw [show compare a.1 a.1 = .lt from hlt] at hself
    cases hself⟩
  have : Std.Antisymm r := ⟨fun a b hab hba =>
    absurd (Std.OrientedCmp.gt_of_lt hba) (by rw [show compare a.1 b.1 = .lt from hab]; nofun)⟩
  have hpairwise {t : Table κ α} (ht : t.Sorted) : (t.entries.map (Prod.map id f)).Pairwise r :=
    List.pairwise_map.2 ht
  have hmem {t : Table κ α} (ht : t.Sorted) (key : κ) (b : β) :
      (key, b) ∈ t.entries.map (Prod.map id f) ↔ (t.get? key).map f = some b := by
    rw [Option.map_eq_some_iff, List.mem_map]
    constructor
    · rintro ⟨⟨k, a⟩, ha, hk⟩
      obtain ⟨rfl, rfl⟩ := Prod.mk.inj hk
      exact ⟨a, ht.get?_eq_some_iff.2 ha, rfl⟩
    · rintro ⟨a, ha, rfl⟩
      exact ⟨(key, a), ht.get?_eq_some_iff.1 ha, rfl⟩
  refine (hpairwise h).eq_of_mem_iff (hpairwise h') fun ⟨key, b⟩ => ?_
  rw [hmem h, hmem h', heq]

/-- Sorted tables that hold the same under all keys are the same. -/
theorem ext [Std.TransOrd κ] {table table' : Table κ α} (h : table.Sorted) (h' : table'.Sorted)
    (heq : ∀ key, table.get? key = table'.get? key) : table = table' := by
  have hentries := h.map_entries_eq h' id fun key => congrArg _ (heq key)
  rw [Prod.map_id, List.map_id, List.map_id] at hentries
  cases table
  exact congrArg _ hentries

omit [DecidableEq κ] in
/-- A sorted table has one entry for a key. -/
theorem nodup_keys {table : Table κ α} (h : table.Sorted) : table.keys.Nodup := by
  refine List.pairwise_map.2 (h.imp fun {a b} hlt heq => ?_)
  rw [Std.LawfulEqOrd.compare_eq_iff_eq.2 heq] at hlt
  cases hlt

omit [DecidableEq κ] in
theorem ofList [Std.TransOrd κ] (entries : List (κ × α)) : (Table.ofList entries).Sorted := by
  induction entries using List.reverseRecOn with
  | nil => exact .empty
  | append_singleton entries entry ih =>
    rw [Table.ofList, List.foldl_concat]
    exact ih.insert _ _

end Sorted

/-! ## Tables of given entries -/

/-- Of several entries with one key the last one counts. -/
theorem get?_ofList (entries : List (κ × α)) (key : κ) :
    (ofList entries).get? key = (entries.reverse.find? (·.1 = key)).map Prod.snd := by
  induction entries using List.reverseRecOn with
  | nil => rfl
  | append_singleton entries entry ih =>
    rw [ofList, List.foldl_concat, List.reverse_concat, List.find?_cons]
    refine (get?_insert (ofList entries) entry.1 key entry.2).trans ?_
    by_cases h : key = entry.1
    · rw [if_pos h, decide_eq_true h.symm]
      rfl
    · rw [if_neg h, decide_eq_false fun h' => h h'.symm]
      exact ih

theorem mem_keys_ofList (entries : List (κ × α)) (key : κ) :
    key ∈ (ofList entries).keys ↔ key ∈ entries.map Prod.fst := by
  rw [mem_keys_iff, get?_ofList, Option.isSome_map, List.find?_isSome, List.mem_map]
  simp only [List.mem_reverse, decide_eq_true_eq]

/-- There is one entry for each of the keys that are given. -/
theorem size_ofList [Std.TransOrd κ] (entries : List (κ × α)) :
    (ofList entries).size = (entries.map Prod.fst).dedup.length := by
  have hperm : (ofList entries).keys.Perm (entries.map Prod.fst).dedup :=
    (List.perm_ext_iff_of_nodup (Sorted.ofList entries).nodup_keys (List.nodup_dedup _)).2
      fun key => (mem_keys_ofList entries key).trans List.mem_dedup.symm
  rw [← hperm.length_eq, keys, List.length_map]
  rfl

end KafkaCanary.Table
