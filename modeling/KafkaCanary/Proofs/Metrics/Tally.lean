import KafkaCanary.Metrics.Instruments
import KafkaCanary.Proofs.Table

/-!
# What instruments show

What a table shows after labels were counted in it, one after the other. A table knows labels by
their fingerprint, so what is shown for labels depends on which of those with their fingerprint came
first: the first ones are shown with everything that shares their fingerprint, and the others are
not shown (`tally`). Labels that share their fingerprint with no others are shown with what was
counted for them.

## Main results

* `Tallies.count`: counting labels keeps a table in accord with what was counted;
* `tally_eq_held`, `held_of_unshared`: what a table has counted for labels;
* `Tallies.size_eq_shown`: the number of values that a table shows for labels;
* `shown_of_unshared`: that number for labels that share their fingerprint with no others.
-/

namespace KafkaCanary

/-- Labels that compare as equal are equal. -/
instance : Std.LawfulEqOrd Labels where
  eq_of_compare {a b} h := by
    obtain ⟨hclient, hpartition⟩ := Ordering.then_eq_eq.1 h
    cases a
    cases b
    rw [Std.LawfulEqOrd.compare_eq_iff_eq] at hclient hpartition
    exact congr (congrArg _ hclient) hpartition
  compare_self {a} := by
    refine Ordering.then_eq_eq.2 ⟨?_, ?_⟩ <;> exact Std.LawfulEqOrd.compare_eq_iff_eq.2 rfl

section Tallies

variable {α β : Type}

/-- Of the labels counted, the first ones with the fingerprint of those given. -/
def leader (events : List (Labels × β)) (labels : Labels) : Option Labels :=
  (events.map Prod.fst).find? (·.fingerprint == labels.fingerprint)

/-- What was counted for any labels with the fingerprint of those given, in order. -/
def gathered (events : List (Labels × β)) (labels : Labels) : List β :=
  (events.filter (·.1.fingerprint == labels.fingerprint)).map Prod.snd

/-- What a table shows for labels: everything that was counted for their fingerprint if they were
the first of it, and nothing if not. -/
def tally (start : α) (f : β → α → α) (events : List (Labels × β)) (labels : Labels) : Option α :=
  if leader events labels = some labels then
    some ((gathered events labels).foldl (fun a b => f b a) start)
  else none

/-- A table in accord with what was counted: each event in `events` has changed by `f` what was
counted before, which was `start` in the beginning. -/
def Tallies (start : α) (f : β → α → α) (table : Table Labels α)
    (events : List (Labels × β)) : Prop :=
  ∀ labels, table.get? labels = tally start f events labels

/-! ## Leaders -/

/-- Labels of one fingerprint have one leader. -/
theorem leader_congr {labels labels' : Labels} (events : List (Labels × β))
    (h : labels.fingerprint = labels'.fingerprint) :
    leader events labels = leader events labels' := by
  rw [leader, leader, h]

/-- A leader has the fingerprint of those it leads. -/
theorem fingerprint_of_leader {events : List (Labels × β)} {labels l : Labels}
    (h : leader events labels = some l) : l.fingerprint = labels.fingerprint := by
  simpa using List.find?_some h

/-- Whether led or alone, the fingerprint is the same. -/
theorem fingerprint_getD_leader (events : List (Labels × β)) (labels : Labels) :
    ((leader events labels).getD labels).fingerprint = labels.fingerprint := by
  cases h : leader events labels with
  | none => rfl
  | some l => exact fingerprint_of_leader h

/-- An event at the end leads only where nothing led before. -/
theorem leader_concat (events : List (Labels × β)) (l : Labels) (b : β) (labels : Labels) :
    leader (events ++ [(l, b)]) labels = (leader events labels).or
      (if l.fingerprint = labels.fingerprint then some l else none) := by
  rw [leader, List.map_append, List.find?_append]
  by_cases h : l.fingerprint = labels.fingerprint
  · simp [leader, h]
  · simp [leader, h]

/-- An event at the end is gathered under its fingerprint. -/
theorem gathered_concat (events : List (Labels × β)) (l : Labels) (b : β) (labels : Labels) :
    gathered (events ++ [(l, b)]) labels = gathered events labels ++
      if l.fingerprint = labels.fingerprint then [b] else [] := by
  rw [gathered, List.filter_append, List.map_append]
  by_cases h : l.fingerprint = labels.fingerprint
  · simp [gathered, h]
  · simp [gathered, h]

/-- Nothing was counted for a fingerprint that no labels counted have. -/
theorem gathered_of_leader_eq_none {events : List (Labels × β)} {labels : Labels}
    (h : leader events labels = none) : gathered events labels = [] := by
  rw [leader, List.find?_eq_none] at h
  rw [gathered, List.map_eq_nil_iff, List.filter_eq_nil_iff]
  exact fun event hevent => h event.1 (List.mem_map_of_mem hevent)

/-! ## Counting -/

variable {start : α} {f : β → α → α} {table : Table Labels α} {events : List (Labels × β)}

/-- An empty table tallies no events. -/
theorem Tallies.empty : Tallies start f .empty [] :=
  fun _ => rfl

/-- Labels are known as the first ones of their fingerprint. -/
theorem Tallies.knownAs_eq (h : Tallies start f table events) (labels : Labels) :
    table.knownAs labels = (leader events labels).getD labels := by
  show (table.keys.find? _).getD labels = _
  congr 1
  cases hfind : table.keys.find? (·.fingerprint == labels.fingerprint) with
  | none =>
    cases hleader : leader events labels with
    | none => rfl
    | some l =>
      -- The leader would be a key of the table.
      have hl := fingerprint_of_leader hleader
      have hkey : l ∈ table.keys := by
        rw [Table.mem_keys_iff, h l, tally, leader_congr events hl, if_pos hleader]
        rfl
      exact absurd (beq_iff_eq.2 hl) (List.find?_eq_none.1 hfind l hkey)
  | some k =>
    have hk : k.fingerprint = labels.fingerprint := by simpa using List.find?_some hfind
    have hkey : (table.get? k).isSome :=
      (table.mem_keys_iff k).1 (List.mem_of_find?_eq_some hfind)
    rw [h k, tally] at hkey
    split at hkey
    · next hleader => rw [← leader_congr events hk, hleader]
    · -- Nothing is shown for other labels, so these are no key.
      cases hkey

/-- An event under another fingerprint changes nothing. -/
theorem tally_concat_of_ne {l labels : Labels} (b : β)
    (hne : l.fingerprint ≠ labels.fingerprint) :
    tally start f (events ++ [(l, b)]) labels = tally start f events labels := by
  rw [tally, tally, leader_concat, gathered_concat, if_neg hne, if_neg hne, Option.or_none,
    List.append_nil]

/-- What a table shows for labels depends only on what was counted for their fingerprint. -/
theorem tally_congr {events' : List (Labels × β)} {labels : Labels}
    (h : events.filter (·.1.fingerprint == labels.fingerprint) =
      events'.filter (·.1.fingerprint == labels.fingerprint)) :
    tally start f events labels = tally start f events' labels := by
  have hleader : leader events labels = leader events' labels := by
    rw [leader, leader, List.find?_map, List.find?_map, ← List.head?_filter, ← List.head?_filter]
    exact congrArg (fun es : List (Labels × β) => es.head?.map Prod.fst) h
  rw [tally, tally, hleader, gathered, gathered, h]

/-- Nothing is shown for labels that were not counted. -/
theorem tally_of_not_mem {labels : Labels} (h : labels ∉ events.map Prod.fst) :
    tally start f events labels = none :=
  if_neg fun hleader => h (List.mem_of_find?_eq_some hleader)

/-- What a table holds for labels that no others came before. -/
theorem Tallies.getD_eq_foldl (h : Tallies start f table events) {labels : Labels}
    (hfirst : (leader events labels).getD labels = labels) :
    (table.get? labels).getD start =
      (gathered events labels).foldl (fun a b => f b a) start := by
  rw [h labels, tally]
  cases hleader : leader events labels with
  | none => rw [if_neg nofun, gathered_of_leader_eq_none hleader]; rfl
  | some l =>
    rw [hleader] at hfirst
    rw [if_pos (show some l = some labels from congrArg some hfirst)]
    rfl

/-- Counting labels keeps a table in accord with what was counted. -/
theorem Tallies.count (h : Tallies start f table events) (l : Labels) (b : β) :
    Tallies start f (table.count l start (f b)) (events ++ [(l, b)]) := by
  intro labels
  rw [Table.count, Table.modify, Table.get?_insert, h.knownAs_eq]
  by_cases hshares : l.fingerprint = labels.fingerprint
  · -- Labels of the fingerprint counted: the leader shows one more event, the others still nothing.
    have hleader : leader (events ++ [(l, b)]) labels = some ((leader events l).getD l) := by
      rw [leader_concat, if_pos hshares, ← leader_congr events hshares]
      cases leader events l <;> rfl
    rw [tally, hleader, gathered_concat, if_pos hshares]
    by_cases hfirst : labels = (leader events l).getD l
    · have hself : (leader events labels).getD labels = labels := by
        rw [← leader_congr events hshares]
        cases hl : leader events l with
        | none => rfl
        | some l' => rw [hl] at hfirst; exact hfirst.symm
      rw [if_pos hfirst, if_pos (congrArg some hfirst.symm), ← hfirst, h.getD_eq_foldl hself,
        List.foldl_append]
      rfl
    · rw [if_neg hfirst, if_neg fun heq => hfirst (Option.some.inj heq).symm, h labels, tally]
      refine if_neg fun hlabels => hfirst ?_
      rw [leader_congr events hshares, hlabels]
      rfl
  · -- Labels of another fingerprint, which the leader is not.
    have hne : labels ≠ (leader events l).getD l := fun heq =>
      hshares ((fingerprint_getD_leader events l).symm.trans (congrArg _ heq.symm))
    rw [if_neg hne, tally_concat_of_ne b hshares, h labels]

/-! Counting one thing after the other, of which some count under no labels. -/

section Concat

variable {γ : Type} {event : γ → Option (Labels × β)} {cs : List γ} {c : γ}

/-- An event that is counted keeps the table a tally. -/
theorem Tallies.concat_some (h : Tallies start f table (cs.filterMap event)) {labels : Labels}
    {b : β} (hc : event c = some (labels, b)) :
    Tallies start f (table.count labels start (f b)) ((cs ++ [c]).filterMap event) := by
  rw [List.filterMap_append, List.filterMap_cons_some hc]
  exact h.count labels b

/-- What is no event keeps the table a tally. -/
theorem Tallies.concat_none (h : Tallies start f table (cs.filterMap event))
    (hc : event c = none) : Tallies start f table ((cs ++ [c]).filterMap event) := by
  rw [List.filterMap_append, List.filterMap_cons_none hc, List.filterMap_nil, List.append_nil]
  exact h

/-- Count an event if there is one. -/
def Table.countEvent (table : Table Labels α) (start : α) (f : β → α → α) :
    Option (Labels × β) → Table Labels α
  | none => table
  | some (labels, b) => table.count labels start (f b)

/-- One more thing that happens keeps the table a tally, event or not. -/
theorem Tallies.concat (h : Tallies start f table (cs.filterMap event)) (c : γ) :
    Tallies start f (table.countEvent start f (event c)) ((cs ++ [c]).filterMap event) := by
  cases hc : event c with
  | none => exact h.concat_none hc
  | some e => exact h.concat_some hc

end Concat

/-! ## What is held -/

/-- What a table has counted for labels: everything for their fingerprint if they were the first of
it, and nothing if not. -/
def held (events : List (Labels × β)) (labels : Labels) : List β :=
  if leader events labels = some labels then gathered events labels else []

/-- Something was counted for the fingerprint of a leader. -/
theorem gathered_ne_nil {labels l : Labels} (h : leader events labels = some l) :
    gathered events labels ≠ [] := by
  obtain ⟨event, hevent, rfl⟩ := List.mem_map.1 (List.mem_of_find?_eq_some h)
  have hmem : event.2 ∈ gathered events labels :=
    List.mem_map_of_mem (List.mem_filter.2 ⟨hevent, beq_iff_eq.2 (fingerprint_of_leader h)⟩)
  exact List.ne_nil_of_mem hmem

/-- A table shows what it has counted, if that is anything. -/
theorem tally_eq_held (labels : Labels) :
    tally start f events labels = if (held events labels).length = 0 then none else
      some ((held events labels).foldl (fun a b => f b a) start) := by
  rw [tally, held]
  by_cases h : leader events labels = some labels
  · rw [if_pos h, if_pos h, if_neg (mt List.length_eq_zero_iff.1 (gathered_ne_nil h))]
  · rw [if_neg h, if_neg h, if_pos List.length_nil]

/-- Labels that no event has hold nothing. -/
theorem held_of_not_mem {labels : Labels} (h : labels ∉ events.map Prod.fst) :
    held events labels = [] :=
  if_neg fun hleader => h (List.mem_of_find?_eq_some hleader)

/-- Labels that share their fingerprint with no others hold what was counted for them. -/
theorem held_of_unshared {labels : Labels}
    (h : ∀ event ∈ events, event.1.fingerprint = labels.fingerprint → event.1 = labels) :
    held events labels = (events.filter (·.1 = labels)).map Prod.snd := by
  have hfilter : events.filter (·.1.fingerprint == labels.fingerprint) =
      events.filter (·.1 = labels) := by
    refine List.filter_congr fun event hevent => ?_
    rw [Bool.eq_iff_iff, beq_iff_eq, decide_eq_true_iff]
    exact ⟨h event hevent, congrArg _⟩
  rw [held, gathered, hfilter]
  by_cases hnil : events.filter (·.1 = labels) = []
  · rw [hnil]
    exact ite_self _
  · -- Some labels of the fingerprint were counted, and so these were the first ones.
    obtain ⟨event, hevent⟩ := List.exists_mem_of_ne_nil _ hnil
    rw [← hfilter, List.mem_filter] at hevent
    cases hleader : leader events labels with
    | none =>
      exact absurd hevent.2
        (List.find?_eq_none.1 hleader event.1 (List.mem_map_of_mem hevent.1))
    | some l =>
      obtain ⟨first, hfirst, rfl⟩ := List.mem_map.1 (List.mem_of_find?_eq_some hleader)
      rw [h first hfirst (fingerprint_of_leader hleader), if_pos rfl]

end Tallies

/-! ## Numbers -/

/-- The number that an instrument shows for labels after the labels `ls` were counted. -/
def shown (ls : List Labels) (labels : Labels) : Nat :=
  if ls.find? (·.fingerprint == labels.fingerprint) = some labels then
    ls.countP (·.fingerprint == labels.fingerprint)
  else 0

section Shown

variable {α β : Type} {start : α} {f : β → α → α} {table : Table Labels α}
  {events : List (Labels × β)}

/-- Where each event adds one, the size is the number of events. -/
theorem size_foldl {size : α → Nat} (hstep : ∀ b a, size (f b a) = size a + 1) (bs : List β)
    (a : α) : size (bs.foldl (fun a b => f b a) a) = size a + bs.length := by
  induction bs generalizing a with
  | nil => rfl
  | cons b bs ih => rw [List.foldl_cons, ih, hstep, List.length_cons]; omega

/-- What a table shows for labels, measured so that each event counts as one. -/
theorem Tallies.size_eq_shown (h : Tallies start f table events) (size : α → Nat)
    (hstart : size start = 0) (hstep : ∀ b a, size (f b a) = size a + 1) (labels : Labels) :
    ((table.get? labels).map size).getD 0 = shown (events.map Prod.fst) labels := by
  rw [h labels, tally]
  show _ = if leader events labels = some labels then _ else 0
  by_cases hleader : leader events labels = some labels
  · rw [if_pos hleader, if_pos hleader, Option.map_some, Option.getD_some, size_foldl hstep, hstart,
      Nat.zero_add, gathered, List.length_map, ← List.countP_eq_length_filter, List.countP_map]
    rfl
  · rw [if_neg hleader, if_neg hleader]
    rfl

/-- Labels that share their fingerprint with no others are shown as often as they were counted. -/
theorem shown_of_unshared {ls : List Labels} {labels : Labels}
    (h : ∀ l ∈ ls, l.fingerprint = labels.fingerprint → l = labels) :
    shown ls labels = ls.countP (· = labels) := by
  have hcount : ls.countP (·.fingerprint == labels.fingerprint) = ls.countP (· = labels) := by
    refine List.countP_congr fun l hl => ?_
    rw [beq_iff_eq, decide_eq_true_iff]
    exact ⟨h l hl, congrArg _⟩
  rw [shown, hcount]
  cases hfind : ls.find? (·.fingerprint == labels.fingerprint) with
  | none =>
    have hnone := List.find?_eq_none.1 hfind
    rw [if_neg nofun, eq_comm, List.countP_eq_zero]
    intro l hl heq
    exact hnone l hl (by simp [of_decide_eq_true heq])
  | some l =>
    have hl : l.fingerprint = labels.fingerprint := by simpa using List.find?_some hfind
    rw [h l (List.mem_of_find?_eq_some hfind) hl, if_pos rfl]

end Shown

end KafkaCanary
