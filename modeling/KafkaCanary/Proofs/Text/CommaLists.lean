import KafkaCanary.Text.CommaList
import KafkaCanary.Proofs.Text.Separators
import Mathlib.Data.List.DropRight

/-!
# Comma-separated lists

A list is cut at its commas, blanks are taken from both ends of every piece, and what is left of the
pieces are the entries, where anything is left. So blanks and empty pieces are a matter of spelling:
entries can be spread over pieces in many ways (`Spread`), and all of them say the same.

## Main results

* `entries_eq_filter`: the entries, by the pieces of the standard library;
* `exists_blank_append_trim`, `Bare.trim_append`: what is taken from a piece, and what is left;
* `isEntry_of_mem_entriesOfChars`: what every entry looks like;
* `entriesOfChars_of_spread`: however entries are spread over pieces, they are found again.
-/

namespace KafkaCanary.Text

/-! ## Pieces -/

/-- The pieces between commas are those that splitting at commas gives. -/
theorem commaPieces_eq_splitOn (cs : List Char) : commaPieces cs = cs.splitOn ',' := by
  induction cs with
  | nil => simp [commaPieces]
  | cons c cs ih =>
    rw [commaPieces, List.splitOn_cons_eq_if_modifyHead, ih]
    by_cases hc : c = ','
    · simp [hc]
    · -- A character that is no comma belongs to the first piece of what follows.
      cases hpieces : cs.splitOn ',' with
      | nil => exact absurd hpieces (List.splitOn_ne_nil _ _)
      | cons piece pieces => simp [hc]

/-- The entries of a list are what stands between its commas, without the blanks at both ends, where
this is not empty. -/
theorem entries_eq_filter (s : String) : entries s =
    (((s.toList.splitOn ',').map fun piece => (piece.dropWhile isBlank).rdropWhile isBlank).filter
      (· ≠ [])).map String.ofList := by
  rw [entries, entriesOfChars, commaPieces_eq_splitOn]
  refine congrArg (List.map String.ofList) (List.filter_congr fun piece _ => ?_)
  cases piece <;> simp

/-! ## Trimmed texts -/

/-- Blanks and nothing else. -/
def Blank (cs : List Char) : Prop :=
  ∀ c ∈ cs, isBlank c

instance (cs : List Char) : Decidable (Blank cs) :=
  decidable_of_iff (cs.all isBlank = true) List.all_eq_true

/-- A text that neither begins nor ends with a blank. -/
structure Bare (cs : List Char) : Prop where
  head : ∀ c ∈ cs.head?, isBlank c = false
  last : ∀ c ∈ cs.getLast?, isBlank c = false

theorem Blank.comma_not_mem {cs : List Char} (h : Blank cs) : ',' ∉ cs := by
  intro hmem
  have hblank := h ',' hmem
  simp [isBlank] at hblank

theorem trim_eq_rdropWhile (cs : List Char) :
    trim cs = (cs.dropWhile isBlank).rdropWhile isBlank :=
  rfl

/-- Only blanks are taken from a text. -/
theorem exists_blank_append_trim (cs : List Char) :
    ∃ before after, Blank before ∧ Blank after ∧ cs = before ++ trim cs ++ after := by
  refine ⟨cs.takeWhile isBlank, (cs.dropWhile isBlank).rtakeWhile isBlank, ?_, ?_, ?_⟩
  · exact fun c hc => List.mem_takeWhile_imp hc
  · exact fun c hc => List.mem_rtakeWhile_imp hc
  · rw [trim_eq_rdropWhile, List.append_assoc, List.rdropWhile_append_rtakeWhile,
      List.takeWhile_append_dropWhile]

/-- No blank is left at either end. -/
theorem bare_trim (cs : List Char) : Bare (trim cs) := by
  rw [trim_eq_rdropWhile]
  constructor
  · intro c hc
    -- What is taken from the end leaves a prefix, so the first character is the same.
    obtain ⟨after, hafter⟩ := List.rdropWhile_prefix isBlank (l := cs.dropWhile isBlank)
    have hhead := List.head?_dropWhile_not isBlank cs
    rw [← hafter, List.head?_append, Option.mem_def.1 hc] at hhead
    simpa using hhead
  · intro c hc
    obtain ⟨hne, rfl⟩ := List.mem_getLast?_eq_getLast hc
    simpa using List.rdropWhile_last_not isBlank _ hne

/-- Blanks after a text are taken from its end, up to those that it ends with itself. -/
theorem rdropWhile_append_blank {cs after : List Char} (h : Blank after) :
    (cs ++ after).rdropWhile isBlank = cs.rdropWhile isBlank := by
  rw [List.rdropWhile, List.reverse_append, List.dropWhile_append_of_pos, List.rdropWhile]
  simpa [Blank] using h

/-- A text without blanks at its ends is found again between blanks. -/
theorem Bare.trim_append {before text after : List Char} (h : Bare text) (hne : text ≠ [])
    (hbefore : Blank before) (hafter : Blank after) : trim (before ++ text ++ after) = text := by
  have hlast : text.rdropWhile isBlank = text := by
    rw [List.rdropWhile_eq_self_iff]
    intro hne
    simp [h.last _ (List.getLast_mem_getLast? hne)]
  have hhead : (text ++ after).dropWhile isBlank = text ++ after := by
    obtain ⟨c, cs, rfl⟩ := List.exists_cons_of_ne_nil hne
    rw [List.cons_append, List.dropWhile_cons_of_neg]
    simp [h.head c (by simp)]
  calc trim (before ++ text ++ after)
    _ = ((text ++ after).dropWhile isBlank).rdropWhile isBlank := by
      rw [trim_eq_rdropWhile, List.append_assoc, List.dropWhile_append_of_pos hbefore]
    _ = text := by rw [hhead, rdropWhile_append_blank hafter, hlast]

/-- Nothing is left of blanks, and of blanks only. -/
theorem trim_eq_nil_iff {cs : List Char} : trim cs = [] ↔ Blank cs := by
  constructor
  · intro h
    obtain ⟨before, after, hbefore, hafter, hcs⟩ := exists_blank_append_trim cs
    rw [h] at hcs
    intro c hc
    rw [hcs] at hc
    simp only [List.append_nil, List.mem_append] at hc
    exact hc.elim (hbefore c) (hafter c)
  · intro h
    rw [trim_eq_rdropWhile, List.dropWhile_eq_nil_iff.2 h, List.rdropWhile_nil]

/-! ## Entries -/

/-- What an entry of a list looks like. -/
structure IsEntry (cs : List Char) : Prop extends Bare cs where
  ne_nil : cs ≠ []
  comma_not_mem : ',' ∉ cs

theorem isEntry_of_mem_entriesOfChars {cs entry : List Char} (h : entry ∈ entriesOfChars cs) :
    IsEntry entry := by
  rw [entriesOfChars, commaPieces_eq_splitOn] at h
  obtain ⟨hmem, hne⟩ := List.mem_filter.1 h
  obtain ⟨piece, hpiece, rfl⟩ := List.mem_map.1 hmem
  refine ⟨bare_trim piece, by simpa using hne, ?_⟩
  -- The entry is part of a piece, and no piece has a comma.
  obtain ⟨before, after, -, -, hcs⟩ := exists_blank_append_trim piece
  have hcomma := not_mem_of_mem_splitOn hpiece
  rw [hcs, List.mem_append, List.mem_append, not_or, not_or] at hcomma
  exact hcomma.1.2

/-- A list without entries has pieces of blanks only. -/
theorem entriesOfChars_eq_nil_iff {cs : List Char} :
    entriesOfChars cs = [] ↔ ∀ piece ∈ cs.splitOn ',', Blank piece := by
  simp [entriesOfChars, commaPieces_eq_splitOn, trim_eq_nil_iff]

/-- Entries spread over pieces: there may be blanks around every entry, and pieces of blanks
anywhere between them. -/
inductive Spread : (pieces entries : List (List Char)) → Prop
  | nil : Spread [] []
  | blank {piece : List Char} {pieces entries : List (List Char)} (hpiece : Blank piece)
      (h : Spread pieces entries) : Spread (piece :: pieces) entries
  | entry {before entry after : List Char} {pieces entries : List (List Char)}
      (hbefore : Blank before) (hafter : Blank after) (h : Spread pieces entries) :
      Spread ((before ++ entry ++ after) :: pieces) (entry :: entries)

section Spread

variable {pieces entries : List (List Char)}

/-- The entries between commas, without blanks and without pieces of blanks. -/
theorem Spread.self (entries : List (List Char)) : Spread entries entries := by
  induction entries with
  | nil => exact .nil
  | cons entry entries ih =>
    have hnone : Blank [] := by decide
    have hspread : Spread (([] ++ entry ++ []) :: entries) (entry :: entries) :=
      .entry hnone hnone ih
    rwa [List.nil_append, List.append_nil] at hspread

theorem Spread.comma_not_mem (h : Spread pieces entries) (hentries : ∀ e ∈ entries, IsEntry e) :
    ∀ piece ∈ pieces, ',' ∉ piece := by
  induction h with
  | nil => simp
  | blank hpiece h ih => simpa [hpiece.comma_not_mem] using ih hentries
  | @entry before entry after pieces entries hbefore hafter h ih =>
    obtain ⟨hentry, hentries⟩ := List.forall_mem_cons.1 hentries
    simpa [hbefore.comma_not_mem, hafter.comma_not_mem, hentry.comma_not_mem] using ih hentries

theorem Spread.filter_trim (h : Spread pieces entries) (hentries : ∀ e ∈ entries, IsEntry e) :
    (pieces.map trim).filter (!·.isEmpty) = entries := by
  induction h with
  | nil => rfl
  | blank hpiece h ih => simpa [trim_eq_nil_iff.2 hpiece] using ih hentries
  | @entry before entry after pieces entries hbefore hafter h ih =>
    obtain ⟨hentry, hentries⟩ := List.forall_mem_cons.1 hentries
    have htrim := hentry.toBare.trim_append hentry.ne_nil hbefore hafter
    rw [List.map_cons, htrim, List.filter_cons_of_pos (by simpa using hentry.ne_nil), ih hentries]

/-- However entries are spread over pieces, they are found again between the commas. -/
theorem entriesOfChars_of_spread (h : Spread pieces entries) (hentries : ∀ e ∈ entries, IsEntry e) :
    entriesOfChars ([','].intercalate pieces) = entries := by
  rw [entriesOfChars, commaPieces_eq_splitOn]
  by_cases hpieces : pieces = []
  · subst hpieces
    cases h
    rfl
  · rw [List.splitOn_intercalate ',' (h.comma_not_mem hentries) hpieces]
    exact h.filter_trim hentries

end Spread

/-! ## Texts -/

theorem isEntry_of_mem_entries {s entry : String} (h : entry ∈ entries s) :
    IsEntry entry.toList := by
  obtain ⟨cs, hcs, rfl⟩ := List.mem_map.1 h
  rw [String.toList_ofList]
  exact isEntry_of_mem_entriesOfChars hcs

theorem entries_eq_nil_iff {s : String} :
    entries s = [] ↔ ∀ piece ∈ s.toList.splitOn ',', Blank piece := by
  rw [entries, List.map_eq_nil_iff, entriesOfChars_eq_nil_iff]

theorem entries_of_spread {s : String} {pieces : List (List Char)} {texts : List String}
    (hs : s.toList = [','].intercalate pieces) (h : Spread pieces (texts.map String.toList))
    (htexts : ∀ text ∈ texts, IsEntry text.toList) : entries s = texts := by
  rw [entries, hs, entriesOfChars_of_spread h (by simpa using htexts), List.map_map]
  simp

end KafkaCanary.Text
