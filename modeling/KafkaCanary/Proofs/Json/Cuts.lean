import KafkaCanary.Proofs.Json.Skipping

/-!
# Lexemes with their end cut off

What the readers make of a lexeme whose end is missing. A string never gets by without its quotation
mark, wherever it is cut: inside an escape, inside a surrogate pair or inside a character of several
bytes. A number does, as its first digits are a number too; that number lies between zero and the
whole one.

## Main definitions

* `Cut`: bytes with their end cut off.

## Main results

* `Cut.append`: a concatenation is cut in one of its parts;
* `readContents_of_cut`: a string that is cut is truncated;
* `IntegerLiteral.of_cut`: an integer that is cut is nothing, a sign, or an integer closer to zero.
-/

namespace KafkaCanary.Json

/-! ## Cuts -/

/-- Bytes with their end cut off: a prefix that is not the whole. -/
def Cut (p t : List UInt8) : Prop :=
  p <+: t ∧ p ≠ t

theorem not_cut_nil {p : List UInt8} : ¬Cut p [] :=
  fun ⟨hp, hne⟩ => hne (List.prefix_nil.1 hp)

theorem cut_cons_iff {p t : List UInt8} {b : UInt8} :
    Cut p (b :: t) ↔ p = [] ∨ ∃ q, p = b :: q ∧ Cut q t := by
  simp only [Cut, List.prefix_cons_iff]
  constructor
  · rintro ⟨rfl | ⟨q, rfl, hq⟩, hne⟩
    · exact .inl rfl
    · exact .inr ⟨q, rfl, hq, fun h => hne (by rw [h])⟩
  · rintro (rfl | ⟨q, rfl, hq, hne⟩)
    · exact ⟨.inl rfl, nofun⟩
    · exact ⟨.inr ⟨q, rfl, hq⟩, fun h => hne (List.cons.inj h).2⟩

/-- A prefix of a concatenation ends in its first part or goes into its second. -/
theorem cut_or_of_prefix_append {p a b : List UInt8} (h : p <+: a ++ b) :
    Cut p a ∨ ∃ q, p = a ++ q ∧ q <+: b := by
  obtain ⟨r, hr⟩ := h
  rcases List.append_eq_append_iff.1 hr with ⟨a', ha, hb⟩ | ⟨q, hp, hb⟩
  · by_cases hne : p = a
    · exact .inr ⟨[], by rw [hne, List.append_nil], List.nil_prefix⟩
    · exact .inl ⟨⟨a', ha.symm⟩, hne⟩
  · exact .inr ⟨q, hp, r, hb.symm⟩

/-- A concatenation is cut in its first part or in its second. -/
theorem Cut.append {p a b : List UInt8} (h : Cut p (a ++ b)) :
    Cut p a ∨ ∃ q, p = a ++ q ∧ Cut q b := by
  refine (cut_or_of_prefix_append h.1).imp id ?_
  rintro ⟨q, rfl, hq⟩
  exact ⟨q, rfl, hq, fun hqb => h.2 (by rw [hqb])⟩

theorem Blanks.of_prefix {p w : List UInt8} (hw : Blanks w) (hp : p <+: w) : Blanks p :=
  fun b hb => hw b (hp.subset hb)

theorem Delimited.of_prefix {p rest : List UInt8} (hrest : Delimited rest) (hp : p <+: rest) :
    Delimited p := by
  intro b hb
  cases p with
  | nil => cases hb
  | cons c p =>
    obtain ⟨r, rfl⟩ := hp
    exact hrest b hb

/-! ## Strings -/

/-- A code unit that is cut. -/
theorem readContents_of_cut_unit {a b c d : UInt8} {p : List UInt8}
    (hp : Cut p [backslash, letterU, a, b, c, d]) : readContents p = .error .truncated := by
  simp only [cut_cons_iff, not_cut_nil, and_false, exists_false, or_false] at hp
  rcases hp with rfl | ⟨_, rfl, rfl | ⟨_, rfl, rfl | ⟨_, rfl, rfl | ⟨_, rfl, rfl | ⟨_, rfl, rfl⟩⟩⟩⟩⟩
  · rfl
  all_goals
    rw [readContents.eq_def]
    simp [show backslash ≠ quote by decide, letterU_not_short]

/-- The second half of a surrogate pair that is cut. -/
theorem readContents_of_cut_pair {a b c d a' b' c' d' : UInt8} {n : Nat} {p : List UInt8}
    (h : hexQuad? a b c d = some n) (hl : isLowSurrogate n = false)
    (hh : isHighSurrogate n = true) (hp : Cut p [backslash, letterU, a', b', c', d']) :
    readContents (backslash :: letterU :: a :: b :: c :: d :: p) = .error .truncated := by
  simp only [cut_cons_iff, not_cut_nil, and_false, exists_false, or_false] at hp
  rcases hp with rfl | ⟨_, rfl, rfl | ⟨_, rfl, rfl | ⟨_, rfl, rfl | ⟨_, rfl, rfl | ⟨_, rfl, rfl⟩⟩⟩⟩⟩
  all_goals
    rw [readContents.eq_def]
    simp [show backslash ≠ quote by decide, letterU_not_short, h, hl, hh]

/-- A character that stands for itself and is cut. -/
theorem readContents_of_cut_utf8EncodeChar {c : Char} {p : List UInt8}
    (hp : Cut p (String.utf8EncodeChar c)) : readContents p = .error .truncated := by
  -- What is left of a character has only bytes past ASCII, if it has any.
  have hhigh : ∀ t ∈ p, 0x80 ≤ t.toNat := by
    intro t ht
    obtain hlt | hle := Nat.lt_or_ge c.toNat 0x80
    · rw [Utf8.utf8EncodeChar_of_lt hlt, cut_cons_iff] at hp
      simp only [not_cut_nil, and_false, exists_false, or_false] at hp
      rw [hp] at ht
      cases ht
    · obtain ⟨b, ts, hts, -, htail, hb⟩ := Utf8.exists_utf8EncodeChar_eq_cons c
      rw [hts] at hp
      rcases List.mem_cons.1 (hp.1.subset ht) with rfl | ht
      · exact hb hle
      · exact (Utf8.isTail_iff.1 (htail t ht)).1
  have hread := readContents_append_of_le hhigh []
  rw [List.append_nil] at hread
  rw [hread]
  rfl

/-- The spelling of a character that is cut. -/
theorem readContents_of_cut_spelling {c : Char} {sp p : List UInt8} (h : Spelling c sp)
    (hp : Cut p sp) : readContents p = .error .truncated := by
  cases h with
  | plain => exact readContents_of_cut_utf8EncodeChar hp
  | short =>
    simp only [cut_cons_iff, not_cut_nil, and_false, exists_false, or_false] at hp
    rcases hp with rfl | ⟨_, rfl, rfl⟩ <;> rfl
  | unit hq =>
    generalize c.toNat = n at hq
    cases hq
    exact readContents_of_cut_unit hp
  | @pair _ high low q r hq hr h1 h2 h3 h4 hc =>
    have hl : isLowSurrogate high = false := by simp [isLowSurrogate]; omega
    have hh : isHighSurrogate high = true := by simp [isHighSurrogate]; omega
    cases hq with
    | digits hi hj hk hl' =>
      cases hr
      rcases @Cut.append p [backslash, letterU, _, _, _, _] _ hp with hp | ⟨t, rfl, ht⟩
      · exact readContents_of_cut_unit hp
      · exact readContents_of_cut_pair (hexQuad?_eq_some_iff.2 (.digits hi hj hk hl')) hl hh ht

/-- A string that is cut is truncated: before its quotation mark it does not end. -/
theorem readContents_of_cut {cs : List Char} {body p : List UInt8} (h : Spellings cs body)
    (hp : Cut p (body ++ [quote])) : readContents p = .error .truncated := by
  induction h generalizing p with
  | nil =>
    simp only [List.nil_append, cut_cons_iff, not_cut_nil, and_false, exists_false,
      or_false] at hp
    rw [hp]
    rfl
  | cons hc _ ih =>
    rw [List.append_assoc] at hp
    rcases hp.append with hp | ⟨q, rfl, hq⟩
    · exact readContents_of_cut_spelling hc hp
    · rw [readContents_spelling_append hc, ih hq]
      rfl

/-! ## Integers -/

/-- Digits stand for zero only if they are a lone zero. -/
theorem Whole.decimalValue_eq_zero_iff {ds : List UInt8} (h : Whole ds) :
    decimalValue ds = 0 ↔ ds = [0x30] := by
  refine ⟨fun hzero => ?_, fun hds => by rw [hds]; rfl⟩
  cases h with
  | zero => rfl
  | @digits d ds hd hne _ =>
    -- The first digit is not lost, however many follow.
    have hle := le_foldl_digits (0 * 10 + digitValue d) ds
    have hpos : digitValue d ≠ 0 := by
      simp only [isDigit, Bool.and_eq_true, decide_eq_true_eq, UInt8.le_iff_toNat_le] at hd
      rw [ne_eq, ← UInt8.toNat_inj] at hne
      simp only [digitValue, UInt8.reduceToNat] at hd hne ⊢
      omega
    rw [decimalValue, List.foldl_cons] at hzero
    omega

/-- The first digits of a number are a number that is not greater. -/
theorem Whole.of_prefix {p ds : List UInt8} (h : Whole ds) (hp : p <+: ds) (hne : p ≠ []) :
    Whole p ∧ decimalValue p ≤ decimalValue ds := by
  constructor
  · cases h with
    | zero =>
      rcases List.prefix_cons_iff.1 hp with rfl | ⟨q, rfl, hq⟩
      · exact absurd rfl hne
      · rw [List.prefix_nil.1 hq]
        exact .zero
    | digits hd hz hds =>
      rcases List.prefix_cons_iff.1 hp with rfl | ⟨q, rfl, hq⟩
      · exact absurd rfl hne
      · exact .digits hd hz fun d hd => hds d (hq.subset hd)
  · obtain ⟨r, rfl⟩ := hp
    rw [decimalValue, decimalValue, List.foldl_append]
    exact le_foldl_digits _ r

/-- What is left of an integer that is cut. -/
theorem IntegerLiteral.of_cut {z : Int} {v p : List UInt8} (h : IntegerLiteral z v)
    (hp : Cut p v) :
    p = [] ∨ p = [0x2D] ∨ ∃ z', IntegerLiteral z' p ∧ min 0 z ≤ z' ∧ z' ≤ max 0 z := by
  by_cases hnil : p = []
  · exact .inl hnil
  cases h with
  | plain hw =>
    obtain ⟨hw', hle⟩ := hw.of_prefix hp.1 hnil
    exact .inr (.inr ⟨_, .plain hw', by omega, by omega⟩)
  | negative hw hne =>
    rcases cut_cons_iff.1 hp with hnil' | ⟨q, rfl, hq⟩
    · exact .inl hnil'
    by_cases hq' : q = []
    · rw [hq']
      exact .inr (.inl rfl)
    obtain ⟨hw', hle⟩ := hw.of_prefix hq.1 hq'
    -- A lone zero can be cut out of no other digits.
    have hne' : decimalValue q ≠ 0 := by
      rw [ne_eq, hw'.decimalValue_eq_zero_iff]
      rintro rfl
      obtain ⟨r, rfl⟩ := hq.1
      cases hw with
      | zero => exact hne rfl
      | digits _ hz _ => exact hz rfl
    exact .inr (.inr ⟨_, .negative hw' hne', by omega, by omega⟩)

end KafkaCanary.Json
