import KafkaCanary.Decimal.Literal
import KafkaCanary.Proofs.Results

/-!
# Integers in decimal digits

Which texts a reader of integers accepts, and as what. A text is judged from the left, with the
number read so far checked against the limit at every digit, so that leading zeros do no harm and a
number of any length that is too large is told from one that fits: what has been read never gets
smaller by a further digit (`Decimal.le_foldl_digitValue`).

## Main results

* `Decimal.readDigits_eq_ok_iff`: digits are read as the number they stand for, if it is in bounds;
* `Decimal.readUnsigned_eq_ok_iff`, `Decimal.readSigned_eq_ok_iff`: so are numbers with a sign;
* `Decimal.readUInt64_eq_ok_iff`, `Decimal.readInt64_eq_ok_iff`: the readers of 64 bits.
-/

namespace KafkaCanary.Decimal

/-! ## Written integers -/

/-- Decimal digits, one at least. -/
def Digits (cs : List Char) : Prop :=
  cs ≠ [] ∧ ∀ c ∈ cs, c.isDigit

/-- A natural number as it can be written: in digits, which a plus sign can precede. -/
inductive Natural : List Char → Nat → Prop
  /-- Without a sign. -/
  | plain {ds : List Char} : Digits ds → Natural ds (digitsValue ds)
  /-- With a plus sign. -/
  | plus {ds : List Char} : Digits ds → Natural ('+' :: ds) (digitsValue ds)

/-- An integer as it can be written: in digits, which a sign can precede. -/
inductive Whole : List Char → Int → Prop
  /-- Without a minus sign. -/
  | natural {cs : List Char} {n : Nat} : Natural cs n → Whole cs n
  /-- With a minus sign. -/
  | minus {ds : List Char} : Digits ds → Whole ('-' :: ds) (-digitsValue ds)

/-- The first of some digits is a digit. -/
theorem Digits.head {c : Char} {cs : List Char} (h : Digits (c :: cs)) : c.isDigit :=
  h.2 c List.mem_cons_self

/-- A plus may stand in front of digits. -/
theorem natural_plus_iff {ds : List Char} {n : Nat} :
    Natural ('+' :: ds) n ↔ Digits ds ∧ digitsValue ds = n := by
  constructor
  · intro h
    cases h with
    | plain hds => exact absurd hds.head (by decide)
    | plus hds => exact ⟨hds, rfl⟩
  · rintro ⟨hds, rfl⟩
    exact .plus hds

/-- Without a plus a natural number is its digits. -/
theorem natural_cons_iff {c : Char} {cs : List Char} (hc : c ≠ '+') {n : Nat} :
    Natural (c :: cs) n ↔ Digits (c :: cs) ∧ digitsValue (c :: cs) = n := by
  constructor
  · intro h
    cases h with
    | plain hds => exact ⟨hds, rfl⟩
    | plus hds => exact absurd rfl hc
  · rintro ⟨hds, rfl⟩
    exact .plain hds

/-- A minus makes digits the negative number. -/
theorem whole_minus_iff {ds : List Char} {z : Int} :
    Whole ('-' :: ds) z ↔ Digits ds ∧ -(digitsValue ds : Int) = z := by
  constructor
  · intro h
    cases h with
    | natural h =>
      cases h with
      | plain hds => exact absurd hds.head (by decide)
    | minus hds => exact ⟨hds, rfl⟩
  · rintro ⟨hds, rfl⟩
    exact .minus hds

/-- Without a minus an integer is a natural number. -/
theorem whole_iff_natural {cs : List Char} (hcs : cs.head? ≠ some '-') {z : Int} :
    Whole cs z ↔ ∃ n : Nat, Natural cs n ∧ (n : Int) = z := by
  constructor
  · intro h
    cases h with
    | natural h => exact ⟨_, h, rfl⟩
    | minus hds => exact absurd rfl hcs
  · rintro ⟨n, h, rfl⟩
    exact .natural h

/-! ## Digits read -/

/-- Further digits make a number no smaller. -/
theorem le_foldl_digitValue (n : Nat) (ds : List Char) :
    n ≤ ds.foldl (fun n d => n * 10 + digitValue d) n := by
  induction ds generalizing n with
  | nil => simp
  | cons d ds ih => exact Nat.le_trans (by omega) (ih (n * 10 + digitValue d))

/-- Further digits are read if they are digits and the number that they complete is in bounds. -/
theorem readDigits_eq_ok_iff {limit value n : Nat} (excess : IntegerFault) {cs : List Char}
    (h : value ≤ limit) : readDigits limit excess value cs = .ok n ↔
      (∀ c ∈ cs, c.isDigit) ∧ cs.foldl (fun n d => n * 10 + digitValue d) value = n ∧
        n ≤ limit := by
  induction cs generalizing value with
  | nil =>
    simp only [readDigits, Except.ok.injEq, List.foldl_nil, List.not_mem_nil, false_implies,
      implies_true, true_and]
    constructor
    · rintro rfl
      exact ⟨rfl, h⟩
    · exact And.left
  | cons c cs ih =>
    rw [readDigits, List.forall_mem_cons, List.foldl_cons]
    by_cases hc : c.isDigit
    · by_cases hfits : value * 10 + digitValue c ≤ limit
      · rw [if_pos hc, if_pos hfits, ih hfits]
        simp [hc]
      · -- The number is out of bounds already, and no further digit takes it back.
        have hle := le_foldl_digitValue (value * 10 + digitValue c) cs
        rw [if_pos hc, if_neg hfits]
        simp only [reduceCtorEq, false_iff]
        rintro ⟨-, rfl, hbound⟩
        omega
    · simp [hc]

/-- Digits are read iff they are digits and within the limit. -/
theorem readDigits_zero_eq_ok_iff {limit n : Nat} (excess : IntegerFault) {cs : List Char}
    (hcs : cs ≠ []) : readDigits limit excess 0 cs = .ok n ↔
      (Digits cs ∧ digitsValue cs = n) ∧ n ≤ limit := by
  rw [readDigits_eq_ok_iff excess (Nat.zero_le limit), Digits, digitsValue]
  simp [hcs, and_assoc]

/-! ## Numbers with a sign -/

/-- No characters are no digits. -/
theorem not_digits_nil : ¬Digits [] :=
  fun h => h.1 rfl

/-- A plus is passed over. -/
theorem readUnsigned_plus {limit : Nat} {ds : List Char} (hds : ds ≠ []) :
    readUnsigned limit ('+' :: ds) = readDigits limit .tooLarge 0 ds := by
  cases ds with
  | nil => exact absurd rfl hds
  | cons d ds => rfl

/-- Without a plus the digits begin at once. -/
theorem readUnsigned_cons {limit : Nat} {c : Char} {cs : List Char} (hc : c ≠ '+') :
    readUnsigned limit (c :: cs) = readDigits limit .tooLarge 0 (c :: cs) := by
  rw [readUnsigned] <;> simp [hc]

/-- A number without a minus sign is read if it is written as it can be and at most the limit. -/
theorem readUnsigned_eq_ok_iff {limit n : Nat} {cs : List Char} :
    readUnsigned limit cs = .ok n ↔ Natural cs n ∧ n ≤ limit := by
  cases cs with
  | nil =>
    simp only [readUnsigned, reduceCtorEq, false_iff]
    rintro ⟨⟨hds⟩, -⟩
    exact not_digits_nil hds
  | cons c cs =>
    by_cases hc : c = '+'
    · subst hc
      rw [natural_plus_iff]
      -- A plus sign alone is no number.
      by_cases hcs : cs = []
      · subst hcs
        simp [readUnsigned, not_digits_nil]
      · rw [readUnsigned_plus hcs, readDigits_zero_eq_ok_iff _ hcs]
    · rw [readUnsigned_cons hc, readDigits_zero_eq_ok_iff _ (by simp), natural_cons_iff hc]

/-- A text writes one natural number at most. -/
theorem Natural.unique {cs : List Char} {m n : Nat} (hm : Natural cs m) (hn : Natural cs n) :
    m = n := by
  -- A reader is a function, and one whose limit is the sum of both numbers reads both.
  have hm := readUnsigned_eq_ok_iff.2 ⟨hm, Nat.le_add_right m n⟩
  have hn := readUnsigned_eq_ok_iff.2 ⟨hn, Nat.le_add_left n m⟩
  exact Except.ok.inj (hm.symm.trans hn)

/-- Without a minus sign, an integer is read as a natural number is. -/
theorem readSigned_of_head_ne {bound : Nat} {cs : List Char} (hcs : cs.head? ≠ some '-') :
    readSigned bound cs = (readUnsigned (bound - 1) cs).map fun n : Nat => (n : Int) := by
  cases cs with
  | nil => rfl
  | cons c cs =>
    by_cases hc : c = '+'
    · subst hc
      cases cs <;> rfl
    · rw [readUnsigned_cons hc, readSigned.eq_def]
      split <;> simp_all
      rfl

/-- A minus makes what is read negative. -/
theorem readSigned_minus {bound : Nat} {ds : List Char} (hds : ds ≠ []) :
    readSigned bound ('-' :: ds) =
      (readDigits bound .tooSmall 0 ds).map fun n : Nat => -(n : Int) := by
  cases ds with
  | nil => exact absurd rfl hds
  | cons d ds =>
    show ((readDigits bound .tooSmall 0 (d :: ds) >>= fun n => pure (n : Int)).map fun z => -z) = _
    cases readDigits bound .tooSmall 0 (d :: ds) <;> rfl

/-- An integer is read if it is written as it can be and in bounds. -/
theorem readSigned_eq_ok_iff {bound : Nat} (hbound : 0 < bound) {z : Int} {cs : List Char} :
    readSigned bound cs = .ok z ↔ Whole cs z ∧ -(bound : Int) ≤ z ∧ z < bound := by
  by_cases hcs : cs.head? = some '-'
  · obtain ⟨ds, rfl⟩ : ∃ ds, cs = '-' :: ds := by
      cases cs <;> simp_all
    rw [whole_minus_iff]
    by_cases hds : ds = []
    · subst hds
      simp [readSigned, not_digits_nil]
    · -- With a minus sign, one number more is in bounds than without.
      rw [readSigned_minus hds, map_eq_ok_iff]
      simp only [readDigits_zero_eq_ok_iff _ hds]
      constructor
      · rintro ⟨n, ⟨⟨hdigits, rfl⟩, hle⟩, rfl⟩
        exact ⟨⟨hdigits, rfl⟩, by omega, by omega⟩
      · rintro ⟨⟨hdigits, rfl⟩, hle, -⟩
        exact ⟨_, ⟨⟨hdigits, rfl⟩, by omega⟩, rfl⟩
  · rw [readSigned_of_head_ne hcs, whole_iff_natural hcs, map_eq_ok_iff]
    simp only [readUnsigned_eq_ok_iff]
    constructor
    · rintro ⟨n, ⟨hn, hle⟩, rfl⟩
      exact ⟨⟨n, hn, rfl⟩, by omega⟩
    · rintro ⟨⟨n, hn, rfl⟩, -, hlt⟩
      exact ⟨n, ⟨hn, by omega⟩, rfl⟩

/-- A text writes one integer at most. -/
theorem Whole.unique {cs : List Char} {y z : Int} (hy : Whole cs y) (hz : Whole cs z) : y = z := by
  have hbound : 0 < y.natAbs + z.natAbs + 1 := Nat.succ_pos _
  have hy := (readSigned_eq_ok_iff hbound).2 ⟨hy, by omega, by omega⟩
  have hz := (readSigned_eq_ok_iff hbound).2 ⟨hz, by omega, by omega⟩
  exact Except.ok.inj (hy.symm.trans hz)

/-! ## Readers of 64 bits -/

/-- An unsigned number of 64 bits is read iff it is written, with no bound to check but its own. -/
theorem readUInt64_eq_ok_iff {s : String} {n : UInt64} :
    readUInt64 s = .ok n ↔ Natural s.toList n.toNat := by
  rw [readUInt64, map_eq_ok_iff]
  simp only [readUnsigned_eq_ok_iff]
  constructor
  · rintro ⟨m, ⟨hm, hle⟩, rfl⟩
    have hlt : m < UInt64.size := Nat.lt_of_le_pred (by decide) hle
    rwa [UInt64.toNat_ofNat_of_lt' hlt]
  · intro hn
    have hlt := n.toNat_lt_size
    exact ⟨n.toNat, ⟨hn, Nat.le_pred_of_lt hlt⟩, UInt64.ofNat_toNat⟩

/-- A signed number of 64 bits is read iff it is written and within its bounds. -/
theorem readInt64_eq_ok_iff {s : String} {z : Int} : readInt64 s = .ok z ↔
    Whole s.toList z ∧ Int64.minValue.toInt ≤ z ∧ z ≤ Int64.maxValue.toInt := by
  rw [readInt64, readSigned_eq_ok_iff (by decide)]
  have hmin : Int64.minValue.toInt = -((Int64.size / 2 : Nat) : Int) := by decide
  have hmax : Int64.maxValue.toInt = ((Int64.size / 2 : Nat) : Int) - 1 := by decide
  rw [hmin, hmax, Int.le_sub_one_iff]

end KafkaCanary.Decimal
