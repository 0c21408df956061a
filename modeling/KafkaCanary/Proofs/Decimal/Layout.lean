import KafkaCanary.Decimal.Layout
import KafkaCanary.Proofs.Decimal.Integers
import KafkaCanary.Proofs.Decimal.Shortest
import KafkaCanary.Proofs.Text.Separators

/-!
# Floating-point texts

A positional text is read by its digits and by how many of them follow the point. What it is read as
is the number that was written, so a text tells its number, and a number its value: no two finite
values have the same text.

## Main results

* `pointValue_positionalText`: a positional text is read as the number that was written;
* `mem_plain_text`: the characters of a text;
* `plain_text_inj`: finite values have texts of their own.
-/

namespace KafkaCanary.Decimal

/-! ## Digits -/

/-- The value of digits is that of the library's. -/
theorem digitsValue_eq_ofDigitChars (ds : List Char) :
    digitsValue ds = Nat.ofDigitChars 10 ds 0 := by
  rw [digitsValue, Nat.ofDigitChars_eq_foldl]
  simp only [Nat.mul_comm 10]
  rfl

/-- The digits of a number have it as their value. -/
theorem digitsValue_toDigits (n : Nat) : digitsValue (Nat.toDigits 10 n) = n := by
  rw [digitsValue_eq_ofDigitChars, Nat.ofDigitChars_ten_toDigits]

/-- Zeros at the end multiply by ten. -/
theorem digitsValue_append_zeros (ds : List Char) (k : Nat) :
    digitsValue (ds ++ List.replicate k '0') = digitsValue ds * 10 ^ k := by
  rw [digitsValue_eq_ofDigitChars, Nat.ofDigitChars_append, Nat.ofDigitChars_replicate_zero,
    digitsValue_eq_ofDigitChars, Nat.mul_comm]

/-- Zeros in front change nothing. -/
theorem digitsValue_zeros_append (k : Nat) (ds : List Char) :
    digitsValue (List.replicate k '0' ++ ds) = digitsValue ds := by
  rw [digitsValue_eq_ofDigitChars, Nat.ofDigitChars_append, Nat.ofDigitChars_replicate_zero,
    digitsValue_eq_ofDigitChars, Nat.mul_zero]

/-- The digits of a number are digits. -/
theorem digits_toDigits (n : Nat) : Digits (Nat.toDigits 10 n) :=
  ⟨List.ne_nil_of_length_pos Nat.length_toDigits_pos,
    fun _ hc => Nat.isDigit_of_mem_toDigits (by decide) (by decide) hc⟩

/-! ## Positional texts -/

/-- The number that digits with a point, or without one, stand for. -/
def pointValue (cs : List Char) : ℚ :=
  let whole := cs.takeWhile (· ≠ '.')
  let fraction := (cs.dropWhile (· ≠ '.')).drop 1
  digitsValue (whole ++ fraction) * 10 ^ (-fraction.length : ℤ)

/-- Digits have no point among them. -/
theorem point_not_mem {ds : List Char} (h : ∀ c ∈ ds, c.isDigit) : '.' ∉ ds := fun hmem =>
  absurd (h '.' hmem) (by decide)

/-- Without a point, digits stand for a whole number. -/
theorem pointValue_digits {ds : List Char} (h : ∀ c ∈ ds, c.isDigit) :
    pointValue ds = digitsValue ds := by
  rw [pointValue, takeWhile_ne_of_not_mem (point_not_mem h),
    dropWhile_ne_of_not_mem (point_not_mem h)]
  simp

/-- The value of digits with a point. -/
theorem pointValue_append_point {whole fraction : List Char} (h : ∀ c ∈ whole, c.isDigit) :
    pointValue (whole ++ '.' :: fraction) =
      digitsValue (whole ++ fraction) * 10 ^ (-fraction.length : ℤ) := by
  rw [pointValue, takeWhile_ne_append_cons (point_not_mem h),
    dropWhile_ne_append_cons (point_not_mem h)]
  rfl

/-- Where the point is: after a zero, among the digits, or nowhere. -/
theorem positionalText_cases {ds : List Char} (hds : Digits ds) (before : Int) :
    (before ≤ 0 ∧ positionalText false ds before =
      ['0'] ++ '.' :: (List.replicate (-before).toNat '0' ++ ds)) ∨
    (0 < before ∧ before < ds.length ∧ positionalText false ds before =
      ds.take before.toNat ++ '.' :: ds.drop before.toNat) ∨
    (ds.length ≤ before ∧ positionalText false ds before =
      ds ++ List.replicate (before.toNat - ds.length) '0') := by
  have hlength := List.length_pos_iff.2 hds.1
  unfold positionalText
  dsimp only
  -- The point stands in front of the digits, among them, or after them.
  rcases Int.lt_or_le 0 before with hpos | hbefore
  · have hzero : (-before).toNat = 0 := by omega
    rw [if_neg (Int.not_le.2 hpos), hzero, List.replicate_zero, List.nil_append]
    rcases Int.lt_or_le before ds.length with hlt | hle
    · have hnone : before.toNat - ds.length = 0 := by omega
      have hfraction : ds.drop before.toNat ≠ [] := by
        rw [← List.length_pos_iff, List.length_drop]
        omega
      refine .inr (.inl ⟨hpos, hlt, ?_⟩)
      rw [if_neg (by simp [hfraction, hlt]), hnone, List.replicate_zero, List.append_nil]
    · refine .inr (.inr ⟨hle, ?_⟩)
      rw [if_pos (by simp [hle]), List.take_of_length_le (by omega)]
      rfl
  · have hlt : ¬(ds.length : Int) ≤ before := by omega
    refine .inl ⟨hbefore, ?_⟩
    rw [if_pos hbefore, Int.toNat_of_nonpos hbefore, List.drop_zero,
      if_neg (by simp [hds.1, hlt])]

/-- A positional text is read as the number that was written. -/
theorem pointValue_positionalText {ds : List Char} (hds : Digits ds) (before : Int) :
    pointValue (positionalText false ds before) = digitsValue ds * 10 ^ (before - ds.length) := by
  obtain ⟨hbefore, htext⟩ | ⟨hpos, hlt, htext⟩ | ⟨hle, htext⟩ := positionalText_cases hds before
  · have hvalue : digitsValue (['0'] ++ (List.replicate (-before).toNat '0' ++ ds)) =
        digitsValue ds := by
      exact digitsValue_zeros_append ((-before).toNat + 1) ds
    rw [htext, pointValue_append_point (by simp), hvalue]
    congr 2
    simp
    omega
  · -- The digits on both sides of the point are those of the number.
    rw [htext, pointValue_append_point fun c hc => hds.2 c (List.mem_of_mem_take hc),
      List.take_append_drop]
    congr 2
    simp
    omega
  · -- There is no point, and the zeros at the end multiply the number.
    rw [htext, pointValue_digits ?_, digitsValue_append_zeros]
    · push_cast
      rw [← zpow_natCast]
      congr 2
      omega
    · exact List.forall_mem_append.2
        ⟨hds.2, fun c hc => (List.eq_of_mem_replicate hc) ▸ by decide⟩

/-- A number written out has only digits and a point. -/
theorem mem_positionalText {ds : List Char} (hds : Digits ds) (before : Int) :
    ∀ c ∈ positionalText false ds before, c.isDigit ∨ c = '.' := by
  have hdigits : ∀ c ∈ ds, c.isDigit ∨ c = '.' := fun c hc => .inl (hds.2 c hc)
  have hzeros (k : Nat) : ∀ c ∈ List.replicate k '0', c.isDigit ∨ c = '.' := fun c hc =>
    (List.eq_of_mem_replicate hc) ▸ .inl rfl
  obtain ⟨-, htext⟩ | ⟨-, -, htext⟩ | ⟨-, htext⟩ := positionalText_cases hds before
  · rw [htext, List.forall_mem_append]
    exact ⟨hzeros 1, List.forall_mem_cons.2
      ⟨.inr rfl, List.forall_mem_append.2 ⟨hzeros _, hdigits⟩⟩⟩
  · rw [htext, List.forall_mem_append, List.forall_mem_cons]
    exact ⟨fun c hc => hdigits c (List.mem_of_mem_take hc), .inr rfl,
      fun c hc => hdigits c (List.mem_of_mem_drop hc)⟩
  · rw [htext, List.forall_mem_append]
    exact ⟨hdigits, hzeros _⟩

/-! ## Texts of values -/

/-- The plain form writes a number out without an exponent. -/
theorem plain_decimalText (d : Number) : plain.decimalText d =
    positionalText false (Nat.toDigits 10 d.digits)
      ((Nat.toDigits 10 d.digits).length + d.exponent) :=
  rfl

/-- The text of a number is read as the number. -/
theorem pointValue_decimalText (d : Number) : pointValue (plain.decimalText d) = d.value := by
  rw [plain_decimalText, pointValue_positionalText (digits_toDigits d.digits),
    digitsValue_toDigits, Number.value]
  congr 2
  omega

/-- The plain form of a value: a sign, then infinity or its shortest digits. -/
theorem toList_plain_text (x : Float) : (plain.text x).toList =
    if x.isNaN then ['N', 'a', 'N']
    else (if signBit x then ['-'] else []) ++
      if x.isInf then ['i', 'n', 'f'] else plain.decimalText (magnitudeOf x plain.tie) := by
  rw [Layout.text]
  split_ifs <;> simp_all

/-- The characters of a text. -/
theorem mem_plain_text (x : Float) :
    ∀ c ∈ (plain.text x).toList, c.isDigit ∨ c ∈ ['.', '-', 'N', 'a', 'i', 'n', 'f'] := by
  have hdecimal : ∀ c ∈ plain.decimalText (magnitudeOf x plain.tie),
      c.isDigit ∨ c ∈ ['.', '-', 'N', 'a', 'i', 'n', 'f'] := by
    intro c hc
    rcases mem_positionalText (digits_toDigits _) _ c hc with hdigit | rfl
    · exact .inl hdigit
    · exact .inr List.mem_cons_self
  rw [toList_plain_text]
  split
  · simp
  refine List.forall_mem_append.2 ⟨?_, ?_⟩
  · split <;> simp
  · split
    · simp
    · exact hdecimal

/-- The number that is written for a finite value is zero, or reads back as the value. -/
theorem holds_magnitudeOf (x : Float) (tie : Tie) :
    ((Dyadic.ofFloat x).mantissa = 0 ∧ (magnitudeOf x tie).value = 0) ∨
      (0 < (Dyadic.ofFloat x).mantissa ∧ (Dyadic.ofFloat x).Holds (magnitudeOf x tie).value) := by
  unfold magnitudeOf
  dsimp only
  split
  · next hzero => exact .inl ⟨hzero, by simp [Number.value]⟩
  · next hne =>
    have hpos := Nat.pos_of_ne_zero hne
    exact .inr ⟨hpos, (Dyadic.normal_ofFloat x).holds_shortest hpos tie⟩

/-- The number that is written for a finite value tells the value but for its sign. -/
theorem ofFloat_eq_of_value_eq {x y : Float} {tie : Tie}
    (h : (magnitudeOf x tie).value = (magnitudeOf y tie).value) :
    Dyadic.ofFloat x = Dyadic.ofFloat y := by
  have hx := Dyadic.normal_ofFloat x
  have hy := Dyadic.normal_ofFloat y
  rcases holds_magnitudeOf x tie with ⟨hxzero, hxvalue⟩ | ⟨hxpos, hxholds⟩
  · rcases holds_magnitudeOf y tie with ⟨hyzero, hyvalue⟩ | ⟨hypos, hyholds⟩
    · exact hx.eq_of_mantissa_eq_zero hy hxzero hyzero
    · have := hyholds.pos hypos
      rw [← h, hxvalue] at this
      exact absurd this (lt_irrefl 0)
  · rcases holds_magnitudeOf y tie with ⟨hyzero, hyvalue⟩ | ⟨hypos, hyholds⟩
    · have := hxholds.pos hxpos
      rw [h, hyvalue] at this
      exact absurd this (lt_irrefl 0)
    · rw [← h] at hyholds
      exact hx.eq_of_holds hy hxholds hyholds

/-- A value has the bits of its magnitude and its sign. -/
theorem eq_of_ofFloat_eq {x y : Float} (hsign : signBit x = signBit y)
    (h : Dyadic.ofFloat x = Dyadic.ofFloat y) : x = y := by
  have hxlt := x.toBits.toNat_lt
  have hylt := y.toBits.toNat_lt
  have hbits : x.toBits.toNat = y.toBits.toNat := by
    have hbit : leadingBit = 2 ^ 52 := rfl
    rw [signBit, signBit, decide_eq_decide, Nat.pow_eq] at hsign
    unfold Dyadic.ofFloat at h
    dsimp only at h
    rw [hbit] at h
    -- Mantissa and exponent together are all bits but the sign.
    split_ifs at h <;> rw [Dyadic.mk.injEq] at h <;> omega
  obtain ⟨⟨xbits, hxvalid⟩⟩ := x
  obtain ⟨⟨ybits, hyvalid⟩⟩ := y
  obtain rfl : xbits = ybits := UInt64.toNat_inj.1 hbits
  rfl

/-- Finite values are neither infinite nor no number. -/
theorem isNaN_and_isInf_of_isFinite {x : Float} (h : x.isFinite) :
    x.isNaN = false ∧ x.isInf = false := by
  have hunpack : x.toModel.unpack.isFinite := h
  show x.toModel.unpack.isNaN = false ∧ x.toModel.unpack.isInf = false
  cases hx : x.toModel.unpack with
  | zero | finite => exact ⟨rfl, rfl⟩
  | infinity | notANumber =>
    rw [hx] at hunpack
    cases hunpack

/-- Finite values have texts of their own. -/
theorem plain_text_inj {x y : Float} (hx : x.isFinite) (hy : y.isFinite)
    (h : plain.text x = plain.text y) : x = y := by
  obtain ⟨hxnan, hxinf⟩ := isNaN_and_isInf_of_isFinite hx
  obtain ⟨hynan, hyinf⟩ := isNaN_and_isInf_of_isFinite hy
  have hminus (x : Float) : '-' ∉ plain.decimalText (magnitudeOf x plain.tie) := fun hmem => by
    have := mem_positionalText (digits_toDigits _) _ _ hmem
    simp at this
  have htexts := congrArg String.toList h
  rw [toList_plain_text, toList_plain_text, hxnan, hynan, hxinf, hyinf] at htexts
  simp only [Bool.false_eq_true, if_false] at htexts
  have hsame : signBit x = signBit y ∧ plain.decimalText (magnitudeOf x plain.tie) =
      plain.decimalText (magnitudeOf y plain.tie) := by
    -- A minus sign at the beginning of one text only would be a digit of the other one.
    cases hxsign : signBit x <;> cases hysign : signBit y <;> rw [hxsign, hysign] at htexts
    · exact ⟨rfl, htexts⟩
    · have htext : plain.decimalText (magnitudeOf x plain.tie) = '-' :: _ := htexts
      exact absurd (htext ▸ List.mem_cons_self) (hminus x)
    · have htext : '-' :: _ = plain.decimalText (magnitudeOf y plain.tie) := htexts
      exact absurd (htext ▸ List.mem_cons_self) (hminus y)
    · exact ⟨rfl, (List.cons.inj htexts).2⟩
  have hvalue : (magnitudeOf x plain.tie).value = (magnitudeOf y plain.tie).value := by
    rw [← pointValue_decimalText, ← pointValue_decimalText, hsame.2]
  exact eq_of_ofFloat_eq hsame.1 (ofFloat_eq_of_value_eq hvalue)

end KafkaCanary.Decimal
