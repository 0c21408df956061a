import KafkaCanary.Decimal.Shortest
import Mathlib.Algebra.Order.Field.Power
import Mathlib.Data.Rat.Lemmas
import Mathlib.Tactic.Linarith
import Mathlib.Tactic.Positivity
import Mathlib.Tactic.Ring

/-!
# Shortest digits

The numbers that read back as a value form an interval around it. The intervals of two values have
no number in common: their ends can meet, but of two neighbours one has an odd mantissa, whose
interval is without its ends. So a number that reads back tells the value. The search always finds
one, because twenty digits are more than enough for an interval.

## Main results

* `Dyadic.readsBack_iff`: the test for a number is exact;
* `Dyadic.Normal.eq_of_holds`: a number reads back as one value at most;
* `Dyadic.Normal.holds_shortest`: the digits found read back;
* `Dyadic.normal_ofFloat`: this is so for all finite values.
-/

namespace KafkaCanary.Decimal

/-- The value of a decimal number. -/
def Number.value (d : Number) : ℚ :=
  d.digits * 10 ^ d.exponent

/-- Zeros at the end do not matter. -/
theorem Number.value_stripZeros (fuel : Nat) (d : Number) :
    (d.stripZeros fuel).value = d.value := by
  induction fuel generalizing d with
  | zero => rfl
  | succ fuel ih =>
    rw [stripZeros]
    split
    · next h =>
      have hdigits : d.digits = d.digits / 10 * 10 := by omega
      rw [ih, value, value, zpow_add_one₀ (by norm_num), mul_comm _ (10 : ℚ), ← mul_assoc]
      congr 1
      exact_mod_cast hdigits.symm
    · rfl

namespace Dyadic

/-! ## Intervals -/

/-- A quarter of the last bit of the mantissa. -/
def quarter (v : Dyadic) : ℚ :=
  2 ^ (v.exponent - 2)

/-- A number reads back as a value. The ends of the interval belong to it if the mantissa is
even. -/
def Holds (v : Dyadic) (x : ℚ) : Prop :=
  if v.mantissa % 2 = 0 then
    v.lowerQuarters * v.quarter ≤ x ∧ x ≤ v.upperQuarters * v.quarter
  else v.lowerQuarters * v.quarter < x ∧ x < v.upperQuarters * v.quarter

theorem quarter_pos (v : Dyadic) : 0 < v.quarter := by
  unfold quarter
  positivity

theorem pow_toNat {b : ℚ} (hb : b ≠ 0) (n : Int) : b ^ n.toNat = b ^ n * b ^ (-n).toNat := by
  rw [← zpow_natCast, ← zpow_natCast, ← zpow_add₀ hb]
  congr 1
  omega

/-- In a comparison, points of the grid and quarters of a bit are multiplied alike. -/
theorem exists_scale (v : Dyadic) (k : Int) : ∃ scale : ℚ, 0 < scale ∧
    (∀ d : Nat, ((d * v.gridFactor k : Nat) : ℚ) = d * 10 ^ k * scale) ∧
    ∀ q : Nat, ((q * v.quarterFactor k : Nat) : ℚ) = q * v.quarter * scale := by
  have hten := pow_toNat (b := 10) (by norm_num) k
  have htwo := pow_toNat (b := 2) (by norm_num) (v.exponent - 2)
  rw [Int.neg_sub] at htwo
  refine ⟨10 ^ (-k).toNat * 2 ^ (2 - v.exponent).toNat, by positivity, fun d => ?_, fun q => ?_⟩
  · rw [gridFactor, Nat.pow_eq, Nat.pow_eq]
    push_cast
    rw [hten]
    ring
  · rw [quarterFactor, quarter, Nat.pow_eq, Nat.pow_eq]
    push_cast
    rw [htwo]
    ring

/-- The test for a number is exact. -/
theorem readsBack_iff {v : Dyadic} {k : Int} {d : Nat} :
    v.readsBack k d ↔ v.Holds (d * 10 ^ k) := by
  obtain ⟨scale, hscale, hgrid, hquarter⟩ := v.exists_scale k
  unfold readsBack Holds
  split
  · simp only [Bool.and_eq_true, decide_eq_true_eq]
    rw [← Nat.cast_le (α := ℚ), ← Nat.cast_le (α := ℚ), hgrid, hquarter, hquarter,
      mul_le_mul_iff_left₀ hscale, mul_le_mul_iff_left₀ hscale]
  · simp only [Bool.and_eq_true, decide_eq_true_eq]
    rw [← Nat.cast_lt (α := ℚ), ← Nat.cast_lt (α := ℚ), hgrid, hquarter, hquarter,
      mul_lt_mul_iff_left₀ hscale, mul_lt_mul_iff_left₀ hscale]

/-! ## Normal form -/

/-- A mantissa has its leading bit, unless the exponent is the least one. -/
structure Normal (v : Dyadic) : Prop where
  mantissa_lt : v.mantissa < 2 ^ 53
  le_exponent : -1074 ≤ v.exponent
  leading : -1074 < v.exponent → 2 ^ 52 ≤ v.mantissa

/-- The order of values in normal form. -/
def Before (v w : Dyadic) : Prop :=
  v.exponent < w.exponent ∨ v.exponent = w.exponent ∧ v.mantissa < w.mantissa

/-- The interval of a value ends where that of a greater one begins at the latest, and before it if
both intervals have their ends. -/
theorem Normal.upperQuarters_le {v w : Dyadic} (hv : v.Normal) (hw : w.Normal) (h : v.Before w) :
    v.upperQuarters ≤ w.lowerQuarters * 2 ^ (w.exponent - v.exponent).toNat ∧
      (v.mantissa % 2 = 0 → w.mantissa % 2 = 0 →
        v.upperQuarters < w.lowerQuarters * 2 ^ (w.exponent - v.exponent).toNat) := by
  have hlower : 4 * w.mantissa - 2 ≤ w.lowerQuarters := by
    unfold lowerQuarters
    split <;> omega
  unfold upperQuarters
  rcases h with hexponent | ⟨hexponent, hmantissa⟩
  · -- The greater value has its leading bit, and its bits count twice as much at least.
    have hleast := Int.lt_of_le_of_lt hv.le_exponent hexponent
    have hleading := hw.leading hleast
    have hhigh : 2 ^ 54 - 1 ≤ w.lowerQuarters := by
      have hbit : leadingBit = 2 ^ 52 := rfl
      unfold lowerQuarters
      split <;> omega
    have htwo : 2 ^ 1 ≤ 2 ^ (w.exponent - v.exponent).toNat :=
      Nat.pow_le_pow_right (by decide) (by omega)
    have hproduct := Nat.mul_le_mul hhigh htwo
    have hmantissa := hv.mantissa_lt
    omega
  · -- With one exponent, the intervals of neighbours meet, and one of two neighbours is odd.
    rw [hexponent, Int.sub_self, Int.toNat_zero, pow_zero, mul_one]
    omega

theorem quarter_eq_mul {v w : Dyadic} (h : v.exponent ≤ w.exponent) :
    w.quarter = 2 ^ (w.exponent - v.exponent).toNat * v.quarter := by
  rw [quarter, quarter, ← zpow_natCast, ← zpow_add₀ (by norm_num)]
  congr 1
  omega

theorem Holds.le_and_le {v : Dyadic} {x : ℚ} (h : v.Holds x) :
    v.lowerQuarters * v.quarter ≤ x ∧ x ≤ v.upperQuarters * v.quarter := by
  unfold Holds at h
  split at h
  · exact h
  · exact ⟨h.1.le, h.2.le⟩

theorem Holds.lt_and_lt {v : Dyadic} {x : ℚ} (h : v.Holds x) (hodd : v.mantissa % 2 ≠ 0) :
    v.lowerQuarters * v.quarter < x ∧ x < v.upperQuarters * v.quarter := by
  rwa [Holds, if_neg hodd] at h

/-- No number reads back as two values. -/
theorem Normal.not_holds_of_before {v w : Dyadic} (hv : v.Normal) (hw : w.Normal)
    (h : v.Before w) {x : ℚ} (hvx : v.Holds x) : ¬w.Holds x := by
  intro hwx
  obtain ⟨hle, hlt⟩ := hv.upperQuarters_le hw h
  have hquarter := v.quarter_pos
  have hends : (w.lowerQuarters : ℚ) * w.quarter =
      (w.lowerQuarters * 2 ^ (w.exponent - v.exponent).toNat : Nat) * v.quarter := by
    have hexponent : v.exponent ≤ w.exponent := by rcases h with h | h <;> omega
    rw [quarter_eq_mul hexponent]
    push_cast
    ring
  have hmeet : (v.upperQuarters : ℚ) * v.quarter ≤ w.lowerQuarters * w.quarter := by
    rw [hends]
    exact mul_le_mul_of_nonneg_right (by exact_mod_cast hle) hquarter.le
  have hhigh := hvx.le_and_le.2
  have hlow := hwx.le_and_le.1
  -- The number is where both intervals end, so both have their ends.
  by_cases hveven : v.mantissa % 2 = 0
  · by_cases hweven : w.mantissa % 2 = 0
    · have hapart : (v.upperQuarters : ℚ) * v.quarter < w.lowerQuarters * w.quarter := by
        rw [hends]
        exact mul_lt_mul_of_pos_right (by exact_mod_cast hlt hveven hweven) hquarter
      linarith
    · have hlow := (hwx.lt_and_lt hweven).1
      linarith
  · have hhigh := (hvx.lt_and_lt hveven).2
    linarith

/-- A number reads back as one value at most. -/
theorem Normal.eq_of_holds {v w : Dyadic} (hv : v.Normal) (hw : w.Normal) {x : ℚ}
    (hvx : v.Holds x) (hwx : w.Holds x) : v = w := by
  have hvw : ¬v.Before w := fun h => hv.not_holds_of_before hw h hvx hwx
  have hwv : ¬w.Before v := fun h => hw.not_holds_of_before hv h hwx hvx
  unfold Before at hvw hwv
  obtain ⟨m, e⟩ := v
  obtain ⟨n, f⟩ := w
  simp only at hvw hwv
  rw [mk.injEq]
  omega

theorem Holds.pos {v : Dyadic} {x : ℚ} (h : v.Holds x) (hpos : 0 < v.mantissa) : 0 < x := by
  have hlower : 0 < v.lowerQuarters := by
    unfold lowerQuarters
    split <;> omega
  have hend : (0 : ℚ) < v.lowerQuarters * v.quarter :=
    mul_pos (by exact_mod_cast hlower) v.quarter_pos
  exact hend.trans_le h.le_and_le.1

/-- There is one zero in normal form. -/
theorem Normal.eq_of_mantissa_eq_zero {v w : Dyadic} (hv : v.Normal) (hw : w.Normal)
    (hvzero : v.mantissa = 0) (hwzero : w.mantissa = 0) : v = w := by
  obtain ⟨m, e⟩ := v
  obtain ⟨n, f⟩ := w
  have := hv.le_exponent
  have := hv.leading
  have := hw.le_exponent
  have := hw.leading
  simp only at *
  rw [mk.injEq]
  omega

/-! ## The search -/

/-- A number that is found reads back. -/
theorem readsBack_of_onGrid {v : Dyadic} {tie : Tie} {k : Int} {d : Nat}
    (h : v.onGrid tie k = some d) : v.readsBack k d := by
  unfold onGrid at h
  dsimp only at h
  split at h
  · cases h
  · cases h; assumption
  · cases h; assumption
  · -- Both neighbours read back, so it does not matter which one is taken.
    split_ifs at h <;> cases tie <;> cases h <;> assumption

/-- What is nearer to a value than a quarter of a bit reads back. -/
theorem holds_of_near {v : Dyadic} (hpos : 0 < v.mantissa) {x : ℚ}
    (hlow : 4 * v.mantissa * v.quarter - v.quarter < x) (hhigh : x ≤ 4 * v.mantissa * v.quarter) :
    v.Holds x := by
  -- The value lies a quarter within both ends at least, so it does not matter whether they belong.
  have hquarter := v.quarter_pos
  have hlower : (v.lowerQuarters : ℚ) + 1 ≤ 4 * v.mantissa := by
    have : v.lowerQuarters + 1 ≤ 4 * v.mantissa := by
      unfold lowerQuarters
      split <;> omega
    exact_mod_cast this
  have hupper : (v.upperQuarters : ℚ) = 4 * v.mantissa + 2 := by
    rw [upperQuarters]
    push_cast
    rfl
  have hlt : v.lowerQuarters * v.quarter < x := by
    have := mul_le_mul_of_nonneg_right hlower hquarter.le
    linarith
  have hlt' : x < v.upperQuarters * v.quarter := by
    rw [hupper]
    linarith
  unfold Holds
  split
  · exact ⟨hlt.le, hlt'.le⟩
  · exact ⟨hlt, hlt'⟩

/-- A number is found on every grid that is as fine as a quarter of a bit. -/
theorem isSome_onGrid {v : Dyadic} {k : Int} (tie : Tie) (hpos : 0 < v.mantissa)
    (hk : (10 : ℚ) ^ k ≤ v.quarter) : (v.onGrid tie k).isSome := by
  -- The greatest point of the grid that is not above the value is near enough.
  let d := 4 * v.mantissa * v.quarterFactor k / v.gridFactor k
  have hreads : v.readsBack k d := by
    obtain ⟨scale, hscale, hgrid, hquarter⟩ := v.exists_scale k
    have hle : d * v.gridFactor k ≤ 4 * v.mantissa * v.quarterFactor k := Nat.div_mul_le_self _ _
    have hlt : 4 * v.mantissa * v.quarterFactor k < (d + 1) * v.gridFactor k :=
      Nat.lt_mul_of_div_lt (Nat.lt_succ_self d)
        (Nat.mul_pos (Nat.pow_pos (by decide)) (Nat.pow_pos (by decide)))
    rw [← Nat.cast_le (α := ℚ), hgrid, hquarter, mul_le_mul_iff_left₀ hscale] at hle
    rw [← Nat.cast_lt (α := ℚ), hgrid, hquarter, mul_lt_mul_iff_left₀ hscale] at hlt
    push_cast at hle hlt
    rw [readsBack_iff]
    exact holds_of_near hpos (by linarith) hle
  unfold onGrid
  dsimp only
  rw [show v.readsBack k (4 * v.mantissa * v.quarterFactor k / v.gridFactor k) = true from hreads]
  cases v.readsBack k (4 * v.mantissa * v.quarterFactor k / v.gridFactor k + 1) with
  | false => rfl
  | true =>
    dsimp only
    split_ifs <;> cases tie <;> rfl

/-- The search ends at a number on a grid, if there is one within its reach. -/
theorem exists_search_eq {v : Dyadic} {tie : Tie} {magnitude : Int} {fuel n : Nat}
    (h : ∃ i < fuel, (v.onGrid tie (magnitude - (n + i : Nat))).isSome) :
    ∃ k d, v.onGrid tie k = some d ∧
      v.search tie magnitude fuel n = Number.stripZeros 18 ⟨d, k⟩ := by
  induction fuel generalizing n with
  | zero =>
    obtain ⟨i, hi, -⟩ := h
    exact absurd hi (Nat.not_lt_zero i)
  | succ fuel ih =>
    rw [search]
    cases hgrid : v.onGrid tie (magnitude - n) with
    | some d => exact ⟨_, d, hgrid, rfl⟩
    | none =>
      obtain ⟨i, hi, hsome⟩ := h
      cases i with
      | zero => simp [hgrid] at hsome
      | succ i =>
        refine ih ⟨i, Nat.lt_of_succ_lt_succ hi, ?_⟩
        rwa [Nat.add_right_comm]

/-- The zeros counted are enough to bring a number up to a tenth, if there is fuel for them. -/
theorem le_mul_pow_leadingZeros {denominator fuel numerator : Nat}
    (h : denominator ≤ numerator * 10 ^ (fuel + 1)) :
    denominator ≤ numerator * 10 ^ (leadingZeros denominator fuel numerator + 1) := by
  induction fuel generalizing numerator with
  | zero => exact h
  | succ fuel ih =>
    rw [leadingZeros]
    split
    · rw [Nat.pow_succ, Nat.mul_comm _ 10, ← Nat.mul_assoc] at h ⊢
      exact ih h
    · simpa using Nat.le_of_not_lt ‹_›

theorem pow_length_toDigits_le {n : Nat} (h : n ≠ 0) :
    10 ^ ((Nat.toDigits 10 n).length - 1) ≤ n := by
  by_cases hlength : 0 < (Nat.toDigits 10 n).length - 1
  · refine Nat.le_of_not_lt fun hlt => ?_
    have := (Nat.length_toDigits_le_iff (by decide) hlength).2 hlt
    omega
  · rw [Nat.eq_zero_of_not_pos hlength]
    exact Nat.one_le_iff_ne_zero.2 h

theorem two_pow_le_ten_pow {a b : Nat} (h : a ≤ 3 * b) : 2 ^ a ≤ 10 ^ b :=
  calc 2 ^ a ≤ 2 ^ (3 * b) := Nat.pow_le_pow_right (by decide) h
    _ = 8 ^ b := Nat.pow_mul 2 3 b
    _ ≤ 10 ^ b := Nat.pow_le_pow_left (by decide) b

/-- The search starts from no more digits before the point than a value has. -/
theorem pow_magnitude_le {v : Dyadic} (hpos : 0 < v.mantissa) (hleast : -1074 ≤ v.exponent) :
    (10 : ℚ) ^ (v.magnitude - 1) ≤ v.mantissa * 2 ^ v.exponent := by
  -- The value as a fraction of natural numbers, of which one is a power of two.
  let numerator := v.mantissa * 2 ^ v.exponent.toNat
  let denominator := 2 ^ (-v.exponent).toNat
  have hdenominator : 0 < denominator := Nat.pow_pos (by decide)
  have hvalue : (v.mantissa : ℚ) * 2 ^ v.exponent = numerator / denominator := by
    have htwo := pow_toNat (b := 2) (by norm_num) v.exponent
    rw [eq_div_iff (by exact_mod_cast hdenominator.ne')]
    push_cast [numerator, denominator]
    rw [htwo]
    ring
  rw [hvalue, le_div_iff₀ (by exact_mod_cast hdenominator)]
  by_cases hwhole : numerator / denominator = 0
  · -- The value is below one, but not so far below that some zeros would not be counted.
    have hmagnitude : v.magnitude = -(leadingZeros denominator 400 v.mantissa : Int) :=
      if_pos hwhole
    have hbound : denominator ≤ v.mantissa * 10 ^ (400 + 1) :=
      Nat.le_trans (two_pow_le_ten_pow (by omega)) (Nat.le_mul_of_pos_left _ hpos)
    have hzeros : denominator ≤ 10 ^ (leadingZeros denominator 400 v.mantissa + 1) * numerator :=
      calc denominator
          ≤ v.mantissa * 10 ^ (leadingZeros denominator 400 v.mantissa + 1) :=
            le_mul_pow_leadingZeros hbound
        _ ≤ numerator * 10 ^ (leadingZeros denominator 400 v.mantissa + 1) :=
            Nat.mul_le_mul_right _ (Nat.le_mul_of_pos_right _ (Nat.pow_pos (by decide)))
        _ = _ := Nat.mul_comm _ _
    rw [hmagnitude, show (-(leadingZeros denominator 400 v.mantissa : Int) - 1) =
      -((leadingZeros denominator 400 v.mantissa + 1 : Nat) : Int) by omega, zpow_neg,
      zpow_natCast, inv_mul_le_iff₀ (by positivity)]
    exact_mod_cast hzeros
  · -- The digits before the point are those of the whole part.
    have hlength := Nat.mul_le_of_le_div _ _ _ (pow_length_toDigits_le hwhole)
    have hmagnitude : v.magnitude = (Nat.toDigits 10 (numerator / denominator)).length :=
      if_neg hwhole
    rw [hmagnitude, ← Nat.cast_pred Nat.length_toDigits_pos, zpow_natCast]
    exact_mod_cast hlength

/-- The digits found read back. -/
theorem Normal.holds_shortest {v : Dyadic} (hv : v.Normal) (hpos : 0 < v.mantissa) (tie : Tie) :
    v.Holds (v.shortest tie).value := by
  have hfine : (10 : ℚ) ^ (v.magnitude - 20) ≤ v.quarter :=
    calc (10 : ℚ) ^ (v.magnitude - 20)
        = 10 ^ (v.magnitude - 1) / 10 ^ 19 := by
          rw [← zpow_natCast, ← zpow_sub₀ (by norm_num)]
          congr 1
          omega
      _ ≤ v.mantissa * 2 ^ v.exponent / 10 ^ 19 := by
          gcongr
          exact pow_magnitude_le hpos hv.le_exponent
      _ ≤ 2 ^ 53 * 2 ^ v.exponent / 10 ^ 19 := by
          gcongr
          exact_mod_cast hv.mantissa_lt.le
      _ ≤ 2 ^ v.exponent / 2 ^ 2 := by
          have hpower : (0 : ℚ) < 2 ^ v.exponent := by positivity
          rw [div_le_div_iff₀ (by positivity) (by positivity)]
          linarith
      _ = v.quarter := by rw [quarter, zpow_sub₀ (by norm_num)]; rfl
  obtain ⟨k, d, hgrid, hsearch⟩ : ∃ k d, v.onGrid tie k = some d ∧
      v.search tie v.magnitude 20 1 = Number.stripZeros 18 ⟨d, k⟩ :=
    exists_search_eq ⟨19, by decide, isSome_onGrid tie hpos hfine⟩
  -- Zeros that are taken away change neither the number nor that it reads back.
  rw [shortest, hsearch, Number.value_stripZeros]
  exact readsBack_iff.1 (readsBack_of_onGrid hgrid)

/-! ## Values -/

/-- Finite values are in normal form. -/
theorem normal_ofFloat (x : Float) : (ofFloat x).Normal := by
  have hbit : leadingBit = 2 ^ 52 := rfl
  unfold ofFloat
  dsimp only
  rw [hbit]
  split
  · constructor <;> dsimp only <;> omega
  · constructor <;> dsimp only <;> omega

end Dyadic

end KafkaCanary.Decimal
