import KafkaCanary.Decimal.Literal
import Mathlib.Algebra.Group.Nat.Defs
import Mathlib.Logic.Basic

/-!
# Rounding to binary64

Which products of binary64 values are infinite. The core library's model of binary64 shifts a
mantissa bit by bit, keeps track of the bits that it drops, rounds, normalises and packs the result
into 64 bits. Here rounding is a division, finite values are multiples of the least positive one,
and a product is infinite iff the exact product reaches the middle between the greatest finite value
and the power of two above it.

## Main definitions

* `halfEven`: a quotient by a power of two, rounded to the nearest integer, ties to even;
* `nearestInteger`: the binary64 value nearest to an integer;
* `IsNormal`: a binary64 value that makes use of all bits of its mantissa;
* `magnitude`: a finite value in multiples of the least positive one;
* `overflowBound`: the least magnitude that is rounded to infinity.

## Main results

* `nearestInteger_mono`: rounding keeps the order;
* `isNormal_roundWithAccuracy`: what the model rounds to;
* `isInf_mul_iff`: which products are infinite;
* `isNormal_ofNat`, `magnitude_nearest_one`: great integers and powers of ten are rounded.
-/

namespace KafkaCanary.Decimal

open Float.Model Float.Model.UnpackedFloat

/-! ## Half to even -/

/-- The integer nearest to `m / 2 ^ n`; of two such integers the even one. -/
def halfEven (m n : Nat) : Nat :=
  if 2 * (m % 2 ^ n) < 2 ^ n then m / 2 ^ n
  else if 2 * (m % 2 ^ n) = 2 ^ n then m / 2 ^ n + m / 2 ^ n % 2
  else m / 2 ^ n + 1

variable {m m' n : Nat}

/-- Rounding does not go below the quotient. -/
theorem div_le_halfEven (m n : Nat) : m / 2 ^ n ≤ halfEven m n := by
  unfold halfEven
  grind

/-- Rounding goes up by one at most. -/
theorem halfEven_le (m n : Nat) : halfEven m n ≤ m / 2 ^ n + 1 := by
  unfold halfEven
  grind

/-- Rounding keeps the order where as many bits are dropped. -/
theorem halfEven_mono (n : Nat) (h : m ≤ m') : halfEven m n ≤ halfEven m' n := by
  have hq : m / 2 ^ n ≤ m' / 2 ^ n := Nat.div_le_div_right h
  rcases Nat.eq_or_lt_of_le hq with hq | hlt
  · -- With one quotient it is the remainders that are in order.
    have hm := Nat.div_add_mod m (2 ^ n)
    have hm' := Nat.div_add_mod m' (2 ^ n)
    rw [hq] at hm
    unfold halfEven
    rw [hq]
    grind
  · exact Nat.le_trans (halfEven_le m n) (Nat.le_trans hlt (div_le_halfEven m' n))

/-- Rounding looks at the quotient only. -/
theorem halfEven_mul_two_pow (m n k : Nat) : halfEven (m * 2 ^ k) (n + k) = halfEven m n := by
  have hk : 0 < 2 ^ k := Nat.two_pow_pos k
  have hlt : 2 * (m % 2 ^ n * 2 ^ k) < 2 ^ n * 2 ^ k ↔ 2 * (m % 2 ^ n) < 2 ^ n := by
    rw [← Nat.mul_assoc, Nat.mul_lt_mul_right hk]
  have heq : 2 * (m % 2 ^ n * 2 ^ k) = 2 ^ n * 2 ^ k ↔ 2 * (m % 2 ^ n) = 2 ^ n := by
    rw [← Nat.mul_assoc, Nat.mul_left_inj (Nat.ne_of_gt hk)]
  simp only [halfEven, Nat.pow_add, Nat.mul_div_mul_right _ _ hk, Nat.mul_mod_mul_right, hlt, heq]

/-- What has 53 bits left has no fewer after rounding. -/
theorem le_halfEven (h : 2 ^ (52 + n) ≤ m) : 2 ^ 52 ≤ halfEven m n := by
  rw [Nat.pow_add] at h
  have hle : 2 ^ 52 ≤ m / 2 ^ n := (Nat.le_div_iff_mul_le (Nat.two_pow_pos n)).2 h
  exact Nat.le_trans hle (div_le_halfEven m n)

/-- What has no more than 53 bits left may reach the next power of two, and no more. -/
theorem halfEven_le_of_lt (h : m < 2 ^ (53 + n)) : halfEven m n ≤ 2 ^ 53 := by
  rw [Nat.pow_add] at h
  have hlt : m / 2 ^ n < 2 ^ 53 := (Nat.div_lt_iff_lt_mul (Nat.two_pow_pos n)).2 h
  exact Nat.le_trans (halfEven_le m n) hlt

/-- What rounds up to a power of two is at least in the middle of the last step before it. -/
theorem halfEven_eq_iff (hhigh : m < 2 ^ (53 + n)) :
    halfEven m n = 2 ^ 53 ↔ (2 ^ 54 - 1) * 2 ^ n ≤ 2 * m := by
  have hn : 0 < 2 ^ n := Nat.two_pow_pos n
  have hq : m / 2 ^ n < 2 ^ 53 := (Nat.div_lt_iff_lt_mul hn).2 (Nat.pow_add 2 53 n ▸ hhigh)
  have hr : m % 2 ^ n < 2 ^ n := Nat.mod_lt _ hn
  have hm := Nat.div_add_mod m (2 ^ n)
  rcases Nat.lt_or_ge (m / 2 ^ n) (2 ^ 53 - 1) with hlt | hge
  · have hmul : 2 ^ n * (m / 2 ^ n) ≤ 2 ^ n * (2 ^ 53 - 2) := Nat.mul_le_mul_left _ (by omega)
    have hle := halfEven_le m n
    omega
  · have hlast : m / 2 ^ n = 2 ^ 53 - 1 := by omega
    unfold halfEven
    rw [hlast] at hm ⊢
    generalize 2 ^ n = p at hm hr ⊢
    split
    · omega
    split
    · omega
    · omega

/-! ## Integers -/

/-- The binary64 value nearest to an integer. -/
def nearestInteger (m : Nat) : Nat :=
  halfEven m (m.log2 - 52) * 2 ^ (m.log2 - 52)

/-- With all bits but 53 dropped, a number has 53 bits. -/
theorem lt_two_pow_log2 (m : Nat) : m < 2 ^ (53 + (m.log2 - 52)) :=
  Nat.lt_of_lt_of_le Nat.lt_log2_self (Nat.pow_le_pow_right (by decide) (by omega))

/-- Rounding keeps the order, also where the number of bits that are dropped changes. -/
theorem nearestInteger_mono (h : m ≤ m') : nearestInteger m ≤ nearestInteger m' := by
  rcases Nat.eq_zero_or_pos m with rfl | hm
  · exact Nat.zero_le _
  have hlog : m.log2 ≤ m'.log2 :=
    (Nat.le_log2 (by omega)).2 (Nat.le_trans (Nat.log2_self_le (by omega)) h)
  unfold nearestInteger
  rcases Nat.eq_or_lt_of_le (show m.log2 - 52 ≤ m'.log2 - 52 by omega) with heq | hlt
  · rw [heq]
    exact Nat.mul_le_mul_right _ (halfEven_mono _ h)
  · have hlow : 2 ^ (52 + (m'.log2 - 52)) ≤ m' := by
      rw [show 52 + (m'.log2 - 52) = m'.log2 by omega]
      exact Nat.log2_self_le (by omega)
    -- The power of two between them rounds to itself.
    calc halfEven m (m.log2 - 52) * 2 ^ (m.log2 - 52)
        ≤ 2 ^ 53 * 2 ^ (m.log2 - 52) :=
          Nat.mul_le_mul_right _ (halfEven_le_of_lt (lt_two_pow_log2 m))
      _ = 2 ^ (53 + (m.log2 - 52)) := (Nat.pow_add 2 _ _).symm
      _ ≤ 2 ^ (52 + (m'.log2 - 52)) := Nat.pow_le_pow_right (by decide) (by omega)
      _ = 2 ^ 52 * 2 ^ (m'.log2 - 52) := Nat.pow_add 2 _ _
      _ ≤ halfEven m' (m'.log2 - 52) * 2 ^ (m'.log2 - 52) :=
        Nat.mul_le_mul_right _ (le_halfEven hlow)

/-! ## The mantissa of the model -/

/-- Shifting a mantissa leaves its quotient, the last bit dropped, and whether another one was. -/
theorem shiftRight_succ_eq (m n : Nat) :
    ExtendedMantissa.ofMantissaAndAccuracy m .exact >>> (n + 1) =
      ⟨m / 2 ^ (n + 1), m / 2 ^ n % 2 != 0, m % 2 ^ n != 0⟩ := by
  induction n with
  | zero =>
    show (⟨m / 2, m % 2 != 0, false⟩ : ExtendedMantissa) = _
    simp [Nat.mod_one]
  | succ n ih =>
    show ExtendedMantissa.shiftRightOne
      (ExtendedMantissa.ofMantissaAndAccuracy m .exact >>> (n + 1)) = _
    have hsticky : (m / 2 ^ n % 2 != 0 || m % 2 ^ n != 0) = (m % 2 ^ (n + 1) != 0) := by
      rw [Nat.mod_pow_succ, Bool.eq_iff_iff]
      simp only [Bool.or_eq_true, bne_iff_ne, ne_eq, Nat.add_eq_zero_iff, Nat.mul_eq_zero,
        Nat.ne_of_gt (Nat.two_pow_pos n), false_or]
      omega
    rw [ih, ExtendedMantissa.shiftRightOne, Nat.div_div_eq_div_mul, ← Nat.pow_succ, hsticky]

/-- Bits shifted out of a mantissa are rounded half to even. -/
theorem roundedMantissa_shiftRight (m n : Nat) :
    (ExtendedMantissa.ofMantissaAndAccuracy m .exact >>> n).roundedMantissa = halfEven m n := by
  cases n with
  | zero =>
    show m = halfEven m 0
    simp [halfEven, Nat.mod_one]
  | succ n =>
    have hmod : m % 2 ^ (n + 1) = m % 2 ^ n + 2 ^ n * (m / 2 ^ n % 2) := Nat.mod_pow_succ
    have hlt : m % 2 ^ n < 2 ^ n := Nat.mod_lt _ (Nat.two_pow_pos n)
    rw [shiftRight_succ_eq, ExtendedMantissa.roundedMantissa, halfEven, hmod, Nat.pow_succ]
    rcases Nat.mod_two_eq_zero_or_one (m / 2 ^ n) with hbit | hbit <;>
      rcases Nat.eq_zero_or_pos (m % 2 ^ n) with hrest | hrest <;>
      simp [ExtendedMantissa.accuracy, Accuracy.roundToNearestEven, hbit, hrest] <;> grind

/-! ## Normal values -/

/-- A value is `q * 2 ^ e`, of either sign, and its mantissa has all 53 bits. -/
def IsNormal (x : UnpackedFloat) (q : Nat) (e : Int) : Prop :=
  ∃ (sign : Sign) (m : Nat) (i : Nat) (h : 0 < m),
    x = .finite sign m (e + i) h ∧ m.log2 = 52 ∧ m * 2 ^ i = q

variable {e : Int}

/-- A mantissa that has too many bits is shifted to have 53. -/
theorem shiftToTargetExponent_eq (hm : m.log2 = 52 + n) (he : -1074 ≤ e + n) :
    shiftToTargetExponent .binary64 m e .exact =
      (ExtendedMantissa.ofMantissaAndAccuracy m .exact >>> n, e + n) := by
  have htarget : Format.binary64.targetExponent (totalExponent m e) = e + n := by
    show max (m.log2 + 1 + e - 53) (-1074) = e + n
    omega
  unfold shiftToTargetExponent shiftToExponent
  dsimp only
  rw [htarget, show (e + n - e).toNat = n by omega]

/-- Rounding shifts twice: what was rounded up to a power of two is shifted again. -/
theorem roundWithAccuracy_eq {sign : Sign} {first second : ExtendedMantissa} {q : Nat}
    {e₁ e₂ : Int} (hfirst : shiftToTargetExponent .binary64 m e .exact = (first, e₁))
    (hq : first.roundedMantissa = q)
    (hsecond : shiftToTargetExponent .binary64 q e₁ .exact = (second, e₂))
    (hpos : 0 < second.mantissa) :
    roundWithAccuracy .binary64 sign m e .exact = .finite sign second.mantissa e₂ hpos := by
  subst hq
  unfold roundWithAccuracy
  rw [hfirst]
  dsimp only
  rw [hsecond]
  exact dif_neg (Nat.ne_of_gt hpos)

/-- The model rounds half to even and normalises what it gets. -/
theorem isNormal_roundWithAccuracy (sign : Sign) (hm : m.log2 = 52 + n) (he : -1074 ≤ e + n) :
    IsNormal (roundWithAccuracy .binary64 sign m e .exact) (halfEven m n) (e + n) := by
  have hpos : m ≠ 0 := by rintro rfl; simp at hm; omega
  have hlow : 2 ^ (52 + n) ≤ m := hm ▸ Nat.log2_self_le hpos
  have hhigh : m < 2 ^ (53 + n) := by
    rw [show 53 + n = m.log2 + 1 by omega]
    exact Nat.lt_log2_self
  have hfirst := shiftToTargetExponent_eq hm he
  have hq := roundedMantissa_shiftRight m n
  have hge := le_halfEven hlow
  rcases Nat.eq_or_lt_of_le (halfEven_le_of_lt hhigh) with heq | hlt
  · -- All bits of the mantissa are used up by the carry, and one more has to be dropped.
    have hsecond := @shiftToTargetExponent_eq (2 ^ 53) 1 (e + n) (by decide) (by omega)
    rw [heq] at hq ⊢
    exact ⟨sign, _, 1, _, roundWithAccuracy_eq hfirst hq hsecond (by decide), rfl, rfl⟩
  · have hlog : (halfEven m n).log2 = 52 + 0 := (Nat.log2_eq_iff (by omega)).2 ⟨hge, hlt⟩
    have hsecond := @shiftToTargetExponent_eq _ 0 (e + n) hlog (by omega)
    have hpos : 0 < halfEven m n := by omega
    exact ⟨sign, _, 0, _, roundWithAccuracy_eq hfirst hq hsecond hpos, hlog, Nat.mul_one _⟩

/-! ## Packing -/

/-- A bit pattern whose exponent is neither the least nor the greatest one is a normal value. -/
theorem exists_unpack_eq {v : BitVec 64} {b : Nat} (hm : 0 < m)
    (hmantissa : (1#1 ++ @UnpackedFloat.unpackMantissa .binary64 v).toNat = m)
    (hexponent : (@UnpackedFloat.unpackExponent .binary64 v).toNat = b) (hlow : 0 < b)
    (hhigh : b < 2047) :
    ∃ sign h, UnpackedFloat.unpack .binary64 v = .finite sign m (b - 1075) h := by
  subst hmantissa hexponent
  unfold UnpackedFloat.unpack
  dsimp only
  rw [if_neg fun h => Nat.ne_of_lt hhigh (congrArg BitVec.toNat h),
    if_neg fun h => Nat.ne_of_gt hlow (congrArg BitVec.toNat h)]
  exact ⟨_, hm, rfl⟩

/-- The fields of a normal value are all that there is to it. -/
theorem exists_unpack_packComponents (sign : Sign) {b : Nat} (hm : m.log2 = 52) (hlow : 0 < b)
    (hhigh : b < 2047) :
    ∃ sign' h, UnpackedFloat.unpack .binary64 (packComponents .binary64 sign (BitVec.ofNat 11 b)
      (BitVec.ofNat 52 m)) = .finite sign' m (b - 1075) h := by
  have hpos : 0 < m := Nat.pos_of_ne_zero (by rintro rfl; simp at hm)
  obtain ⟨hge, hlt⟩ := (Nat.log2_eq_iff (by omega)).1 hm
  refine exists_unpack_eq hpos ?_ ?_ hlow hhigh
  · -- The bit that is left out is in front of the 52 others.
    rw [unpackMantissa_packComponents, BitVec.toNat_append,
      ← Nat.shiftLeft_add_eq_or_of_lt (BitVec.isLt _)]
    simp [Nat.shiftLeft_eq]
    omega
  · rw [unpackExponent_packComponents]
    exact Nat.mod_eq_of_lt (by omega)

/-- The exponent as it is stored. -/
theorem biased_eq (e : Int) :
    (e + Format.binary64.exponentBias + Format.binary64.mantissaBitsWithoutImplicit).toNat =
      (e + 1075).toNat := by
  show (e + 1023 + 52).toNat = _
  omega

/-- Below the greatest power of two a value is stored as it is, but for its sign. -/
theorem exists_unpack_pack (sign : Sign) (hm : m.log2 = 52) (hpos : 0 < m) (hlow : -1074 ≤ e)
    (hhigh : e < 972) :
    ∃ sign', (Float.Model.pack (.finite sign m e hpos)).unpack = .finite sign' m e hpos := by
  have hpack : UnpackedFloat.pack .binary64 (.finite sign m e hpos) =
      packComponents .binary64 sign (BitVec.ofNat 11 (e + 1075).toNat) (BitVec.ofNat 52 m) := by
    unfold UnpackedFloat.pack
    dsimp only
    rw [biased_eq, if_neg (by omega), if_pos (by rw [hm]; rfl)]
  obtain ⟨sign', h, hunpack⟩ :=
    exists_unpack_packComponents sign (b := (e + 1075).toNat) hm (by omega) (by omega)
  rw [show ((e + 1075).toNat : Int) - 1075 = e by omega] at hunpack
  exact ⟨sign', (congrArg (UnpackedFloat.unpack .binary64) hpack).trans hunpack⟩

/-- From there on it is stored as infinity. -/
theorem isInf_pack_of_le (sign : Sign) (hpos : 0 < m) (hhigh : 972 ≤ e) :
    (Float.Model.pack (.finite sign m e hpos)).isInf = true := by
  have hpack : UnpackedFloat.pack .binary64 (.finite sign m e hpos) =
      packedInfinity .binary64 sign := by
    unfold UnpackedFloat.pack
    dsimp only
    rw [biased_eq, if_pos (by omega)]
  show (UnpackedFloat.unpack .binary64 (UnpackedFloat.pack .binary64 _)).isInf = true
  rw [hpack]
  cases sign <;> decide

/-- A mantissa of 53 bits reaches a power of two by its exponent alone. -/
theorem le_mul_two_pow_iff {i t : Nat} (hm : m.log2 = 52) :
    2 ^ (t + 54) ≤ m * 2 ^ i ↔ t + 2 ≤ i := by
  have hpos : m ≠ 0 := by rintro rfl; simp at hm
  obtain ⟨hge, hlt⟩ := (Nat.log2_eq_iff hpos).1 hm
  have hsplit : 2 ^ (t + 54) = 2 ^ 52 * 2 ^ (t + 2) := by
    rw [← Nat.pow_add, show t + 54 = 52 + (t + 2) by omega]
  rw [hsplit]
  constructor
  · intro h
    refine Nat.le_of_not_lt fun hit => Nat.not_le.2 ?_ h
    calc m * 2 ^ i
        < 2 ^ 53 * 2 ^ i := Nat.mul_lt_mul_of_pos_right hlt (Nat.two_pow_pos i)
      _ = 2 ^ 52 * 2 ^ (i + 1) := by rw [Nat.pow_succ 2 i]; omega
      _ ≤ 2 ^ 52 * 2 ^ (t + 2) := Nat.mul_le_mul_left _ (Nat.pow_le_pow_right (by decide) hit)
  · exact fun h => Nat.mul_le_mul hge (Nat.pow_le_pow_right (by decide) h)

/-- The least positive value is a half to this power. -/
def depth : Nat := 1074

/-- A value is stored as infinity iff it is at least the power of two that is too great. -/
theorem isInf_pack_iff {x : UnpackedFloat} {q : Nat} (h : IsNormal x q e) (he : -1074 ≤ e) :
    (Float.Model.pack x).isInf = true ↔ 2 ^ (970 + depth + 54) ≤ q * 2 ^ (e + 1074).toNat := by
  obtain ⟨sign, m, i, hpos, rfl, hm, rfl⟩ := h
  rw [Nat.mul_assoc, ← Nat.pow_add, le_mul_two_pow_iff hm]
  by_cases hsmall : e + i < 972
  · obtain ⟨sign', hunpack⟩ := exists_unpack_pack sign hm hpos (e := e + i) (by omega) hsmall
    rw [Float.Model.isInf, hunpack]
    exact iff_of_false Bool.false_ne_true (by unfold depth; omega)
  · have hinf := isInf_pack_of_le sign hpos (Int.not_lt.1 hsmall)
    exact iff_of_true hinf (by unfold depth; omega)

/-! ## Products -/

/-- Rounding gets to a power of two from the middle of the last step before it on. -/
theorem le_halfEven_mul_iff {k t : Nat} (hlow : 2 ^ (52 + n) ≤ m) (hhigh : m < 2 ^ (53 + n)) :
    2 ^ (t + 54) ≤ halfEven m n * 2 ^ (n + k) ↔ (2 ^ 54 - 1) * 2 ^ t ≤ m * 2 ^ k := by
  have hk : 0 < 2 ^ k := Nat.two_pow_pos k
  have ht : 0 < 2 ^ t := Nat.two_pow_pos t
  have hsplit (a : Nat) : 2 ^ (a + n) * 2 ^ k = 2 ^ a * 2 ^ (n + k) := by
    rw [Nat.pow_add 2 a, Nat.mul_assoc, ← Nat.pow_add]
  rw [Nat.pow_add 2 t]
  rcases Nat.lt_trichotomy (n + k) (t + 1) with hlt | heq | hgt
  · have hpow : 2 ^ (n + k) ≤ 2 ^ t := Nat.pow_le_pow_right (by decide) (Nat.le_of_lt_succ hlt)
    have hq : halfEven m n * 2 ^ (n + k) ≤ 2 ^ 53 * 2 ^ (n + k) :=
      Nat.mul_le_mul_right _ (halfEven_le_of_lt hhigh)
    have hm : m * 2 ^ k < 2 ^ 53 * 2 ^ (n + k) := hsplit 53 ▸ Nat.mul_lt_mul_of_pos_right hhigh hk
    exact iff_of_false (by omega) (by omega)
  · -- Here it matters how far in the last step the integer is.
    have hpow : 2 ^ (n + k) = 2 ^ t * 2 := by rw [heq, Nat.pow_succ 2 t]
    calc 2 ^ t * 2 ^ 54 ≤ halfEven m n * 2 ^ (n + k)
        ↔ 2 ^ 53 * (2 ^ t * 2) ≤ halfEven m n * (2 ^ t * 2) := by rw [hpow]; omega
      _ ↔ 2 ^ 53 ≤ halfEven m n := Nat.mul_le_mul_right_iff (by omega)
      _ ↔ halfEven m n = 2 ^ 53 :=
        ⟨Nat.le_antisymm (halfEven_le_of_lt hhigh), Nat.le_of_eq ∘ Eq.symm⟩
      _ ↔ (2 ^ 54 - 1) * 2 ^ n ≤ 2 * m := halfEven_eq_iff hhigh
      _ ↔ (2 ^ 54 - 1) * 2 ^ n * 2 ^ k ≤ 2 * m * 2 ^ k := (Nat.mul_le_mul_right_iff hk).symm
      _ ↔ (2 ^ 54 - 1) * 2 ^ t ≤ m * 2 ^ k := by
        rw [Nat.mul_assoc, ← Nat.pow_add, hpow, Nat.mul_assoc 2]
        omega
  · have hpow : 2 ^ t * 4 ≤ 2 ^ (n + k) := by
      rw [show 2 ^ t * 4 = 2 ^ (t + 2) from (Nat.pow_add 2 t 2).symm]
      exact Nat.pow_le_pow_right (by decide) hgt
    have hq : 2 ^ 52 * 2 ^ (n + k) ≤ halfEven m n * 2 ^ (n + k) :=
      Nat.mul_le_mul_right _ (le_halfEven hlow)
    have hm : 2 ^ 52 * 2 ^ (n + k) ≤ m * 2 ^ k := hsplit 52 ▸ Nat.mul_le_mul_right _ hlow
    exact iff_of_true (by omega) (by omega)

/-- The middle between the greatest finite value and the power of two above it, in multiples of the
least positive value. -/
def overflowBound : Nat := (2 ^ 54 - 1) * 2 ^ (970 + depth)

/-- The exact product is rounded once. -/
theorem isInf_mul_iff_of_finite {x y : Float} {sign sign' : Sign} {e' : Int} {hm : 0 < m}
    {hm' : 0 < m'} (hx : x.toModel.unpack = .finite sign m e hm)
    (hy : y.toModel.unpack = .finite sign' m' e' hm') (hnormal : m.log2 = 52)
    (he : -1074 ≤ e + e') :
    (x * y).isInf = true ↔ overflowBound ≤ m * m' * 2 ^ (e + e' + 1074).toNat := by
  have hmul : (x * y).isInf =
      (Float.Model.pack (UnpackedFloat.mul .binary64 x.toModel.unpack y.toModel.unpack)).isInf :=
    rfl
  have hge : 2 ^ 52 ≤ m := hnormal ▸ Nat.log2_self_le (Nat.ne_of_gt hm)
  have hle : 2 ^ 52 ≤ m * m' := Nat.le_trans hge (Nat.le_mul_of_pos_right m hm')
  have hlog : (m * m').log2 = 52 + ((m * m').log2 - 52) := by
    have := (Nat.le_log2 (by omega)).2 hle
    omega
  have hrounded := isNormal_roundWithAccuracy (sign * sign') (e := e + e') hlog (by omega)
  generalize (m * m').log2 - 52 = n at hlog hrounded
  rw [hmul, hx, hy]
  refine (isInf_pack_iff hrounded (by omega)).trans ?_
  rw [show (e + e' + n + 1074).toNat = n + (e + e' + 1074).toNat by omega, overflowBound]
  refine le_halfEven_mul_iff (hlog ▸ Nat.log2_self_le (by omega)) ?_
  rw [show 53 + n = (m * m').log2 + 1 by omega]
  exact Nat.lt_log2_self

/-- A finite value without its sign, in multiples of the least positive one. -/
def magnitude (x : Float) : Nat :=
  match x.toModel.unpack with
  | .finite _ m e _ => m * 2 ^ (e + 1074).toNat
  | _ => 0

/-- No value has an exponent below that of the least positive one. -/
theorem le_exponent {b : BitVec Format.binary64.numBits} {sign : Sign} {hpos : 0 < m}
    (h : UnpackedFloat.unpack .binary64 b = .finite sign m e hpos) : -1074 ≤ e := by
  unfold UnpackedFloat.unpack at h
  dsimp only at h
  rcases ite_eq_iff.1 h with ⟨-, h⟩ | ⟨-, h⟩
  · rcases ite_eq_iff.1 h with ⟨-, h⟩ | ⟨-, h⟩ <;> cases h
  rcases ite_eq_iff.1 h with ⟨hzero, h⟩ | ⟨hzero, h⟩
  · rcases dite_eq_iff.1 h with ⟨_, h⟩ | ⟨_, h⟩
    · cases h
    · cases h
      rw [hzero]
      decide
  · cases h
    have hexponent : (unpackExponent b).toNat ≠ 0 := fun h => hzero (BitVec.eq_of_toNat_eq h)
    show _ ≤ ((unpackExponent b).toNat : Int) - (1023 + 52)
    omega

/-- A value with a magnitude is finite, and its magnitude is its mantissa scaled. -/
theorem exists_of_magnitude_pos {x : Float} (h : 0 < magnitude x) :
    ∃ (sign : Sign) (m : Nat) (e : Int) (hpos : 0 < m),
      x.toModel.unpack = .finite sign m e hpos ∧ -1074 ≤ e ∧
        magnitude x = m * 2 ^ (e + 1074).toNat := by
  unfold magnitude at h ⊢
  generalize hx : x.toModel.unpack = value at h ⊢
  cases value with
  | finite sign m e hpos => exact ⟨sign, m, e, hpos, rfl, le_exponent hx, rfl⟩
  | zero | infinity | notANumber => cases h

/-- A product is infinite iff the exact product reaches the bound. -/
theorem isInf_mul_iff {x y : Float} {q k : Nat} (hx : IsNormal x.toModel.unpack q k)
    (hy : 0 < magnitude y) :
    (x * y).isInf = true ↔ overflowBound ≤ q * 2 ^ k * magnitude y := by
  obtain ⟨sign, m, i, hpos, hx, hm, rfl⟩ := hx
  obtain ⟨sign', m', e, hpos', hy, he, hmagnitude⟩ := exists_of_magnitude_pos hy
  have hproduct :
      m * m' * 2 ^ (k + i + e + 1074 : Int).toNat = m * 2 ^ i * 2 ^ k * magnitude y := by
    rw [hmagnitude, show (k + i + e + 1074 : Int).toNat = i + k + (e + 1074).toNat by omega,
      Nat.pow_add, Nat.pow_add]
    ac_rfl
  rw [isInf_mul_iff_of_finite hx hy hm (by omega), hproduct]

/-! ## Integers as floating-point values -/

/-- A value that is not too great is stored as it is, but for its sign. -/
theorem IsNormal.unpack_pack {x : UnpackedFloat} {q : Nat} (h : IsNormal x q e)
    (he : -1074 ≤ e) (hlt : q * 2 ^ (e + 1074).toNat < 2 ^ (970 + depth + 54)) :
    IsNormal (Float.Model.pack x).unpack q e := by
  obtain ⟨sign, m, i, hpos, rfl, hm, rfl⟩ := h
  rw [← Nat.not_le, Nat.mul_assoc, ← Nat.pow_add, le_mul_two_pow_iff hm, depth] at hlt
  obtain ⟨sign', hunpack⟩ := exists_unpack_pack sign hm hpos (e := e + i) (by omega) (by omega)
  exact ⟨sign', m, i, hpos, hunpack, hm, rfl⟩

/-- How the model makes a value of an integer that is not small. -/
theorem toModel_ofScientific {k : Nat} (hm : 0 < m) (hlarge : 2 ^ 53 ≤ m ∨ 22 < k)
    (hk : k ≤ 2048) :
    (Float.ofScientific m false k).toModel = Float.Model.pack
      (roundWithAccuracy .binary64 .positive (m * 10 ^ k * 2 ^ 53) (-53) .exact) := by
  have hslow : ¬(m < 2 ^ 53 ∧ k ≤ 22) := by omega
  have hhigh : ¬(k : Int) > 2 ^ Format.binary64.exponentBits := by
    show ¬(k : Int) > 2048
    omega
  have hlow : ¬(k : Int) < -((2 ^ Format.binary64.exponentBits : Int) + m.log2) := by
    show ¬(k : Int) < -(2048 + m.log2)
    omega
  rw [Float.ofScientific, dif_neg hslow]
  show Float.Model.pack (UnpackedFloat.ofScientific .binary64 m k) = _
  rw [UnpackedFloat.ofScientific, dif_neg (Nat.ne_of_gt hm), if_neg hhigh, if_neg hlow,
    if_pos (Int.natCast_nonneg k)]
  show Float.Model.pack (roundWithAccuracy .binary64 .positive (m <<< 53 * 10 ^ k) (-53) .exact) = _
  rw [Nat.shiftLeft_eq, Nat.mul_right_comm]

/-- An integer that is not small is rounded. -/
theorem isNormal_ofScientific {k : Nat} (hlarge : 2 ^ 53 ≤ m ∨ 22 < k) (hk : k ≤ 2048)
    (hlow : 2 ^ 52 ≤ m * 10 ^ k)
    (hhigh : nearestInteger (m * 10 ^ k) * 2 ^ depth < 2 ^ (970 + depth + 54)) :
    IsNormal (Float.ofScientific m false k).toModel.unpack
      (halfEven (m * 10 ^ k) ((m * 10 ^ k).log2 - 52)) ((m * 10 ^ k).log2 - 52 : Nat) := by
  have hm : 0 < m := Nat.pos_of_ne_zero (by rintro rfl; simp at hlow)
  rw [toModel_ofScientific hm hlarge hk]
  rw [nearestInteger, Nat.mul_assoc, ← Nat.pow_add] at hhigh
  generalize m * 10 ^ k = q at *
  have hge : 52 ≤ q.log2 := (Nat.le_log2 (by omega)).2 hlow
  have hlog : (q * 2 ^ 53).log2 = 52 + (q.log2 - 52 + 53) := by
    have hself := Nat.log2_self_le (n := q) (by omega)
    have hlt := Nat.lt_log2_self (n := q)
    rw [Nat.log2_eq_iff (by omega), show 52 + (q.log2 - 52 + 53) = q.log2 + 53 by omega,
      Nat.add_right_comm, Nat.pow_add 2 q.log2, Nat.pow_add 2 (q.log2 + 1)]
    omega
  have hrounded := isNormal_roundWithAccuracy .positive hlog (e := -53) (by omega)
  rw [halfEven_mul_two_pow] at hrounded
  generalize q.log2 - 52 = n at *
  rw [show (-53 : Int) + (n + 53 : Nat) = n by omega] at hrounded
  refine hrounded.unpack_pack (by omega) ?_
  rwa [show ((n : Int) + 1074).toNat = n + depth by unfold depth; omega]

/-- An integer of more than 53 bits is rounded. -/
theorem isNormal_ofNat (hlow : 2 ^ 53 ≤ m) (hhigh : m < 2 ^ 64) :
    IsNormal (Float.ofNat m).toModel.unpack (halfEven m (m.log2 - 52)) (m.log2 - 52 : Nat) := by
  have hle : nearestInteger m ≤ 2 ^ 64 := nearestInteger_mono (Nat.le_of_lt hhigh)
  have h := isNormal_ofScientific (m := m) (k := 0) (.inl hlow) (by omega) (by omega) ?_
  · rwa [Nat.pow_zero, Nat.mul_one] at h
  rw [Nat.pow_zero, Nat.mul_one]
  calc nearestInteger m * 2 ^ depth
      ≤ 2 ^ 64 * 2 ^ depth := Nat.mul_le_mul_right _ hle
    _ = 2 ^ (64 + depth) := by rw [Nat.pow_add]
    _ < 2 ^ (970 + depth + 54) := Nat.pow_lt_pow_right (by decide) (by omega)

/-- The product of an integer and a value overflows iff the product of what they are rounded to
does. -/
theorem isInf_ofNat_mul_iff {y : Float} (hlow : 2 ^ 53 ≤ m) (hhigh : m < 2 ^ 64)
    (hy : 0 < magnitude y) :
    (Float.ofNat m * y).isInf = true ↔ overflowBound ≤ nearestInteger m * magnitude y :=
  isInf_mul_iff (isNormal_ofNat hlow hhigh) hy

/-- No such integer is zero as a floating-point value. -/
theorem ofNat_beq_zero (hlow : 2 ^ 53 ≤ m) (hhigh : m < 2 ^ 64) : (Float.ofNat m == 0) = false := by
  obtain ⟨sign, q, i, hpos, hunpack, -, -⟩ := isNormal_ofNat hlow hhigh
  have hzero : (0 : Float).toModel.unpack = .zero .positive := by rfl
  show UnpackedFloat.beq (Float.ofNat m).toModel.unpack (0 : Float).toModel.unpack = false
  rw [hunpack, hzero]
  cases sign <;> rfl

/-- The value nearest to a power of ten within range is that of the library. -/
theorem nearest_one (k : Nat) (hk : k ≤ 308) : nearest 1 k = Float.ofScientific 1 false k := by
  have hplace : ((Nat.toDigits 10 1).length : Int) = 1 := rfl
  unfold nearest
  rw [hplace]
  dsimp only
  rw [if_neg (by decide), if_neg (by omega), if_neg (by omega), if_pos (Int.natCast_nonneg k),
    Int.toNat_natCast]

/-- The magnitude of a normal value, in multiples of the least positive one. -/
theorem magnitude_of_isNormal {x : Float} {q k : Nat} (h : IsNormal x.toModel.unpack q k) :
    magnitude x = q * 2 ^ k * 2 ^ depth := by
  obtain ⟨sign, m, i, hpos, hx, -, rfl⟩ := h
  unfold magnitude
  rw [hx]
  dsimp only
  rw [show ((k : Int) + i + 1074).toNat = i + k + depth by unfold depth; omega, Nat.pow_add,
    Nat.pow_add]
  simp only [Nat.mul_assoc]

/-- A great power of ten is rounded. -/
theorem magnitude_nearest_one {k : Nat} (hlow : 22 < k) (hhigh : k ≤ 308) :
    magnitude (nearest 1 k) = nearestInteger (10 ^ k) * 2 ^ depth := by
  have hge : 2 ^ 52 ≤ 10 ^ k :=
    Nat.le_trans (by decide) (Nat.pow_le_pow_right (n := 10) (by decide) hlow)
  have hle {last : Nat} (h : k ≤ last) : nearestInteger (10 ^ k) ≤ nearestInteger (10 ^ last) :=
    nearestInteger_mono (Nat.pow_le_pow_right (by decide) h)
  have h := isNormal_ofScientific (m := 1) (k := k) (.inr hlow) (by omega) (by omega) ?_
  · rw [nearest_one k hhigh, magnitude_of_isNormal h, Nat.one_mul, nearestInteger]
  rw [Nat.one_mul]
  exact Nat.lt_of_le_of_lt (Nat.mul_le_mul_right _ (hle hhigh)) (by decide +kernel)

end KafkaCanary.Decimal
