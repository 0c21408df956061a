import KafkaCanary.Proofs.Decimal.Rounding
import KafkaCanary.Proofs.Json.Numerals

/-!
# Integers beyond 64 bits

What the number reader makes of integers whose digits do not fit 64 bits. It takes the digits that
fit and scales them by a power of ten for the others. Both factors are rounded and so is their
product, which is why the least integer that overflows is a little below the greatest finite value.

## Main definitions

* `leastOverflow`: the least integer that overflows;
* `Signed`: an integer as it is written, with a minus sign or without one.

## Main results

* `isInf_scaled_iff`: which digits overflow with which power of ten;
* `absorb_bounds`: what the digits that are taken say of all of them;
* `quantity_eq_none_iff`: an integer has no value iff it is at least `leastOverflow`;
* `Signed.readQuantity_of_overflow`, `Signed.exists_readQuantity_floating`: what is read of an
  integer that is none of 64 bits.
-/

namespace KafkaCanary.Json

open Decimal

/-- The least integer whose literal has no value, a little below the greatest finite binary64
value. -/
def leastOverflow : Nat := 17976931348623156225 * 10 ^ 289

/-! ## Powers of ten -/

theorem magnitude_power_mono {j k : Nat} (hj : 22 < j) (hjk : j ≤ k) (hk : k ≤ 308) :
    magnitude (nearest 1 j) ≤ magnitude (nearest 1 k) := by
  rw [magnitude_nearest_one hj (Nat.le_trans hjk hk),
    magnitude_nearest_one (Nat.lt_of_lt_of_le hj hjk) hk]
  exact Nat.mul_le_mul_right _ (nearestInteger_mono (Nat.pow_le_pow_right (by decide) hjk))

/-- The exact powers of ten. -/
theorem magnitude_small_power :
    ∀ k, k ≤ 22 → 0 < magnitude (nearest 1 (k : Nat)) ∧
      magnitude (nearest 1 (k : Nat)) ≤ magnitude (nearest 1 (23 : Nat)) := by
  decide +kernel

theorem magnitude_power_pos {k : Nat} (hk : k ≤ 308) : 0 < magnitude (nearest 1 k) := by
  rcases Nat.lt_or_ge 22 k with hlarge | hsmall
  · have hmono := magnitude_power_mono (j := 23) (by decide) hlarge hk
    exact Nat.lt_of_lt_of_le (by decide +kernel) hmono
  · exact (magnitude_small_power k hsmall).1

theorem magnitude_power_le {k : Nat} (hk : k ≤ 288) :
    magnitude (nearest 1 k) ≤ magnitude (nearest 1 (288 : Nat)) := by
  rcases Nat.lt_or_ge 22 k with hlarge | hsmall
  · exact magnitude_power_mono hlarge hk (by decide)
  · exact Nat.le_trans (magnitude_small_power k hsmall).2
      (magnitude_power_mono (by decide) (by decide) (by decide))

/-! ## Scaling -/

variable {s k n : Nat}

/-- With fewer than 289 digits behind them no digits overflow, and with more all do. -/
theorem isInf_scaled_iff (hlow : UInt64.size / 10 ≤ s) (hhigh : s < UInt64.size) (hk : k ≤ 308) :
    (Float.ofNat s * nearest 1 k).isInf = true ↔
      289 < k ∨ k = 289 ∧ 17976931348623156225 ≤ s := by
  rw [isInf_ofNat_mul_iff (Nat.le_trans (by decide) hlow) hhigh (magnitude_power_pos hk)]
  -- Both factors are monotone: away from the one power that matters the extreme significands
  -- decide.
  rcases Nat.lt_trichotomy k 289 with hlt | rfl | hgt
  · refine iff_of_false (Nat.not_le.2 ?_) (by omega)
    calc nearestInteger s * magnitude (nearest 1 k)
        ≤ nearestInteger UInt64.size * magnitude (nearest 1 (288 : Nat)) :=
          Nat.mul_le_mul (nearestInteger_mono (Nat.le_of_lt hhigh))
            (magnitude_power_le (Nat.le_of_lt_succ hlt))
      _ < overflowBound := by decide +kernel
  · rcases Nat.lt_or_ge s 17976931348623156225 with hlt | hge
    · refine iff_of_false (Nat.not_le.2 ?_) (by omega)
      calc nearestInteger s * magnitude (nearest 1 (289 : Nat))
          ≤ nearestInteger 17976931348623156224 * magnitude (nearest 1 (289 : Nat)) :=
            Nat.mul_le_mul_right _ (nearestInteger_mono (Nat.le_of_lt_succ hlt))
        _ < overflowBound := by decide +kernel
    · refine iff_of_true ?_ (by omega)
      calc overflowBound
          ≤ nearestInteger 17976931348623156225 * magnitude (nearest 1 (289 : Nat)) := by
            decide +kernel
        _ ≤ nearestInteger s * magnitude (nearest 1 (289 : Nat)) :=
            Nat.mul_le_mul_right _ (nearestInteger_mono hge)
  · refine iff_of_true ?_ (.inl hgt)
    calc overflowBound
        ≤ nearestInteger (UInt64.size / 10) * magnitude (nearest 1 (290 : Nat)) := by
          decide +kernel
      _ ≤ nearestInteger s * magnitude (nearest 1 k) :=
        Nat.mul_le_mul (nearestInteger_mono hlow) (magnitude_power_mono (by decide) hgt hk)

/-- An integer overflows iff the digits that are taken of it do. -/
theorem leastOverflow_le_iff (hlow : UInt64.size / 10 ≤ s) (hhigh : s < UInt64.size)
    (hn : s * 10 ^ k ≤ n) (hn' : n < (s + 1) * 10 ^ k) :
    leastOverflow ≤ n ↔ 289 < k ∨ k = 289 ∧ 17976931348623156225 ≤ s := by
  have hpow {j k : Nat} (h : j ≤ k) : 10 ^ j ≤ 10 ^ k := Nat.pow_le_pow_right (by decide) h
  -- The same three cases as for what is computed.
  rcases Nat.lt_trichotomy k 289 with hlt | heq | hgt
  · refine iff_of_false (Nat.not_le.2 ?_) (by omega)
    calc n < (s + 1) * 10 ^ k := hn'
      _ ≤ UInt64.size * 10 ^ 288 := Nat.mul_le_mul hhigh (hpow (Nat.le_of_lt_succ hlt))
      _ ≤ leastOverflow := by decide +kernel
  · have hleast : leastOverflow = 17976931348623156225 * 10 ^ k := by rw [heq, leastOverflow]
    rw [hleast]
    rcases Nat.lt_or_ge s 17976931348623156225 with hlt | hge
    · refine iff_of_false (Nat.not_le.2 ?_) (by omega)
      exact Nat.lt_of_lt_of_le hn' (Nat.mul_le_mul_right _ hlt)
    · refine iff_of_true ?_ (by omega)
      exact Nat.le_trans (Nat.mul_le_mul_right _ hge) hn
  · refine iff_of_true ?_ (.inl hgt)
    calc leastOverflow
        ≤ UInt64.size / 10 * 10 ^ 290 := by decide +kernel
      _ ≤ s * 10 ^ k := Nat.mul_le_mul hlow (hpow hgt)
      _ ≤ n := hn

/-- Digits that do not fit 64 bits have a floating-point value unless they overflow. -/
theorem scale_eq_none_iff (hlow : UInt64.size / 10 ≤ s) (hhigh : s < UInt64.size)
    (hn : s * 10 ^ k ≤ n) (hn' : n < (s + 1) * 10 ^ k) :
    scale (Float.ofNat s) k = none ↔ leastOverflow ≤ n := by
  rw [leastOverflow_le_iff hlow hhigh hn hn', scale, Int.natAbs_natCast]
  have hnonneg : ¬(k : Int) < 0 := by omega
  by_cases hk : k ≤ 308
  · rw [if_pos hk, ← isInf_scaled_iff hlow hhigh hk]
    dsimp only
    rw [if_neg hnonneg]
    split <;> simp [*]
  · rw [if_neg hk, ofNat_beq_zero (Nat.le_trans (by decide) hlow) hhigh,
      if_neg Bool.false_ne_true, if_pos (Int.natCast_nonneg k)]
    exact iff_of_true rfl (by omega)

/-! ## Digits that do not fit -/

theorem digitValue_le {d : UInt8} (h : isDigit d) : digitValue d ≤ 9 := by
  simp only [isDigit, Bool.and_eq_true, decide_eq_true_eq, UInt8.le_iff_toNat_le,
    UInt8.reduceToNat] at h
  unfold digitValue
  omega

/-- Digits after others add less than one more at the end of these would. -/
theorem foldl_digits_bounds {v : Nat} {ds : List UInt8} (h : ∀ d ∈ ds, isDigit d) :
    v * 10 ^ ds.length ≤ ds.foldl (fun n d => n * 10 + digitValue d) v ∧
      ds.foldl (fun n d => n * 10 + digitValue d) v < (v + 1) * 10 ^ ds.length := by
  induction ds generalizing v with
  | nil => simp
  | cons d ds ih =>
    obtain ⟨hd, hds⟩ := List.forall_mem_cons.1 h
    have hle := digitValue_le hd
    obtain ⟨hlow, hhigh⟩ := ih (v := v * 10 + digitValue d) hds
    rw [List.length_cons, Nat.pow_succ', ← Nat.mul_assoc, ← Nat.mul_assoc]
    exact ⟨Nat.le_trans (Nat.mul_le_mul_right _ (by omega)) hlow,
      Nat.lt_of_lt_of_le hhigh (Nat.mul_le_mul_right _ (by omega))⟩

/-- What the digits that were taken say of all of them. Where a digit was dropped, one more would
not have fitted. -/
theorem absorb_bounds {v s taken : Nat} {ds dropped : List UInt8} (hv : v < UInt64.size)
    (hds : ∀ d ∈ ds, isDigit d) (h : absorb v ds = (s, taken, dropped)) :
    s < UInt64.size ∧ (dropped ≠ [] → UInt64.size / 10 ≤ s) ∧
      s * 10 ^ dropped.length ≤ ds.foldl (fun n d => n * 10 + digitValue d) v ∧
      ds.foldl (fun n d => n * 10 + digitValue d) v < (s + 1) * 10 ^ dropped.length := by
  induction ds generalizing v taken with
  | nil =>
    cases h
    simpa using hv
  | cons d ds ih =>
    rw [absorb] at h
    split at h
    · next hlt =>
      simp only [Prod.mk.injEq] at h
      obtain ⟨rfl, -, rfl⟩ := h
      exact ih hlt (List.forall_mem_cons.1 hds).2 rfl
    · next hge =>
      cases h
      have hle := digitValue_le (List.forall_mem_cons.1 hds).1
      have hsize : UInt64.size = 18446744073709551616 := rfl
      exact ⟨hv, fun _ => by omega, foldl_digits_bounds hds⟩

theorem Whole.all_isDigit {ds : List UInt8} (h : Whole ds) : ∀ d ∈ ds, isDigit d := by
  cases h with
  | zero => exact List.forall_mem_singleton.2 rfl
  | digits hd _ hds => exact List.forall_mem_cons.2 ⟨hd, hds⟩

/-- An integer whose digits do not fit 64 bits has a value unless it overflows. -/
theorem quantity_eq_none_iff {negative : Bool} {ds : List UInt8} (hds : Whole ds) :
    Numeral.quantity ⟨negative, ds, [], none⟩ = none ↔ leastOverflow ≤ decimalValue ds := by
  rcases Nat.lt_or_ge (decimalValue ds) UInt64.size with hfits | hsize
  · have hlt : ¬leastOverflow ≤ decimalValue ds :=
      Nat.not_le.2 (Nat.lt_of_lt_of_le hfits (by decide +kernel))
    simp only [Numeral.quantity, absorb_of_lt hfits, absorb]
    simp [hlt]
  rcases habsorb : absorb 0 ds with ⟨s, taken, dropped⟩
  obtain ⟨hs, hlow, hn, hn'⟩ := absorb_bounds (by decide) hds.all_isDigit habsorb
  -- Something was dropped, or everything would have fitted.
  have hdropped : dropped ≠ [] := by
    rintro rfl
    rw [List.length_nil, Nat.pow_zero, Nat.mul_one] at hn'
    exact absurd hsize (Nat.not_le.2 (Nat.lt_of_lt_of_le hn' hs))
  rw [decimalValue, ← scale_eq_none_iff (hlow hdropped) hs hn hn']
  simp [Numeral.quantity, habsorb, absorb, Numeral.floatingValue, hdropped]

/-! ## Integers as they are written -/

/-- An integer in decimal digits, with or without a minus sign. Unlike in `IntegerLiteral`, a zero
can have one. -/
inductive Signed : (minus : Bool) → Int → List UInt8 → Prop
  /-- No sign. -/
  | plain {ds : List UInt8} : Whole ds → Signed false (decimalValue ds) ds
  /-- A minus sign. -/
  | minus {ds : List UInt8} : Whole ds → Signed true (-decimalValue ds) (0x2D :: ds)

namespace Signed

variable {minus : Bool} {z : Int} {text rest : List UInt8}

theorem integerLiteral (h : Signed minus z text) (hz : ¬(minus = true ∧ z = 0)) :
    IntegerLiteral z text := by
  cases h with
  | plain hds => exact .plain hds
  | minus hds => exact .negative hds (by simpa using hz)

/-- The bytes that an integer begins with. -/
theorem exists_cons (h : Signed minus z text) :
    ∃ b t, text = b :: t ∧ (b == 0x2D || isDigit b) = true := by
  cases h with
  | plain hds =>
    cases hds with
    | zero => exact ⟨_, _, rfl, rfl⟩
    | digits hd _ _ => exact ⟨_, _, rfl, by simp [hd]⟩
  | minus hds => exact ⟨_, _, rfl, rfl⟩

theorem exists_readNumeral (h : Signed minus z text) (hrest : Delimited rest) :
    ∃ ds, Whole ds ∧ decimalValue ds = z.natAbs ∧ (minus = true → z ≤ 0) ∧
      (minus = false → 0 ≤ z) ∧
      readNumeral .truncated (text ++ rest) = .ok (⟨minus, ds, [], none⟩, rest) := by
  cases h with
  | plain hds =>
    obtain ⟨x, hx, hparts⟩ :=
      exists_readParts_append .truncated false hds .absent .absent hrest
    obtain rfl := hx rfl
    simp only [List.append_nil, List.drop_nil] at hparts
    refine ⟨text, hds, by omega, nofun, fun _ => by omega, ?_⟩
    exact (readNumeral_of_head_ne _ hds.head_ne).trans hparts
  | @minus ds hds =>
    obtain ⟨x, hx, hparts⟩ :=
      exists_readParts_append .truncated true hds .absent .absent hrest
    obtain rfl := hx rfl
    simp only [List.append_nil, List.drop_nil] at hparts
    refine ⟨ds, hds, by omega, fun _ => by omega, nofun, ?_⟩
    exact (readNumeral_minus _ _).trans hparts

/-- An integer that overflows is no number. -/
theorem readQuantity_of_overflow (h : Signed minus z text) (hrest : Delimited rest)
    (hz : leastOverflow ≤ z.natAbs) : readQuantity (text ++ rest) = .error .malformed := by
  obtain ⟨ds, hds, hvalue, -, -, hnumeral⟩ := h.exists_readNumeral hrest
  have hnone : Numeral.quantity ⟨minus, ds, [], none⟩ = none :=
    (quantity_eq_none_iff hds).2 (hvalue ▸ hz)
  simp only [readQuantity, hnumeral, bind, Except.bind, hnone]

/-- A zero with a minus sign, and an integer that is no integer of 64 bits, is a floating-point
value. -/
theorem exists_readQuantity_floating (h : Signed minus z text) (hrest : Delimited rest)
    (hz : minus = true ∧ z = 0 ∨ z < -(Int64.size / 2 : Nat) ∨ (UInt64.size : Int) ≤ z)
    (hlt : z.natAbs < leastOverflow) :
    ∃ x, readQuantity (text ++ rest) = .ok (.floating x, rest) := by
  obtain ⟨ds, hds, hvalue, hminus, hplain, hnumeral⟩ := h.exists_readNumeral hrest
  cases hq : Numeral.quantity ⟨minus, ds, [], none⟩ with
  | none => exact absurd ((quantity_eq_none_iff hds).1 hq) (Nat.not_le.2 (hvalue ▸ hlt))
  | some q =>
    cases q with
    | floating x => exact ⟨x, readQuantity_eq_ok_iff.2 ⟨_, hnumeral, hq⟩⟩
    | integer z' =>
      -- An integer would have to fit 64 bits, and this one does not.
      obtain ⟨-, -, hfits, hvalue'⟩ := Numeral.quantity_eq_integer_iff.1 hq
      have hsize : UInt64.size = 18446744073709551616 := rfl
      have hsize' : Int64.size / 2 = 9223372036854775808 := rfl
      dsimp only at hfits hvalue'
      rcases Numeral.integerValue_eq_integer_iff.1 hvalue' with ⟨rfl, -⟩ | ⟨rfl, hne, hle, -⟩
      · have hnonneg := hplain rfl
        simp only [Bool.false_eq_true, false_and, false_or] at hz
        omega
      · have hnonpos := hminus rfl
        simp only [true_and] at hz
        omega

end Signed

end KafkaCanary.Json
