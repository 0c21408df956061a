import KafkaCanary.Wire.Checksum
import Mathlib.Algebra.CharP.Two
import Mathlib.Algebra.Field.ZMod
import Mathlib.RingTheory.AdjoinRoot
import Mathlib.RingTheory.Polynomial.Basic

/-!
# The checksum as a remainder

A message is a polynomial over the field of two elements, and its checksum is what division by the
generator leaves of it. The register that computes it bit by bit holds such a remainder all the way:
its lowest bit is the leading coefficient, so that shifting it to the right is multiplication by
`X`, and the constant that is added when a bit falls out takes the generator away once.

The register begins with ones and is inverted at the end. In terms of polynomials, the first 32 bits
of the message are inverted, 32 zeros follow the message, and the remainder is inverted.

## Main definitions

* `messagePolynomial`, `generator`: what is divided, and by what;
* `IsCrc32c`: the checksum of a message, by the remainder of a division.

## Main results

* `residue_foldl_checksumByte`: what the register holds;
* `isCrc32c_iff`: every message has one checksum, which is the one computed.
-/

open Polynomial

namespace KafkaCanary.Wire

/-! ## Polynomials of bits -/

/-- A bit as a coefficient. -/
def coefficient (bit : Bool) : ZMod 2 :=
  if bit then 1 else 0

/-- The polynomial of `n` bits, the first of which is the leading coefficient. -/
noncomputable def bitsPolynomial (n : Nat) (bits : Nat → Bool) : (ZMod 2)[X] :=
  ∑ i ∈ Finset.range n, C (coefficient (bits i)) * X ^ (n - 1 - i)

/-- The polynomial of a byte. Its lowest bit comes first. -/
noncomputable def bytePolynomial (b : UInt8) : (ZMod 2)[X] :=
  bitsPolynomial 8 b.toBitVec.getLsbD

/-- The polynomial of a word. Its lowest bit comes first. -/
noncomputable def wordPolynomial (c : UInt32) : (ZMod 2)[X] :=
  bitsPolynomial 32 c.toBitVec.getLsbD

/-- The polynomial of a message. Its first byte comes first. -/
noncomputable def messagePolynomial : List UInt8 → (ZMod 2)[X]
  | [] => 0
  | b :: bytes => bytePolynomial b * X ^ (8 * bytes.length) + messagePolynomial bytes

/-- Thirty-two ones. -/
noncomputable def ones : (ZMod 2)[X] :=
  bitsPolynomial 32 fun _ => true

/-- What messages are divided by. -/
noncomputable def generator : (ZMod 2)[X] :=
  X ^ 32 + (X ^ 28 + X ^ 27 + X ^ 26 + X ^ 25 + X ^ 23 + X ^ 22 + X ^ 20 + X ^ 19 + X ^ 18 +
    X ^ 14 + X ^ 13 + X ^ 11 + X ^ 10 + X ^ 9 + X ^ 8 + X ^ 6 + 1)

/-- The CRC-32C of a message: the inverted remainder of the message followed by 32 zeros, the first
32 bits of which are inverted. -/
def IsCrc32c (bytes : List UInt8) (checksum : UInt32) : Prop :=
  wordPolynomial checksum + ones =
    (messagePolynomial bytes * X ^ 32 + ones * X ^ (8 * bytes.length)) %ₘ generator

section Bits

variable {n : Nat} {bits bits' : Nat → Bool}

/-- Only the first `n` bits count. -/
theorem bitsPolynomial_congr (h : ∀ i < n, bits i = bits' i) :
    bitsPolynomial n bits = bitsPolynomial n bits' := by
  rw [bitsPolynomial, bitsPolynomial]
  exact Finset.sum_congr rfl fun i hi => by rw [h i (Finset.mem_range.1 hi)]

/-- One more bit at the end. -/
theorem bitsPolynomial_succ (n : Nat) (bits : Nat → Bool) :
    bitsPolynomial (n + 1) bits = bitsPolynomial n bits * X + C (coefficient (bits n)) := by
  rw [bitsPolynomial, bitsPolynomial, Finset.sum_range_succ, Finset.sum_mul]
  refine congrArg₂ (· + ·) (Finset.sum_congr rfl fun i hi => ?_) (by simp)
  rw [Finset.mem_range] at hi
  rw [mul_assoc, ← pow_succ, show n - 1 - i + 1 = n + 1 - 1 - i by omega]

/-- Bits at the end that are not set. -/
theorem bitsPolynomial_add (n k : Nat) (h : ∀ i, n ≤ i → bits i = false) :
    bitsPolynomial (n + k) bits = bitsPolynomial n bits * X ^ k := by
  induction k with
  | zero => rw [Nat.add_zero, pow_zero, mul_one]
  | succ k ih =>
    have hnone : coefficient false = 0 := rfl
    rw [← Nat.add_assoc, bitsPolynomial_succ, ih, h (n + k) (Nat.le_add_right n k), hnone, C_0,
      add_zero, mul_assoc, ← pow_succ]

/-- Exclusive or is addition. -/
theorem bitsPolynomial_xor (n : Nat) (bits bits' : Nat → Bool) :
    bitsPolynomial n (fun i => bits i ^^ bits' i) =
      bitsPolynomial n bits + bitsPolynomial n bits' := by
  rw [bitsPolynomial, bitsPolynomial, bitsPolynomial, ← Finset.sum_add_distrib]
  refine Finset.sum_congr rfl fun i _ => ?_
  have hxor : coefficient (bits i ^^ bits' i) = coefficient (bits i) + coefficient (bits' i) := by
    cases bits i <;> cases bits' i <;> decide
  rw [hxor, C_add, add_mul]

/-- Multiplication by `X` moves every bit one place forward, and the first one out. -/
theorem bitsPolynomial_mul_X (n : Nat) (h : bits (n + 1) = false) :
    bitsPolynomial (n + 1) bits * X =
      bitsPolynomial (n + 1) (fun i => bits (i + 1)) + C (coefficient (bits 0)) * X ^ (n + 1) := by
  have hnone : coefficient false = 0 := rfl
  rw [bitsPolynomial, Finset.sum_range_succ', bitsPolynomial, Finset.sum_range_succ, h, hnone,
    C_0, zero_mul, add_zero, add_mul, Finset.sum_mul, mul_assoc, ← pow_succ]
  refine congrArg₂ (· + ·) (Finset.sum_congr rfl fun i hi => ?_) rfl
  rw [Finset.mem_range] at hi
  rw [mul_assoc, ← pow_succ, show n + 1 - 1 - (i + 1) + 1 = n + 1 - 1 - i by omega]

/-- The first of `n` bits is the leading one. -/
theorem degree_bitsPolynomial_lt (n : Nat) (bits : Nat → Bool) :
    (bitsPolynomial n bits).degree < n := by
  rw [← mem_degreeLT]
  refine Submodule.sum_mem _ fun i hi => ?_
  rw [Finset.mem_range] at hi
  rw [mem_degreeLT]
  exact (degree_C_mul_X_pow_le _ _).trans_lt (Nat.cast_lt.2 (by omega))

/-- Every bit can be read off the polynomial. -/
theorem coeff_bitsPolynomial (bits : Nat → Bool) {i : Nat} (h : i < n) :
    (bitsPolynomial n bits).coeff (n - 1 - i) = coefficient (bits i) := by
  rw [bitsPolynomial, finsetSum_coeff, Finset.sum_eq_single i]
  · simp
  · intro j hj hne
    rw [Finset.mem_range] at hj
    rw [coeff_C_mul_X_pow, if_neg (by omega)]
  · exact fun hmem => absurd (Finset.mem_range.2 h) hmem

end Bits

/-! ## The register -/

/-- The generator is monic, so that remainders by it are unique. -/
theorem generator_monic : generator.Monic := by
  unfold generator
  apply monic_X_pow_add
  compute_degree!

/-- The generator has degree 32, one more than a checksum has bits. -/
theorem natDegree_generator : generator.natDegree = 32 := by
  unfold generator
  compute_degree!

/-- The polynomial of an exclusive or is the sum of polynomials. -/
theorem wordPolynomial_xor (a b : UInt32) :
    wordPolynomial (a ^^^ b) = wordPolynomial a + wordPolynomial b := by
  rw [wordPolynomial, wordPolynomial, wordPolynomial, ← bitsPolynomial_xor]
  exact congrArg (bitsPolynomial 32) (funext fun i => by simp)

/-- The word of all ones. -/
theorem wordPolynomial_ones : wordPolynomial 0xFFFFFFFF = ones := by
  have hbits : ∀ i < 32, (0xFFFFFFFF : UInt32).toBitVec.getLsbD i = true := by decide
  exact bitsPolynomial_congr hbits

/-- The constant of the register is the generator without its leading term. -/
theorem wordPolynomial_castagnoli : wordPolynomial castagnoli + X ^ 32 = generator := by
  simp [wordPolynomial, bitsPolynomial, Finset.sum_range_succ, castagnoli, coefficient, generator,
    add_comm]

/-- A byte in a word is followed by 24 zeros. -/
theorem wordPolynomial_toUInt32 (b : UInt8) :
    wordPolynomial b.toUInt32 = bytePolynomial b * X ^ 24 := by
  have hbits : b.toUInt32.toBitVec.getLsbD = b.toBitVec.getLsbD := by
    funext i
    simp only [UInt8.toBitVec_toUInt32, BitVec.getLsbD_setWidth, Bool.and_eq_right_iff_imp,
      decide_eq_true_eq]
    exact fun hbit => Nat.lt_trans (BitVec.lt_of_getLsbD hbit) (by decide)
  rw [wordPolynomial, hbits, bytePolynomial]
  exact bitsPolynomial_add 8 24 fun i hi => BitVec.getLsbD_of_ge _ _ hi

/-- A shift of the register multiplies by the variable, apart from the bit shifted out. -/
theorem wordPolynomial_mul_X (c : UInt32) :
    wordPolynomial c * X =
      wordPolynomial (c >>> 1) + C (coefficient (c.toBitVec.getLsbD 0)) * X ^ 32 := by
  have hbits : (fun i => c.toBitVec.getLsbD (i + 1)) = (c >>> 1).toBitVec.getLsbD := by
    funext i
    simp [Nat.add_comm]
  rw [wordPolynomial, bitsPolynomial_mul_X 31 (BitVec.getLsbD_of_ge _ _ (Nat.le_refl 32)), hbits,
    wordPolynomial]

/-- A word has a lower degree than the generator, as a remainder has. -/
theorem degree_wordPolynomial_lt (c : UInt32) :
    (wordPolynomial c).degree < generator.degree := by
  rw [degree_eq_natDegree generator_monic.ne_zero, natDegree_generator]
  exact degree_bitsPolynomial_lt 32 _

/-- Words are told apart by their polynomials. -/
theorem wordPolynomial_inj {a b : UInt32} : wordPolynomial a = wordPolynomial b ↔ a = b := by
  refine ⟨fun h => ?_, congrArg wordPolynomial⟩
  apply UInt32.toBitVec_inj.1
  apply BitVec.eq_of_getLsbD_eq
  intro i hi
  have hcoeff := congrArg (coeff · (32 - 1 - i)) h
  simp only [wordPolynomial, coeff_bitsPolynomial _ hi] at hcoeff
  revert hcoeff
  cases a.toBitVec.getLsbD i <;> cases b.toBitVec.getLsbD i <;> simp [coefficient]

/-- The lowest bit of a word. -/
theorem and_one_eq_one_iff (c : UInt32) : c &&& 1 = 1 ↔ c.toBitVec.getLsbD 0 = true := by
  have h : (c &&& 1).toBitVec = BitVec.setWidth 32 (BitVec.ofBool (c.toBitVec.getLsbD 0)) := by
    rw [UInt32.toBitVec_and]
    exact BitVec.and_one_eq_setWidth_ofBool_getLsbD
  rw [← UInt32.toBitVec_inj, h]
  cases c.toBitVec.getLsbD 0 <;> decide

/-- A step of the register is multiplication by `X`, up to the generator. -/
theorem wordPolynomial_checksumBit (c : UInt32) :
    wordPolynomial c * X =
      wordPolynomial (checksumBit c) + C (coefficient (c.toBitVec.getLsbD 0)) * generator := by
  rw [wordPolynomial_mul_X, checksumBit]
  by_cases h : c &&& 1 = 1
  · -- The constant is added here and with the generator, which is not at all.
    have htwice := CharTwo.add_self_eq_zero (wordPolynomial castagnoli)
    rw [if_pos h, (and_one_eq_one_iff c).1 h, wordPolynomial_xor, ← wordPolynomial_castagnoli]
    simp only [coefficient, if_true, C_1, one_mul]
    linear_combination -htwice
  · have hbit : c.toBitVec.getLsbD 0 = false := Bool.eq_false_iff.2 (mt (and_one_eq_one_iff c).2 h)
    have hnone : coefficient false = 0 := rfl
    rw [if_neg h, hbit, hnone, C_0, zero_mul, zero_mul]

/-- A polynomial modulo the generator. -/
noncomputable abbrev residue : (ZMod 2)[X] →+* AdjoinRoot generator :=
  AdjoinRoot.mk generator

/-- Each bit multiplies by the variable, modulo the generator. -/
theorem residue_checksumBits (n : Nat) (c : UInt32) :
    residue (wordPolynomial (checksumBits n c)) = residue (wordPolynomial c * X ^ n) := by
  induction n generalizing c with
  | zero => rw [checksumBits, pow_zero, mul_one]
  | succ n ih =>
    have hbit := congrArg residue (wordPolynomial_checksumBit c)
    rw [map_add, map_mul residue (C _), AdjoinRoot.mk_self, mul_zero, add_zero] at hbit
    rw [checksumBits, ih, map_mul, ← hbit, ← map_mul, pow_succ', mul_assoc]

/-- A byte shifts what was read so far by eight bits, and comes in above the 32 of the register. -/
theorem residue_checksumByte (c : UInt32) (b : UInt8) :
    residue (wordPolynomial (checksumByte c b)) =
      residue (wordPolynomial c * X ^ 8 + bytePolynomial b * X ^ 32) := by
  rw [checksumByte, residue_checksumBits, wordPolynomial_xor, wordPolynomial_toUInt32, add_mul,
    mul_assoc, ← pow_add]

/-- The register after a message holds the remainder of what was in it, followed by the message. -/
theorem residue_foldl_checksumByte (bytes : List UInt8) (c : UInt32) :
    residue (wordPolynomial (bytes.foldl checksumByte c)) =
      residue (messagePolynomial bytes * X ^ 32 + wordPolynomial c * X ^ (8 * bytes.length)) := by
  induction bytes generalizing c with
  | nil => simp [messagePolynomial]
  | cons b bytes ih =>
    rw [List.foldl_cons, ih, map_add, map_mul _ (wordPolynomial _), residue_checksumByte,
      ← map_mul, ← map_add, messagePolynomial, List.length_cons]
    refine congrArg residue ?_
    rw [Nat.mul_succ, pow_add]
    ring

/-! ## The checksum -/

/-- The checksum that is computed is the one by its definition. -/
theorem isCrc32c_crc32c (bytes : List UInt8) : IsCrc32c bytes (crc32c bytes) := by
  have hfold := residue_foldl_checksumByte bytes 0xFFFFFFFF
  rw [wordPolynomial_ones, AdjoinRoot.mk_eq_mk] at hfold
  -- Inverting twice changes nothing, and a word is too short to be divided.
  rw [IsCrc32c, crc32c, wordPolynomial_xor, wordPolynomial_ones, add_assoc,
    CharTwo.add_self_eq_zero, add_zero,
    modByMonic_eq_of_dvd_sub generator_monic (dvd_sub_comm.1 hfold)]
  exact ((modByMonic_eq_self_iff generator_monic).2 (degree_wordPolynomial_lt _)).symm

/-- Every message has one checksum, and it is the one that is computed bit by bit. -/
theorem isCrc32c_iff {bytes : List UInt8} {checksum : UInt32} :
    IsCrc32c bytes checksum ↔ checksum = crc32c bytes := by
  constructor
  · intro h
    have hwords := h.trans (isCrc32c_crc32c bytes).symm
    exact wordPolynomial_inj.1 (add_right_cancel hwords)
  · rintro rfl
    exact isCrc32c_crc32c bytes

/-- The check value: the checksum of the digits from 1 to 9. -/
example : crc32c [0x31, 0x32, 0x33, 0x34, 0x35, 0x36, 0x37, 0x38, 0x39] = 0xE3069283 := by
  decide +kernel

end KafkaCanary.Wire
