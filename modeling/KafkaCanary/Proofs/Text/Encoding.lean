import KafkaCanary.Proofs.Results
import KafkaCanary.Text.Utf8

/-!
# Decoding inverts encoding

`decode` accepts exactly the bytes that `encode` produces, so a text and its bytes determine each
other. The conditions that the decoder puts on bytes are restated as bounds on numbers, and then
both directions are arithmetic on the quotients and remainders by 64 that the bytes of a character
are made of.

## Main results

* `decodeFrom_utf8EncodeChar_append`: the bytes of a character are read as this character, whatever
  follows them;
* `decode_eq_ok_iff`: bytes are read as a text iff they are its encoding;
* `exists_utf8EncodeChar_eq_cons`: only the bytes after a character's first one are tails, so the
  first byte marks where a character begins.
-/

namespace KafkaCanary.Utf8

/-! ## The decoder's conditions as bounds -/

/-- The bytes that go on with a character. -/
theorem isTail_iff {b : UInt8} : isTail b = true ↔ 0x80 ≤ b.toNat ∧ b.toNat ≤ 0xBF := by
  simp [isTail, UInt8.le_iff_toNat_le]

/-- The bytes that begin a character of two. -/
theorem leadsTwo_iff {a : UInt8} : leadsTwo a = true ↔ 0xC2 ≤ a.toNat ∧ a.toNat ≤ 0xDF := by
  simp [leadsTwo, UInt8.le_iff_toNat_le]

/-- The bytes that begin a character of three. -/
theorem leadsThree_iff {a : UInt8} : leadsThree a = true ↔ 0xE0 ≤ a.toNat ∧ a.toNat ≤ 0xEF := by
  simp [leadsThree, UInt8.le_iff_toNat_le]

/-- The bytes that begin a character of four. -/
theorem leadsFour_iff {a : UInt8} : leadsFour a = true ↔ 0xF0 ≤ a.toNat ∧ a.toNat ≤ 0xF4 := by
  simp [leadsFour, UInt8.le_iff_toNat_le]

/-- The second byte is a tail, from a narrower range after four of the first bytes. -/
theorem isSecond_iff {a b : UInt8} : isSecond a b = true ↔
    0x80 ≤ b.toNat ∧ b.toNat ≤ 0xBF ∧ (a.toNat = 0xE0 → 0xA0 ≤ b.toNat) ∧
      (a.toNat = 0xED → b.toNat ≤ 0x9F) ∧ (a.toNat = 0xF0 → 0x90 ≤ b.toNat) ∧
      (a.toNat = 0xF4 → b.toNat ≤ 0x8F) := by
  simp only [isSecond, isTail, beq_iff_eq, ← UInt8.toNat_inj, UInt8.le_iff_toNat_le]
  split
  · simp_all; omega
  split
  · simp_all; omega
  split
  · simp_all; omega
  split
  · simp_all; omega
  · simp_all

/-- The bytes that are a character of their own. -/
theorem lt_0x80_iff {a : UInt8} : a < 0x80 ↔ a.toNat < 0x80 := by
  simp [UInt8.lt_iff_toNat_lt]

/-- The number of a character is a code point that is no surrogate. -/
theorem toNat_lt_or (c : Char) : c.toNat < 0xD800 ∨ (0xDFFF < c.toNat ∧ c.toNat < 0x110000) := by
  have := c.valid
  simpa [UInt32.isValidChar, Nat.isValidChar] using this

/-- A code point that is no surrogate is the number of its character. -/
theorem val_toNat_ofNat {n : Nat} (h : n < 0xD800 ∨ (0xDFFF < n ∧ n < 0x110000)) :
    (Char.ofNat n).val.toNat = n := by
  rw [Char.ofNat, dif_pos h]
  rfl

/-- The character of a character's number. -/
theorem ofNat_eq {c : Char} {n : Nat} (h : n = c.toNat) : Char.ofNat n = c := by
  rw [h, Char.ofNat_toNat]

/-! ## One step of the decoder -/

/-- A byte of its own is decoded as its character. -/
theorem decodeFrom_one {a : UInt8} (ha : a.toNat < 0x80) (index : Nat) (rest : List UInt8) :
    decodeFrom index (a :: rest) = (decodeFrom (index + 1) rest).map (Char.ofNat a.toNat :: ·) := by
  rw [decodeFrom.eq_def]
  simp only [if_pos (lt_0x80_iff.2 ha)]

/-- Two bytes that belong together are decoded as one character. -/
theorem decodeFrom_two {a b : UInt8} (ha : leadsTwo a) (hb : isTail b) (index : Nat)
    (rest : List UInt8) :
    decodeFrom index (a :: b :: rest) = (decodeFrom (index + 2) rest).map (ofTwo a b :: ·) := by
  have h := leadsTwo_iff.1 ha
  have h1 : ¬ a < 0x80 := by rw [lt_0x80_iff]; omega
  rw [decodeFrom.eq_def]
  simp only [if_neg h1, if_pos ha, if_pos hb]

/-- Three bytes that belong together are decoded as one character. -/
theorem decodeFrom_three {a b c : UInt8} (ha : leadsThree a) (hb : isSecond a b) (hc : isTail c)
    (index : Nat) (rest : List UInt8) :
    decodeFrom index (a :: b :: c :: rest) =
      (decodeFrom (index + 3) rest).map (ofThree a b c :: ·) := by
  have h := leadsThree_iff.1 ha
  have h1 : ¬ a < 0x80 := by rw [lt_0x80_iff]; omega
  have h2 : ¬ leadsTwo a = true := by rw [leadsTwo_iff]; omega
  rw [decodeFrom.eq_def]
  simp only [if_neg h1, if_neg h2, if_pos ha, hb, Bool.not_true, Bool.false_eq_true, if_false,
    if_pos hc]

/-- Four bytes that belong together are decoded as one character. -/
theorem decodeFrom_four {a b c d : UInt8} (ha : leadsFour a) (hb : isSecond a b) (hc : isTail c)
    (hd : isTail d) (index : Nat) (rest : List UInt8) :
    decodeFrom index (a :: b :: c :: d :: rest) =
      (decodeFrom (index + 4) rest).map (ofFour a b c d :: ·) := by
  have h := leadsFour_iff.1 ha
  have h1 : ¬ a < 0x80 := by rw [lt_0x80_iff]; omega
  have h2 : ¬ leadsTwo a = true := by rw [leadsTwo_iff]; omega
  have h3 : ¬ leadsThree a = true := by rw [leadsThree_iff]; omega
  rw [decodeFrom.eq_def]
  simp only [if_neg h1, if_neg h2, if_neg h3, if_pos ha, hb, hc, Bool.not_true,
    Bool.false_eq_true, if_false, if_pos hd]

/-- The bytes of a character are read as this character, whatever follows them. -/
theorem decodeFrom_utf8EncodeChar_append (c : Char) (index : Nat) (rest : List UInt8) :
    decodeFrom index (String.utf8EncodeChar c ++ rest) =
      (decodeFrom (index + (String.utf8EncodeChar c).length) rest).map (c :: ·) := by
  have hc := toNat_lt_or c
  fun_cases String.utf8EncodeChar c with
  | case1 v h =>
    have hv : v = c.toNat := rfl
    rw [List.singleton_append, decodeFrom_one (by simp; omega), List.length_singleton,
      ofNat_eq (c := c) (by simp; omega)]
  | case2 v h1 h2 =>
    have hv : v = c.toNat := rfl
    rw [List.cons_append, List.singleton_append,
      decodeFrom_two (leadsTwo_iff.2 (by simp; omega)) (isTail_iff.2 (by simp; omega)), ofTwo,
      ofNat_eq (c := c) (by simp; omega)]
    rfl
  | case3 v h1 h2 h3 =>
    have hv : v = c.toNat := rfl
    rw [List.cons_append, List.cons_append, List.singleton_append,
      decodeFrom_three (leadsThree_iff.2 (by simp; omega)) (isSecond_iff.2 (by simp; omega))
        (isTail_iff.2 (by simp; omega)), ofThree, ofNat_eq (c := c) (by simp; omega)]
    rfl
  | case4 v h1 h2 h3 =>
    have hv : v = c.toNat := rfl
    rw [List.cons_append, List.cons_append, List.cons_append, List.singleton_append,
      decodeFrom_four (leadsFour_iff.2 (by simp; omega)) (isSecond_iff.2 (by simp; omega))
        (isTail_iff.2 (by simp; omega)) (isTail_iff.2 (by simp; omega)), ofFour,
      ofNat_eq (c := c) (by simp; omega)]
    rfl

/-! ## The characters that the decoder makes -/

/-- The character of one byte is encoded as that byte. -/
theorem utf8EncodeChar_ofOne {a : UInt8} (ha : a.toNat < 0x80) :
    String.utf8EncodeChar (Char.ofNat a.toNat) = [a] := by
  have hv : (Char.ofNat a.toNat).val.toNat = a.toNat := val_toNat_ofNat (by omega)
  rw [String.utf8EncodeChar]
  simp only [hv]
  rw [if_pos (by omega)]
  simp

/-- The character of two bytes is encoded as those. -/
theorem utf8EncodeChar_ofTwo {a b : UInt8} (ha : leadsTwo a) (hb : isTail b) :
    String.utf8EncodeChar (ofTwo a b) = [a, b] := by
  rw [leadsTwo_iff] at ha
  rw [isTail_iff] at hb
  have hv : (ofTwo a b).val.toNat = (a.toNat - 0xC0) * 64 + (b.toNat - 0x80) :=
    val_toNat_ofNat (by omega)
  rw [String.utf8EncodeChar]
  simp only [hv]
  rw [if_neg (by omega), if_pos (by omega)]
  simp only [List.cons.injEq, and_true, ← UInt8.toNat_inj, UInt8.toNat_ofNat']
  omega

/-- The character of three bytes is encoded as those. -/
theorem utf8EncodeChar_ofThree {a b c : UInt8} (ha : leadsThree a) (hb : isSecond a b)
    (hc : isTail c) : String.utf8EncodeChar (ofThree a b c) = [a, b, c] := by
  rw [leadsThree_iff] at ha
  rw [isSecond_iff] at hb
  rw [isTail_iff] at hc
  -- The narrower ranges of the second byte keep the number off the surrogates.
  have hv : (ofThree a b c).val.toNat =
      ((a.toNat - 0xE0) * 64 + (b.toNat - 0x80)) * 64 + (c.toNat - 0x80) :=
    val_toNat_ofNat (by omega)
  rw [String.utf8EncodeChar]
  simp only [hv]
  rw [if_neg (by omega), if_neg (by omega), if_pos (by omega)]
  simp only [List.cons.injEq, and_true, ← UInt8.toNat_inj, UInt8.toNat_ofNat']
  omega

/-- The character of four bytes is encoded as those. -/
theorem utf8EncodeChar_ofFour {a b c d : UInt8} (ha : leadsFour a) (hb : isSecond a b)
    (hc : isTail c) (hd : isTail d) : String.utf8EncodeChar (ofFour a b c d) = [a, b, c, d] := by
  rw [leadsFour_iff] at ha
  rw [isSecond_iff] at hb
  rw [isTail_iff] at hc hd
  have hv : (ofFour a b c d).val.toNat =
      (((a.toNat - 0xF0) * 64 + (b.toNat - 0x80)) * 64 + (c.toNat - 0x80)) * 64 +
        (d.toNat - 0x80) :=
    val_toNat_ofNat (by omega)
  rw [String.utf8EncodeChar]
  simp only [hv]
  rw [if_neg (by omega), if_neg (by omega), if_neg (by omega)]
  simp only [List.cons.injEq, and_true, ← UInt8.toNat_inj, UInt8.toNat_ofNat']
  omega

/-! ## Whole texts -/

/-- No characters have no bytes. -/
theorem encodeChars_nil : encodeChars [] = [] :=
  rfl

/-- The bytes of the first character come first. -/
theorem encodeChars_cons (c : Char) (cs : List Char) :
    encodeChars (c :: cs) = String.utf8EncodeChar c ++ encodeChars cs :=
  rfl

/-- One character has its own bytes. -/
theorem encodeChars_singleton (c : Char) : encodeChars [c] = String.utf8EncodeChar c :=
  List.append_nil _

/-- Characters are encoded one after another. -/
theorem encodeChars_append (cs ds : List Char) :
    encodeChars (cs ++ ds) = encodeChars cs ++ encodeChars ds :=
  List.flatMap_append

/-- Bytes that are read as characters are the encoding of these characters. -/
theorem eq_encodeChars_of_decodeFrom {index : Nat} {bytes : List UInt8} {cs : List Char}
    (h : decodeFrom index bytes = .ok cs) : bytes = encodeChars cs := by
  fun_induction decodeFrom index bytes generalizing cs with
  | case1 => simp_all [encodeChars]
  | case2 index a rest ha ih =>
    obtain ⟨cs, hcs, rfl⟩ := map_eq_ok_iff.1 h
    rw [encodeChars_cons, utf8EncodeChar_ofOne (lt_0x80_iff.1 ha)]
    exact congrArg (a :: ·) (ih hcs)
  | case4 index a ha1 ha b rest hb ih =>
    obtain ⟨cs, hcs, rfl⟩ := map_eq_ok_iff.1 h
    rw [encodeChars_cons, utf8EncodeChar_ofTwo ha hb]
    exact congrArg ([a, b] ++ ·) (ih hcs)
  | case9 index a ha1 ha2 ha b hb c rest hc ih =>
    obtain ⟨cs, hcs, rfl⟩ := map_eq_ok_iff.1 h
    rw [encodeChars_cons, utf8EncodeChar_ofThree ha (by simpa using hb) hc]
    exact congrArg ([a, b, c] ++ ·) (ih hcs)
  | case16 index a ha1 ha2 ha3 ha b hb c hc d rest hd ih =>
    obtain ⟨cs, hcs, rfl⟩ := map_eq_ok_iff.1 h
    rw [encodeChars_cons,
      utf8EncodeChar_ofFour ha (by simpa using hb) (by simpa using hc) hd]
    exact congrArg ([a, b, c, d] ++ ·) (ih hcs)
  | _ => cases h

/-- The encoding of characters is read as these characters. -/
theorem decodeFrom_encodeChars (index : Nat) (cs : List Char) :
    decodeFrom index (encodeChars cs) = .ok cs := by
  induction cs generalizing index with
  | nil => rfl
  | cons c cs ih =>
    rw [encodeChars_cons, decodeFrom_utf8EncodeChar_append]
    exact map_eq_ok_iff.2 ⟨cs, ih _, rfl⟩

/-- Bytes are read as a text iff they are its encoding. -/
theorem decode_eq_ok_iff {bytes : List UInt8} {s : String} :
    decode bytes = .ok s ↔ bytes = encode s := by
  rw [decode, map_eq_ok_iff]
  constructor
  · rintro ⟨cs, hcs, rfl⟩
    rw [encode, String.toList_ofList, eq_encodeChars_of_decodeFrom hcs]
  · rintro rfl
    exact ⟨s.toList, decodeFrom_encodeChars 0 s.toList, String.ofList_toList⟩

/-! ## Where characters begin -/

/-- A character below 128 is one byte. -/
theorem utf8EncodeChar_of_lt {c : Char} (h : c.toNat < 0x80) :
    String.utf8EncodeChar c = [UInt8.ofNat c.toNat] := by
  rw [String.utf8EncodeChar]
  exact if_pos (Nat.le_of_lt_succ h)

/-- The first byte of a character is no tail and all others are. Past ASCII the first byte has its
high bit set as well. -/
theorem exists_utf8EncodeChar_eq_cons (c : Char) : ∃ b ts, String.utf8EncodeChar c = b :: ts ∧
    isTail b = false ∧ (∀ t ∈ ts, isTail t) ∧ (0x80 ≤ c.toNat → 0x80 ≤ b.toNat) := by
  simp only [Bool.eq_false_iff, ne_eq, isTail_iff]
  fun_cases String.utf8EncodeChar c with
  | case1 v h =>
    have hv : v = c.toNat := rfl
    exact ⟨_, _, rfl, by simp; omega, by simp, by simp; omega⟩
  | case2 v h1 h2 => exact ⟨_, _, rfl, by simp; omega, by simp; omega, by simp; omega⟩
  | case3 v h1 h2 h3 => exact ⟨_, _, rfl, by simp; omega, by simp; omega, by simp; omega⟩
  | case4 v h1 h2 h3 =>
    have hc := toNat_lt_or c
    have hv : v = c.toNat := rfl
    exact ⟨_, _, rfl, by simp; omega, by simp; omega, by simp; omega⟩

end KafkaCanary.Utf8
