import KafkaCanary.Proofs.Results
import KafkaCanary.Proofs.Text.Encoding
import KafkaCanary.Wire.Reader
import KafkaCanary.Wire.Writer
import Mathlib.Algebra.Group.Nat.Defs

/-!
# Fields are read as they were written

A reader takes a field off the front of some bytes. It takes the bytes that a writer made for a
value if it finds this value in them and leaves everything behind them, whatever that is (`Takes`).
Such readers can be put together: one after the other they take what was written one after the
other. The bytes may not be more than a frame can announce, and this also bounds every length and
every number of items among them, so that no length field has to wrap.

## Main results

* `Takes.bind`: one reader after another;
* `takes_varint`: numbers of variable width;
* `takes_textField`, `takes_listField` and their like: the fields of messages;
* `bytesField_eq`, `exists_fieldIf_self`: which fields are refused.
-/

namespace KafkaCanary.Wire

open Utf8 (encode)

/-- A reader that takes exactly `bytes` off the front of any bytes, and finds `a` in them. More than
a frame can announce is not asked of it. -/
def Takes {α : Type} (reader : Reader α) (bytes : List UInt8) (a : α) : Prop :=
  bytes.length ≤ 2147483647 → ∀ rest, reader (bytes ++ rest) = .ok (a, rest)

section Takes

variable {α β : Type} {reader : Reader α} {next : α → Reader β} {bytes bytes' : List UInt8} {a : α}
  {b : β}

/-- A reader that reads nothing takes nothing. -/
theorem takes_pure (a : α) : Takes (pure a) [] a :=
  fun _ _ => rfl

/-- A reader after another one takes what comes after. -/
theorem Takes.bind (h : Takes reader bytes a) (h' : Takes (next a) bytes' b) :
    Takes (reader >>= next) (bytes ++ bytes') b := by
  intro hlength rest
  rw [List.length_append] at hlength
  show (reader (bytes ++ bytes' ++ rest) >>= fun p => next p.1 p.2) = _
  rw [List.append_assoc, h (by omega)]
  exact h' (by omega) rest

/-- What is done with the result does not change what is taken. -/
theorem Takes.map (h : Takes reader bytes a) (f : α → β) : Takes (f <$> reader) bytes (f a) := by
  intro hlength rest
  show (reader (bytes ++ rest) >>= fun p => pure (f p.1, p.2)) = _
  rw [h hlength]
  rfl

/-- What takes nothing more after the last field. -/
theorem Takes.bind_nil (h : Takes reader bytes a) (h' : Takes (next a) [] b) :
    Takes (reader >>= next) bytes b := by
  have := h.bind h'
  rwa [List.append_nil] at this

/-- What is made of the value found at last. -/
theorem Takes.finish (h : Takes reader bytes a) {f : α → β} (hb : f a = b) :
    Takes (reader >>= fun a => pure (f a)) bytes b :=
  h.bind_nil (hb ▸ takes_pure (f a))

end Takes

/-! ## Integers -/

/-- A number is written in its width. -/
theorem length_bigEndian (width n : Nat) : (bigEndian width n).length = width := by
  induction width with
  | zero => rfl
  | succ width ih => rw [bigEndian, List.length_cons, ih]

/-- A short integer has two bytes. -/
@[simp] theorem length_int16Bytes (x : Int16) : (int16Bytes x).length = 2 :=
  length_bigEndian 2 _

/-- An integer has four bytes. -/
@[simp] theorem length_int32Bytes (x : Int32) : (int32Bytes x).length = 4 :=
  length_bigEndian 4 _

/-- The bytes of a number fold back to the number modulo its width, by induction on the width. -/
theorem foldl_bigEndian (width n start : Nat) :
    (bigEndian width n).foldl (fun n b => n * 256 + b.toNat) start =
      start * 256 ^ width + n % 256 ^ width := by
  induction width generalizing start with
  | zero => rw [bigEndian, List.foldl_nil, Nat.pow_zero, Nat.mod_one, Nat.mul_one, Nat.add_zero]
  | succ width ih =>
    have hdigit : (UInt8.ofNat (n / Nat.pow 256 width)).toNat = n / 256 ^ width % 256 :=
      UInt8.toNat_ofNat'
    rw [bigEndian, List.foldl_cons, ih, hdigit, Nat.add_mul, Nat.mul_assoc, Nat.pow_succ',
      Nat.mul_comm 256, Nat.mod_mul, Nat.mul_comm (256 ^ width) (n / 256 ^ width % 256)]
    omega

/-- The digits of a number are those of its remainder. -/
theorem ofBigEndian_bigEndian (width n : Nat) :
    ofBigEndian (bigEndian width n) = n % 256 ^ width := by
  rw [ofBigEndian, foldl_bigEndian, Nat.zero_mul, Nat.zero_add]

/-- A number that fits its width is read back. -/
theorem takes_readNat (width : Nat) {n : Nat} (h : n < 256 ^ width) :
    Takes (readNat width) (bigEndian width n) n := by
  intro _ rest
  have hlength := length_bigEndian width n
  rw [readNat, if_pos (by rw [List.length_append]; omega), List.take_left' hlength,
    List.drop_left' hlength, ofBigEndian_bigEndian, Nat.mod_eq_of_lt h]

/-- A short integer is read back, also a negative one. -/
theorem takes_int16 (x : Int16) : Takes readInt16 (int16Bytes x) x := by
  have hx : Int16.ofNat x.toBitVec.toNat = x := by
    refine Int16.toBitVec_inj.1 (BitVec.eq_of_toNat_eq ?_)
    simp
  have := (takes_readNat 2 x.toBitVec.isLt).map Int16.ofNat
  rwa [hx] at this

/-- An integer is read back, also a negative one. -/
theorem takes_int32 (x : Int32) : Takes readInt32 (int32Bytes x) x := by
  have hx : Int32.ofNat x.toBitVec.toNat = x := by
    refine Int32.toBitVec_inj.1 (BitVec.eq_of_toNat_eq ?_)
    simp
  have := (takes_readNat 4 x.toBitVec.isLt).map Int32.ofNat
  rwa [hx] at this

/-- A flag is read back. -/
theorem takes_bool (b : Bool) : Takes readBool (boolBytes b) b := by
  intro _ rest
  cases b <;> rfl

/-! ## Numbers of variable width -/

/-- One byte is read back as its number. -/
theorem takes_byte {n : Nat} (h : n < 256) : Takes (readNat 1) [UInt8.ofNat n] n := by
  have hbyte : bigEndian 1 n = [UInt8.ofNat n] := by
    rw [bigEndian, bigEndian, show Nat.pow 256 0 = 1 from rfl, Nat.div_one]
  exact hbyte ▸ takes_readNat 1 h

/-- A group that says that it is the last one. -/
theorem takes_lastGroup (groups : Nat) {n : Nat} (h : n < 128) :
    Takes (readGroups (groups + 1)) [UInt8.ofNat n] n := by
  refine (takes_byte (by omega)).bind_nil ?_
  rw [if_pos h]
  exact takes_pure n

/-- Groups are read as far as the number needs them. -/
theorem takes_groups {groups n : Nat} (h : n < 128 ^ (groups + 1)) :
    Takes (readGroups (groups + 1)) (varintBytes n) n := by
  induction groups generalizing n with
  | zero =>
    have hn : n < 128 := h
    rw [varintBytes, if_pos hn]
    exact takes_lastGroup 0 hn
  | succ groups ih =>
    rw [varintBytes]
    by_cases hn : n < 128
    · rw [if_pos hn]
      exact takes_lastGroup (groups + 1) hn
    · -- The first group says that there are more, which are those of the quotient.
      have hrest : n / 128 < 128 ^ (groups + 1) := by
        rw [Nat.pow_succ] at h
        omega
      rw [if_neg hn]
      show Takes _ ([UInt8.ofNat (n % 128 + 128)] ++ varintBytes (n / 128)) n
      refine (takes_byte (by omega)).bind ?_
      rw [if_neg (by omega)]
      exact (ih hrest).finish (by omega)

/-- A number of 32 bits is read back from its groups. -/
theorem takes_varint {n : Nat} (h : n < UInt32.size) : Takes readVarint (varintBytes n) n := by
  have hgroups : Takes (readGroups 5) (varintBytes n) n :=
    takes_groups (Nat.lt_trans h (by decide))
  have := hgroups.map (· % UInt32.size)
  rwa [Nat.mod_eq_of_lt h] at this

/-! ## Lengths -/

/-- A length of the compact style is increased by one, which 32 bits have room for. -/
theorem takes_compactLength (kind : Lengthy) {n : Nat} (h : n ≤ 4294967294) :
    Takes (readLength true kind) (varintBytes (n + 1)) (some n) := by
  have hn : n + 1 < UInt32.size := Nat.lt_of_le_of_lt (Nat.succ_le_succ h) (by decide)
  exact (takes_varint hn).bind_nil (takes_pure (some n))

/-- In the compact form, zero stands for what is absent. -/
theorem takes_compactAbsence (kind : Lengthy) :
    Takes (readLength true kind) (varintBytes 0) none :=
  (takes_varint (by decide)).bind_nil (takes_pure none)

/-- A length of the plain style is an integer, and -1 stands for an absent field. -/
theorem takes_plainLength (kind : Lengthy) {z : Int} {bytes : List UInt8}
    (h : Takes (match kind with
      | .text => (·.toInt) <$> readInt16
      | .list => (·.toInt) <$> readInt32) bytes z) (hz : -1 ≤ z) :
    Takes (readLength false kind) bytes (if z = -1 then none else some z.toNat) := by
  have hrest (fault : DecodeFault) : Takes
      (if z = -1 then pure none else if z < 0 then throw fault else pure (some z.toNat)) []
      (if z = -1 then none else some z.toNat) := by
    by_cases habsent : z = -1
    · rw [if_pos habsent, if_pos habsent]
      exact takes_pure none
    · rw [if_neg habsent, if_neg habsent, if_neg (by omega)]
      exact takes_pure (some z.toNat)
  cases kind with
  | text => exact Takes.bind_nil h (hrest _)
  | list => exact Takes.bind_nil h (hrest _)

/-- In the plain form a text's length has two bytes, the sign among them. -/
theorem takes_plainLength_text {n : Nat} (h : n ≤ 32767) :
    Takes (readLength false .text) (bigEndian 2 n) (some n) := by
  -- A length that fits is no negative integer, so it can be told from an absent field.
  have hx : (Int16.ofNat n).toInt = n := by
    rw [Int16.toInt_ofNat', Int.bmod_def]
    simp only [Int16.size]
    omega
  have hbytes : int16Bytes (Int16.ofNat n) = bigEndian 2 n := by
    rw [int16Bytes, Int16.toBitVec_ofNat', BitVec.toNat_ofNat, Nat.mod_eq_of_lt (by omega)]
  have hlength := takes_plainLength .text ((takes_int16 (Int16.ofNat n)).map (·.toInt))
    (by omega)
  rwa [hbytes, hx, if_neg (by omega)] at hlength

/-- In the plain form a list's length has four bytes, the sign among them. -/
theorem takes_plainLength_list {n : Nat} (h : n ≤ 2147483647) :
    Takes (readLength false .list) (bigEndian 4 n) (some n) := by
  have hx : (Int32.ofNat n).toInt = n := by
    rw [Int32.toInt_ofNat', Int.bmod_def]
    simp only [Int32.size]
    omega
  have hbytes : int32Bytes (Int32.ofNat n) = bigEndian 4 n := by
    rw [int32Bytes, Int32.toBitVec_ofNat', BitVec.toNat_ofNat, Nat.mod_eq_of_lt (by omega)]
  have hlength := takes_plainLength .list ((takes_int32 (Int32.ofNat n)).map (·.toInt))
    (by omega)
  rwa [hbytes, hx, if_neg (by omega)] at hlength

/-- How the length in front of something is read. -/
def Content.kind : Content → Lengthy
  | text => .text
  | bytes | list => .list

/-- A length is written if it is within its limit, and refused otherwise. -/
theorem lengthField_eq_ok_iff {compact : Bool} {content : Content} {n : Nat} {bytes : List UInt8} :
    lengthField compact content n = .ok bytes ↔
      n ≤ content.limit compact ∧ bytes = lengthBytes compact content n := by
  unfold lengthField
  split
  · next h => simp [h, eq_comm]
  · next h => simp [h]

/-- A length of either style, as long as it fits. -/
theorem takes_lengthField {compact : Bool} {content : Content} {n : Nat} {bytes : List UInt8}
    (h : lengthField compact content n = .ok bytes) :
    Takes (readLength compact content.kind) bytes (some n) := by
  obtain ⟨hfits, rfl⟩ := lengthField_eq_ok_iff.1 h
  cases compact with
  | true => exact takes_compactLength content.kind hfits
  | false =>
    cases content with
    | text => exact takes_plainLength_text hfits
    | bytes | list => exact takes_plainLength_list hfits

/-- The length of a field that must not be absent. -/
theorem Takes.present {compact : Bool} {kind : Lengthy} {bytes : List UInt8} {n : Nat}
    (h : Takes (readLength compact kind) bytes (some n)) :
    Takes (readPresentLength compact kind) bytes n :=
  h.bind_nil (takes_pure n)

/-! ## Texts -/

/-- Bytes are read back by their number. -/
theorem takes_content (bytes : List UInt8) : Takes (readContent bytes.length) bytes bytes := by
  intro _ rest
  rw [readContent, if_pos (by rw [List.length_append]; omega), List.take_left, List.drop_left]

/-- A text is read back by the number of its bytes. -/
theorem takes_utf8 (s : String) : Takes (readUtf8 (encode s).length) (encode s) s := by
  refine (takes_content (encode s)).bind_nil ?_
  rw [Utf8.decode_eq_ok_iff.2 rfl]
  exact takes_pure s

/-- A text has its length in front of it. -/
theorem exists_length_of_textField {compact : Bool} {s : String} {bytes : List UInt8}
    (h : textField compact s = .ok bytes) :
    ∃ length, bytes = length ++ encode s ∧
      Takes (readLength compact .text) length (some (encode s).length) := by
  obtain ⟨length, hlength, h⟩ := bind_eq_ok_iff.1 h
  cases h
  exact ⟨length, rfl, takes_lengthField hlength⟩

/-- A text that could be written is read back. -/
theorem takes_textField {compact : Bool} {s : String} {bytes : List UInt8}
    (h : textField compact s = .ok bytes) : Takes (readTextField compact) bytes s := by
  obtain ⟨length, rfl, htakes⟩ := exists_length_of_textField h
  exact htakes.present.bind (takes_utf8 s)

/-- A text that may be absent is read back, and so is its absence. -/
theorem takes_optionalTextField {compact : Bool} {s : Option String} {bytes : List UInt8}
    (h : optionalTextField compact s = .ok bytes) :
    Takes (readOptionalTextField compact) bytes s := by
  cases s with
  | none =>
    cases compact with
    | false =>
      cases h
      exact (takes_plainLength .text ((takes_int16 (-1)).map (·.toInt)) (by decide)).bind_nil
        (takes_pure none)
    | true =>
      cases h
      exact (takes_compactAbsence .text).bind_nil (takes_pure none)
  | some s =>
    obtain ⟨length, rfl, htakes⟩ := exists_length_of_textField h
    exact htakes.bind ((takes_utf8 s).finish rfl)

/-! ## Bytes, lists and tags -/

/-- The tags at the end of a structure are none, and read back as such. -/
theorem takes_tagsField (compact : Bool) :
    Takes (readTagsField compact noTags) (tagsField compact) () := by
  cases compact with
  | false => exact takes_pure ()
  | true => exact (takes_varint (by decide)).bind_nil (takes_pure ())

section Lists

variable {α : Type} {item : α → Except EncodeFault (List UInt8)} {reader : Reader α}
  {items : List α}

/-- Items are read one after the other. -/
theorem takes_items {written : List (List UInt8)}
    (hitem : ∀ a ∈ items, ∀ bytes, item a = .ok bytes → Takes reader bytes a)
    (h : items.mapM item = .ok written) :
    Takes (readItems reader items.length) written.flatten items := by
  induction items generalizing written with
  | nil =>
    cases h
    exact takes_pure []
  | cons a items ih =>
    rw [List.mapM_cons] at h
    obtain ⟨first, hfirst, h⟩ := bind_eq_ok_iff.1 h
    obtain ⟨rest, hrest, h⟩ := bind_eq_ok_iff.1 h
    cases h
    obtain ⟨ha, hitems⟩ := List.forall_mem_cons.1 hitem
    exact (ha first hfirst).bind ((ih hitems hrest).finish rfl)

/-- A list has its length in front of it. -/
theorem exists_length_of_listField {compact : Bool} {bytes : List UInt8}
    (hitem : ∀ a ∈ items, ∀ bytes, item a = .ok bytes → Takes reader bytes a)
    (h : listField compact item items = .ok bytes) :
    ∃ length written, bytes = length ++ written ∧
      Takes (readLength compact .list) length (some items.length) ∧
      Takes (readItems reader items.length) written items := by
  obtain ⟨length, hlength, h⟩ := bind_eq_ok_iff.1 h
  obtain ⟨written, hwritten, h⟩ := bind_eq_ok_iff.1 h
  cases h
  exact ⟨length, _, rfl, takes_lengthField hlength, takes_items hitem hwritten⟩

/-- A list is read back if each of its items is. -/
theorem takes_listField {compact : Bool} {bytes : List UInt8}
    (hitem : ∀ a ∈ items, ∀ bytes, item a = .ok bytes → Takes reader bytes a)
    (h : listField compact item items = .ok bytes) :
    Takes (readListField compact reader) bytes items := by
  obtain ⟨length, written, rfl, htakes, hitems⟩ := exists_length_of_listField hitem h
  exact htakes.present.bind hitems

end Lists

/-! ## What is written and what is refused -/

/-- A list of one item has a length in either style. -/
theorem listField_singleton {α : Type} (compact : Bool)
    (item : α → Except EncodeFault (List UInt8)) (a : α) :
    listField compact item [a] =
      (item a).map fun written => lengthBytes compact .list 1 ++ written := by
  have hlength : lengthField compact .list [a].length = .ok (lengthBytes compact .list 1) := by
    cases compact <;> rfl
  rw [listField, hlength, List.mapM_cons]
  cases item a with
  | error fault => rfl
  | ok written => simp [Except.map, bind, Except.bind, pure, Except.pure]

/-- A field at its default is refused by no version, whether it is written or not. -/
theorem exists_fieldIf_self {α : Type} [DecidableEq α] (present : Bool) (default : α)
    (field : α → Except EncodeFault (List UInt8)) {bytes : List UInt8}
    (h : field default = .ok bytes) :
    ∃ written, fieldIf present default field default = .ok written := by
  unfold fieldIf
  split
  · exact ⟨bytes, h⟩
  · exact ⟨_, if_pos rfl⟩

/-- Bytes are refused exactly if there are too many of them. -/
theorem bytesField_eq (compact : Bool) (bytes : List UInt8) :
    bytesField compact bytes =
      if bytes.length ≤ Content.limit compact .bytes then
        .ok (lengthBytes compact .bytes bytes.length ++ bytes)
      else .error (.tooLong compact .bytes bytes.length) := by
  rw [bytesField, lengthField]
  split <;> rfl

/-! ## Lengths in the plain style -/

/-- In the plain style there are no tags. -/
@[simp] theorem length_tagsField_plain : (tagsField false).length = 0 :=
  rfl

/-- A length of the plain style has the width of its field. -/
theorem length_of_lengthField {content : Content} {n : Nat} {bytes : List UInt8}
    (h : lengthField false content n = .ok bytes) : bytes.length = content.width := by
  obtain ⟨-, rfl⟩ := lengthField_eq_ok_iff.1 h
  exact length_bigEndian _ _

/-- Bytes with their length, in the plain style. -/
theorem length_of_bytesField {content bytes : List UInt8}
    (h : bytesField false content = .ok bytes) : bytes.length = content.length + 4 := by
  obtain ⟨length, hlength, h⟩ := bind_eq_ok_iff.1 h
  cases h
  rw [List.length_append, length_of_lengthField hlength, Content.width, Nat.add_comm]

/-- A text with its length, in the plain style. -/
theorem length_of_textField {s : String} {bytes : List UInt8}
    (h : textField false s = .ok bytes) : bytes.length = (Utf8.encode s).length + 2 := by
  obtain ⟨length, hlength, h⟩ := bind_eq_ok_iff.1 h
  cases h
  rw [List.length_append, length_of_lengthField hlength, Content.width, Nat.add_comm]

/-- A list of one item, in the plain style. -/
theorem length_of_listField_singleton {α : Type} {a : α} {bytes : List UInt8}
    {item : α → Except EncodeFault (List UInt8)} (h : listField false item [a] = .ok bytes) :
    ∃ written, item a = .ok written ∧ bytes.length = written.length + 4 := by
  rw [listField_singleton] at h
  obtain ⟨written, hwritten, rfl⟩ := map_eq_ok_iff.1 h
  refine ⟨written, hwritten, ?_⟩
  rw [List.length_append, Nat.add_comm]
  exact congrArg _ (length_bigEndian 4 1)

end KafkaCanary.Wire
