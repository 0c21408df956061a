import KafkaCanary.Message.Writer
import KafkaCanary.Proofs.Message.Language

/-!
# Messages and their payloads

What is written for a message is one of its documents, so it is read as the message again. The
writer and the reader share no definition; they meet in the grammar, where every escape of the
writer is one spelling of its character, and its digits are the literal of their integer.

## Main results

* `spelling_escapedChar`: every character is escaped into one of its spellings;
* `integerLiteral_integerChars`: the digits of an integer are its literal;
* `exists_members_payload`, `document_payload`: what is written for a message is a document of it;
* `ofPayload_payload`: what is written for a message is read as the message.
-/

namespace KafkaCanary

namespace Json

/-! ## Strings -/

/-- The byte of a hexadecimal digit. -/
theorem hexDigit_encodeChars :
    ∀ n < 16, ∃ b, String.utf8EncodeChar (hexDigit n) = [b] ∧ HexDigit n b := by
  intro n hn
  refine ⟨UInt8.ofNat (hexDigit n).toNat, ?_, ?_⟩
  · revert n; decide
  · simp only [HexDigit]; revert n; decide

/-- The escape of a code unit of two digits spells its character. -/
theorem spelling_hexDigits {c : Char} (h : c.toNat < 0x100) : Spelling c
    (Utf8.encodeChars ['\\', 'u', '0', '0', hexDigit (c.toNat / 16), hexDigit (c.toNat % 16)]) := by
  obtain ⟨a, ha, hka⟩ := hexDigit_encodeChars (c.toNat / 16) (by omega)
  obtain ⟨b, hb, hkb⟩ := hexDigit_encodeChars (c.toNat % 16) (by omega)
  have hzero : HexDigit 0 0x30 := .inl ⟨by decide, rfl⟩
  have hbytes : Utf8.encodeChars ['\\', 'u', '0', '0', hexDigit (c.toNat / 16),
      hexDigit (c.toNat % 16)] = [backslash, letterU, 0x30, 0x30, a, b] := by
    simp only [Utf8.encodeChars_cons, Utf8.encodeChars_nil, ha, hb]
    rfl
  have hquad := Quad.digits hzero hzero hka hkb
  rw [hbytes]
  refine .unit ?_
  rwa [show ((0 * 16 + 0) * 16 + c.toNat / 16) * 16 + c.toNat % 16 = c.toNat by omega] at hquad

/-- A character is escaped into one of its spellings. -/
theorem spelling_escapedChar (c : Char) : Spelling c (Utf8.encodeChars (escapedChar c)) := by
  rw [escapedChar]
  split
  · next h => subst h; exact .short (by decide)
  split
  · next h => subst h; exact .short (by decide)
  split
  · next h => subst h; exact .short (by decide)
  split
  · next h => subst h; exact .short (by decide)
  split
  · next h => subst h; exact .short (by decide)
  split
  · next h => subst h; exact .short (by decide)
  split
  · next h => subst h; exact .short (by decide)
  split
  · exact spelling_hexDigits (by omega)
  · next hq hb _ _ _ _ _ hlow =>
    rw [Utf8.encodeChars_singleton]
    exact .plain (by omega) hq hb

theorem spellings_flatMap_escapedChar (cs : List Char) :
    Spellings cs (Utf8.encodeChars (cs.flatMap escapedChar)) := by
  induction cs with
  | nil => exact .nil
  | cons c cs ih =>
    rw [List.flatMap_cons, Utf8.encodeChars_append]
    exact .cons (spelling_escapedChar c) ih

/-- A string is written as a string with its text. -/
theorem quoted_stringChars (s : String) : Quoted s (Utf8.encodeChars (stringChars s)) := by
  refine ⟨_, spellings_flatMap_escapedChar s.toList, ?_⟩
  rw [stringChars, Utf8.encodeChars_append]
  rfl

/-! ## Integers -/

theorem utf8EncodeChar_digitChar :
    ∀ n < 10, String.utf8EncodeChar (Nat.digitChar n) = [UInt8.ofNat (0x30 + n)] := by
  decide

theorem isDigit_ofNat : ∀ n < 10, isDigit (UInt8.ofNat (0x30 + n)) := by
  decide

theorem digitValue_ofNat : ∀ n < 10, digitValue (UInt8.ofNat (0x30 + n)) = n := by
  decide

/-- A digit can be appended to digits that stand for something else than zero. -/
theorem Whole.append_digit {ds : List UInt8} {d : UInt8} (h : Whole ds) (hds : decimalValue ds ≠ 0)
    (hd : isDigit d) : Whole (ds ++ [d]) := by
  cases h with
  | zero => exact absurd rfl hds
  | digits hd' hne hrest =>
    refine .digits hd' hne fun b hb => ?_
    rcases List.mem_append.1 hb with hb | hb
    · exact hrest b hb
    · rwa [List.mem_singleton.1 hb]

/-- The digits of a number are those that stand for it. -/
theorem whole_toDigits (n : Nat) : Whole (Utf8.encodeChars (Nat.toDigits 10 n)) ∧
    decimalValue (Utf8.encodeChars (Nat.toDigits 10 n)) = n := by
  -- All digits but the last are those of a tenth of the number.
  induction n using Nat.strongRecOn with
  | ind n ih =>
    rw [Nat.toDigits_eq_if (by decide)]
    split
    · next hn =>
      rw [Utf8.encodeChars_singleton, utf8EncodeChar_digitChar n hn]
      constructor
      · by_cases h0 : n = 0
        · subst h0; exact .zero
        · refine .digits (isDigit_ofNat n hn) (fun h => h0 ?_) nofun
          have := digitValue_ofNat n hn
          rw [h] at this
          exact this.symm
      · simpa [decimalValue] using digitValue_ofNat n hn
    · next hn =>
      obtain ⟨hw, hv⟩ := ih (n / 10) (by omega)
      have hlast : n % 10 < 10 := Nat.mod_lt n (by decide)
      rw [Utf8.encodeChars_append, Utf8.encodeChars_singleton, utf8EncodeChar_digitChar _ hlast]
      refine ⟨hw.append_digit (by rw [hv]; omega) (isDigit_ofNat _ hlast), ?_⟩
      rw [decimalValue, List.foldl_append, ← decimalValue, hv]
      show n / 10 * 10 + digitValue _ = n
      rw [digitValue_ofNat _ hlast]
      omega

theorem integerLiteral_toDigits (n : Nat) :
    IntegerLiteral n (Utf8.encodeChars (Nat.toDigits 10 n)) := by
  obtain ⟨hw, hv⟩ := whole_toDigits n
  have := IntegerLiteral.plain hw
  rwa [hv] at this

/-- The digits of an integer, with its sign, are its literal. -/
theorem integerLiteral_integerChars (z : Int) :
    IntegerLiteral z (Utf8.encodeChars (Decimal.integerChars z)) := by
  cases z with
  | ofNat n => exact integerLiteral_toDigits n
  | negSucc n =>
    obtain ⟨hw, hv⟩ := whole_toDigits (n + 1)
    have := IntegerLiteral.negative hw (by omega)
    rwa [hv] at this

/-- Integers that share their text are equal. -/
theorem integerText_inj {z z' : Int} (h : Decimal.integerText z = Decimal.integerText z') :
    z = z' := by
  have hchars : Decimal.integerChars z = Decimal.integerChars z' := String.ofList_injective h
  refine (integerLiteral_integerChars z).unique ?_
  rw [hchars]
  exact integerLiteral_integerChars z'

end Json

namespace Message

open Json

/-! ## Messages -/

/-- What is written for a member: its key, a colon and the characters of its value. -/
def memberChars (item : Item) (value : List Char) : List Char :=
  stringChars item.key ++ ':' :: value

theorem pair_memberChars {item : Item} {value : List Char}
    (h : item.Value (Utf8.encodeChars value)) :
    Pair item (Utf8.encodeChars (memberChars item value)) := by
  have hpair := Pair.mk blanks_nil (quoted_stringChars item.key) blanks_nil blanks_nil h
  have hbytes : Utf8.encodeChars (memberChars item value) = [] ++
      Utf8.encodeChars (stringChars item.key) ++ [] ++ 0x3A :: ([] ++ Utf8.encodeChars value) := by
    rw [memberChars, Utf8.encodeChars_append, List.append_nil, List.nil_append]
    rfl
  rwa [hbytes]

/-- The members that are written for a message. -/
theorem jsonChars_eq (m : Message) : m.jsonChars =
    '{' :: (memberChars (.producerId m.producerId) (stringChars m.producerId) ++
      ',' :: (memberChars (.messageId m.messageId) (Nat.toDigits 10 m.messageId.toNat) ++
        ',' :: (memberChars (.timestamp m.timestamp) (Decimal.integerChars m.timestamp.toInt) ++
          ['}']))) := by
  have h1 : "\x7b\"producerId\":".toList = '{' :: (stringChars "producerId" ++ [':']) := rfl
  have h2 : ",\"messageId\":".toList = ',' :: (stringChars "messageId" ++ [':']) := rfl
  have h3 : ",\"timestamp\":".toList = ',' :: (stringChars "timestamp" ++ [':']) := rfl
  unfold jsonChars
  rw [h1, h2, h3]
  simp only [memberChars, Item.key, Field.name, List.append_assoc, List.cons_append,
    List.nil_append]

/-- What is written for a message is an object with nothing but its members. -/
theorem exists_members_payload (m : Message) :
    ∃ ms, Members m.items ms ∧ m.payload = 0x7B :: (ms ++ [0x7D]) := by
  have h1 := @pair_memberChars (.producerId m.producerId) _ (quoted_stringChars m.producerId)
  have h2 := @pair_memberChars (.messageId m.messageId) _ (integerLiteral_toDigits _)
  have h3 := @pair_memberChars (.timestamp m.timestamp) _ (integerLiteral_integerChars _)
  refine ⟨_, .more h1 blanks_nil (.more h2 blanks_nil (.last h3 blanks_nil)), ?_⟩
  rw [payload, jsonChars_eq]
  simp [Utf8.encodeChars_append, Utf8.encodeChars_cons, Utf8.encodeChars_nil,
    Utf8.utf8EncodeChar_of_lt]

/-- What is written for a message is a document of it. -/
theorem document_payload (m : Message) : Document m m.payload := by
  obtain ⟨ms, hms, hpayload⟩ := m.exists_members_payload
  rw [hpayload]
  exact .object blanks_nil hms (.refl m.items) blanks_nil

/-- What is written for a message is read as the message. -/
theorem ofPayload_payload (m : Message) : ofPayload m.payload = .ok m :=
  ofPayload_of_document m.document_payload

/-- The bytes that carry a message are those of its text. -/
theorem payload_eq_encode_json (m : Message) : m.payload = Utf8.encode m.json := by
  rw [Utf8.encode, json, String.toList_ofList, payload]

/-- A message survives its text, so messages that share their text are equal. -/
theorem ofPayload_encode_json_and_json_inj (m m' : Message) :
    ofPayload (Utf8.encode m.json) = .ok m ∧ m.payload = Utf8.encode m.json ∧
      (m.json = m'.json ↔ m = m') := by
  have hread : ∀ m : Message, ofPayload (Utf8.encode m.json) = .ok m := fun m => by
    rw [← payload_eq_encode_json, ofPayload_payload]
  refine ⟨hread m, payload_eq_encode_json m, fun h => ?_, congrArg json⟩
  have := hread m
  rw [h, hread m'] at this
  exact (Except.ok.inj this).symm

end Message

end KafkaCanary
