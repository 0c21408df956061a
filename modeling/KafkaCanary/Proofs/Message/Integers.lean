import KafkaCanary.Proofs.Json.Overflow
import KafkaCanary.Proofs.Message.Prefixes
import Mathlib.Algebra.Group.Int.Defs

/-!
# Integers in messages

What becomes of an integer in an object that would be a message otherwise. An integer of 64 bits
that the field does not admit is named in the fault. Any other one, and a zero with a minus sign, is
not an integer to the reader at all; it is reported as a floating-point value, or, if there is no
such value either, as damage.

## Main definitions

* `Around`: what stands before and after the value of a field in an object;
* `Judged`: what becomes of an object with an integer in it.

## Main results

* `Around.ofPayload_eq_ok`, `Around.ofPayload_eq_error`: an object is a message if the value of the
  field is one, and has the fault of that value otherwise;
* `judged_integer_literal`: every integer literal is accepted or refused for what it is.
-/

namespace KafkaCanary.Message

open Json

/-! ## The place of a value -/

/-- What stands before and after the value of a field in an object whose other members are
`items`. -/
inductive Around (field : Field) : List Item → List UInt8 → List UInt8 → Prop
  /-- The members before the field and those after it. -/
  | mk {w pre k w1 w2 t w' : List UInt8} {items items' : List Item} : Blanks w →
      Preceding items pre → Quoted field.name k → Blanks w1 → Blanks w2 →
      Following false items' t → Blanks w' →
        Around field (items ++ items') (w ++ 0x7B :: (pre ++ k ++ (w1 ++ 0x3A :: w2)))
          (t ++ 0x7D :: w')

namespace Around

variable {field : Field} {items : List Item} {before after v : List UInt8}

theorem delimited (h : Around field items before after) : Delimited after := by
  cases h with
  | mk _ _ _ _ _ ht _ => exact ht.delimited_append (delimited_cons (by simp) _)

/-- A value that is refused is the fault of the whole object. -/
theorem ofPayload_eq_error {fault : ReadFault} (h : Around field items before after)
    (hitems : (items.filterMap Item.field?).Nodup) (hfield : field ∉ items.filterMap Item.field?)
    (hv : ∀ draft w, Blanks w → Draft.readField draft field (w ++ (v ++ after)) = .error fault) :
    ofPayload (before ++ v ++ after) = .error fault := by
  cases h with
  | @mk w pre k w1 w2 t w' items items' hw hpre hk hw1 hw2 ht hw' =>
    rw [List.filterMap_append, List.nodup_append] at hitems
    rw [List.filterMap_append, List.mem_append, not_or] at hfield
    have hread := readMembers_of_readField_error hpre hitems.1 hk hfield.1 hw1 (hv _ w2 hw2)
    have hbytes := ofPayload_of_readMembers_error hw hread
    simpa only [List.append_assoc, List.cons_append] using hbytes

/-- Members that complete a message with a field do not give that field themselves. -/
theorem fields_of_perm {item : Item} {m : Message} (hitem : item.field? = some field)
    (hperm : ((item :: items).filter (·.field?.isSome)).Perm m.items) :
    field ∉ items.filterMap Item.field? ∧ (items.filterMap Item.field?).Nodup := by
  rw [← List.append_nil (List.filter _ _), ← Draft.items_empty] at hperm
  have hnodup := (Draft.accepts_of_perm hperm).1
  rwa [List.filterMap_cons_some hitem, List.nodup_cons] at hnodup

/-- A value that completes a message makes the object one. -/
theorem ofPayload_eq_ok {item : Item} {m : Message} (h : Around field items before after)
    (hitem : item.field? = some field) (hv : item.Value v)
    (hperm : ((item :: items).filter (·.field?.isSome)).Perm m.items) :
    ofPayload (before ++ v ++ after) = .ok m := by
  obtain ⟨hfield, hitems⟩ := fields_of_perm hitem hperm
  have hafter := h.delimited
  cases h with
  | @mk w pre k w1 w2 t w' items items' hw hpre hk hw1 hw2 ht hw' =>
    rw [List.filterMap_append, List.nodup_append] at hitems
    rw [List.filterMap_append, List.mem_append, not_or] at hfield
    have hadmits : (items.foldl Draft.put .empty).Admits item := by
      intro field' hfield'
      obtain rfl : field = field' := Option.some.inj (hitem.symm.trans hfield')
      rw [← Bool.not_eq_true, has_fields_iff]
      exact hfield.1
    -- The members before the field, its value and the members after it make up the message.
    have hcompletes : (items'.filter (·.field?.isSome) ++
        ((items.foldl Draft.put .empty).put item).items).Perm m.items := by
      refine (Draft.filter_cons_perm_put hadmits items').symm.trans (.trans ?_ hperm)
      have hput := Draft.items_foldl_put (Draft.accepts_empty hitems.1)
      rw [Draft.items_empty, List.append_nil] at hput
      refine (hput.append_left _).trans ?_
      rw [← List.filter_append]
      exact (List.perm_append_comm.cons item).filter _
    have hread : readMembers .empty true
        (pre ++ k ++ (w1 ++ 0x3A :: (w2 ++ (v ++ (t ++ 0x7D :: w'))))) = .ok (m, w') := by
      rw [readMembers_preceding_append hpre hitems.1 hk, ← key_eq_name hitem,
        readMember_append hadmits hw1 hw2 hv hafter]
      exact readMembers_append ht w' hcompletes
    have hmessage := (readMessage_brace hw _).trans hread
    simp only [List.append_assoc, List.cons_append] at hmessage ⊢
    simp only [ofPayload, hmessage, skipBlanks_eq_nil_iff.2 hw', if_true]

end Around

/-! ## Integers -/

/-- The integers that a field admits. -/
inductive Bounds : Field → (least greatest : Int) → Prop
  /-- Numbers in a sequence. -/
  | messageId : Bounds .messageId 0 (UInt64.size - 1)
  /-- Times. -/
  | timestamp : Bounds .timestamp Int64.minValue.toInt Int64.maxValue.toInt

theorem Bounds.range {field : Field} {least greatest : Int} (h : Bounds field least greatest) :
    -2 ^ 63 ≤ least ∧ least ≤ 0 ∧ 0 ≤ greatest ∧ greatest < 2 ^ 64 := by
  cases h <;> decide

section Fields

variable {field : Field} {least greatest z : Int} {minus : Bool} {items : List Item}
  {w before after text : List UInt8}

/-- An integer field reads whatever number there is, and then looks at it. -/
theorem readIntegerField_signed (field : Field) (least greatest : Int) (hw : Blanks w)
    (h : Signed minus z text) (rest : List UInt8) :
    readIntegerField field least greatest (w ++ (text ++ rest)) =
      match readQuantity (text ++ rest) with
      | .error damage => .error (.damaged damage)
      | .ok (.integer z, rest) =>
        if least ≤ z ∧ z ≤ greatest then .ok (z, rest)
        else .error (.mismatch (.outOfRange z (.field field)))
      | .ok (.floating x, _) =>
        .error (.mismatch (.wrongType (.number (.floating x)) (.field field))) := by
  obtain ⟨b, t, rfl, hb⟩ := h.exists_cons
  have hblank := (head_number_ne (by simpa using hb)).1
  rw [readIntegerField, skipBlanks_append hw, List.cons_append, skipBlanks_cons hblank]
  exact if_pos hb

theorem readField_of_readIntegerField_error {bytes : List UInt8} {fault : ReadFault}
    (hbounds : Bounds field least greatest)
    (h : readIntegerField field least greatest bytes = .error fault) (draft : Draft) :
    draft.readField field bytes = .error fault := by
  cases hbounds with
  | messageId => simp only [Draft.readField, readMessageId, h, mapRead]
  | timestamp => simp only [Draft.readField, readTimestamp, h, mapRead]

namespace Around

/-- An integer that its field refuses is the fault of the whole object. -/
theorem ofPayload_of_readIntegerField_error {fault : ReadFault}
    (h : Around field items before after) (hbounds : Bounds field least greatest)
    (hitems : (items.filterMap Item.field?).Nodup) (hfield : field ∉ items.filterMap Item.field?)
    (hread : ∀ w, Blanks w →
      readIntegerField field least greatest (w ++ (text ++ after)) = .error fault) :
    ofPayload (before ++ text ++ after) = .error fault :=
  h.ofPayload_eq_error hitems hfield fun draft w hw =>
    readField_of_readIntegerField_error hbounds (hread w hw) draft

theorem ofPayload_eq_outOfRange (h : Around field items before after)
    (hbounds : Bounds field least greatest) (hitems : (items.filterMap Item.field?).Nodup)
    (hfield : field ∉ items.filterMap Item.field?) (hsigned : Signed minus z text)
    (hout : ¬(least ≤ z ∧ z ≤ greatest)) (hlow : -2 ^ 63 ≤ z) (hhigh : z < 2 ^ 64) :
    ofPayload (before ++ text ++ after) = .error (.mismatch (.outOfRange z (.field field))) := by
  have hsize : UInt64.size = 2 ^ 64 := rfl
  have hsize' : Int64.size / 2 = 2 ^ 63 := rfl
  have hrange := hbounds.range
  refine h.ofPayload_of_readIntegerField_error hbounds hitems hfield fun w hw => ?_
  -- A zero with a minus sign would be in the range.
  have hliteral := hsigned.integerLiteral (by omega)
  rw [readIntegerField_signed field least greatest hw hsigned,
    readQuantity_append_of_integerLiteral hliteral (by omega) (by omega) h.delimited]
  exact if_neg hout

theorem exists_ofPayload_eq_floating (h : Around field items before after)
    (hbounds : Bounds field least greatest) (hitems : (items.filterMap Item.field?).Nodup)
    (hfield : field ∉ items.filterMap Item.field?) (hsigned : Signed minus z text)
    (hz : minus = true ∧ z = 0 ∨ z < -2 ^ 63 ∨ 2 ^ 64 ≤ z) (hlt : z.natAbs < leastOverflow) :
    ∃ x, ofPayload (before ++ text ++ after) =
      .error (.mismatch (.wrongType (.number (.floating x)) (.field field))) := by
  obtain ⟨x, hx⟩ := hsigned.exists_readQuantity_floating h.delimited hz hlt
  refine ⟨x, h.ofPayload_of_readIntegerField_error hbounds hitems hfield fun w hw => ?_⟩
  rw [readIntegerField_signed field least greatest hw hsigned, hx]

theorem ofPayload_eq_damaged (h : Around field items before after)
    (hbounds : Bounds field least greatest) (hitems : (items.filterMap Item.field?).Nodup)
    (hfield : field ∉ items.filterMap Item.field?) (hsigned : Signed minus z text)
    (hle : leastOverflow ≤ z.natAbs) :
    ofPayload (before ++ text ++ after) = .error (.damaged .malformed) := by
  refine h.ofPayload_of_readIntegerField_error hbounds hitems hfield fun w hw => ?_
  rw [readIntegerField_signed field least greatest hw hsigned,
    hsigned.readQuantity_of_overflow h.delimited hle]

/-- Whatever the field does not admit has one fault or another. -/
theorem exists_ofPayload_eq_error (h : Around field items before after)
    (hbounds : Bounds field least greatest) (hitems : (items.filterMap Item.field?).Nodup)
    (hfield : field ∉ items.filterMap Item.field?) (hsigned : Signed minus z text)
    (hz : ¬((least ≤ z ∧ z ≤ greatest) ∧ ¬(minus = true ∧ z = 0))) :
    ∃ fault, ofPayload (before ++ text ++ after) = .error fault := by
  by_cases hwide : minus = true ∧ z = 0 ∨ z < -2 ^ 63 ∨ 2 ^ 64 ≤ z
  · rcases Nat.lt_or_ge z.natAbs leastOverflow with hlt | hle
    · obtain ⟨x, hx⟩ :=
        h.exists_ofPayload_eq_floating hbounds hitems hfield hsigned hwide hlt
      exact ⟨_, hx⟩
    · exact ⟨_, h.ofPayload_eq_damaged hbounds hitems hfield hsigned hle⟩
  · rw [not_or, not_or] at hwide
    exact ⟨_, h.ofPayload_eq_outOfRange hbounds hitems hfield hsigned
      (fun hin => hz ⟨hin, hwide.1⟩) (by omega) (by omega)⟩

end Around

end Fields

/-- What becomes of an object with the integer `z` in the place of a field. If `minus`, the integer
has a minus sign; a message that `Says` so has this integer and everything else that the object
says. -/
structure Judged (field : Field) (least greatest : Int) (minus : Bool) (z : Int)
    (Says : Message → Prop) (result : Except ReadFault Message) : Prop where
  /-- The integer is accepted iff the field admits it and it is no zero with a minus sign. -/
  accepted_iff : (∃ m, result = .ok m) ↔ (least ≤ z ∧ z ≤ greatest) ∧ ¬(minus = true ∧ z = 0)
  /-- What is accepted is the integer itself. -/
  exact : ∀ m, result = .ok m → Says m
  /-- Any other integer of 64 bits is out of range. -/
  outOfRange : ¬(least ≤ z ∧ z ≤ greatest) → -2 ^ 63 ≤ z → z < 2 ^ 64 →
    result = .error (.mismatch (.outOfRange z (.field field)))
  /-- What is no integer of 64 bits is a floating-point value. -/
  floating : minus = true ∧ z = 0 ∨ z < -2 ^ 63 ∨ 2 ^ 64 ≤ z → z.natAbs < leastOverflow →
    ∃ x, result = .error (.mismatch (.wrongType (.number (.floating x)) (.field field)))
  /-- What overflows is damage. -/
  damaged : leastOverflow ≤ z.natAbs → result = .error (.damaged .malformed)

/-- An integer is judged right if it completes a message wherever the field admits it. -/
theorem Around.judged {field : Field} {items : List Item} {before after text : List UInt8}
    {least greatest z : Int} {minus : Bool} {Says : Message → Prop}
    (hbounds : Bounds field least greatest) (h : Around field items before after)
    (hsigned : Signed minus z text) (hitems : (items.filterMap Item.field?).Nodup)
    (hfield : field ∉ items.filterMap Item.field?)
    (haccepted : least ≤ z → z ≤ greatest → IntegerLiteral z text →
      ∃ m, Says m ∧ ofPayload (before ++ text ++ after) = .ok m) :
    Judged field least greatest minus z Says (ofPayload (before ++ text ++ after)) := by
  have houtOfRange := h.ofPayload_eq_outOfRange hbounds hitems hfield hsigned
  have hfloating (hz : minus = true ∧ z = 0 ∨ z < -2 ^ 63 ∨ 2 ^ 64 ≤ z) :=
    h.exists_ofPayload_eq_floating hbounds hitems hfield hsigned hz
  have hdamaged := h.ofPayload_eq_damaged hbounds hitems hfield hsigned
  by_cases hin : (least ≤ z ∧ z ≤ greatest) ∧ ¬(minus = true ∧ z = 0)
  · obtain ⟨m, hsays, hm⟩ := haccepted hin.1.1 hin.1.2 (hsigned.integerLiteral hin.2)
    refine ⟨iff_of_true ⟨m, hm⟩ hin, fun m' hm' => ?_, houtOfRange, hfloating, hdamaged⟩
    rw [hm] at hm'
    cases hm'
    exact hsays
  · obtain ⟨fault, hfault⟩ :=
      h.exists_ofPayload_eq_error hbounds hitems hfield hsigned hin
    refine ⟨iff_of_false ?_ hin, fun m hm => ?_, houtOfRange, hfloating, hdamaged⟩
    · rintro ⟨m, hm⟩
      rw [hfault] at hm
      cases hm
    · rw [hfault] at hm
      cases hm

/-- The text of a fault names the floating-point value. -/
theorem message_wrongType_floating (x : Float) (wanted : Wanted) :
    (Mismatch.wrongType (.number (.floating x)) wanted).message =
      "invalid type: floating point `" ++ Decimal.quoted.text x ++ "`, expected " ++
        wanted.description := by
  show "invalid type: " ++ ("floating point `" ++ Decimal.quoted.text x ++ "`") ++ ", expected " ++
    wanted.description = _
  have hopen : "invalid type: floating point `" = "invalid type: " ++ "floating point `" := by
    decide
  have hmiddle : "`, expected " = "`" ++ ", expected " := by decide
  simp only [hopen, hmiddle, String.append_assoc]

/-- Every integer literal in an object that would be a message otherwise is accepted or refused for
what it is, wherever its field stands. None is wrapped around, cut off or rounded. -/
theorem judged_integer_literal {minus : Bool} {z : Int} {text : List UInt8}
    (htext : Signed minus z text) :
    (∀ items before after p t, Around .messageId items before after →
      (items.filter (·.field?.isSome)).Perm [.producerId p, .timestamp t] →
        Judged .messageId 0 (2 ^ 64 - 1) minus z
          (fun m => m.producerId = p ∧ (m.messageId.toNat : Int) = z ∧ m.timestamp = t)
          (ofPayload (before ++ text ++ after))) ∧
    (∀ items before after p n, Around .timestamp items before after →
      (items.filter (·.field?.isSome)).Perm [.producerId p, .messageId n] →
        Judged .timestamp (-2 ^ 63) (2 ^ 63 - 1) minus z
          (fun m => m.producerId = p ∧ m.messageId = n ∧ m.timestamp.toInt = z)
          (ofPayload (before ++ text ++ after))) ∧
    (Mismatch.outOfRange z (.field .messageId)).message =
      "invalid value: integer `" ++ Decimal.integerText z ++ "`, expected u64" ∧
    (Mismatch.outOfRange z (.field .timestamp)).message =
      "invalid value: integer `" ++ Decimal.integerText z ++ "`, expected i64" ∧
    ∀ x, (Mismatch.wrongType (.number (.floating x)) (.field .messageId)).message =
        "invalid type: floating point `" ++ Decimal.quoted.text x ++ "`, expected u64" ∧
      (Mismatch.wrongType (.number (.floating x)) (.field .timestamp)).message =
        "invalid type: floating point `" ++ Decimal.quoted.text x ++ "`, expected i64" := by
  refine ⟨fun items before after p t haround hperm => ?_,
    fun items before after p n haround hperm => ?_, ?_, ?_, fun x => ⟨?_, ?_⟩⟩
  · have hcomplete (n : UInt64) : ((.messageId n :: items).filter (·.field?.isSome)).Perm
        (Message.items ⟨p, n, t⟩) :=
      (hperm.cons _).trans (.swap _ _ _)
    obtain ⟨hfield, hitems⟩ := @Around.fields_of_perm .messageId _ _ _ rfl (hcomplete 0)
    refine haround.judged .messageId htext hitems hfield
      fun (hlow : 0 ≤ z) (hhigh : z ≤ 2 ^ 64 - 1) hliteral => ?_
    -- Within its bounds the integer is the number of a word, whose literal is the text.
    have hsize : UInt64.size = 2 ^ 64 := rfl
    have hn : ((UInt64.ofNat z.toNat).toNat : Int) = z := by
      rw [UInt64.toNat_ofNat_of_lt' (by omega)]
      omega
    have hvalue : (Item.messageId (.ofNat z.toNat)).Value text := by
      rw [Item.Value, hn]
      exact hliteral
    exact ⟨_, ⟨rfl, hn, rfl⟩, haround.ofPayload_eq_ok rfl hvalue (hcomplete _)⟩
  · have hcomplete (t : Int64) : ((.timestamp t :: items).filter (·.field?.isSome)).Perm
        (Message.items ⟨p, n, t⟩) :=
      (hperm.cons _).trans ((List.Perm.swap _ _ _).trans (.cons _ (.swap _ _ _)))
    obtain ⟨hfield, hitems⟩ := @Around.fields_of_perm .timestamp _ _ _ rfl (hcomplete 0)
    refine haround.judged .timestamp htext hitems hfield fun hlow hhigh hliteral => ?_
    have ht : (Int64.ofInt z).toInt = z :=
      Int64.toInt_ofInt_of_le hlow (Int.lt_add_one_of_le hhigh)
    have hvalue : (Item.timestamp (.ofInt z)).Value text := by
      rw [Item.Value, ht]
      exact hliteral
    exact ⟨_, ⟨rfl, rfl, ht⟩, haround.ofPayload_eq_ok rfl hvalue (hcomplete _)⟩
  · exact String.append_assoc
  · exact String.append_assoc
  · exact (message_wrongType_floating x _).trans String.append_assoc
  · exact (message_wrongType_floating x _).trans String.append_assoc

/-! ## At the bounds -/

theorem signed_integerChars (z : Int) :
    Signed (decide (z < 0)) z (Utf8.encodeChars (Decimal.integerChars z)) := by
  cases z with
  | ofNat n =>
    obtain ⟨hw, hv⟩ := whole_toDigits n
    have hsigned := Signed.plain hw
    rw [hv] at hsigned
    exact hsigned
  | negSucc n =>
    obtain ⟨hw, hv⟩ := whole_toDigits (n + 1)
    have hsigned := Signed.minus hw
    rw [hv] at hsigned
    rw [decide_eq_true (Int.negSucc_lt_zero n)]
    exact hsigned

/-- An object with a place for a number between a sender and a time. -/
theorem around_messageId : Around .messageId [.producerId "p", .timestamp 99]
    (Utf8.encode "\x7b\"producerId\":\"p\",\"messageId\":")
    (Utf8.encode ",\"timestamp\":99\x7d") := by
  have hsender : Pair (.producerId "p") _ := pair_memberChars (quoted_stringChars "p")
  have htime : Pair (.timestamp 99) _ := pair_memberChars (integerLiteral_integerChars 99)
  have h := Around.mk blanks_nil (.next (.first hsender (.none blanks_nil)) blanks_nil)
    (quoted_stringChars Field.messageId.name) blanks_nil blanks_nil
    (.next blanks_nil htime (.none blanks_nil)) blanks_nil
  exact h

/-- One below and one above what the field admits. -/
theorem judged_integer_literal_at_bounds :
    ofPayload (Utf8.encode "\x7b\"producerId\":\"p\",\"messageId\":-1,\"timestamp\":99\x7d") =
        .error (.mismatch (.outOfRange (-1) (.field .messageId))) ∧
      ∃ x, ofPayload (Utf8.encode
          "\x7b\"producerId\":\"p\",\"messageId\":18446744073709551616,\"timestamp\":99\x7d") =
        .error (.mismatch (.wrongType (.number (.floating x)) (.field .messageId))) := by
  have hlow := (judged_integer_literal (signed_integerChars (-1))).1 _ _ _ _ _ around_messageId
    (.refl _)
  have hhigh := (judged_integer_literal (signed_integerChars 18446744073709551616)).1 _ _ _ _ _
    around_messageId (.refl _)
  refine ⟨?_, ?_⟩
  · refine Eq.trans (congrArg ofPayload ?_)
      (hlow.outOfRange (by decide) (by decide) (by decide))
    decide +kernel
  · obtain ⟨x, hx⟩ := hhigh.floating (.inr (.inr (by decide))) (by decide +kernel)
    refine ⟨x, Eq.trans (congrArg ofPayload ?_) hx⟩
    decide +kernel

/-- Seventeen digits and 292 zeros are no more than the greatest finite value, and yet there is no
value for them. -/
theorem judged_integer_literal_below_greatest :
    let n : Nat := 17976931348623157 * 10 ^ 292
    let digits := Utf8.encode "17976931348623157" ++ List.replicate 292 0x30
    Signed false n digits ∧ n ≤ (2 ^ 53 - 1) * 2 ^ 971 ∧
      (Decimal.nearest 17976931348623157 292).isFinite = true ∧
      ofPayload (Utf8.encode "\x7b\"producerId\":\"p\",\"messageId\":" ++ digits ++
        Utf8.encode ",\"timestamp\":99\x7d") = .error (.damaged .malformed) := by
  intro n digits
  have hdigits : Utf8.encodeChars (Decimal.integerChars n) = digits := by decide +kernel
  have hsigned : Signed false n digits := by
    have h := signed_integerChars n
    rwa [hdigits, decide_eq_false (Int.not_lt.2 (Int.natCast_nonneg n))] at h
  have hoverflow : leastOverflow ≤ Int.natAbs n := by
    rw [Int.natAbs_natCast]
    decide +kernel
  refine ⟨hsigned, by decide +kernel, by decide +kernel, ?_⟩
  refine around_messageId.ofPayload_eq_error (by decide) (by decide) fun draft w hw => ?_
  refine readField_of_readIntegerField_error .messageId ?_ draft
  rw [readIntegerField_signed _ _ _ hw hsigned,
    hsigned.readQuantity_of_overflow around_messageId.delimited hoverflow]

end KafkaCanary.Message
