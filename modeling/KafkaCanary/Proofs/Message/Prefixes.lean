import KafkaCanary.Proofs.Message.RoundTrip

/-!
# Prefixes of objects

Objects are judged from the left. Whatever the members so far may be, all that is left of them is
the draft that they were put into; the next key, brace or value is judged against that draft alone,
and the bytes after it are not looked at any more if it is refused.

## Main definitions

* `Preceding`: what stands in an object before a key, with the members in it;
* `Field.order`: the fields in the order in which they are asked for.

## Main results

* `readMembers_preceding_append`: after a key the reader goes on with the draft of the members
  before it;
* `ofPayload_of_partial_object`: fields that come again, fields that are missing and values of the
  wrong kind are reported as soon as they show.
-/

namespace KafkaCanary.Message

open Json

/-! ## Before a key -/

/-- What stands in an object before a key: blanks at its beginning, or members, a comma and
blanks. -/
inductive Preceding : List Item → List UInt8 → Prop
  /-- The first key. -/
  | first {w : List UInt8} : Blanks w → Preceding [] w
  /-- Any other key. -/
  | next {item : Item} {items : List Item} {t w : List UInt8} :
      Following true (item :: items) t → Blanks w → Preceding (item :: items) (t ++ 0x2C :: w)

/-- The draft of the members before a key is all that the reader knows of them. -/
theorem readMembers_preceding_append {items : List Item} {pre k : List UInt8} {key : String}
    (h : Preceding items pre) (hitems : (items.filterMap Item.field?).Nodup) (hk : Quoted key k)
    (rest : List UInt8) : readMembers .empty true (pre ++ k ++ rest) =
      readMember (items.foldl Draft.put .empty) key rest >>= fun (draft, rest) =>
        readMembers draft false rest := by
  cases h with
  | first hw => exact readMembers_of_key (nextKey_true_eq_some_iff.2 ⟨_, _, hw, hk, rfl⟩)
  | next ht hw =>
    rw [List.append_assoc, List.append_assoc, List.cons_append,
      readMembers_following_append ht (Draft.accepts_empty hitems) (delimited_cons (by simp) _)]
    exact readMembers_of_key
      (nextKey_false_eq_some_iff.2 ⟨[], _, _, blanks_nil, hw, hk, by rw [List.append_assoc]; rfl⟩)

/-- The fields of the members before a key. -/
theorem has_fields_iff {items : List Item} {field : Field} :
    (items.foldl Draft.put .empty).has field = true ↔ field ∈ items.filterMap Item.field? := by
  have hempty : Draft.empty.has field = false := by cases field <;> rfl
  simp [Draft.has_foldl_put, hempty]

/-! ## What is refused -/

/-- A field that the draft has is refused at its key. -/
theorem readMember_of_has {draft : Draft} {field : Field} (h : draft.has field = true)
    (bytes : List UInt8) :
    readMember draft field.name bytes = .error (.mismatch (.duplicate field)) := by
  simp [readMember, named?_eq_some_iff.2 rfl, h]

/-- The bytes that lists and objects begin with. -/
inductive Opens : UInt8 → Finding → Prop
  /-- A list. -/
  | sequence : Opens 0x5B .sequence
  /-- An object. -/
  | map : Opens 0x7B .map

/-- Where a field needs a text or an integer, a list or an object is refused as it opens. -/
theorem readField_of_opens {draft : Draft} {field : Field} {found : Finding} {b : UInt8}
    {w : List UInt8} (hw : Blanks w) (h : Opens b found) (rest : List UInt8) :
    draft.readField field (w ++ b :: rest) =
      .error (.mismatch (.wrongType found (.field field))) := by
  have hb : skipBlanks (w ++ b :: rest) = b :: rest := by
    rw [skipBlanks_append hw]
    cases h <;> exact skipBlanks_cons rfl rest
  have htext : readTextField field (w ++ b :: rest) =
      .error (.mismatch (.wrongType found (.field field))) := by
    rw [readTextField, hb]
    cases h <;> rfl
  have hinteger (least greatest : Int) :
      readIntegerField field least greatest (w ++ b :: rest) =
        .error (.mismatch (.wrongType found (.field field))) := by
    rw [readIntegerField, hb]
    cases h <;> rfl
  cases field with
  | producerId => simp only [Draft.readField, readProducerId, htext, mapRead]
  | messageId => simp only [Draft.readField, readMessageId, hinteger, mapRead]
  | timestamp => simp only [Draft.readField, readTimestamp, hinteger, mapRead]

/-- A value that is refused is reported in the place of the whole message. -/
theorem readMembers_of_readField_error {items : List Item} {pre k w1 bytes : List UInt8}
    {field : Field} {fault : ReadFault} (h : Preceding items pre)
    (hitems : (items.filterMap Item.field?).Nodup) (hk : Quoted field.name k)
    (hfield : field ∉ items.filterMap Item.field?) (hw1 : Blanks w1)
    (hfault : (items.foldl Draft.put .empty).readField field bytes = .error fault) :
    readMembers .empty true (pre ++ k ++ (w1 ++ 0x3A :: bytes)) = .error fault := by
  have hlacks : (items.foldl Draft.put .empty).has field = false := by
    rw [← Bool.not_eq_true, has_fields_iff]
    exact hfield
  have hcolon : readColon (w1 ++ 0x3A :: bytes) = .ok bytes := readColon_eq_ok_iff.2 ⟨w1, hw1, rfl⟩
  have hmember : readMember (items.foldl Draft.put .empty) field.name (w1 ++ 0x3A :: bytes) =
      .error fault := by
    simp only [readMember, named?_eq_some_iff.2 rfl, hlacks, hcolon]
    exact hfault
  rw [readMembers_preceding_append h hitems hk, hmember]
  rfl

/-- The fields of a message in the order in which they are asked for. -/
def Field.order : List Field :=
  [.producerId, .messageId, .timestamp]

/-- A draft that lacks a field is no message, whatever else it lacks. -/
theorem Draft.finish_of_find? {draft : Draft} {field : Field}
    (h : Field.order.find? (fun field => !draft.has field) = some field) :
    draft.finish = .error (.mismatch (.missing field)) := by
  obtain ⟨p, n, t⟩ := draft
  cases p <;> cases n <;> cases t <;> cases h <;> rfl

theorem ofPayload_of_readMembers_error {w bytes : List UInt8} {fault : ReadFault} (hw : Blanks w)
    (h : readMembers .empty true bytes = .error fault) :
    ofPayload (w ++ 0x7B :: bytes) = .error fault := by
  rw [ofPayload, readMessage_brace hw, h]

/-- Objects are judged from the left: after any members that can belong to a message, a field that
comes again is reported at its key, the first field that is missing at the closing brace, and a
list or an object in place of a field's value at the byte that opens it, whatever comes after. -/
theorem ofPayload_of_partial_object {w : List UInt8} {items : List Item} (hw : Blanks w)
    (hitems : (items.filterMap Item.field?).Nodup) :
    (∀ pre k rest field, Preceding items pre → Quoted (Field.name field) k →
      field ∈ items.filterMap Item.field? →
        ofPayload (w ++ 0x7B :: (pre ++ k ++ rest)) = .error (.mismatch (.duplicate field))) ∧
    (∀ t rest field, Following true items t →
      Field.order.find? (fun field => field ∉ items.filterMap Item.field?) = some field →
        ofPayload (w ++ 0x7B :: (t ++ 0x7D :: rest)) = .error (.mismatch (.missing field))) ∧
    (∀ pre k w1 w2 b found rest field, Preceding items pre → Quoted (Field.name field) k →
      field ∉ items.filterMap Item.field? → Blanks w1 → Blanks w2 → Opens b found →
        ofPayload (w ++ 0x7B :: (pre ++ k ++ (w1 ++ 0x3A :: (w2 ++ b :: rest)))) =
          .error (.mismatch (.wrongType found (.field field)))) ∧
    ∀ field : Field,
      (Mismatch.duplicate field).message = "duplicate field `" ++ field.name ++ "`" ∧
      (Mismatch.missing field).message = "missing field `" ++ field.name ++ "`" ∧
      (Mismatch.wrongType .sequence (.field field)).message =
        "invalid type: sequence, expected " ++ (Wanted.field field).description ∧
      (Mismatch.wrongType .map (.field field)).message =
        "invalid type: map, expected " ++ (Wanted.field field).description := by
  refine ⟨fun pre k rest field hpre hk hfield => ?_, fun t rest field ht hfield => ?_,
    fun pre k w1 w2 b found rest field hpre hk hfield hw1 hw2 hopens => ?_, fun field => ?_⟩
  · -- The colon is not even looked for.
    apply ofPayload_of_readMembers_error hw
    rw [readMembers_preceding_append hpre hitems hk, readMember_of_has (has_fields_iff.2 hfield)]
    rfl
  · apply ofPayload_of_readMembers_error hw
    rw [readMembers_following_append ht (Draft.accepts_empty hitems)
      (delimited_cons (by simp) rest), readMembers_brace]
    have hfind : Field.order.find? (fun field => !(items.foldl Draft.put .empty).has field) =
        some field := by
      rw [← hfield]
      congr 1
      funext field
      rw [decide_not, Bool.eq_iff_iff.2 (has_fields_iff.trans decide_eq_true_iff.symm)]
    rw [Draft.finish_of_find? hfind]
    rfl
  · apply ofPayload_of_readMembers_error hw
    exact readMembers_of_readField_error hpre hitems hk hfield hw1
      (readField_of_opens hw2 hopens rest)
  · exact ⟨rfl, rfl, rfl, rfl⟩

/-- What a sender alone can be followed by, with an exclamation mark where nobody looks. -/
theorem ofPayload_of_partial_object_after_sender :
    ofPayload (Utf8.encode "\x7b\"producerId\":\"a\",\"producerId\"!") =
        .error (.mismatch (.duplicate .producerId)) ∧
      ofPayload (Utf8.encode "\x7b\"producerId\":\"a\"\x7d!") =
        .error (.mismatch (.missing .messageId)) ∧
      ofPayload (Utf8.encode "\x7b\"producerId\":\"a\",\"timestamp\":[!") =
        .error (.mismatch (.wrongType .sequence (.field .timestamp))) := by
  have hpair : Pair (.producerId "a") _ := pair_memberChars (quoted_stringChars "a")
  have ht : Following true [.producerId "a"] _ := .first hpair (.none blanks_nil)
  have hpre : Preceding [.producerId "a"] _ := .next ht blanks_nil
  have hitems : ([.producerId "a"] : List Item).filterMap Item.field? = [.producerId] := rfl
  obtain ⟨hduplicate, hmissing, hopens, -⟩ :=
    @ofPayload_of_partial_object [] [.producerId "a"] blanks_nil (by simp [hitems])
  have h1 := hduplicate _ _ [0x21] .producerId hpre (quoted_stringChars _) (by simp [hitems])
  have h2 := hmissing _ [0x21] .messageId ht (by rw [hitems]; decide)
  have h3 := hopens _ _ [] [] _ _ [0x21] .timestamp hpre (quoted_stringChars _)
    (by simp [hitems]) blanks_nil blanks_nil .sequence
  refine ⟨Eq.trans (congrArg ofPayload ?_) h1, Eq.trans (congrArg ofPayload ?_) h2,
    Eq.trans (congrArg ofPayload ?_) h3⟩
  all_goals decide +kernel

end KafkaCanary.Message
