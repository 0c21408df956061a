import KafkaCanary.Proofs.Json.Skipping
import KafkaCanary.Proofs.Message.Grammar

/-!
# Reading fields

The readers of the three fields and of a member of an object against the grammar of messages. The
reader of an object keeps a draft of the fields found so far; for a proof, a draft is the list of
the members that give its fields, to which every member that is read is added.

## Main results

* `readTextField_eq_ok_iff`, `exists_of_readIntegerField`, `readIntegerField_append`: the values;
* `Draft.filter_cons_perm_put`, `Draft.finish_of_perm`: a draft gathers members until they are
  those of a message;
* `Draft.accepts_cons_iff`, `Draft.has_foldl_put`: which members can be put into a draft one after
  the other, and the fields that it has then;
* `exists_of_readMember`, `readMember_append`: one member is read into a draft that admits it.
-/

namespace KafkaCanary.Message

open Json

/-! ## Values -/

/-- Damage told as a fault of the message does not change a result. -/
theorem liftDamage_eq_ok_iff {α : Type} {r : Except Damage α} {a : α} :
    liftDamage r = .ok a ↔ r = .ok a := by
  cases r <;> simp [liftDamage]

/-- A text is read iff it is spelled, up to its quote. -/
theorem readText_eq_ok_iff {bytes rest : List UInt8} {s : String} :
    readText bytes = .ok (s, rest) ↔
      ∃ body, Spellings s.toList body ∧ bytes = body ++ quote :: rest := by
  rw [← readContents_eq_ok_iff]
  constructor
  · intro h
    rw [readText] at h
    split at h
    · cases h
    · next contents after hc =>
      split at h
      · next hs =>
        cases h
        rw [hc, Utf8.decode_eq_ok_iff.1 hs]
        rfl
      · cases h
  · intro h
    have hs : Utf8.decode (Utf8.encodeChars s.toList) = .ok s := Utf8.decode_eq_ok_iff.2 rfl
    simp only [readText, h, hs]

/-- A text field is read from a string, with the blanks before it. -/
theorem readTextField_eq_ok_iff {field : Field} {bytes rest : List UInt8} {s : String} :
    readTextField field bytes = .ok (s, rest) ↔
      ∃ w v, Blanks w ∧ Quoted s v ∧ bytes = w ++ v ++ rest := by
  constructor
  · intro h
    rw [readTextField] at h
    split at h
    · cases h
    · next b after hb =>
      split at h
      · next hquote =>
        rw [eq_of_beq hquote] at hb
        obtain ⟨-, w, hw, rfl⟩ := skipBlanks_eq_cons_iff.1 hb
        obtain ⟨body, hbody, rfl⟩ := readText_eq_ok_iff.1 h
        exact ⟨w, _, hw, ⟨body, hbody, rfl⟩, by simp⟩
      · cases h
  · rintro ⟨w, _, hw, ⟨body, hbody, rfl⟩, rfl⟩
    have hs : readText (body ++ quote :: rest) = .ok (s, rest) :=
      readText_eq_ok_iff.2 ⟨body, hbody, rfl⟩
    rw [readTextField, List.append_assoc, skipBlanks_append hw, List.cons_append,
      skipBlanks_cons rfl]
    simpa using hs

/-- A key is read as a text field is. -/
theorem readKey_eq_ok_iff {bytes rest : List UInt8} {s : String} :
    readKey bytes = .ok (s, rest) ↔
      ∃ w v, Blanks w ∧ Quoted s v ∧ bytes = w ++ v ++ rest := by
  rw [← @readTextField_eq_ok_iff .producerId, readKey, readTextField]
  cases skipBlanks bytes with
  | nil => simp
  | cons b after => dsimp only; split <;> simp

/-- What is read as an integer field is a literal of an integer in the range. -/
theorem exists_of_readIntegerField {field : Field} {least greatest z : Int}
    {bytes rest : List UInt8}
    (h : readIntegerField field least greatest bytes = .ok (z, rest)) :
    least ≤ z ∧ z ≤ greatest ∧
      ∃ w v, Blanks w ∧ IntegerLiteral z v ∧ bytes = w ++ v ++ rest := by
  rw [readIntegerField] at h
  split at h
  · cases h
  · next b after hb =>
    obtain ⟨-, w, hw, rfl⟩ := skipBlanks_eq_cons_iff.1 hb
    split at h
    · split at h
      · cases h
      · next hq =>
        split at h
        · next hz =>
          cases h
          obtain ⟨v, hv, heq⟩ := integerLiteral_of_readQuantity hq
          exact ⟨hz.1, hz.2, w, v, hw, hv, by rw [heq, List.append_assoc]⟩
        · cases h
      · cases h
    · cases h

/-- A literal of an integer in the range is read as an integer field, with the blanks before it. -/
theorem readIntegerField_append {least greatest z : Int} {w v rest : List UInt8} (field : Field)
    (hleast : -(Int64.size / 2 : Nat) ≤ least) (hgreatest : greatest < UInt64.size)
    (hw : Blanks w) (hv : IntegerLiteral z v) (hlow : least ≤ z) (hhigh : z ≤ greatest)
    (hrest : Delimited rest) :
    readIntegerField field least greatest (w ++ (v ++ rest)) = .ok (z, rest) := by
  have hq := readQuantity_append_of_integerLiteral hv (by omega) (by omega) hrest
  obtain ⟨b, t, rfl, hb⟩ := hv.number.exists_cons
  have hblank := (head_number_ne hb).1
  have hb' : (b == 0x2D || isDigit b) = true := by simpa using hb
  rw [List.cons_append] at hq
  rw [readIntegerField, skipBlanks_append hw, List.cons_append, skipBlanks_cons hblank]
  simp [hb', hq, hlow, hhigh]

/-- What is read as an id is a literal of it after blanks. -/
theorem exists_of_readMessageId {bytes rest : List UInt8} {n : UInt64}
    (h : readMessageId bytes = .ok (n, rest)) :
    ∃ w v, Blanks w ∧ IntegerLiteral n.toNat v ∧ bytes = w ++ v ++ rest := by
  obtain ⟨z, hz, rfl⟩ := mapRead_eq_ok_iff.1 h
  obtain ⟨hlow, hhigh, w, v, hw, hv, rfl⟩ := exists_of_readIntegerField hz
  have hn : ((UInt64.ofNat z.toNat).toNat : Int) = z := by
    rw [UInt64.toNat_ofNat_of_lt' (by omega)]
    omega
  exact ⟨w, v, hw, by rwa [hn], rfl⟩

/-- A literal of an id is read after blanks, up to a delimiter. -/
theorem readMessageId_append {n : UInt64} {w v rest : List UInt8} (hw : Blanks w)
    (hv : IntegerLiteral n.toNat v) (hrest : Delimited rest) :
    readMessageId (w ++ (v ++ rest)) = .ok (n, rest) := by
  have hn := n.toNat_lt_size
  have hz : readIntegerField .messageId 0 (UInt64.size - 1) (w ++ (v ++ rest)) = _ :=
    readIntegerField_append .messageId (by decide) (by decide) hw hv (by omega) (by omega) hrest
  rw [readMessageId, hz]
  simp [mapRead]

/-- What is read as a time is a literal of it after blanks. -/
theorem exists_of_readTimestamp {bytes rest : List UInt8} {t : Int64}
    (h : readTimestamp bytes = .ok (t, rest)) :
    ∃ w v, Blanks w ∧ IntegerLiteral t.toInt v ∧ bytes = w ++ v ++ rest := by
  obtain ⟨z, hz, rfl⟩ := mapRead_eq_ok_iff.1 h
  obtain ⟨hlow, hhigh, w, v, hw, hv, rfl⟩ := exists_of_readIntegerField hz
  have ht : (Int64.ofInt z).toInt = z :=
    Int64.toInt_ofInt_of_le hlow (Int.lt_add_one_of_le hhigh)
  exact ⟨w, v, hw, by rwa [ht], rfl⟩

/-- A literal of a time is read after blanks, up to a delimiter. -/
theorem readTimestamp_append {t : Int64} {w v rest : List UInt8} (hw : Blanks w)
    (hv : IntegerLiteral t.toInt v) (hrest : Delimited rest) :
    readTimestamp (w ++ (v ++ rest)) = .ok (t, rest) := by
  have hz := readIntegerField_append .timestamp (by decide) (by decide) hw hv
    t.minValue_le_toInt t.toInt_le hrest
  rw [readTimestamp, hz]
  simp [mapRead]

/-! ## Drafts -/

namespace Draft

/-- The draft with what a member says. -/
def put (draft : Draft) : Item → Draft
  | .producerId s => { draft with producerId := some s }
  | .messageId n => { draft with messageId := some n }
  | .timestamp t => { draft with timestamp := some t }
  | .other _ => draft

/-- The members that give the fields of a draft. -/
def items (draft : Draft) : List Item :=
  (draft.producerId.map .producerId).toList ++ (draft.messageId.map .messageId).toList ++
    (draft.timestamp.map .timestamp).toList

/-- A member can be put into a draft that does not have the field it gives. -/
def Admits (draft : Draft) (item : Item) : Prop :=
  ∀ field, item.field? = some field → draft.has field = false

/-- An empty draft has no members. -/
theorem items_empty : empty.items = [] :=
  rfl

/-- A field that a draft has was given by a member. -/
theorem exists_mem_items_of_has {draft : Draft} {field : Field} (h : draft.has field = true) :
    ∃ item ∈ draft.items, item.field? = some field := by
  obtain ⟨p, n, t⟩ := draft
  cases field with
  | producerId =>
    obtain ⟨s, rfl⟩ := Option.isSome_iff_exists.1 h
    exact ⟨.producerId s, by simp [items], rfl⟩
  | messageId =>
    obtain ⟨n, rfl⟩ := Option.isSome_iff_exists.1 h
    exact ⟨.messageId n, by simp [items], rfl⟩
  | timestamp =>
    obtain ⟨t, rfl⟩ := Option.isSome_iff_exists.1 h
    exact ⟨.timestamp t, by simp [items], rfl⟩

/-- Putting a member into a draft adds it to the members of the draft. -/
theorem items_put {draft : Draft} {item : Item} (h : draft.Admits item) :
    (draft.put item).items.Perm ([item].filter (·.field?.isSome) ++ draft.items) := by
  obtain ⟨p, n, t⟩ := draft
  cases item with
  | producerId s =>
    obtain rfl : p = none := by simpa [has] using h .producerId rfl
    exact .refl _
  | messageId k =>
    obtain rfl : n = none := by simpa [has] using h .messageId rfl
    cases p with
    | none => exact .refl _
    | some s => exact .swap _ _ _
  | timestamp k =>
    obtain rfl : t = none := by simpa [has] using h .timestamp rfl
    have hput : (put ⟨p, n, none⟩ (.timestamp k)).items = items ⟨p, n, none⟩ ++ [.timestamp k] := by
      simp [items, put]
    rw [hput]
    exact List.perm_append_comm
  | other key => exact .refl _

/-- Whether a member is yet to come or has been put into the draft makes no difference. -/
theorem filter_cons_perm_put {draft : Draft} {item : Item} (h : draft.Admits item)
    (rest : List Item) : ((item :: rest).filter (·.field?.isSome) ++ draft.items).Perm
      (rest.filter (·.field?.isSome) ++ (draft.put item).items) := by
  rw [← List.singleton_append, List.filter_append, List.append_assoc]
  refine .trans ?_ ((items_put h).symm.append_left _)
  rw [← List.append_assoc, ← List.append_assoc]
  exact List.perm_append_comm.append_right _

/-- A draft that is finished has the members of its message. -/
theorem items_of_finish {draft : Draft} {m : Message} (h : draft.finish = .ok m) :
    draft.items = m.items := by
  obtain ⟨p, n, t⟩ := draft
  cases p <;> cases n <;> cases t <;> cases h
  rfl

/-- A draft with the members of a message is that message. -/
theorem finish_of_perm {draft : Draft} {m : Message} (h : draft.items.Perm m.items) :
    draft.finish = .ok m := by
  obtain ⟨p, n, t⟩ := draft
  -- Each field of the message is among the members of the draft, which are one of a kind.
  have hp : Item.producerId m.producerId ∈ items ⟨p, n, t⟩ := h.mem_iff.2 (by simp [Message.items])
  have hn : Item.messageId m.messageId ∈ items ⟨p, n, t⟩ := h.mem_iff.2 (by simp [Message.items])
  have ht : Item.timestamp m.timestamp ∈ items ⟨p, n, t⟩ := h.mem_iff.2 (by simp [Message.items])
  obtain rfl : p = some m.producerId := by simpa [items] using hp
  obtain rfl : n = some m.messageId := by simpa [items] using hn
  obtain rfl : t = some m.timestamp := by simpa [items] using ht
  rfl

/-- A member can be put into a draft if the draft lacks what the member gives. -/
theorem admits_of_perm {draft : Draft} {item : Item} {rest : List Item} {m : Message}
    (h : ((item :: rest).filter (·.field?.isSome) ++ draft.items).Perm m.items) :
    draft.Admits item := by
  intro field hfield
  rw [Bool.eq_false_iff]
  intro hhas
  obtain ⟨item', hmem, hfield'⟩ := exists_mem_items_of_has hhas
  rw [List.filter_cons_of_pos (by simp [hfield])] at h
  -- No two members of a message give the same field.
  have hnodup : (m.items.map Item.field?).Nodup := by simp [Message.items, Item.field?]
  rw [← (h.map Item.field?).nodup_iff, List.cons_append, List.map_cons, List.nodup_cons] at hnodup
  refine hnodup.1 (List.mem_map.2 ⟨item', List.mem_append_right _ hmem, ?_⟩)
  rw [hfield, hfield']

/-- The fields of a draft that a member has been put into. -/
theorem has_put (draft : Draft) (item : Item) (field : Field) :
    (draft.put item).has field = true ↔ item.field? = some field ∨ draft.has field = true := by
  cases item <;> cases field <;> simp [put, has, Item.field?]

/-- Members can be put into a draft one after the other if it lacks what they give and no two of
them give the same field. -/
def Accepts (draft : Draft) (items : List Item) : Prop :=
  (items.filterMap Item.field?).Nodup ∧
    ∀ field ∈ items.filterMap Item.field?, draft.has field = false

/-- Members can be put one after another iff the first can, and then the others. -/
theorem accepts_cons_iff {draft : Draft} {item : Item} {items : List Item} :
    draft.Accepts (item :: items) ↔ draft.Admits item ∧ (draft.put item).Accepts items := by
  have hput (field : Field) : (draft.put item).has field = false ↔
      item.field? ≠ some field ∧ draft.has field = false := by
    rw [← Bool.not_eq_true, has_put, not_or, Bool.not_eq_true]
  cases hitem : item.field? with
  | none => simp [Accepts, Admits, hput, hitem]
  | some field =>
    simp only [Accepts, Admits, hput, hitem, List.filterMap_cons, List.nodup_cons, List.mem_cons,
      forall_eq_or_imp, Option.some.injEq, forall_eq', ne_eq]
    grind

/-- An empty draft accepts members that give no field twice. -/
theorem accepts_empty {items : List Item} (h : (items.filterMap Item.field?).Nodup) :
    empty.Accepts items :=
  ⟨h, fun field _ => by cases field <;> rfl⟩

/-- Members can be put into a draft if they complete it. -/
theorem accepts_of_perm {draft : Draft} {items : List Item} {m : Message}
    (h : (items.filter (·.field?.isSome) ++ draft.items).Perm m.items) : draft.Accepts items := by
  induction items generalizing draft with
  | nil => exact ⟨List.nodup_nil, nofun⟩
  | cons item items ih =>
    have hadmits := admits_of_perm h
    exact accepts_cons_iff.2 ⟨hadmits, ih ((filter_cons_perm_put hadmits items).symm.trans h)⟩

/-- Members that have been put into a draft are members of it. -/
theorem items_foldl_put {draft : Draft} {items : List Item} (h : draft.Accepts items) :
    (items.foldl put draft).items.Perm (items.filter (·.field?.isSome) ++ draft.items) := by
  induction items generalizing draft with
  | nil => exact .refl _
  | cons item items ih =>
    obtain ⟨hadmits, haccepts⟩ := accepts_cons_iff.1 h
    exact (ih haccepts).trans (filter_cons_perm_put hadmits items).symm

/-- The fields of a draft that members have been put into. -/
theorem has_foldl_put {draft : Draft} {items : List Item} {field : Field} :
    (items.foldl put draft).has field = true ↔
      field ∈ items.filterMap Item.field? ∨ draft.has field = true := by
  induction items generalizing draft with
  | nil => simp
  | cons item items ih =>
    rw [List.foldl_cons, ih, has_put, List.mem_filterMap, List.mem_filterMap]
    simpa only [List.mem_cons, exists_eq_or_imp, or_assoc] using or_left_comm

end Draft

/-! ## Members -/

/-- A value of a field is read into the draft. -/
theorem exists_of_readField {draft draft' : Draft} {field : Field} {bytes rest : List UInt8}
    (h : draft.readField field bytes = .ok (draft', rest)) :
    ∃ item w v, item.field? = some field ∧ Blanks w ∧ item.Value v ∧ bytes = w ++ v ++ rest ∧
      draft' = draft.put item := by
  cases field with
  | producerId =>
    obtain ⟨s, hs, rfl⟩ := mapRead_eq_ok_iff.1 h
    obtain ⟨w, v, hw, hv, rfl⟩ := readTextField_eq_ok_iff.1 hs
    exact ⟨.producerId s, w, v, rfl, hw, hv, rfl, rfl⟩
  | messageId =>
    obtain ⟨n, hn, rfl⟩ := mapRead_eq_ok_iff.1 h
    obtain ⟨w, v, hw, hv, rfl⟩ := exists_of_readMessageId hn
    exact ⟨.messageId n, w, v, rfl, hw, hv, rfl, rfl⟩
  | timestamp =>
    obtain ⟨t, ht, rfl⟩ := mapRead_eq_ok_iff.1 h
    obtain ⟨w, v, hw, hv, rfl⟩ := exists_of_readTimestamp ht
    exact ⟨.timestamp t, w, v, rfl, hw, hv, rfl, rfl⟩

/-- The value of a field is read after blanks and put into the draft. -/
theorem readField_append {draft : Draft} {item : Item} {field : Field} {w v rest : List UInt8}
    (hfield : item.field? = some field) (hw : Blanks w) (hv : item.Value v)
    (hrest : Delimited rest) :
    draft.readField field (w ++ (v ++ rest)) = .ok (draft.put item, rest) := by
  cases item with
  | producerId s =>
    cases hfield
    have hs : readProducerId (w ++ (v ++ rest)) = .ok (s, rest) :=
      readTextField_eq_ok_iff.2 ⟨w, v, hw, hv, (List.append_assoc ..).symm⟩
    rw [Draft.readField, hs]
    rfl
  | messageId n =>
    cases hfield
    rw [Draft.readField, readMessageId_append hw hv hrest]
    rfl
  | timestamp t =>
    cases hfield
    rw [Draft.readField, readTimestamp_append hw hv hrest]
    rfl
  | other key => cases hfield

/-- A key names a field iff it is the name of that field. -/
theorem named?_eq_some_iff {key : String} {field : Field} :
    Field.named? key = some field ↔ key = field.name := by
  constructor
  · intro h
    rw [Field.named?] at h
    split at h
    · cases h; assumption
    split at h
    · cases h; assumption
    split at h
    · cases h; assumption
    · cases h
  · rintro rfl
    cases field <;> rfl

/-- The key of a member names the field that it gives, if it gives one. -/
theorem named?_key {item : Item} {v : List UInt8} (h : item.Value v) :
    Field.named? item.key = item.field? := by
  cases item with
  | producerId s => rfl
  | messageId n => rfl
  | timestamp t => rfl
  | other key =>
    refine Option.eq_none_iff_forall_ne_some.2 fun field hfield => ?_
    exact h.1 field (named?_eq_some_iff.1 hfield)

/-- A member that gives a field has the name of the field as its key. -/
theorem key_eq_name {item : Item} {field : Field} (h : item.field? = some field) :
    item.key = field.name := by
  cases item <;> cases h <;> rfl

/-- The colon and the value of a member that the draft admits are read into it. -/
theorem exists_of_readMember {draft draft' : Draft} {key : String} {bytes rest : List UInt8}
    (h : readMember draft key bytes = .ok (draft', rest)) :
    ∃ item w1 w2 v, item.key = key ∧ draft.Admits item ∧ Blanks w1 ∧ Blanks w2 ∧ item.Value v ∧
      bytes = w1 ++ 0x3A :: (w2 ++ v ++ rest) ∧ draft' = draft.put item := by
  rw [readMember] at h
  split at h
  · next field hfield =>
    split at h
    · cases h
    · next hhas =>
      obtain ⟨after, hcolon, hvalue⟩ := bind_eq_ok_iff.1 h
      obtain ⟨w1, hw1, rfl⟩ := readColon_eq_ok_iff.1 (liftDamage_eq_ok_iff.1 hcolon)
      obtain ⟨item, w2, v, hitem, hw2, hv, rfl, hput⟩ := exists_of_readField hvalue
      -- The draft did not have the field, or the reader would have stopped.
      refine ⟨item, w1, w2, v, ?_, ?_, hw1, hw2, hv, rfl, hput⟩
      · rw [key_eq_name hitem, named?_eq_some_iff.1 hfield]
      · intro field' hfield'
        rw [hitem] at hfield'
        cases hfield'
        simpa using hhas
  · next hnone =>
    obtain ⟨rest', hskip, heq⟩ := map_eq_ok_iff.1 h
    cases heq
    obtain ⟨after, hcolon, hvalue⟩ := bind_eq_ok_iff.1 (liftDamage_eq_ok_iff.1 hskip)
    obtain ⟨w1, hw1, rfl⟩ := readColon_eq_ok_iff.1 hcolon
    obtain ⟨w2, v, hw2, hv, rfl⟩ := derives_of_skipValue hvalue
    have hadmits : draft.Admits (.other key) := fun field hfield => by cases hfield
    refine ⟨.other key, w1, w2, v, rfl, hadmits, hw1, hw2, ⟨fun field hkey => ?_, hv⟩, rfl, rfl⟩
    rw [named?_eq_some_iff.2 hkey] at hnone
    cases hnone

/-- A member is read after its key, with blanks around its colon, and put into the draft. -/
theorem readMember_append {draft : Draft} {item : Item} {w1 w2 v rest : List UInt8}
    (hadmits : draft.Admits item) (hw1 : Blanks w1) (hw2 : Blanks w2) (hv : item.Value v)
    (hrest : Delimited rest) :
    readMember draft item.key (w1 ++ 0x3A :: (w2 ++ (v ++ rest))) = .ok (draft.put item, rest) := by
  have hcolon : readColon (w1 ++ 0x3A :: (w2 ++ (v ++ rest))) = .ok (w2 ++ (v ++ rest)) :=
    readColon_eq_ok_iff.2 ⟨w1, hw1, rfl⟩
  rw [readMember, named?_key hv, hcolon]
  cases hfield : item.field? with
  | some field =>
    simp only [hadmits field hfield, Bool.false_eq_true, if_false]
    exact readField_append hfield hw2 hv hrest
  | none =>
    cases item with
    | other key =>
      show (liftDamage (skipValue _)).map _ = _
      rw [skipValue_append hw2 hv.2 hrest]
      rfl
    | _ => cases hfield

end KafkaCanary.Message
