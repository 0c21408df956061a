import KafkaCanary.Proofs.Json.Cuts
import KafkaCanary.Proofs.Message.RoundTrip

/-!
# Truncated and extended payloads

What the reader makes of a payload that is not whole, or is more than whole. Wherever the payload is
cut, the reader runs out of bytes: in a key or a text at once, in a number either at once or, where
the digits that are left are a number too, when it looks for the byte after it. What follows a whole
payload has to be blank.

## Main definitions

* `Exhausted`: what the reader of a value makes of a value that is cut.

## Main results

* `readMember_of_cut`: the colon and the value of a member, if they are cut;
* `readMembers_of_prefix`: the members of an object, without the brace that closes it;
* `ofPayload_payload_cut_or_extended`: the prefixes and the extensions of a payload.
-/

namespace KafkaCanary.Message

open Json

/-! ## Values -/

/-- There is nothing left to read: either that is reported, or a number was read that ends where
the bytes do. -/
inductive Exhausted {α : Type} : Except ReadFault (α × List UInt8) → Prop
  /-- The bytes end too early. -/
  | truncated : Exhausted (.error (.damaged .truncated))
  /-- The bytes end behind a value. -/
  | shortened (a : α) : Exhausted (.ok (a, []))

theorem Exhausted.mapRead {α β : Type} (f : α → β) {r : Except ReadFault (α × List UInt8)}
    (h : Exhausted r) : Exhausted (Json.mapRead f r) := by
  cases h with
  | truncated => exact .truncated
  | shortened a => exact .shortened (f a)

/-- Bytes that are cut before or behind their first byte that is no blank. -/
theorem skipBlanks_of_cut {w t p : List UInt8} {b : UInt8} (hw : Blanks w)
    (hb : isBlank b = false) (hp : Cut p (w ++ b :: t)) :
    skipBlanks p = [] ∨ ∃ q, skipBlanks p = b :: q ∧ Cut q t := by
  rcases hp.append with hp | ⟨q, rfl, hq⟩
  · exact .inl (skipBlanks_eq_nil_iff.2 (hw.of_prefix hp.1))
  rw [skipBlanks_append hw]
  rcases cut_cons_iff.1 hq with rfl | ⟨q', rfl, hq'⟩
  · exact .inl rfl
  · exact .inr ⟨q', skipBlanks_cons hb q', hq'⟩

theorem readText_of_cut {s : String} {body p : List UInt8} (h : Spellings s.toList body)
    (hp : Cut p (body ++ [quote])) : readText p = .error (.damaged .truncated) := by
  simp only [readText, readContents_of_cut h hp]

theorem readTextField_of_cut (field : Field) {s : String} {w v p : List UInt8} (hw : Blanks w)
    (hv : Quoted s v) (hp : Cut p (w ++ v)) :
    readTextField field p = .error (.damaged .truncated) := by
  obtain ⟨body, hbody, rfl⟩ := hv
  rcases skipBlanks_of_cut hw rfl hp with hb | ⟨q, hb, hq⟩
  · simp only [readTextField, hb]
  · simp [readTextField, hb, readText_of_cut hbody hq]

theorem readKey_of_cut {key : String} {w k p : List UInt8} (hw : Blanks w) (hk : Quoted key k)
    (hp : Cut p (w ++ k)) : readKey p = .error (.damaged .truncated) := by
  obtain ⟨body, hbody, rfl⟩ := hk
  rcases skipBlanks_of_cut hw rfl hp with hb | ⟨q, hb, hq⟩
  · simp only [readKey, hb]
  · simp [readKey, hb, readText_of_cut hbody hq]

/-- An integer that is cut is nothing, or an integer that the field admits as well. -/
theorem readIntegerField_of_cut (field : Field) {least greatest z : Int} {w v p : List UInt8}
    (hleast : -(Int64.size / 2 : Nat) ≤ least) (hzero : least ≤ 0 ∧ 0 ≤ greatest)
    (hgreatest : greatest < UInt64.size) (hw : Blanks w) (hv : IntegerLiteral z v)
    (hlow : least ≤ z) (hhigh : z ≤ greatest) (hp : Cut p (w ++ v)) :
    Exhausted (readIntegerField field least greatest p) := by
  have hblank {p : List UInt8} (hp : Blanks p) :
      Exhausted (readIntegerField field least greatest p) := by
    simp only [readIntegerField, skipBlanks_eq_nil_iff.2 hp]
    exact .truncated
  rcases hp.append with hp | ⟨q, rfl, hq⟩
  · exact hblank (hw.of_prefix hp.1)
  rcases hv.of_cut hq with rfl | rfl | ⟨z', hz', hlow', hhigh'⟩
  · rw [List.append_nil]
    exact hblank hw
  · rw [readIntegerField, skipBlanks_append hw]
    exact .truncated
  · have hread := readIntegerField_append field hleast hgreatest hw hz' (by omega) (by omega)
      delimited_nil
    rw [List.append_nil] at hread
    rw [hread]
    exact .shortened z'

/-- A value that is cut is not read into the draft, or a shorter one is. -/
theorem readField_of_cut {draft : Draft} {item : Item} {field : Field} {w v p : List UInt8}
    (hfield : item.field? = some field) (hw : Blanks w) (hv : item.Value v)
    (hp : Cut p (w ++ v)) : Exhausted (draft.readField field p) := by
  cases item with
  | producerId s =>
    cases hfield
    rw [Draft.readField, readProducerId, readTextField_of_cut .producerId hw hv hp]
    exact .truncated
  | messageId n =>
    cases hfield
    have hn := n.toNat_lt_size
    exact ((readIntegerField_of_cut .messageId (by decide) (by decide) (by decide) hw hv
      (by omega) (by omega) hp).mapRead _).mapRead _
  | timestamp t =>
    cases hfield
    exact ((readIntegerField_of_cut .timestamp (by decide) (by decide) (by decide) hw hv
      t.minValue_le_toInt t.toInt_le hp).mapRead _).mapRead _
  | other key => cases hfield

/-! ## Members -/

theorem nextKey_true_of_cut {key : String} {w k p : List UInt8} (hw : Blanks w)
    (hk : Quoted key k) (hp : Cut p (w ++ k)) :
    nextKey true p = .error (.damaged .truncated) := by
  have hkey := readKey_of_cut hw hk hp
  obtain ⟨body, -, rfl⟩ := hk
  rcases skipBlanks_of_cut hw rfl hp with hb | ⟨q, hb, -⟩
  · simp only [nextKey, hb]
  · simp [nextKey, hb, hkey, mapRead, show quote ≠ 0x7D by decide]

theorem nextKey_false_of_cut {key : String} {w0 w k p : List UInt8} (hw0 : Blanks w0)
    (hw : Blanks w) (hk : Quoted key k) (hp : Cut p (w0 ++ 0x2C :: (w ++ k))) :
    nextKey false p = .error (.damaged .truncated) := by
  rcases skipBlanks_of_cut hw0 rfl hp with hb | ⟨q, hb, hq⟩
  · simp only [nextKey, hb]
  · simp [nextKey, hb, readKey_of_cut hw hk hq, mapRead]

theorem readMember_of_cut {draft : Draft} {item : Item} {w1 w2 v p : List UInt8}
    (hfield : item.field?.isSome) (hadmits : draft.Admits item) (hw1 : Blanks w1)
    (hw2 : Blanks w2) (hv : item.Value v) (hp : Cut p (w1 ++ 0x3A :: (w2 ++ v))) :
    Exhausted (readMember draft item.key p) := by
  obtain ⟨field, hfield⟩ := Option.isSome_iff_exists.1 hfield
  have hmember : readMember draft item.key p =
      liftDamage (readColon p) >>= draft.readField field := by
    simp [readMember, named?_key hv, hfield, hadmits field hfield]
  rw [hmember]
  rcases skipBlanks_of_cut hw1 rfl hp with hb | ⟨q, hb, hq⟩
  · simp only [readColon, hb]
    exact .truncated
  · simp only [readColon, hb]
    exact readField_of_cut hfield hw2 hv hq

theorem readMembers_of_error {draft : Draft} {first : Bool} {bytes : List UInt8}
    {fault : ReadFault} (h : nextKey first bytes = .error fault) :
    readMembers draft first bytes = .error fault := by
  rw [readMembers_eq, h]
  rfl

/-- No number that is left of a longer one completes an object: nothing follows it. -/
theorem readMembers_of_exhausted {draft : Draft} {first : Bool} {key : String}
    {bytes after : List UInt8} (h : nextKey first bytes = .ok (some key, after))
    (hm : Exhausted (readMember draft key after)) :
    readMembers draft first bytes = .error (.damaged .truncated) := by
  rw [readMembers_of_key h]
  generalize readMember draft key after = r at hm
  cases hm with
  | truncated => rfl
  | shortened draft' => exact readMembers_of_error rfl

/-- A member and others after it, cut in its key, in its value or behind it. -/
theorem readMembers_of_prefix_member {draft : Draft} {first : Bool} {item : Item}
    {items : List Item} {head w1 w2 v t p : List UInt8}
    (hcut : ∀ {q}, Cut q head → nextKey first q = .error (.damaged .truncated))
    (hkey : ∀ rest, nextKey first (head ++ rest) = .ok (some item.key, rest))
    (hfield : item.field?.isSome) (hadmits : draft.Admits item) (hw1 : Blanks w1)
    (hw2 : Blanks w2) (hv : item.Value v) (ht : Following false items t)
    (hrest : ∀ {q}, q <+: t → readMembers (draft.put item) false q = .error (.damaged .truncated))
    (hp : p <+: head ++ (w1 ++ 0x3A :: (w2 ++ v)) ++ t) :
    readMembers draft first p = .error (.damaged .truncated) := by
  rcases cut_or_of_prefix_append hp with hp | ⟨q, rfl, hq⟩
  · rcases hp.append with hp | ⟨q, rfl, hq⟩
    · exact readMembers_of_error (hcut hp)
    · exact readMembers_of_exhausted (hkey q) (readMember_of_cut hfield hadmits hw1 hw2 hv hq)
  · have hdelimited : Delimited q := by
      have ht' := ht.delimited_append delimited_nil
      rw [List.append_nil] at ht'
      exact ht'.of_prefix hq
    simp only [List.append_assoc, List.cons_append]
    rw [readMembers_of_some (hkey _) (readMember_append hadmits hw1 hw2 hv hdelimited)]
    exact hrest hq

/-- Without the brace that closes it an object never ends, wherever it is cut. -/
theorem readMembers_of_prefix {draft : Draft} {first : Bool} {items : List Item}
    {t p : List UInt8} (h : Following first items t) (hfields : ∀ item ∈ items, item.field?.isSome)
    (haccepts : draft.Accepts items) (hp : p <+: t) :
    readMembers draft first p = .error (.damaged .truncated) := by
  -- The cut is in the first member, or that member is read and the cut is in the others.
  induction h generalizing draft p with
  | none hw =>
    apply readMembers_of_error
    simp only [nextKey, skipBlanks_eq_nil_iff.2 (hw.of_prefix hp)]
  | first hpair ht ih =>
    obtain ⟨hw, hk, hw1, hw2, hv⟩ := hpair
    obtain ⟨hadmits, haccepts⟩ := Draft.accepts_cons_iff.1 haccepts
    obtain ⟨hfield, hfields⟩ := List.forall_mem_cons.1 hfields
    refine readMembers_of_prefix_member (nextKey_true_of_cut hw hk)
      (fun rest => nextKey_true_eq_some_iff.2 ⟨_, _, hw, hk, rfl⟩) hfield hadmits hw1 hw2 hv ht
      (ih hfields haccepts) ?_
    simpa only [List.append_assoc] using hp
  | next hw0 hpair ht ih =>
    obtain ⟨hw, hk, hw1, hw2, hv⟩ := hpair
    obtain ⟨hadmits, haccepts⟩ := Draft.accepts_cons_iff.1 haccepts
    obtain ⟨hfield, hfields⟩ := List.forall_mem_cons.1 hfields
    refine readMembers_of_prefix_member (nextKey_false_of_cut hw0 hw hk)
      (fun rest => nextKey_false_eq_some_iff.2 ⟨_, _, _, hw0, hw, hk, by simp⟩) hfield hadmits
      hw1 hw2 hv ht (ih hfields haccepts) ?_
    simpa only [List.append_assoc, List.cons_append] using hp

/-! ## Payloads -/

theorem accepts_items (m : Message) : Draft.empty.Accepts m.items :=
  Draft.accepts_empty (by simp [Message.items, Item.field?])

/-- A payload that is cut is truncated, and a payload with more after it is read as the message if
nothing but blanks follows, and is malformed otherwise. -/
theorem ofPayload_payload_cut_or_extended (m : Message) :
    (∀ p, p <+: m.payload → p ≠ m.payload → ofPayload p = .error (.damaged .truncated)) ∧
    ∀ q, (Blanks q → ofPayload (m.payload ++ q) = .ok m) ∧
      (¬Blanks q → ofPayload (m.payload ++ q) = .error (.damaged .malformed)) := by
  obtain ⟨ms, hms, hpayload⟩ := m.exists_members_payload
  rw [hpayload]
  constructor
  · intro p hcut hne
    -- The brace that closes the payload is missing from every prefix.
    have hread : readMessage p = .error (.damaged .truncated) := by
      rcases cut_cons_iff.1 ⟨hcut, hne⟩ with rfl | ⟨q, rfl, hq⟩
      · rfl
      have hq' : q <+: ms := (List.prefix_concat_iff.1 hq.1).resolve_left hq.2
      rw [← List.nil_append (0x7B :: q), readMessage_brace blanks_nil]
      exact readMembers_of_prefix hms.following (by simp [Message.items, Item.field?])
        m.accepts_items hq'
    rw [ofPayload, hread]
  · intro q
    have hread : readMessage (0x7B :: (ms ++ [0x7D]) ++ q) = .ok (m, q) := by
      rw [← List.nil_append (0x7B :: (ms ++ [0x7D])), List.append_assoc, List.cons_append,
        readMessage_brace blanks_nil, List.append_assoc]
      exact readMembers_append hms.following q
        (by simp [Message.items, Item.field?, Draft.items_empty])
    simp only [ofPayload, hread]
    exact ⟨fun hq => if_pos (skipBlanks_eq_nil_iff.2 hq),
      fun hq => if_neg (mt skipBlanks_eq_nil_iff.1 hq)⟩

/-- A payload that is cut between the two bytes of its `é`, one with a line feed behind it, and one
with a brace too many. -/
theorem ofPayload_payload_cut_or_extended_accented :
    let m : Message := ⟨"é", 10, -3⟩
    ofPayload (m.payload.take 16) = .error (.damaged .truncated) ∧
      ofPayload (m.payload ++ [0x0A]) = .ok m ∧
      ofPayload (m.payload ++ [0x7D]) = .error (.damaged .malformed) := by
  intro m
  obtain ⟨hcut, hextended⟩ := ofPayload_payload_cut_or_extended m
  refine ⟨hcut _ (List.take_prefix 16 _) ?_, (hextended _).1 ?_, (hextended _).2 ?_⟩
  · decide +kernel
  · simp [Blanks, isBlank]
  · simp [Blanks, isBlank]

end KafkaCanary.Message
