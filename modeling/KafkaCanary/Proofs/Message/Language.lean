import KafkaCanary.Proofs.Message.Fields

/-!
# The language of messages

The bytes that are read as a message are the documents of that message. A run of the reader of an
object, from any draft, accepts the members that make up, together with the draft, the members of a
message.

## Main results

* `readMembers_following_append`: members are put into the draft, whatever comes after them;
* `exists_of_readMembers`, `readMembers_append`: the members of an object, from any draft;
* `exists_of_readElements`, `readElements_append`: the elements of a list;
* `ofPayload_eq_ok_iff`: bytes are read as a message iff they are a document of it.
-/

namespace KafkaCanary.Message

open Json

/-! ## Objects -/

/-- There is no next key iff the map ends. -/
theorem nextKey_eq_none_iff {first : Bool} {bytes rest : List UInt8} :
    nextKey first bytes = .ok (none, rest) ↔ ∃ w, Blanks w ∧ bytes = w ++ 0x7D :: rest := by
  constructor
  · intro h
    rw [nextKey] at h
    split at h
    · cases h
    · next b after hb =>
      split at h
      · next hclose =>
        cases h
        rw [eq_of_beq hclose] at hb
        exact (skipBlanks_eq_cons_iff.1 hb).2
      split at h
      · obtain ⟨_, -, heq⟩ := mapRead_eq_ok_iff.1 h
        cases heq
      split at h
      · obtain ⟨_, -, heq⟩ := mapRead_eq_ok_iff.1 h
        cases heq
      · cases h
  · rintro ⟨w, hw, rfl⟩
    rw [nextKey, skipBlanks_append hw, skipBlanks_cons rfl]
    rfl

/-- The first key of an object. -/
theorem nextKey_true_eq_some_iff {bytes rest : List UInt8} {key : String} :
    nextKey true bytes = .ok (some key, rest) ↔
      ∃ w k, Blanks w ∧ Quoted key k ∧ bytes = w ++ k ++ rest := by
  rw [← readKey_eq_ok_iff]
  constructor
  · intro h
    rw [nextKey] at h
    split at h
    · cases h
    split at h
    · cases h
    · obtain ⟨_, hkey, heq⟩ := mapRead_eq_ok_iff.1 h
      cases heq
      exact hkey
  · intro h
    obtain ⟨w, _, hw, ⟨body, -, rfl⟩, rfl⟩ := readKey_eq_ok_iff.1 h
    have hb : skipBlanks (w ++ quote :: (body ++ [quote]) ++ rest) =
        quote :: (body ++ [quote] ++ rest) := by
      rw [List.append_assoc, skipBlanks_append hw, List.cons_append, skipBlanks_cons rfl]
    simp only [nextKey, hb, h]
    rfl

/-- Every other key of an object. -/
theorem nextKey_false_eq_some_iff {bytes rest : List UInt8} {key : String} :
    nextKey false bytes = .ok (some key, rest) ↔ ∃ w w1 k, Blanks w ∧ Blanks w1 ∧ Quoted key k ∧
      bytes = w ++ 0x2C :: (w1 ++ k ++ rest) := by
  constructor
  · intro h
    rw [nextKey] at h
    split at h
    · cases h
    · next b after hb =>
      split at h
      · cases h
      rw [if_neg Bool.false_ne_true] at h
      split at h
      · next hcomma =>
        rw [eq_of_beq hcomma] at hb
        obtain ⟨-, w, hw, rfl⟩ := skipBlanks_eq_cons_iff.1 hb
        obtain ⟨_, hkey, heq⟩ := mapRead_eq_ok_iff.1 h
        cases heq
        obtain ⟨w1, k, hw1, hk, rfl⟩ := readKey_eq_ok_iff.1 hkey
        exact ⟨w, w1, k, hw, hw1, hk, rfl⟩
      · cases h
  · rintro ⟨w, w1, k, hw, hw1, hk, rfl⟩
    have hkey : readKey (w1 ++ k ++ rest) = .ok (key, rest) :=
      readKey_eq_ok_iff.2 ⟨w1, k, hw1, hk, rfl⟩
    rw [nextKey, skipBlanks_append hw, skipBlanks_cons rfl]
    simp only [hkey]
    rfl

/-- Blanks make no difference where a key is looked for. -/
theorem nextKey_blanks_append (first : Bool) {w : List UInt8} (hw : Blanks w)
    (rest : List UInt8) : nextKey first (w ++ rest) = nextKey first rest := by
  simp only [nextKey, readKey, skipBlanks_append hw]

/-- The reader of an object as one step, without the proof that it ends. -/
theorem readMembers_eq (draft : Draft) (first : Bool) (bytes : List UInt8) :
    readMembers draft first bytes = nextKey first bytes >>= fun
      | (none, rest) => draft.finish.map fun m => (m, rest)
      | (some key, rest) =>
        readMember draft key rest >>= fun (draft, rest) => readMembers draft false rest := by
  rw [readMembers]
  split
  · next h => rw [h]; rfl
  · next h => rw [h]; rfl
  · next h =>
    rw [h]
    split
    · next hm => simp [bind, Except.bind, hm]
    · next hm => simp [bind, Except.bind, hm]

/-- Without a next key the draft is finished. -/
theorem readMembers_of_none {draft : Draft} {first : Bool} {bytes rest : List UInt8}
    (h : nextKey first bytes = .ok (none, rest)) :
    readMembers draft first bytes = draft.finish.map fun m => (m, rest) := by
  rw [readMembers_eq, h]
  rfl

/-- At its closing brace an object is all that the draft has. -/
theorem readMembers_brace (draft : Draft) (first : Bool) (rest : List UInt8) :
    readMembers draft first (0x7D :: rest) = draft.finish.map fun m => (m, rest) :=
  readMembers_of_none (nextKey_eq_none_iff.2 ⟨[], blanks_nil, rfl⟩)

/-- After a key come its colon and value, and then the members that follow. -/
theorem readMembers_of_key {draft : Draft} {first : Bool} {key : String}
    {bytes after : List UInt8} (h : nextKey first bytes = .ok (some key, after)) :
    readMembers draft first bytes =
      readMember draft key after >>= fun (draft, rest) => readMembers draft false rest := by
  rw [readMembers_eq, h]
  rfl

/-- A member is put into the draft, and the others are read from there. -/
theorem readMembers_of_some {draft draft' : Draft} {first : Bool} {key : String}
    {bytes after rest : List UInt8} (h : nextKey first bytes = .ok (some key, after))
    (hm : readMember draft key after = .ok (draft', rest)) :
    readMembers draft first bytes = readMembers draft' false rest := by
  rw [readMembers_of_key h, hm]
  rfl

/-- What stands before the closing brace of an object, from its beginning (`first`) or from the end
of a value. -/
inductive Following : (first : Bool) → List Item → List UInt8 → Prop
  /-- No member. -/
  | none {first : Bool} {w : List UInt8} : Blanks w → Following first [] w
  /-- The first member. -/
  | first {item : Item} {items : List Item} {p t : List UInt8} : Pair item p →
      Following false items t → Following true (item :: items) (p ++ t)
  /-- Another member. -/
  | next {item : Item} {items : List Item} {w p t : List UInt8} : Blanks w → Pair item p →
      Following false items t → Following false (item :: items) (w ++ 0x2C :: (p ++ t))

/-- What follows a member delimits its value. -/
theorem Following.delimited_append {items : List Item} {t rest : List UInt8}
    (h : Following false items t) (hrest : Delimited rest) : Delimited (t ++ rest) := by
  cases h with
  | none hw => exact .append hw hrest
  | next hw _ _ =>
    rw [List.append_assoc]
    exact .append hw (delimited_cons (by simp) _)

/-- A member and what follows it. -/
theorem Following.members {item : Item} {items : List Item} {p t : List UInt8} (hp : Pair item p)
    (h : Following false items t) : Members (item :: items) (p ++ t) := by
  generalize hf : false = first at h
  induction h generalizing item p with
  | none hw => exact .last hp hw
  | first => cases hf
  | next hw hp' ht ih =>
    rw [← List.append_assoc]
    exact .more hp hw (ih hp' hf)

/-- Members by the grammar stand between the braces of an object. -/
theorem Members.following {items : List Item} {ms : List UInt8} (h : Members items ms) :
    Following true items ms := by
  induction h with
  | last hp hw => exact .first hp (.none hw)
  | more hp hw hms ih =>
    rw [List.append_assoc]
    refine .first hp ?_
    cases ih with
    | none => cases hms
    | first hp' ht => exact .next hw hp' ht

/-- What the reader of an object accepts from a draft: members that complete it. -/
theorem exists_of_readMembers {draft : Draft} {first : Bool} {bytes rest : List UInt8}
    {m : Message} (h : readMembers draft first bytes = .ok (m, rest)) :
    ∃ items t, Following first items t ∧ bytes = t ++ 0x7D :: rest ∧
      (items.filter (·.field?.isSome) ++ draft.items).Perm m.items := by
  fun_induction readMembers draft first bytes with
  | case1 => cases h
  | case2 draft first bytes after hkey =>
    obtain ⟨m', hfinish, heq⟩ := map_eq_ok_iff.1 h
    cases heq
    obtain ⟨w, hw, rfl⟩ := nextKey_eq_none_iff.1 hkey
    refine ⟨[], w, .none hw, rfl, ?_⟩
    rw [List.filter_nil, List.nil_append, Draft.items_of_finish hfinish]
  | case3 => cases h
  | case4 draft first bytes key after hkey draft' after' hmember ih =>
    -- The members that follow complete the draft with this one, so together they complete it.
    obtain ⟨items, t, ht, rfl, hperm⟩ := ih h
    obtain ⟨item, w1, w2, v, rfl, hadmits, hw1, hw2, hv, rfl, rfl⟩ := exists_of_readMember hmember
    have hperm' := (Draft.filter_cons_perm_put hadmits items).trans hperm
    cases first with
    | true =>
      obtain ⟨w, k, hw, hk, rfl⟩ := nextKey_true_eq_some_iff.1 hkey
      exact ⟨_, _, .first (.mk hw hk hw1 hw2 hv) ht, by simp, hperm'⟩
    | false =>
      obtain ⟨w0, w, k, hw0, hw, hk, rfl⟩ := nextKey_false_eq_some_iff.1 hkey
      exact ⟨_, _, .next hw0 (.mk hw hk hw1 hw2 hv) ht, by simp, hperm'⟩

/-- Members that a draft accepts are put into it, whatever comes after them. -/
theorem readMembers_following_append {draft : Draft} {first : Bool} {items : List Item}
    {t rest : List UInt8} (h : Following first items t) (haccepts : draft.Accepts items)
    (hrest : Delimited rest) : readMembers draft first (t ++ rest) =
      readMembers (items.foldl Draft.put draft) (first && items.isEmpty) rest := by
  -- The draft changes with every member, and what is left to accept changes with it.
  induction h generalizing draft with
  | @none first w hw =>
    rw [readMembers_eq, nextKey_blanks_append first hw, ← readMembers_eq]
    simp
  | first hp ht ih =>
    obtain ⟨hw, hk, hw1, hw2, hv⟩ := hp
    obtain ⟨hadmits, haccepts⟩ := Draft.accepts_cons_iff.1 haccepts
    simp only [List.append_assoc, List.cons_append]
    rw [readMembers_of_some
      (nextKey_true_eq_some_iff.2 ⟨_, _, hw, hk, (List.append_assoc ..).symm⟩)
      (readMember_append hadmits hw1 hw2 hv (ht.delimited_append hrest))]
    simpa using ih haccepts
  | next hw0 hp ht ih =>
    obtain ⟨hw, hk, hw1, hw2, hv⟩ := hp
    obtain ⟨hadmits, haccepts⟩ := Draft.accepts_cons_iff.1 haccepts
    simp only [List.append_assoc, List.cons_append]
    rw [readMembers_of_some
      (nextKey_false_eq_some_iff.2 ⟨_, _, _, hw0, hw, hk, by rw [List.append_assoc]⟩)
      (readMember_append hadmits hw1 hw2 hv (ht.delimited_append hrest))]
    simpa using ih haccepts

/-- Members that complete a draft are read. -/
theorem readMembers_append {draft : Draft} {first : Bool} {items : List Item} {t : List UInt8}
    {m : Message} (h : Following first items t) (rest : List UInt8)
    (hperm : (items.filter (·.field?.isSome) ++ draft.items).Perm m.items) :
    readMembers draft first (t ++ 0x7D :: rest) = .ok (m, rest) := by
  have haccepts := Draft.accepts_of_perm hperm
  rw [readMembers_following_append h haccepts (delimited_cons (by simp) rest),
    readMembers_brace, Draft.finish_of_perm ((Draft.items_foldl_put haccepts).trans hperm)]
  rfl

/-! ## Lists -/

/-- The first value of a list begins where the list does. -/
theorem blanks_of_nextElement_zero {bytes after : List UInt8}
    (h : nextElement 0 bytes = .ok after) : ∃ w, Blanks w ∧ bytes = w ++ after := by
  rw [nextElement] at h
  split at h
  · cases h
  · next b rest hb =>
    split at h
    · cases h
    · cases h
      exact (skipBlanks_eq_cons_iff.1 hb).2

/-- The first element needs no comma. -/
theorem nextElement_zero_append {w rest : List UInt8} {b : UInt8} (hw : Blanks w)
    (hb : isBlank b = false) (hclose : b ≠ 0x5D) :
    nextElement 0 (w ++ b :: rest) = .ok (b :: rest) := by
  rw [nextElement, skipBlanks_append hw, skipBlanks_cons hb]
  simp [hclose]

/-- Every other value stands after a comma. -/
theorem blanks_of_nextElement_succ {n : Nat} {bytes after : List UInt8}
    (h : nextElement (n + 1) bytes = .ok after) :
    ∃ w w1, Blanks w ∧ Blanks w1 ∧ bytes = w ++ 0x2C :: (w1 ++ after) := by
  rw [nextElement] at h
  split at h
  · cases h
  · next b rest hb =>
    split at h
    · cases h
    rw [if_neg (Nat.succ_ne_zero n)] at h
    split at h
    · next hcomma =>
      rw [eq_of_beq hcomma] at hb
      obtain ⟨-, w, hw, rfl⟩ := skipBlanks_eq_cons_iff.1 hb
      split at h
      · cases h
      · next c rest' hc =>
        split at h
        · cases h
        · cases h
          obtain ⟨-, w1, hw1, rfl⟩ := skipBlanks_eq_cons_iff.1 hc
          exact ⟨w, w1, hw, hw1, rfl⟩
    · cases h

/-- Every further element needs a comma. -/
theorem nextElement_succ_append {n : Nat} {w w1 rest : List UInt8} {b : UInt8} (hw : Blanks w)
    (hw1 : Blanks w1) (hb : isBlank b = false) (hclose : b ≠ 0x5D) :
    nextElement (n + 1) (w ++ 0x2C :: (w1 ++ b :: rest)) = .ok (b :: rest) := by
  rw [nextElement, skipBlanks_append hw, skipBlanks_cons rfl]
  simp [skipBlanks_append hw1, skipBlanks_cons hb, hclose]

/-- What the reader of a list accepts: the three values. -/
theorem exists_of_readElements {bytes rest : List UInt8} {m : Message}
    (h : readElements bytes = .ok (m, rest)) :
    ∃ es, Elements m es ∧ bytes = es ++ 0x5D :: rest := by
  obtain ⟨⟨s, b1⟩, h1, hrest1⟩ := bind_eq_ok_iff.1 h
  obtain ⟨⟨n, b2⟩, h2, hrest2⟩ := bind_eq_ok_iff.1 hrest1
  obtain ⟨⟨t, b3⟩, h3, hrest3⟩ := bind_eq_ok_iff.1 hrest2
  obtain ⟨a1, hn1, hr1⟩ := bind_eq_ok_iff.1 h1
  obtain ⟨a2, hn2, hr2⟩ := bind_eq_ok_iff.1 h2
  obtain ⟨a3, hn3, hr3⟩ := bind_eq_ok_iff.1 h3
  obtain ⟨w1, hw1, rfl⟩ := blanks_of_nextElement_zero hn1
  obtain ⟨w1', v1, hw1', hv1, rfl⟩ := readTextField_eq_ok_iff.1 hr1
  obtain ⟨w2, w3, hw2, hw3, rfl⟩ := blanks_of_nextElement_succ hn2
  obtain ⟨w3', v2, hw3', hv2, rfl⟩ := exists_of_readMessageId hr2
  obtain ⟨w4, w5, hw4, hw5, rfl⟩ := blanks_of_nextElement_succ hn3
  obtain ⟨w5', v3, hw5', hv3, rfl⟩ := exists_of_readTimestamp hr3
  dsimp only at hrest3
  split at hrest3
  · cases hrest3
  · next b after hb =>
    split at hrest3
    · next hclose =>
      cases hrest3
      rw [eq_of_beq hclose] at hb
      obtain ⟨-, w6, hw6, rfl⟩ := skipBlanks_eq_cons_iff.1 hb
      exact ⟨_, .mk (hw1.append hw1') hv1 hw2 (hw3.append hw3') hv2 hw4 (hw5.append hw5') hv3 hw6,
        by simp⟩
    · cases hrest3

/-- The first element is the id of the producer. -/
theorem readFirst_append {s : String} {w v : List UInt8} (hw : Blanks w) (hv : Quoted s v)
    (rest : List UInt8) : nextElement 0 (w ++ (v ++ rest)) >>= readProducerId = .ok (s, rest) := by
  have hs : readProducerId (v ++ rest) = .ok (s, rest) :=
    readTextField_eq_ok_iff.2 ⟨[], v, blanks_nil, hv, rfl⟩
  obtain ⟨body, -, rfl⟩ := hv
  rw [List.cons_append, nextElement_zero_append hw rfl (by decide)]
  exact hs

/-- An integer after a comma is where the next element begins. -/
theorem nextElement_succ_integer {n : Nat} {z : Int} {w w1 v : List UInt8} (hw : Blanks w)
    (hw1 : Blanks w1) (hv : IntegerLiteral z v) (rest : List UInt8) :
    nextElement (n + 1) (w ++ 0x2C :: (w1 ++ (v ++ rest))) = .ok (v ++ rest) := by
  obtain ⟨b, t, rfl, hb⟩ := hv.number.exists_cons
  obtain ⟨hblank, -, -, hclose, -⟩ := head_number_ne hb
  exact nextElement_succ_append hw hw1 hblank hclose

/-- The second element is the id of the message. -/
theorem readSecond_append {n : UInt64} {w w1 v rest : List UInt8} (hw : Blanks w)
    (hw1 : Blanks w1) (hv : IntegerLiteral n.toNat v) (hrest : Delimited rest) :
    nextElement 1 (w ++ 0x2C :: (w1 ++ (v ++ rest))) >>= readMessageId = .ok (n, rest) := by
  rw [nextElement_succ_integer hw hw1 hv]
  exact @readMessageId_append n [] v rest blanks_nil hv hrest

/-- The third element is the time. -/
theorem readThird_append {t : Int64} {w w1 v rest : List UInt8} (hw : Blanks w)
    (hw1 : Blanks w1) (hv : IntegerLiteral t.toInt v) (hrest : Delimited rest) :
    nextElement 2 (w ++ 0x2C :: (w1 ++ (v ++ rest))) >>= readTimestamp = .ok (t, rest) := by
  rw [nextElement_succ_integer hw hw1 hv]
  exact @readTimestamp_append t [] v rest blanks_nil hv hrest

/-- The three values of a message are read. -/
theorem readElements_append {m : Message} {es : List UInt8} (h : Elements m es)
    (rest : List UInt8) : readElements (es ++ 0x5D :: rest) = .ok (m, rest) := by
  cases h with
  | @mk w1 v1 w2 w3 v2 w4 w5 v3 w6 hw1 hv1 hw2 hw3 hv2 hw4 hw5 hv3 hw6 =>
    -- A number ends at the comma or the bracket after it, or at a blank before that.
    have hd3 : Delimited (w6 ++ 0x5D :: rest) := .append hw6 (delimited_cons (by simp) _)
    have hd2 : Delimited (w4 ++ 0x2C :: (w5 ++ (v3 ++ (w6 ++ 0x5D :: rest)))) :=
      .append hw4 (delimited_cons (by simp) _)
    simp only [List.append_assoc, List.cons_append]
    rw [readElements, readFirst_append hw1 hv1]
    refine bind_eq_ok_iff.2 ⟨_, rfl, ?_⟩
    refine bind_eq_ok_iff.2 ⟨_, readSecond_append hw2 hw3 hv2 hd2, ?_⟩
    refine bind_eq_ok_iff.2 ⟨_, readThird_append hw4 hw5 hv3 hd3, ?_⟩
    dsimp only
    rw [skipBlanks_append hw6, skipBlanks_cons rfl]
    rfl

/-! ## Documents are what is read -/

/-- A message that begins with a brace is read as an object. -/
theorem readMessage_brace {w : List UInt8} (hw : Blanks w) (bytes : List UInt8) :
    readMessage (w ++ 0x7B :: bytes) = readMembers .empty true bytes := by
  rw [readMessage, skipBlanks_append hw, skipBlanks_cons rfl]
  rfl

/-- Every document of a message is read as the message. -/
theorem ofPayload_of_document {m : Message} {bytes : List UInt8} (h : Document m bytes) :
    ofPayload bytes = .ok m := by
  cases h with
  | @list w es w' hw hes hw' =>
    have hread : readMessage (w ++ 0x5B :: (es ++ 0x5D :: w')) = .ok (m, w') := by
      rw [readMessage, skipBlanks_append hw, skipBlanks_cons rfl]
      exact readElements_append hes w'
    simp only [ofPayload, hread, skipBlanks_eq_nil_iff.2 hw', if_true]
  | @object w ms w' items hw hms hperm hw' =>
    have hread : readMessage (w ++ 0x7B :: (ms ++ 0x7D :: w')) = .ok (m, w') := by
      rw [readMessage_brace hw]
      refine readMembers_append hms.following w' ?_
      rwa [Draft.items_empty, List.append_nil]
    simp only [ofPayload, hread, skipBlanks_eq_nil_iff.2 hw', if_true]

/-- Whatever is read as a message is a document of it. -/
theorem document_of_ofPayload {m : Message} {bytes : List UInt8} (h : ofPayload bytes = .ok m) :
    Document m bytes := by
  rw [ofPayload] at h
  split at h
  · cases h
  · next m' rest hread =>
    split at h
    · next hw' =>
      cases h
      rw [skipBlanks_eq_nil_iff] at hw'
      rw [readMessage] at hread
      split at hread
      · cases hread
      · next b after hb =>
        obtain ⟨-, w, hw, rfl⟩ := skipBlanks_eq_cons_iff.1 hb
        split at hread
        · next hlist =>
          obtain ⟨es, hes, rfl⟩ := exists_of_readElements hread
          rw [eq_of_beq hlist]
          exact .list hw hes hw'
        split at hread
        · next hmap =>
          obtain ⟨items, ms, hms, rfl, hperm⟩ := exists_of_readMembers hread
          rw [Draft.items_empty, List.append_nil] at hperm
          rw [eq_of_beq hmap]
          -- An object without members has no fields.
          cases hms with
          | none => exact absurd hperm.length_eq (by simp [Message.items])
          | first hp ht => exact .object hw (ht.members hp) hperm hw'
        · cases hread
    · cases h

/-- The bytes that are read as a message are its documents. -/
theorem ofPayload_eq_ok_iff {m : Message} {bytes : List UInt8} :
    ofPayload bytes = .ok m ↔ Document m bytes :=
  ⟨document_of_ofPayload, ofPayload_of_document⟩

end KafkaCanary.Message
