import KafkaCanary.Json.Skip
import KafkaCanary.Proofs.Json.Numerals
import KafkaCanary.Proofs.Json.Strings

/-!
# Skipping values

The reader that skips values against the grammar. The reader keeps the enclosures that are still
open on a stack, so what it accepts after a value is described by that stack (`Closes`): for every
open enclosure the values that follow in it, and the byte that closes it.

## Main results

* `skipBlanks_eq_cons_iff`, `readColon_eq_ok_iff`, `skipKey_eq_ok_iff`: the parts between values;
* `exists_of_skipWithin_and_skipClosing`: what is skipped is a value of the grammar and what closes
  the enclosures;
* `Derives.passes`: a value of the grammar is skipped, whatever encloses it;
* `derives_of_skipValue`, `skipValue_append`: both for a value that nothing encloses.
-/

namespace KafkaCanary.Json

/-! ## Blanks, colons and words -/

/-- Nothing is blank. -/
theorem blanks_nil : Blanks [] :=
  nofun

/-- Blanks after blanks are blanks. -/
theorem Blanks.append {w w' : List UInt8} (hw : Blanks w) (hw' : Blanks w') : Blanks (w ++ w') :=
  fun b hb => (List.mem_append.1 hb).elim (hw b) (hw' b)

/-- Blanks in front make no difference. -/
theorem skipBlanks_append {w : List UInt8} (hw : Blanks w) (bytes : List UInt8) :
    skipBlanks (w ++ bytes) = skipBlanks bytes :=
  List.dropWhile_append_of_pos hw

/-- A byte that is not blank is where skipping ends. -/
theorem skipBlanks_cons {b : UInt8} (hb : isBlank b = false) (rest : List UInt8) :
    skipBlanks (b :: rest) = b :: rest := by
  simp [skipBlanks, hb]

/-- The blanks that bytes begin with. -/
theorem exists_blanks_append_skipBlanks (bytes : List UInt8) :
    ∃ w, Blanks w ∧ bytes = w ++ skipBlanks bytes :=
  ⟨bytes.takeWhile isBlank, List.all_eq_true.1 List.all_takeWhile,
    List.takeWhile_append_dropWhile.symm⟩

/-- Bytes other than blanks begin with `b` iff `b` is no blank and only blanks stand before it. -/
theorem skipBlanks_eq_cons_iff {bytes rest : List UInt8} {b : UInt8} :
    skipBlanks bytes = b :: rest ↔
      isBlank b = false ∧ ∃ w, Blanks w ∧ bytes = w ++ b :: rest := by
  constructor
  · intro h
    obtain ⟨w, hw, hbytes⟩ := exists_blanks_append_skipBlanks bytes
    refine ⟨?_, w, hw, h ▸ hbytes⟩
    have hhead := List.head?_dropWhile_not isBlank bytes
    rw [← skipBlanks, h] at hhead
    simpa using hhead
  · rintro ⟨hb, w, hw, rfl⟩
    rw [skipBlanks_append hw, skipBlanks_cons hb]

/-- Only blanks leave nothing. -/
theorem skipBlanks_eq_nil_iff {bytes : List UInt8} : skipBlanks bytes = [] ↔ Blanks bytes := by
  constructor
  · intro h
    obtain ⟨w, hw, hbytes⟩ := exists_blanks_append_skipBlanks bytes
    rw [h, List.append_nil] at hbytes
    exact hbytes ▸ hw
  · intro h
    simpa [skipBlanks] using skipBlanks_append h []

/-- A word is read where it stands, whole. -/
theorem readWord_eq_ok_iff {word bytes rest : List UInt8} :
    readWord word bytes = .ok rest ↔ bytes = word ++ rest := by
  fun_induction readWord word bytes with
  | case1 bytes => simp
  | case2 => simp
  | case3 w word b bytes hb ih => simp [ih, eq_of_beq hb]
  | case4 w word b bytes hb => simpa using fun h => absurd h (by simpa using hb)

/-- A colon is read after any blanks. -/
theorem readColon_eq_ok_iff {bytes rest : List UInt8} :
    readColon bytes = .ok rest ↔ ∃ w, Blanks w ∧ bytes = w ++ 0x3A :: rest := by
  constructor
  · intro h
    rw [readColon] at h
    split at h
    · cases h
    · next b after hb =>
      split at h
      · next hcolon =>
        cases h
        rw [eq_of_beq hcolon] at hb
        exact (skipBlanks_eq_cons_iff.1 hb).2
      · cases h
  · rintro ⟨w, hw, rfl⟩
    rw [readColon, skipBlanks_append hw, skipBlanks_cons rfl]
    rfl

/-- A key that nobody reads, with the blanks around it and its colon. -/
theorem skipKey_eq_ok_iff {bytes rest : List UInt8} :
    skipKey bytes = .ok rest ↔ ∃ w k w1, Blanks w ∧ Loose k ∧ Blanks w1 ∧
      bytes = w ++ k ++ w1 ++ 0x3A :: rest := by
  constructor
  · intro h
    rw [skipKey] at h
    split at h
    · cases h
    · next b after hb =>
      split at h
      · next hquote =>
        rw [eq_of_beq hquote] at hb
        obtain ⟨-, w, hw, rfl⟩ := skipBlanks_eq_cons_iff.1 hb
        obtain ⟨after', hk, hcolon⟩ := bind_eq_ok_iff.1 h
        obtain ⟨body, hbody, rfl⟩ := skipContents_eq_ok_iff.1 hk
        obtain ⟨w1, hw1, rfl⟩ := readColon_eq_ok_iff.1 hcolon
        exact ⟨w, _, w1, hw, ⟨body, hbody, rfl⟩, hw1, by simp⟩
      · cases h
  · rintro ⟨w, k, w1, hw, ⟨body, hbody, rfl⟩, hw1, rfl⟩
    have hk : skipContents (body ++ quote :: (w1 ++ 0x3A :: rest)) = .ok (w1 ++ 0x3A :: rest) :=
      skipContents_eq_ok_iff.2 ⟨body, hbody, rfl⟩
    have hcolon : readColon (w1 ++ 0x3A :: rest) = .ok rest := readColon_eq_ok_iff.2 ⟨w1, hw1, rfl⟩
    simp only [List.append_assoc, List.cons_append, List.nil_append]
    rw [skipKey, skipBlanks_append hw, skipBlanks_cons rfl]
    simp [hk, hcolon, bind, Except.bind]

/-! ## One step of the stack -/

/-- How a value is skipped, by the byte that it begins with. -/
theorem skipWithin_eq (enclosures : List Enclosure) (bytes : List UInt8) :
    skipWithin enclosures bytes = match skipBlanks bytes with
      | [] => .error .truncated
      | b :: rest =>
        if b = 0x5B then
          match skipBlanks rest with
          | [] => .error .truncated
          | c :: after =>
            if c = 0x5D then skipClosing enclosures after
            else skipWithin (.sequence :: enclosures) rest
        else if b = 0x7B then
          match skipBlanks rest with
          | [] => .error .truncated
          | c :: after =>
            if c = 0x7D then skipClosing enclosures after
            else skipKey rest >>= skipWithin (.map :: enclosures)
        else skipScalar b rest >>= skipClosing enclosures := by
  rw [skipWithin.eq_def]
  simp only [beq_iff_eq]
  split
  · simp [*]
  · next b rest hb =>
    simp only [hb]
    by_cases hlist : b = 0x5B
    · rw [if_pos hlist, if_pos hlist]
      split <;> simp [*]
    rw [if_neg hlist, if_neg hlist]
    by_cases hmap : b = 0x7B
    · rw [if_pos hmap, if_pos hmap]
      split
      · simp [*]
      · next hr =>
        simp only [hr]
        congr 1
        split <;> simp [*, bind, Except.bind]
    · rw [if_neg hmap, if_neg hmap]
      split <;> simp [*, bind, Except.bind]

/-- How an enclosure goes on after a value, by its kind and by the byte that follows. -/
theorem skipClosing_cons (enclosure : Enclosure) (outer : List Enclosure) (bytes : List UInt8) :
    skipClosing (enclosure :: outer) bytes = match skipBlanks bytes with
      | [] => .error .truncated
      | b :: rest =>
        match enclosure with
        | .sequence =>
          if b = 0x5D then skipClosing outer rest
          else if b = 0x2C then skipWithin (.sequence :: outer) rest
          else .error .malformed
        | .map =>
          if b = 0x7D then skipClosing outer rest
          else if b = 0x2C then skipKey rest >>= skipWithin (.map :: outer)
          else .error .malformed := by
  rw [skipClosing.eq_def]
  simp only [beq_iff_eq]
  split
  · simp [*]
  · next b rest hb =>
    simp only [hb]
    cases enclosure with
    | sequence => rfl
    | map =>
      dsimp only
      congr 2
      split <;> simp [*, bind, Except.bind]

/-- Outside every enclosure there is nothing to close. -/
theorem skipClosing_nil (bytes : List UInt8) : skipClosing [] bytes = .ok bytes := by
  rw [skipClosing.eq_def]

section Steps

variable {enclosures outer : List Enclosure} {bytes rest after : List UInt8} {b c : UInt8}

/-- A value that opens no enclosure is skipped at once. -/
theorem skipWithin_scalar (h : skipBlanks bytes = b :: rest) (hlist : b ≠ 0x5B)
    (hmap : b ≠ 0x7B) :
    skipWithin enclosures bytes = skipScalar b rest >>= skipClosing enclosures := by
  rw [skipWithin_eq]
  simp only [h, if_neg hlist, if_neg hmap]

/-- An empty list is a value that is over. -/
theorem skipWithin_emptyList (h : skipBlanks bytes = 0x5B :: rest)
    (hr : skipBlanks rest = 0x5D :: after) :
    skipWithin enclosures bytes = skipClosing enclosures after := by
  rw [skipWithin_eq]
  simp only [h, hr, if_true]

/-- The first element of a list stands within the list. -/
theorem skipWithin_list (h : skipBlanks bytes = 0x5B :: rest) (hr : skipBlanks rest = c :: after)
    (hc : c ≠ 0x5D) :
    skipWithin enclosures bytes = skipWithin (.sequence :: enclosures) rest := by
  rw [skipWithin_eq]
  simp only [h, hr, if_true, if_neg hc]

/-- An empty map is a value that is over. -/
theorem skipWithin_emptyMap (h : skipBlanks bytes = 0x7B :: rest)
    (hr : skipBlanks rest = 0x7D :: after) :
    skipWithin enclosures bytes = skipClosing enclosures after := by
  rw [skipWithin_eq]
  simp [h, hr]

/-- The first value of a map stands within the map, after its key. -/
theorem skipWithin_map (h : skipBlanks bytes = 0x7B :: rest) (hr : skipBlanks rest = c :: after)
    (hc : c ≠ 0x7D) :
    skipWithin enclosures bytes = skipKey rest >>= skipWithin (.map :: enclosures) := by
  rw [skipWithin_eq]
  simp [h, hr, hc]

/-- A list ends with its bracket. -/
theorem skipClosing_endList (h : skipBlanks bytes = 0x5D :: rest) :
    skipClosing (.sequence :: outer) bytes = skipClosing outer rest := by
  rw [skipClosing_cons]
  simp only [h, if_true]

/-- After a comma another element follows. -/
theorem skipClosing_element (h : skipBlanks bytes = 0x2C :: rest) :
    skipClosing (.sequence :: outer) bytes = skipWithin (.sequence :: outer) rest := by
  rw [skipClosing_cons]
  simp [h]

/-- A map ends with its brace. -/
theorem skipClosing_endMap (h : skipBlanks bytes = 0x7D :: rest) :
    skipClosing (.map :: outer) bytes = skipClosing outer rest := by
  rw [skipClosing_cons]
  simp only [h, if_true]

/-- After a comma another key follows, then its value. -/
theorem skipClosing_member (h : skipBlanks bytes = 0x2C :: rest) :
    skipClosing (.map :: outer) bytes = skipKey rest >>= skipWithin (.map :: outer) := by
  rw [skipClosing_cons]
  simp [h]

end Steps

/-! ## Words, numbers and strings -/

/-- The byte that a number begins with. -/
theorem Number.exists_cons {text : List UInt8} (h : Number text) :
    ∃ b t, text = b :: t ∧ (b = 0x2D ∨ isDigit b) := by
  cases h with
  | plain hw _ _ =>
    cases hw with
    | zero => exact ⟨_, _, rfl, .inr rfl⟩
    | digits hd _ _ => exact ⟨_, _, rfl, .inr hd⟩
  | negative _ _ _ => exact ⟨_, _, rfl, .inl rfl⟩

/-- A byte that can begin a number begins no other value, and is no blank. -/
theorem head_number_ne {b : UInt8} (h : b = 0x2D ∨ isDigit b) :
    isBlank b = false ∧ b ≠ 0x5B ∧ b ≠ 0x7B ∧ b ≠ 0x5D ∧ b ≠ 0x6E ∧ b ≠ 0x74 ∧ b ≠ 0x66 ∧
      b ≠ quote := by
  simp only [isDigit, Bool.and_eq_true, decide_eq_true_eq, UInt8.le_iff_toNat_le,
    UInt8.reduceToNat, ← UInt8.toNat_inj] at h
  simp only [isBlank, quote, ne_eq, ← UInt8.toNat_inj, UInt8.reduceToNat, Bool.or_eq_false_iff,
    beq_eq_false_iff_ne]
  omega

/-- A number that is delimited is skipped as far as it goes. -/
theorem skipScalar_number {b : UInt8} {text rest : List UInt8} (h : Number (b :: text))
    (hrest : Delimited rest) : skipScalar b (text ++ rest) = .ok rest := by
  obtain ⟨_, _, heq, hb⟩ := h.exists_cons
  cases heq
  obtain ⟨-, -, -, -, hn, ht, hf, hq⟩ := head_number_ne hb
  have hb' : (b == 0x2D || isDigit b) = true := by simpa using hb
  obtain ⟨n, hn'⟩ := exists_readNumeral_append .malformed h hrest
  rw [List.cons_append] at hn'
  simp [skipScalar, hn, ht, hf, hq, hb', hn', Except.map]

/-- A word, number or string that is skipped is a value of the grammar. -/
theorem derives_of_skipScalar {b : UInt8} {rest after : List UInt8}
    (h : skipScalar b rest = .ok after) : ∃ v, Derives .value v ∧ b :: rest = v ++ after := by
  rw [skipScalar] at h
  split at h
  · next hb =>
    obtain rfl := readWord_eq_ok_iff.1 h
    exact ⟨_, .nullWord, by rw [eq_of_beq hb]; rfl⟩
  split at h
  · next hb =>
    obtain rfl := readWord_eq_ok_iff.1 h
    exact ⟨_, .trueWord, by rw [eq_of_beq hb]; rfl⟩
  split at h
  · next hb =>
    obtain rfl := readWord_eq_ok_iff.1 h
    exact ⟨_, .falseWord, by rw [eq_of_beq hb]; rfl⟩
  split at h
  · next hb =>
    obtain ⟨body, hbody, rfl⟩ := skipContents_eq_ok_iff.1 h
    refine ⟨_, .string ⟨body, hbody, rfl⟩, ?_⟩
    rw [eq_of_beq hb]
    simp
  split at h
  · obtain ⟨⟨n, after'⟩, hn, rfl⟩ := map_eq_ok_iff.1 h
    obtain ⟨text, htext, heq⟩ := number_of_readNumeral hn
    exact ⟨text, .number htext, heq⟩
  · cases h

/-! ## What the stack admits -/

/-- What follows a value inside enclosures, to the end of the outermost one. -/
inductive Closes : List Enclosure → List UInt8 → Prop
  /-- Nothing encloses the value. -/
  | done : Closes [] []
  /-- The end of a list. -/
  | endList {outer : List Enclosure} {w c : List UInt8} :
      Blanks w → Closes outer c → Closes (.sequence :: outer) (w ++ 0x5D :: c)
  /-- Another element. -/
  | element {outer : List Enclosure} {w w1 v c : List UInt8} : Blanks w → Blanks w1 →
      Derives .value v → Closes (.sequence :: outer) c →
        Closes (.sequence :: outer) (w ++ 0x2C :: (w1 ++ v ++ c))
  /-- The end of an object. -/
  | endMap {outer : List Enclosure} {w c : List UInt8} :
      Blanks w → Closes outer c → Closes (.map :: outer) (w ++ 0x7D :: c)
  /-- Another member. -/
  | member {outer : List Enclosure} {w w1 k w2 w3 v c : List UInt8} : Blanks w → Blanks w1 →
      Loose k → Blanks w2 → Blanks w3 → Derives .value v → Closes (.map :: outer) c →
        Closes (.map :: outer) (w ++ 0x2C :: (w1 ++ k ++ w2 ++ 0x3A :: (w3 ++ v ++ c)))

/-- Inside a list, a value and what follows it make up the elements from there on. -/
theorem Closes.exists_elements {outer : List Enclosure} {c : List UInt8}
    (h : Closes (.sequence :: outer) c) : ∃ tail c', Closes outer c' ∧ c = tail ++ 0x5D :: c' ∧
      ∀ w v, Blanks w → Derives .value v → Derives .elements (w ++ v ++ tail) := by
  -- The list stays on top of the stack until it ends, so the induction keeps the stack.
  generalize hs : Enclosure.sequence :: outer = stack at h
  induction h with
  | done => cases hs
  | endList hw hc _ =>
    cases hs
    exact ⟨_, _, hc, rfl, fun w v hw' hv => .lastElement hw' hv hw⟩
  | @element _ w w1 v c hw hw1 hv _ ih =>
    obtain ⟨tail, c', hc', rfl, helems⟩ := ih hs
    refine ⟨w ++ 0x2C :: (w1 ++ v ++ tail), c', hc', by simp, fun w' v' hw' hv' => ?_⟩
    have := Derives.element hw' hv' hw (helems w1 v hw1 hv)
    simpa only [List.append_assoc, List.cons_append] using this
  | endMap => cases hs
  | member => cases hs

/-- Inside an object, a key, its value and what follows make up the members from there on. -/
theorem Closes.exists_members {outer : List Enclosure} {c : List UInt8}
    (h : Closes (.map :: outer) c) : ∃ tail c', Closes outer c' ∧ c = tail ++ 0x7D :: c' ∧
      ∀ w k w1 w2 v, Blanks w → Loose k → Blanks w1 → Blanks w2 → Derives .value v →
        Derives .members (w ++ k ++ w1 ++ 0x3A :: (w2 ++ v ++ tail)) := by
  generalize hs : Enclosure.map :: outer = stack at h
  induction h with
  | done => cases hs
  | endList => cases hs
  | element => cases hs
  | endMap hw hc _ =>
    cases hs
    exact ⟨_, _, hc, rfl, fun w k w1 w2 v h h1 h2 h3 h4 => .lastMember h h1 h2 h3 h4 hw⟩
  | @member _ w w1 k w2 w3 v c hw hw1 hk hw2 hw3 hv _ ih =>
    obtain ⟨tail, c', hc', rfl, hmems⟩ := ih hs
    refine ⟨w ++ 0x2C :: (w1 ++ k ++ w2 ++ 0x3A :: (w3 ++ v ++ tail)), c', hc', by simp, ?_⟩
    intro w' k' w1' w2' v' h h1 h2 h3 h4
    have := Derives.member h h1 h2 h3 h4 hw (hmems w1 k w2 w3 v hw1 hk hw2 hw3 hv)
    simpa only [List.append_assoc, List.cons_append] using this

/-! ## What is skipped is in the grammar -/

/-- Bytes that begin with what closes the enclosures. -/
def Closed (enclosures : List Enclosure) (rest bytes : List UInt8) : Prop :=
  ∃ c, Closes enclosures c ∧ bytes = c ++ rest

/-- Bytes that are skipped: blanks, a value, and what closes the enclosures. -/
def Skipped (enclosures : List Enclosure) (rest bytes : List UInt8) : Prop :=
  ∃ w v c, Blanks w ∧ Derives .value v ∧ Closes enclosures c ∧ bytes = w ++ v ++ c ++ rest

section Cases

variable {enclosures outer : List Enclosure} {bytes w v after after' rest : List UInt8} {b : UInt8}

/-- A value, with blanks before it. -/
theorem Skipped.value (hw : Blanks w) (hv : Derives .value v) (h : Closed enclosures rest after) :
    Skipped enclosures rest (w ++ (v ++ after)) := by
  obtain ⟨c, hc, rfl⟩ := h
  exact ⟨w, v, c, hw, hv, hc, by simp⟩

/-- A word, a number or a string. -/
theorem Skipped.scalar (hb : skipBlanks bytes = b :: after) (hs : skipScalar b after = .ok after')
    (h : Closed enclosures rest after') : Skipped enclosures rest bytes := by
  obtain ⟨-, w, hw, rfl⟩ := skipBlanks_eq_cons_iff.1 hb
  obtain ⟨v, hv, heq⟩ := derives_of_skipScalar hs
  rw [heq]
  exact .value hw hv h

/-- An empty list. -/
theorem Skipped.emptyList (hb : skipBlanks bytes = 0x5B :: after)
    (hc : skipBlanks after = 0x5D :: after') (h : Closed enclosures rest after') :
    Skipped enclosures rest bytes := by
  obtain ⟨-, w, hw, rfl⟩ := skipBlanks_eq_cons_iff.1 hb
  obtain ⟨-, w1, hw1, rfl⟩ := skipBlanks_eq_cons_iff.1 hc
  simpa using Skipped.value hw (.emptyList hw1) h

/-- An empty object. -/
theorem Skipped.emptyMap (hb : skipBlanks bytes = 0x7B :: after)
    (hc : skipBlanks after = 0x7D :: after') (h : Closed enclosures rest after') :
    Skipped enclosures rest bytes := by
  obtain ⟨-, w, hw, rfl⟩ := skipBlanks_eq_cons_iff.1 hb
  obtain ⟨-, w1, hw1, rfl⟩ := skipBlanks_eq_cons_iff.1 hc
  simpa using Skipped.value hw (.emptyMap hw1) h

/-- A list with elements: what follows its first element up to its end is the rest of it. -/
theorem Skipped.list (hb : skipBlanks bytes = 0x5B :: after)
    (h : Skipped (.sequence :: enclosures) rest after) : Skipped enclosures rest bytes := by
  obtain ⟨-, w, hw, rfl⟩ := skipBlanks_eq_cons_iff.1 hb
  obtain ⟨w1, v, c, hw1, hv, hc, rfl⟩ := h
  obtain ⟨tail, c', hc', rfl, helems⟩ := hc.exists_elements
  exact ⟨w, _, c', hw, .list (helems w1 v hw1 hv), hc', by simp⟩

/-- An object with members, in the same way. -/
theorem Skipped.map (hb : skipBlanks bytes = 0x7B :: after) (hk : skipKey after = .ok after')
    (h : Skipped (.map :: enclosures) rest after') : Skipped enclosures rest bytes := by
  obtain ⟨-, w, hw, rfl⟩ := skipBlanks_eq_cons_iff.1 hb
  obtain ⟨w1, k, w2, hw1, hloose, hw2, rfl⟩ := skipKey_eq_ok_iff.1 hk
  obtain ⟨w3, v, c, hw3, hv, hc, rfl⟩ := h
  obtain ⟨tail, c', hc', rfl, hmems⟩ := hc.exists_members
  exact ⟨w, _, c', hw, .map (hmems w1 k w2 w3 v hw1 hloose hw2 hw3 hv), hc', by simp⟩

/-- Nothing is open any more. -/
theorem Closed.nil (rest : List UInt8) : Closed [] rest rest :=
  ⟨[], .done, rfl⟩

/-- The end of a list. -/
theorem Closed.endList (hb : skipBlanks bytes = 0x5D :: after) (h : Closed outer rest after) :
    Closed (.sequence :: outer) rest bytes := by
  obtain ⟨-, w, hw, rfl⟩ := skipBlanks_eq_cons_iff.1 hb
  obtain ⟨c, hc, rfl⟩ := h
  exact ⟨_, .endList hw hc, by simp⟩

/-- The end of an object. -/
theorem Closed.endMap (hb : skipBlanks bytes = 0x7D :: after) (h : Closed outer rest after) :
    Closed (.map :: outer) rest bytes := by
  obtain ⟨-, w, hw, rfl⟩ := skipBlanks_eq_cons_iff.1 hb
  obtain ⟨c, hc, rfl⟩ := h
  exact ⟨_, .endMap hw hc, by simp⟩

/-- Another element of a list. -/
theorem Closed.element (hb : skipBlanks bytes = 0x2C :: after)
    (h : Skipped (.sequence :: outer) rest after) : Closed (.sequence :: outer) rest bytes := by
  obtain ⟨-, w, hw, rfl⟩ := skipBlanks_eq_cons_iff.1 hb
  obtain ⟨w1, v, c, hw1, hv, hc, rfl⟩ := h
  exact ⟨_, .element hw hw1 hv hc, by simp⟩

/-- Another member of an object. -/
theorem Closed.member (hb : skipBlanks bytes = 0x2C :: after) (hk : skipKey after = .ok after')
    (h : Skipped (.map :: outer) rest after') : Closed (.map :: outer) rest bytes := by
  obtain ⟨-, w, hw, rfl⟩ := skipBlanks_eq_cons_iff.1 hb
  obtain ⟨w1, k, w2, hw1, hloose, hw2, rfl⟩ := skipKey_eq_ok_iff.1 hk
  obtain ⟨w3, v, c, hw3, hv, hc, rfl⟩ := h
  exact ⟨_, .member hw hw1 hloose hw2 hw3 hv hc, by simp⟩

end Cases

/-- Both readers of the stack accept what the grammar describes. -/
theorem exists_of_skipWithin_and_skipClosing :
    (∀ enclosures bytes rest, skipWithin enclosures bytes = .ok rest →
      Skipped enclosures rest bytes) ∧
    ∀ enclosures bytes rest, skipClosing enclosures bytes = .ok rest →
      Closed enclosures rest bytes := by
  -- The induction is on the two readers together. There is a case for each way to go on, in which
  -- the reader does as it does with what is left.
  apply skipWithin.mutual_induct
    (fun enclosures bytes => ∀ rest, skipWithin enclosures bytes = .ok rest →
      Skipped enclosures rest bytes)
    (fun enclosures bytes => ∀ rest, skipClosing enclosures bytes = .ok rest →
      Closed enclosures rest bytes)
  case case3 =>
    intro enclosures bytes b after hb hlist c after' hc hclose ih rest h
    rw [eq_of_beq hlist] at hb
    rw [eq_of_beq hclose] at hc
    exact .emptyList hb hc (ih rest ((skipWithin_emptyList hb hc).symm.trans h))
  case case4 =>
    intro enclosures bytes b after hb hlist c after' hc hclose ih rest h
    rw [eq_of_beq hlist] at hb
    exact .list hb (ih rest ((skipWithin_list hb hc (by simpa using hclose)).symm.trans h))
  case case6 =>
    intro enclosures bytes b after hb _ hmap c after' hc hclose ih rest h
    rw [eq_of_beq hmap] at hb
    rw [eq_of_beq hclose] at hc
    exact .emptyMap hb hc (ih rest ((skipWithin_emptyMap hb hc).symm.trans h))
  case case8 =>
    intro enclosures bytes b after hb _ hmap c after' hc hclose after'' hk ih rest h
    rw [eq_of_beq hmap] at hb
    rw [skipWithin_map hb hc (by simpa using hclose), hk] at h
    exact .map hb hk (ih rest h)
  case case10 =>
    intro enclosures bytes b after hb hlist hmap after' hs ih rest h
    rw [skipWithin_scalar hb (by simpa using hlist) (by simpa using hmap), hs] at h
    exact .scalar hb hs (ih rest h)
  case case11 =>
    intro bytes rest h
    rw [skipClosing_nil] at h
    cases h
    exact .nil bytes
  case case13 =>
    intro bytes outer b after hb hclose ih rest h
    rw [eq_of_beq hclose] at hb
    exact .endList hb (ih rest ((skipClosing_endList hb).symm.trans h))
  case case14 =>
    intro bytes outer b after hb _ hcomma ih rest h
    rw [eq_of_beq hcomma] at hb
    exact .element hb (ih rest ((skipClosing_element hb).symm.trans h))
  case case16 =>
    intro bytes outer b after hb hclose ih rest h
    rw [eq_of_beq hclose] at hb
    exact .endMap hb (ih rest ((skipClosing_endMap hb).symm.trans h))
  case case18 =>
    intro bytes outer b after hb _ hcomma after' hk ih rest h
    rw [eq_of_beq hcomma] at hb
    rw [skipClosing_member hb, hk] at h
    exact .member hb hk (ih rest h)
  -- Every other case is one where the reader stops.
  all_goals
    intros
    rename_i h
    first
    | rw [skipWithin_eq] at h
    | rw [skipClosing_cons] at h
    simp_all [bind, Except.bind]

/-- A value that is skipped is in the grammar, with blanks before it. -/
theorem derives_of_skipValue {bytes rest : List UInt8} (h : skipValue bytes = .ok rest) :
    ∃ w v, Blanks w ∧ Derives .value v ∧ bytes = w ++ v ++ rest := by
  obtain ⟨w, v, c, hw, hv, hc, rfl⟩ := exists_of_skipWithin_and_skipClosing.1 [] bytes rest h
  cases hc
  exact ⟨w, v, hw, hv, by simp⟩

/-! ## What is in the grammar is skipped -/

/-- A number may end where the text ends. -/
theorem delimited_nil : Delimited [] :=
  nofun

/-- A number may end at a comma or at the end of an enclosure. -/
theorem delimited_cons {b : UInt8} (h : b = 0x2C ∨ b = 0x5D ∨ b = 0x7D) (rest : List UInt8) :
    Delimited (b :: rest) := by
  rintro _ ⟨⟩
  exact .inr h

/-- Blanks delimit too. -/
theorem Delimited.append {w rest : List UInt8} (hw : Blanks w) (hrest : Delimited rest) :
    Delimited (w ++ rest) := by
  cases w with
  | nil => exact hrest
  | cons b w => rintro _ ⟨⟩; exact .inl (hw b (by simp))

/-- Blanks in front of a value make no difference. -/
theorem skipWithin_blanks_append {w : List UInt8} (hw : Blanks w) (enclosures : List Enclosure)
    (bytes : List UInt8) : skipWithin enclosures (w ++ bytes) = skipWithin enclosures bytes := by
  rw [skipWithin_eq, skipWithin_eq, skipBlanks_append hw]

/-- Blanks in front of what closes an enclosure make no difference. -/
theorem skipClosing_blanks_append {w : List UInt8} (hw : Blanks w) (enclosure : Enclosure)
    (outer : List Enclosure) (bytes : List UInt8) :
    skipClosing (enclosure :: outer) (w ++ bytes) = skipClosing (enclosure :: outer) bytes := by
  rw [skipClosing_cons, skipClosing_cons, skipBlanks_append hw]

/-- The byte that a value begins with is no blank and closes no list. -/
theorem Derives.exists_cons {v : List UInt8} (h : Derives .value v) :
    ∃ b t, v = b :: t ∧ isBlank b = false ∧ b ≠ 0x5D := by
  cases h with
  | number hn =>
    obtain ⟨b, t, rfl, hb⟩ := hn.exists_cons
    obtain ⟨hblank, -, -, hclose, -⟩ := head_number_ne hb
    exact ⟨b, t, rfl, hblank, hclose⟩
  | string hs =>
    obtain ⟨body, -, rfl⟩ := hs
    exact ⟨_, _, rfl, rfl, by decide⟩
  | _ => exact ⟨_, _, rfl, rfl, by decide⟩

/-- A list that has elements does not begin with its end. -/
theorem Derives.skipBlanks_elements {es : List UInt8} (h : Derives .elements es)
    (rest : List UInt8) : ∃ b after, skipBlanks (es ++ rest) = b :: after ∧ b ≠ 0x5D := by
  have hhead : ∀ {w v : List UInt8} (tail : List UInt8), Blanks w → Derives .value v →
      ∃ b after, skipBlanks (w ++ (v ++ tail)) = b :: after ∧ b ≠ 0x5D := by
    intro w v tail hw hv
    obtain ⟨b, t, rfl, hb, hclose⟩ := hv.exists_cons
    exact ⟨b, t ++ tail, by rw [skipBlanks_append hw, List.cons_append, skipBlanks_cons hb], hclose⟩
  cases h with
  | lastElement hw hv _ => simpa only [List.append_assoc] using hhead _ hw hv
  | element hw hv _ _ => simpa only [List.append_assoc] using hhead _ hw hv

/-- A map that has members begins with a key. -/
theorem Derives.skipBlanks_members {ms : List UInt8} (h : Derives .members ms)
    (rest : List UInt8) : ∃ after, skipBlanks (ms ++ rest) = quote :: after := by
  have hhead : ∀ {w k : List UInt8} (tail : List UInt8), Blanks w → Loose k →
      ∃ after, skipBlanks (w ++ (k ++ tail)) = quote :: after := by
    rintro w _ tail hw ⟨body, -, rfl⟩
    exact ⟨_, by rw [skipBlanks_append hw, List.cons_append, skipBlanks_cons rfl]⟩
  cases h with
  | lastMember hw hk => simpa only [List.append_assoc] using hhead _ hw hk
  | member hw hk => simpa only [List.append_assoc] using hhead _ hw hk

/-- How the readers of the stack pass over what belongs to a category. -/
def Passes : Category → List UInt8 → Prop
  | .value, v => ∀ enclosures rest, Delimited rest →
      skipWithin enclosures (v ++ rest) = skipClosing enclosures rest
  | .elements, es => ∀ outer rest,
      skipWithin (.sequence :: outer) (es ++ 0x5D :: rest) = skipClosing outer rest
  | .members, ms => ∀ outer rest,
      skipKey (ms ++ 0x7D :: rest) >>= skipWithin (.map :: outer) = skipClosing outer rest

/-- A value that opens no enclosure is passed if it is skipped wherever it is delimited. -/
theorem passes_scalar {b : UInt8} {t : List UInt8} (hblank : isBlank b = false) (hlist : b ≠ 0x5B)
    (hmap : b ≠ 0x7B) (h : ∀ rest, Delimited rest → skipScalar b (t ++ rest) = .ok rest) :
    Passes .value (b :: t) := by
  intro enclosures rest hrest
  rw [List.cons_append, skipWithin_scalar (skipBlanks_cons hblank _) hlist hmap, h rest hrest]
  rfl

/-- A key with its colon is skipped, blanks around it included. -/
theorem skipKey_append {w k w1 : List UInt8} (hw : Blanks w) (hk : Loose k) (hw1 : Blanks w1)
    (rest : List UInt8) : skipKey (w ++ (k ++ (w1 ++ 0x3A :: rest))) = .ok rest :=
  skipKey_eq_ok_iff.2 ⟨w, k, w1, hw, hk, hw1, by simp only [List.append_assoc]⟩

/-- Whatever the grammar derives is passed over. -/
theorem Derives.passes {category : Category} {bytes : List UInt8} (h : Derives category bytes) :
    Passes category bytes := by
  -- What a value passes over does not depend on the stack, so the hypotheses for the values inside
  -- it apply with its own enclosure on top.
  induction h with
  | nullWord => exact passes_scalar rfl (by decide) (by decide) fun _ _ => readWord_eq_ok_iff.2 rfl
  | trueWord => exact passes_scalar rfl (by decide) (by decide) fun _ _ => readWord_eq_ok_iff.2 rfl
  | falseWord => exact passes_scalar rfl (by decide) (by decide) fun _ _ => readWord_eq_ok_iff.2 rfl
  | number hn =>
    obtain ⟨b, t, rfl, hb⟩ := hn.exists_cons
    obtain ⟨hblank, hlist, hmap, -⟩ := head_number_ne hb
    exact passes_scalar hblank hlist hmap fun _ => skipScalar_number hn
  | string hs =>
    obtain ⟨body, hbody, rfl⟩ := hs
    refine passes_scalar rfl (by decide) (by decide) fun rest _ => ?_
    exact skipContents_eq_ok_iff.2 ⟨body, hbody, by simp⟩
  | @emptyList w hw =>
    intro enclosures rest _
    rw [List.cons_append, List.append_assoc]
    refine skipWithin_emptyList (skipBlanks_cons rfl _) ?_
    rw [skipBlanks_append hw]
    exact skipBlanks_cons rfl rest
  | @list es hes ih =>
    intro enclosures rest _
    rw [List.cons_append, List.append_assoc]
    -- What stands after the bracket does not close the list at once.
    obtain ⟨b, after, hb, hclose⟩ := hes.skipBlanks_elements ([0x5D] ++ rest)
    rw [skipWithin_list (skipBlanks_cons rfl _) hb hclose]
    exact ih enclosures rest
  | @emptyMap w hw =>
    intro enclosures rest _
    rw [List.cons_append, List.append_assoc]
    refine skipWithin_emptyMap (skipBlanks_cons rfl _) ?_
    rw [skipBlanks_append hw]
    exact skipBlanks_cons rfl rest
  | @map ms hms ih =>
    intro enclosures rest _
    rw [List.cons_append, List.append_assoc]
    obtain ⟨after, hb⟩ := hms.skipBlanks_members ([0x7D] ++ rest)
    rw [skipWithin_map (skipBlanks_cons rfl _) hb (by decide)]
    exact ih enclosures rest
  | lastElement hw _ hw' ih =>
    intro outer rest
    simp only [List.append_assoc]
    rw [skipWithin_blanks_append hw, ih _ _ (.append hw' (delimited_cons (by simp) rest)),
      skipClosing_blanks_append hw', skipClosing_endList (skipBlanks_cons rfl rest)]
  | element hw _ hw' _ ihv ihes =>
    intro outer rest
    simp only [List.append_assoc, List.cons_append]
    rw [skipWithin_blanks_append hw, ihv _ _ (.append hw' (delimited_cons (by simp) _)),
      skipClosing_blanks_append hw', skipClosing_element (skipBlanks_cons rfl _)]
    exact ihes outer rest
  | lastMember hw hk hw1 hw2 _ hw' ih =>
    intro outer rest
    simp only [List.append_assoc, List.cons_append]
    rw [skipKey_append hw hk hw1]
    show skipWithin (.map :: outer) _ = _
    rw [skipWithin_blanks_append hw2, ih _ _ (.append hw' (delimited_cons (by simp) rest)),
      skipClosing_blanks_append hw', skipClosing_endMap (skipBlanks_cons rfl rest)]
  | member hw hk hw1 hw2 _ hw' _ ihv ihms =>
    intro outer rest
    simp only [List.append_assoc, List.cons_append]
    rw [skipKey_append hw hk hw1]
    show skipWithin (.map :: outer) _ = _
    rw [skipWithin_blanks_append hw2, ihv _ _ (.append hw' (delimited_cons (by simp) _)),
      skipClosing_blanks_append hw', skipClosing_member (skipBlanks_cons rfl _)]
    exact ihms outer rest

/-- A value of the grammar is skipped, with the blanks before it. -/
theorem skipValue_append {w v rest : List UInt8} (hw : Blanks w) (hv : Derives .value v)
    (hrest : Delimited rest) : skipValue (w ++ (v ++ rest)) = .ok rest := by
  rw [skipValue, skipWithin_blanks_append hw, hv.passes [] rest hrest, skipClosing_nil]

end KafkaCanary.Json
