import KafkaCanary.Proofs.Json.Grammar
import KafkaCanary.Proofs.Text.Encoding

/-!
# Reading strings

The string readers against the grammar. A string that is read for its text goes through two stages:
escapes are undone byte by byte, and the bytes that result are decoded. The grammar spells whole
characters instead. The two agree because an escape stands for a whole character: bytes that
continue a character can only have come from bytes that stand for themselves.

## Main results

* `readContents_eq_ok_iff`: a string is read as a text iff its bytes spell the text's characters;
* `skipContents_eq_ok_iff`: a string is skipped iff its escapes are well formed.
-/

namespace KafkaCanary.Json

/-! ## Escapes -/

/-- A hexadecimal digit by its value. -/
theorem hexValue?_eq_some_iff {b : UInt8} {n : Nat} : hexValue? b = some n ↔ HexDigit n b := by
  simp only [hexValue?, HexDigit, Bool.and_eq_true, decide_eq_true_eq, UInt8.le_iff_toNat_le,
    UInt8.reduceToNat]
  split
  · simp only [Option.some.injEq]; omega
  split
  · simp only [Option.some.injEq]; omega
  split
  · simp only [Option.some.injEq]; omega
  · simp only [reduceCtorEq, false_iff]; omega

/-- Four hexadecimal digits by their value. -/
theorem hexQuad?_eq_some_iff {a b c d : UInt8} {n : Nat} :
    hexQuad? a b c d = some n ↔ Quad n [a, b, c, d] := by
  simp only [hexQuad?, bind, Option.bind_eq_some_iff, pure, Option.some.injEq,
    hexValue?_eq_some_iff]
  constructor
  · rintro ⟨i, hi, j, hj, k, hk, l, hl, rfl⟩
    exact .digits hi hj hk hl
  · rintro ⟨hi, hj, hk, hl⟩
    exact ⟨_, hi, _, hj, _, hk, _, hl, rfl⟩

/-- The short escapes are those of the table. -/
theorem shortEscape?_eq_some_iff {e x : UInt8} :
    shortEscape? e = some x ↔ ∃ c, (e, c) ∈ shortForms ∧ String.utf8EncodeChar c = [x] := by
  constructor
  · intro h
    simp only [shortEscape?, beq_iff_eq] at h
    repeat' split at h
    · subst_vars; cases h; exact ⟨'"', by decide, by decide⟩
    · subst_vars; cases h; exact ⟨'\\', by decide, by decide⟩
    · subst_vars; cases h; exact ⟨'/', by decide, by decide⟩
    · subst_vars; cases h; exact ⟨'\x08', by decide, by decide⟩
    · subst_vars; cases h; exact ⟨'\x0c', by decide, by decide⟩
    · subst_vars; cases h; exact ⟨'\n', by decide, by decide⟩
    · subst_vars; cases h; exact ⟨'\r', by decide, by decide⟩
    · subst_vars; cases h; exact ⟨'\t', by decide, by decide⟩
    · cases h
  · rintro ⟨c, hc, hx⟩
    simp only [shortForms, List.mem_cons, Prod.mk.injEq, List.not_mem_nil, or_false] at hc
    rcases hc with ⟨rfl, rfl⟩ | ⟨rfl, rfl⟩ | ⟨rfl, rfl⟩ | ⟨rfl, rfl⟩ | ⟨rfl, rfl⟩ | ⟨rfl, rfl⟩ |
      ⟨rfl, rfl⟩ | ⟨rfl, rfl⟩ <;> cases hx <;> rfl

/-- The characters that have a short escape are ASCII. -/
theorem exists_shortEscape?_eq_of_mem {e : UInt8} {c : Char} (h : (e, c) ∈ shortForms) :
    ∃ x, shortEscape? e = some x ∧ String.utf8EncodeChar c = [x] := by
  have hc : ∃ x, String.utf8EncodeChar c = [x] := by
    simp only [shortForms, List.mem_cons, Prod.mk.injEq, List.not_mem_nil, or_false] at h
    rcases h with ⟨-, rfl⟩ | ⟨-, rfl⟩ | ⟨-, rfl⟩ | ⟨-, rfl⟩ | ⟨-, rfl⟩ | ⟨-, rfl⟩ |
      ⟨-, rfl⟩ | ⟨-, rfl⟩ <;> exact ⟨_, rfl⟩
  obtain ⟨x, hx⟩ := hc
  exact ⟨x, shortEscape?_eq_some_iff.2 ⟨c, h, hx⟩, hx⟩

/-- The letter of a unit is no short escape. -/
theorem letterU_not_short : shortEscape? letterU = none := rfl

/-- Two treatments of what was read are one. -/
theorem mapRead_mapRead {ε α β γ : Type} (f : α → β) (g : β → γ)
    (r : Except ε (α × List UInt8)) : mapRead g (mapRead f r) = mapRead (g ∘ f) r := by
  cases r <;> rfl

/-! ## Strings with a text -/

/-- A quote ends the string. -/
theorem readContents_quote (rest : List UInt8) : readContents (quote :: rest) = .ok ([], rest) := by
  rw [readContents.eq_def]
  simp

/-- A byte that needs no escape stands for itself. -/
theorem readContents_plain {b : UInt8} (h : 0x20 ≤ b) (hq : b ≠ quote) (hb : b ≠ backslash)
    (rest : List UInt8) :
    readContents (b :: rest) = mapRead ([b] ++ ·) (readContents rest) := by
  rw [readContents.eq_def]
  have : ¬ b < 0x20 := by simpa using h
  simp [hq, hb, this]

/-- A short escape stands for its character. -/
theorem readContents_short {e x : UInt8} (h : shortEscape? e = some x) (rest : List UInt8) :
    readContents (backslash :: e :: rest) = mapRead ([x] ++ ·) (readContents rest) := by
  rw [readContents.eq_def]
  simp [show backslash ≠ quote by decide, h]

/-- A unit that is no surrogate stands for its character. -/
theorem readContents_unit {a b c d : UInt8} {n : Nat} (h : hexQuad? a b c d = some n)
    (hl : isLowSurrogate n = false) (hh : isHighSurrogate n = false) (rest : List UInt8) :
    readContents (backslash :: letterU :: a :: b :: c :: d :: rest) =
      mapRead (codeBytes n ++ ·) (readContents rest) := by
  rw [readContents.eq_def]
  simp [show backslash ≠ quote by decide, letterU_not_short, h, hl, hh]

/-- A high and a low surrogate stand for one character. -/
theorem readContents_pair {a b c d a' b' c' d' : UInt8} {n m : Nat}
    (h : hexQuad? a b c d = some n) (hl : isLowSurrogate n = false)
    (hh : isHighSurrogate n = true) (h' : hexQuad? a' b' c' d' = some m)
    (hl' : isLowSurrogate m = true) (rest : List UInt8) :
    readContents (backslash :: letterU :: a :: b :: c :: d :: backslash :: letterU :: a' :: b' ::
      c' :: d' :: rest) = mapRead (codeBytes (pairCode n m) ++ ·) (readContents rest) := by
  rw [readContents.eq_def]
  simp [show backslash ≠ quote by decide, letterU_not_short, h, hl, hh, h', hl']

/-- The bytes of a number that is a character's. -/
theorem codeBytes_eq {c : Char} {n : Nat} (h : c.toNat = n) :
    codeBytes n = String.utf8EncodeChar c := by
  rw [codeBytes, Utf8.ofNat_eq h.symm]

/-- No character is a surrogate. -/
theorem not_surrogate (c : Char) :
    isLowSurrogate c.toNat = false ∧ isHighSurrogate c.toNat = false := by
  have := Utf8.toNat_lt_or c
  simp only [isLowSurrogate, isHighSurrogate, Bool.and_eq_false_iff, decide_eq_false_iff_not]
  omega

/-- Bytes past ASCII stand for themselves. -/
theorem readContents_append_of_le {ts : List UInt8} (h : ∀ t ∈ ts, 0x80 ≤ t.toNat)
    (rest : List UInt8) :
    readContents (ts ++ rest) = mapRead (ts ++ ·) (readContents rest) := by
  induction ts with
  | nil => cases hr : readContents rest <;> simp [hr, mapRead]
  | cons t ts ih =>
    have ht : 0x80 ≤ t.toNat := h t (by simp)
    rw [List.cons_append, readContents_plain (by rw [UInt8.le_iff_toNat_le]; simp; omega)
      (by rintro rfl; simp [quote] at ht) (by rintro rfl; simp [backslash] at ht),
      ih (fun t ht => h t (by simp [ht])), mapRead_mapRead]
    rfl

/-- A character that needs no escape is read as it is. -/
theorem readContents_utf8EncodeChar_append {c : Char} (hc : 0x20 ≤ c.toNat) (hq : c ≠ '"')
    (hb : c ≠ '\\') (rest : List UInt8) :
    readContents (String.utf8EncodeChar c ++ rest) =
      mapRead (String.utf8EncodeChar c ++ ·) (readContents rest) := by
  obtain hlt | hle := Nat.lt_or_ge c.toNat 0x80
  · have hq' : c.toNat ≠ 0x22 := fun h => hq (Char.toNat_inj.1 h)
    have hb' : c.toNat ≠ 0x5C := fun h => hb (Char.toNat_inj.1 h)
    rw [Utf8.utf8EncodeChar_of_lt hlt, List.singleton_append, readContents_plain]
    · rw [UInt8.le_iff_toNat_le]; simp; omega
    · rw [quote, ne_eq, ← UInt8.toNat_inj]; simp; omega
    · rw [backslash, ne_eq, ← UInt8.toNat_inj]; simp; omega
  · -- Past ASCII no byte of the character can be taken for a quotation mark or a backslash.
    obtain ⟨b, ts, hts, -, htail, hb'⟩ := Utf8.exists_utf8EncodeChar_eq_cons c
    rw [hts]
    apply readContents_append_of_le
    intro t ht
    rcases List.mem_cons.1 ht with rfl | ht
    · exact hb' hle
    · exact (Utf8.isTail_iff.1 (htail t ht)).1

/-- The reader undoes one spelling of a character. -/
theorem readContents_spelling_append {c : Char} {sp : List UInt8} (h : Spelling c sp)
    (rest : List UInt8) :
    readContents (sp ++ rest) = mapRead (String.utf8EncodeChar c ++ ·) (readContents rest) := by
  cases h with
  | plain hc hq hb => exact readContents_utf8EncodeChar_append hc hq hb rest
  | short hc =>
    obtain ⟨x, hx, hcx⟩ := exists_shortEscape?_eq_of_mem hc
    rw [hcx]
    exact readContents_short hx rest
  | unit hq =>
    -- A character is no surrogate, so its code unit is not taken for half of a pair.
    obtain ⟨hl, hh⟩ := not_surrogate c
    generalize hn : c.toNat = n at hq hl hh
    cases hq with
    | digits hi hj hk hl' =>
      rw [← codeBytes_eq hn]
      exact readContents_unit (hexQuad?_eq_some_iff.2 (.digits hi hj hk hl')) hl hh rest
  | @pair _ high low q r hq hr h1 h2 h3 h4 hc =>
    have hcode : c.toNat = pairCode high low := by rw [hc, pairCode]; omega
    have hhl : isLowSurrogate high = false := by simp [isLowSurrogate]; omega
    have hhh : isHighSurrogate high = true := by simp [isHighSurrogate]; omega
    have hll : isLowSurrogate low = true := by simp [isLowSurrogate]; omega
    rw [← codeBytes_eq hcode]
    cases hq with
    | digits hi hj hk hl =>
      cases hr with
      | digits hi' hj' hk' hl' =>
        exact readContents_pair (hexQuad?_eq_some_iff.2 (.digits hi hj hk hl)) hhl hhh
          (hexQuad?_eq_some_iff.2 (.digits hi' hj' hk' hl')) hll rest

/-- The reader undoes the spellings of any characters. -/
theorem readContents_spellings_append {cs : List Char} {body : List UInt8}
    (h : Spellings cs body) (rest : List UInt8) :
    readContents (body ++ quote :: rest) = .ok (Utf8.encodeChars cs, rest) := by
  induction h with
  | nil => exact readContents_quote rest
  | cons hc _ ih =>
    rw [List.append_assoc, readContents_spelling_append hc, ih]
    rfl

/-- Four hexadecimal digits are a number of 16 bits. -/
theorem Quad.lt {n : Nat} {q : List UInt8} (h : Quad n q) : n < 0x10000 := by
  cases h with
  | digits hi hj hk hl => simp only [HexDigit] at hi hj hk hl; omega

/-- An escaped code unit that is no surrogate spells its character. -/
theorem spelling_of_hexQuad? {a b c d : UInt8} {n : Nat} (h : hexQuad? a b c d = some n)
    (hl : ¬isLowSurrogate n) (hh : ¬isHighSurrogate n) :
    Spelling (Char.ofNat n) [backslash, letterU, a, b, c, d] := by
  have hq := hexQuad?_eq_some_iff.1 h
  have hn := hq.lt
  simp only [isLowSurrogate, isHighSurrogate, Bool.and_eq_true, decide_eq_true_eq] at hl hh
  have hc : (Char.ofNat n).toNat = n := Utf8.val_toNat_ofNat (by omega)
  exact .unit (by rwa [hc])

/-- Escaped surrogates that pair up spell the character of their code point. -/
theorem spelling_of_hexQuad?_pair {a b c d a' b' c' d' : UInt8} {n m : Nat}
    (h : hexQuad? a b c d = some n) (hh : isHighSurrogate n) (h' : hexQuad? a' b' c' d' = some m)
    (hl : isLowSurrogate m) : Spelling (Char.ofNat (pairCode n m))
      [backslash, letterU, a, b, c, d, backslash, letterU, a', b', c', d'] := by
  simp only [isLowSurrogate, isHighSurrogate, Bool.and_eq_true, decide_eq_true_eq] at hl hh
  have hc : (Char.ofNat (pairCode n m)).toNat = pairCode n m :=
    Utf8.val_toNat_ofNat (by simp only [pairCode]; omega)
  exact .pair (hexQuad?_eq_some_iff.1 h) (hexQuad?_eq_some_iff.1 h') hh.1 (by omega) hl.1
    (by omega) (by rw [hc, pairCode]; omega)

/-- One step of reading a string: its end, an escape, or a byte that stands for itself. -/
inductive ContentsStep (rest : List UInt8) : List UInt8 → List UInt8 → Prop
  /-- The quotation mark at the end. -/
  | done : ContentsStep rest (quote :: rest) []
  /-- An escape. -/
  | escape {c : Char} {sp bytes contents : List UInt8} :
      Spelling c sp → readContents bytes = .ok (contents, rest) →
        ContentsStep rest (sp ++ bytes) (String.utf8EncodeChar c ++ contents)
  /-- A byte that stands for itself. -/
  | byte {b : UInt8} {bytes contents : List UInt8} :
      0x20 ≤ b → b ≠ quote → b ≠ backslash → readContents bytes = .ok (contents, rest) →
        ContentsStep rest (b :: bytes) (b :: contents)

/-- Whatever is read can be read step by step. -/
theorem contentsStep_of_readContents {bytes contents rest : List UInt8}
    (h : readContents bytes = .ok (contents, rest)) : ContentsStep rest bytes contents := by
  fun_induction readContents bytes generalizing contents with
  | case2 b after hb =>
    cases h
    rw [eq_of_beq hb]
    exact .done
  | case4 b hq hb e after x hx =>
    obtain ⟨contents, hcs, rfl⟩ := mapRead_eq_ok_iff.1 h
    obtain ⟨c, hc, hcx⟩ := shortEscape?_eq_some_iff.1 hx
    rw [← hcx, eq_of_beq hb]
    exact .escape (.short hc) hcs
  | case10 b hq hb e he hu x y z w n hn hl hh s hs u hu' x' y' z' w' after m hm hl' =>
    obtain ⟨contents, hcs, rfl⟩ := mapRead_eq_ok_iff.1 h
    rw [eq_of_beq hb, eq_of_beq hu, eq_of_beq hs, eq_of_beq hu']
    exact .escape (spelling_of_hexQuad?_pair hn hh hm hl') hcs
  | case15 b hq hb e he hu x y z w after n hn hl hh =>
    obtain ⟨contents, hcs, rfl⟩ := mapRead_eq_ok_iff.1 h
    rw [eq_of_beq hb, eq_of_beq hu]
    exact .escape (spelling_of_hexQuad? hn hl hh) hcs
  | case19 b after hq hb hlt =>
    obtain ⟨contents, hcs, rfl⟩ := mapRead_eq_ok_iff.1 h
    exact .byte (by simpa using hlt) (by simpa using hq) (by simpa using hb) hcs
  | _ => cases h

/-- Tails can only come from bytes that stand for themselves. -/
theorem exists_of_readContents_tails {ts contents bytes rest : List UInt8}
    (ht : ∀ t ∈ ts, Utf8.isTail t) (h : readContents bytes = .ok (ts ++ contents, rest)) :
    ∃ bytes', bytes = ts ++ bytes' ∧ readContents bytes' = .ok (contents, rest) := by
  induction ts generalizing bytes with
  | nil => exact ⟨bytes, rfl, h⟩
  | cons t ts ih =>
    have htail : Utf8.isTail t := ht t (by simp)
    have hstep := contentsStep_of_readContents h
    generalize hcs : t :: ts ++ contents = cs at hstep
    cases hstep with
    | done => cases hcs
    | @escape c sp bytes' contents' _ _ =>
      -- An escape stands for a whole character, which begins with no tail.
      obtain ⟨b, us, hb, hno, -, -⟩ := Utf8.exists_utf8EncodeChar_eq_cons c
      rw [hb] at hcs
      obtain ⟨rfl, -⟩ := List.cons.inj hcs
      rw [hno] at htail
      cases htail
    | byte _ _ _ hr =>
      cases hcs
      obtain ⟨bytes', rfl, hr'⟩ := ih (fun t ht' => ht t (by simp [ht'])) hr
      exact ⟨bytes', rfl, hr'⟩

/-- Characters whose bytes agree, with anything after them, are equal. -/
theorem utf8EncodeChar_append_inj {c d : Char} {xs ys : List UInt8} {cs : List Char}
    (hys : ys = Utf8.encodeChars cs)
    (h : String.utf8EncodeChar d ++ xs = String.utf8EncodeChar c ++ ys) : d = c ∧ xs = ys := by
  have hd := congrArg (Utf8.decodeFrom 0) h
  rw [Utf8.decodeFrom_utf8EncodeChar_append, Utf8.decodeFrom_utf8EncodeChar_append, hys,
    Utf8.decodeFrom_encodeChars] at hd
  obtain ⟨cs', hcs', heq⟩ := map_eq_ok_iff.1 hd
  cases heq
  exact ⟨rfl, by rw [hys, ← Utf8.eq_encodeChars_of_decodeFrom hcs']⟩

/-- A character spells itself if its first byte is one that stands for itself. -/
theorem spelling_of_head {b : UInt8} {c : Char} {ts : List UInt8}
    (hc : String.utf8EncodeChar c = b :: ts) (hb : 0x20 ≤ b) (hq : b ≠ quote)
    (hbs : b ≠ backslash) : Spelling c (b :: ts) := by
  obtain ⟨b', ts', hc', -, -, hhigh⟩ := Utf8.exists_utf8EncodeChar_eq_cons c
  obtain ⟨rfl, rfl⟩ := List.cons.inj (hc'.symm.trans hc)
  -- The first byte is the character or past ASCII, as the character then is.
  have hbc : 0x80 ≤ c.toNat ∨ b'.toNat = c.toNat := by
    refine (Nat.lt_or_ge c.toNat 0x80).symm.imp id fun hlt => ?_
    rw [Utf8.utf8EncodeChar_of_lt hlt] at hc
    rw [← (List.cons.inj hc).1]
    simp
    omega
  rw [UInt8.le_iff_toNat_le] at hb
  rw [quote, ne_eq, ← UInt8.toNat_inj] at hq
  rw [backslash, ne_eq, ← UInt8.toNat_inj] at hbs
  simp only [UInt8.reduceToNat] at hb hq hbs
  rw [← hc]
  refine .plain ?_ ?_ ?_
  · omega
  · rintro rfl
    have : '"'.toNat = 0x22 := rfl
    omega
  · rintro rfl
    have : '\\'.toNat = 0x5C := rfl
    omega

/-- What the reader makes out of a string that is UTF-8 is spelled by the bytes it read. -/
theorem exists_spellings_of_readContents {cs : List Char} {bytes rest : List UInt8}
    (h : readContents bytes = .ok (Utf8.encodeChars cs, rest)) :
    ∃ body, Spellings cs body ∧ bytes = body ++ quote :: rest := by
  -- The induction is on the characters, not on the bytes: a character takes one escape, or as many
  -- bytes that stand for themselves as it has.
  induction cs generalizing bytes with
  | nil =>
    have hstep := contentsStep_of_readContents h
    generalize hnil : Utf8.encodeChars [] = contents at hstep
    cases hstep with
    | done => exact ⟨[], .nil, rfl⟩
    | @escape c _ _ _ _ _ =>
      obtain ⟨b, us, hb, -⟩ := Utf8.exists_utf8EncodeChar_eq_cons c
      rw [hb] at hnil
      cases hnil
    | byte => cases hnil
  | cons c cs ih =>
    have hstep := contentsStep_of_readContents h
    rw [Utf8.encodeChars_cons] at hstep
    generalize hcs : String.utf8EncodeChar c ++ Utf8.encodeChars cs = contents at hstep
    cases hstep with
    | done => simp at hcs
    | escape hsp hr =>
      obtain ⟨rfl, rfl⟩ := utf8EncodeChar_append_inj rfl hcs.symm
      obtain ⟨body, hbody, rfl⟩ := ih hr
      exact ⟨_, .cons hsp hbody, by rw [List.append_assoc]⟩
    | @byte b bytes' contents' hb hq hbs hr =>
      obtain ⟨b', ts, hc, -, htail, -⟩ := Utf8.exists_utf8EncodeChar_eq_cons c
      rw [hc] at hcs
      cases hcs
      -- What continues the character stands for itself as its first byte does.
      obtain ⟨bytes'', rfl, hr'⟩ := exists_of_readContents_tails htail hr
      obtain ⟨body, hbody, rfl⟩ := ih hr'
      exact ⟨_, .cons (spelling_of_head hc hb hq hbs) hbody, by simp⟩

/-- A string is read as a text iff its bytes spell it. -/
theorem readContents_eq_ok_iff {cs : List Char} {bytes rest : List UInt8} :
    readContents bytes = .ok (Utf8.encodeChars cs, rest) ↔
      ∃ body, Spellings cs body ∧ bytes = body ++ quote :: rest := by
  constructor
  · exact exists_spellings_of_readContents
  · rintro ⟨body, hbody, rfl⟩
    exact readContents_spellings_append hbody rest

/-! ## Strings that nobody reads -/

/-- A quote ends the string that is skipped. -/
theorem skipContents_quote (rest : List UInt8) : skipContents (quote :: rest) = .ok rest := by
  rw [skipContents.eq_def]
  simp

/-- A body is skipped up to its quote. -/
theorem skipContents_loose_append {body : List UInt8} (h : LooseBody body) (rest : List UInt8) :
    skipContents (body ++ quote :: rest) = .ok rest := by
  induction h with
  | nil => exact skipContents_quote rest
  | plain hb hq hbs _ ih =>
    rw [List.cons_append, skipContents.eq_def]
    simpa [hq, hbs, UInt8.not_lt.2 hb] using ih
  | short hc _ ih =>
    obtain ⟨x, hx, -⟩ := exists_shortEscape?_eq_of_mem hc
    rw [List.cons_append, List.cons_append, skipContents.eq_def]
    simpa [show backslash ≠ quote by decide, hx] using ih
  | unit hq _ ih =>
    cases hq with
    | digits hi hj hk hl =>
      have hquad := hexQuad?_eq_some_iff.2 (.digits hi hj hk hl)
      rw [List.cons_append, List.cons_append, skipContents.eq_def]
      simpa [show backslash ≠ quote by decide, letterU_not_short, hquad] using ih

/-- What is skipped is a body with its quote. -/
theorem exists_loose_of_skipContents {bytes rest : List UInt8}
    (h : skipContents bytes = .ok rest) :
    ∃ body, LooseBody body ∧ bytes = body ++ quote :: rest := by
  fun_induction skipContents bytes with
  | case2 b after hb =>
    cases h
    rw [eq_of_beq hb]
    exact ⟨[], .nil, rfl⟩
  | case4 b hq hb e after he ih =>
    obtain ⟨x, hx⟩ := Option.isSome_iff_exists.1 he
    obtain ⟨c, hc, -⟩ := shortEscape?_eq_some_iff.1 hx
    obtain ⟨body, hbody, rfl⟩ := ih h
    rw [eq_of_beq hb]
    exact ⟨backslash :: e :: body, .short hc hbody, rfl⟩
  | case5 b hq hb e he hu x y z w after hn ih =>
    obtain ⟨n, hn⟩ := Option.isSome_iff_exists.1 hn
    obtain ⟨body, hbody, rfl⟩ := ih h
    rw [eq_of_beq hb, eq_of_beq hu]
    exact ⟨_, .unit (hexQuad?_eq_some_iff.1 hn) hbody, rfl⟩
  | case10 b after hq hb hlt ih =>
    obtain ⟨body, hbody, rfl⟩ := ih h
    exact ⟨b :: body, .plain (by simpa using hlt) (by simpa using hq) (by simpa using hb) hbody,
      rfl⟩
  | _ => cases h

/-- A string is skipped iff its escapes are well formed. -/
theorem skipContents_eq_ok_iff {bytes rest : List UInt8} :
    skipContents bytes = .ok rest ↔ ∃ body, LooseBody body ∧ bytes = body ++ quote :: rest := by
  constructor
  · exact exists_loose_of_skipContents
  · rintro ⟨body, hbody, rfl⟩
    exact skipContents_loose_append hbody rest

end KafkaCanary.Json
