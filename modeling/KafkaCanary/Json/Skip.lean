import KafkaCanary.Json.Numeral

/-!
# Skipping JSON Values

Values that nobody asks for are skipped. Their grammar is checked, but numbers may have any
magnitude and strings any bytes. Nesting has no limit: the lists and objects that are still open
are kept on a stack of their own.
-/

namespace KafkaCanary.Json

/-- A value that other values stand in. -/
inductive Enclosure where
  /-- A list. -/
  | sequence
  /-- An object. -/
  | map
deriving DecidableEq, Repr

/-- The bytes after the word, number or string that begins with `b`. -/
def skipScalar (b : UInt8) (rest : List UInt8) : Except Damage (List UInt8) :=
  if b == 0x6E then readWord nullTail rest
  else if b == 0x74 then readWord trueTail rest
  else if b == 0x66 then readWord falseTail rest
  else if b == quote then skipContents rest
  else if b == 0x2D || isDigit b then (readNumeral .malformed (b :: rest)).map (·.2)
  else .error .malformed

/-- The bytes after a colon and the blanks before it. -/
def readColon (bytes : List UInt8) : Except Damage (List UInt8) :=
  match skipBlanks bytes with
  | [] => .error .truncated
  | b :: rest => if b == 0x3A then .ok rest else .error .malformed

/-- The bytes after a skipped key and its colon. -/
def skipKey (bytes : List UInt8) : Except Damage (List UInt8) :=
  match skipBlanks bytes with
  | [] => .error .truncated
  | b :: rest => if b == quote then skipContents rest >>= readColon else .error .malformed

theorem length_skipContents_le {bytes rest : List UInt8} (h : skipContents bytes = .ok rest) :
    rest.length ≤ bytes.length := by
  fun_induction skipContents bytes <;> simp_all <;> omega

theorem length_skipScalar_le {b : UInt8} {bytes rest : List UInt8}
    (h : skipScalar b bytes = .ok rest) : rest.length ≤ bytes.length := by
  simp only [skipScalar] at h
  split at h
  · exact length_readWord_le h
  split at h
  · exact length_readWord_le h
  split at h
  · exact length_readWord_le h
  split at h
  · exact length_skipContents_le h
  split at h
  · cases hn : readNumeral .malformed (b :: bytes) with
    | error e => simp [hn, Except.map] at h
    | ok r =>
      have := length_readNumeral_lt hn
      simp only [hn, Except.map, Except.ok.injEq] at h
      simp only [List.length_cons] at this
      grind
  · simp at h

theorem length_readColon_le {bytes rest : List UInt8} (h : readColon bytes = .ok rest) :
    rest.length ≤ bytes.length := by
  have := length_skipBlanks_le bytes
  simp only [readColon] at h
  grind

theorem length_skipKey_le {bytes rest : List UInt8} (h : skipKey bytes = .ok rest) :
    rest.length ≤ bytes.length := by
  have := length_skipBlanks_le bytes
  simp only [skipKey] at h
  split at h
  · simp at h
  · next b bytes' hb =>
    split at h
    · cases hs : skipContents bytes' with
      | error e => simp [hs, bind, Except.bind] at h
      | ok r =>
        simp [hs, bind, Except.bind] at h
        have := length_readColon_le h
        have := length_skipContents_le hs
        simp [hb] at *
        omega
    · simp at h

mutual

/-- The bytes after one value and everything that closes the enclosures around it. -/
def skipWithin (enclosures : List Enclosure) (bytes : List UInt8) :
    Except Damage (List UInt8) :=
  match _hb : skipBlanks bytes with
  | [] => .error .truncated
  | b :: rest =>
    if b == 0x5B then
      match _hr : skipBlanks rest with
      | [] => .error .truncated
      | c :: after =>
        if c == 0x5D then skipClosing enclosures after
        else skipWithin (.sequence :: enclosures) rest
    else if b == 0x7B then
      match _hr : skipBlanks rest with
      | [] => .error .truncated
      | c :: after =>
        if c == 0x7D then skipClosing enclosures after
        else
          match _hk : skipKey rest with
          | .error e => .error e
          | .ok after => skipWithin (.map :: enclosures) after
    else
      match _hs : skipScalar b rest with
      | .error e => .error e
      | .ok after => skipClosing enclosures after
termination_by bytes.length
decreasing_by
  all_goals
    have h1 := length_skipBlanks_le bytes
    have h2 := length_skipBlanks_le rest
    simp only [_hb, List.length_cons] at h1
  · simp only [_hr, List.length_cons] at h2; omega
  · omega
  · simp only [_hr, List.length_cons] at h2; omega
  · have := length_skipKey_le _hk; omega
  · have := length_skipScalar_le _hs; omega

/-- The bytes after everything that closes the enclosures around a value, with the values that
follow it in them. -/
def skipClosing (enclosures : List Enclosure) (bytes : List UInt8) :
    Except Damage (List UInt8) :=
  match enclosures with
  | [] => .ok bytes
  | enclosure :: outer =>
    match _hb : skipBlanks bytes with
    | [] => .error .truncated
    | b :: rest =>
      match enclosure with
      | .sequence =>
        if b == 0x5D then skipClosing outer rest
        else if b == 0x2C then skipWithin (.sequence :: outer) rest
        else .error .malformed
      | .map =>
        if b == 0x7D then skipClosing outer rest
        else if b == 0x2C then
          match _hk : skipKey rest with
          | .error e => .error e
          | .ok after => skipWithin (.map :: outer) after
        else .error .malformed
termination_by bytes.length
decreasing_by
  all_goals
    have h1 := length_skipBlanks_le bytes
    simp only [_hb, List.length_cons] at h1
  · omega
  · omega
  · omega
  · have := length_skipKey_le _hk; omega

end

/-- Skipping never moves back: the bytes that remain are no more than the bytes given. -/
theorem length_skipWithin_le_and_length_skipClosing_le :
    (∀ (enclosures : List Enclosure) (bytes : List UInt8) (rest : List UInt8),
      skipWithin enclosures bytes = .ok rest → rest.length ≤ bytes.length) ∧
    ∀ (enclosures : List Enclosure) (bytes : List UInt8) (rest : List UInt8),
      skipClosing enclosures bytes = .ok rest → rest.length ≤ bytes.length := by
  apply skipWithin.mutual_induct
    (fun enclosures bytes => ∀ rest, skipWithin enclosures bytes = .ok rest →
      rest.length ≤ bytes.length)
    (fun enclosures bytes => ∀ rest, skipClosing enclosures bytes = .ok rest →
      rest.length ≤ bytes.length)
  all_goals
    intros
    rename_i rest h
    have hb := fun bs => length_skipBlanks_le bs
    have hk := fun bs r => @length_skipKey_le bs r
    have hs := fun b bs r => @length_skipScalar_le b bs r
    first
    | rw [skipWithin] at h
    | rw [skipClosing] at h
    repeat' split at h
  all_goals grind

/-- The bytes after one value. -/
def skipValue (bytes : List UInt8) : Except Damage (List UInt8) :=
  skipWithin [] bytes

theorem length_skipValue_le {bytes rest : List UInt8} (h : skipValue bytes = .ok rest) :
    rest.length ≤ bytes.length :=
  length_skipWithin_le_and_length_skipClosing_le.1 [] bytes rest h

end KafkaCanary.Json
