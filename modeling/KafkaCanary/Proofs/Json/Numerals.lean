import KafkaCanary.Proofs.Json.Grammar
import KafkaCanary.Proofs.Results

/-!
# Reading numbers

The number reader against the grammar, and the value that it gives to integers. A number goes on as
far as it can, so what the reader splits off depends on the bytes after the number; where a value
can end (`Delimited`), no number goes on.

## Main results

* `number_of_readNumeral`, `exists_readNumeral_append`: what is split off is a number, and every
  number that ends where a value can end is split off;
* `integerLiteral_of_readQuantity`, `readQuantity_append_of_integerLiteral`: what is read as an
  integer is its literal, and every literal that fits 64 bits is read.
-/

namespace KafkaCanary.Json

/-! ## Digits -/

/-- Bytes that do not begin with a digit. -/
def EndsDigits (rest : List UInt8) : Prop :=
  ∀ b ∈ rest.head?, isDigit b = false

/-- A text is its leading digits and what comes after them. -/
theorem leadingDigits_append_afterDigits (bytes : List UInt8) :
    leadingDigits bytes ++ afterDigits bytes = bytes :=
  List.takeWhile_append_dropWhile

/-- Leading digits are digits. -/
theorem isDigit_of_mem_leadingDigits {bytes : List UInt8} {d : UInt8}
    (h : d ∈ leadingDigits bytes) : isDigit d :=
  List.all_eq_true.1 List.all_takeWhile d h

/-- Digits that end are all leading. -/
theorem leadingDigits_append {ds rest : List UInt8} (hds : ∀ d ∈ ds, isDigit d)
    (hrest : EndsDigits rest) : leadingDigits (ds ++ rest) = ds := by
  rw [leadingDigits, List.takeWhile_append_of_pos hds]
  cases rest with
  | nil => simp
  | cons b rest => simp [hrest b rfl]

/-- What comes after digits is where they end. -/
theorem afterDigits_append {ds rest : List UInt8} (hds : ∀ d ∈ ds, isDigit d)
    (hrest : EndsDigits rest) : afterDigits (ds ++ rest) = rest := by
  rw [afterDigits, List.dropWhile_append_of_pos hds]
  cases rest with
  | nil => rfl
  | cons b rest => simp [hrest b rfl]

/-- The digits that bytes begin with, if there are any. -/
theorem digits_of_leadingDigits {bytes : List UInt8} (h : leadingDigits bytes ≠ []) :
    Digits (leadingDigits bytes) :=
  ⟨h, fun _ => isDigit_of_mem_leadingDigits⟩

/-! ## Where numbers end -/

/-- A delimiter is no digit. -/
theorem Delimited.endsDigits {rest : List UInt8} (h : Delimited rest) : EndsDigits rest := by
  intro b hb
  rcases h b hb with h | rfl | rfl | rfl
  · simp only [isBlank, Bool.or_eq_true, beq_iff_eq] at h
    rcases h with ((rfl | rfl) | rfl) | rfl <;> rfl
  all_goals rfl

/-- A delimiter neither opens a fraction nor an exponent. -/
theorem Delimited.head_ne {rest : List UInt8} (h : Delimited rest) {b : UInt8}
    (hb : b ∈ rest.head?) : b ≠ 0x2E ∧ b ≠ 0x65 ∧ b ≠ 0x45 := by
  rcases h b hb with h | rfl | rfl | rfl
  · simp only [isBlank, Bool.or_eq_true, beq_iff_eq] at h
    rcases h with ((rfl | rfl) | rfl) | rfl <;> decide
  all_goals decide

/-- No digit and no point follows where an exponent can stand. -/
theorem Exponent.head_append {e rest : List UInt8} (he : Exponent e) (hrest : Delimited rest) :
    ∀ b ∈ (e ++ rest).head?, isDigit b = false ∧ b ≠ 0x2E := by
  intro b hb
  cases he with
  | absent => exact ⟨hrest.endsDigits b hb, (hrest.head_ne hb).1⟩
  | unsigned h _ => cases hb; rcases h with rfl | rfl <;> decide
  | signed h _ _ => cases hb; rcases h with rfl | rfl <;> decide

/-- No digit follows where a fraction can stand. -/
theorem Fraction.endsDigits_append {f rest : List UInt8} (hf : Fraction f)
    (hrest : EndsDigits rest) : EndsDigits (f ++ rest) := by
  cases hf with
  | absent => exact hrest
  | present _ => intro b hb; cases hb; rfl

/-! ## The parts of a number -/

/-- What is read as a whole part is one by the grammar. -/
theorem whole_of_readWhole {cut : Damage} {bytes ds rest : List UInt8}
    (h : readWhole cut bytes = .ok (ds, rest)) : Whole ds ∧ bytes = ds ++ rest := by
  cases bytes with
  | nil => cases h
  | cons b after =>
    simp only [readWhole] at h
    split at h
    · next hb =>
      split at h
      · cases h
        rw [eq_of_beq hb]
        exact ⟨.zero, rfl⟩
      · cases h
    · next hb =>
      split at h
      · next hd =>
        cases h
        refine ⟨.digits hd (by simpa using hb) fun _ => isDigit_of_mem_leadingDigits, ?_⟩
        rw [List.cons_append, leadingDigits_append_afterDigits]
      · cases h

/-- A whole part by the grammar is read up to its last digit. -/
theorem readWhole_append (cut : Damage) {ds rest : List UInt8} (h : Whole ds)
    (hrest : EndsDigits rest) : readWhole cut (ds ++ rest) = .ok (ds, rest) := by
  cases h with
  | zero =>
    have : leadingDigits rest = [] := @leadingDigits_append [] rest nofun hrest
    simp [readWhole, this]
  | digits hd hz hds =>
    simp [readWhole, hd, hz, leadingDigits_append hds hrest, afterDigits_append hds hrest]

/-- What is read as a fraction is one by the grammar, or nothing. -/
theorem fraction_of_readFraction {cut : Damage} {bytes ds rest : List UInt8}
    (h : readFraction cut bytes = .ok (ds, rest)) :
    ∃ f, Fraction f ∧ bytes = f ++ rest ∧ (ds = [] → f = []) := by
  cases bytes with
  | nil => cases h; exact ⟨[], .absent, rfl, fun _ => rfl⟩
  | cons b after =>
    simp only [readFraction] at h
    split at h
    · next hb =>
      split at h
      · cases h
      · next hds =>
        cases h
        refine ⟨_, .present (digits_of_leadingDigits hds), ?_, fun h => absurd h hds⟩
        rw [eq_of_beq hb, List.cons_append, leadingDigits_append_afterDigits]
    · cases h; exact ⟨[], .absent, rfl, fun _ => rfl⟩

/-- A fraction by the grammar is read up to its last digit, without its point. -/
theorem readFraction_append (cut : Damage) {f rest : List UInt8} (h : Fraction f)
    (hrest : ∀ b ∈ rest.head?, isDigit b = false ∧ b ≠ 0x2E) :
    readFraction cut (f ++ rest) = .ok (f.drop 1, rest) := by
  cases h with
  | absent =>
    cases rest with
    | nil => rfl
    | cons b rest => simp [readFraction, (hrest b rfl).2]
  | present hds =>
    have hend : EndsDigits rest := fun b hb => (hrest b hb).1
    simp [readFraction, leadingDigits_append hds.2 hend, afterDigits_append hds.2 hend, hds.1]

/-- What the sign of an exponent takes off. -/
theorem readSign_eq (bytes : List UInt8) :
    (∃ s, (s = 0x2B ∨ s = 0x2D) ∧ bytes = s :: (readSign bytes).2) ∨
      (readSign bytes).2 = bytes := by
  cases bytes with
  | nil => exact .inr rfl
  | cons s after =>
    simp only [readSign]
    split
    · next hs => exact .inl ⟨s, .inr (eq_of_beq hs), rfl⟩
    split
    · next hs => exact .inl ⟨s, .inl (eq_of_beq hs), rfl⟩
    · exact .inr rfl

/-- What is read as an exponent is one by the grammar, or nothing. -/
theorem exponent_of_readExponent {cut : Damage} {bytes rest : List UInt8}
    {x : Option (Bool × List UInt8)} (h : readExponent cut bytes = .ok (x, rest)) :
    ∃ e, Exponent e ∧ bytes = e ++ rest ∧ (x = none → e = []) := by
  cases bytes with
  | nil => cases h; exact ⟨[], .absent, rfl, fun _ => rfl⟩
  | cons b after =>
    simp only [readExponent] at h
    split at h
    · next hb =>
      have hb' : b = 0x65 ∨ b = 0x45 := by simpa using hb
      split at h
      · cases h
      · next hds =>
        cases h
        have hdigits := digits_of_leadingDigits hds
        have hsplit := leadingDigits_append_afterDigits (readSign after).2
        rcases readSign_eq after with ⟨s, hs, hafter⟩ | hafter
        · refine ⟨_, .signed hb' hs hdigits, ?_, fun hx => by cases hx⟩
          rw [List.cons_append, List.cons_append, hsplit, ← hafter]
        · refine ⟨_, .unsigned hb' hdigits, ?_, fun hx => by cases hx⟩
          rw [List.cons_append, hsplit, hafter]
    · cases h; exact ⟨[], .absent, rfl, fun _ => rfl⟩

/-- An exponent by the grammar is read up to its last digit. -/
theorem exists_readExponent_append (cut : Damage) {e rest : List UInt8} (h : Exponent e)
    (hrest : Delimited rest) :
    ∃ x, (e = [] → x = none) ∧ readExponent cut (e ++ rest) = .ok (x, rest) := by
  have hend := hrest.endsDigits
  cases h with
  | absent =>
    cases rest with
    | nil => exact ⟨none, fun _ => rfl, rfl⟩
    | cons b rest =>
      obtain ⟨-, h1, h2⟩ := hrest.head_ne (b := b) rfl
      exact ⟨none, fun _ => rfl, by simp [readExponent, h1, h2]⟩
  | @unsigned e ds he hds =>
    refine ⟨some (false, ds), fun he => absurd he (List.cons_ne_nil _ _), ?_⟩
    have hb : (e == 0x65 || e == 0x45) = true := by simpa using he
    -- The first digit is not taken for a sign.
    have hsign : readSign (ds ++ rest) = (false, ds ++ rest) := by
      obtain ⟨d, ds, rfl⟩ := List.exists_cons_of_ne_nil hds.1
      have hd : isDigit d := hds.2 d (by simp)
      have h1 : d ≠ 0x2D := by rintro rfl; cases hd
      have h2 : d ≠ 0x2B := by rintro rfl; cases hd
      simp [readSign, h1, h2]
    simp [readExponent, hb, hsign, leadingDigits_append hds.2 hend,
      afterDigits_append hds.2 hend, hds.1]
  | @signed e s ds he hs hds =>
    have hb : (e == 0x65 || e == 0x45) = true := by simpa using he
    have hsign : ∃ negative, readSign (s :: (ds ++ rest)) = (negative, ds ++ rest) := by
      rcases hs with rfl | rfl
      · exact ⟨false, rfl⟩
      · exact ⟨true, rfl⟩
    obtain ⟨negative, hsign⟩ := hsign
    refine ⟨some (negative, ds), fun he => absurd he (List.cons_ne_nil _ _), ?_⟩
    simp [readExponent, hb, hsign, leadingDigits_append hds.2 hend,
      afterDigits_append hds.2 hend, hds.1]

/-! ## Numbers -/

/-- The parts of a number after its sign. -/
def readParts (cut : Damage) (negative : Bool) (bytes : List UInt8) :
    Except Damage (Numeral × List UInt8) := do
  let (whole, bytes) ← readWhole cut bytes
  let (fraction, bytes) ← readFraction cut bytes
  let (exponent, bytes) ← readExponent cut bytes
  return (⟨negative, whole, fraction, exponent⟩, bytes)

/-- A minus in front makes a number negative. -/
theorem readNumeral_minus (cut : Damage) (bytes : List UInt8) :
    readNumeral cut (0x2D :: bytes) = readParts cut true bytes :=
  rfl

/-- Without a minus a number is not negative. -/
theorem readNumeral_of_head_ne (cut : Damage) {bytes : List UInt8}
    (h : ∀ b ∈ bytes.head?, b ≠ 0x2D) : readNumeral cut bytes = readParts cut false bytes := by
  cases bytes with
  | nil => rfl
  | cons b bytes =>
    have hb : (b == 0x2D) = false := by simpa using h b rfl
    rw [readNumeral, readParts]
    simp only [hb]
    rfl

/-- The text of every part of a number. -/
theorem exists_of_readParts {cut : Damage} {negative : Bool} {bytes rest : List UInt8}
    {n : Numeral} (h : readParts cut negative bytes = .ok (n, rest)) :
    n.negative = negative ∧ ∃ f e, Whole n.whole ∧ Fraction f ∧ Exponent e ∧
      (n.fraction = [] → f = []) ∧ (n.exponent = none → e = []) ∧
      bytes = n.whole ++ f ++ e ++ rest := by
  obtain ⟨⟨w, b1⟩, hw, h⟩ := bind_eq_ok_iff.1 h
  obtain ⟨⟨ds, b2⟩, hf, h⟩ := bind_eq_ok_iff.1 h
  obtain ⟨⟨x, b3⟩, he, h⟩ := bind_eq_ok_iff.1 h
  cases h
  obtain ⟨hwhole, rfl⟩ := whole_of_readWhole hw
  obtain ⟨f, hfraction, rfl, hf0⟩ := fraction_of_readFraction hf
  obtain ⟨e, hexponent, rfl, he0⟩ := exponent_of_readExponent he
  exact ⟨rfl, f, e, hwhole, hfraction, hexponent, hf0, he0, by simp only [List.append_assoc]⟩

/-- A number by the grammar is read into its three parts. -/
theorem exists_readParts_append (cut : Damage) (negative : Bool) {w f e rest : List UInt8}
    (hw : Whole w) (hf : Fraction f) (he : Exponent e) (hrest : Delimited rest) :
    ∃ x, (e = [] → x = none) ∧ readParts cut negative (w ++ f ++ e ++ rest) =
      .ok (⟨negative, w, f.drop 1, x⟩, rest) := by
  have hend := he.head_append hrest
  obtain ⟨x, hx, hexponent⟩ := exists_readExponent_append cut he hrest
  have hfraction := readFraction_append cut hf hend
  have hwhole := readWhole_append cut hw (hf.endsDigits_append fun b hb => (hend b hb).1)
  refine ⟨x, hx, ?_⟩
  rw [List.append_assoc, List.append_assoc, readParts, hwhole]
  simp only [bind, Except.bind, hfraction, hexponent]
  rfl

/-- A whole part does not begin with a minus. -/
theorem Whole.head_ne {w rest : List UInt8} (hw : Whole w) :
    ∀ b ∈ (w ++ rest).head?, b ≠ 0x2D := by
  intro b hb
  cases hw with
  | zero => cases hb; decide
  | digits hd _ _ => cases hb; rintro rfl; cases hd

/-- What a number is split into, with the text of every part. -/
theorem exists_of_readNumeral {cut : Damage} {bytes rest : List UInt8} {n : Numeral}
    (h : readNumeral cut bytes = .ok (n, rest)) :
    ∃ f e, Whole n.whole ∧ Fraction f ∧ Exponent e ∧ (n.fraction = [] → f = []) ∧
      (n.exponent = none → e = []) ∧
      bytes = (if n.negative then [0x2D] else []) ++ (n.whole ++ f ++ e) ++ rest := by
  by_cases hminus : ∀ b ∈ bytes.head?, b ≠ 0x2D
  · rw [readNumeral_of_head_ne cut hminus] at h
    obtain ⟨hneg, f, e, hw, hf, he, hf0, he0, hb⟩ := exists_of_readParts h
    exact ⟨f, e, hw, hf, he, hf0, he0, by simpa [hneg] using hb⟩
  · obtain ⟨after, rfl⟩ : ∃ after, bytes = 0x2D :: after := by
      cases bytes with
      | nil => simp at hminus
      | cons b after => exact ⟨after, by simpa using hminus⟩
    rw [readNumeral_minus] at h
    obtain ⟨hneg, f, e, hw, hf, he, hf0, he0, hb⟩ := exists_of_readParts h
    exact ⟨f, e, hw, hf, he, hf0, he0, by simpa [hneg] using hb⟩

/-- What is split off as a number is one. -/
theorem number_of_readNumeral {cut : Damage} {bytes rest : List UInt8} {n : Numeral}
    (h : readNumeral cut bytes = .ok (n, rest)) : ∃ text, Number text ∧ bytes = text ++ rest := by
  obtain ⟨f, e, hw, hf, he, -, -, hb⟩ := exists_of_readNumeral h
  refine ⟨_, ?_, hb⟩
  cases n.negative with
  | false => exact .plain hw hf he
  | true => exact .negative hw hf he

/-- A number that ends where a value can end is split off. -/
theorem exists_readNumeral_append (cut : Damage) {text rest : List UInt8} (h : Number text)
    (hrest : Delimited rest) : ∃ n, readNumeral cut (text ++ rest) = .ok (n, rest) := by
  cases h with
  | plain hw hf he =>
    obtain ⟨x, -, hx⟩ := exists_readParts_append cut false hw hf he hrest
    refine ⟨_, (readNumeral_of_head_ne cut ?_).trans hx⟩
    simpa only [List.append_assoc] using hw.head_ne
  | negative hw hf he =>
    obtain ⟨x, -, hx⟩ := exists_readParts_append cut true hw hf he hrest
    exact ⟨_, hx⟩

/-! ## Integers -/

/-- An integer literal is a number by the grammar. -/
theorem IntegerLiteral.number {z : Int} {v : List UInt8} (h : IntegerLiteral z v) : Number v := by
  cases h with
  | plain hw => simpa using Number.plain hw .absent .absent
  | negative hw _ => simpa using Number.negative hw .absent .absent

/-- A text is the literal of one integer at most. -/
theorem IntegerLiteral.unique {z z' : Int} {v : List UInt8} (h : IntegerLiteral z v)
    (h' : IntegerLiteral z' v) : z = z' := by
  -- Digits do not begin with a minus sign.
  have hne {ds : List UInt8} (hw : Whole (0x2D :: ds)) : False :=
    (@Whole.head_ne _ [] hw) 0x2D rfl rfl
  cases h with
  | plain hw =>
    cases h' with
    | plain _ => rfl
    | negative _ _ => exact (hne hw).elim
  | negative _ _ =>
    cases h' with
    | plain hw => exact (hne hw).elim
    | negative _ _ => rfl

/-- Further digits make a number no smaller. -/
theorem le_foldl_digits (n : Nat) (ds : List UInt8) :
    n ≤ ds.foldl (fun n d => n * 10 + digitValue d) n := by
  induction ds generalizing n with
  | nil => exact Nat.le_refl n
  | cons d ds ih => exact Nat.le_trans (by omega) (ih (n * 10 + digitValue d))

/-- All digits are absorbed if the number they make up fits. -/
theorem absorb_of_lt {n : Nat} {ds : List UInt8}
    (h : ds.foldl (fun n d => n * 10 + digitValue d) n < UInt64.size) :
    absorb n ds = (ds.foldl (fun n d => n * 10 + digitValue d) n, ds.length, []) := by
  induction ds generalizing n with
  | nil => rfl
  | cons d ds ih =>
    -- More digits make no number smaller, so what is read so far fits as well.
    have hlt := Nat.lt_of_le_of_lt (le_foldl_digits (n * 10 + digitValue d) ds) h
    rw [absorb, if_pos hlt, ih h]
    rfl

/-- If all digits are absorbed, the number they make up fits. -/
theorem absorb_eq_nil {n v taken : Nat} {ds : List UInt8} (hn : n < UInt64.size)
    (h : absorb n ds = (v, taken, [])) :
    v = ds.foldl (fun n d => n * 10 + digitValue d) n ∧ v < UInt64.size := by
  induction ds generalizing n taken with
  | nil => cases h; exact ⟨rfl, hn⟩
  | cons d ds ih =>
    rw [absorb] at h
    split at h
    · next hlt =>
      simp only [Prod.mk.injEq] at h
      obtain ⟨hv, -, hrest⟩ := h
      exact ih hlt (Prod.ext hv (Prod.ext rfl hrest))
    · cases h

namespace Numeral

/-- Scaling never results in an integer, however round the value. -/
theorem floatingValue_ne_integer {negative : Bool} {significand : Nat} {exponent z : Int} :
    floatingValue negative significand exponent ≠ some (.integer z) := by
  rw [floatingValue, ne_eq, Option.map_eq_some_iff]
  rintro ⟨f, -, h⟩
  cases h

/-- A negative integer has a value of its own unless it is zero or below every one of 64 bits. -/
theorem integerValue_eq_integer_iff {negative : Bool} {significand : Nat} {z : Int} :
    integerValue negative significand = .integer z ↔
      negative = false ∧ z = significand ∨
        negative = true ∧ significand ≠ 0 ∧ significand ≤ Int64.size / 2 ∧ z = -significand := by
  cases negative with
  | false => simp [integerValue, eq_comm]
  | true =>
    simp only [integerValue, Bool.not_true, Bool.false_eq_true, if_false]
    split
    · simp [*]
    split
    · simp [*, eq_comm]
    · simp [*]

/-- A number is an integer iff it has no fraction, no exponent and its digits fit 64 bits. -/
theorem quantity_eq_integer_iff {n : Numeral} {z : Int} :
    n.quantity = some (.integer z) ↔ n.fraction = [] ∧ n.exponent = none ∧
      decimalValue n.whole < UInt64.size ∧
        integerValue n.negative (decimalValue n.whole) = .integer z := by
  obtain ⟨negative, whole, fraction, exponent⟩ := n
  constructor
  · intro h
    rcases hw : absorb 0 whole with ⟨v, taken, dropped⟩
    rcases hf : absorb v fraction with ⟨v', taken', dropped'⟩
    simp only [quantity, hw, hf] at h
    cases exponent with
    | none =>
      simp only at h
      split at h
      · next hempty =>
        simp only [Bool.and_eq_true, List.isEmpty_iff] at hempty
        obtain ⟨rfl, rfl⟩ := hempty
        -- Nothing was dropped, so the digits are all of the number.
        cases hf
        obtain ⟨rfl, hlt⟩ := absorb_eq_nil (by decide) hw
        exact ⟨rfl, rfl, hlt, Option.some.inj h⟩
      · exact absurd h floatingValue_ne_integer
    | some e =>
      simp only at h
      split at h
      · exact absurd h floatingValue_ne_integer
      split at h
      · cases h
      · cases h
  · rintro ⟨rfl, rfl, hlt, hz⟩
    simp only [quantity, absorb_of_lt hlt]
    exact congrArg some hz

end Numeral

/-- A quantity is a number that is read and not out of range. -/
theorem readQuantity_eq_ok_iff {bytes rest : List UInt8} {q : Quantity} :
    readQuantity bytes = .ok (q, rest) ↔
      ∃ n, readNumeral .truncated bytes = .ok (n, rest) ∧ n.quantity = some q := by
  rw [readQuantity, bind_eq_ok_iff]
  constructor
  · rintro ⟨⟨n, after⟩, hn, h⟩
    dsimp only at h
    split at h
    · next hq => cases h; exact ⟨n, hn, hq⟩
    · cases h
  · rintro ⟨n, hn, hq⟩
    exact ⟨(n, rest), hn, by simp only [hq]; rfl⟩

/-- An integer that is read has the literal that was read. -/
theorem integerLiteral_of_readQuantity {bytes rest : List UInt8} {z : Int}
    (h : readQuantity bytes = .ok (.integer z, rest)) :
    ∃ text, IntegerLiteral z text ∧ bytes = text ++ rest := by
  obtain ⟨n, hn, hq⟩ := readQuantity_eq_ok_iff.1 h
  obtain ⟨hfraction, hexponent, -, hz⟩ := Numeral.quantity_eq_integer_iff.1 hq
  obtain ⟨f, e, hw, -, -, hf0, he0, hb⟩ := exists_of_readNumeral hn
  -- An integer has neither a fraction nor an exponent, so neither has its text.
  obtain rfl := hf0 hfraction
  obtain rfl := he0 hexponent
  rcases Numeral.integerValue_eq_integer_iff.1 hz with ⟨hneg, rfl⟩ | ⟨hneg, hne, -, rfl⟩
  · exact ⟨n.whole, .plain hw, by simpa [hneg] using hb⟩
  · exact ⟨0x2D :: n.whole, .negative hw hne, by simpa [hneg] using hb⟩

/-- An integer literal that fits 64 bits is read as its integer. -/
theorem readQuantity_append_of_integerLiteral {z : Int} {text rest : List UInt8}
    (h : IntegerLiteral z text) (hlow : -(Int64.size / 2 : Nat) ≤ z) (hhigh : z < UInt64.size)
    (hrest : Delimited rest) : readQuantity (text ++ rest) = .ok (.integer z, rest) := by
  have hsize : Int64.size / 2 < UInt64.size := by decide
  rw [readQuantity_eq_ok_iff]
  cases h with
  | plain hw =>
    obtain ⟨x, hx, hparts⟩ :=
      exists_readParts_append .truncated false hw .absent .absent hrest
    obtain rfl := hx rfl
    simp only [List.append_nil, List.drop_nil] at hparts
    have hlt : decimalValue text < UInt64.size := by omega
    refine ⟨_, (readNumeral_of_head_ne _ hw.head_ne).trans hparts, ?_⟩
    exact Numeral.quantity_eq_integer_iff.2 ⟨rfl, rfl, hlt,
      Numeral.integerValue_eq_integer_iff.2 (.inl ⟨rfl, rfl⟩)⟩
  | @negative ds hw hne =>
    obtain ⟨x, hx, hparts⟩ :=
      exists_readParts_append .truncated true hw .absent .absent hrest
    obtain rfl := hx rfl
    simp only [List.append_nil, List.drop_nil] at hparts
    have hle : decimalValue ds ≤ Int64.size / 2 := by omega
    refine ⟨_, (readNumeral_minus _ _).trans hparts, ?_⟩
    exact Numeral.quantity_eq_integer_iff.2 ⟨rfl, rfl, Nat.lt_of_le_of_lt hle hsize,
      Numeral.integerValue_eq_integer_iff.2 (.inr ⟨rfl, hne, hle, rfl⟩)⟩

end KafkaCanary.Json
