import KafkaCanary.Pattern.Basic

/-!
# Usable Patterns

Which patterns can be used. There are no tables of Unicode: neither for classes behind a backslash,
nor for the edges of words, nor for letters of one kind that differ in case. Without Unicode, a
pattern must not match a byte beyond ASCII on its own.
-/

namespace KafkaCanary

/-- How the characters of a pattern are taken. -/
structure Pattern.Mode where
  /-- Whether the case of letters does not matter. -/
  ignoreCase : Bool
  /-- Whether characters are those of Unicode and not bytes. -/
  unicode : Bool
deriving DecidableEq, Repr

/-- The mode at the beginning of a pattern. -/
def Pattern.Mode.init : Pattern.Mode :=
  ⟨false, true⟩

/-- The mode after switches. -/
def Pattern.Mode.apply (m : Pattern.Mode) (s : Switches) : Pattern.Mode :=
  ⟨s.ignoreCase.getD m.ignoreCase, s.unicode.getD m.unicode⟩

namespace CharacterSet

/-- Whether a character is one of ASCII. -/
def isAscii (c : Char) : Bool :=
  c.toNat ≤ 0x7F

mutual

/-- Whether a set can be used. -/
def isUsable (m : Pattern.Mode) : CharacterSet → Bool
  | .range first last => if m.unicode then !m.ignoreCase else isAscii first && isAscii last
  | .named negated => if m.unicode then !m.ignoreCase else !negated
  | .shorthand negated => !m.unicode && !negated
  | .property => false
  | .bracket negated set => (m.unicode || !negated) && set.isUsable m
  | .union sets => areUsable m sets
  | .operation left right => left.isUsable m && right.isUsable m

/-- Whether all sets can be used. -/
def areUsable (m : Pattern.Mode) : List CharacterSet → Bool
  | [] => true
  | set :: sets => set.isUsable m && areUsable m sets

end

end CharacterSet

namespace Pattern

mutual

/-- The mode after a pattern, if that can be used. -/
def after? (m : Mode) : Pattern → Option Mode
  | .letter c asByte =>
    if (if m.unicode then !m.ignoreCase else !asByte || CharacterSet.isAscii c) then some m
    else none
  | .anyCharacter => if m.unicode then some m else none
  | .edge => some m
  | .wordEdge => if m.unicode then none else some m
  | .shorthand negated => if m.unicode || negated then none else some m
  | .property => none
  | .bracket negated set =>
    if (CharacterSet.bracket negated set).isUsable m then some m else none
  | .switches s => some (m.apply s)
  | .repetition p => p.after? m
  | .group s p => (p.after? (m.apply s)).map fun _ => m
  | .sequence ps => afterAll? m ps
  | .choice ps => afterAll? m ps

/-- The mode after patterns, if all of them can be used. Alternatives too take switches over from
those in front of them. -/
def afterAll? (m : Mode) : List Pattern → Option Mode
  | [] => some m
  | p :: ps =>
    match p.after? m with
    | none => none
    | some m => afterAll? m ps

end

/-- How deeply a pattern may be nested. -/
def depthLimit : Nat := 250

/-- Whether a pattern can be used. -/
def isUsable (p : Pattern) : Bool :=
  p.depth ≤ depthLimit && (p.after? .init).isSome

end Pattern

end KafkaCanary
