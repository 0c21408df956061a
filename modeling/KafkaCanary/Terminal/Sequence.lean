/-!
# Control Sequences

Characters that a terminal obeys instead of printing. An escape character begins a control
sequence; what follows decides where the sequence ends. Plain text is what is left of a text
without its control sequences and without control characters that are no white space.
-/

namespace KafkaCanary.Terminal

/-- How a terminal takes the next character. -/
inductive Mode where
  /-- As text. -/
  | text
  /-- After an escape character. -/
  | escape
  /-- After an escape character and intermediate characters. -/
  | intermediate
  /-- Inside a control sequence proper, which ends with a letter. -/
  | control
  /-- At the beginning of a device command. -/
  | deviceEntry
  /-- After a parameter of a device command. -/
  | deviceParameter
  /-- After an intermediate character of a device command. -/
  | deviceIntermediate
  /-- Inside a string that the byte `0x9C` ends. -/
  | string
  /-- Inside a string for the operating system, which a bell ends. -/
  | command
deriving DecidableEq, Repr

/-- Whether a code point lies between two others, both included. -/
def isBetween (first last : Nat) (c : Char) : Bool :=
  first ≤ c.toNat && c.toNat ≤ last

/-- Whether a character is white space of ASCII other than the space and the vertical tab. -/
def isLayout (c : Char) : Bool :=
  c = '\t' || c = '\n' || c = '\x0c' || c = '\r'

/-- Whether a character is printed where text is expected. -/
def isText (c : Char) : Bool :=
  isBetween 0x20 0x7E c || 0x7F < c.toNat || isLayout c

namespace Mode

/-- Whether a character is printed. White space is printed inside all sequences but strings and
device commands. -/
def prints (mode : Mode) (c : Char) : Bool :=
  match mode with
  | .text => isText c
  | .escape | .intermediate | .control => isLayout c
  | _ => false

/-- The mode after the first character behind an escape character. -/
def afterEscape (c : Char) : Mode :=
  match c with
  | '[' => .control
  | ']' => .command
  | 'P' => .deviceEntry
  | 'X' | '^' | '_' => .string
  | _ =>
    if isBetween 0x20 0x2F c then .intermediate
    else if isBetween 0x30 0x7E c then .text
    else .escape

/-- The mode after a character that is neither an escape character nor one that cancels. -/
def advance (mode : Mode) (c : Char) : Mode :=
  match mode with
  | .text => .text
  | .escape => afterEscape c
  | .intermediate => if isBetween 0x30 0x7E c then .text else .intermediate
  | .control => if isBetween 0x40 0x7E c then .text else .control
  | .deviceEntry =>
    if isBetween 0x20 0x2F c then .deviceIntermediate
    else if isBetween 0x30 0x3F c then .deviceParameter
    else if isBetween 0x40 0x7E c then .string
    else .deviceEntry
  | .deviceParameter =>
    if isBetween 0x20 0x2F c then .deviceIntermediate
    else if isBetween 0x3C 0x7E c then .string
    else .deviceParameter
  | .deviceIntermediate => if isBetween 0x30 0x7E c then .string else .deviceIntermediate
  | .string => if (String.utf8EncodeChar c).contains 0x9C then .text else .string
  | .command => if c = '\x07' then .text else .command

/-- The mode after a character. An escape character begins a sequence anywhere, and two control
characters end any. -/
def next (mode : Mode) (c : Char) : Mode :=
  if c = '\x1b' then .escape
  else if c = '\x18' ∨ c = '\x1a' then .text
  else mode.advance c

end Mode

/-- What a text is made plain for. -/
inductive Medium where
  /-- For a text: white space ends the sequence it stands in. -/
  | text
  /-- For a stream: white space interrupts the sequence it stands in, which goes on with the next
  control character. -/
  | stream
deriving DecidableEq, Repr

/-- The mode after a character that was printed. -/
def Medium.modeAfter (medium : Medium) (mode : Mode) (c : Char) : Mode :=
  match medium with
  | .text => .text
  | .stream => if 0x7F < c.toNat then .text else mode

/-- The characters that are printed. While a run of text lasts, characters are taken as text. -/
def printed (medium : Medium) (mode : Mode) (run : Bool) : List Char → List Char
  | [] => []
  | c :: cs =>
    if (if run then Mode.text else mode).prints c then
      c :: printed medium (medium.modeAfter mode c) true cs
    else printed medium (mode.next c) false cs

/-- A text without control sequences. -/
def plain (medium : Medium) (s : String) : String :=
  String.ofList (printed medium .text false s.toList)

/-- A text between sequences that switch emphasis on and off. -/
def emphasized (s : String) : String :=
  "\x1b[1m" ++ s ++ "\x1b[0m"

end KafkaCanary.Terminal
