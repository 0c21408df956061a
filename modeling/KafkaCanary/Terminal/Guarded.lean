/-!
# Guarded Text

A text that a terminal prints without obeying it: characters that may begin or end a control
sequence are spelled by their numbers.
-/

namespace KafkaCanary.Terminal

/-- The spelling of a character. Of the first 32 control characters only the escape character, the
bell, the backspace and the form feed are guarded against. -/
def guardedChar (c : Char) : List Char :=
  match c with
  | '\x1b' => ['\\', 'x', '1', 'b']
  | '\x07' => ['\\', 'x', '0', '7']
  | '\x08' => ['\\', 'x', '0', '8']
  | '\x0c' => ['\\', 'x', '0', 'c']
  | '\x7f' => ['\\', 'x', '7', 'f']
  | c =>
    if 0x80 ≤ c.toNat ∧ c.toNat ≤ 0x9F then
      '\\' :: 'u' :: '\x7b' :: Nat.toDigits 16 c.toNat ++ ['\x7d']
    else [c]

/-- A text without the characters that are guarded against. -/
def guarded (s : String) : String :=
  String.ofList (s.toList.flatMap guardedChar)

end KafkaCanary.Terminal
