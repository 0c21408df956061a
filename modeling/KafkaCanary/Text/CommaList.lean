import KafkaCanary.Text.Blank

/-!
# Comma-Separated Lists

A comma-separated list names its entries between commas. Blanks around an entry do not
belong to it, and an entry of blanks alone is none.
-/

namespace KafkaCanary.Text

/-- The pieces of a text between its commas. There is always one piece more than commas. -/
def commaPieces : List Char → List (List Char)
  | [] => [[]]
  | c :: cs =>
    if c = ',' then
      [] :: commaPieces cs
    else
      match commaPieces cs with
      | [] => [[c]]
      | piece :: pieces => (c :: piece) :: pieces

/-- The entries of a comma-separated list in order: its trimmed pieces, without the empty ones. -/
def entriesOfChars (cs : List Char) : List (List Char) :=
  ((commaPieces cs).map trim).filter (!·.isEmpty)

/-- The entries of a comma-separated list in order. -/
def entries (s : String) : List String :=
  (entriesOfChars s.toList).map String.ofList

end KafkaCanary.Text
