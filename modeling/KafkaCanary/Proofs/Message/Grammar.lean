import KafkaCanary.Message.Reader
import KafkaCanary.Proofs.Json.Grammar

/-!
# The grammar of messages

The bytes that hold a message (`Document`). A message is written as a list of its three values, or
as an object that has each of the three members exactly once, in any order and among any others.
Texts, integers and everything else follow the grammar of JSON documents.

## Main definitions

* `Item`: what a member of an object says, with the values it can have;
* `Members`, `Elements`: what stands in an object and in a list;
* `Document`: the bytes that hold a message.
-/

namespace KafkaCanary.Message

open Json

/-- What a member of an object says. -/
inductive Item where
  /-- Who sent the message. -/
  | producerId (s : String)
  /-- The number of the message. -/
  | messageId (n : UInt64)
  /-- When the message was made. -/
  | timestamp (t : Int64)
  /-- Something else, under the given key. -/
  | other (key : String)
deriving DecidableEq, Repr

namespace Item

/-- The field that a member gives. -/
def field? : Item → Option Field
  | .producerId _ => some .producerId
  | .messageId _ => some .messageId
  | .timestamp _ => some .timestamp
  | .other _ => none

/-- The key of a member. -/
def key : Item → String
  | .producerId _ => Field.producerId.name
  | .messageId _ => Field.messageId.name
  | .timestamp _ => Field.timestamp.name
  | .other key => key

/-- The bytes that a member can have as its value. -/
def Value : Item → List UInt8 → Prop
  | .producerId s, v => Quoted s v
  | .messageId n, v => IntegerLiteral n.toNat v
  | .timestamp t, v => IntegerLiteral t.toInt v
  | .other key, v => (∀ field : Field, key ≠ field.name) ∧ Derives .value v

end Item

/-- A key, a colon and a value, with blanks before each. -/
inductive Pair (item : Item) : List UInt8 → Prop
  /-- The parts one after the other. -/
  | mk {w k w1 w2 v : List UInt8} : Blanks w → Quoted item.key k → Blanks w1 → Blanks w2 →
      item.Value v → Pair item (w ++ k ++ w1 ++ 0x3A :: (w2 ++ v))

/-- The members of an object, one at least, with commas between them. -/
inductive Members : List Item → List UInt8 → Prop
  /-- The last member. -/
  | last {item : Item} {p w : List UInt8} : Pair item p → Blanks w → Members [item] (p ++ w)
  /-- A member with others after it. -/
  | more {item : Item} {items : List Item} {p w ms : List UInt8} : Pair item p → Blanks w →
      Members items ms → Members (item :: items) (p ++ w ++ 0x2C :: ms)

/-- The members that a message needs. -/
def items (m : Message) : List Item :=
  [.producerId m.producerId, .messageId m.messageId, .timestamp m.timestamp]

/-- The elements of the list that stands for a message. -/
inductive Elements (m : Message) : List UInt8 → Prop
  /-- The three values with commas between them. -/
  | mk {w1 v1 w2 w3 v2 w4 w5 v3 w6 : List UInt8} :
      Blanks w1 → Quoted m.producerId v1 → Blanks w2 →
      Blanks w3 → IntegerLiteral m.messageId.toNat v2 → Blanks w4 →
      Blanks w5 → IntegerLiteral m.timestamp.toInt v3 → Blanks w6 →
        Elements m (w1 ++ v1 ++ w2 ++ 0x2C :: (w3 ++ v2 ++ w4 ++ 0x2C :: (w5 ++ v3 ++ w6)))

/-- The bytes that hold a message. -/
inductive Document (m : Message) : List UInt8 → Prop
  /-- A list of the three values. -/
  | list {w es w' : List UInt8} : Blanks w → Elements m es → Blanks w' →
      Document m (w ++ 0x5B :: (es ++ 0x5D :: w'))
  /-- An object with each of the three members exactly once. -/
  | object {w ms w' : List UInt8} {items : List Item} : Blanks w → Members items ms →
      (items.filter (·.field?.isSome)).Perm m.items → Blanks w' →
        Document m (w ++ 0x7B :: (ms ++ 0x7D :: w'))

end KafkaCanary.Message
