import KafkaCanary.Decimal.Integer
import KafkaCanary.Event

/-!
# Networks

What a client needs from the world around it: connections to addresses, clocks, and a place for
events. Every wait has a deadline.
-/

namespace KafkaCanary

/-- Why the transport of bytes fails. -/
inductive TransportFault where
  /-- An address has no port. -/
  | invalidAddress
  /-- The port of an address is no number of 16 bits. -/
  | invalidPort
  /-- Nobody accepts connections at the address. -/
  | refused
  /-- There is no way to the address. -/
  | unreachable
  /-- The other side has broken the connection off. -/
  | reset
  /-- The other side has nothing more to send. -/
  | ended
  /-- The connection does not exist any more. -/
  | notConnected
deriving DecidableEq, Repr

/-- The description of a fault. -/
def TransportFault.message : TransportFault → String
  | .invalidAddress => "invalid socket address"
  | .invalidPort => "invalid port value"
  | .refused => "Connection refused (os error 111)"
  | .unreachable => "Network is unreachable (os error 101)"
  | .reset => "Connection reset by peer (os error 104)"
  | .ended => "early eof"
  | .notConnected => "Transport endpoint is not connected (os error 107)"

/-- The address of a broker. -/
structure Address where
  /-- The host. -/
  host : String
  /-- The port. -/
  port : UInt16
deriving DecidableEq, Repr

/-- Split an address at its last colon into host and port. -/
def Address.parse (s : String) : Except TransportFault Address :=
  let reversed := s.toList.reverse
  match reversed.dropWhile (· ≠ ':') with
  | [] => .error .invalidAddress
  | _ :: host =>
    match Decimal.readUInt16 (String.ofList (reversed.takeWhile (· ≠ ':')).reverse) with
    | .ok port => .ok ⟨String.ofList host.reverse, port⟩
    | .error _ => .error .invalidPort

/-- Why something asked of the network is not done. -/
inductive Mishap where
  /-- The deadline has passed. -/
  | late
  /-- The transport fails. -/
  | failed (fault : TransportFault)
deriving DecidableEq, Repr

/-- What a client can do to a world of type `N`. Times are milliseconds since the world began,
and connections have numbers that the network gives them. -/
structure Network (N : Type) where
  /-- The wall clock, in milliseconds since the epoch. -/
  now : N → Int64
  /-- The time since the world began. -/
  elapsed : N → Nat
  /-- Let time pass until the time given; it does not go back. -/
  waitUntil : Nat → N → N
  /-- Report an event. -/
  emit : Event → N → N
  /-- Open a connection before the deadline. -/
  connect : Address → Nat → N → Except Mishap Nat × N
  /-- Write bytes to a connection before the deadline. -/
  write : Nat → List UInt8 → Nat → N → Except Mishap Unit × N
  /-- Read a number of bytes from a connection before the deadline. -/
  read : Nat → Nat → Nat → N → Except Mishap (List UInt8) × N
  /-- Close a connection. -/
  shutdown : Nat → N → Except TransportFault Unit × N

end KafkaCanary
