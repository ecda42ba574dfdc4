import SqlWire.Octets

/-!
# Byte order

The server announces once, in its answer to the preamble, which octet of a number comes first.
Both orders are reduced to one: `ByteOrder.arrange` puts the most significant octet first, and
numbers are read from and written to that arrangement.
-/

namespace SqlWire

/-- Which octet of a number comes first on the wire. -/
inductive ByteOrder where
  | little
  | big
  deriving DecidableEq, Inhabited

namespace ByteOrder

/-- The flag that announces a byte order. -/
def flag : ByteOrder → UInt8
  | little => 0
  | big => 1

/-- The byte order that a flag announces. -/
def ofFlag? : UInt8 → Option ByteOrder
  | 0 => some little
  | 1 => some big
  | _ => none

/-- Turns octets in wire order into most-significant-first order, and back. -/
def arrange : ByteOrder → Octets → Octets
  | little, bs => bs.reverse
  | big, bs => bs

/-- The number that `bs` writes in this order. -/
def toNat (order : ByteOrder) (bs : Octets) : Nat :=
  Octets.toNat (order.arrange bs)

/-- The `width` low octets of `n` in this order. -/
def octets (order : ByteOrder) (width n : Nat) : Octets :=
  order.arrange (Octets.ofNat width n)

end ByteOrder

end SqlWire
