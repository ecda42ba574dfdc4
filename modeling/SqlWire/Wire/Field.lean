/-!
# Variable fields

A field of variable length is a four-octet length, the octets themselves, and zeros up to the next
multiple of four. The length `nullLength` stands for NULL, with neither octets nor zeros after it.
-/

namespace SqlWire.Wire

/-- Octets that the length of a field takes, and the multiple that fields are filled up to. -/
def alignment : Nat := 4

/-- Zeros after a field of `length` octets. -/
def padding (length : Nat) : Nat :=
  if length % alignment = 0 then 0 else alignment - length % alignment

/-- Octets that a field of `length` octets takes on the wire. -/
def fieldSize (length : Nat) : Nat :=
  alignment + length + padding length

/-- The length that stands for NULL. -/
def nullLength : UInt32 := 0xFFFFFFFF

end SqlWire.Wire
