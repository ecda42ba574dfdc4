import SqlWire.Text.Digits

/-!
# Octets

What travels between client and server is a list of octets. Read with the most significant octet
first, a list of octets writes a natural number (`Octets.toNat`), and every number has its low
octets (`Octets.ofNat`).
-/

namespace SqlWire

/-- Octets as they travel, first to last. -/
abbrev Octets := List UInt8

namespace Octets

/-- The number that `bs` writes, most significant octet first. -/
def toNat (bs : Octets) : Nat :=
  bs.foldl (fun n b => 256 * n + b.toNat) 0

/-- The `width` low octets of `n`, most significant first. -/
def ofNat : Nat → Nat → Octets
  | 0, _ => []
  | width + 1, n => ofNat width (n / 256) ++ [UInt8.ofNat n]

/-- Two lowercase hexadecimal digits per octet. -/
def hex (bs : Octets) : String :=
  String.join (bs.map fun b => Text.hex 2 b.toNat)

end Octets

end SqlWire
