import SqlWire.Octets

/-!
# Binary floating-point numbers

A `Binary64` is the bit pattern of a number in IEEE double format, taken apart into sign, exponent
and fraction. `Binary64.ofSingle` widens a number in single format, which is always exact.
-/

namespace SqlWire

/-- The bit pattern of a double. -/
structure Binary64 where
  bits : UInt64
  deriving DecidableEq, Inhabited

namespace Binary64

/-- Bits of the fraction. -/
def fractionBits : Nat := 52

/-- The exponent field of infinities and NaNs. -/
def topExponent : Nat := 2047

/-- Whether the sign bit is set. -/
def negative (x : Binary64) : Bool := Nat.pow 2 63 ≤ x.bits.toNat

/-- The exponent field. -/
def exponentField (x : Binary64) : Nat :=
  x.bits.toNat / Nat.pow 2 fractionBits % Nat.pow 2 11

/-- The fraction field. -/
def fraction (x : Binary64) : Nat := x.bits.toNat % Nat.pow 2 fractionBits

/-- Whether this is no number. -/
def isNaN (x : Binary64) : Bool := x.exponentField == topExponent && x.fraction != 0

/-- Whether this is an infinity. -/
def isInfinite (x : Binary64) : Bool := x.exponentField == topExponent && x.fraction == 0

/-- Whether this is a zero of either sign. -/
def isZero (x : Binary64) : Bool := x.exponentField == 0 && x.fraction == 0

/-- The integer `m` such that a finite number is `m * 2 ^ power`, sign aside. -/
def significand (x : Binary64) : Nat :=
  if x.exponentField = 0 then x.fraction else Nat.pow 2 fractionBits + x.fraction

/-- The integer `q` such that a finite number is `significand * 2 ^ q`, sign aside. -/
def power (x : Binary64) : Int :=
  (max x.exponentField 1 : Nat) - (1075 : Int)

/-- The number with these fields. -/
def ofFields (negative : Bool) (exponentField fraction : Nat) : Binary64 :=
  ⟨UInt64.ofNat
    ((negative.toNat * Nat.pow 2 11 + exponentField) * Nat.pow 2 fractionBits + fraction)⟩

/-- The number with the bit pattern of a single. -/
def ofSingle (bits : UInt32) : Binary64 :=
  let n := bits.toNat
  let negative : Bool := Nat.pow 2 31 ≤ n
  let exponent := n / Nat.pow 2 23 % Nat.pow 2 8
  let fraction := n % Nat.pow 2 23
  if exponent = 255 then
    ofFields negative topExponent
      (if fraction = 0 then 0 else (fraction * Nat.pow 2 29) ||| Nat.pow 2 (fractionBits - 1))
  else if exponent = 0 then
    if fraction = 0 then ofFields negative 0 0
    else
      let top := fraction.log2
      ofFields negative (top + 874)
        ((fraction - Nat.pow 2 top) * Nat.pow 2 (fractionBits - top))
  else
    ofFields negative (exponent + 896) (fraction * Nat.pow 2 29)

end Binary64

end SqlWire
