import SqlWire.Decimal.Packed

/-!
# The text of packed decimals

The server shows a decimal as plain digits with a point as long as its estimated precision stays
within `plainPrecision`, and in scientific form beyond that, in both forms without zeros at the end
of the fraction. `PackedDecimal.display` follows that convention: it reads the written digits as an
integer with a decimal scale (`Scaled`), strips the zeros, and lays the digits out.

`PackedDecimal.intermediate` is the form before that, in which the segments are still visible.
-/

namespace SqlWire

open Text

/-- The value `coefficient * 10 ^ (-scale)`, or its negation. -/
structure Scaled where
  negative : Bool
  coefficient : Nat
  scale : Int
  deriving DecidableEq

namespace Scaled

/-- Divide out the powers of ten of the coefficient. -/
def stripped (value : Scaled) : Scaled :=
  if h : value.coefficient ≠ 0 ∧ value.coefficient % 10 = 0 then
    stripped ⟨value.negative, value.coefficient / 10, value.scale - 1⟩
  else
    value
termination_by value.coefficient
decreasing_by exact Nat.div_lt_self (Nat.pos_of_ne_zero h.1) (by decide)

/-- The sign of a value below zero. -/
def sign (value : Scaled) : String :=
  if value.negative then "-" else ""

/-- Zeros, as digits. -/
def zeros (n : Nat) : List Nat :=
  List.replicate n 0

/-- Plain digits, with a point where the scale asks for one. -/
def plain (value : Scaled) : String :=
  let ds := digits value.coefficient
  if value.scale ≤ 0 then
    value.sign ++ ofDigitList (ds ++ zeros (-value.scale).toNat)
  else
    let scale := value.scale.toNat
    if scale < ds.length then
      let whole := ds.length - scale
      value.sign ++ ofDigitList (ds.take whole) ++ "." ++ ofDigitList (ds.drop whole)
    else
      value.sign ++ "0." ++ ofDigitList (zeros (scale - ds.length) ++ ds)

/-- One digit before the point, the others after it, and the power of ten with its sign. -/
def scientific (value : Scaled) : String :=
  let ds := digits value.coefficient
  let power := (ds.length : Int) - 1 - value.scale
  let fraction := if 1 < ds.length then "." ++ ofDigitList (ds.drop 1) else ""
  value.sign ++ ofDigitList (ds.take 1) ++ fraction ++ "E" ++ withSign power

end Scaled

namespace PackedDecimal

/-- The greatest estimated precision that is shown as plain digits. -/
def plainPrecision : Nat := 40

/-- Decimal places that one segment takes. -/
def segmentWidth : Nat := 4

/-- The digits in the order written: the leading segment as it is, later ones four wide. -/
def writtenDigits (value : PackedDecimal) : List Nat :=
  match value.segments with
  | [] => [0]
  | lead :: rest =>
    digits lead.toNat ++ rest.flatMap fun segment => padded segmentWidth segment.toNat

/-- Signed power of ten that the exponent stands for. -/
def powerOfTen (value : PackedDecimal) : Int :=
  segmentWidth * value.exponent.toInt

/-- The value as an integer and a decimal scale. -/
def scaled (value : PackedDecimal) : Scaled where
  negative := value.negative
  coefficient := ofDigits value.writtenDigits
  scale := (segmentWidth * value.segments.tail.length : Nat) - value.powerOfTen

/-- The segments with the point after the first and the exponent, if any, at the end. -/
def intermediate (value : PackedDecimal) : String :=
  match value.segments with
  | [] => "0"
  | lead :: rest =>
    let sign := if value.negative then "-" else ""
    let fraction :=
      if rest.isEmpty then ""
      else "." ++ ofDigitList (rest.flatMap fun segment => padded segmentWidth segment.toNat)
    let power := if value.exponent = 0 then "" else "E" ++ withSign value.powerOfTen
    sign ++ decimal lead.toNat ++ fraction ++ power

/-- The digits that count for the choice of form: those of the leading segment and four for each
later one. -/
def estimatedPrecision (value : PackedDecimal) : Nat :=
  match value.segments with
  | [] => 1
  | lead :: rest => (digits lead.toNat).length + segmentWidth * rest.length

/-- The text the server shows for a decimal. -/
def display (value : PackedDecimal) : String :=
  if value.scaled.coefficient = 0 then "0"
  else if value.estimatedPrecision ≤ plainPrecision then value.scaled.stripped.plain
  else value.scaled.stripped.scientific

end PackedDecimal

end SqlWire
