import SqlWire.Binary64.Shortest
import SqlWire.Decimal.Rendering

/-!
# The texts of doubles

A double is shown with the fewest digits that read back as it. In tables and values
(`Binary64.display`) the digits are laid out plainly, whatever the size of the number. In JSON
(`Binary64.json?`) a number that is too large or too small for that has an exponent, and an integer
has a fraction of zero; what is no finite number has no text there.
-/

namespace SqlWire.Binary64

open Text

/-- The text of a double: its shortest digits without an exponent, or a word. -/
def display (x : Binary64) : String :=
  if x.isNaN then "NaN"
  else if x.isInfinite then if x.negative then "-inf" else "inf"
  else if x.isZero then if x.negative then "-0" else "0"
  else
    let (c, k) := x.shortest .up
    (Scaled.mk x.negative c (-k)).plain

/-- Where a JSON number stops being written without an exponent. -/
structure ExponentRule where
  /-- The greatest power of ten below which a number is written plainly. -/
  greatest : Int
  /-- The least power of ten from which a number is written plainly. -/
  least : Int

/-- From `10 ^ (-5)` up to `10 ^ 16`. -/
def jsonRule : ExponentRule := ⟨16, -5⟩

/-- The text of a finite double in JSON. -/
def json? (x : Binary64) : Option String :=
  if x.isNaN || x.isInfinite then none
  else if x.isZero then some (if x.negative then "-0.0" else "0.0")
  else
    let (c, k) := x.shortest .even
    let value := Scaled.mk x.negative c (-k)
    let ds := digits c
    let top := (ds.length : Int) + k
    some <|
      if jsonRule.least < top ∧ top ≤ jsonRule.greatest then
        if 0 ≤ k then value.plain ++ ".0" else value.plain
      else
        let fraction := if 1 < ds.length then "." ++ ofDigitList (ds.drop 1) else ""
        value.sign ++ ofDigitList (ds.take 1) ++ fraction ++ "e" ++ signed (top - 1)

end SqlWire.Binary64
