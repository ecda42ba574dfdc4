import SqlWire.Wire.Reader

/-!
# Rows

A row is a list of cells, each NULL or octets. Rows come in batches: a count, and for each row one
field per column. `Row.readBatch` refuses a count that the payload cannot hold before it reads any
row, since every cell takes at least four octets. The product of the counts may be more than a
machine word holds, and then it is the greatest word.
-/

namespace SqlWire

/-- A cell as received; `none` is NULL. -/
abbrev Cell := Option Octets

/-- A row as received. -/
abbrev Row := List Cell

namespace Row

open Wire

/-- The octets in a cell, none for NULL. The result is absent past the last column. -/
def length? (row : Row) (index : Nat) : Option Nat :=
  row[index]?.map fun cell => (cell.getD []).length

/-- The greatest number in a machine word. -/
def maxWord : Nat := Nat.pow 2 64 - 1

/-- The product of two words, or the greatest word if it is more than that. -/
def cappedMul (a b : Nat) : Nat :=
  min (a * b) maxWord

theorem cappedMul_le (a b : Nat) : cappedMul a b ≤ a * b :=
  Nat.min_le_left _ _

/-- The octets that the cells of a batch take at least. -/
def leastLength (count columns : Nat) : Nat :=
  cappedMul (cappedMul count columns) alignment

theorem leastLength_le (count columns : Nat) :
    leastLength count columns ≤ count * columns * alignment :=
  Nat.le_trans (cappedMul_le _ _) (Nat.mul_le_mul_right _ (cappedMul_le _ _))

/-- Read one row. -/
def read (columns : Nat) : Reader Row :=
  Reader.replicate columns Reader.nullable

/-- Read a batch of rows. -/
def readBatch (columns : Nat) : Reader (List Row) := do
  let count := (← Reader.u32).toNat
  let left ← Reader.remaining
  if columns = 0 ∧ 0 < count then
    Reader.malformed (.rowsWithoutColumns count)
  else if left < leastLength count columns then
    Reader.malformed (.batchTooLarge count columns left)
  else
    Reader.replicate count (read columns)

end Row

end SqlWire
