import SqlWire.Row

/-!
# Cursors

A cursor moves over a batch of rows. Its position runs from `-1`, before the first row, to the
number of rows, after the last. A step forward onto row `i` releases row `i - 2`, so that a forward
scan holds two rows at a time. A released row cannot be moved onto again: the attempt fails and
leaves the cursor in place.
-/

namespace SqlWire

/-- A batch of rows with a position. -/
structure Cursor where
  /-- The rows of the batch; a released one is gone. -/
  rows : List (Option Row)
  position : Int := -1
  /-- Whether the server holds more rows than this batch. -/
  hasMore : Bool
  deriving DecidableEq

namespace Cursor

/-- A cursor before the first row of a batch. -/
def ofBatch (rows : List Row) (hasMore : Bool) : Cursor :=
  { rows := rows.map some, hasMore := hasMore }

/-- The number of rows, released ones included. -/
def total (cursor : Cursor) : Nat := cursor.rows.length

/-- Whether a position is that of a row. -/
def isRow (cursor : Cursor) (position : Int) : Bool :=
  0 ≤ position && position < cursor.total

/-- Whether the cursor is on a row. -/
def onRow (cursor : Cursor) : Bool := cursor.isRow cursor.position

/-- Whether the row at a position is released. -/
def isReleased (cursor : Cursor) (position : Int) : Bool :=
  0 ≤ position && cursor.rows[position.toNat]? == some none

/-- Step forward and let go of the row two places back. False past the last row. -/
def advance (cursor : Cursor) : Bool × Cursor :=
  if cursor.position ≥ cursor.total then (false, cursor)
  else
    let moved := { cursor with position := cursor.position + 1 }
    if !moved.onRow then (false, moved)
    else if 2 ≤ moved.position then
      (true, { moved with rows := moved.rows.set (moved.position - 2).toNat none })
    else (true, moved)

/-- The nearest position to `target` that a cursor can have. -/
def clamp (cursor : Cursor) (target : Int) : Int :=
  max (-1) (min target cursor.total)

/-- Move to the position nearest to `target`. True on a row. -/
def moveTo (cursor : Cursor) (target : Int) : Except Error (Bool × Cursor) :=
  let target := cursor.clamp target
  if cursor.isReleased target then .error (.rowReleased (target.toNat + 1))
  else
    let moved := { cursor with position := target }
    .ok (moved.onRow, moved)

/-- Move one row back. -/
def previous (cursor : Cursor) : Except Error (Bool × Cursor) :=
  cursor.moveTo (cursor.position - 1)

/-- The position of a row number, counted from one, or from the end if it is negative. Zero stands
for the place before the first row. -/
def positionOf (cursor : Cursor) (row : Int) : Int :=
  if 0 ≤ row then row - 1 else cursor.total + row

/-- Move to a row by its number. -/
def absolute (row : Int) (cursor : Cursor) : Except Error (Bool × Cursor) :=
  cursor.moveTo (cursor.positionOf row)

/-- Move so many rows on. -/
def relative (offset : Int) (cursor : Cursor) : Except Error (Bool × Cursor) :=
  cursor.moveTo (cursor.position + offset)

/-- Move to the first row. -/
def first : Cursor → Except Error (Bool × Cursor) := absolute 1

/-- Move to the last row. -/
def last : Cursor → Except Error (Bool × Cursor) := absolute (-1)

/-- Move before the first row. -/
def beforeFirst (cursor : Cursor) : Cursor := { cursor with position := -1 }

/-- Move behind the last row. -/
def afterLast (cursor : Cursor) : Cursor := { cursor with position := cursor.total }

/-- The row that the cursor is on. -/
def current (cursor : Cursor) : Except Error Row :=
  if !cursor.onRow then .error .noCurrentRow
  else
    match cursor.rows[cursor.position.toNat]? with
    | some (some row) => .ok row
    | _ => .error (.rowReleased (cursor.position.toNat + 1))

end Cursor

end SqlWire
