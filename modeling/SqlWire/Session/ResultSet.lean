import SqlWire.Column.Value
import SqlWire.Session.Cursor
import SqlWire.Session.Statement

/-!
# Result sets

A result set streams the rows of a query: it buffers one batch behind a cursor and asks the server
for the next one when a step forward finds no more rows (`ResultSet.next`). All other moves stay
within the batch. A failed fetch aborts the result: no row is read from it any more.

Columns are counted from zero, rows from one and across all batches.
-/

namespace SqlWire

/-- The rows of a query, with the statement that ran it. -/
structure ResultSet where
  statement : Statement
  columns : List Descriptor
  cursor : Cursor
  order : ByteOrder
  charset : Charset
  /-- Rows of the batches before this one. -/
  rowOffset : Nat := 0
  /-- Rows that the query changed. -/
  affected : UInt64
  /-- Whether a fetch failed. -/
  aborted : Bool := false
  deriving DecidableEq

/-- Run a query for its rows. -/
def Statement.query (text : String) : Action Statement ResultSet := do
  let (reply, columns) ← run text
  let st ← Action.get
  return {
    statement := st
    columns := columns
    cursor := .ofBatch (reply.rows.getD []) reply.hasMore
    order := st.session.order
    charset := st.session.charset
    affected := reply.affected }

namespace ResultSet

/-- Act on the statement. -/
def onStatement {α : Type} (x : Action Statement α) : Action ResultSet α :=
  .within statement (fun st rs => { rs with statement := st }) x

/-- Refuse a result that was aborted. -/
def check (rs : ResultSet) : Except Error Unit :=
  if rs.aborted then .error .resultAborted else .ok ()

/-- Count the row in an error across all batches. -/
def acrossBatches (rs : ResultSet) : Error → Error
  | .rowReleased row => .rowReleased (rs.rowOffset + row)
  | e => e

/-! ## Moving -/

/-- Step to the next row, with a fetch if the batch is used up and the server holds more. An
abandoned fetch does not abort the result, but its session is broken. -/
def next : Action ResultSet Bool := fun rs =>
  match rs.check with
  | .error e => (.failed e, rs)
  | .ok () =>
    let (moved, cursor) := rs.cursor.advance
    let rs := { rs with cursor := cursor }
    if moved then (.done true, rs)
    else if !cursor.hasMore then (.done false, rs)
    else
      match onStatement (Statement.fetch rs.columns.length) rs with
      | (.done reply, rs) =>
        let (moved, cursor) := (Cursor.ofBatch reply.rows reply.hasMore).advance
        (.done moved, { rs with
          rowOffset := rs.rowOffset + rs.cursor.total
          cursor := cursor })
      | (.failed e, rs) => (.failed e, { rs with aborted := true })
      | (.suspended, rs) => (.suspended, rs)

/-- Move within the batch. A move that fails leaves the result as it was. -/
def move (f : Cursor → Except Error (Bool × Cursor)) : Action ResultSet Bool := fun rs =>
  match rs.check with
  | .error e => (.failed e, rs)
  | .ok () =>
    match f rs.cursor with
    | .ok (onRow, cursor) => (.done onRow, { rs with cursor := cursor })
    | .error e => (.failed (rs.acrossBatches e), rs)

/-- Move one row back. -/
def previous : Action ResultSet Bool := move Cursor.previous

/-- Move to a row of the batch by its number in the batch. -/
def absolute (row : Int) : Action ResultSet Bool := move (Cursor.absolute row)

/-- Move so many rows on. -/
def relative (offset : Int) : Action ResultSet Bool := move (Cursor.relative offset)

/-- Move to the first row of the batch. -/
def first : Action ResultSet Bool := move Cursor.first

/-- Move to the last row of the batch. -/
def last : Action ResultSet Bool := move Cursor.last

/-- Move to a place of the batch that is no row. -/
def leave (f : Cursor → Cursor) : Action ResultSet Unit := fun rs =>
  match rs.check with
  | .error e => (.failed e, rs)
  | .ok () => (.done (), { rs with cursor := f rs.cursor })

/-- Move before the first row of the batch. -/
def beforeFirst : Action ResultSet Unit := leave Cursor.beforeFirst

/-- Move behind the last row of the batch. -/
def afterLast : Action ResultSet Unit := leave Cursor.afterLast

/-! ## Reading -/

/-- The number of the current row across all batches. -/
def rowNumber? (rs : ResultSet) : Option Nat :=
  if rs.aborted || !rs.cursor.onRow then none
  else some (rs.rowOffset + rs.cursor.position.toNat + 1)

/-- Whether the server holds more rows than the batch. -/
def hasMore (rs : ResultSet) : Bool := rs.cursor.hasMore

/-- The column called `name`, letter case of ASCII letters aside. -/
def columnIndex? (rs : ResultSet) (name : String) : Option Nat :=
  Descriptor.index? rs.columns name

/-- The current row. -/
def row (rs : ResultSet) : Except Error Row := do
  rs.check
  match rs.cursor.current with
  | .ok row => return row
  | .error e => throw (rs.acrossBatches e)

/-- The descriptor of a column. -/
def column (rs : ResultSet) (index : Nat) : Except Error Descriptor :=
  match rs.columns[index]? with
  | some column => .ok column
  | none => .error (.columnOutOfRange index rs.columns.length)

/-- A cell of the current row. -/
def cell (rs : ResultSet) (index : Nat) : Except Error Cell := do
  let _ ← rs.column index
  let row ← rs.row
  match row[index]? with
  | some cell => return cell
  | none => throw (.columnOutOfRange index rs.columns.length)

/-- Whether a cell of the current row is NULL. -/
def isNull (rs : ResultSet) (index : Nat) : Except Error Bool := do
  return (← rs.cell index).isNone

/-- Name the column in what went wrong with it. -/
def named {α : Type} (column : Descriptor) : Except Unreadable α → Except Error α
  | .ok a => .ok a
  | .error failure => .error (.unreadable column.name failure)

/-- A cell of the current row, read as its column says. -/
def value (rs : ResultSet) (index : Nat) : Except Error Value := do
  let column ← rs.column index
  let cell ← rs.cell index
  named column (Value.read column.sqlType rs.order rs.charset cell)

/-- A cell of the current row, read as the caller says; nothing for NULL. -/
def typed {α : Type} (rs : ResultSet) (index : Nat)
    (reader : ByteOrder → Octets → Except Unreadable α) : Except Error (Option α) := do
  match ← rs.cell index with
  | none => return none
  | some octets =>
    let column ← rs.column index
    return some (← named column (reader rs.order octets))

/-- A cell of the current row as text; nothing for NULL. -/
def text (rs : ResultSet) (index : Nat) : Except Error (Option String) := do
  match ← rs.value index with
  | .null => return none
  | value => return some value.display

/-- All cells of the current row, read as their columns say. -/
def values (rs : ResultSet) : Except Error (List Value) :=
  (List.range rs.columns.length).mapM rs.value

end ResultSet

end SqlWire
