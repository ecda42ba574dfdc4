import SqlWire.Charset
import SqlWire.Column.SqlType
import SqlWire.Wire.Item
import SqlWire.Wire.Reader

/-!
# Column descriptors

The server describes the columns of a result once for each query: a count, and for each column its
name, type, length, precision, scale, and whether it may be NULL.
-/

namespace SqlWire

/-- What the server tells about a column. -/
structure Descriptor where
  name : String
  /-- The server's number for the type. -/
  typeId : UInt32
  /-- Declared length in octets. -/
  length : UInt32
  precision : Int32
  scale : Int32
  nullable : Bool
  deriving DecidableEq

namespace Descriptor

open Wire

/-- The type of the column. -/
def sqlType (column : Descriptor) : SqlType :=
  .ofId column.typeId

/-- Read one descriptor. -/
def read (charset : Charset) : Reader Descriptor := do
  let name ← Reader.field
  let typeId ← Reader.u32
  let length ← Reader.u32
  let precision ← Reader.i32
  let scale ← Reader.i32
  let nullable ← Reader.u32
  return ⟨charset.decode name, typeId, length, precision, scale, nullable ≠ 0⟩

/-- Read a count and so many descriptors. -/
def readList (charset : Charset) : Reader (List Descriptor) := do
  let count ← Reader.u32
  Reader.replicate count.toNat (read charset)

/-- The column called `name`, letter case of ASCII letters aside: the index of the first. -/
def index? (columns : List Descriptor) (name : String) : Option Nat :=
  columns.findIdx? fun column => column.name.map Char.toLower == name.map Char.toLower

end Descriptor

end SqlWire
