import SqlWire.Binary64.Text
import SqlWire.Calendar.Time
import SqlWire.Charset
import SqlWire.Column.Failure
import SqlWire.Column.SqlType
import SqlWire.Decimal.Rendering
import SqlWire.Row

/-!
# Column values

The octets of a cell are read by the type of their column (`Value.read`), or by a reader that the
caller picks (`readSigned`, `readDate`, …). Numbers and temporal values follow the byte order of
the session; packed decimals do not.
-/

namespace SqlWire

/-- A column value. -/
inductive Value where
  | null
  | boolean (value : Bool)
  | signed (value : Int)
  | unsigned (value : Nat)
  | float (value : Binary64)
  /-- A decimal in the form that the server shows. -/
  | decimal (text : String)
  | date (value : Date)
  | time (value : TimeOfDay)
  | timestamp (value : Timestamp)
  | text (value : String)
  | octets (value : Octets)
  deriving DecidableEq

/-- The text of a value. -/
def Value.display : Value → String
  | null => "NULL"
  | boolean value => if value then "true" else "false"
  | signed value => Text.signed value
  | unsigned value => Text.decimal value
  | float value => value.display
  | decimal shown => shown
  | date value => value.text
  | time value => value.text
  | timestamp value => value.text
  | text value => value
  | octets value => "0x" ++ value.hex

namespace Column

/-! ## Readers of single cells -/

/-- Whether an integer can take so many octets. -/
def isIntegerWidth (width : Nat) : Bool :=
  width == 1 || width == 2 || width == 4 || width == 8

/-- The two's-complement number of `width` octets that writes the natural number `n`. -/
def twosComplement (width n : Nat) : Int :=
  if 2 * n < Nat.pow 256 width then n else n - (Nat.pow 256 width : Int)

/-- A signed integer of one, two, four or eight octets. -/
def readSigned (order : ByteOrder) (cell : Octets) : Except Unreadable Int :=
  if isIntegerWidth cell.length then .ok (twosComplement cell.length (order.toNat cell))
  else .error ⟨.signed, .width cell.length⟩

/-- An unsigned integer of one, two, four or eight octets. -/
def readUnsigned (order : ByteOrder) (cell : Octets) : Except Unreadable Nat :=
  if isIntegerWidth cell.length then .ok (order.toNat cell)
  else .error ⟨.unsigned, .width cell.length⟩

/-- A single or a double. -/
def readFloat (order : ByteOrder) (cell : Octets) : Except Unreadable Binary64 :=
  match cell.length with
  | 4 => .ok (.ofSingle (UInt32.ofNat (order.toNat cell)))
  | 8 => .ok ⟨UInt64.ofNat (order.toNat cell)⟩
  | width => .error ⟨.float, .width width⟩

/-- One octet; all but zero are true. -/
def readBoolean (cell : Octets) : Except Unreadable Bool :=
  match cell with
  | [octet] => .ok (octet != 0)
  | _ => .error ⟨.boolean, .width cell.length⟩

/-- Days from 1970-01-01, a signed integer of four octets. -/
def readDate (order : ByteOrder) (cell : Octets) : Except Unreadable Date :=
  if cell.length = 4 then
    let day := twosComplement 4 (order.toNat cell)
    match Date.ofDay? day with
    | some date => .ok date
    | none => .error ⟨.date, .dayOutOfRange day⟩
  else .error ⟨.date, .width cell.length⟩

/-- Microseconds since midnight, a signed integer of eight octets. -/
def readTime (order : ByteOrder) (cell : Octets) : Except Unreadable TimeOfDay :=
  if cell.length = 8 then
    let microseconds := twosComplement 8 (order.toNat cell)
    if 0 ≤ microseconds ∧ microseconds < microsecondsPerDay then
      match TimeOfDay.ofSeconds? (microseconds / microsecondsPerSecond).toNat
          (microseconds % microsecondsPerSecond).toNat with
      | some time => .ok time
      | none => .error ⟨.time, .noTimeOfDay⟩
    else .error ⟨.time, .notWithinDay microseconds⟩
  else .error ⟨.time, .width cell.length⟩

/-- Microseconds from the start of 1970, a signed integer of eight octets. -/
def readTimestamp (order : ByteOrder) (cell : Octets) : Except Unreadable Timestamp :=
  if cell.length = 8 then
    let microseconds := twosComplement 8 (order.toNat cell)
    match Timestamp.ofMicroseconds? microseconds with
    | some timestamp => .ok timestamp
    | none => .error ⟨.timestamp, .instantOutOfRange microseconds⟩
  else .error ⟨.timestamp, .width cell.length⟩

/-- The text of a packed decimal. -/
def readDecimal (cell : Octets) : Except Unreadable String :=
  match PackedDecimal.decode cell with
  | .ok value => .ok value.display
  | .error fault => .error ⟨.decimal, .decimal fault⟩

end Column

open Column in
/-- Read a cell by the type of its column. -/
def Value.read (type : SqlType) (order : ByteOrder) (charset : Charset) :
    Cell → Except Unreadable Value
  | none => .ok null
  | some cell =>
    match type with
    | .boolean => boolean <$> readBoolean cell
    | .tinyInt | .smallInt | .integer | .bigInt => signed <$> readSigned order cell
    | .uInt => unsigned <$> readUnsigned order cell
    | .real | .double => float <$> readFloat order cell
    | .numeric => decimal <$> readDecimal cell
    | .date => date <$> readDate order cell
    | .time => time <$> readTime order cell
    | .timestamp => timestamp <$> readTimestamp order cell
    | .char | .varChar | .clob => .ok (text (charset.decode cell))
    | .binary | .varBinary | .blob | .other _ => .ok (octets cell)

end SqlWire
