/-!
# SQL types

The server names the type of a column by a number; `SqlType.ofId` gives the type. A number without
a type of its own stays visible, and its columns are read as octets.
-/

namespace SqlWire

/-- The type of a column. -/
inductive SqlType where
  | boolean
  | tinyInt
  | smallInt
  | integer
  | bigInt
  | uInt
  | real
  | double
  | numeric
  | date
  | time
  | timestamp
  | char
  | varChar
  | clob
  | binary
  | varBinary
  | blob
  /-- A type that has no name here. -/
  | other (id : UInt32)
  deriving DecidableEq

namespace SqlType

/-- The type that a number stands for. -/
def ofId : UInt32 → SqlType
  | 1 => boolean
  | 2 => tinyInt
  | 3 => smallInt
  | 4 => integer
  | 5 => bigInt
  | 6 => uInt
  | 7 => real
  | 8 => double
  | 9 => numeric
  | 10 => date
  | 11 => time
  | 12 => timestamp
  | 13 => char
  | 14 => varChar
  | 15 => clob
  | 16 => binary
  | 17 => varBinary
  | 18 => blob
  | id => other id

/-- The name of a type in SQL. -/
def name : SqlType → String
  | boolean => "boolean"
  | tinyInt => "tinyint"
  | smallInt => "smallint"
  | integer => "integer"
  | bigInt => "bigint"
  | uInt => "uint"
  | real => "real"
  | double => "double"
  | numeric => "number"
  | date => "date"
  | time => "time"
  | timestamp => "timestamp"
  | char => "char"
  | varChar => "varchar"
  | clob => "clob"
  | binary => "binary"
  | varBinary => "varbinary"
  | blob => "blob"
  | other _ => "unknown"

/-- Whether columns of this type hold text in the session charset. -/
def isText : SqlType → Bool
  | char | varChar | clob => true
  | _ => false

/-- Whether columns of this type hold octets as they are. -/
def isBinary : SqlType → Bool
  | binary | varBinary | blob | other _ => true
  | _ => false

end SqlType

end SqlWire
