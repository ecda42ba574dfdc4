import SqlWire.Decimal.Packed

/-!
# Why a column cannot be read

A column value that does not have the form its reader asks for is refused with the reader's
target and a reason.
-/

namespace SqlWire

/-- What a column was to be read as. -/
inductive Target where
  | signed
  | unsigned
  | float
  | boolean
  | decimal
  | date
  | time
  | timestamp
  deriving DecidableEq

/-- The name of a target in messages. -/
def Target.name : Target → String
  | signed => "i64"
  | unsigned => "u64"
  | float => "f64"
  | boolean => "bool"
  | decimal => "number"
  | date => "date"
  | time => "time"
  | timestamp => "timestamp"

/-- Why the octets of a column do not make the target. -/
inductive UnreadableReason where
  /-- No form of the target has this many octets. -/
  | width (octets : Nat)
  /-- The day lies outside the calendar. -/
  | dayOutOfRange (day : Int)
  /-- The count of microseconds is no time of day. -/
  | notWithinDay (microseconds : Int)
  /-- The seconds and microseconds make no time of day. -/
  | noTimeOfDay
  /-- The instant lies outside the calendar. -/
  | instantOutOfRange (microseconds : Int)
  /-- The packed decimal is faulty. -/
  | decimal (fault : PackedDecimal.Fault)
  /-- A reason in the words of a caller. -/
  | note (text : String)
  deriving DecidableEq

/-- The wording of a reason. -/
def UnreadableReason.message : UnreadableReason → String
  | width octets => "unexpected width " ++ Text.decimal octets
  | dayOutOfRange day => "day " ++ Text.signed day ++ " out of range"
  | notWithinDay microseconds => Text.signed microseconds ++ " microseconds past midnight"
  | noTimeOfDay => "invalid time of day"
  | instantOutOfRange microseconds => Text.signed microseconds ++ " out of range"
  | decimal fault => fault.message
  | note text => text

/-- A column that cannot be read: what it was to be read as, and why it is not that. -/
structure Unreadable where
  target : Target
  reason : UnreadableReason
  deriving DecidableEq

end SqlWire
