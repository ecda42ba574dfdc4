import SqlWire.ByteOrder
import SqlWire.Error
import SqlWire.Wire.Field

/-!
# Reading payloads

A `Reader` takes octets from the front of what is left of a payload. It returns a value or an
error, and in either case what is left then: a word that is not complete is not touched, while a
field whose body is missing has given up its length.
-/

namespace SqlWire.Wire

/-- Reads a value from the front of a payload and leaves the rest. -/
def Reader (α : Type) : Type :=
  ByteOrder → Octets → Except Error α × Octets

namespace Reader

variable {α β : Type}

/-- Read nothing. -/
protected def pure (a : α) : Reader α := fun _ left => (.ok a, left)

/-- Read nothing and give up. -/
def fail (e : Error) : Reader α := fun _ left => (.error e, left)

/-- Read one value, then what depends on it; an error ends the reading. -/
protected def bind (r : Reader α) (f : α → Reader β) : Reader β := fun order left =>
  match r order left with
  | (.ok a, left) => f a order left
  | (.error e, left) => (.error e, left)

instance : Monad Reader where
  pure := Reader.pure
  bind := Reader.bind

/-- The number of octets that are left. -/
def remaining : Reader Nat := fun _ left => (.ok left.length, left)

/-- Give up with a fault of the payload. -/
def malformed (fault : Malformation) : Reader α := fail (.malformed fault)

/-- The next `n` octets; if there are fewer, the `part` is missing and nothing is taken. -/
def take (part : Part) (n : Nat) : Reader Octets := fun _ left =>
  if left.length < n then (.error (.malformed (.short part n left.length)), left)
  else (.ok (left.take n), left.drop n)

/-- The next `width` octets as a number in the byte order of the payload. -/
def word (part : Part) (width : Nat) : Reader Nat := fun order left =>
  match take part width order left with
  | (.ok octets, left) => (.ok (order.toNat octets), left)
  | (.error e, left) => (.error e, left)

/-- One octet. -/
def u8 : Reader UInt8 := do return UInt8.ofNat (← word .octet 1)

/-- An unsigned number of two octets. -/
def u16 : Reader UInt16 := do return UInt16.ofNat (← word .word16 2)

/-- An unsigned number of four octets. -/
def u32 : Reader UInt32 := do return UInt32.ofNat (← word .word32 4)

/-- A signed number of four octets. -/
def i32 : Reader Int32 := do return (← u32).toInt32

/-- An unsigned number of eight octets. -/
def u64 : Reader UInt64 := do return UInt64.ofNat (← word .word64 8)

/-- The next `n` octets as they are. -/
def raw (n : Nat) : Reader Octets := take .rawOctets n

/-- A variable field; `none` for NULL. -/
def nullable : Reader (Option Octets) := do
  let length ← u32
  if length = nullLength then
    return none
  else
    let n := length.toNat
    return some ((← take .fieldBody (n + padding n)).take n)

/-- A variable field that must not be NULL. -/
def field : Reader Octets := do
  match ← nullable with
  | some octets => return octets
  | none => malformed .unexpectedNull

/-- The octets up to the first zero, which is taken too, or all that are left. -/
def untilZero : Reader Octets := fun _ left =>
  (.ok (left.takeWhile (· != 0)), (left.dropWhile (· != 0)).drop 1)

/-- `n` values, one after the other. -/
def replicate (n : Nat) (r : Reader α) : Reader (List α) :=
  go n []
where
  /-- Reads `n` more values behind those of `read`, which is in reverse. -/
  go : Nat → List α → Reader (List α)
    | 0, read => Reader.pure read.reverse
    | n + 1, read => Reader.bind r fun a => go n (a :: read)

end Reader

end SqlWire.Wire
