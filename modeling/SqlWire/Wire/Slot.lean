import SqlWire.Wire.Item
import SqlWire.Wire.Reader

/-!
# Slots

A slot says what kind of item stands at a place of a payload. Reading a slot gives the item that
stands there; `Slot.trace` reads slot after slot and goes on after an error from wherever the reader
stands then.
-/

namespace SqlWire.Wire

/-- The kind of item at a place of a payload. -/
inductive Slot where
  | u8
  | u16
  | u32
  | i32
  | u64
  /-- So many octets as they are. -/
  | raw (count : Nat)
  | field
  | nullable
  /-- Octets up to a zero. -/
  | untilZero
  deriving DecidableEq

namespace Slot

/-- Read the item in a slot. -/
def read : Slot → Reader Item
  | u8 => return .u8 (← Reader.u8)
  | u16 => return .u16 (← Reader.u16)
  | u32 => return .u32 (← Reader.u32)
  | i32 => return .i32 (← Reader.i32)
  | u64 => return .u64 (← Reader.u64)
  | raw count => return .raw (← Reader.raw count)
  | field => return .field (← Reader.field)
  | nullable => return .nullable (← Reader.nullable)
  | untilZero => return .raw (← Reader.untilZero)

/-- Read slot after slot, whatever becomes of each. Every entry holds the outcome of one slot and
the octets left after it. -/
def trace (order : ByteOrder) : List Slot → Octets → List (Except Error Item × Octets)
  | [], _ => []
  | slot :: slots, left =>
    let step := slot.read order left
    step :: trace order slots step.2

end Slot

end SqlWire.Wire
