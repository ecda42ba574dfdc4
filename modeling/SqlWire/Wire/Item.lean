import SqlWire.ByteOrder
import SqlWire.Wire.Field

/-!
# Writing payloads

A payload is written as a list of items: words of fixed width, octets as they are, and variable
fields. `encode` gives the octets of a list of items in a byte order.
-/

namespace SqlWire.Wire

/-- A piece of a payload, as its writer sees it. -/
inductive Item where
  | u8 (value : UInt8)
  | u16 (value : UInt16)
  | u32 (value : UInt32)
  | i32 (value : Int32)
  | u64 (value : UInt64)
  | i64 (value : Int64)
  /-- Octets as they are. -/
  | raw (octets : Octets)
  /-- A variable field. -/
  | field (octets : Octets)
  /-- A variable field that may be NULL. -/
  | nullable (octets : Option Octets)
  deriving DecidableEq

/-- A variable field on the wire. -/
def encodeField (order : ByteOrder) (octets : Octets) : Octets :=
  order.octets alignment octets.length ++ octets ++ List.replicate (padding octets.length) 0

/-- One item on the wire. -/
def Item.encode (order : ByteOrder) : Item → Octets
  | u8 value => [value]
  | u16 value => order.octets 2 value.toNat
  | u32 value => order.octets 4 value.toNat
  | i32 value => order.octets 4 value.toUInt32.toNat
  | u64 value => order.octets 8 value.toNat
  | i64 value => order.octets 8 value.toUInt64.toNat
  | raw octets => octets
  | field octets => encodeField order octets
  | nullable (some octets) => encodeField order octets
  | nullable none => order.octets alignment nullLength.toNat

/-- Items on the wire, one after the other. -/
def encode (order : ByteOrder) (items : List Item) : Octets :=
  items.flatMap (Item.encode order)

end SqlWire.Wire
