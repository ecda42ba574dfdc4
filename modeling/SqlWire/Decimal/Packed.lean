import SqlWire.Octets

/-!
# Packed decimals

The server sends a decimal as one octet `2 * segments + sign`, one octet for a signed power of ten
thousand, and then the segments: base-10000 digits of two octets each, most significant first, in
this order in every session. The leading segment may take any 16-bit value, every later one stays
below ten thousand.

`PackedDecimal.decode` reads that form, `PackedDecimal.encode` writes it, and a value without
segments, which is zero, has no exponent octet to read.
-/

namespace SqlWire

/-- A decimal number in segments of base ten thousand. -/
structure PackedDecimal where
  /-- Whether the value is below zero. -/
  negative : Bool
  /-- The power of ten thousand that the value is multiplied by. -/
  exponent : Int8
  /-- Base-10000 digits, most significant first; the point stands after the first. -/
  segments : List UInt16
  deriving DecidableEq

namespace PackedDecimal

/-- What is wrong with a packed decimal. -/
inductive Fault where
  /-- The header octets are missing. -/
  | missingHeader
  /-- The header announces more segments than there are octets for. -/
  | truncated (segments available : Nat)
  /-- A segment after the first is no base-10000 digit. -/
  | segmentOutOfRange (segment : UInt16)
  /-- More segments than the header can announce. -/
  | tooManySegments (count : Nat)
  deriving DecidableEq

/-- One more than the greatest base-10000 digit. -/
def segmentBase : Nat := 10000

/-- The most segments that one header octet can announce. -/
def maxSegments : Nat := 127

/-- The wording of a fault. -/
def Fault.message : Fault → String
  | missingHeader => "packed decimal shorter than its header"
  | truncated segments available =>
    s!"packed decimal declares {Text.decimal segments} segments but carries " ++
      s!"{Text.decimal available} bytes"
  | segmentOutOfRange segment => s!"digit segment {Text.decimal segment.toNat} out of range"
  | tooManySegments count =>
    s!"{Text.decimal count} segments exceed the limit of {Text.decimal maxSegments}"

/-- Octets taken two at a time, each pair a number with its high octet first. -/
def pairs : Octets → List UInt16
  | high :: low :: rest => UInt16.ofNat (256 * high.toNat + low.toNat) :: pairs rest
  | _ => []

/-- The first segment that is no base-10000 digit. -/
def outOfRange? (segments : List UInt16) : Option UInt16 :=
  segments.find? fun segment => segmentBase ≤ segment.toNat

/-- Read a packed decimal. Octets after the announced segments are left unread. -/
def decode : Octets → Except Fault PackedDecimal
  | [] => .error .missingHeader
  | head :: rest =>
    let negative := head.toNat % 2 == 1
    let count := head.toNat / 2
    if count = 0 then
      .ok ⟨negative, 0, []⟩
    else
      match rest with
      | [] => .error .missingHeader
      | exponent :: body =>
        if body.length < 2 * count then
          .error (.truncated count body.length)
        else
          let segments := pairs (body.take (2 * count))
          match outOfRange? segments.tail with
          | some segment => .error (.segmentOutOfRange segment)
          | none => .ok ⟨negative, exponent.toInt8, segments⟩

/-- Write a packed decimal. -/
def encode (value : PackedDecimal) : Except Fault Octets :=
  let count := value.segments.length
  if maxSegments < count then
    .error (.tooManySegments count)
  else
    .ok (UInt8.ofNat (2 * count + value.negative.toNat) :: value.exponent.toUInt8 ::
      value.segments.flatMap fun segment => Octets.ofNat 2 segment.toNat)

/-- Whether every segment is zero. -/
def isZero (value : PackedDecimal) : Bool :=
  value.segments.all fun segment => segment == 0

end PackedDecimal

end SqlWire
