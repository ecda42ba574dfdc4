import SqlWire.ByteOrder
import SqlWire.Error
import SqlWire.Frame.Command

/-!
# Frames

A frame is a length of four octets that counts itself, a header of twelve, and a payload. The
header tells the command, a result code, flags, a version and the sequence number of the request
that the frame belongs to; its eighth octet is reserved and written as zero. One flag says that more
frames of the same message follow.

`Frame.encode` writes a frame, `Frame.bodyLength` and `Frame.ofBody` read one, and `Frame.request`
cuts the payload of a request into frames that the server can take.
-/

namespace SqlWire

/-- The fixed part of a frame. -/
structure Header where
  command : UInt8
  /-- Zero for success. -/
  result : UInt8
  flags : UInt16
  version : UInt8 × UInt8 × UInt8
  /-- Sequence number of the request. -/
  seq : UInt32
  deriving DecidableEq, Inhabited

/-- A frame, its length left out. -/
structure Frame where
  header : Header
  payload : Octets
  deriving DecidableEq, Inhabited

namespace Header

/-- Octets of a header. -/
def size : Nat := 12

/-- The flag of a frame that is followed by another one of the same message. -/
def moreFlag : UInt16 := 0x0100

/-- The version that the client puts into its frames. -/
def clientVersion : UInt8 × UInt8 × UInt8 := (2, 1, 0)

/-- The header of a request. -/
def request (command : Command) (seq : UInt32) : Header where
  command := command.code
  result := 0
  flags := 0
  version := clientVersion
  seq := seq

/-- Whether another frame of the same message follows. -/
def hasMore (header : Header) : Bool :=
  header.flags &&& moreFlag != 0

/-- The header of a frame that another one of the same message follows. -/
def withMore (header : Header) : Header :=
  { header with flags := header.flags ||| moreFlag }

/-- The octets of a header. -/
def encode (order : ByteOrder) (header : Header) : Octets :=
  [header.command, header.result] ++ order.octets 2 header.flags.toNat ++
    [header.version.1, header.version.2.1, header.version.2.2, 0] ++
    order.octets 4 header.seq.toNat

/-- The header that twelve octets make; the reserved octet is ignored. -/
def decode? (order : ByteOrder) : Octets → Option Header
  | [command, result, f₀, f₁, v₀, v₁, v₂, _, s₀, s₁, s₂, s₃] =>
    some {
      command := command
      result := result
      flags := UInt16.ofNat (order.toNat [f₀, f₁])
      version := (v₀, v₁, v₂)
      seq := UInt32.ofNat (order.toNat [s₀, s₁, s₂, s₃]) }
  | _ => none

end Header

namespace Frame

/-- Octets of the length before a header. -/
def lengthSize : Nat := 4

/-- Octets of a frame besides its payload. -/
def overhead : Nat := lengthSize + Header.size

/-- The greatest length of a frame that is read: 64 MiB. -/
def maxLength : Nat := 64 * 1024 * 1024

/-- Octets of a frame, its length included. -/
def length (frame : Frame) : Nat :=
  overhead + frame.payload.length

/-- The octets of a frame. -/
def encode (order : ByteOrder) (frame : Frame) : Octets :=
  order.octets lengthSize frame.length ++ frame.header.encode order ++ frame.payload

/-- The number of octets after the length, which the length announces. -/
def bodyLength (order : ByteOrder) (lengthOctets : Octets) : Except Error Nat :=
  let total := order.toNat lengthOctets
  if total < overhead then .error (.malformed (.frameTooShort total))
  else if maxLength < total then .error (.malformed (.frameTooLong total maxLength))
  else .ok (total - lengthSize)

/-- The frame whose octets after the length are given. -/
def ofBody (order : ByteOrder) (body : Octets) : Except Error Frame :=
  match Header.decode? order (body.take Header.size) with
  | some header => .ok ⟨header, body.drop Header.size⟩
  | none => .error (.malformed .noHeader)

/-! ## Requests -/

/-- Consecutive pieces of at most `size` octets. -/
def chunks (size : Nat) (octets : Octets) : List Octets :=
  if size = 0 ∨ octets.length ≤ size then [octets]
  else octets.take size :: chunks size (octets.drop size)
termination_by octets.length
decreasing_by simp only [List.length_drop]; omega

/-- The frames of one message with these payloads: all but the last say that more follow. -/
def linked (header : Header) : List Octets → List Frame
  | [] => []
  | [payload] => [⟨header, payload⟩]
  | payload :: payloads => ⟨header.withMore, payload⟩ :: linked header payloads

/-- The frames of a request to a server that takes frames of at most `capacity` octets. A capacity
of zero, or one that no payload fits into, sets no limit. -/
def request (command : Command) (seq : UInt32) (payload : Octets) (capacity : Nat) : List Frame :=
  linked (.request command seq) (chunks (capacity - overhead) payload)

end Frame

end SqlWire
