import SqlWire.Proofs.Stream.Frames
import SqlWire.Proofs.Wire.Numbers

/-!
# Frames as they are written

A header is read back from its octets (`Header.decode?_encode`), and the length of a frame from the
octets in front of it. The octets of a frame are therefore one complete frame, unless it is longer
than a reader takes, and they make that frame (`Frame.whole_encode`, `Frame.ofBody_encode`) : a
chain of one (`Frame.chain_encode`).
-/

namespace SqlWire

/-! ## Headers -/

namespace Header

@[simp] theorem length_encode (order : ByteOrder) (header : Header) :
    (header.encode order).length = size := by
  simp [encode, size]

/-- A header that is written is read as it was. -/
theorem decode?_encode (order : ByteOrder) (header : Header) :
    decode? order (header.encode order) = some header := by
  have flags : order.toNat (order.octets 2 header.flags.toNat) = _ :=
    ByteOrder.toNat_octets header.flags.toNat_lt
  have seq : order.toNat (order.octets 4 header.seq.toNat) = _ :=
    ByteOrder.toNat_octets header.seq.toNat_lt
  match hf : order.octets 2 header.flags.toNat, order.length_octets 2 header.flags.toNat,
    hs : order.octets 4 header.seq.toNat, order.length_octets 4 header.seq.toNat with
  | [_, _], _, [_, _, _, _], _ =>
    rw [hf] at flags
    rw [hs] at seq
    simp only [encode, hf, hs, List.cons_append, List.nil_append, decode?, flags, seq,
      UInt16.ofNat_toNat, UInt32.ofNat_toNat]

theorem hasMore_request (command : Command) (seq : UInt32) :
    (request command seq).hasMore = false := by
  have none : (0 : UInt16) &&& moreFlag = 0 := by decide
  simp [hasMore, request, none]

theorem hasMore_withMore (header : Header) : header.withMore.hasMore = true := by
  have kept : (header.flags ||| moreFlag) &&& moreFlag = moreFlag := by
    rw [← UInt16.toBitVec_inj, UInt16.toBitVec_and, UInt16.toBitVec_or]
    ext i hi
    simp +contextual
  simp only [hasMore, withMore, kept]
  decide

end Header

/-! ## Frames -/

namespace Frame

@[simp] theorem length_encode (order : ByteOrder) (frame : Frame) :
    (frame.encode order).length = frame.length := by
  simp only [encode, List.length_append, ByteOrder.length_octets, Header.length_encode, length,
    overhead]

theorem drop_encode (order : ByteOrder) (frame : Frame) :
    (frame.encode order).drop lengthSize = frame.header.encode order ++ frame.payload := by
  rw [encode, List.append_assoc, List.drop_left' (ByteOrder.length_octets _ _ _)]

/-- What follows the length of a frame makes the frame. -/
theorem ofBody_encode (order : ByteOrder) (frame : Frame) :
    ofBody order ((frame.encode order).drop lengthSize) = .ok frame := by
  have header := Header.length_encode order frame.header
  rw [drop_encode, ofBody, List.take_left' header, List.drop_left' header, Header.decode?_encode]

/-- A frame that is not too long is written as one complete frame. -/
theorem whole_encode {order : ByteOrder} {frame : Frame} (h : frame.length ≤ maxLength) :
    Whole order (frame.encode order) where
  overhead_le := by
    rw [length_encode]
    exact Nat.le_add_right _ _
  length_le := by rwa [length_encode]
  counted := by
    have bound : maxLength < 256 ^ lengthSize := by decide
    rw [length_encode, encode, List.append_assoc, List.take_left' (ByteOrder.length_octets _ _ _),
      ByteOrder.toNat_octets (Nat.lt_of_le_of_lt h bound)]

/-- What is written as a frame is read as one. -/
theorem chain_encode {order : ByteOrder} {frame : Frame} (h : frame.length ≤ maxLength) :
    Chain order (frame.encode order) [frame] := by
  rw [← List.append_nil (frame.encode order)]
  exact .cons (whole_encode h) (ofBody_encode order frame) .nil

end Frame

end SqlWire
