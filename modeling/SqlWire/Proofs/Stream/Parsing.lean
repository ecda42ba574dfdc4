import Mathlib.Data.List.Basic
import SqlWire.Proofs.Stream.Splitting

/-!
# Frames from any octets

What stands at the front of a stream is a frame exactly if its first word is a length in range and
so many octets are there (`Channel.exists_readFrame_iff`). Reading takes just these. All that they
tell but for the reserved octet of the header is in the frame : written again, it gives the octets
that were read, with zero for that one (`Frame.encode_of_whole`).

`Channel.readAll` reads frames until nothing is left, and finds the end of each by its length alone.
Since a frame that is written ends where its length says, by induction over the frames it finds
those that were written (`Channel.readAll_encode`). `Channel.frames_parse` says all of it of every
stream.
-/

namespace SqlWire

/-! ## Headers -/

/-- The octets of two are those of the word that they write. -/
theorem ByteOrder.octets_word16 (order : ByteOrder) (a b : UInt8) :
    order.octets 2 (UInt16.ofNat (order.toNat [a, b])).toNat = [a, b] := by
  have small : order.toNat [a, b] < 256 ^ 2 := order.toNat_lt [a, b]
  rw [UInt16.toNat_ofNat_of_lt' (Nat.lt_of_lt_of_le small (by decide))]
  exact order.octets_toNat [a, b]

theorem ByteOrder.octets_word32 (order : ByteOrder) (a b c d : UInt8) :
    order.octets 4 (UInt32.ofNat (order.toNat [a, b, c, d])).toNat = [a, b, c, d] := by
  have small : order.toNat [a, b, c, d] < 256 ^ 4 := order.toNat_lt [a, b, c, d]
  rw [UInt32.toNat_ofNat_of_lt' (Nat.lt_of_lt_of_le small (by decide))]
  exact order.octets_toNat [a, b, c, d]

namespace Header

/-- A header that is written again has zero for its eighth octet and all others as they were. -/
theorem encode_of_decode? {order : ByteOrder} {octets : Octets} {header : Header}
    (h : decode? order octets = some header) : header.encode order = octets.set 7 0 := by
  unfold decode? at h
  split at h
  · cases h
    simp only [encode, ByteOrder.octets_word16, ByteOrder.octets_word32]
    rfl
  · cases h

end Header

/-! ## Frames -/

namespace Frame

variable {order : ByteOrder} {octets : Octets} {frame : Frame}

/-- The body of a frame is a header with a payload behind it. -/
theorem ofBody_eq_ok_iff {body : Octets} : ofBody order body = .ok frame ↔
    Header.decode? order (body.take Header.size) = some frame.header ∧
      body.drop Header.size = frame.payload := by
  unfold ofBody
  split
  · next header read =>
    obtain ⟨header', payload⟩ := frame
    simp [read]
  · next unread =>
    simp [unread]

/-- A frame that is written again has zero for the reserved octet and all others as they were. -/
theorem encode_of_whole (whole : Whole order octets)
    (reads : ofBody order (octets.drop lengthSize) = .ok frame) :
    frame.encode order = octets.set 11 0 := by
  obtain ⟨header, payload⟩ := ofBody_eq_ok_iff.1 reads
  have least : 16 ≤ octets.length := whole.overhead_le
  have total : frame.length = octets.length := by
    rw [length, ← payload, List.length_drop, List.length_drop]
    simp only [overhead, lengthSize, Header.size]
    omega
  have front : (octets.take lengthSize).length = 4 := by
    rw [List.length_take, lengthSize]
    omega
  have size : order.octets lengthSize frame.length = octets.take lengthSize := by
    have same := order.octets_toNat (octets.take lengthSize)
    rwa [front, whole.counted, ← total] at same
  have middle : ((octets.drop lengthSize).take Header.size).length = 12 := by
    rw [List.length_take, List.length_drop, lengthSize, Header.size]
    omega
  calc frame.encode order
    _ = octets.take lengthSize ++ (((octets.drop lengthSize).take Header.size).set 7 0 ++
          (octets.drop lengthSize).drop Header.size) := by
        rw [encode, size, Header.encode_of_decode? header, payload, List.append_assoc]
    _ = (octets.take lengthSize ++ ((octets.drop lengthSize).take Header.size ++
          (octets.drop lengthSize).drop Header.size)).set 11 0 := by
        rw [List.set_append_right _ _ (by omega), front, List.set_append_left _ _ (by omega)]
    _ = octets.set 11 0 := by
        rw [List.take_append_drop, List.take_append_drop]

/-- The first word of what begins with a complete frame is the length of that frame. -/
theorem Whole.firstWord_append (whole : Whole order octets) (rest : Octets) :
    order.firstWord (octets ++ rest) = octets.length := by
  rw [ByteOrder.firstWord_append (Nat.le_trans (by decide) whole.overhead_le)]
  exact whole.counted

/-- So many octets as the first word says are a complete frame, if the length is in range. -/
theorem whole_take (least : 16 ≤ order.firstWord octets)
    (most : order.firstWord octets ≤ 64 * 1024 * 1024)
    (enough : order.firstWord octets ≤ octets.length) :
    Whole order (octets.take (order.firstWord octets)) := by
  have len : (octets.take (order.firstWord octets)).length = order.firstWord octets := by
    rw [List.length_take, Nat.min_eq_left enough]
  refine ⟨Nat.le_trans least (Nat.le_of_eq len.symm), Nat.le_trans (Nat.le_of_eq len) most, ?_⟩
  rw [len, List.take_take, Nat.min_eq_left (Nat.le_trans (by decide) least)]
  rfl

end Frame

/-! ## Streams -/

namespace Channel

variable {order : ByteOrder} {frame : Frame} {c c' : Channel}

/-- A frame is read exactly if the first word is a length in range and so many octets are there. -/
theorem exists_readFrame_iff : (∃ frame c', readFrame order c = (.done frame, c')) ↔
    16 ≤ order.firstWord c.unread ∧ order.firstWord c.unread ≤ 64 * 1024 * 1024 ∧
      order.firstWord c.unread ≤ c.unread.length := by
  simp only [readFrame_eq_done_iff]
  constructor
  · rintro ⟨frame, c', octets, whole, -, rfl⟩
    have len : order.firstWord (c'.behind octets).unread = octets.length :=
      whole.firstWord_append c'.unread
    rw [len]
    refine ⟨whole.overhead_le, whole.length_le, ?_⟩
    rw [behind, List.length_append]
    exact Nat.le_add_right _ _
  · rintro ⟨least, most, enough⟩
    have whole := Frame.whole_take least most enough
    have fits : Header.size ≤
        ((c.unread.take (order.firstWord c.unread)).drop Frame.lengthSize).length := by
      have room := whole.overhead_le
      rw [List.length_drop]
      simp only [Frame.overhead] at room
      omega
    obtain ⟨frame, read⟩ := Frame.exists_ofBody order fits
    refine ⟨frame, { c with unread := c.unread.drop (order.firstWord c.unread) }, _, whole, read,
      ?_⟩
    rw [behind, List.take_append_drop]

/-- Reading takes just the frame, whose octets tell no more than it does but for the reserved one.
-/
theorem of_readFrame (h : readFrame order c = (.done frame, c')) :
    c' = { c with unread := c.unread.drop (order.firstWord c.unread) } ∧
      frame.encode order = (c.unread.take (order.firstWord c.unread)).set 11 0 := by
  obtain ⟨octets, whole, read, rfl⟩ := readFrame_eq_done_iff.1 h
  have len : order.firstWord (c'.behind octets).unread = octets.length :=
    whole.firstWord_append c'.unread
  rw [len]
  simp only [behind, List.drop_left, List.take_left, Frame.encode_of_whole whole read, true_and]

/-- Read frames until there is nothing left. -/
def readAll (order : ByteOrder) (c : Channel) : Outcome (List Frame) × Channel :=
  if c.unread = [] then (.done [], c)
  else
    match _read : readFrame order c with
    | (.done frame, c') =>
      let (outcome, last) := readAll order c'
      (outcome.map (frame :: ·), last)
    | (.failed e, c') => (.failed e, c')
    | (.suspended, c') => (.suspended, c')
termination_by c.left
decreasing_by
  have spent := spends_readFrame order _read
  simp only [Frame.lengthSize] at spent
  omega

theorem readAll_of_nil (h : c.unread = []) : readAll order c = (.done [], c) := by
  rw [readAll, if_pos h]

theorem readAll_of_readFrame (h : readFrame order c = (.done frame, c')) :
    readAll order c = ((readAll order c').1.map (frame :: ·), (readAll order c').2) := by
  have some : c.unread ≠ [] := by
    have spent := spends_readFrame order h
    intro none
    simp [left, none, Frame.lengthSize] at spent
  rw [readAll, if_neg some]
  split
  · next frame' c₁ read =>
    rw [h] at read
    cases read
    rfl
  · next read => simp [h] at read
  · next read => simp [h] at read

/-- Frames that are written one behind the other are found again. -/
theorem readAll_encode (order : ByteOrder) {frames : List Frame}
    (h : ∀ frame ∈ frames, frame.length ≤ Frame.maxLength) (ended : c.unread = []) :
    readAll order (c.behind (frames.flatMap (Frame.encode order))) = (.done frames, c) := by
  induction frames with
  | nil => exact readAll_of_nil ended
  | cons frame frames ih =>
    have first := readFrame_encode order (h frame List.mem_cons_self)
      (c.behind (frames.flatMap (Frame.encode order)))
    have others := ih fun frame hframe => h frame (List.mem_cons_of_mem _ hframe)
    rw [List.flatMap_cons, ← behind_behind, readAll_of_readFrame first, others]
    rfl

/-- How frames are read from a stream. -/
structure Parses (order : ByteOrder) (c : Channel) : Prop where
  /-- A frame is read exactly if the first word is a length in range and so many octets are there.
  -/
  exists_iff : (∃ frame c', readFrame order c = (.done frame, c')) ↔
    16 ≤ order.firstWord c.unread ∧ order.firstWord c.unread ≤ 64 * 1024 * 1024 ∧
      order.firstWord c.unread ≤ c.unread.length
  /-- Just these octets are taken, and the frame is written with the same ones but for the reserved
  octet of its header, which is zero then. -/
  taken : ∀ frame c', readFrame order c = (.done frame, c') →
    c' = { c with unread := c.unread.drop (order.firstWord c.unread) } ∧
      frame.encode order = (c.unread.take (order.firstWord c.unread)).set 11 0
  /-- As many octets as a length asks for always make a frame. -/
  body : ∀ length n body, Frame.bodyLength order length = .ok n → body.length = n →
    ∃ frame, Frame.ofBody order body = .ok frame
  /-- A frame that is written is read, and what stands behind it is left. -/
  written : ∀ frame : Frame, (frame.encode order).length ≤ 64 * 1024 * 1024 →
    readFrame order (c.behind (frame.encode order)) = (.done frame, c)
  /-- Of a stream of nothing but written frames these frames are read. -/
  all : ∀ frames : List Frame,
    (∀ frame ∈ frames, (frame.encode order).length ≤ 64 * 1024 * 1024) →
    readAll order { c with unread := frames.flatMap (Frame.encode order) } =
      (.done frames, { c with unread := [] })

/-- In either byte order a stream is read as the frames that its octets are. -/
theorem frames_parse (order : ByteOrder) (c : Channel) : Parses order c where
  exists_iff := exists_readFrame_iff
  taken _ _ := of_readFrame
  body length n body hlength hbody := by
    obtain ⟨least, -, size⟩ := Frame.bodyLength_eq_ok_iff.1 hlength
    refine Frame.exists_ofBody order ?_
    simp only [Frame.overhead] at least
    omega
  written frame h := readFrame_encode order (by rwa [Frame.length_encode] at h) c
  all frames h := by
    have short : ∀ frame ∈ frames, frame.length ≤ Frame.maxLength := fun frame hframe => by
      rw [← Frame.length_encode order]
      exact h frame hframe
    have read := readAll_encode order short (rfl : { c with unread := [] }.unread = [])
    simpa only [behind, List.append_nil] using read

/-- A frame with a reserved octet that is not zero, behind it a written one, and then too few
octets for another. -/
theorem frames_parse_reserved :
    let first : Octets := [0, 0, 0, 18, 32, 0, 1, 0, 3, 0, 0, 9, 0, 0, 0, 7, 65, 66]
    let second : Frame := ⟨.request .ping 8, [67]⟩
    let c : Channel := { unread := first ++ (second.encode .big ++ [0, 0, 0, 16]) }
    let frame : Frame := ⟨⟨32, 0, 0x0100, (3, 0, 0), 7⟩, [65, 66]⟩
    let rest : Channel := { unread := second.encode .big ++ [0, 0, 0, 16] }
    Parses .big c ∧ readFrame .big c = (.done frame, rest) ∧
      frame.encode .big = [0, 0, 0, 18, 32, 0, 1, 0, 3, 0, 0, 0, 0, 0, 0, 7, 65, 66] ∧
      (second.encode .big).length ≤ 64 * 1024 * 1024 ∧
      readFrame .big rest = (.done second, { unread := [0, 0, 0, 16] }) ∧
      ¬∃ frame c', readFrame .big { unread := [0, 0, 0, 16] } = (.done frame, c') := by
  intro first second c frame rest
  have read : readFrame .big c = (.done frame, rest) := by decide +kernel
  have small : (second.encode .big).length ≤ 64 * 1024 * 1024 := by decide
  refine ⟨frames_parse .big c, read, ((frames_parse .big c).taken _ _ read).2, small,
    (frames_parse .big { unread := [0, 0, 0, 16] }).written second small, ?_⟩
  rw [(frames_parse .big _).exists_iff]
  decide

end Channel

end SqlWire
