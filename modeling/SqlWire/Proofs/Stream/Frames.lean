import SqlWire.Proofs.Action
import SqlWire.Session.Channel

/-!
# Frames on a stream

`Frame.Whole` says of octets that they are one complete frame, without a reader : their first four
count all of them, within the bounds. `Frame.Chain` strings complete frames together.

Reading is described by what it takes away. `c.behind octets` is the channel `c` with `octets` to
be read first, so that `c = c'.behind octets` says in one equation that `octets` were read and that
nothing else has changed. `Channel.readFrame` succeeds exactly on a complete frame
(`readFrame_eq_done_iff`). Where it does not, the stream was cut short or its next length is out of
range (`failsOnly_readFrame`).
-/

namespace SqlWire

theorem AtEnd.failsOnly_outcome {α : Type} (atEnd : AtEnd) :
    (atEnd.outcome : Outcome α).FailsOnly (·.isStreamFault) := by
  cases atEnd with
  | closed | failing => exact Outcome.failsOnly_failed rfl
  | stalled => exact Outcome.failsOnly_suspended

/-! ## Complete frames -/

namespace Frame

/-- Octets that are one complete frame. -/
structure Whole (order : ByteOrder) (octets : Octets) : Prop where
  overhead_le : overhead ≤ octets.length
  length_le : octets.length ≤ maxLength
  /-- The length counts itself and everything behind it. -/
  counted : order.toNat (octets.take lengthSize) = octets.length

/-- The octets are complete frames, one behind the other, and these are the frames. -/
inductive Chain (order : ByteOrder) : Octets → List Frame → Prop where
  | nil : Chain order [] []
  | cons {octets rest : Octets} {frame : Frame} {frames : List Frame} (whole : Whole order octets)
      (reads : ofBody order (octets.drop lengthSize) = .ok frame)
      (tail : Chain order rest frames) : Chain order (octets ++ rest) (frame :: frames)

theorem Chain.append {order : ByteOrder} {octets octets' : Octets} {frames frames' : List Frame}
    (h : Chain order octets frames) (h' : Chain order octets' frames') :
    Chain order (octets ++ octets') (frames ++ frames') := by
  induction h with
  | nil => exact h'
  | cons whole reads _ ih =>
    rw [List.append_assoc]
    exact .cons whole reads ih

/-- A chain can be cut between any two frames. -/
theorem Chain.exists_append {order : ByteOrder} {octets : Octets} {frames frames' : List Frame}
    (h : Chain order octets (frames ++ frames')) : ∃ octets₁ octets₂,
      octets = octets₁ ++ octets₂ ∧ Chain order octets₁ frames ∧ Chain order octets₂ frames' := by
  induction frames generalizing octets with
  | nil => exact ⟨[], octets, rfl, .nil, h⟩
  | cons frame frames ih =>
    obtain _ | ⟨whole, reads, tail⟩ := h
    obtain ⟨octets₁, octets₂, rfl, chain, chain'⟩ := ih tail
    exact ⟨_, octets₂, (List.append_assoc _ _ _).symm, .cons whole reads chain, chain'⟩

/-- Which lengths of a frame are accepted. -/
theorem bodyLength_eq_ok_iff {order : ByteOrder} {length : Octets} {n : Nat} :
    bodyLength order length = .ok n ↔
      overhead ≤ order.toNat length ∧ order.toNat length ≤ maxLength ∧
        order.toNat length = lengthSize + n := by
  have header_fits : lengthSize ≤ overhead := by decide
  simp only [bodyLength]
  split_ifs with short long
  · exact ⟨nofun, fun h => absurd h.1 (by omega)⟩
  · exact ⟨nofun, fun h => absurd h.2.1 (by omega)⟩
  · simp only [Except.ok.injEq]
    omega

/-- A length that is refused is out of range. -/
theorem isStreamFault_of_bodyLength {order : ByteOrder} {length : Octets} {e : Error}
    (h : bodyLength order length = .error e) : e.isStreamFault = true := by
  simp only [bodyLength] at h
  split_ifs at h <;> cases h <;> rfl

/-- Twelve octets make a header. -/
theorem exists_ofBody (order : ByteOrder) {body : Octets} (h : Header.size ≤ body.length) :
    ∃ frame, ofBody order body = .ok frame := by
  have len : (body.take Header.size).length = 12 := by
    rw [List.length_take, Nat.min_eq_left h]
    rfl
  match hb : body.take Header.size, len with
  | [_, _, _, _, _, _, _, _, _, _, _, _], _ =>
    rw [ofBody, hb]
    exact ⟨_, rfl⟩

end Frame

/-! ## Reading -/

namespace Channel

/-- The channel with `octets` to be read before everything else. -/
def behind (octets : Octets) (c : Channel) : Channel :=
  { c with unread := octets ++ c.unread }

theorem behind_behind (a b : Octets) (c : Channel) :
    (c.behind b).behind a = c.behind (a ++ b) := by
  simp [behind, List.append_assoc]

/-- Some octets were read, and nothing else has happened. -/
def Consumes (c c' : Channel) : Prop :=
  ∃ octets, c = c'.behind octets

instance : Std.Refl Consumes :=
  ⟨fun _ => ⟨[], rfl⟩⟩

instance : IsTrans Channel Consumes := by
  refine ⟨?_⟩
  rintro _ _ c ⟨a, rfl⟩ ⟨b, rfl⟩
  exact ⟨a ++ b, behind_behind a b c⟩

/-- A read of so many octets gives just those at the front. -/
theorem read_eq_done_iff {n : Nat} {c c' : Channel} {octets : Octets} :
    read n c = (.done octets, c') ↔ octets.length = n ∧ c = c'.behind octets := by
  unfold read
  constructor
  · intro h
    split at h
    · next enough =>
      cases h
      refine ⟨by rw [List.length_take, Nat.min_eq_left enough], ?_⟩
      simp [behind]
    · cases hc : c.atEnd <;> simp [AtEnd.outcome, hc] at h
  · rintro ⟨rfl, rfl⟩
    simp [behind]

theorem consumes_read (n : Nat) : Action.Respects Consumes (read n) := by
  intro c
  unfold read
  split
  · exact ⟨c.unread.take n, by simp [behind]⟩
  · exact ⟨c.unread, by simp [behind]⟩

theorem failsOnly_read (n : Nat) (c : Channel) : (read n c).1.FailsOnly (·.isStreamFault) := by
  unfold read
  split_ifs
  · exact Outcome.failsOnly_done _
  · exact AtEnd.failsOnly_outcome c.atEnd

theorem consumes_readFrame (order : ByteOrder) :
    Action.Respects Consumes (readFrame order) :=
  (consumes_read _).seq fun _ => (Action.Respects.ofExcept _).seq fun _ =>
    (consumes_read _).seq fun _ => Action.Respects.ofExcept _

/-- A frame is read exactly if the stream goes on with a complete one. -/
theorem readFrame_eq_done_iff {order : ByteOrder} {c c' : Channel} {frame : Frame} :
    readFrame order c = (.done frame, c') ↔ ∃ octets, Frame.Whole order octets ∧
      Frame.ofBody order (octets.drop Frame.lengthSize) = .ok frame ∧ c = c'.behind octets := by
  simp only [readFrame, Action.bind_eq_done_iff, read_eq_done_iff, Action.ofExcept_apply,
    Prod.mk.injEq, Action.ofExcept_eq_done_iff, Frame.bodyLength_eq_ok_iff]
  constructor
  · rintro ⟨length, _, ⟨hlen, rfl⟩, size, _, ⟨⟨le, ge, counts⟩, rfl⟩, body, _, ⟨hbody, rfl⟩,
      hframe, rfl⟩
    have total : (length ++ body).length = order.toNat length := by
      rw [List.length_append, hlen, hbody, counts]
    refine ⟨length ++ body, ⟨total ▸ le, total ▸ ge, ?_⟩, ?_, behind_behind _ _ _⟩
    · rw [← hlen, List.take_left, total]
    · rw [← hlen, List.drop_left]
      exact hframe
  · rintro ⟨octets, ⟨le, ge, counts⟩, hframe, rfl⟩
    have room : Frame.lengthSize ≤ octets.length := Nat.le_trans (by decide) le
    refine ⟨octets.take Frame.lengthSize, c'.behind (octets.drop Frame.lengthSize),
      ⟨by rw [List.length_take, Nat.min_eq_left room],
        by rw [behind_behind, List.take_append_drop]⟩,
      octets.length - Frame.lengthSize, _, ⟨⟨counts ▸ le, counts ▸ ge, by omega⟩, rfl⟩,
      octets.drop Frame.lengthSize, c', ⟨by rw [List.length_drop], rfl⟩, hframe, rfl⟩

/-- A frame that cannot be read is missing octets or has a length out of range : the octets behind
a good length always make a frame. -/
theorem failsOnly_readFrame (order : ByteOrder) (c : Channel) :
    (readFrame order c).1.FailsOnly (·.isStreamFault) := by
  refine Action.failsOnly_bind (failsOnly_read _ c) fun length c₁ _ => ?_
  refine Action.failsOnly_bind
    (Outcome.failsOnly_ofExcept fun e => Frame.isStreamFault_of_bodyLength) fun size c₂ hsize => ?_
  refine Action.failsOnly_bind (failsOnly_read _ c₂) fun body c₃ hbody => ?_
  obtain ⟨hlen, -⟩ := read_eq_done_iff.1 hbody
  have fits : Header.size ≤ body.length := by
    simp only [Action.ofExcept_apply, Prod.mk.injEq, Action.ofExcept_eq_done_iff,
      Frame.bodyLength_eq_ok_iff, Frame.overhead] at hsize
    omega
  obtain ⟨frame, hframe⟩ := Frame.exists_ofBody order fits
  rw [Action.ofExcept_apply, hframe]
  exact Outcome.failsOnly_done frame

end Channel

end SqlWire
