import SqlWire.Proofs.Stream.Reception

/-!
# Saying the same in other frames

A server may say the same in many ways : frames of other requests may stand between those of a
response, and a frame may come as several that continue each other. `Rephrased` relates two streams
that differ by one such change. What a change may be depends on the place : `Standing` holds the
number of the request whose response is read there, with the frames of it that stand before.

What is received of two such streams is the same but for the header of the response and the number
of its frames, and behind it the streams differ by one such change at most
(`Channel.receive_of_rephrased`). A change within a response leaves two assemblers that hold
different frames with the same payload and code, and these go on alike (`Channel.receive_congr`).
-/

namespace SqlWire

/-! ## Places in a stream -/

/-- Of the frames that come, those of the request `seq` up to the end of its response. -/
def Response.toCome (seq : UInt32) : List Frame → List Frame
  | [] => []
  | frame :: frames =>
    if frame.header.seq ≠ seq then toCome seq frames
    else if frame.header.hasMore then frame :: toCome seq frames
    else [frame]

/-- A place between two frames of a stream. -/
structure Standing where
  /-- The number of the request whose response is read. -/
  seq : UInt32
  /-- The frames of the response that stand before. -/
  held : List Frame

namespace Standing

/-- The place behind one more frame. -/
def step (standing : Standing) (frame : Frame) : Standing :=
  if frame.header.seq ≠ standing.seq then standing
  else if frame.header.hasMore then { standing with held := standing.held ++ [frame] }
  else ⟨standing.seq + 1, []⟩

/-- However far the stream goes on with complete frames, the response stays within the limit. -/
def Fits (standing : Standing) (order : ByteOrder) (unread : Octets) : Prop :=
  ∀ octets frames rest, unread = octets ++ rest → Frame.Chain order octets frames →
    (Response.payloadOf (standing.held ++ Response.toCome standing.seq frames)).length ≤
      Response.maxLength

variable {standing : Standing} {frame : Frame} {order : ByteOrder} {octets rest : Octets}

theorem step_of_ne (foreign : frame.header.seq ≠ standing.seq) :
    standing.step frame = standing := by
  simp [step, foreign]

theorem step_of_more (own : frame.header.seq = standing.seq)
    (more : frame.header.hasMore = true) :
    standing.step frame = ⟨standing.seq, standing.held ++ [frame]⟩ := by
  simp [step, own, more]

theorem step_of_last (own : frame.header.seq = standing.seq)
    (last : frame.header.hasMore = false) : standing.step frame = ⟨standing.seq + 1, []⟩ := by
  simp [step, own, last]

/-- The frame that comes next is within the limit. -/
theorem Fits.here (h : standing.Fits order (octets ++ rest))
    (chain : Frame.Chain order octets [frame]) (own : frame.header.seq = standing.seq) :
    (Response.payloadOf (standing.held ++ [frame])).length ≤ Response.maxLength := by
  have one : Response.toCome standing.seq [frame] = [frame] := by
    simp [Response.toCome, own]
  have total := h octets [frame] rest rfl chain
  rwa [one] at total

/-- Unless the response is over, what is behind the next frame is within the limit as well. -/
theorem Fits.behind (h : standing.Fits order (octets ++ rest))
    (chain : Frame.Chain order octets [frame])
    (goes : frame.header.seq = standing.seq → frame.header.hasMore = true) :
    (standing.step frame).Fits order rest := by
  rintro more frames rest' rfl later
  have total := h (octets ++ more) (frame :: frames) rest' (List.append_assoc _ _ _).symm
    (chain.append later)
  by_cases own : frame.header.seq = standing.seq
  · rw [step_of_more own (goes own)]
    simpa [Response.toCome, own, goes own] using total
  · rw [step_of_ne own]
    simpa [Response.toCome, own] using total

/-- A response to come is not longer than the stream. -/
theorem length_toCome_le (seq : UInt32) {frames : List Frame}
    (h : Frame.Chain order octets frames) :
    (Response.payloadOf (Response.toCome seq frames)).length ≤ octets.length := by
  induction h with
  | nil => exact Nat.le_refl 0
  | @cons octets rest frame frames whole reads tail ih =>
    have short : frame.payload.length ≤ octets.length := by
      unfold Frame.ofBody at reads
      split at reads
      · cases reads
        simp only [List.length_drop]
        omega
      · cases reads
    have joined : (Response.payloadOf (frame :: Response.toCome seq frames)).length =
        frame.payload.length + (Response.payloadOf (Response.toCome seq frames)).length := by
      simp [Response.payloadOf]
    rw [List.length_append, Response.toCome]
    split_ifs
    · omega
    · omega
    · rw [Response.payloadOf_singleton]
      omega

/-- What is shorter than the limit stays within it. -/
theorem fits_of_length_le {unread : Octets}
    (h : (Response.payloadOf standing.held).length + unread.length ≤ Response.maxLength) :
    standing.Fits order unread := by
  rintro octets frames rest rfl chain
  have short := length_toCome_le standing.seq chain
  rw [List.length_append] at h
  rw [Response.payloadOf_append, List.length_append]
  omega

end Standing

/-! ## Changes -/

/-- Frames that say together what one frame parts. -/
structure Frame.Pieces (frame : Frame) (pieces : List Frame) : Prop where
  headers : ∀ piece ∈ pieces,
    piece.header.seq = frame.header.seq ∧ piece.header.result = frame.header.result
  /-- All but the last say that more follow, and the last says what the frame parts. -/
  linked : ∃ before last, pieces = before ++ [last] ∧
    (∀ piece ∈ before, piece.header.hasMore = true) ∧ last.header.hasMore = frame.header.hasMore
  payload : Response.payloadOf pieces = frame.payload

/-- Two streams, from a place on, that differ by one change at most. -/
inductive Rephrased (order : ByteOrder) : Standing → Octets → Octets → Prop where
  | same {standing : Standing} {unread : Octets} : Rephrased order standing unread unread
  /-- A frame that does not belong to the response is inserted. -/
  | inserted {standing : Standing} {octets rest : Octets} {frame : Frame}
      (whole : Frame.Chain order octets [frame]) (foreign : frame.header.seq ≠ standing.seq) :
      Rephrased order standing rest (octets ++ rest)
  /-- A frame of the response is replaced by others that say the same. -/
  | cut {standing : Standing} {octets octets' rest : Octets} {frame : Frame} {pieces : List Frame}
      (whole : Frame.Chain order octets [frame]) (whole' : Frame.Chain order octets' pieces)
      (own : frame.header.seq = standing.seq) (parts : frame.Pieces pieces)
      (fits : standing.Fits order (octets ++ rest)) :
      Rephrased order standing (octets ++ rest) (octets' ++ rest)
  /-- The change is behind the next frame. -/
  | behind {standing : Standing} {octets rest rest' : Octets} {frame : Frame}
      (whole : Frame.Chain order octets [frame])
      (later : Rephrased order (standing.step frame) rest rest') :
      Rephrased order standing (octets ++ rest) (octets ++ rest')

/-! ## Receiving -/

namespace Response

variable {pieces : List Frame} {frame : Frame}

/-- A frame that is cut in pieces fails as before. -/
theorem codeOf_pieces (parts : frame.Pieces pieces) : codeOf pieces = frame.header.result := by
  obtain ⟨before, last, rfl, -, -⟩ := parts.linked
  have codes := fun piece h => (parts.headers piece h).2
  clear parts
  induction before with
  | nil => exact (codeOf_singleton last).trans (codes last (List.mem_singleton_self last))
  | cons piece before ih =>
    have code := codes piece List.mem_cons_self
    have others := ih fun piece h => codes piece (List.mem_cons_of_mem _ h)
    simp only [List.cons_append, codeOf, others, code]
    split
    · rfl
    · rfl

end Response

namespace Channel

/-- The channel with `unread` to be read instead. -/
def reading (unread : Octets) (c : Channel) : Channel :=
  { c with unread := unread }

/-- The second of two receptions comes to what the first one comes to : to a response of the same
code and payload, or to the same end without one. What is unread may differ, behind a response as
`between` says. -/
inductive Received (between : Octets → Octets → Prop) :
    Outcome Response × Channel → Outcome Response × Channel → Prop where
  | answered {response response' : Response} {c : Channel} {unread : Octets}
      (result : response'.result = response.result) (payload : response'.payload = response.payload)
      (later : between c.unread unread) :
      Received between (.done response, c) (.done response', c.reading unread)
  | stopped {outcome : Outcome Response} {c : Channel} {unread : Octets}
      (stops : outcome.isDone = false) :
      Received between (outcome, c) (outcome, c.reading unread)

theorem Received.mono {between between' : Octets → Octets → Prop}
    {x x' : Outcome Response × Channel} (h : Received between x x')
    (le : ∀ unread unread', between unread unread' → between' unread unread') :
    Received between' x x' := by
  cases h with
  | answered result payload later => exact .answered result payload (le _ _ later)
  | stopped stops => exact .stopped stops

variable {order : ByteOrder} {seq : UInt32} {octets rest : Octets} {frame : Frame}
  {own own' : List Frame}

theorem readFrame_of_chain (whole : Frame.Chain order octets [frame]) (rest : Octets)
    (c : Channel) :
    readFrame order (c.reading (octets ++ rest)) = (.done frame, c.reading rest) := by
  cases whole with
  | cons whole reads tail =>
    cases tail
    rw [List.append_nil]
    exact readFrame_eq_done_iff.2 ⟨_, whole, reads, rfl⟩

/-- A frame that was read is a chain of octets that were taken. -/
theorem exists_chain_of_readFrame {c c' : Channel} (h : readFrame order c = (.done frame, c')) :
    ∃ octets, Frame.Chain order octets [frame] ∧ c.unread = octets ++ c'.unread := by
  obtain ⟨octets, whole, reads, rfl⟩ := readFrame_eq_done_iff.1 h
  exact ⟨octets ++ [], .cons whole reads .nil, by simp [behind]⟩

/-- Assemblers that hold the same payload and code go on alike. Only if the response becomes too
long does it matter how many frames they hold. -/
theorem receive_congr (code : Response.codeOf own' = Response.codeOf own)
    (payload : Response.payloadOf own' = Response.payloadOf own) (skipped skipped' : Nat)
    (c : Channel) (fits : own'.length = own.length ∨ Standing.Fits ⟨seq, own⟩ order c.unread) :
    Received Eq (receive order (.holding seq Response.maxLength own skipped) c)
      (receive order (.holding seq Response.maxLength own' skipped') c) := by
  induction hn : c.left using Nat.strongRecOn generalizing c own own' skipped skipped' with
  | _ n ih =>
    cases hr : readFrame order c with
    | mk outcome c₁ =>
    cases outcome with
    | failed e =>
      rw [receive_of_failed hr, receive_of_failed hr]
      exact .stopped rfl
    | suspended =>
      rw [receive_of_suspended hr, receive_of_suspended hr]
      exact .stopped rfl
    | done frame =>
      have shorter : c₁.left < n := hn ▸ left_lt_of_readFrame hr
      obtain ⟨octets, whole, unread⟩ := exists_chain_of_readFrame hr
      rw [unread] at fits
      have code' : Response.codeOf (own' ++ [frame]) = Response.codeOf (own ++ [frame]) := by
        rw [Response.codeOf_append, Response.codeOf_append, code]
      have payload' :
          Response.payloadOf (own' ++ [frame]) = Response.payloadOf (own ++ [frame]) := by
        rw [Response.payloadOf_append, Response.payloadOf_append, payload]
      by_cases hseq : frame.header.seq = seq
      · by_cases small : (Response.payloadOf (own ++ [frame])).length ≤ Response.maxLength
        · have small' : (Response.payloadOf (own' ++ [frame])).length ≤ Response.maxLength :=
            payload' ▸ small
          cases more : frame.header.hasMore with
          | true =>
            rw [receive_of_more hr hseq small more, receive_of_more hr hseq small' more]
            refine ih _ shorter code' payload' skipped skipped' c₁ (fits.imp ?_ fun fits => ?_) rfl
            · simp
            · have later := fits.behind whole fun _ => more
              rwa [Standing.step_of_more hseq more] at later
          | false =>
            rw [receive_of_last hr hseq small more, receive_of_last hr hseq small' more]
            exact .answered (c := c₁) code' payload' rfl
        · have small' : ¬(Response.payloadOf (own' ++ [frame])).length ≤ Response.maxLength :=
            payload' ▸ small
          rw [receive_of_exceeding hr hseq (Nat.not_le.1 small),
            receive_of_exceeding hr hseq (Nat.not_le.1 small')]
          -- The error tells how many frames were held.
          rcases fits with same | fits
          · rw [same]
            exact .stopped rfl
          · exact absurd (fits.here whole hseq) small
      · rw [receive_of_ne hr hseq, receive_of_ne hr hseq]
        refine ih _ shorter code payload _ _ c₁ (fits.imp_right fun fits => ?_) rfl
        have later := fits.behind whole fun own => absurd own hseq
        rwa [Standing.step_of_ne hseq] at later

/-- Frames of the request that are all followed by more are taken one after the other. -/
theorem receive_of_mores {frames : List Frame} (whole : Frame.Chain order octets frames)
    (mine : ∀ frame ∈ frames, frame.header.seq = seq ∧ frame.header.hasMore = true)
    (small : (Response.payloadOf (own ++ frames)).length ≤ Response.maxLength) (skipped : Nat)
    (rest : Octets) (c : Channel) :
    receive order (.holding seq Response.maxLength own skipped) (c.reading (octets ++ rest)) =
      receive order (.holding seq Response.maxLength (own ++ frames) skipped) (c.reading rest) := by
  induction whole generalizing own with
  | nil => rw [List.append_nil, List.nil_append]
  | @cons octets octets' frame frames whole reads tail ih =>
    obtain ⟨hseq, more⟩ := mine frame List.mem_cons_self
    have read : readFrame order (c.reading (octets ++ (octets' ++ rest))) =
        (.done frame, c.reading (octets' ++ rest)) :=
      readFrame_eq_done_iff.2 ⟨octets, whole, reads, rfl⟩
    rw [List.append_cons] at small ⊢
    have here : (Response.payloadOf (own ++ [frame])).length ≤ Response.maxLength := by
      rw [Response.payloadOf_append, List.length_append] at small
      omega
    rw [List.append_assoc, receive_of_more read hseq here more]
    exact ih (fun frame hframe => mine frame (List.mem_cons_of_mem _ hframe)) small

/-- What is received where one frame of a response is cut. -/
theorem receive_of_cut {standing : Standing} {octets' : Octets} {pieces : List Frame}
    (whole : Frame.Chain order octets [frame]) (whole' : Frame.Chain order octets' pieces)
    (own : frame.header.seq = standing.seq) (parts : frame.Pieces pieces)
    (fits : standing.Fits order (octets ++ rest)) (skipped skipped' : Nat) (c : Channel) :
    Received Eq
      (receive order (.holding standing.seq Response.maxLength standing.held skipped)
        (c.reading (octets ++ rest)))
      (receive order (.holding standing.seq Response.maxLength standing.held skipped')
        (c.reading (octets' ++ rest))) := by
  have code : Response.codeOf (standing.held ++ pieces) =
      Response.codeOf (standing.held ++ [frame]) := by
    rw [Response.codeOf_append, Response.codeOf_append, Response.codeOf_pieces parts,
      Response.codeOf_singleton]
  have payload : Response.payloadOf (standing.held ++ pieces) =
      Response.payloadOf (standing.held ++ [frame]) := by
    rw [Response.payloadOf_append, Response.payloadOf_append, parts.payload,
      Response.payloadOf_singleton]
  have small := fits.here whole own
  have small' := payload.symm ▸ small
  obtain ⟨before, last, rfl, mores, ends⟩ := parts.linked
  obtain ⟨opening, ending, rfl, chain, chain'⟩ := whole'.exists_append
  have mine := fun piece h => (parts.headers piece h).1.trans own
  have hseq : last.header.seq = standing.seq :=
    mine last (List.mem_append_right _ List.mem_cons_self)
  rw [← List.append_assoc] at code payload small'
  have opened : (Response.payloadOf (standing.held ++ before)).length ≤ Response.maxLength := by
    rw [Response.payloadOf_append, List.length_append] at small'
    omega
  have read := readFrame_of_chain whole rest c
  have read' := readFrame_of_chain chain' rest c
  -- All pieces but the last one go the same way, and the last one goes as the whole frame does.
  rw [List.append_assoc, receive_of_mores chain (fun piece h =>
    ⟨mine piece (List.mem_append_left _ h), mores piece h⟩) opened]
  cases more : frame.header.hasMore with
  | true =>
    rw [more] at ends
    rw [receive_of_more read own small more, receive_of_more read' hseq small' ends]
    have later := fits.behind whole fun _ => more
    rw [Standing.step_of_more own more] at later
    exact receive_congr code payload _ _ _ (Or.inr later)
  | false =>
    rw [more] at ends
    rw [receive_of_last read own small more, receive_of_last read' hseq small' ends]
    exact .answered (c := c.reading rest) code payload rfl

/-- What is received of two streams that say the same. -/
theorem receive_of_rephrased {standing : Standing} {unread unread' : Octets}
    (h : Rephrased order standing unread unread') (skipped skipped' : Nat) (c : Channel) :
    Received (Rephrased order ⟨standing.seq + 1, []⟩)
      (receive order (.holding standing.seq Response.maxLength standing.held skipped)
        (c.reading unread))
      (receive order (.holding standing.seq Response.maxLength standing.held skipped')
        (c.reading unread')) := by
  have same {x x' : Outcome Response × Channel} (h : Received Eq x x') :
      Received (Rephrased order ⟨standing.seq + 1, []⟩) x x' :=
    h.mono fun _ _ same => same ▸ .same
  induction h generalizing skipped skipped' with
  | same => exact same (receive_congr rfl rfl _ _ _ (Or.inl rfl))
  | inserted whole foreign =>
    rw [receive_of_ne (readFrame_of_chain whole _ c) foreign]
    exact same (receive_congr rfl rfl _ _ _ (Or.inl rfl))
  | cut whole whole' own parts fits =>
    exact same (receive_of_cut whole whole' own parts fits _ _ c)
  | @behind standing octets rest rest' frame whole later ih =>
    have read := readFrame_of_chain whole rest c
    have read' := readFrame_of_chain whole rest' c
    by_cases own : frame.header.seq = standing.seq
    · by_cases small : (Response.payloadOf (standing.held ++ [frame])).length ≤ Response.maxLength
      · cases more : frame.header.hasMore with
        | true =>
          rw [Standing.step_of_more own more] at ih
          rw [receive_of_more read own small more, receive_of_more read' own small more]
          exact ih skipped skipped' same
        | false =>
          rw [Standing.step_of_last own more] at later
          rw [receive_of_last read own small more, receive_of_last read' own small more]
          exact .answered (c := c.reading rest) rfl rfl later
      · rw [receive_of_exceeding read own (Nat.not_le.1 small),
          receive_of_exceeding read' own (Nat.not_le.1 small)]
        exact .stopped (c := c.reading rest) rfl
    · rw [Standing.step_of_ne own] at ih
      rw [receive_of_ne read own, receive_of_ne read' own]
      exact ih _ _ same

end Channel

end SqlWire
