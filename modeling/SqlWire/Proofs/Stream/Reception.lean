import SqlWire.Proofs.Stream.Frames

/-!
# What a response is

`Response.Answers seq frames response` tells without an assembler when frames, in the order they
come, answer the request `seq` : of those with that number all but the last say that more follow,
their payloads together stay within the limit, and the response is made of them. Frames of other
requests may stand anywhere before the last.

An assembler that has accepted the frames `own` is `Assembler.holding seq limit own skipped`, and
each case of a push takes such a state to another or ends there. By induction over the frames,
`Channel.receive` succeeds exactly on complete frames that answer its request
(`receive_eq_done_iff`).
-/

namespace SqlWire

/-! ## The frames of a response -/

namespace Response

/-- Of the frames of a stream those with the number of a request. -/
def own (seq : UInt32) (frames : List Frame) : List Frame :=
  frames.filter fun frame => frame.header.seq = seq

/-- The first result code other than zero, or zero. -/
def codeOf : List Frame → UInt8
  | [] => 0
  | frame :: own => if frame.header.result = 0 then codeOf own else frame.header.result

/-- The payloads, joined. -/
def payloadOf (own : List Frame) : Octets :=
  own.flatMap Frame.payload

/-- The response made of these frames. -/
def ofFrames (own : List Frame) : Response where
  header := (own.head?.map Frame.header).getD default
  result := codeOf own
  payload := payloadOf own
  frames := own.length

/-- Behind the frames `held`, the frames `frames` complete the response to the request `seq`. -/
def Finishes (seq : UInt32) (limit : Nat) (held frames : List Frame) (response : Response) : Prop :=
  ∃ before last, frames = before ++ [last] ∧ last.header.seq = seq ∧ last.header.hasMore = false ∧
    (∀ frame ∈ before, frame.header.seq = seq → frame.header.hasMore = true) ∧
    (payloadOf (held ++ own seq frames)).length ≤ limit ∧
    response = ofFrames (held ++ own seq frames)

/-- The frames, as they come, answer the request `seq`. -/
def Answers (seq : UInt32) (frames : List Frame) (response : Response) : Prop :=
  Finishes seq maxLength [] frames response

theorem own_cons_self {seq : UInt32} {frame : Frame} (h : frame.header.seq = seq)
    (frames : List Frame) : own seq (frame :: frames) = frame :: own seq frames := by
  simp [own, h]

theorem own_cons_of_ne {seq : UInt32} {frame : Frame} (h : frame.header.seq ≠ seq)
    (frames : List Frame) : own seq (frame :: frames) = own seq frames := by
  simp [own, h]

/-- The code of frames behind others counts only if the others have none. -/
theorem codeOf_append (own own' : List Frame) :
    codeOf (own ++ own') = if codeOf own = 0 then codeOf own' else codeOf own := by
  induction own with
  | nil => simp [codeOf]
  | cons frame own ih => by_cases h : frame.header.result = 0 <;> simp [codeOf, h, ih]

theorem codeOf_singleton (frame : Frame) : codeOf [frame] = frame.header.result := by
  simp only [codeOf]
  split
  · next none => exact none.symm
  · rfl

/-- Payloads are joined in the order of their frames. -/
theorem payloadOf_append (own own' : List Frame) :
    payloadOf (own ++ own') = payloadOf own ++ payloadOf own' :=
  List.flatMap_append

@[simp] theorem payloadOf_singleton (frame : Frame) : payloadOf [frame] = frame.payload := by
  simp [payloadOf]

/-- No frame completes nothing. -/
theorem not_finishes_nil {seq : UInt32} {limit : Nat} {held : List Frame} {response : Response} :
    ¬Finishes seq limit held [] response := by
  rintro ⟨before, last, h, -⟩
  simp at h

theorem finishes_cons_of_ne {seq : UInt32} {limit : Nat} {held frames : List Frame} {frame : Frame}
    {response : Response} (foreign : frame.header.seq ≠ seq) :
    Finishes seq limit held (frame :: frames) response ↔
      Finishes seq limit held frames response := by
  constructor
  · rintro ⟨before, last, h, hlast, hend, hmore, hlen, rfl⟩
    rw [own_cons_of_ne foreign] at hlen ⊢
    cases before with
    | nil =>
      obtain ⟨rfl, rfl⟩ := List.cons.inj h
      exact absurd hlast foreign
    | cons f before =>
      obtain ⟨rfl, rfl⟩ := List.cons.inj h
      exact ⟨before, last, rfl, hlast, hend, fun g hg => hmore g (List.mem_cons_of_mem _ hg),
        hlen, rfl⟩
  · rintro ⟨before, last, rfl, hlast, hend, hmore, hlen, rfl⟩
    refine ⟨frame :: before, last, rfl, hlast, hend, ?_, ?_, ?_⟩
    · intro g hg hseq
      rcases List.mem_cons.1 hg with rfl | hg
      · exact absurd hseq foreign
      · exact hmore g hg hseq
    · rwa [own_cons_of_ne foreign]
    · rw [own_cons_of_ne foreign]

/-- A frame of the request that more follow only joins those that are held. -/
theorem finishes_cons_of_more {seq : UInt32} {limit : Nat} {held frames : List Frame}
    {frame : Frame} {response : Response} (hseq : frame.header.seq = seq)
    (more : frame.header.hasMore = true) :
    Finishes seq limit held (frame :: frames) response ↔
      Finishes seq limit (held ++ [frame]) frames response := by
  have held_own : held ++ own seq (frame :: frames) = held ++ [frame] ++ own seq frames := by
    rw [own_cons_self hseq, List.append_assoc, List.singleton_append]
  constructor
  · rintro ⟨before, last, h, hlast, hend, hmore, hlen, rfl⟩
    rw [held_own] at hlen ⊢
    cases before with
    | nil =>
      obtain ⟨rfl, rfl⟩ := List.cons.inj h
      simp [more] at hend
    | cons f before =>
      obtain ⟨rfl, rfl⟩ := List.cons.inj h
      exact ⟨before, last, rfl, hlast, hend, fun g hg => hmore g (List.mem_cons_of_mem _ hg),
        hlen, rfl⟩
  · rintro ⟨before, last, rfl, hlast, hend, hmore, hlen, rfl⟩
    refine ⟨frame :: before, last, rfl, hlast, hend, ?_, by rwa [held_own], by rw [held_own]⟩
    intro g hg
    rcases List.mem_cons.1 hg with rfl | hg
    · exact fun _ => more
    · exact hmore g hg

/-- A frame of the request that none follows ends the response. -/
theorem finishes_cons_of_last {seq : UInt32} {limit : Nat} {held frames : List Frame}
    {frame : Frame} {response : Response} (hseq : frame.header.seq = seq)
    (last : frame.header.hasMore = false) :
    Finishes seq limit held (frame :: frames) response ↔ frames = [] ∧
      (payloadOf (held ++ [frame])).length ≤ limit ∧ response = ofFrames (held ++ [frame]) := by
  constructor
  · rintro ⟨before, l, h, hlast, hend, hmore, hlen, rfl⟩
    cases before with
    | nil =>
      obtain ⟨rfl, rfl⟩ := List.cons.inj h
      rw [own_cons_self hseq] at hlen ⊢
      exact ⟨rfl, hlen, rfl⟩
    | cons f before =>
      obtain ⟨rfl, rfl⟩ := List.cons.inj h
      have := hmore frame List.mem_cons_self hseq
      simp [last] at this
  · rintro ⟨rfl, hlen, rfl⟩
    refine ⟨[], frame, rfl, hseq, last, nofun, ?_, ?_⟩
    · rw [own_cons_self hseq]
      exact hlen
    · rw [own_cons_self hseq]
      rfl

end Response

/-! ## Assemblers -/

namespace Assembler

/-- An assembler that has accepted the frames `own` and dropped `skipped` others. -/
def holding (seq : UInt32) (limit : Nat) (own : List Frame) (skipped : Nat) : Assembler where
  seq := seq
  limit := limit
  first := own.head?.map Frame.header
  result := Response.codeOf own
  buffered := Response.payloadOf own
  frames := own.length
  skipped := skipped

theorem holding_nil (seq : UInt32) : holding seq Response.maxLength [] 0 = { seq := seq } :=
  rfl

variable {seq : UInt32} {limit skipped : Nat} {own : List Frame} {frame : Frame}

/-- One more frame of the request is added to what the assembler holds. -/
theorem holding_concat :
    holding seq limit (own ++ [frame]) skipped =
      { seq := seq
        limit := limit
        first := some ((own.head?.map Frame.header).getD frame.header)
        result := if Response.codeOf own = 0 then frame.header.result else Response.codeOf own
        buffered := Response.payloadOf own ++ frame.payload
        frames := own.length + 1
        skipped := skipped } := by
  simp only [holding, Response.codeOf_append, Response.codeOf_singleton,
    Response.payloadOf_append, Response.payloadOf_singleton, List.length_append,
    List.length_singleton]
  cases own <;> rfl

theorem ofFrames_concat :
    Response.ofFrames (own ++ [frame]) =
      { header := (own.head?.map Frame.header).getD frame.header
        result := if Response.codeOf own = 0 then frame.header.result else Response.codeOf own
        payload := Response.payloadOf own ++ frame.payload
        frames := own.length + 1 } := by
  simp only [Response.ofFrames, Response.codeOf_append, Response.codeOf_singleton,
    Response.payloadOf_append, Response.payloadOf_singleton, List.length_append,
    List.length_singleton]
  cases own <;> rfl

theorem push_of_ne (h : frame.header.seq ≠ seq) :
    (holding seq limit own skipped).push frame =
      (.ok (.skipped frame.header), holding seq limit own (skipped + 1)) := by
  simp [push, holding, h]

/-- A frame that would exceed the limit is refused and not held. -/
theorem push_of_exceeding (hseq : frame.header.seq = seq)
    (h : limit < (Response.payloadOf (own ++ [frame])).length) :
    (holding seq limit own skipped).push frame =
      (.error (.malformed (.responseTooLong seq limit own.length)),
        holding seq limit own skipped) := by
  rw [Response.payloadOf_append, Response.payloadOf_singleton, List.length_append] at h
  simp [push, holding, hseq, h]

theorem push_of_more (hseq : frame.header.seq = seq)
    (h : (Response.payloadOf (own ++ [frame])).length ≤ limit)
    (more : frame.header.hasMore = true) :
    (holding seq limit own skipped).push frame =
      (.ok .partway, holding seq limit (own ++ [frame]) skipped) := by
  rw [Response.payloadOf_append, Response.payloadOf_singleton, List.length_append] at h
  have fits : ¬limit < (Response.payloadOf own).length + frame.payload.length := by omega
  rw [holding_concat]
  simp only [push, holding, hseq, ne_eq, not_true_eq_false, fits, more, Bool.not_true,
    Bool.false_and, Bool.false_eq_true, ↓reduceIte]
  rfl

/-- The payload of a single frame is not copied, and the response is the same as if it were. -/
theorem push_of_last (hseq : frame.header.seq = seq)
    (h : (Response.payloadOf (own ++ [frame])).length ≤ limit)
    (last : frame.header.hasMore = false) :
    ((holding seq limit own skipped).push frame).1 =
      .ok (.complete (Response.ofFrames (own ++ [frame]))) := by
  rw [Response.payloadOf_append, Response.payloadOf_singleton, List.length_append] at h
  have fits : ¬limit < (Response.payloadOf own).length + frame.payload.length := by omega
  rw [ofFrames_concat]
  simp only [push, holding, hseq, ne_eq, not_true_eq_false, fits, last, Bool.not_false,
    Bool.true_and, Bool.false_eq_true, ↓reduceIte, beq_iff_eq, Nat.add_eq_right]
  cases own <;> rfl

/-- A frame that is refused exceeds the limit. -/
theorem isStreamFault_of_push {assembler : Assembler} {e : Error}
    (h : (assembler.push frame).1 = .error e) : e.isStreamFault = true := by
  unfold push at h
  dsimp only at h
  split_ifs at h
  cases h
  rfl

end Assembler

/-! ## Receiving -/

namespace Channel

/-- To receive a response takes octets off the channel and does nothing else. -/
theorem consumes_receive (order : ByteOrder) (assembler : Assembler) :
    Action.Respects Consumes (receive order assembler) := by
  intro c
  fun_induction receive order assembler c with
  | case1 assembler c frame c₁ read _ _ _ =>
    have step := consumes_readFrame order c
    rwa [read] at step
  | case2 assembler c frame c₁ read _ _ _ _ ih =>
    have step := consumes_readFrame order c
    rw [read] at step
    exact trans_of Consumes step ih
  | case3 assembler c frame c₁ read _ _ _ =>
    have step := consumes_readFrame order c
    rwa [read] at step
  | case4 assembler c e c₁ read =>
    have step := consumes_readFrame order c
    rwa [read] at step
  | case5 assembler c c₁ read =>
    have step := consumes_readFrame order c
    rwa [read] at step

/-- The reception of a response fails by a fault of the stream only. -/
theorem failsOnly_receive (order : ByteOrder) (assembler : Assembler) (c : Channel) :
    (receive order assembler c).1.FailsOnly (·.isStreamFault) := by
  fun_induction receive order assembler c with
  | case1 => exact Outcome.failsOnly_done _
  | case2 _ _ _ _ _ _ _ _ _ ih => exact ih
  | case3 assembler c frame c₁ _ e _ pushed =>
    exact Outcome.failsOnly_failed (Assembler.isStreamFault_of_push (congrArg Prod.fst pushed))
  | case4 assembler c e c₁ read =>
    have step := failsOnly_readFrame order c
    rw [read] at step
    exact Outcome.failsOnly_failed (step e rfl)
  | case5 => exact Outcome.failsOnly_suspended

section

variable {order : ByteOrder} {seq : UInt32} {limit skipped : Nat} {own : List Frame}
  {c c' c₁ : Channel} {frame : Frame} {response : Response}

/-- A frame is read from what is left of the stream. -/
theorem left_lt_of_readFrame (h : readFrame order c = (.done frame, c₁)) : c₁.left < c.left := by
  have spent := spends_readFrame order h
  simp only [Frame.lengthSize] at spent
  omega

/-- One round of receiving. -/
theorem receive_of_readFrame {assembler : Assembler}
    (h : readFrame order c = (.done frame, c₁)) :
    receive order assembler c =
      match assembler.push frame with
      | (.ok (.complete response), _) => (.done response, c₁)
      | (.ok _, assembler) => receive order assembler c₁
      | (.error e, _) => (.failed e, c₁) := by
  rw [receive]
  split
  · next frame' c₂ read =>
    rw [h] at read
    cases read
    rfl
  · next read => simp [h] at read
  · next read => simp [h] at read

theorem receive_of_failed {assembler : Assembler} {e : Error}
    (h : readFrame order c = (.failed e, c₁)) :
    receive order assembler c = (.failed e, c₁) := by
  rw [receive]
  split
  · next read => simp [h] at read
  · next read =>
    rw [h] at read
    cases read
    rfl
  · next read => simp [h] at read

theorem receive_of_suspended {assembler : Assembler}
    (h : readFrame order c = (.suspended, c₁)) :
    receive order assembler c = (.suspended, c₁) := by
  rw [receive]
  split
  · next read => simp [h] at read
  · next read => simp [h] at read
  · next read =>
    rw [h] at read
    cases read
    rfl

/-- Behind a frame of another request the reception goes on, as if it had not come. -/
theorem receive_of_ne (h : readFrame order c = (.done frame, c₁))
    (foreign : frame.header.seq ≠ seq) :
    receive order (.holding seq limit own skipped) c =
      receive order (.holding seq limit own (skipped + 1)) c₁ := by
  rw [receive_of_readFrame h, Assembler.push_of_ne foreign]

theorem receive_of_more (h : readFrame order c = (.done frame, c₁)) (hseq : frame.header.seq = seq)
    (fits : (Response.payloadOf (own ++ [frame])).length ≤ limit)
    (more : frame.header.hasMore = true) :
    receive order (.holding seq limit own skipped) c =
      receive order (.holding seq limit (own ++ [frame]) skipped) c₁ := by
  rw [receive_of_readFrame h, Assembler.push_of_more hseq fits more]

/-- The first frame of the request that asks for no more completes the response. -/
theorem receive_of_last (h : readFrame order c = (.done frame, c₁)) (hseq : frame.header.seq = seq)
    (fits : (Response.payloadOf (own ++ [frame])).length ≤ limit)
    (last : frame.header.hasMore = false) :
    receive order (.holding seq limit own skipped) c =
      (.done (.ofFrames (own ++ [frame])), c₁) := by
  have pushed : (Assembler.push (.holding seq limit own skipped) frame).1 = _ :=
    Assembler.push_of_last hseq fits last
  rw [receive_of_readFrame h]
  split
  · next hp =>
    rw [hp] at pushed
    cases pushed
    rfl
  · next hne hp =>
    rw [hp] at pushed
    cases pushed
    exact absurd rfl (hne _)
  · next hp =>
    rw [hp] at pushed
    cases pushed

/-- A response that grows beyond the limit is a fault of the stream. -/
theorem receive_of_exceeding (h : readFrame order c = (.done frame, c₁))
    (hseq : frame.header.seq = seq)
    (exceeds : limit < (Response.payloadOf (own ++ [frame])).length) :
    receive order (.holding seq limit own skipped) c =
      (.failed (.malformed (.responseTooLong seq limit own.length)), c₁) := by
  rw [receive_of_readFrame h, Assembler.push_of_exceeding hseq exceeds]

/-- The first of the complete frames at the head of a stream is the one that is read. -/
theorem exists_chain_iff {P : List Frame → Prop} (h : readFrame order c = (.done frame, c₁))
    (nonempty : ¬P []) :
    (∃ octets frames, Frame.Chain order octets frames ∧ P frames ∧ c = c'.behind octets) ↔
      ∃ octets frames, Frame.Chain order octets frames ∧ P (frame :: frames) ∧
        c₁ = c'.behind octets := by
  constructor
  · rintro ⟨_, _, chain, hP, rfl⟩
    cases chain with
    | nil => exact absurd hP nonempty
    | @cons octets rest _ frames whole reads tail =>
      have read := readFrame_eq_done_iff.2
        ⟨octets, whole, reads, (behind_behind octets rest c').symm⟩
      rw [h] at read
      cases read
      exact ⟨rest, frames, tail, hP, rfl⟩
  · rintro ⟨rest, frames, tail, hP, rfl⟩
    obtain ⟨octets, whole, reads, rfl⟩ := readFrame_eq_done_iff.1 h
    exact ⟨octets ++ rest, frame :: frames, .cons whole reads tail, hP,
      behind_behind octets rest c'⟩

/-- Where no frame can be read the stream does not go on with any. -/
theorem not_exists_chain {P : List Frame → Prop} (h : (readFrame order c).1.isDone = false)
    (nonempty : ¬P []) :
    ¬∃ octets frames, Frame.Chain order octets frames ∧ P frames ∧ c = c'.behind octets := by
  rintro ⟨_, _, chain, hP, rfl⟩
  cases chain with
  | nil => exact nonempty hP
  | @cons octets rest _ frames whole reads tail =>
    have read := readFrame_eq_done_iff.2 ⟨octets, whole, reads, (behind_behind octets rest c').symm⟩
    simp [read, Outcome.isDone] at h

theorem receive_of_not_done {assembler : Assembler} (h : (readFrame order c).1.isDone = false) :
    (receive order assembler c).1.isDone = false := by
  rw [receive]
  split
  · next read => simp [read, Outcome.isDone] at h
  · rfl
  · rfl

/-- Behind the frames that are held, a response is received exactly if the stream goes on with
complete frames that finish it. -/
theorem receive_holding_eq_done_iff :
    receive order (.holding seq limit own skipped) c = (.done response, c') ↔
      ∃ octets frames, Frame.Chain order octets frames ∧
        Response.Finishes seq limit own frames response ∧ c = c'.behind octets := by
  -- Every frame is read from what is left of the stream.
  induction hn : c.left using Nat.strongRecOn generalizing c own skipped with
  | _ n ih =>
    cases hr : readFrame order c with
    | mk outcome c₁ =>
    by_cases hd : outcome.isDone = false
    · have unread : (readFrame order c).1.isDone = false := by rw [hr]; exact hd
      have stops : (receive order (.holding seq limit own skipped) c).1.isDone = false :=
        receive_of_not_done unread
      refine iff_of_false (fun h => ?_) (not_exists_chain unread Response.not_finishes_nil)
      simp [h, Outcome.isDone] at stops
    cases outcome with
    | failed => exact absurd rfl hd
    | suspended => exact absurd rfl hd
    | done frame =>
      have shorter : c₁.left < n := hn ▸ left_lt_of_readFrame hr
      rw [exists_chain_iff hr Response.not_finishes_nil]
      by_cases hseq : frame.header.seq = seq
      · by_cases fits : (Response.payloadOf (own ++ [frame])).length ≤ limit
        · cases more : frame.header.hasMore with
          | true =>
            simp only [receive_of_more hr hseq fits more, Response.finishes_cons_of_more hseq more]
            exact ih _ shorter rfl
          | false =>
            simp only [receive_of_last hr hseq fits more,
              Response.finishes_cons_of_last hseq more]
            constructor
            · rintro ⟨⟩
              exact ⟨[], [], .nil, ⟨rfl, fits, rfl⟩, rfl⟩
            · rintro ⟨_, _, chain, ⟨rfl, -, rfl⟩, rfl⟩
              cases chain
              rfl
        · rw [receive_of_exceeding hr hseq (Nat.not_le.1 fits)]
          refine iff_of_false (fun h => by cases h) ?_
          rintro ⟨octets, frames, -, finishes, -⟩
          obtain ⟨_, _, -, -, -, -, total, -⟩ := finishes
          rw [Response.own_cons_self hseq, ← List.singleton_append, ← List.append_assoc,
            Response.payloadOf_append, List.length_append] at total
          omega
      · simp only [receive_of_ne hr hseq, Response.finishes_cons_of_ne hseq]
        exact ih _ shorter rfl

/-- A response is received exactly if the stream goes on with complete frames that answer the
request. -/
theorem receive_eq_done_iff :
    receive order { seq := seq } c = (.done response, c') ↔
      ∃ octets frames, Frame.Chain order octets frames ∧
        Response.Answers seq frames response ∧ c = c'.behind octets := by
  rw [← Assembler.holding_nil]
  exact receive_holding_eq_done_iff

end

end Channel

end SqlWire
