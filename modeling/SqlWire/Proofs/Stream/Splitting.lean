import Mathlib.Algebra.Order.Floor.Div
import Mathlib.Data.List.Basic
import SqlWire.Proofs.Stream.Encoding
import SqlWire.Proofs.Stream.Reception

/-!
# Requests in pieces

A request goes out as frames of one message : its payload is cut into chunks
(`Frame.flatten_chunks`), and every chunk but the last is announced to be followed by another one
(`Frame.linked_concat`). The reader of frames gives them back one by one
(`Channel.readFrames_encode`), and an assembler joins them to the payload that was cut
(`Assembler.pushAll_partway`). `Frame.request_rejoins` says both of every request whose frames are
small enough to be read, and counts the frames by the capacity that they have to respect.
-/

namespace SqlWire

/-! ## Chunks -/

namespace Frame

theorem flatten_chunks (size : Nat) (octets : Octets) : (chunks size octets).flatten = octets := by
  fun_induction chunks size octets with
  | case1 => simp
  | case2 octets _ ih => rw [List.flatten_cons, ih, List.take_append_drop]

theorem chunks_ne_nil (size : Nat) (octets : Octets) : chunks size octets ≠ [] := by
  rw [chunks]
  split <;> exact List.cons_ne_nil _ _

theorem chunks_zero (octets : Octets) : chunks 0 octets = [octets] := by
  rw [chunks, if_pos (Or.inl rfl)]

/-- No chunk is longer than asked for. -/
theorem length_le_of_mem_chunks {size : Nat} (pos : 0 < size) {octets chunk : Octets}
    (h : chunk ∈ chunks size octets) : chunk.length ≤ size := by
  fun_induction chunks size octets with
  | case1 octets small =>
    obtain rfl := List.mem_singleton.1 h
    omega
  | case2 octets _ ih =>
    obtain rfl | h := List.mem_cons.1 h
    · exact List.length_take_le _ _
    · exact ih h

/-- As many chunks as it takes, and one for nothing at all. -/
theorem length_chunks {size : Nat} (pos : 0 < size) (octets : Octets) :
    (chunks size octets).length = max 1 (octets.length ⌈/⌉ size) := by
  fun_induction chunks size octets with
  | case1 octets small =>
    have few : octets.length ⌈/⌉ size ≤ 1 := by
      rw [ceilDiv_le_iff_le_mul pos]
      omega
    rw [List.length_singleton, max_eq_left few]
  | case2 octets large ih =>
    have more : octets.length = octets.length - size + size := by omega
    have some : 1 ≤ (octets.length - size) ⌈/⌉ size := by
      rw [Nat.one_le_iff_ne_zero, ← Nat.pos_iff_ne_zero, Nat.ceilDiv_eq_add_pred_div]
      exact Nat.div_pos (by omega) pos
    have next : octets.length ⌈/⌉ size = (octets.length - size) ⌈/⌉ size + 1 := by
      rw [Nat.ceilDiv_eq_add_pred_div, Nat.ceilDiv_eq_add_pred_div, ← Nat.add_div_right _ pos]
      congr 1
      omega
    rw [List.length_cons, ih, List.length_drop, next]
    omega

/-! ## Linked frames -/

/-- All but the last of several payloads are sent with the word that more follow. -/
theorem linked_concat (header : Header) (payloads : List Octets) (last : Octets) :
    linked header (payloads ++ [last]) =
      payloads.map (Frame.mk header.withMore) ++ [⟨header, last⟩] := by
  induction payloads with
  | nil => rfl
  | cons payload payloads ih =>
    have step : linked header (payload :: (payloads ++ [last])) =
        ⟨header.withMore, payload⟩ :: linked header (payloads ++ [last]) := by
      cases payloads <;> rfl
    rw [List.cons_append, step, ih]
    rfl

/-- The frames of a request are its chunks, of which all but the last say that more follow. -/
theorem exists_request_eq (command : Command) (seq : UInt32) (payload : Octets) (capacity : Nat) :
    ∃ before last, chunks (capacity - overhead) payload = before ++ [last] ∧
      request command seq payload capacity =
        before.map (Frame.mk (Header.request command seq).withMore) ++
          [⟨.request command seq, last⟩] := by
  rcases List.eq_nil_or_concat' (chunks (capacity - overhead) payload) with
    none | ⟨before, last, split⟩
  · exact absurd none (chunks_ne_nil _ _)
  · exact ⟨before, last, split, by rw [request, split, linked_concat]⟩

end Frame

/-! ## Reading frame after frame -/

namespace Channel

/-- Read so many frames. -/
def readFrames (order : ByteOrder) : Nat → Action Channel (List Frame)
  | 0 => return []
  | n + 1 => do
    let frame ← readFrame order
    return frame :: (← readFrames order n)

/-- A frame that is written is read as it was. -/
theorem readFrame_encode (order : ByteOrder) {frame : Frame}
    (h : frame.length ≤ Frame.maxLength) (c : Channel) :
    readFrame order (c.behind (frame.encode order)) = (.done frame, c) :=
  readFrame_eq_done_iff.2 ⟨_, Frame.whole_encode h, Frame.ofBody_encode order frame, rfl⟩

theorem readFrames_encode {order : ByteOrder} {frames : List Frame}
    (h : ∀ frame ∈ frames, frame.length ≤ Frame.maxLength) (c : Channel) :
    readFrames order frames.length (c.behind (frames.flatMap (Frame.encode order))) =
      (.done frames, c) := by
  induction frames with
  | nil => rfl
  | cons frame frames ih =>
    have first := readFrame_encode order (h frame List.mem_cons_self)
      (c.behind (frames.flatMap (Frame.encode order)))
    have others := ih fun frame hframe => h frame (List.mem_cons_of_mem _ hframe)
    rw [List.flatMap_cons, ← behind_behind, List.length_cons, readFrames]
    refine Action.bind_eq_done_iff.2 ⟨_, _, first, ?_⟩
    exact Action.bind_eq_done_iff.2 ⟨_, _, others, rfl⟩

end Channel

/-! ## Pushing frame after frame -/

namespace Assembler

/-- Push frames one after the other, whatever becomes of each. -/
def pushAll : Assembler → List Frame → List (Except Error Step) × Assembler
  | assembler, [] => ([], assembler)
  | assembler, frame :: frames =>
    let (step, next) := assembler.push frame
    let (steps, last) := pushAll next frames
    (step :: steps, last)

theorem pushAll_append (assembler : Assembler) (frames frames' : List Frame) :
    assembler.pushAll (frames ++ frames') =
      ((assembler.pushAll frames).1 ++ ((assembler.pushAll frames).2.pushAll frames').1,
        ((assembler.pushAll frames).2.pushAll frames').2) := by
  induction frames generalizing assembler with
  | nil => rfl
  | cons frame frames ih => simp only [List.cons_append, pushAll, ih]

/-- Frames of the request that are all followed by more are taken without a response. -/
theorem pushAll_partway {seq : UInt32} {limit : Nat} (own : List Frame) {frames : List Frame}
    (mine : ∀ frame ∈ frames, frame.header.seq = seq ∧ frame.header.hasMore = true)
    (fits : (Response.payloadOf (own ++ frames)).length ≤ limit) (skipped : Nat) :
    (holding seq limit own skipped).pushAll frames =
      (List.replicate frames.length (.ok .partway), holding seq limit (own ++ frames) skipped) := by
  induction frames generalizing own with
  | nil => rw [List.append_nil]; rfl
  | cons frame frames ih =>
    obtain ⟨hseq, more⟩ := mine frame List.mem_cons_self
    rw [List.append_cons] at fits ⊢
    have here : (Response.payloadOf (own ++ [frame])).length ≤ limit := by
      rw [Response.payloadOf_append, List.length_append] at fits
      omega
    have rest := ih (own ++ [frame])
      (fun frame hframe => mine frame (List.mem_cons_of_mem _ hframe)) fits
    simp only [pushAll, push_of_more hseq here more, rest, List.length_cons,
      List.replicate_succ]

/-- The frames of a message are partway to a response but for the last, which completes it. -/
theorem pushAll_concat {seq : UInt32} {limit : Nat} {before : List Frame} {last : Frame}
    (mine : ∀ frame ∈ before, frame.header.seq = seq ∧ frame.header.hasMore = true)
    (hseq : last.header.seq = seq) (ends : last.header.hasMore = false)
    (fits : (Response.payloadOf (before ++ [last])).length ≤ limit) (skipped : Nat) :
    ((holding seq limit [] skipped).pushAll (before ++ [last])).1 =
      List.replicate before.length (.ok .partway) ++
        [.ok (.complete (.ofFrames (before ++ [last])))] := by
  have opening : (Response.payloadOf before).length ≤ limit := by
    rw [Response.payloadOf_append, List.length_append] at fits
    omega
  have partway := pushAll_partway [] mine opening skipped
  have complete : (push (holding seq limit before skipped) last).1 =
      .ok (.complete (.ofFrames (before ++ [last]))) := push_of_last hseq fits ends
  rw [pushAll_append, partway]
  simp only [pushAll, List.nil_append, complete]

end Assembler

/-! ## Requests -/

namespace Frame

/-- What can be said of the frames that a request is cut into. -/
structure Rejoins (order : ByteOrder) (command : Command) (seq : UInt32) (payload : Octets)
    (capacity : Nat) (frames : List Frame) : Prop where
  /-- Their octets are read as just these frames, and nothing is left of them. -/
  reads : ∀ c, Channel.readFrames order frames.length (c.behind (frames.flatMap (encode order))) =
    (.done frames, c)
  headers : ∀ frame ∈ frames, frame.header.command = command.code ∧ frame.header.seq = seq
  /-- All but the last leave a response incomplete, and the last one completes it. -/
  pushes : ∃ response,
    (Assembler.pushAll { seq := seq } frames).1 =
      List.replicate (frames.length - 1) (.ok .partway) ++ [.ok (.complete response)] ∧
    response.payload = payload ∧ response.result = 0
  /-- A capacity that a payload fits into is respected, with no more frames than it takes. -/
  capped : overhead < capacity →
    (∀ frame ∈ frames, (frame.encode order).length ≤ capacity) ∧
    frames.length = max 1 (payload.length ⌈/⌉ (capacity - overhead))
  /-- Any other capacity sets no limit. -/
  uncapped : capacity ≤ overhead → frames.length = 1

variable {order : ByteOrder} {command : Command} {seq : UInt32} {payload : Octets} {capacity : Nat}

/-- A request has as many frames as its payload has chunks. -/
theorem length_request : (request command seq payload capacity).length =
    (chunks (capacity - overhead) payload).length := by
  obtain ⟨before, last, cut, linked⟩ := exists_request_eq command seq payload capacity
  rw [cut, linked]
  simp

/-- Every frame of a request carries its command and number. -/
theorem header_of_mem_request {frame : Frame}
    (h : frame ∈ request command seq payload capacity) :
    frame.header.command = command.code ∧ frame.header.seq = seq := by
  obtain ⟨before, last, -, linked⟩ := exists_request_eq command seq payload capacity
  rw [linked, List.mem_append, List.mem_map, List.mem_singleton] at h
  obtain ⟨_, -, rfl⟩ | rfl := h <;> exact ⟨rfl, rfl⟩

/-- A frame of a request with a chunk of a capacity is as long as the capacity at most. -/
theorem length_le_of_mem_request (room : overhead < capacity) {frame : Frame}
    (h : frame ∈ request command seq payload capacity) : frame.length ≤ capacity := by
  obtain ⟨before, last, cut, linked⟩ := exists_request_eq command seq payload capacity
  have chunk : frame.payload ∈ chunks (capacity - overhead) payload := by
    rw [linked, List.mem_append, List.mem_map, List.mem_singleton] at h
    rw [cut, List.mem_append, List.mem_singleton]
    obtain ⟨_, piece, rfl⟩ | rfl := h
    · exact Or.inl piece
    · exact Or.inr rfl
  have small := length_le_of_mem_chunks (Nat.sub_pos_of_lt room) chunk
  rw [length]
  omega

/-- The frames of a request carry its payload, cut. -/
theorem payloadOf_request :
    Response.payloadOf (request command seq payload capacity) = payload := by
  obtain ⟨before, last, cut, linked⟩ := exists_request_eq command seq payload capacity
  have whole := flatten_chunks (capacity - overhead) payload
  rw [cut, List.flatten_append, List.flatten_singleton] at whole
  rw [linked, Response.payloadOf_append, Response.payloadOf_singleton, Response.payloadOf,
    List.flatMap_map]
  simpa using whole

/-- A request reports no failure. -/
theorem codeOf_request : Response.codeOf (request command seq payload capacity) = 0 := by
  have none {frames : List Frame} (h : ∀ frame ∈ frames, frame.header.result = 0) :
      Response.codeOf frames = 0 := by
    induction frames with
    | nil => rfl
    | cons frame frames ih =>
      rw [Response.codeOf, if_pos (h frame List.mem_cons_self)]
      exact ih fun frame hframe => h frame (List.mem_cons_of_mem _ hframe)
  obtain ⟨before, last, -, linked⟩ := exists_request_eq command seq payload capacity
  refine none fun frame h => ?_
  rw [linked, List.mem_append, List.mem_map, List.mem_singleton] at h
  obtain ⟨_, -, rfl⟩ | rfl := h <;> rfl

/-- A request that a reader takes is read and put together to what it was cut from. -/
theorem request_rejoins (fits : payload.length ≤ Response.maxLength)
    (readable : ∀ frame ∈ request command seq payload capacity,
      (frame.encode order).length ≤ maxLength) :
    Rejoins order command seq payload capacity (request command seq payload capacity) where
  reads := Channel.readFrames_encode fun frame h => by
    rw [← length_encode order]
    exact readable frame h
  headers _ := header_of_mem_request
  pushes := by
    have total := @payloadOf_request command seq payload capacity
    have code := @codeOf_request command seq payload capacity
    obtain ⟨before, last, cut, linked⟩ := exists_request_eq command seq payload capacity
    rw [linked] at total code ⊢
    rw [← total] at fits
    have mine : ∀ frame ∈ before.map (Frame.mk (Header.request command seq).withMore),
        frame.header.seq = seq ∧ frame.header.hasMore = true := by
      intro frame h
      obtain ⟨_, -, rfl⟩ := List.mem_map.1 h
      exact ⟨rfl, Header.hasMore_withMore _⟩
    have ends : (Frame.mk (.request command seq) last).header.hasMore = false :=
      Header.hasMore_request command seq
    have steps := Assembler.pushAll_concat mine rfl ends fits 0
    refine ⟨.ofFrames _, ?_, total, code⟩
    rw [← Assembler.holding_nil, steps, List.length_append, List.length_singleton,
      Nat.add_sub_cancel, List.length_map]
  capped room := by
    refine ⟨fun frame h => ?_, ?_⟩
    · rw [length_encode]
      exact length_le_of_mem_request room h
    · rw [length_request, length_chunks (Nat.sub_pos_of_lt room)]
  uncapped small := by
    rw [length_request, Nat.sub_eq_zero_of_le small, chunks_zero, List.length_singleton]

/-- Five octets make three frames for a server that takes frames of eighteen. -/
theorem request_rejoins_three :
    let frames := request .ping 7 [1, 2, 3, 4, 5] 18
    ([1, 2, 3, 4, 5] : Octets).length ≤ Response.maxLength ∧
      (∀ frame ∈ frames, (frame.encode .little).length ≤ maxLength) ∧ frames.length = 3 ∧
      Rejoins .little .ping 7 [1, 2, 3, 4, 5] 18 frames := by
  have readable : ∀ frame ∈ request .ping 7 [1, 2, 3, 4, 5] 18,
      (frame.encode .little).length ≤ maxLength := by decide +kernel
  exact ⟨by decide, readable, by decide +kernel, request_rejoins (by decide) readable⟩

end Frame

end SqlWire
