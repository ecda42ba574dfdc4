import Mathlib.Data.List.Basic
import SqlWire.Proofs.Stream.Reception

/-!
# Putting a response together

`Assembler.trace` pushes frames until a response is complete or a frame is refused. What becomes of
each push can be told from the frames alone : from those that belong to the request, the place of
the first of them that none follows (`Response.lastPlace`), and the total of their payloads up to
each (`Response.totalTo`). `Assembler.trace_follows` says how.

The assembler before a push is the one that holds the frames of the request so far
(`Assembler.getElem?_trace`), by induction over the frames. That the payload of a single frame is
not joined to anything makes no difference to such an assembler (`Assembler.push_eq_pushJoined`).
-/

namespace SqlWire

/-! ## The frames of a request -/

namespace Response

/-- The place of the first frame that none follows, counted from zero. It is behind them all if
there is no such frame. -/
def lastPlace (own : List Frame) : Nat :=
  own.findIdx fun frame => !frame.header.hasMore

/-- The octets of the payloads up to the frame at `place`. -/
def totalTo (own : List Frame) (place : Nat) : Nat :=
  (payloadOf (own.take (place + 1))).length

/-- How many of the first `p` frames belong to a request, which is the place of the next one among
its frames. -/
def placeOf (seq : UInt32) (frames : List Frame) (p : Nat) : Nat :=
  (own seq (frames.take p)).length

/-- The frames so far ask for more and keep to the limit. -/
def Open (limit : Nat) (held : List Frame) : Prop :=
  (∀ frame ∈ held, frame.header.hasMore = true) ∧ (payloadOf held).length ≤ limit

instance (limit : Nat) (held : List Frame) : Decidable (Open limit held) :=
  inferInstanceAs (Decidable (_ ∧ _))

variable {seq : UInt32} {limit : Nat} {held frames : List Frame} {frame : Frame} {p : Nat}

theorem open_nil : Open limit [] :=
  ⟨nofun, Nat.zero_le _⟩

/-- A response stays open by a frame that asks for more and keeps to the limit. -/
theorem open_concat_iff : Open limit (held ++ [frame]) ↔ Open limit held ∧
    frame.header.hasMore = true ∧ (payloadOf (held ++ [frame])).length ≤ limit := by
  simp only [Open, List.forall_mem_append, List.forall_mem_singleton, payloadOf_append,
    List.length_append]
  constructor
  · rintro ⟨⟨mores, more⟩, fits⟩
    exact ⟨⟨mores, by omega⟩, more, fits⟩
  · rintro ⟨⟨mores, -⟩, more, fits⟩
    exact ⟨⟨mores, more⟩, fits⟩

/-- What is not open stays so. -/
theorem Open.of_append {later : List Frame} (h : Open limit (held ++ later)) : Open limit held := by
  refine ⟨fun frame hframe => h.1 frame (List.mem_append_left _ hframe), ?_⟩
  have fits := h.2
  rw [payloadOf_append, List.length_append] at fits
  omega

/-- The frames of a request among the first `p` are its first ones. -/
theorem own_take (seq : UInt32) (frames : List Frame) (p : Nat) :
    own seq (frames.take p) = (own seq frames).take (placeOf seq frames p) :=
  List.prefix_iff_eq_take.1 ((List.take_prefix p frames).filter _)

/-- A frame of the request stands among its frames at the place that was counted. -/
theorem take_own_of_getElem? (here : frames[p]? = some frame) (hseq : frame.header.seq = seq) :
    (own seq frames).take (placeOf seq frames p + 1) = own seq (frames.take p) ++ [frame] := by
  obtain ⟨bound, rfl⟩ := List.getElem?_eq_some_iff.1 here
  have split : own seq frames =
      own seq (frames.take p) ++ frames[p] :: own seq (frames.drop (p + 1)) := by
    rw [← own_cons_self hseq, ← List.drop_eq_getElem_cons bound, own, own, own,
      ← List.filter_append, List.take_append_drop]
  rw [split, placeOf, List.take_length_add_append]
  rfl

theorem lastPlace_cons (frame : Frame) (own : List Frame) : lastPlace (frame :: own) =
    if frame.header.hasMore then lastPlace own + 1 else 0 := by
  cases more : frame.header.hasMore <;> simp [lastPlace, List.findIdx_cons, more]

/-- The first frames all ask for more exactly if the last place is behind them. -/
theorem forall_mem_take_iff {own : List Frame} {j : Nat} (hj : j ≤ own.length) :
    (∀ frame ∈ own.take j, frame.header.hasMore = true) ↔ j ≤ lastPlace own := by
  induction own generalizing j with
  | nil => simp at hj; simp [hj]
  | cons frame own ih =>
    cases j with
    | zero => simp
    | succ j =>
      have rest := ih (Nat.le_of_succ_le_succ hj)
      rw [List.take_succ_cons, List.forall_mem_cons, rest, lastPlace_cons]
      cases frame.header.hasMore <;> simp

theorem placeOf_le (seq : UInt32) (frames : List Frame) (p : Nat) :
    placeOf seq frames p ≤ (own seq frames).length :=
  ((List.take_sublist p frames).filter _).length_le

/-- Whether the frames of the request among the first `p` are open can be told from their number. -/
theorem open_iff : Open limit (own seq (frames.take p)) ↔
    placeOf seq frames p ≤ lastPlace (own seq frames) ∧
      (payloadOf ((own seq frames).take (placeOf seq frames p))).length ≤ limit := by
  rw [Open, own_take, forall_mem_take_iff (placeOf_le seq frames p)]

/-- A frame that is not behind the last place asks for more exactly if it is before it. -/
theorem placeOf_lt_iff (here : frames[p]? = some frame) (hseq : frame.header.seq = seq)
    (le : placeOf seq frames p ≤ lastPlace (own seq frames)) :
    placeOf seq frames p < lastPlace (own seq frames) ↔ frame.header.hasMore = true := by
  have upTo := take_own_of_getElem? here hseq
  have room : placeOf seq frames p + 1 ≤ (own seq frames).length := by
    have length := congrArg List.length upTo
    rw [List.length_append, List.length_singleton, List.length_take] at length
    simp only [placeOf] at length ⊢
    omega
  have before := (forall_mem_take_iff (placeOf_le seq frames p)).2 le
  rw [← own_take] at before
  rw [← Nat.succ_le_iff, ← forall_mem_take_iff room, upTo, List.forall_mem_append,
    List.forall_mem_singleton]
  exact and_iff_right before

/-- The response that the frames up to a place make. -/
theorem ofFrames_take (here : frames[p]? = some frame) (hseq : frame.header.seq = seq) :
    ∃ first, (own seq frames).head? = some first ∧
      ofFrames (own seq (frames.take p) ++ [frame]) = {
        header := first.header
        result := codeOf ((own seq frames).take (placeOf seq frames p + 1))
        payload := payloadOf ((own seq frames).take (placeOf seq frames p + 1))
        frames := placeOf seq frames p + 1 } := by
  have upTo := take_own_of_getElem? here hseq
  obtain ⟨first, hfirst⟩ : ∃ first, (own seq (frames.take p) ++ [frame]).head? = some first :=
    Option.isSome_iff_exists.1 (by simp)
  refine ⟨first, ?_, ?_⟩
  · rw [← hfirst, ← upTo, List.head?_take, if_neg (Nat.succ_ne_zero _)]
  · rw [ofFrames, hfirst, ← upTo]
    simp only [Option.map_some, Option.getD_some]
    rw [upTo, List.length_append]
    rfl

end Response

/-! ## Pushing until the end -/

namespace Assembler

/-- Whether a response is complete or a frame is refused. -/
def ends : Except Error Step → Bool
  | .ok (.skipped _) | .ok .partway => false
  | .ok (.complete _) | .error _ => true

/-- One push, with the assembler before and after it. -/
structure Push where
  before : Assembler
  frame : Frame
  step : Except Error Step
  after : Assembler

/-- Push one frame. -/
def pushed (assembler : Assembler) (frame : Frame) : Push :=
  ⟨assembler, frame, (assembler.push frame).1, (assembler.push frame).2⟩

/-- Push frames one after the other until a response is complete or a frame is refused. -/
def trace : Assembler → List Frame → List Push
  | _, [] => []
  | assembler, frame :: frames =>
    let push := assembler.pushed frame
    push :: if ends push.step then [] else trace push.after frames

variable {seq : UInt32} {limit : Nat} {held : List Frame}

/-- A frame of the request that ends the response or exceeds the limit is the last one pushed. -/
theorem ends_push {frame : Frame} (skipped : Nat) (hseq : frame.header.seq = seq)
    (opened : Response.Open limit held) (closed : ¬Response.Open limit (held ++ [frame])) :
    ends ((holding seq limit held skipped).push frame).1 = true := by
  by_cases fits : (Response.payloadOf (held ++ [frame])).length ≤ limit
  · have last : frame.header.hasMore = false :=
      Bool.eq_false_iff.2 fun more => closed (Response.open_concat_iff.2 ⟨opened, more, fits⟩)
    rw [push_of_last hseq fits last]
    rfl
  · rw [push_of_exceeding hseq (Nat.lt_of_not_le fits)]
    rfl

/-- A push is made as long as the frames before it ask for more and keep to the limit, and it finds
an assembler that holds those of the request. -/
theorem getElem?_trace (opened : Response.Open limit held) (skipped : Nat) (frames : List Frame)
    (p : Nat) : ((holding seq limit held skipped).trace frames)[p]? =
      if Response.Open limit (held ++ Response.own seq (frames.take p)) then
        frames[p]?.map (holding seq limit (held ++ Response.own seq (frames.take p))
          (skipped + (frames.take p).countP fun frame => frame.header.seq ≠ seq)).pushed
      else none := by
  induction frames generalizing held skipped p with
  | nil => simp [trace]
  | cons frame frames ih =>
    cases p with
    | zero => simp [trace, Response.own, opened]
    | succ p =>
      rw [trace, List.getElem?_cons_succ, List.take_succ_cons, List.getElem?_cons_succ]
      by_cases hseq : frame.header.seq = seq
      · rw [Response.own_cons_self hseq, List.countP_cons_of_neg (by simpa using hseq),
          ← List.singleton_append, ← List.append_assoc]
        by_cases goesOn : Response.Open limit (held ++ [frame])
        · obtain ⟨-, more, fits⟩ := Response.open_concat_iff.1 goesOn
          have step : push (holding seq limit held skipped) frame = _ := push_of_more hseq fits more
          simp only [pushed, step, ends, Bool.false_eq_true, if_false]
          exact ih goesOn skipped p
        · have last := ends_push skipped hseq opened goesOn
          simp only [pushed, last, if_true, List.getElem?_nil]
          exact (if_neg fun later => goesOn later.of_append).symm
      · have step : push (holding seq limit held skipped) frame = _ := push_of_ne hseq
        rw [Response.own_cons_of_ne hseq, List.countP_cons_of_pos (by simpa using hseq)]
        simp only [pushed, step, ends, Bool.false_eq_true, if_false]
        rw [ih opened, Nat.add_right_comm, Nat.add_assoc]

/-- The assembler that a frame is pushed to holds what was taken of the frames before. -/
theorem getElem?_trace_new (seq : UInt32) (limit : Nat) (frames : List Frame) (p : Nat) :
    (trace { seq := seq, limit := limit } frames)[p]? =
      if Response.Open limit (Response.own seq (frames.take p)) then
        frames[p]?.map (holding seq limit (Response.own seq (frames.take p))
          ((frames.take p).countP fun frame => frame.header.seq ≠ seq)).pushed
      else none := by
  have entry : ((holding seq limit [] 0).trace frames)[p]? = _ :=
    getElem?_trace Response.open_nil 0 frames p
  rwa [List.nil_append, Nat.zero_add] at entry

/-- What is found in the trace of a new assembler. -/
theorem of_getElem?_trace {frames : List Frame} {p : Nat} {push : Push}
    (h : (trace { seq := seq, limit := limit } frames)[p]? = some push) :
    Response.Open limit (Response.own seq (frames.take p)) ∧ ∃ frame skipped,
      frames[p]? = some frame ∧
      push = (holding seq limit (Response.own seq (frames.take p)) skipped).pushed frame := by
  rw [getElem?_trace_new] at h
  split at h
  · next opened =>
    obtain ⟨frame, here, made⟩ := Option.map_eq_some_iff.1 h
    exact ⟨opened, frame, _, here, made.symm⟩
  · cases h

/-! ## Pushing without a short cut -/

/-- Take one more frame, and join its payload to those before it even if there are none. -/
def pushJoined (assembler : Assembler) (frame : Frame) : Except Error Step × Assembler :=
  let header := frame.header
  let joined := assembler.buffered ++ frame.payload
  if header.seq ≠ assembler.seq then
    (.ok (.skipped header), { assembler with skipped := assembler.skipped + 1 })
  else if assembler.limit < joined.length then
    (.error (.malformed (.responseTooLong assembler.seq assembler.limit assembler.frames)),
      assembler)
  else
    let first := assembler.first.getD header
    let result := if assembler.result = 0 then header.result else assembler.result
    let frames := assembler.frames + 1
    let accepted := { assembler with first := some first, result := result, frames := frames }
    if header.hasMore then (.ok .partway, { accepted with buffered := joined })
    else (.ok (.complete ⟨first, result, joined, frames⟩), { accepted with buffered := [] })

/-- To hand over the payload of a single frame as it is comes to the same. -/
theorem push_eq_pushJoined {assembler : Assembler}
    (fresh : assembler.frames = 0 → assembler.buffered = []) (frame : Frame) :
    assembler.push frame = assembler.pushJoined frame := by
  simp only [push, pushJoined, List.length_append]
  by_cases single : assembler.frames = 0
  · have none := fresh single
    cases frame.header.hasMore <;> simp [single, none]
  · cases frame.header.hasMore <;> simp [single]

/-- The buffer never grows beyond the limit. -/
theorem length_buffered_pushJoined_le {assembler : Assembler}
    (h : assembler.buffered.length ≤ assembler.limit) (frame : Frame) :
    (assembler.pushJoined frame).2.buffered.length ≤ assembler.limit := by
  simp only [pushJoined]
  split
  · exact h
  · split
    · exact h
    · next fits =>
      cases frame.header.hasMore with
      | true => exact Nat.le_of_not_lt fits
      | false => exact Nat.zero_le _

theorem holding_fresh (skipped : Nat) (none : (holding seq limit held skipped).frames = 0) :
    (holding seq limit held skipped).buffered = [] := by
  obtain rfl := List.eq_nil_of_length_eq_zero none
  rfl

/-! ## What becomes of each push -/

open Response (own codeOf payloadOf lastPlace totalTo placeOf)

/-- What becomes of the frame that stands at `place` among the frames `own` of its request. -/
structure Taken (seq : UInt32) (limit : Nat) (own : List Frame) (place : Nat) (push : Push) :
    Prop where
  /-- If the payloads exceed the limit with it, it is refused and nothing has changed. -/
  refused : limit < totalTo own place →
    push.step = .error (.malformed (.responseTooLong seq limit place)) ∧ push.after = push.before
  partway : totalTo own place ≤ limit → place < lastPlace own → push.step = .ok .partway
  /-- At the last place it completes the response that is made of the frames so far. -/
  complete : totalTo own place ≤ limit → place = lastPlace own → ∃ first, own.head? = some first ∧
    push.step = .ok (.complete {
      header := first.header
      result := codeOf (own.take (place + 1))
      payload := payloadOf (own.take (place + 1))
      frames := place + 1 })

/-- What is pushed of some frames, told from the frames alone. -/
structure Follows (seq : UInt32) (limit : Nat) (frames : List Frame) (pushes : List Push) :
    Prop where
  /-- The frames are pushed in their order. -/
  ordered : ∀ (p : Nat) (push : Push), pushes[p]? = some push → frames[p]? = some push.frame
  /-- A frame is pushed unless one before it has ended the response or exceeded the limit. -/
  reaches : ∀ p < frames.length, p < pushes.length ↔
    placeOf seq frames p ≤ lastPlace (own seq frames) ∧
      (payloadOf ((own seq frames).take (placeOf seq frames p))).length ≤ limit
  /-- A frame of another request is counted, and nothing else has changed. -/
  skips : ∀ push ∈ pushes, push.frame.header.seq ≠ seq →
    push.step = .ok (.skipped push.frame.header) ∧
      push.after = { push.before with skipped := push.before.skipped + 1 }
  takes : ∀ (p : Nat) (push : Push), pushes[p]? = some push → push.frame.header.seq = seq →
    Taken seq limit (own seq frames) (placeOf seq frames p) push
  /-- It does not matter that the payload of a single frame is not joined to anything. -/
  joins : ∀ push ∈ pushes, push.before.pushJoined push.frame = (push.step, push.after)
  bounded : ∀ push ∈ pushes, push.after.buffered.length ≤ limit

/-- What comes of a frame of the request depends on the place among its frames and on nothing else.
-/
theorem taken_pushed {frames : List Frame} {frame : Frame} {p skipped : Nat}
    (opened : Response.Open limit (own seq (frames.take p))) (here : frames[p]? = some frame)
    (hseq : frame.header.seq = seq) : Taken seq limit (own seq frames) (placeOf seq frames p)
      ((holding seq limit (own seq (frames.take p)) skipped).pushed frame) := by
  have upTo := Response.take_own_of_getElem? here hseq
  have last := Response.placeOf_lt_iff here hseq (Response.open_iff.1 opened).1
  refine ⟨fun long => ?_, fun fits early => ?_, fun fits place => ?_⟩
  · rw [totalTo, upTo] at long
    have step : push (holding seq limit _ skipped) frame = _ := push_of_exceeding hseq long
    exact ⟨congrArg Prod.fst step, congrArg Prod.snd step⟩
  · rw [totalTo, upTo] at fits
    exact congrArg Prod.fst (push_of_more hseq fits (last.1 early))
  · rw [totalTo, upTo] at fits
    have ended : frame.header.hasMore = false :=
      Bool.eq_false_iff.2 fun more => Nat.ne_of_lt (last.2 more) place
    obtain ⟨first, hfirst, made⟩ := Response.ofFrames_take here hseq
    refine ⟨first, hfirst, ?_⟩
    rw [← made]
    exact push_of_last hseq fits ended

/-- A response that is complete is made of the frames of its request up to the last place. -/
theorem eq_ofFrames_of_complete {frames : List Frame} {push : Push} {response : Response}
    (h : push ∈ trace { seq := seq, limit := limit } frames)
    (complete : push.step = .ok (.complete response)) :
    response = .ofFrames ((own seq frames).take (lastPlace (own seq frames) + 1)) := by
  obtain ⟨p, hp⟩ := List.mem_iff_getElem?.1 h
  obtain ⟨opened, frame, skipped, here, rfl⟩ := of_getElem?_trace hp
  have step : ((holding seq limit (own seq (frames.take p)) skipped).push frame).1 =
    .ok (.complete response) := complete
  by_cases hseq : frame.header.seq = seq
  · by_cases fits : (payloadOf (own seq (frames.take p) ++ [frame])).length ≤ limit
    · cases more : frame.header.hasMore with
      | true =>
        rw [push_of_more hseq fits more] at step
        cases step
      | false =>
        have le := (Response.open_iff.1 opened).1
        have place : placeOf seq frames p = lastPlace (own seq frames) := by
          refine (Nat.lt_or_eq_of_le le).resolve_left fun early => ?_
          rw [Response.placeOf_lt_iff here hseq le, more] at early
          cases early
        rw [push_of_last hseq fits more] at step
        cases step
        rw [← place, Response.take_own_of_getElem? here hseq]
    · rw [push_of_exceeding hseq (Nat.lt_of_not_le fits)] at step
      cases step
  · rw [push_of_ne hseq] at step
    cases step

/-- A response is put together as its frames say, wherever frames of other requests stand. -/
theorem trace_follows (seq : UInt32) (limit : Nat) (frames : List Frame) :
    Follows seq limit frames (trace { seq := seq, limit := limit } frames) where
  ordered p push h := by
    obtain ⟨-, frame, skipped, here, rfl⟩ := of_getElem?_trace h
    exact here
  reaches p hp := by
    rw [← Response.open_iff]
    constructor
    · intro made
      exact (of_getElem?_trace (List.getElem?_eq_getElem made)).1
    · intro opened
      have entry := getElem?_trace_new seq limit frames p
      rw [if_pos opened, List.getElem?_eq_getElem hp, Option.map_some] at entry
      exact (List.getElem?_eq_some_iff.1 entry).1
  skips push h foreign := by
    obtain ⟨p, hp⟩ := List.mem_iff_getElem?.1 h
    obtain ⟨-, frame, skipped, -, rfl⟩ := of_getElem?_trace hp
    have step : push (holding seq limit (own seq (frames.take p)) skipped) frame = _ :=
      push_of_ne foreign
    exact ⟨congrArg Prod.fst step, congrArg Prod.snd step⟩
  takes p push h hseq := by
    obtain ⟨opened, frame, skipped, here, rfl⟩ := of_getElem?_trace h
    exact taken_pushed opened here hseq
  joins push h := by
    obtain ⟨p, hp⟩ := List.mem_iff_getElem?.1 h
    obtain ⟨-, frame, skipped, -, rfl⟩ := of_getElem?_trace hp
    exact (push_eq_pushJoined (holding_fresh skipped) frame).symm
  bounded push h := by
    obtain ⟨p, hp⟩ := List.mem_iff_getElem?.1 h
    obtain ⟨opened, frame, skipped, -, rfl⟩ := of_getElem?_trace hp
    show ((holding _ _ _ _).push frame).2.buffered.length ≤ limit
    rw [push_eq_pushJoined (holding_fresh skipped)]
    exact length_buffered_pushJoined_le opened.2 frame

/-- A frame of another request stands between two of a response whose payloads just keep to the
limit. With one octet less the second one is refused. -/
theorem trace_follows_between :
    let header : Header := ⟨32, 0, 0, (2, 1, 0), 7⟩
    let frames : List Frame := [⟨header.withMore, [1, 2]⟩, ⟨{ header with seq := 6 }, [9]⟩,
      ⟨{ header with result := 5 }, [3]⟩]
    Follows 7 3 frames (trace { seq := 7, limit := 3 } frames) ∧
      (trace { seq := 7, limit := 3 } frames).map Push.step =
        [.ok .partway, .ok (.skipped { header with seq := 6 }),
          .ok (.complete ⟨header.withMore, 5, [1, 2, 3], 2⟩)] ∧
      (trace { seq := 7, limit := 2 } frames).map Push.step =
        [.ok .partway, .ok (.skipped { header with seq := 6 }),
          .error (.malformed (.responseTooLong 7 2 1))] :=
  ⟨trace_follows _ _ _, by decide, by decide⟩

end Assembler

end SqlWire
