import SqlWire.Proofs.Stream.Reception
import SqlWire.Session.Basic

/-!
# One exchange

`Session.Exchanges r response s s'` describes a request that is answered : its octets go out whole,
the stream goes on with complete frames that answer its number, and nothing else about the session
changes. A request on a session that is not broken either is such an exchange, with an outcome that
only depends on the response, or it is interrupted and leaves the session broken
(`Session.request_cases`). It may be interrupted while it is written, by a fault or by a write that
waits for ever, as well as while its response is read. A response that is received counts as an
exchange whatever it says, since what goes wrong in a payload is no fault of the stream
(`isStreamFault_of_payload?`).

Whatever becomes of a request, only its own octets are written, from the first on
(`Session.sends_request`).
-/

namespace SqlWire

/-! ## Writing -/

/-- What is held up fails with a fault of the stream, if it fails at all. -/
theorem Hindrance.failsOnly_outcome {α : Type} (h : Hindrance) :
    (h.outcome : Outcome α).FailsOnly (·.isStreamFault) := by
  cases h with
  | stalled => exact Outcome.failsOnly_suspended
  | failing text => exact Outcome.failsOnly_failed rfl

namespace Channel

/-- Whether so many octets get through : there is room for them, and they can be flushed even if
they just fill it. -/
def Fits (octets : Octets) (c : Channel) : Prop :=
  ∀ room ∈ c.room, octets.length < room ∨ octets.length = room ∧ c.brimming = true

/-- The channel after `octets` were written. -/
def sending (octets : Octets) (c : Channel) : Channel :=
  { c with sent := c.sent ++ octets, room := c.room.map (· - octets.length) }

/-- What is written is done exactly if it gets through. -/
theorem write_eq_done_iff {octets : Octets} {c c' : Channel} {u : Unit} :
    write octets c = (.done u, c') ↔ c.Fits octets ∧ c' = c.sending octets := by
  unfold write Fits sending
  cases hr : c.room with
  | none => exact ⟨fun h => ⟨nofun, (congrArg Prod.snd h).symm⟩, fun h => h.2 ▸ rfl⟩
  | some room =>
    simp only [Option.mem_some_iff, forall_eq', Option.map_some]
    split_ifs with fits
    · exact ⟨fun h => ⟨fits, (congrArg Prod.snd h).symm⟩, fun h => h.2 ▸ rfl⟩
    · exact iff_of_false (fun h => c.atFull.outcome_ne_done u (congrArg Prod.fst h))
        fun h => fits h.1

/-- A write fails with a fault of the stream. -/
theorem failsOnly_write (octets : Octets) (c : Channel) :
    (write octets c).1.FailsOnly (·.isStreamFault) := by
  unfold write
  split
  · exact Outcome.failsOnly_done _
  · split_ifs
    · exact Outcome.failsOnly_done _
    · exact c.atFull.failsOnly_outcome

/-- Nothing was written, and the stream was not shut down. -/
def Quiet (c c' : Channel) : Prop :=
  c'.sent = c.sent ∧ c'.shutdowns = c.shutdowns

/-- Reading writes nothing. -/
theorem Consumes.quiet {c c' : Channel} (h : Consumes c c') : Quiet c c' := by
  obtain ⟨octets, rfl⟩ := h
  exact ⟨rfl, rfl⟩

/-- Nothing but the head of `octets` was written, and the stream was not shut down. -/
def Sends (octets : Octets) (c c' : Channel) : Prop :=
  (∃ written, written <+: octets ∧ c'.sent = c.sent ++ written) ∧ c'.shutdowns = c.shutdowns

/-- A write that does not get through has still written from the first octet on. -/
theorem sends_write (octets : Octets) : Action.Respects (Sends octets) (write octets) := by
  intro c
  unfold write
  split
  · exact ⟨⟨octets, List.prefix_refl _, rfl⟩, rfl⟩
  · next room _ =>
    split_ifs
    · exact ⟨⟨octets, List.prefix_refl _, rfl⟩, rfl⟩
    · exact ⟨⟨octets.take room, List.take_prefix _ _, rfl⟩, rfl⟩

/-- What is silent behind a write adds nothing to it. -/
theorem Sends.quiet {octets : Octets} {c c' c'' : Channel} (h : Sends octets c c')
    (same : Quiet c' c'') : Sends octets c c'' := by
  obtain ⟨⟨written, le, sent⟩, shut⟩ := h
  exact ⟨⟨written, le, same.1.trans sent⟩, same.2.trans shut⟩

end Channel

/-! ## Responses -/

/-- The octets of a request under a number. -/
def Request.octets (r : Request) (order : ByteOrder) (charset : Charset) (capacity seq : UInt32) :
    Octets :=
  (Frame.request r.command seq (r.payload order charset) capacity.toNat).flatMap
    (Frame.encode order)

/-- A payload is handed over exactly if no frame of the response reports a failure. -/
theorem Response.payload?_eq_ok_iff {response : Response} {order : ByteOrder} {charset : Charset}
    {payload : Octets} : response.payload? order charset = .ok payload ↔
      response.result = 0 ∧ response.payload = payload := by
  unfold Response.payload?
  split_ifs with hr
  · simp [hr]
  · simp [hr]
  · simp only [hr, false_and, iff_false]
    split <;> exact nofun

/-- Whether an error is about the contents of a payload. -/
def Error.isPayloadFault : Error → Bool
  | e@(malformed _) => !e.isStreamFault
  | _ => false

/-- A fault of a payload is none of the stream. -/
theorem Error.isStreamFault_of_isPayloadFault {e : Error} (h : e.isPayloadFault = true) :
    e.isStreamFault = false := by
  cases e with
  | malformed fault => simpa [isPayloadFault] using h
  | _ => cases h

namespace Wire.Reader

variable {α β : Type}

/-- Whatever this reader complains about is in the payload. -/
def Careful (r : Reader α) : Prop :=
  ∀ order left e, (r order left).1 = .error e → e.isPayloadFault = true

theorem Careful.pure (a : α) : Careful (Pure.pure a : Reader α) :=
  fun _ _ _ => nofun

/-- Careful readers in a row are careful. -/
theorem Careful.bind {r : Reader α} {f : α → Reader β} (hr : Careful r)
    (hf : ∀ a, Careful (f a)) : Careful (r >>= f) := by
  intro order left e h
  simp only [Bind.bind, Reader.bind] at h
  split at h
  · exact hf _ _ _ _ h
  · next ha =>
    cases h
    exact hr order left e (by rw [ha])

theorem careful_take (part : Part) (n : Nat) : Careful (take part n) := by
  intro order left e h
  unfold take at h
  split_ifs at h
  cases h
  rfl

theorem careful_word (part : Part) (width : Nat) : Careful (word part width) := by
  intro order left e h
  unfold word at h
  split at h
  · cases h
  · next ha =>
    cases h
    exact careful_take part width order left e (by rw [ha])

theorem careful_u32 : Careful u32 :=
  (careful_word _ _).bind fun _ => .pure _

theorem careful_i32 : Careful i32 :=
  careful_u32.bind fun _ => .pure _

theorem careful_nullable : Careful nullable := by
  refine careful_u32.bind fun length => ?_
  split
  · exact .pure _
  · exact (careful_take _ _).bind fun _ => .pure _

theorem careful_field : Careful field := by
  refine careful_nullable.bind fun octets => ?_
  split
  · exact .pure _
  · rintro order left e ⟨⟩
    rfl

theorem careful_untilZero : Careful untilZero :=
  fun _ _ _ => nofun

end Wire.Reader

open Wire.Reader in
/-- A report that cannot be read is a fault of the payload. -/
theorem Response.careful_readReport (charset : Charset) : Careful (readReport charset) :=
  careful_i32.bind fun _ => careful_i32.bind fun _ => careful_i32.bind fun _ =>
    careful_untilZero.bind fun _ => .pure _

/-- A response that is not a success is the server's report, or a fault of the payload. -/
theorem Response.payload?_eq_error {response : Response} {order : ByteOrder} {charset : Charset}
    {e : Error} (h : response.payload? order charset = .error e) :
    (∃ report, e = .server report) ∨ e.isPayloadFault = true := by
  unfold Response.payload? at h
  split_ifs at h
  · cases h
    exact Or.inr rfl
  · split at h
    · cases h
      exact Or.inl ⟨_, rfl⟩
    · next he =>
      cases h
      exact Or.inr (careful_readReport charset _ _ _ he)

/-- A response that is received but not accepted is no fault of the stream. -/
theorem isStreamFault_of_payload? {response : Response} {order : ByteOrder} {charset : Charset}
    {e : Error} (h : response.payload? order charset = .error e) : e.isStreamFault = false := by
  obtain ⟨report, rfl⟩ | fault := Response.payload?_eq_error h
  · rfl
  · exact Error.isStreamFault_of_isPayloadFault fault

/-- After a fault of the stream its place is lost. -/
theorem Error.desynchronises_of_isStreamFault {e : Error} (h : e.isStreamFault = true) :
    e.desynchronises = true := by
  cases e with
  | io | connectionClosed | malformed => rfl
  | _ => cases h

/-- Neither the stream nor a payload fails with a failed connection attempt. -/
theorem Error.isConnectFailure_of_fault {e : Error}
    (h : e.isStreamFault = true ∨ e.isPayloadFault = true) : e.isConnectFailure = false := by
  cases e with
  | connectFailed cause => rcases h with h | h <;> cases h
  | _ => rfl

/-- A cause that is not itself a failed attempt is wrapped. -/
theorem Error.asConnectFailure_of_isConnectFailure {e : Error}
    (h : e.isConnectFailure = false) : e.asConnectFailure = connectFailed e := by
  cases e with
  | connectFailed cause => cases h
  | _ => rfl

/-- The one frame of a successful response, for examples. -/
def Response.success (seq : UInt32) (payload : List Wire.Item) : Octets :=
  Frame.encode .big ⟨⟨0, 0, 0, (0, 0, 0), seq⟩, Wire.encode .big payload⟩

/-! ## Requests -/

namespace Session

/-- The octets of the next request of a session, if it is `r`. -/
def octetsOf (s : Session) (r : Request) : Octets :=
  r.octets s.order s.charset s.server.capacity (s.seq + 1)

/-- The request `r` goes out whole, its response comes back whole, and nothing else happens. -/
def Exchanges (r : Request) (response : Response) (s s' : Session) : Prop :=
  s.channel.Fits (s.octetsOf r) ∧
    ∃ octets frames c, Frame.Chain s.order octets frames ∧
      Response.Answers (s.seq + 1) frames response ∧
      s.channel.sending (s.octetsOf r) = c.behind octets ∧
      s' = { s with seq := s.seq + 1, channel := c }

variable {s s' : Session} {r : Request} {response : Response}

/-- An exchange keeps the byte order. -/
theorem Exchanges.order_eq (h : Exchanges r response s s') : s'.order = s.order := by
  obtain ⟨-, -, -, -, -, -, -, rfl⟩ := h
  rfl

/-- An exchange neither breaks a session nor mends it. -/
theorem Exchanges.broken_eq (h : Exchanges r response s s') : s'.broken = s.broken := by
  obtain ⟨-, -, -, -, -, -, -, rfl⟩ := h
  rfl

/-- What succeeds on the channel changes nothing else about the session. -/
theorem onChannel_eq_done_iff {α : Type} {x : Action Channel α} {a : α} :
    onChannel x s = (.done a, s') ↔
      ∃ c, x s.channel = (.done a, c) ∧ s' = { s with channel := c } := by
  simp only [onChannel, Action.within, Prod.mk.injEq]
  constructor
  · rintro ⟨ha, rfl⟩
    exact ⟨_, Prod.ext ha rfl, rfl⟩
  · rintro ⟨c, hx, rfl⟩
    rw [hx]
    exact ⟨rfl, rfl⟩

/-- A round trip succeeds exactly if it is an exchange. -/
theorem roundTrip_eq_done_iff :
    roundTrip r.command (r.payload s.order s.charset) s = (.done response, s') ↔
      Exchanges r response s s' := by
  simp only [roundTrip, Action.modify_bind, Action.get_bind, Action.bind_eq_done_iff]
  constructor
  · rintro ⟨_, _, written, received⟩
    obtain ⟨c₁, hw, rfl⟩ := onChannel_eq_done_iff.1 written
    obtain ⟨c, hr, rfl⟩ := onChannel_eq_done_iff.1 received
    obtain ⟨fits, rfl⟩ := Channel.write_eq_done_iff.1 hw
    obtain ⟨octets, frames, chain, answers, split⟩ := Channel.receive_eq_done_iff.1 hr
    exact ⟨fits, octets, frames, c, chain, answers, split, rfl⟩
  · rintro ⟨fits, octets, frames, c, chain, answers, split, rfl⟩
    exact ⟨(), _, onChannel_eq_done_iff.2 ⟨_, Channel.write_eq_done_iff.2 ⟨fits, rfl⟩, rfl⟩,
      onChannel_eq_done_iff.2
        ⟨c, Channel.receive_eq_done_iff.2 ⟨octets, frames, chain, answers, split⟩, rfl⟩⟩

/-- A round trip fails with a fault of the stream. -/
theorem failsOnly_roundTrip (command : Command) (payload : Octets) (s : Session) :
    (roundTrip command payload s).1.FailsOnly (·.isStreamFault) := by
  simp only [roundTrip, Action.modify_bind, Action.get_bind]
  exact Action.failsOnly_bind (Channel.failsOnly_write _ _) fun _ _ _ =>
    Channel.failsOnly_receive _ _ _

/-- Of a session a round trip changes the number of the last request and the channel. -/
theorem roundTrip_state (command : Command) (payload : Octets) (s : Session) :
    ∃ c, (roundTrip command payload s).2 = { s with seq := s.seq + 1, channel := c } := by
  simp only [roundTrip, Action.modify_bind, Action.get_bind]
  rcases Action.bind_cases (onChannel (Channel.write _)) _ { s with seq := s.seq + 1 } with
    ⟨_, s', hx, hb⟩ | ⟨-, hb, -⟩
  · obtain ⟨c, -, rfl⟩ := onChannel_eq_done_iff.1 hx
    rw [hb]
    exact ⟨_, rfl⟩
  · rw [hb]
    exact ⟨_, rfl⟩

/-- Whatever becomes of a round trip, its own octets are all that is written. -/
theorem sends_roundTrip (r : Request) (s : Session) :
    Channel.Sends (s.octetsOf r) s.channel
      (roundTrip r.command (r.payload s.order s.charset) s).2.channel := by
  simp only [roundTrip, Action.modify_bind, Action.get_bind]
  have written := Channel.sends_write (s.octetsOf r) s.channel
  rcases Action.bind_cases (onChannel (Channel.write _)) _ { s with seq := s.seq + 1 } with
    ⟨_, s', hx, hb⟩ | ⟨-, hb, -⟩
  · obtain ⟨c, hw, rfl⟩ := onChannel_eq_done_iff.1 hx
    rw [hb]
    rw [show Channel.write (s.octetsOf r) s.channel = _ from hw] at written
    exact written.quiet (Channel.consumes_receive _ _ c).quiet
  · rw [hb]
    exact written

/-- Once an exchange was interrupted nothing is asked any more. -/
theorem request_of_broken (h : s.broken = true) (r : Request) :
    request r s = (.failed .broken, s) := by
  simp [request, h]

/-- A request that is an exchange comes to what the response says. -/
theorem request_of_exchanges (h : Exchanges r response s s') (hb : s.broken = false) :
    request r s = (.ofExcept (response.payload? s.order s.charset), s') := by
  obtain ⟨fits, octets, frames, c, chain, answers, split, rfl⟩ := h
  have trip : roundTrip r.command (r.payload s.order s.charset) { s with broken := true } =
      (.done response, { s with broken := true, seq := s.seq + 1, channel := c }) :=
    roundTrip_eq_done_iff.2 ⟨fits, octets, frames, c, chain, answers, split, rfl⟩
  simp only [request, hb, Bool.false_eq_true, if_false, trip]

/-- What can become of a request : an answer, or an interruption that breaks the session. -/
theorem request_cases (hb : s.broken = false) (r : Request) :
    (∃ response s', Exchanges r response s s' ∧
        request r s = (.ofExcept (response.payload? s.order s.charset), s')) ∨
    (request r s).1.interrupted = true ∧
      ∃ c, (request r s).2 = { s with seq := s.seq + 1, channel := c, broken := true } := by
  cases ht : roundTrip r.command (r.payload s.order s.charset) { s with broken := true } with
  | mk outcome s₁ =>
    have only := failsOnly_roundTrip r.command (r.payload s.order s.charset)
      { s with broken := true }
    obtain ⟨c, hs₁⟩ := roundTrip_state r.command (r.payload s.order s.charset)
      { s with broken := true }
    rw [ht] at only hs₁
    dsimp only at hs₁
    subst hs₁
    cases outcome with
    | done response =>
      obtain ⟨fits, octets, frames, c', chain, answers, split, same⟩ := roundTrip_eq_done_iff.1 ht
      have exchange : Exchanges r response s { s with seq := s.seq + 1, channel := c' } :=
        ⟨fits, octets, frames, c', chain, answers, split, rfl⟩
      exact Or.inl ⟨response, _, exchange, request_of_exchanges exchange hb⟩
    | failed e =>
      have fault : e.isStreamFault = true := only e rfl
      refine Or.inr ?_
      simp only [request, hb, Bool.false_eq_true, if_false, ht,
        Error.desynchronises_of_isStreamFault fault]
      exact ⟨fault, c, rfl⟩
    | suspended =>
      refine Or.inr ?_
      simp only [request, hb, Bool.false_eq_true, if_false, ht]
      exact ⟨rfl, c, rfl⟩

/-- Behind the length of its frame a write waits for ever, and the session counts as broken. -/
example : request .ping { channel := { unread := [], room := some 4, atFull := .stalled } } =
    (.suspended, { channel := { unread := [], room := some 0, atFull := .stalled,
                                sent := [0, 0, 0, 16] }
                   seq := 1, broken := true }) := by
  cbv

/-- A request writes its own octets, from the first on, or none. -/
theorem sends_request (r : Request) (s : Session) :
    Channel.Sends (s.octetsOf r) s.channel (request r s).2.channel := by
  cases hb : s.broken with
  | true =>
    rw [request_of_broken hb]
    exact ⟨⟨[], List.nil_prefix, by simp⟩, rfl⟩
  | false =>
    have written := sends_roundTrip r { s with broken := true }
    simp only [request, hb, Bool.false_eq_true, if_false]
    cases ht : roundTrip r.command (r.payload s.order s.charset) { s with broken := true } with
    | mk outcome s₁ =>
      simp only [ht] at written
      cases outcome <;> exact written

/-- A request reports what has happened to it, and never a failed connection attempt. -/
theorem failsOnly_request (r : Request) (s : Session) :
    (request r s).1.FailsOnly (·.isConnectFailure = false) := by
  cases hb : s.broken with
  | true =>
    rw [request_of_broken hb]
    exact Outcome.failsOnly_failed rfl
  | false =>
    rcases request_cases hb r with ⟨response, s', exchange, heq⟩ | ⟨stopped, -⟩
    · rw [heq]
      refine Outcome.failsOnly_ofExcept fun e he => ?_
      obtain ⟨report, rfl⟩ | fault := Response.payload?_eq_error he
      · rfl
      · exact Error.isConnectFailure_of_fault (Or.inr fault)
    · intro e he
      rw [he] at stopped
      exact Error.isConnectFailure_of_fault (Or.inl stopped)

/-! ## Requests whose answer is read -/

/-- Reading the payload of an answer changes nothing about the session. -/
theorem ask_state {α : Type} (r : Request) (reader : Wire.Reader α) (s : Session) :
    (ask r reader s).2 = (request r s).2 := by
  simp only [ask]
  rcases Action.bind_cases (request r) _ s with ⟨payload, s', hx, hb⟩ | ⟨-, hb, -⟩
  · rw [hb, hx]
    rfl
  · rw [hb]

/-- On a broken session nothing is asked. -/
theorem ask_of_broken {α : Type} (h : s.broken = true) (r : Request) (reader : Wire.Reader α) :
    ask r reader s = (.failed .broken, s) := by
  simp only [ask, Bind.bind, Action.bind, request_of_broken h r]

/-- Asking never reports a failed connection attempt if the reader is careful. -/
theorem failsOnly_ask {α : Type} {reader : Wire.Reader α} (careful : reader.Careful) (r : Request)
    (s : Session) : (ask r reader s).1.FailsOnly (·.isConnectFailure = false) := by
  refine Action.failsOnly_bind (failsOnly_request r s) fun payload s' _ => ?_
  exact Outcome.failsOnly_ofExcept fun e he =>
    Error.isConnectFailure_of_fault (Or.inr (careful _ _ e he))

/-- What is made of a response depends on it alone. -/
theorem ask_of_exchanges {α : Type} (h : Exchanges r response s s') (hb : s.broken = false)
    (reader : Wire.Reader α) : ask r reader s =
      (.ofExcept do (reader s.order (← response.payload? s.order s.charset)).1, s') := by
  have order := h.order_eq
  simp only [ask, Bind.bind, Action.bind, request_of_exchanges h hb]
  cases response.payload? s.order s.charset with
  | ok payload =>
    simp only [Outcome.ofExcept, Action.get, Action.ofExcept, order]
    rfl
  | error e => rfl

/-- If the request is interrupted, so is what asks it. -/
theorem interrupted_ask {α : Type} (h : (request r s).1.interrupted = true)
    (reader : Wire.Reader α) : (ask r reader s).1.interrupted = true := by
  cases hr : request r s with
  | mk outcome s' =>
    rw [hr] at h
    simp only [ask, Bind.bind, Action.bind, hr]
    cases outcome with
    | done payload => cases h
    | failed e => exact h
    | suspended => exact h

/-- An answer is read exactly if it comes back whole, reports no failure, and can be read. -/
theorem ask_eq_done_iff {α : Type} {reader : Wire.Reader α} {a : α} (hb : s.broken = false) :
    ask r reader s = (.done a, s') ↔ ∃ response, Exchanges r response s s' ∧
      response.result = 0 ∧ (reader s.order response.payload).1 = .ok a := by
  simp only [ask, Action.bind_eq_done_iff, Action.get_apply, Action.ofExcept_apply, Prod.mk.injEq,
    Action.ofExcept_eq_done_iff]
  constructor
  · rintro ⟨payload, s₁, hreq, s₂, _, ⟨hs₂, rfl⟩, hread, rfl⟩
    rcases request_cases hb r with ⟨response, s₃, exchange, heq⟩ | ⟨stopped, -⟩
    · rw [heq, Prod.mk.injEq, Action.ofExcept_eq_done_iff, Response.payload?_eq_ok_iff] at hreq
      obtain ⟨⟨hr, rfl⟩, rfl⟩ := hreq
      cases hs₂
      rw [exchange.order_eq] at hread
      exact ⟨response, exchange, hr, hread⟩
    · rw [hreq] at stopped
      cases stopped
  · rintro ⟨response, exchange, hr, hread⟩
    have handed : response.payload? s.order s.charset = .ok response.payload :=
      Response.payload?_eq_ok_iff.2 ⟨hr, rfl⟩
    refine ⟨response.payload, s', ?_, s', s', ⟨rfl, rfl⟩, ?_, rfl⟩
    · rw [request_of_exchanges exchange hb, handed]
      rfl
    · rwa [exchange.order_eq]

end Session

end SqlWire
