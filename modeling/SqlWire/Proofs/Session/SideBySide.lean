import SqlWire.Proofs.Result.Steps
import SqlWire.Proofs.Session.Handshake
import SqlWire.Proofs.Session.Runs
import SqlWire.Proofs.Stream.Rephrasing
import SqlWire.Proofs.Twin

/-!
# Sessions side by side

A `Rewording` is a relation between streams such that what is received of related streams is the
same, and the streams are related again behind it. Two sessions over related streams that are
otherwise the same are a pairing (`Rewording.pairing`). A request is a twin for it
(`Rewording.twin_request`). Everything else that is done in a session is made of requests and of
what has no part in reading, so all calls are twins, and scripts end alike (`Rewording.ends_run`).

Sessions whose streams differ cannot be the same to the last octet that nobody has read :
`Session.drained` and its companions leave out what is unread, and nothing else.
-/

namespace SqlWire

/-- A way in which two streams may differ. -/
structure Rewording where
  /-- Streams at the beginning of a connection. -/
  start : Octets → Octets → Prop
  /-- Streams behind the response to a request, by the byte order and the number of the request. -/
  between : ByteOrder → UInt32 → Octets → Octets → Prop
  /-- What is left of the first stream if it was read further than the two are related. -/
  lost : Octets → Prop
  lost_of_suffix : ∀ {unread rest}, rest <:+ unread → lost unread → lost rest
  preamble : ∀ (c : Channel) unread', start c.unread unread' →
    lost (Channel.read Preamble.size c).2.unread ∨
      ∃ rest', Channel.read Preamble.size (c.reading unread') =
          ((Channel.read Preamble.size c).1, (Channel.read Preamble.size c).2.reading rest') ∧
        ∀ octets preamble, (Channel.read Preamble.size c).1 = .done octets →
          Preamble.decode octets = .ok preamble →
          between preamble.order 0 (Channel.read Preamble.size c).2.unread rest'
  response : ∀ order seq (c : Channel) unread', between order seq c.unread unread' →
    lost (Channel.receive order { seq := seq + 1 } c).2.unread ∨
      Channel.Received (between order (seq + 1)) (Channel.receive order { seq := seq + 1 } c)
        (Channel.receive order { seq := seq + 1 } (c.reading unread'))

/-! ## What is read -/

/-- Nothing is put back behind what was read. -/
def Channel.Advances (c c' : Channel) : Prop :=
  c'.unread <:+ c.unread

instance : Std.Refl Channel.Advances :=
  ⟨fun c => List.suffix_refl c.unread⟩

instance : IsTrans Channel Channel.Advances :=
  ⟨fun _ _ _ h h' => h'.trans h⟩

/-- Reading advances. -/
theorem Channel.Consumes.advances {c c' : Channel} (h : Consumes c c') : Advances c c' := by
  obtain ⟨octets, rfl⟩ := h
  exact ⟨octets, rfl⟩

/-- Writing reads nothing. -/
theorem Channel.unread_write (octets : Octets) (c : Channel) :
    (write octets c).2.unread = c.unread := by
  unfold write
  split
  · rfl
  · split <;> rfl

theorem Channel.advances_write (octets : Octets) : Action.Respects Advances (write octets) :=
  fun c => ⟨[], unread_write octets c⟩

/-- What is written has nothing to do with what there is to read. -/
theorem Channel.write_reading (octets unread : Octets) (c : Channel) :
    write octets (c.reading unread) = ((write octets c).1, (write octets c).2.reading unread) := by
  unfold write reading
  dsimp only
  split
  · rfl
  · split <;> rfl

/-- Write a request and read its response. -/
def Channel.exchange (octets : Octets) (order : ByteOrder) (seq : UInt32) :
    Action Channel Response := do
  write octets
  receive order { seq := seq }

/-- An exchange fails with a fault of the stream. -/
theorem Channel.failsOnly_exchange (octets : Octets) (order : ByteOrder) (seq : UInt32)
    (c : Channel) : (exchange octets order seq c).1.FailsOnly (·.isStreamFault) :=
  Action.failsOnly_bind (failsOnly_write octets c) fun _ _ _ => failsOnly_receive _ _ _

/-- An exchange advances, whatever comes of it. -/
theorem Channel.advances_exchange (octets : Octets) (order : ByteOrder) (seq : UInt32) :
    Action.Respects Advances (exchange octets order seq) :=
  (advances_write octets).seq fun _ c => (consumes_receive order _ c).advances

namespace Session

/-- The session with `unread` to be read instead. -/
def reading (unread : Octets) (s : Session) : Session :=
  { s with channel := s.channel.reading unread }

variable {s : Session} {r : Request}

/-- Two things in a row on the channel are one thing on the channel. -/
theorem onChannel_bind {α β : Type} (x : Action Channel α) (f : α → Action Channel β) :
    (onChannel x >>= fun a => onChannel (f a)) = onChannel (x >>= f) := by
  funext s
  simp only [onChannel, Action.within, Bind.bind, Action.bind]
  rcases x s.channel with ⟨outcome, c⟩
  cases outcome <;> rfl

/-- A round trip is an exchange on the channel, under the next number. -/
theorem roundTrip_eq (r : Request) (s : Session) :
    roundTrip r.command (r.payload s.order s.charset) s =
      onChannel (Channel.exchange (s.octetsOf r) s.order (s.seq + 1))
        { s with seq := s.seq + 1 } := by
  simp only [roundTrip, Action.modify_bind, Action.get_bind]
  exact congrFun (onChannel_bind (Channel.write (s.octetsOf r)) fun _ =>
    Channel.receive s.order { seq := s.seq + 1 }) { s with seq := s.seq + 1 }

/-- On a session that is not broken a request is one exchange on the channel. -/
theorem request_eq (whole : s.broken = false) (r : Request) : request r s =
    match Channel.exchange (s.octetsOf r) s.order (s.seq + 1) s.channel with
    | (.done response, c) =>
      (.ofExcept (response.payload? s.order s.charset), { s with seq := s.seq + 1, channel := c })
    | (.failed e, c) =>
      (.failed e, { s with seq := s.seq + 1, channel := c, broken := e.desynchronises })
    | (.suspended, c) =>
      (.suspended, { s with seq := s.seq + 1, channel := c, broken := true }) := by
  have trip := roundTrip_eq r { s with broken := true }
  have octets : octetsOf { s with broken := true } r = s.octetsOf r := rfl
  dsimp only at trip
  simp only [request, whole, Bool.false_eq_true, if_false, trip, octets, onChannel, Action.within]
  rcases Channel.exchange (s.octetsOf r) s.order (s.seq + 1) s.channel with ⟨outcome, c⟩
  cases outcome with
  | done response => rfl
  | failed e => rfl
  | suspended => rfl

/-- What a request does to the channel is its exchange. -/
theorem channel_request (whole : s.broken = false) (r : Request) : (request r s).2.channel =
    (Channel.exchange (s.octetsOf r) s.order (s.seq + 1) s.channel).2 := by
  rw [request_eq whole r]
  split <;> next ran => rw [ran]

/-- In a session nothing is put back behind what was read. -/
def Advances (s s' : Session) : Prop :=
  Channel.Advances s.channel s'.channel

/-- Nothing is ever put back into the stream. -/
theorem stable_advances : Stable Advances where
  refl s := refl_of Channel.Advances s.channel
  trans h h' := trans_of Channel.Advances h h'
  request r s := by
    cases hb : s.broken with
    | true =>
      rw [request_of_broken hb]
      exact refl_of Channel.Advances s.channel
    | false =>
      rw [Advances, channel_request hb r]
      exact Channel.advances_exchange _ _ _ _
  shapes s _ := refl_of Channel.Advances s.channel
  shutdown s := refl_of Channel.Advances s.channel

end Session

/-- The result that a reply opens. -/
def ResultSet.ofReply (reply : ExecuteReply) (columns : List Descriptor) (st : Statement) :
    ResultSet where
  statement := st
  columns := columns
  cursor := .ofBatch (reply.rows.getD []) reply.hasMore
  order := st.session.order
  charset := st.session.charset
  affected := reply.affected

/-- A query is a run whose reply is put in front of the statement. -/
theorem Statement.query_eq (text : String) (st : Statement) : query text st =
    match run text st with
    | (.done (reply, columns), st) => (.done (.ofReply reply columns st), st)
    | (.failed e, st) => (.failed e, st)
    | (.suspended, st) => (.suspended, st) := by
  simp only [query, Bind.bind, Action.bind]
  rcases run text st with ⟨outcome, st'⟩
  cases outcome <;> rfl

/-! ## Requests -/

namespace Rewording

open Session

variable (w : Rewording)

/-- Two sessions that are the same but for what is to be read, and unless they are broken that is
related. -/
def pairing : Pairing Session where
  rel s s' := ∃ unread', s' = s.reading unread' ∧
    (s.broken = false → w.between s.order s.seq s.channel.unread unread')
  lost s := w.lost s.channel.unread

variable {w}

/-- An exchange over related streams. -/
theorem received_exchange {order : ByteOrder} {seq : UInt32} {c : Channel} {unread' : Octets}
    (h : w.between order seq c.unread unread') (octets : Octets) :
    w.lost (Channel.exchange octets order (seq + 1) c).2.unread ∨
      Channel.Received (w.between order (seq + 1)) (Channel.exchange octets order (seq + 1) c)
        (Channel.exchange octets order (seq + 1) (c.reading unread')) := by
  have same := Channel.unread_write octets c
  have beside := Channel.write_reading octets unread' c
  simp only [Channel.exchange, Bind.bind, Action.bind, beside]
  rcases written : Channel.write octets c with ⟨outcome, c₁⟩
  rw [written] at same
  cases outcome with
  | done u => exact w.response order seq c₁ unread' (same ▸ h)
  | failed e => exact Or.inr (.stopped rfl)
  | suspended => exact Or.inr (.stopped rfl)

/-- What is made of a response depends on its code and its payload. -/
theorem payload?_congr {response response' : Response} (result : response'.result = response.result)
    (payload : response'.payload = response.payload) (order : ByteOrder) (charset : Charset) :
    response'.payload? order charset = response.payload? order charset := by
  unfold Response.payload?
  rw [result, payload]

/-- A request comes to the same over related streams, and breaks both sessions or none. -/
theorem twin_request (r : Request) : Action.Twin w.pairing (request r) := by
  refine ⟨fun s => w.lost_of_suffix (stable_advances.request r s), ?_⟩
  rintro s _ ⟨unread', rfl, rel⟩
  by_cases whole : s.broken = false
  · have fault := Channel.failsOnly_exchange (s.octetsOf r) s.order (s.seq + 1) s.channel
    have received := received_exchange (rel whole) (s.octetsOf r)
    rcases received with lost | received
    · refine Or.inl ?_
      rwa [← channel_request whole] at lost
    · refine Or.inr ?_
      have octets : (s.reading unread').octetsOf r = s.octetsOf r := rfl
      rw [request_eq whole r, request_eq (s := s.reading unread') whole r, octets]
      simp only [reading] at received ⊢
      generalize Channel.exchange (s.octetsOf r) s.order (s.seq + 1) s.channel = x at *
      generalize Channel.exchange (s.octetsOf r) s.order (s.seq + 1)
        (s.channel.reading unread') = x' at *
      cases received with
      | answered result payload later =>
        exact ⟨congrArg Outcome.ofExcept (payload?_congr result payload _ _), _, rfl,
          fun _ => later⟩
      | @stopped outcome c unread stops =>
        cases outcome with
        | done response => cases stops
        | failed e =>
          have breaks := Error.desynchronises_of_isStreamFault (fault e rfl)
          exact ⟨rfl, unread, rfl, fun whole => absurd breaks (Bool.eq_false_iff.1 whole)⟩
        | suspended => exact ⟨rfl, unread, rfl, nofun⟩
  · have broken : s.broken = true := by simpa using whole
    rw [request_of_broken broken, request_of_broken (s := s.reading unread') broken]
    exact Or.inr ⟨rfl, unread', rfl, rel⟩

/-! ## Calls on a session -/

/-- A change of what has no part in reading. -/
theorem twin_modify {f : Session → Session} (order : ∀ s, (f s).order = s.order)
    (seq : ∀ s, (f s).seq = s.seq) (broken : ∀ s, (f s).broken = s.broken)
    (channel : ∀ s, (f s).channel = s.channel)
    (apart : ∀ s unread, f (s.reading unread) = (f s).reading unread) :
    Action.Twin w.pairing (.modify f) := by
  refine .modify (fun s lost => ?_) ?_
  · simpa only [pairing, channel] using lost
  · rintro s _ ⟨unread', rfl, rel⟩
    exact ⟨unread', apart s unread', by simpa only [order, seq, broken, channel] using rel⟩

/-- What is asked over related streams is answered alike. -/
theorem twin_ask {α : Type} (r : Request) (reader : Wire.Reader α) :
    Action.Twin w.pairing (ask r reader) := by
  refine (twin_request r).bind fun payload => .look ?_ fun s => .ofExcept _
  rintro s _ ⟨unread', rfl, -⟩
  rfl

theorem twin_tell (r : Request) : Action.Twin w.pairing (tell r) :=
  (twin_request r).bind fun _ => .pure _

/-- A query over related streams has the same reply, and the same is remembered. -/
theorem twin_execute (handle : Option Handle) (query : String) (fetchSize : UInt32) :
    Action.Twin w.pairing (execute handle query fetchSize) := by
  refine .look ?_ fun s => (twin_ask _ _).bind fun reply => ?_
  · rintro s _ ⟨unread', rfl, -⟩
    rfl
  · split
    · exact Action.Twin.bind (twin_modify (fun _ => rfl) (fun _ => rfl) (fun _ => rfl)
        (fun _ => rfl) fun _ _ => rfl) fun _ => .pure _
    · exact .pure _

/-- Closing comes to the same over related streams. -/
theorem twin_close : Action.Twin w.pairing Session.close := by
  refine ⟨fun s => w.lost_of_suffix (stable_advances.close s), ?_⟩
  rintro s _ ⟨unread', rfl, rel⟩
  have logout := (twin_tell (w := w) .logout).alike s _ ⟨unread', rfl, rel⟩
  have shut {s s' : Session} (h : w.pairing.rel s s') :
      w.pairing.Ends (onChannel Channel.shutdown s) (onChannel Channel.shutdown s') := by
    obtain ⟨unread', rfl, rel⟩ := h
    exact Or.inr ⟨rfl, unread', rfl, rel⟩
  by_cases ready : s.phase = .ready ∧ s.broken = false
  · have ready' : (s.reading unread').phase = .ready ∧ (s.reading unread').broken = false := ready
    simp only [Session.close, if_pos ready, if_pos ready']
    rcases logout.split with lost | ⟨outcome, s₁, s₁', first, second, rel⟩
    · refine Or.inl ?_
      split <;> exact lost
    · simp only [first, second]
      cases outcome with
      | suspended => exact Or.inr ⟨rfl, rel⟩
      | done u => exact shut rel
      | failed e => exact shut rel
  · have ready' : ¬((s.reading unread').phase = .ready ∧ (s.reading unread').broken = false) :=
      ready
    simp only [Session.close, if_neg ready, if_neg ready']
    exact shut ⟨unread', rfl, rel⟩

/-! ## Calls on a statement -/

variable (w) in
/-- Two statements over such sessions. -/
def statements : Pairing Statement :=
  w.pairing.around Statement.session fun s st => { st with session := s }

/-- A twin over sessions is one over statements. -/
theorem twin_onSession {α : Type} {x : Action Session α} (h : Action.Twin w.pairing x) :
    Action.Twin w.statements (Statement.onSession x) :=
  h.within (fun _ _ => rfl) fun _ _ _ => rfl

/-- A run over related streams has the same result. -/
theorem twin_run (query : String) : Action.Twin w.statements (Statement.run query) := by
  refine .look ?_ fun st => ?_
  · rintro st _ ⟨s', -, rfl⟩
    rfl
  · dsimp only
    split
    · rw [Action.fail_bind]
      exact .fail _
    · exact (twin_onSession (twin_execute _ _ _)).bind fun _ =>
        (Action.Twin.ofExcept _).bind fun _ =>
          Action.Twin.bind (.apart (fun _ => rfl) fun _ _ => rfl) fun _ => .pure _

theorem twin_update (query : String) : Action.Twin w.statements (Statement.update query) :=
  (twin_run query).bind fun _ => .pure _

/-- A fetch over related streams brings the same rows. -/
theorem twin_fetch (columns : Nat) : Action.Twin w.statements (Statement.fetch columns) := by
  refine .look ?_ fun st => ?_
  · rintro st _ ⟨s', -, rfl⟩
    rfl
  · split
    · exact .fail _
    · split
      · exact .fail _
      · exact twin_onSession (twin_ask _ _)

/-- Closing a statement comes to the same over related streams. -/
theorem twin_statementClose : Action.Twin w.statements Statement.close := by
  refine .look ?_ fun st =>
    Action.Twin.bind (.apart (fun _ => rfl) fun _ _ => rfl) fun _ => ?_
  · rintro st _ ⟨s', -, rfl⟩
    rfl
  · split
    · exact .pure _
    · exact twin_onSession (twin_tell _)

/-! ## Calls on a result -/

variable (w) in
/-- Two results over such statements. -/
def results : Pairing ResultSet :=
  w.statements.around ResultSet.statement fun st rs => { rs with statement := st }

/-- A twin over statements is one over results. -/
theorem twin_onStatement {α : Type} {x : Action Statement α} (h : Action.Twin w.statements x) :
    Action.Twin w.results (ResultSet.onStatement x) :=
  h.within (fun _ _ => rfl) fun _ _ _ => rfl

/-- A move over the rows at hand has no part in the stream. -/
theorem twin_move (f : Cursor → Except Error (Bool × Cursor)) :
    Action.Twin w.results (ResultSet.move f) := by
  refine .apart (ResultSet.statement_move f) fun st rs => ?_
  have check : ResultSet.check { rs with statement := st } = rs.check := rfl
  simp only [ResultSet.move, check]
  split
  · rfl
  · split <;> rfl

/-- Leaving the rows at hand has no part in the stream. -/
theorem twin_leave (f : Cursor → Cursor) : Action.Twin w.results (ResultSet.leave f) := by
  refine .apart (ResultSet.statement_leave f) fun st rs => ?_
  have check : ResultSet.check { rs with statement := st } = rs.check := rfl
  simp only [ResultSet.leave, check]
  split <;> rfl

/-- Going on in a result comes to the same over related streams. -/
theorem twin_next : Action.Twin w.results ResultSet.next := by
  refine ⟨fun rs => w.lost_of_suffix (stable_advances.next rs), ?_⟩
  rintro rs _ ⟨st', rel, rfl⟩
  have check : ResultSet.check { rs with statement := st' } = rs.check := rfl
  have fetched := (twin_onStatement (twin_fetch rs.columns.length)).alike
    { rs with cursor := rs.cursor.advance.2 }
    { rs with statement := st', cursor := rs.cursor.advance.2 } ⟨st', rel, rfl⟩
  simp only [ResultSet.next, check]
  rcases rs.check with e | u
  · exact Or.inr ⟨rfl, st', rel, rfl⟩
  · dsimp only
    split_ifs
    · exact Or.inr ⟨rfl, st', rel, rfl⟩
    · exact Or.inr ⟨rfl, st', rel, rfl⟩
    · rcases fetched.split with lost | ⟨outcome, rs₁, _, first, second, st'', rel, rfl⟩
      · refine Or.inl ?_
        split <;> next ran => rwa [ran] at lost
      · simp only [first, second]
        cases outcome <;> exact Or.inr ⟨rfl, st'', rel, rfl⟩

/-- Every call on a result comes to the same over related streams. -/
theorem twin_resultPerform (call : ResultCall) :
    Action.Twin w.results (ResultSet.perform call) := by
  have look {α : Type} {f : ResultSet → Except Error α}
      (apart : ∀ st rs, f { rs with statement := st } = f rs) :
      Action.Twin w.results (ResultSet.look f) :=
    .apart (fun _ => rfl) fun st rs => by rw [ResultSet.look, apart]; rfl
  cases call with
  | next => exact twin_next.bind fun _ => .pure _
  | previous | first | last | absolute | relative => exact (twin_move _).bind fun _ => .pure _
  | beforeFirst | afterLast => exact (twin_leave _).bind fun _ => .pure _
  | _ => exact look fun _ _ => rfl

/-! ## Scripts -/

/-- Over related streams the same was written. -/
theorem sent_of_rel {s s' : Session} (h : w.pairing.rel s s') :
    s'.channel.sent = s.channel.sent := by
  obtain ⟨_, rfl, -⟩ := h
  rfl

/-- All calls on a result come to the same reports. -/
theorem ends_resultRun (calls : List ResultCall) {rs rs' : ResultSet} (h : w.results.rel rs rs') :
    w.results.Ends (rs.run calls) (rs'.run calls) := by
  induction calls generalizing rs rs' with
  | nil => exact Or.inr ⟨rfl, h⟩
  | cons call calls ih =>
    have step := (twin_resultPerform call).alike rs rs' h
    simp only [ResultSet.run]
    rcases step.split with lost | ⟨outcome, after, after', first, second, rel⟩
    · exact Or.inl (w.lost_of_suffix (stable_advances.resultRun calls _) lost)
    · simp only [first, second]
      refine (ih rel).imp_right fun ⟨reports, rel'⟩ => ⟨?_, rel'⟩
      obtain ⟨_, ⟨s, before, rfl⟩, rfl⟩ := h
      obtain ⟨_, ⟨s', behind, rfl⟩, rfl⟩ := rel
      simp only [reports, sentBetween, sent_of_rel before, sent_of_rel behind]
      rfl

/-- The same reply opens related results over related statements. -/
theorem results_of_rel {st st' : Statement} (h : w.statements.rel st st') (reply : ExecuteReply)
    (columns : List Descriptor) :
    w.results.rel (.ofReply reply columns st) (.ofReply reply columns st') := by
  obtain ⟨_, ⟨unread', rfl, between⟩, rfl⟩ := h
  exact ⟨_, ⟨_, ⟨unread', rfl, between⟩, rfl⟩, rfl⟩

/-- Related results are over related statements. -/
theorem statements_of_rel {rs rs' : ResultSet} (h : w.results.rel rs rs') :
    w.statements.rel rs.statement rs'.statement := by
  obtain ⟨_, rel, rfl⟩ := h
  exact rel

/-- A call on a statement comes to the same answer, with the same octets. -/
theorem ends_statementPerform (call : StatementCall) {st st' : Statement}
    (h : w.statements.rel st st') :
    w.statements.Ends (((st.perform call).1, (st.perform call).2.1), (st.perform call).2.2)
      (((st'.perform call).1, (st'.perform call).2.1), (st'.perform call).2.2) := by
  have sent {after after' : Statement} (rel : w.statements.rel after after') :
      sentBetween st'.session.channel after'.session.channel =
        sentBetween st.session.channel after.session.channel := by
    obtain ⟨s, before, rfl⟩ := h
    obtain ⟨s', behind, rfl⟩ := rel
    simp only [sentBetween, sent_of_rel before, sent_of_rel behind]
  have seen {x : Action Statement StatementAnswer} (twin : Action.Twin w.statements x) :
      w.statements.Ends
        (((x st).1, sentBetween st.session.channel (x st).2.session.channel), (x st).2)
        (((x st').1, sentBetween st'.session.channel (x st').2.session.channel), (x st').2) :=
    (twin.alike st st' h).imp_right fun ⟨same, rel⟩ => ⟨Prod.ext same (sent rel), rel⟩
  cases call with
  | setFetchSize rows =>
    exact seen (x := do Action.modify (Statement.setFetchSize rows); return .done)
      (Action.Twin.bind (.apart (fun _ => rfl) fun _ _ => rfl) fun _ => .pure _)
  | update query => exact seen ((twin_update query).bind fun _ => .pure _)
  | close => exact seen (twin_statementClose.bind fun _ => .pure _)
  | query text calls =>
    have step := (twin_run text).alike st st' h
    simp only [Statement.perform, Statement.query_eq]
    rcases step.split with lost | ⟨outcome, after, after', first, second, rel⟩
    · refine Or.inl ?_
      rcases ran : Statement.run text st with ⟨_ | _ | _, after⟩ <;> rw [ran] at lost
      · exact w.lost_of_suffix (stable_advances.resultRun calls _) lost
      · exact lost
      · exact lost
    · simp only [first, second]
      cases outcome with
      | done reply =>
        refine (ends_resultRun calls (results_of_rel rel reply.1 reply.2)).imp_right ?_
        rintro ⟨reports, rel'⟩
        refine ⟨Prod.ext ?_ rfl, statements_of_rel rel'⟩
        exact congrArg₂ (fun octets reports => Outcome.done
          (StatementAnswer.result octets reports)) (sent rel) reports
      | failed e => exact Or.inr ⟨Prod.ext rfl (sent rel), rel⟩
      | suspended => exact Or.inr ⟨Prod.ext rfl (sent rel), rel⟩

/-- All calls on a statement come to the same reports. -/
theorem ends_runCalls (calls : List StatementCall) {st st' : Statement}
    (h : w.statements.rel st st') :
    w.statements.Ends (st.runCalls calls) (st'.runCalls calls) := by
  induction calls generalizing st st' with
  | nil => exact Or.inr ⟨rfl, h⟩
  | cons call calls ih =>
    have step := ends_statementPerform call h
    simp only [Statement.runCalls]
    rcases step with lost | ⟨same, rel⟩
    · exact Or.inl (w.lost_of_suffix (stable_advances.statementRunCalls calls _) lost)
    · refine (ih rel).imp_right fun ⟨reports, rel'⟩ => ⟨?_, rel'⟩
      obtain ⟨outcome, sent⟩ := Prod.mk.inj same
      obtain ⟨s, -, after⟩ := rel
      dsimp only at after
      rw [reports, outcome, sent, after]

end Rewording

/-! ## What is left unread -/

/-- The session without what is left unread. -/
def Session.drained (s : Session) : Session :=
  s.reading []

/-- The answer without what is left unread. -/
def SessionAnswer.drained : SessionAnswer → SessionAnswer
  | state s => state s.drained
  | answer => answer

/-- The report without what is left unread. -/
def SessionReport.drained (report : SessionReport) : SessionReport :=
  { report with outcome := report.outcome.map SessionAnswer.drained }

/-- The transcript without what is left unread. -/
def Transcript.drained (transcript : Transcript) : Transcript where
  connected := transcript.connected.map Session.drained
  connectSent := transcript.connectSent
  reports := transcript.reports.map SessionReport.drained
  channel := transcript.channel.reading []

namespace Rewording

open Session

variable {w : Rewording}

/-- A call on a session comes to the same answer, but for octets that nobody has read. -/
theorem ends_perform (call : SessionCall) {s s' : Session} (h : w.pairing.rel s s') :
    w.pairing.Ends
      (((s.perform call).1.map SessionAnswer.drained, (s.perform call).2.1), (s.perform call).2.2)
      (((s'.perform call).1.map SessionAnswer.drained, (s'.perform call).2.1),
        (s'.perform call).2.2) := by
  have sent {after after' : Session} (rel : w.pairing.rel after after') :
      sentBetween s'.channel after'.channel = sentBetween s.channel after.channel := by
    simp only [sentBetween, sent_of_rel h, sent_of_rel rel]
  have seen {x : Action Session SessionAnswer} (twin : Action.Twin w.pairing x) :
      w.pairing.Ends
        (((x s).1.map SessionAnswer.drained, sentBetween s.channel (x s).2.channel), (x s).2)
        (((x s').1.map SessionAnswer.drained, sentBetween s'.channel (x s').2.channel), (x s').2) :=
    (twin.alike s s' h).imp_right fun ⟨same, rel⟩ =>
      ⟨Prod.ext (congrArg (Outcome.map SessionAnswer.drained) same) (sent rel), rel⟩
  cases call with
  | state =>
    have looked := sent h
    obtain ⟨unread', rfl, rel⟩ := h
    exact Or.inr ⟨Prod.ext rfl looked, unread', rfl, rel⟩
  | ping | commit | rollback => exact seen ((twin_tell _).bind fun _ => .pure _)
  | close => exact seen (twin_close.bind fun _ => .pure _)
  | statement calls =>
    have opened : w.statements.rel s.statement s'.statement := by
      obtain ⟨unread', rfl, rel⟩ := h
      exact ⟨_, ⟨unread', rfl, rel⟩, rfl⟩
    refine (ends_runCalls calls opened).imp_right fun ⟨reports, rel⟩ => ⟨?_, ?_⟩
    · simp only [Session.perform, reports]
    · obtain ⟨s'', rel, same⟩ := rel
      simp only [Session.perform, same]
      exact rel

/-- A script comes to the same reports, but for octets that nobody has read. -/
theorem ends_run (calls : List SessionCall) {s s' : Session} (h : w.pairing.rel s s') :
    w.pairing.Ends ((s.run calls).1.map SessionReport.drained, (s.run calls).2)
      ((s'.run calls).1.map SessionReport.drained, (s'.run calls).2) := by
  induction calls generalizing s s' with
  | nil => exact Or.inr ⟨rfl, h⟩
  | cons call calls ih =>
    have step := ends_perform call h
    simp only [Session.run]
    rcases step with lost | ⟨same, rel⟩
    · exact Or.inl (w.lost_of_suffix (stable_advances.run calls _) lost)
    · refine (ih rel).imp_right fun ⟨reports, rel'⟩ => ⟨?_, rel'⟩
      obtain ⟨outcome, sent⟩ := Prod.mk.inj same
      obtain ⟨unread', after, -⟩ := rel
      dsimp only at after
      refine congrArg₂ List.cons ?_ reports
      simp only [SessionReport.drained, outcome, sent, after]
      rfl

end Rewording

end SqlWire
