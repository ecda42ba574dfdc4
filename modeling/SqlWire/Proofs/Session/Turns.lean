import SqlWire.Proofs.Result.Columns
import SqlWire.Proofs.ShapeCache

/-!
# Requests in their order

A `Turn` is a request with the session at the moment when it is begun. What a session is like when
the turn is over follows from these two (`Turn.after`) : it is what the request leaves, with what
the answer describes remembered. `Session.turns` lists the turns of a script, and its companions
those of the calls on a statement and on a result. A request that is refused, because the session is
broken or the statement closed, makes no turn.

A script is nothing but its turns (`Session.dialogue_run`) : each one begins where the turn before
it is over, and between them nothing is read, written or remembered (`Dialogue`).
-/

namespace SqlWire

/-! ## Turns -/

/-- A request that is begun, and the session when it is. -/
structure Turn where
  before : Session
  request : Request

/-- The text of the query that a request executes. -/
def Request.query? : Request → Option String
  | execute _ _ _ query => some query
  | _ => none

/-- What a reply to a query describes. -/
def ExecuteReply.described (reply : ExecuteReply) (query : String) : List Description :=
  (reply.columns.map fun columns => (query, columns)).toList

/-- What is remembered once a reply has come is what was remembered before, and what it describes.
-/
theorem ExecuteReply.remembered_eq (reply : ExecuteReply) (query : String) (shapes : ShapeCache) :
    reply.remembered query shapes = shapes.remembering (reply.described query) := by
  unfold remembered described
  cases reply.columns <;> rfl

namespace Turn

/-- What the answer describes, if it is an answer to an execution and can be read. -/
def described (t : Turn) : List Description :=
  match t.request.query? with
  | none => []
  | some query =>
    match Session.ask t.request (ExecuteReply.read t.before.charset
      ((t.before.shapes.find? query).map List.length)) t.before with
    | (.done reply, _) => reply.described query
    | _ => []

/-- The session when the turn is over. -/
def after (t : Turn) : Session :=
  { (Session.request t.request t.before).2 with shapes := t.before.shapes.remembering t.described }

/-- An execution asks for the columns exactly if none are remembered. -/
def Inquires (t : Turn) : Prop :=
  ∀ raw describe fetchSize query, t.request = .execute raw describe fetchSize query →
    (describe = true ↔ t.before.shapes.find? query = none)

variable {s s' : Session} {r : Request} {handle : Option Handle} {query : String}
  {fetchSize : UInt32} {reply : ExecuteReply}

/-- A request that is no query describes nothing. -/
theorem described_of_query?_eq_none (h : r.query? = none) : described ⟨s, r⟩ = [] := by
  simp only [described, h]

/-- In the turn of an execution its reply is read. -/
theorem described_execute (s : Session) (handle : Option Handle) (query : String)
    (fetchSize : UInt32) : described ⟨s, s.executeRequest handle query fetchSize⟩ =
      match s.replied handle query fetchSize with
      | (.done reply, _) => reply.described query
      | _ => [] :=
  rfl

/-- A query describes what its reply does. -/
theorem described_of_replied (h : s.replied handle query fetchSize = (.done reply, s')) :
    described ⟨s, s.executeRequest handle query fetchSize⟩ = reply.described query := by
  rw [described_execute, h]

/-- A query without a reply describes nothing. -/
theorem described_of_not_replied (h : (s.replied handle query fetchSize).1.isDone = false) :
    described ⟨s, s.executeRequest handle query fetchSize⟩ = [] := by
  rw [described_execute]
  rcases hr : s.replied handle query fetchSize with ⟨_ | _ | _, s'⟩
  · rw [hr] at h
    cases h
  · rfl
  · rfl

end Turn

/-! ## One turn after the other -/

namespace Session

/-- Nothing is read, written, counted or remembered between two sessions. -/
structure Aside (s s' : Session) : Prop where
  unread : s'.channel.unread = s.channel.unread
  sent : s'.channel.sent = s.channel.sent
  seq : s'.seq = s.seq
  broken : s'.broken = s.broken
  shapes : s'.shapes = s.shapes

instance : Std.Refl Aside :=
  ⟨fun _ => ⟨rfl, rfl, rfl, rfl, rfl⟩⟩

instance : IsTrans Session Aside :=
  ⟨fun _ _ _ h h' => ⟨h'.unread.trans h.unread, h'.sent.trans h.sent, h'.seq.trans h.seq,
    h'.broken.trans h.broken, h'.shapes.trans h.shapes⟩⟩

/-- Shutting down takes no turn. -/
theorem aside_shutdown (s : Session) : Aside s (onChannel Channel.shutdown s).2 :=
  ⟨rfl, rfl, rfl, rfl, rfl⟩

/-- From the one session to the other it is these turns, in this order. -/
inductive Dialogue : Session → List Turn → Session → Prop where
  | done {s s' : Session} (aside : Aside s s') : Dialogue s [] s'
  | turn {s s' : Session} {t : Turn} {turns : List Turn} (aside : Aside s t.before)
      (whole : t.before.broken = false) (inquires : t.Inquires)
      (rest : Dialogue t.after turns s') : Dialogue s (t :: turns) s'

variable {s s' s'' : Session} {turns turns' : List Turn} {r : Request}

/-- Nothing happens without a turn. -/
theorem Dialogue.refl (s : Session) : Dialogue s [] s :=
  .done (refl_of Aside s)

/-- What is done aside may come before the first turn. -/
theorem Dialogue.of_aside (aside : Aside s s') (h : Dialogue s' turns s'') :
    Dialogue s turns s'' := by
  cases h with
  | done aside' => exact .done (trans_of Aside aside aside')
  | turn aside' whole inquires rest =>
    exact .turn (trans_of Aside aside aside') whole inquires rest

/-- One dialogue goes on where another one has ended. -/
theorem Dialogue.append (h : Dialogue s turns s') (h' : Dialogue s' turns' s'') :
    Dialogue s (turns ++ turns') s'' := by
  induction h with
  | done aside => exact h'.of_aside aside
  | turn aside whole inquires _ ih => exact .turn aside whole inquires (ih h')

/-- The turns of a dialogue up to one of them, which begins where they are over. -/
theorem Dialogue.before {t : Turn} (h : Dialogue s (turns ++ t :: turns') s') :
    Dialogue s turns t.before ∧ t.before.broken = false ∧ t.Inquires := by
  induction turns generalizing s with
  | nil =>
    obtain _ | ⟨aside, whole, inquires, -⟩ := h
    exact ⟨.done aside, whole, inquires⟩
  | cons t' turns ih =>
    obtain _ | ⟨aside, whole, inquires, rest⟩ := h
    obtain ⟨first, last⟩ := ih rest
    exact ⟨.turn aside whole inquires first, last⟩

/-- What is remembered is what was described in the turns. -/
theorem Dialogue.shapes (h : Dialogue s turns s') :
    s'.shapes = s.shapes.remembering (turns.flatMap Turn.described) := by
  induction h with
  | done aside => exact aside.shapes
  | @turn s s' t turns aside _ _ _ ih =>
    rw [ih, Turn.after, aside.shapes, List.flatMap_cons, ShapeCache.remembering_append]

/-! ## Actions -/

/-- The turn of a request, if it is begun. -/
def begun (s : Session) (r : Option Request) : List Turn :=
  r.toList.map (Turn.mk s)

/-- The turns behind a success. -/
def behind {σ α : Type} (x : Outcome α × σ) (turns : α → σ → List Turn) : List Turn :=
  match x with
  | (.done a, s) => turns a s
  | _ => []

/-- A broken session begins no turn. -/
theorem begun_of_broken (h : s.broken = true) (r : Request) : s.begun (s.begins r) = [] := by
  rw [begins, if_pos h]
  rfl

/-- On a session that is not broken each request is a turn. -/
theorem begun_of_whole (h : s.broken = false) (r : Request) :
    s.begun (s.begins r) = [⟨s, r⟩] := by
  rw [begins, if_neg (by simp [h])]
  rfl

/-- One turn is a dialogue. -/
theorem Dialogue.one {t : Turn} (whole : t.before.broken = false) (inquires : t.Inquires)
    (aside : Aside t.after s') : Dialogue t.before [t] s' :=
  .turn (refl_of Aside t.before) whole inquires (.done aside)

/-- Of two actions in a row the turns of the second one follow those of the first, if it runs. -/
theorem Dialogue.bind {α β : Type} {x : Action Session α} {f : α → Action Session β}
    {more : α → Session → List Turn} (hx : Dialogue s turns (x s).2)
    (hf : ∀ a s', x s = (.done a, s') → Dialogue s' (more a s') (f a s').2) :
    Dialogue s (turns ++ behind (x s) more) ((x >>= f) s).2 := by
  cases ran : x s with
  | mk outcome s' =>
    rw [ran] at hx
    simp only [Bind.bind, Action.bind, ran]
    cases outcome with
    | done a => exact hx.append (hf a s' ran)
    | failed e => exact hx.append (.refl s')
    | suspended => exact hx.append (.refl s')

/-- What follows an action may be an aside. -/
theorem Dialogue.bind_aside {α β : Type} {x : Action Session α} {f : α → Action Session β}
    (hx : Dialogue s turns (x s).2) (hf : ∀ a, Action.Respects Aside (f a)) :
    Dialogue s turns ((x >>= f) s).2 := by
  rcases Action.bind_cases x f s with ⟨a, s', ran, hb⟩ | ⟨-, hb, -⟩ <;> rw [hb]
  · rw [ran] at hx
    simpa using hx.append (.done (hf a s'))
  · exact hx

/-- A request is its own turn. -/
theorem dialogue_request (plain : r.query? = none) (s : Session) :
    Dialogue s (s.begun (s.begins r)) (request r s).2 := by
  cases hb : s.broken with
  | true =>
    rw [begun_of_broken hb, request_of_broken hb]
    exact .refl s
  | false =>
    rw [begun_of_whole hb]
    refine .one (t := ⟨s, r⟩) hb ?_ ⟨rfl, rfl, rfl, rfl, ?_⟩
    · rintro raw describe fetchSize query rfl
      cases plain
    · rw [shapes_request, Turn.after, Turn.described_of_query?_eq_none plain]
      rfl

/-- Reading the answer takes no further turn. -/
theorem dialogue_ask {α : Type} (plain : r.query? = none) (reader : Wire.Reader α) (s : Session) :
    Dialogue s (s.begun (s.begins r)) (ask r reader s).2 := by
  rw [ask_state]
  exact dialogue_request plain s

theorem dialogue_tell (plain : r.query? = none) (s : Session) :
    Dialogue s (s.begun (s.begins r)) (tell r s).2 :=
  (dialogue_request plain s).bind_aside fun _ => .pure _

/-- A query takes one turn, and remembering columns none. -/
theorem dialogue_execute (handle : Option Handle) (query : String) (fetchSize : UInt32)
    (s : Session) : Dialogue s (s.begun (s.begins (s.executeRequest handle query fetchSize)))
      (execute handle query fetchSize s).2 := by
  cases hb : s.broken with
  | true =>
    rw [begun_of_broken hb, execute_of_broken hb]
    exact .refl s
  | false =>
    rw [begun_of_whole hb]
    have left : (s.replied handle query fetchSize).2 =
        (request (s.executeRequest handle query fetchSize) s).2 := ask_state _ _ s
    -- The request leaves what is remembered, and the execution adds what its reply describes.
    refine .one (t := ⟨s, s.executeRequest handle query fetchSize⟩) hb ?_ ?_
    · rintro raw describe size text ⟨⟩
      exact Option.isNone_iff_eq_none
    · cases hd : (s.replied handle query fetchSize).1.isDone with
      | true =>
        obtain ⟨reply, s', replied, -⟩ := Outcome.exists_of_holds (p := fun _ => true) hd
        rw [replied] at left
        rw [execute_of_replied replied, Turn.after, Turn.described_of_replied replied, ← left,
          ← reply.remembered_eq]
        exact refl_of Aside _
      | false =>
        rw [(execute_of_not_replied hd).2, Turn.after, Turn.described_of_not_replied hd, ← left]
        refine ⟨rfl, rfl, rfl, rfl, ?_⟩
        rw [left, shapes_request]
        rfl

/-- The turn of a logout. A session that was never opened, or is broken, is shut down without one.
-/
def closing (s : Session) : List Turn :=
  if s.phase = .ready then s.begun (s.begins .logout) else []

/-- Closing a session takes the turn of logging out, or none. -/
theorem dialogue_close (s : Session) : Dialogue s s.closing (close s).2 := by
  have logout : Dialogue s s.closing
      (if s.phase = .ready ∧ s.broken = false then tell .logout s else (.done (), s)).2 := by
    unfold closing
    by_cases ready : s.phase = .ready
    · cases hb : s.broken with
      | true =>
        rw [if_pos ready, if_neg (by simp), begun_of_broken hb]
        exact .refl s
      | false =>
        rw [if_pos ready, if_pos ⟨ready, rfl⟩]
        exact dialogue_tell rfl s
    · rw [if_neg ready, if_neg fun h => ready h.1]
      exact .refl s
  simp only [close]
  split
  · exact logout
  · simpa using logout.append (.done (aside_shutdown _))

end Session

/-! ## Calls on a statement -/

namespace Statement

open Session

/-- Running a query takes a turn unless the statement is closed. -/
theorem dialogue_run (text : String) (st : Statement) :
    Dialogue st.session (st.session.begun (st.executes text)) (run text st).2.session := by
  unfold executes
  split
  · next closed =>
    rw [run_of_closed closed]
    exact .refl _
  · next opened =>
    obtain ⟨handle, state, -⟩ := run_state (by simpa using opened) text
    rw [state]
    exact dialogue_execute _ _ _ _

/-- Fetching takes a turn if there is a handle on an open statement. -/
theorem dialogue_fetch (columns : Nat) (st : Statement) :
    Dialogue st.session (st.session.begun st.fetches) (fetch columns st).2.session := by
  obtain ⟨session, handle, fetchSize, closed⟩ := st
  cases closed with
  | true => exact .refl session
  | false =>
    cases handle with
    | none => exact .refl session
    | some handle => exact dialogue_ask rfl (FetchReply.read columns) session

/-- Closing a statement takes a turn if there is a handle to let go of. -/
theorem dialogue_close (st : Statement) :
    Dialogue st.session (st.session.begun st.frees) (close st).2.session := by
  obtain ⟨session, handle, fetchSize, closed⟩ := st
  cases handle with
  | none => exact .refl session
  | some handle => exact dialogue_tell rfl session

end Statement

/-! ## Scripts -/

namespace ResultSet

open Session

/-- The turns of calls on a result. -/
def turns : List ResultCall → ResultSet → List Turn
  | [], _ => []
  | call :: calls, rs =>
    (if call = .next then rs.statement.session.begun rs.fetches else []) ++
      turns calls (perform call rs).2

/-- A step forward leaves the statement alone or fetches. -/
theorem statement_next (rs : ResultSet) : (next rs).2.statement =
    if rs.aborted || rs.cursor.isRow (rs.cursor.position + 1) || !rs.hasMore then rs.statement
    else (Statement.fetch rs.columns.length rs.statement).2 := by
  cases hnext : next rs with
  | mk outcome rs' =>
  cases case_of_next hnext with
  | refused aborted => simp [aborted]
  | within live hrow => simp [hrow, onto]
  | last live hrow more => simp [more, passed]
  | fetched live hrow more hfetch | failed live hrow more _ hfetch
  | suspended live hrow more _ hfetch => simp [live, hrow, more, hfetch, turned]

/-- Going on in a result takes a turn if it fetches. -/
theorem dialogue_next (rs : ResultSet) : Dialogue rs.statement.session
    (rs.statement.session.begun rs.fetches) (next rs).2.statement.session := by
  rw [statement_next, fetches]
  split
  · exact .refl _
  · exact Statement.dialogue_fetch _ _

/-- A call that is no step forward has nothing to do with the statement. -/
theorem statement_perform {call : ResultCall} (h : call ≠ .next) (rs : ResultSet) :
    (perform call rs).2.statement = rs.statement := by
  obtain same | ⟨p, left⟩ := perform_state_of_ne_next h rs
  · rw [same]
  · rw [left]
    rfl

/-- The turns of a result are those of the calls on it. -/
theorem dialogue_run (calls : List ResultCall) (rs : ResultSet) :
    Dialogue rs.statement.session (turns calls rs) (rs.run calls).2.statement.session := by
  induction calls generalizing rs with
  | nil => exact .refl _
  | cons call calls ih =>
    refine Dialogue.append ?_ (ih _)
    split
    · next stepped =>
      rw [stepped, perform_next_state]
      exact dialogue_next rs
    · next other =>
      rw [statement_perform other]
      exact .refl _

end ResultSet

namespace Statement

open Session

/-- The turns of one call on a statement. -/
def turnsOf (call : StatementCall) (st : Statement) : List Turn :=
  match call with
  | .setFetchSize _ => []
  | .update text => st.session.begun (st.executes text)
  | .query text calls =>
    st.session.begun (st.executes text) ++ behind (query text st) fun rs _ => rs.turns calls
  | .close => st.session.begun st.frees

/-- The turns of calls on a statement. -/
def turns : List StatementCall → Statement → List Turn
  | [], _ => []
  | call :: calls, st => turnsOf call st ++ turns calls (perform call st).2.2

/-- The turns of a call on a statement are its own and those of the calls on its result. -/
theorem dialogue_perform (call : StatementCall) (st : Statement) :
    Dialogue st.session (turnsOf call st) (st.perform call).2.2.session := by
  cases call with
  | setFetchSize rows => exact .refl _
  | update text =>
    have state : (st.perform (.update text)).2.2 = (run text st).2 :=
      (Action.bind_state (m := id) (fun _ _ => rfl) st).trans (update_state text st)
    rw [state]
    exact dialogue_run text st
  | query text calls =>
    have ran := dialogue_run text st
    rw [← query_state] at ran
    simp only [Statement.perform, turnsOf]
    cases queried : query text st with
    | mk outcome after =>
      rw [queried] at ran
      cases outcome with
      | done rs =>
        obtain rfl := statement_of_query queried
        exact ran.append (rs.dialogue_run calls)
      | failed e => exact ran.append (.refl _)
      | suspended => exact ran.append (.refl _)
  | close =>
    have state : (st.perform .close).2.2 = (close st).2 :=
      Action.bind_state (m := id) (fun _ _ => rfl) st
    rw [state]
    exact dialogue_close st

/-- The turns of a statement are those of the calls on it. -/
theorem dialogue_runCalls (calls : List StatementCall) (st : Statement) :
    Dialogue st.session (turns calls st) (st.runCalls calls).2.session := by
  induction calls generalizing st with
  | nil => exact .refl _
  | cons call calls ih => exact (dialogue_perform call st).append (ih _)

end Statement

namespace Session

/-- The turns of one call on a session. -/
def turnsOf (call : SessionCall) (s : Session) : List Turn :=
  match call with
  | .state => []
  | .ping => s.begun (s.begins .ping)
  | .commit => s.begun (s.begins .commit)
  | .rollback => s.begun (s.begins .rollback)
  | .statement calls => s.statement.turns calls
  | .close => s.closing

/-- The turns of a script. -/
def turns : List SessionCall → Session → List Turn
  | [], _ => []
  | call :: calls, s => turnsOf call s ++ turns calls (s.perform call).2.2

/-- The turns of a call on a session are its own and those of the calls on its statement. -/
theorem dialogue_perform (call : SessionCall) (s : Session) :
    Dialogue s (turnsOf call s) (s.perform call).2.2 := by
  cases call with
  | state => exact .refl s
  | ping | commit | rollback => exact (dialogue_tell rfl s).bind_aside fun _ => .pure _
  | statement calls => exact s.statement.dialogue_runCalls calls
  | close => exact (dialogue_close s).bind_aside fun _ => .pure _

/-- A script is its turns. -/
theorem dialogue_run (calls : List SessionCall) (s : Session) :
    Dialogue s (turns calls s) (s.run calls).2 := by
  induction calls generalizing s with
  | nil => exact .refl s
  | cons call calls ih => exact (dialogue_perform call s).append (ih _)

end Session

end SqlWire
