import SqlWire.Proofs.Result.Cursor
import SqlWire.Proofs.Session.Exchange
import SqlWire.Session.ResultSet

/-!
# Stepping through a result

A result begins with the rows that the execution of its query brought (`query_eq_done_iff`). A step
forward stays within them as long as there is a next one (`next_of_isRow`). Behind the last one it
is over if the server holds no more (`next_of_isLast`), and else a step is one fetch, and what
becomes of that (`next_of_isExhausted`). These are all cases there are (`case_of_next`). A fetch is
one request with the handle and the batch size of the statement (`Statement.fetch_of_handle`).
-/

namespace SqlWire

/-! ## Statements -/

namespace Session

variable {s s' : Session}

/-- A session that has answered is not broken. -/
theorem broken_of_ask {α : Type} {r : Request} {reader : Wire.Reader α} {a : α}
    (h : ask r reader s = (.done a, s')) : s.broken = false ∧ s'.broken = false := by
  cases hb : s.broken with
  | true =>
    rw [ask_of_broken hb] at h
    cases h
  | false =>
    obtain ⟨_, exchange, -, -⟩ := (ask_eq_done_iff hb).1 h
    exact ⟨rfl, exchange.broken_eq.trans hb⟩

theorem broken_of_execute {handle : Option Handle} {text : String} {fetchSize : UInt32}
    {answer : ExecuteReply × Option (List Descriptor)}
    (h : execute handle text fetchSize s = (.done answer, s')) : s'.broken = false := by
  simp only [execute, Action.get_bind, Action.bind_eq_done_iff] at h
  obtain ⟨reply, s₁, asked, h⟩ := h
  have whole := (broken_of_ask asked).2
  cases hc : reply.columns with
  | some columns =>
    simp only [hc] at h
    cases h
    exact whole
  | none =>
    simp only [hc] at h
    cases h
    exact whole

end Session

namespace Statement

variable {st st' : Statement} {text : String}

theorem onSession_eq_done_iff {α : Type} {x : Action Session α} {a : α} :
    onSession x st = (.done a, st') ↔
      ∃ s, x st.session = (.done a, s) ∧ st' = { st with session := s } := by
  simp only [onSession, Action.within, Prod.mk.injEq]
  constructor
  · rintro ⟨ha, rfl⟩
    exact ⟨_, Prod.ext ha rfl, rfl⟩
  · rintro ⟨s, hx, rfl⟩
    rw [hx]
    exact ⟨rfl, rfl⟩

/-- Rows can only remain on the server under a handle. -/
theorem exists_of_adopt {current handle : Option Handle} {raw : Int32}
    (h : adopt current raw true = .ok handle) : ∃ new, handle = some new := by
  unfold adopt at h
  split at h
  · cases h
    exact ⟨_, rfl⟩
  · split at h
    · cases h
      exact ⟨_, rfl⟩
    · cases h
  · cases h

/-- What can be relied on of a statement whose result is gone through. -/
structure Ready (more : Bool) (st : Statement) : Prop where
  whole : st.session.broken = false
  opened : st.closed = false
  handle : more = true → ∃ handle, st.handle = some handle

/-- A statement whose execution was answered is ready for its rows to be fetched. -/
theorem ready_of_run {reply : ExecuteReply} {columns : List Descriptor}
    (h : run text st = (.done (reply, columns), st')) : Ready reply.hasMore st' := by
  simp only [run, Action.get_bind] at h
  split at h
  · cases h
  · next opened =>
    obtain ⟨⟨reply', columns'⟩, st₁, executed, h⟩ := Action.bind_eq_done_iff.1 h
    obtain ⟨s, hexec, rfl⟩ := onSession_eq_done_iff.1 executed
    obtain ⟨handle, st₂, adopted, h⟩ := Action.bind_eq_done_iff.1 h
    rw [Action.ofExcept_apply, Prod.mk.injEq, Action.ofExcept_eq_done_iff] at adopted
    obtain ⟨adopted, rfl⟩ := adopted
    cases h
    refine ⟨Session.broken_of_execute hexec, by simpa using opened, fun more => ?_⟩
    rw [more] at adopted
    exact exists_of_adopt adopted

/-- The result of a query begins with the rows that came with the execution. -/
theorem query_eq_done_iff {rs : ResultSet} : query text st = (.done rs, st') ↔
    ∃ reply columns, run text st = (.done (reply, columns), st') ∧ rs = {
      statement := st'
      columns := columns
      cursor := .ofBatch (reply.rows.getD []) reply.hasMore
      order := st'.session.order
      charset := st'.session.charset
      affected := reply.affected } := by
  simp only [query, Action.bind_eq_done_iff]
  constructor
  · rintro ⟨⟨reply, columns⟩, st₁, ran, _, _, ⟨⟩, ⟨⟩⟩
    exact ⟨reply, columns, ran, rfl⟩
  · rintro ⟨reply, columns, ran, rfl⟩
    exact ⟨(reply, columns), st', ran, st', st', rfl, rfl⟩

/-- A fetch is one request with the handle and the batch size of the statement. -/
theorem fetch_of_handle {handle : Handle} (opened : st.closed = false)
    (held : st.handle = some handle) (columns : Nat) :
    fetch columns st = onSession
      (Session.ask (.fetch handle.raw st.fetchSize) (FetchReply.read columns)) st := by
  simp only [fetch, Action.get_bind, opened, Bool.false_eq_true, if_false, held]
  rfl

/-- Only an open statement with a handle can have fetched. -/
theorem exists_of_fetch {columns : Nat} {reply : FetchReply}
    (h : fetch columns st = (.done reply, st')) : st.closed = false ∧ ∃ handle s,
      st.handle = some handle ∧ st' = { st with session := s } ∧
      Session.ask (.fetch handle.raw st.fetchSize) (FetchReply.read columns) st.session =
        (.done reply, s) := by
  simp only [fetch, Action.get_bind] at h
  split at h
  · cases h
  · next opened =>
    cases held : st.handle with
    | none =>
      simp only [held] at h
      cases h
    | some handle =>
      simp only [held] at h
      obtain ⟨s, asked, rfl⟩ := onSession_eq_done_iff.1 h
      exact ⟨by simpa using opened, handle, s, rfl, by rw [held], asked⟩

/-- A fetch that succeeds is an exchange of its one request. -/
theorem exchanges_of_fetch {columns : Nat} {reply : FetchReply}
    (h : fetch columns st = (.done reply, st')) : ∃ handle response s,
      st.handle = some handle ∧ st' = { st with session := s } ∧
      Session.Exchanges (.fetch handle.raw st.fetchSize) response st.session s := by
  obtain ⟨-, handle, s, held, rfl, asked⟩ := exists_of_fetch h
  have whole := (Session.broken_of_ask asked).1
  obtain ⟨response, exchange, -, -⟩ := (Session.ask_eq_done_iff whole).1 asked
  exact ⟨handle, response, s, held, rfl, exchange⟩

/-- A fetch leaves a trace : the number of its request. -/
theorem ne_of_fetch {columns : Nat} {reply : FetchReply}
    (h : fetch columns st = (.done reply, st')) : st' ≠ st := by
  obtain ⟨handle, response, s, -, rfl, -, -, -, c, -, -, -, rfl⟩ := exchanges_of_fetch h
  intro same
  have number : st.session.seq + 1 = st.session.seq :=
    congrArg (fun st : Statement => st.session.seq) same
  have moved := congrArg UInt32.toNat number
  have bound := st.session.seq.toNat_lt
  rw [UInt32.toNat_add] at moved
  simp only [UInt32.reduceToNat] at moved
  omega

/-- A statement whose fetch was answered is ready for the next one. -/
theorem Ready.fetch {columns : Nat} {reply : FetchReply} (h : Ready true st)
    (fetched : Statement.fetch columns st = (.done reply, st')) : Ready reply.hasMore st' := by
  obtain ⟨-, _, s, -, rfl, asked⟩ := exists_of_fetch fetched
  exact ⟨(Session.broken_of_ask asked).2, h.opened, fun _ => h.handle rfl⟩

end Statement

/-! ## Results -/

namespace Cursor

/-- The first step into a batch. -/
theorem advance_ofBatch (rows : List Row) (more : Bool) : (ofBatch rows more).advance =
    (!rows.isEmpty, { ofBatch rows more with position := 0 }) := by
  cases rows with
  | nil => rfl
  | cons row rows =>
    have first : (ofBatch (row :: rows) more).isRow 0 = true := by simp [ofBatch, isRow, total]
    rw [advance_of_isRow first]
    rfl

end Cursor

namespace ResultSet

variable {rs : ResultSet}

/-- The result when a step forward has gone onto the row at `p`. -/
def onto (rs : ResultSet) (p : Int) : ResultSet :=
  { rs with cursor := rs.cursor.onto p }

/-- The result when the next batch has come and the first step into it is made. -/
def turned (rs : ResultSet) (st : Statement) (reply : FetchReply) : ResultSet :=
  { rs with
    statement := st
    rowOffset := rs.rowOffset + rs.cursor.total
    cursor := { Cursor.ofBatch reply.rows reply.hasMore with position := 0 } }

/-- The result when a step has gone past the last row of the batch, to `p`. -/
def passed (rs : ResultSet) (p : Int) : ResultSet :=
  { rs with cursor := { rs.cursor with position := p } }

theorem check_of_live (live : rs.aborted = false) : rs.check = .ok () := by
  simp [check, live]

theorem next_of_aborted (h : rs.aborted = true) : next rs = (.failed .resultAborted, rs) := by
  simp [next, check, h]

theorem next_of_isRow (live : rs.aborted = false)
    (h : rs.cursor.isRow (rs.cursor.position + 1) = true) :
    next rs = (.done true, rs.onto (rs.cursor.position + 1)) := by
  simp only [next, check_of_live live, Cursor.advance_of_isRow h, if_true]
  rfl

theorem advance_eq_passed (h : rs.cursor.isRow (rs.cursor.position + 1) = false) : ∃ p,
    rs.cursor.Past p ∧ rs.cursor.advance = (false, (rs.passed p).cursor) :=
  Cursor.advance_of_not_isRow h

/-- If the server has no more rows, a step off the batch ends the result. -/
theorem next_of_isLast (live : rs.aborted = false)
    (h : rs.cursor.isRow (rs.cursor.position + 1) = false) (more : rs.hasMore = false) :
    ∃ p, rs.cursor.Past p ∧ next rs = (.done false, rs.passed p) := by
  obtain ⟨p, past, hadv⟩ := advance_eq_passed h
  refine ⟨p, past, ?_⟩
  have drained : (rs.passed p).cursor.hasMore = false := more
  simp only [next, check_of_live live, hadv, drained, Bool.false_eq_true, if_false, Bool.not_false,
    if_true]
  rfl

/-- At the end of the batch a step is a fetch, if the server holds more. -/
theorem next_of_isExhausted (live : rs.aborted = false)
    (h : rs.cursor.isRow (rs.cursor.position + 1) = false) (more : rs.hasMore = true) :
    ∃ p, rs.cursor.Past p ∧ next rs =
      match Statement.fetch rs.columns.length rs.statement with
      | (.done reply, st) => (.done (!reply.rows.isEmpty), rs.turned st reply)
      | (.failed e, st) => (.failed e, { rs.passed p with statement := st, aborted := true })
      | (.suspended, st) => (.suspended, { rs.passed p with statement := st }) := by
  obtain ⟨p, past, hadv⟩ := advance_eq_passed h
  refine ⟨p, past, ?_⟩
  have held : (rs.passed p).cursor.hasMore = true := more
  simp only [next, check_of_live live, hadv, held, Bool.false_eq_true, if_false, Bool.not_true,
    onStatement, Action.within, Cursor.advance_ofBatch]
  cases hf : Statement.fetch rs.columns.length rs.statement with
  | mk outcome st => cases outcome <;> rfl

/-- What a step forward comes to, and when. -/
inductive NextCase (rs : ResultSet) : Outcome Bool → ResultSet → Prop where
  | refused (aborted : rs.aborted = true) : NextCase rs (.failed .resultAborted) rs
  | within (live : rs.aborted = false) (hrow : rs.cursor.isRow (rs.cursor.position + 1) = true) :
      NextCase rs (.done true) (rs.onto (rs.cursor.position + 1))
  | last {p : Int} (live : rs.aborted = false)
      (hrow : rs.cursor.isRow (rs.cursor.position + 1) = false) (more : rs.hasMore = false)
      (past : rs.cursor.Past p) : NextCase rs (.done false) (rs.passed p)
  | fetched {reply : FetchReply} {st : Statement} (live : rs.aborted = false)
      (hrow : rs.cursor.isRow (rs.cursor.position + 1) = false) (more : rs.hasMore = true)
      (hfetch : Statement.fetch rs.columns.length rs.statement = (.done reply, st)) :
      NextCase rs (.done (!reply.rows.isEmpty)) (rs.turned st reply)
  | failed {p : Int} {e : Error} {st : Statement} (live : rs.aborted = false)
      (hrow : rs.cursor.isRow (rs.cursor.position + 1) = false) (more : rs.hasMore = true)
      (past : rs.cursor.Past p)
      (hfetch : Statement.fetch rs.columns.length rs.statement = (.failed e, st)) :
      NextCase rs (.failed e) { rs.passed p with statement := st, aborted := true }
  | suspended {p : Int} {st : Statement} (live : rs.aborted = false)
      (hrow : rs.cursor.isRow (rs.cursor.position + 1) = false) (more : rs.hasMore = true)
      (past : rs.cursor.Past p)
      (hfetch : Statement.fetch rs.columns.length rs.statement = (.suspended, st)) :
      NextCase rs .suspended { rs.passed p with statement := st }

/-- Every step forward is one of the cases. -/
theorem case_of_next {outcome : Outcome Bool} {rs' : ResultSet} (h : next rs = (outcome, rs')) :
    NextCase rs outcome rs' := by
  cases live : rs.aborted with
  | true =>
    cases h.symm.trans (next_of_aborted live)
    exact .refused live
  | false =>
  cases hrow : rs.cursor.isRow (rs.cursor.position + 1) with
  | true =>
    cases h.symm.trans (next_of_isRow live hrow)
    exact .within live hrow
  | false =>
  cases more : rs.hasMore with
  | false =>
    obtain ⟨p, past, hnext⟩ := next_of_isLast live hrow more
    cases h.symm.trans hnext
    exact .last live hrow more past
  | true =>
    obtain ⟨p, past, hnext⟩ := next_of_isExhausted live hrow more
    rw [h] at hnext
    split at hnext
    · next hfetch =>
      cases hnext
      exact .fetched live hrow more hfetch
    · next hfetch =>
      cases hnext
      exact .failed live hrow more past hfetch
    · next hfetch =>
      cases hnext
      exact .suspended live hrow more past hfetch

/-- What a step forward can come to. -/
inductive Step (rs : ResultSet) : Outcome Bool → ResultSet → Prop where
  | refused (aborted : rs.aborted = true) : Step rs (.failed .resultAborted) rs
  | within (live : rs.aborted = false)
      (hrow : rs.cursor.isRow (rs.cursor.position + 1) = true) :
      Step rs (.done true) (rs.onto (rs.cursor.position + 1))
  | past {p : Int} (past : rs.cursor.Past p) : Step rs (.done false) (rs.passed p)
  | fetched {reply : FetchReply} {st : Statement} {moved : Bool} (live : rs.aborted = false)
      (hmoved : moved = !reply.rows.isEmpty) : Step rs (.done moved) (rs.turned st reply)
  | failed {p : Int} {e : Error} {st : Statement} (past : rs.cursor.Past p) :
      Step rs (.failed e) { rs.passed p with statement := st, aborted := true }
  | suspended {p : Int} {st : Statement} (past : rs.cursor.Past p) :
      Step rs .suspended { rs.passed p with statement := st }

theorem step_of_next {outcome : Outcome Bool} {rs' : ResultSet} (h : next rs = (outcome, rs')) :
    Step rs outcome rs' := by
  cases case_of_next h with
  | refused aborted => exact .refused aborted
  | within live hrow => exact .within live hrow
  | last _ _ _ past => exact .past past
  | fetched live _ _ _ => exact .fetched live rfl
  | failed _ _ _ past _ => exact .failed past
  | suspended _ _ _ past _ => exact .suspended past

end ResultSet

/-! ## A server with a table -/

namespace Statement

/-- A batch of rows with one cell each. -/
def batch (cells : List Octets) : List Wire.Item :=
  .u32 (.ofNat cells.length) :: cells.map .field

/-- The answer to a query for one column of text. -/
def answer (cells : List Octets) (more : Bool) : List Wire.Item :=
  [.i32 7, .u32 (if more then 7 else 3), .u64 0, .u32 1, .field [0x6E], .u32 14, .u32 8, .i32 0,
    .i32 0, .u32 1] ++ batch cells

/-- The answer to a fetch. -/
def continued (cells : List Octets) (more : Bool) : List Wire.Item :=
  .u32 (if more then 4 else 0) :: batch cells

/-- A new statement of a session that will get these answers. -/
def serving (payloads : List (List Wire.Item)) : Statement where
  session := { channel := {
    unread := (payloads.zipIdx 1).flatMap fun (payload, n) =>
      Response.success (.ofNat n) payload } }
  fetchSize := 2

end Statement

end SqlWire
