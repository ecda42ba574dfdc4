import SqlWire.Proofs.Result.Steps
import SqlWire.Proofs.Session.Gates
import SqlWire.Proofs.Session.Runs

/-!
# The life of a handle

A statement lives through operations (`Statement.Operation`), of which each begins one request at
most. `Operation.request?` tells which, and `Operation.puts` that this request is all that happens
to the session. `Statement.after` and `Statement.asked` follow a statement through a list of
operations.

The handle is set by a reply to an execution and cleared by closing, and nothing else happens to it
(`Operation.keeps`). From this it follows by induction over the operations what requests carry and
how often a handle is freed (`statement_lifecycle`).
-/

namespace SqlWire

/-! ## Requests that are begun -/

namespace Session

/-- A session before and after the one request, if any, that something makes of it. What is
remembered of shapes may change besides. -/
inductive Puts : Option Request → Session → Session → Prop where
  | nothing (s : Session) : Puts none s s
  | request {s : Session} (whole : s.broken = false) (r : Request) (shapes : ShapeCache) :
      Puts (some r) s { (Session.request r s).2 with shapes := shapes }

/-- What is begun of a request. A broken session begins none. -/
def begins (s : Session) (r : Request) : Option Request :=
  if s.broken then none else some r

variable {s s' : Session} {r : Request}

/-- Where no request is begun, the session is as it was. -/
theorem Puts.eq_of_none (h : Puts none s s') : s' = s := by
  cases h
  rfl

/-- A request that is refused on a broken session is not begun. -/
theorem puts_request (r : Request) (s : Session) : Puts (s.begins r) s (request r s).2 := by
  unfold begins
  split
  · next broken =>
    rw [request_of_broken broken]
    exact .nothing s
  · next whole =>
    exact .request (by simpa using whole) r (request r s).2.shapes

/-- Reading the answer begins nothing more. -/
theorem puts_ask {α : Type} (reader : Wire.Reader α) (r : Request) (s : Session) :
    Puts (s.begins r) s (ask r reader s).2 := by
  rw [ask_state]
  exact puts_request r s

theorem puts_tell (r : Request) (s : Session) : Puts (s.begins r) s (tell r s).2 := by
  have same : (tell r s).2 = (request r s).2 := Action.bind_state (m := id) (fun _ _ => rfl) s
  rw [same]
  exact puts_request r s

/-- What an execution asks for : under the handle, or under a new one. -/
def executeRequest (s : Session) (handle : Option Handle) (query : String) (fetchSize : UInt32) :
    Request :=
  .execute ((handle.map Handle.raw).getD Request.newStatement) (s.shapes.find? query).isNone
    fetchSize query

/-- An execution comes to its one request, but for the shape that it may remember. -/
theorem execute_state (handle : Option Handle) (query : String) (fetchSize : UInt32)
    (s : Session) : ∃ shapes, (execute handle query fetchSize s).2 =
      { (request (s.executeRequest handle query fetchSize) s).2 with shapes := shapes } := by
  have asked := ask_state (s.executeRequest handle query fetchSize)
    (ExecuteReply.read s.charset ((s.shapes.find? query).map List.length)) s
  rw [← asked, executeRequest]
  simp only [execute, Action.get_bind]
  rcases Action.bind_cases (ask (.execute ((handle.map Handle.raw).getD Request.newStatement)
    (s.shapes.find? query).isNone fetchSize query) (ExecuteReply.read s.charset
    ((s.shapes.find? query).map List.length))) _ s with ⟨reply, s', hs, hb⟩ | ⟨-, hb, -⟩
  · rw [hb, hs]
    cases reply.columns with
    | some columns => exact ⟨_, rfl⟩
    | none => exact ⟨_, rfl⟩
  · rw [hb]
    exact ⟨_, rfl⟩

/-- A broken session runs no query. -/
theorem execute_of_broken (h : s.broken = true) (handle : Option Handle) (query : String)
    (fetchSize : UInt32) : execute handle query fetchSize s = (.failed .broken, s) := by
  simp only [execute, Action.get_bind]
  exact Action.bind_of_failed (ask_of_broken h _ _)

/-- A query begins one request, unless the session is broken. -/
theorem puts_execute (handle : Option Handle) (query : String) (fetchSize : UInt32) (s : Session) :
    Puts (s.begins (s.executeRequest handle query fetchSize)) s
      (execute handle query fetchSize s).2 := by
  unfold begins
  split
  · next broken =>
    rw [execute_of_broken broken]
    exact .nothing s
  · next whole =>
    obtain ⟨shapes, same⟩ := execute_state handle query fetchSize s
    rw [same]
    exact .request (by simpa using whole) _ shapes

end Session

/-! ## What each function makes of a statement -/

namespace Statement

/-- The request that running a query begins. -/
def executes (st : Statement) (text : String) : Option Request :=
  if st.closed then none
  else st.session.begins (st.session.executeRequest st.handle text st.fetchSize)

/-- The request that a fetch begins. -/
def fetches (st : Statement) : Option Request :=
  if st.closed then none
  else st.handle.bind fun handle => st.session.begins (.fetch handle.raw st.fetchSize)

/-- The request that closing begins. -/
def frees (st : Statement) : Option Request :=
  st.handle.bind fun handle => st.session.begins (.freeStatement handle.raw)

variable {st : Statement} {text : String}

/-- A closed statement runs no query and leaves no trace of it. -/
theorem run_of_closed (h : st.closed = true) (text : String) :
    run text st = (.failed .statementClosed, st) := by
  simp only [run, Action.get_bind, h, if_true]
  rfl

/-- A handle that is held is kept. -/
theorem adopt_cases {current handle : Option Handle} {raw : Int32} {more : Bool}
    (h : adopt current raw more = .ok handle) : handle = current ∨ current = none := by
  unfold adopt at h
  split at h
  · exact Or.inr rfl
  · split_ifs at h
    cases h
    exact Or.inl rfl
  · split_ifs at h
    cases h
    exact Or.inl rfl

/-- Running a query on an open statement comes to what happens to the session, and if it succeeds,
to a handle for a statement that has none. -/
theorem run_state (opened : st.closed = false) (text : String) : ∃ handle,
    (run text st).2 = { st with
      session := (Session.execute st.handle text st.fetchSize st.session).2
      handle := handle } ∧
    (handle = st.handle ∨ st.handle = none ∧ (run text st).1.isDone = true) := by
  have unclosed : ¬st.closed = true := by simp [opened]
  simp only [run, Action.get_bind, if_neg unclosed]
  rcases Action.bind_cases (onSession (Session.execute st.handle text st.fetchSize)) _ st with
    ⟨⟨reply, columns⟩, st₁, ran, hb⟩ | ⟨-, hb, -⟩
  · rw [hb]
    obtain ⟨s, executed, rfl⟩ := onSession_eq_done_iff.1 ran
    rw [executed]
    cases adopted : adopt st.handle reply.handle reply.hasMore with
    | error e => exact ⟨st.handle, rfl, Or.inl rfl⟩
    | ok handle => exact ⟨handle, rfl, (adopt_cases adopted).imp_right fun h => ⟨h, rfl⟩⟩
  · rw [hb]
    exact ⟨st.handle, rfl, Or.inl rfl⟩

/-- A run begins its request over the session of the statement, unless the statement is closed. -/
theorem puts_run (text : String) (st : Statement) :
    Session.Puts (st.executes text) st.session (run text st).2.session := by
  unfold executes
  split
  · next closed =>
    rw [run_of_closed closed]
    exact .nothing _
  · next opened =>
    obtain ⟨handle, state, -⟩ := run_state (by simpa using opened) text
    rw [state]
    exact Session.puts_execute _ _ _ _

/-- A fetch comes to what happens to the session. -/
theorem fetch_state (columns : Nat) (st : Statement) :
    ∃ s, (fetch columns st).2 = { st with session := s } ∧
      Session.Puts st.fetches st.session s := by
  obtain ⟨session, handle, fetchSize, closed⟩ := st
  cases closed with
  | true => exact ⟨session, rfl, .nothing session⟩
  | false =>
    cases handle with
    | none => exact ⟨session, rfl, .nothing session⟩
    | some handle => exact ⟨_, rfl, Session.puts_ask (FetchReply.read columns) _ session⟩

/-- Closing marks the statement, and its handle goes to the server. -/
theorem close_state (st : Statement) :
    ∃ s, (close st).2 = { st with session := s, closed := true, handle := none } ∧
      Session.Puts st.frees st.session s := by
  obtain ⟨session, handle, fetchSize, closed⟩ := st
  cases handle with
  | none => exact ⟨session, rfl, .nothing session⟩
  | some handle => exact ⟨_, rfl, Session.puts_tell _ session⟩

end Statement

namespace ResultSet

/-- The request that a step forward begins. -/
def fetches (rs : ResultSet) : Option Request :=
  if rs.aborted || rs.cursor.isRow (rs.cursor.position + 1) || !rs.hasMore then none
  else rs.statement.fetches

/-- A step forward comes to what happens to the session. -/
theorem next_state (rs : ResultSet) :
    ∃ s, (next rs).2.statement = { rs.statement with session := s } ∧
      Session.Puts rs.fetches rs.statement.session s := by
  have quiet (h : (next rs).2.statement = rs.statement) (none : rs.fetches = none) :
      ∃ s, (next rs).2.statement = { rs.statement with session := s } ∧
        Session.Puts rs.fetches rs.statement.session s :=
    ⟨rs.statement.session, h, none ▸ .nothing _⟩
  cases live : rs.aborted with
  | true => exact quiet (by rw [next_of_aborted live]) (by simp [fetches, live])
  | false =>
  cases hrow : rs.cursor.isRow (rs.cursor.position + 1) with
  | true => exact quiet (by rw [next_of_isRow live hrow]; rfl) (by simp [fetches, hrow])
  | false =>
  cases more : rs.hasMore with
  | false =>
    obtain ⟨p, -, step⟩ := next_of_isLast live hrow more
    exact quiet (by rw [step]; rfl) (by simp [fetches, more])
  | true =>
    obtain ⟨p, -, step⟩ := next_of_isExhausted live hrow more
    obtain ⟨s, state, puts⟩ := Statement.fetch_state rs.columns.length rs.statement
    have asked : rs.fetches = rs.statement.fetches := by simp [fetches, live, hrow, more]
    refine ⟨s, ?_, asked ▸ puts⟩
    rw [step, ← state]
    split
    · next fetched =>
      rw [fetched]
      rfl
    · next fetched => rw [fetched]
    · next fetched => rw [fetched]

end ResultSet

/-! ## Operations -/

/-- What a request says of the statement that begins it : the handle is the one that it holds, minus
one for an execution without a handle, and a row at least is asked for. -/
def Request.Carries (st : Statement) : Request → Prop
  | execute raw _ fetchSize _ =>
    raw = (st.handle.map Handle.raw).getD newStatement ∧ 1 ≤ fetchSize
  | fetch raw fetchSize => (∃ handle, st.handle = some handle ∧ raw = handle.raw) ∧ 1 ≤ fetchSize
  | freeStatement raw => ∃ handle, st.handle = some handle ∧ raw = handle.raw
  | _ => False

namespace Statement

/-- What can be done with a statement. An operation that is cancelled is one that waits for ever :
the stream ends where it was given up, and nothing is read behind that place. -/
inductive Operation where
  | query (text : String)
  | update (text : String)
  /-- Step forward in a result of the statement, wherever its cursor is. -/
  | next (rs : ResultSet)
  | setFetchSize (rows : UInt32)
  | close

namespace Operation

/-- The statement after an operation, whatever has become of it. -/
def after (op : Operation) (st : Statement) : Statement :=
  match op with
  | query text => (st.query text).2
  | update text => (st.update text).2
  | next rs => (ResultSet.next { rs with statement := st }).2.statement
  | setFetchSize rows => st.setFetchSize rows
  | close => (Statement.close st).2

/-- The request that an operation begins. -/
def request? (op : Operation) (st : Statement) : Option Request :=
  match op with
  | query text | update text => st.executes text
  | next rs => ResultSet.fetches { rs with statement := st }
  | setFetchSize _ => none
  | close => st.frees

end Operation

variable {st : Statement} {op : Operation}

/-- A query leaves the statement as its run does. -/
theorem query_state (text : String) (st : Statement) : (query text st).2 = (run text st).2 :=
  Action.bind_state (m := id) (fun _ _ => rfl) st

/-- What is done with the count of an update leaves the statement alone. -/
theorem update_state (text : String) (st : Statement) : (update text st).2 = (run text st).2 :=
  Action.bind_state (m := id) (fun _ _ => rfl) st

/-- Every operation begins at most the one request that is foreseen for it. -/
theorem Operation.puts (op : Operation) (st : Statement) :
    Session.Puts (op.request? st) st.session (op.after st).session := by
  cases op with
  | query text =>
    simp only [after, query_state]
    exact puts_run text st
  | update text =>
    simp only [after, update_state]
    exact puts_run text st
  | next rs =>
    obtain ⟨s, state, puts⟩ := ResultSet.next_state { rs with statement := st }
    simp only [after, state]
    exact puts
  | setFetchSize => exact .nothing _
  | close =>
    obtain ⟨s, state, puts⟩ := close_state st
    simp only [after, state]
    exact puts

/-- What all operations but closing leave of a statement. -/
structure Keeps (st st' : Statement) : Prop where
  closed : st'.closed = st.closed
  handle : st'.handle = st.handle ∨ st.handle = none ∧ st.closed = false
  fetchSize : 1 ≤ st.fetchSize → 1 ≤ st'.fetchSize

/-- A run only ever adds a handle, and only to a statement that has none. -/
theorem keeps_run (text : String) (st : Statement) : Keeps st (run text st).2 := by
  cases closed : st.closed with
  | true =>
    rw [run_of_closed closed]
    exact ⟨rfl, Or.inl rfl, id⟩
  | false =>
    obtain ⟨handle, state, kept⟩ := run_state closed text
    rw [state]
    exact ⟨rfl, kept.imp_right fun h => ⟨h.1, closed⟩, id⟩

/-- No fetch size below one is ever set. -/
theorem one_le_setFetchSize (rows : UInt32) (st : Statement) :
    1 ≤ (st.setFetchSize rows).fetchSize := by
  change 1 ≤ ite (rows ≤ 1) 1 rows
  split
  · exact UInt32.le_refl 1
  · next more => exact UInt32.le_of_lt (UInt32.not_le.1 more)

/-- All operations but closing keep the handle that there is. -/
theorem Operation.keeps (h : op ≠ .close) (st : Statement) : Keeps st (op.after st) := by
  cases op with
  | query text =>
    simp only [after, query_state]
    exact keeps_run text st
  | update text =>
    simp only [after, update_state]
    exact keeps_run text st
  | next rs =>
    obtain ⟨s, state, -⟩ := ResultSet.next_state { rs with statement := st }
    simp only [after, state]
    exact ⟨rfl, Or.inl rfl, id⟩
  | setFetchSize rows => exact ⟨rfl, Or.inl rfl, fun _ => one_le_setFetchSize rows st⟩
  | close => exact absurd rfl h

/-! ## One operation after the other -/

/-- The statement after operations. -/
def after (st : Statement) (ops : List Operation) : Statement :=
  ops.foldl (fun st op => op.after st) st

/-- The requests that operations begin, in order. -/
def asked : Statement → List Operation → List Request
  | _, [] => []
  | st, op :: ops => (op.request? st).toList ++ asked (op.after st) ops

variable {ops : List Operation} {r : Request}

theorem after_append (st : Statement) (ops more : List Operation) :
    st.after (ops ++ more) = (st.after ops).after more :=
  List.foldl_append

/-- What was asked was asked by one operation, behind those before it. -/
theorem exists_of_mem_asked (h : r ∈ st.asked ops) : ∃ before op, before ++ [op] <+: ops ∧
    op.request? (st.after before) = some r := by
  induction ops generalizing st with
  | nil => cases h
  | cons op ops ih =>
    rcases List.mem_append.1 h with here | later
    · exact ⟨[], op, List.prefix_append [op] ops, Option.mem_toList.1 here⟩
    · obtain ⟨before, op', le, begun⟩ := ih later
      exact ⟨op :: before, op', (List.prefix_cons_inj op).2 le, begun⟩

/-- What holds of a statement at any time. -/
structure Sound (st : Statement) : Prop where
  fetchSize : 1 ≤ st.fetchSize
  cleared : st.closed = true → st.handle = none

/-- A sound statement stays sound. -/
theorem Sound.operation (h : st.Sound) (op : Operation) : (op.after st).Sound := by
  by_cases closing : op = .close
  · obtain ⟨s, state, -⟩ := close_state st
    rw [closing, Operation.after, state]
    exact ⟨h.fetchSize, fun _ => rfl⟩
  · have kept := Operation.keeps closing st
    refine ⟨kept.fetchSize h.fetchSize, fun closed => ?_⟩
    rw [kept.closed] at closed
    rcases kept.handle with same | ⟨-, opened⟩
    · exact same.trans (h.cleared closed)
    · rw [opened] at closed
      cases closed

/-- A sound statement stays sound over any operations. -/
theorem Sound.after (h : st.Sound) (ops : List Operation) : (st.after ops).Sound := by
  induction ops generalizing st with
  | nil => exact h
  | cons op ops ih => exact ih (h.operation op)

/-- A statement is closed once it has been closed, and by nothing else. -/
theorem closed_after_iff (st : Statement) (ops : List Operation) :
    (st.after ops).closed = true ↔ st.closed = true ∨ Operation.close ∈ ops := by
  induction ops generalizing st with
  | nil => simp [after]
  | cons op ops ih =>
    refine (ih (op.after st)).trans ?_
    by_cases closing : op = .close
    · obtain ⟨s, state, -⟩ := close_state st
      simp [closing, Operation.after, state]
    · simp [(Operation.keeps closing st).closed, Ne.symm closing]

/-- A handle is kept until the statement is closed. -/
theorem handle_after {handle : Handle} (held : st.handle = some handle)
    (never : Operation.close ∉ ops) : (st.after ops).handle = some handle := by
  induction ops generalizing st with
  | nil => exact held
  | cons op ops ih =>
    have other : op ≠ .close := fun h => never (h ▸ List.mem_cons_self)
    refine ih ?_ fun h => never (List.mem_cons_of_mem _ h)
    rcases (Operation.keeps other st).handle with same | ⟨none, -⟩
    · exact same.trans held
    · rw [held] at none
      cases none

/-! ## Requests -/

theorem eq_of_begins {s : Session} {r' : Request} (h : s.begins r = some r') : r' = r := by
  unfold Session.begins at h
  split at h
  · cases h
  · exact (Option.some.inj h).symm

/-- What an operation can ask of the server, and what the statement is like when it does. -/
inductive Asks (st : Statement) : Operation → Request → Prop where
  | execute {op : Operation} (opened : st.closed = false) (other : op ≠ .close) (text : String) :
      Asks st op (st.session.executeRequest st.handle text st.fetchSize)
  | fetch {op : Operation} {handle : Handle} (opened : st.closed = false) (other : op ≠ .close)
      (held : st.handle = some handle) : Asks st op (.fetch handle.raw st.fetchSize)
  | free {handle : Handle} (held : st.handle = some handle) :
      Asks st .close (.freeStatement handle.raw)

/-- A run asks for the query, under the handle that there is or for a new one. -/
theorem asks_of_executes {text : String} (other : op ≠ .close) (h : st.executes text = some r) :
    Asks st op r := by
  unfold executes at h
  split_ifs at h with closed
  obtain rfl := eq_of_begins h
  exact .execute (Bool.eq_false_iff.2 closed) other text

/-- The request of an operation is of the kind that belongs to it. -/
theorem asks_of_request? (h : op.request? st = some r) : Asks st op r := by
  cases op with
  | query text => exact asks_of_executes nofun h
  | update text => exact asks_of_executes nofun h
  | next rs =>
    simp only [Operation.request?, ResultSet.fetches, fetches] at h
    split_ifs at h with _ closed
    obtain ⟨handle, held, begun⟩ := Option.bind_eq_some_iff.1 h
    obtain rfl := eq_of_begins begun
    exact .fetch (Bool.eq_false_iff.2 closed) nofun held
  | setFetchSize => cases h
  | close =>
    obtain ⟨handle, held, begun⟩ := Option.bind_eq_some_iff.1 h
    obtain rfl := eq_of_begins begun
    exact .free held

/-- What is asked carries the handle and a fetch size of at least one. -/
theorem Sound.carries (sound : st.Sound) (h : op.request? st = some r) : r.Carries st := by
  cases asks_of_request? h with
  | execute => exact ⟨rfl, sound.fetchSize⟩
  | fetch _ _ held => exact ⟨⟨_, held, rfl⟩, sound.fetchSize⟩
  | free held => exact ⟨_, held, rfl⟩

/-- A closed statement begins nothing. -/
theorem Sound.request?_of_closed (sound : st.Sound) (closed : st.closed = true) (op : Operation) :
    op.request? st = none := by
  rcases begun : op.request? st with _ | r
  · rfl
  · cases asks_of_request? begun with
    | execute opened => simp [closed] at opened
    | fetch opened => simp [closed] at opened
    | free held => simp [sound.cleared closed] at held

/-- Behind closing nothing is asked any more. -/
theorem Sound.after_of_closed (sound : st.Sound) (closed : st.closed = true)
    (ops : List Operation) : st.asked ops = [] ∧ (st.after ops).session = st.session := by
  induction ops generalizing st with
  | nil => exact ⟨rfl, rfl⟩
  | cons op ops ih =>
    have none := sound.request?_of_closed closed op
    have puts := op.puts st
    rw [none] at puts
    have stays : (op.after st).closed = true := (closed_after_iff st [op]).2 (Or.inl closed)
    obtain ⟨later, same⟩ := ih (sound.operation op) stays
    refine ⟨?_, same.trans ?_⟩
    · rw [asked, none, later]
      rfl
    · exact puts.eq_of_none

/-- Only closing frees a handle, and what is closed frees none. -/
theorem Sound.countP_frees_le (sound : st.Sound) (ops : List Operation) :
    (st.asked ops).countP (·.command = .freeStatement) ≤ 1 := by
  induction ops generalizing st with
  | nil => exact Nat.zero_le 1
  | cons op ops ih =>
    rw [asked, List.countP_append]
    by_cases closing : op = .close
    · have closed : (op.after st).closed = true :=
        (closed_after_iff st [op]).2 (Or.inr (List.mem_singleton.2 closing.symm))
      rw [((sound.operation op).after_of_closed closed ops).1]
      cases op.request? st with
      | none => exact Nat.zero_le 1
      | some r => exact List.countP_le_length
    · have others : (op.request? st).toList.countP (·.command = .freeStatement) = 0 := by
        refine List.countP_eq_zero.2 fun r begun => ?_
        cases asks_of_request? (Option.mem_toList.1 begun) with
        | execute => exact of_decide_eq_false rfl
        | fetch => exact of_decide_eq_false rfl
        | free => exact absurd rfl closing
      rw [others, Nat.zero_add]
      exact ih (sound.operation op)

/-! ## The whole life -/

/-- What holds of a statement that is new at `st`, once `ops` were done with it. -/
structure Lifecycle (st : Statement) (ops : List Operation) : Prop where
  /-- The next operation does nothing to the session but begin the request that is told of it. -/
  begins : ∀ op : Operation,
    Session.Puts (op.request? (st.after ops)) (st.after ops).session
      (op.after (st.after ops)).session
  /-- That request says of the statement what holds of it. -/
  carries : ∀ (op : Operation) r, op.request? (st.after ops) = some r → r.Carries (st.after ops)
  positive : ∀ handle, (st.after ops).handle = some handle → 0 < handle.raw
  /-- A handle stays the same until the statement is closed. -/
  kept : ∀ handle more, (st.after ops).handle = some handle → Operation.close ∉ more →
    (st.after (ops ++ more)).handle = some handle
  closed_iff : (st.after ops).closed = true ↔ Operation.close ∈ ops
  /-- Of a closed statement neither the handle nor the session is ever touched again. -/
  ended : Operation.close ∈ ops → (∀ text,
      query text (st.after ops) = (.failed .statementClosed, st.after ops) ∧
      update text (st.after ops) = (.failed .statementClosed, st.after ops)) ∧
    ∀ more, (st.after (ops ++ more)).handle = none ∧ (st.after ops).asked more = [] ∧
      (st.after (ops ++ more)).session = (st.after ops).session
  freedOnce : (st.asked ops).countP (·.command = .freeStatement) ≤ 1
  /-- What is freed was the handle when the statement was closed. -/
  freed : ∀ raw, .freeStatement raw ∈ st.asked ops → ∃ before handle,
    before ++ [Operation.close] <+: ops ∧ (st.after before).handle = some handle ∧ raw = handle.raw
  /-- An execution that does not succeed leaves handle, mark and size as they were. -/
  failed : ∀ text,
    ((query text (st.after ops)).1.isDone = false → (query text (st.after ops)).2 =
      { st.after ops with session := (query text (st.after ops)).2.session }) ∧
    ((update text (st.after ops)).1.isDone = false → (update text (st.after ops)).2 =
      { st.after ops with session := (update text (st.after ops)).2.session })

/-- A run that fails changes nothing about the statement but the session beneath it. -/
theorem run_of_not_done {text : String} (h : (run text st).1.isDone = false) :
    (run text st).2 = { st with session := (run text st).2.session } := by
  by_cases closed : st.closed = true
  · rw [run_of_closed closed]
  · obtain ⟨handle, state, kept⟩ := run_state (Bool.eq_false_iff.2 closed) text
    rcases kept with rfl | ⟨-, done⟩
    · rw [state]
    · rw [h] at done
      cases done

/-- A closed statement gives no result. -/
theorem query_of_closed (closed : st.closed = true) (text : String) :
    query text st = (.failed .statementClosed, st) :=
  Action.bind_of_failed (run_of_closed closed text)

/-- A closed statement makes no update. -/
theorem update_of_closed (closed : st.closed = true) (text : String) :
    update text st = (.failed .statementClosed, st) :=
  Action.bind_of_failed (run_of_closed closed text)

/-- A statement that is sound and open goes through its lifecycle, whatever is done with it. -/
theorem Sound.lifecycle (sound : st.Sound) (opened : st.closed = false) (ops : List Operation) :
    Lifecycle st ops where
  begins op := op.puts (st.after ops)
  carries op r := (sound.after ops).carries
  positive handle _ := handle.positive
  kept handle more held never := by
    rw [after_append]
    exact handle_after held never
  closed_iff := by simp [closed_after_iff, opened]
  ended closing := by
    have closed : (st.after ops).closed = true := (closed_after_iff _ _).2 (Or.inr closing)
    refine ⟨fun text => ⟨query_of_closed closed text, update_of_closed closed text⟩,
      fun more => ?_⟩
    have still : (st.after (ops ++ more)).closed = true :=
      (closed_after_iff _ _).2 (Or.inr (List.mem_append_left _ closing))
    obtain ⟨none, same⟩ := (sound.after ops).after_of_closed closed more
    refine ⟨(sound.after _).cleared still, none, ?_⟩
    rw [after_append]
    exact same
  freedOnce := sound.countP_frees_le ops
  freed raw h := by
    obtain ⟨before, op, le, begun⟩ := exists_of_mem_asked h
    cases asks_of_request? begun with
    | free held => exact ⟨before, _, le, held, rfl⟩
  failed text := by
    refine ⟨fun h => ?_, fun h => ?_⟩
    · have ran : (run text (st.after ops)).1.isDone = false :=
        (Action.isDone_bind (fun _ _ => rfl) _).symm.trans h
      rw [query_state]
      exact run_of_not_done ran
    · have ran : (run text (st.after ops)).1.isDone = false :=
        (Action.isDone_bind (fun _ _ => rfl) _).symm.trans h
      rw [update_state]
      exact run_of_not_done ran

end Statement

namespace Session

variable {s : Session}

/-- What a session asks for by default is set by the options alone. -/
theorem stable_fetchSize : Stable fun s s' => s'.fetchSize = s.fetchSize where
  refl _ := rfl
  trans h h' := h'.trans h
  request r s := by
    cases hb : s.broken with
    | true => rw [request_of_broken hb]
    | false =>
      rcases request_cases hb r with ⟨response, s', exchange, heq⟩ | ⟨-, c, hs'⟩
      · rw [heq]
        obtain ⟨-, -, -, -, -, -, -, rfl⟩ := exchange
        rfl
      · rw [hs']
  shapes _ _ := rfl
  shutdown _ := rfl

/-- The fetch size of a session is that of its options, which is not zero. -/
theorem fetchSize_of_connect {hasher : PasswordHasher} {clientKey : Octets} {options : Options}
    {address : String} {zone : Int32} {channel opened : Channel}
    (h : connect hasher clientKey options address zone channel = (.done s, opened)) :
    1 ≤ s.fetchSize := by
  obtain ⟨valid, -, shaken⟩ := connect_eq_done_iff_handshake.1 h
  obtain ⟨-, -, -, -, -⟩ := handshake_fresh_eq_done_iff.1 shaken
  change 1 ≤ options.fetchSize
  unfold Options.validate at valid
  split_ifs at valid with _ _ nonzero
  rw [UInt32.le_iff_toNat_le]
  have positive : options.fetchSize.toNat ≠ 0 := fun h => nonzero (UInt32.toNat_inj.1 h)
  exact Nat.one_le_iff_ne_zero.2 positive

/-- Whatever is done with a new statement of a connection, and whatever the server answers, its
handle is set, sent and freed as it should be. -/
theorem statement_lifecycle {hasher : PasswordHasher} {clientKey : Octets} {options : Options}
    {address : String} {zone : Int32} {channel opened : Channel}
    (connected : connect hasher clientKey options address zone channel = (.done s, opened))
    (calls : List SessionCall) (ops : List Statement.Operation) :
    Statement.Lifecycle (s.run calls).2.statement ops := by
  have size : (s.run calls).2.fetchSize = s.fetchSize := stable_fetchSize.run calls s
  have positive : 1 ≤ (s.run calls).2.fetchSize := by
    rw [size]
    exact fetchSize_of_connect connected
  have sound : (s.run calls).2.statement.Sound := ⟨positive, fun _ => rfl⟩
  exact sound.lifecycle rfl ops

/-- The server chooses the handle seven, which the next execution carries. It is freed once, though
the statement is closed twice. -/
theorem statement_lifecycle_guest :
    let channel : Channel := {
      unread := welcome [1, 2, 3] ++ Response.success 4 (Statement.answer [[65]] false) ++
        Response.success 5 (Statement.answer [] false) ++ Response.success 6 [] }
    let ops : List Statement.Operation :=
      [.query "a", .setFetchSize 0, .update "b", .close, .close, .query "c"]
    ∃ s opened, connect trusting [1, 2, 3] guest "" 3600 channel = (.done s, opened) ∧
      s.statement.asked ops =
        [.execute (-1) true 100 "a", .execute 7 true 1 "b", .freeStatement 7] ∧
      Statement.Lifecycle (s.run []).2.statement ops := by
  intro channel ops
  obtain ⟨s, opened, connected, asked⟩ := Outcome.exists_of_holds
    (x := connect trusting [1, 2, 3] guest "" 3600 channel)
    (p := fun s => s.statement.asked ops ==
      [.execute (-1) true 100 "a", .execute 7 true 1 "b", .freeStatement 7])
    (by decide +kernel)
  exact ⟨s, opened, connected, eq_of_beq asked, statement_lifecycle connected [] ops⟩

end Session

end SqlWire
