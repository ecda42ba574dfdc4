import SqlWire.Proofs.Session.Turns

/-!
# The columns of a query

The columns of a result are those that the reply describes. If it describes none they are those of
the latest description of the same text on the connection, unless it was forgotten, and else there
are neither columns nor rows (`Shaped`). An execution asks for a description exactly if none is
remembered, and what it does not receive whole leaves no trace in what is remembered
(`run_remembers`).

This is about any connection after any script : what is remembered is what was described in the
turns so far, one after the other (`Session.Dialogue.shapes`).
-/

namespace SqlWire

/-! ## Results without columns -/

namespace ResultSet

variable {rs : ResultSet}

/-- A result with neither columns nor rows. -/
def Bare (rs : ResultSet) : Prop :=
  rs.columns = [] ∧ rs.cursor.rows = []

/-- A result without columns stays without. -/
theorem Bare.perform (h : rs.Bare) (call : ResultCall) : (ResultSet.perform call rs).2.Bare := by
  obtain ⟨narrow, empty⟩ := h
  obtain ⟨columns, rows⟩ := replaced_perform call rs
  refine ⟨columns.trans narrow, ?_⟩
  generalize (ResultSet.perform call rs).2.cursor.rows = after at rows ⊢
  cases rows with
  | kept => exact empty
  | released i => rw [empty, List.set_nil]
  | fetched fetched =>
    rw [narrow] at fetched
    obtain ⟨-, _, _, -, -, asked⟩ := Statement.exists_of_fetch fetched
    rw [Session.yields_ask yields_fetchReply_zero asked, List.map_nil]

/-- No calls give a result columns. -/
theorem Bare.run (h : rs.Bare) (calls : List ResultCall) : (rs.run calls).2.Bare :=
  run_of_perform (fun _ call h => h.perform call) h calls

end ResultSet

/-! ## Executions -/

namespace Statement

variable {st st' : Statement} {text : String} {reply : ExecuteReply} {s : Session}

/-- What is remembered when a query has run whose reply could be read, though the statement may have
refused the reply. -/
theorem shapes_run_of_replied (opened : st.closed = false)
    (h : st.session.replied st.handle text st.fetchSize = (.done reply, s)) :
    (run text st).2.session.shapes = reply.remembered text st.session.shapes := by
  obtain ⟨handle, state, -⟩ := run_state opened text
  rw [state, Session.execute_of_replied h]

/-- Without a reply that could be read a query does not succeed, and all is remembered as it was. -/
theorem run_of_not_replied
    (h : st.closed = true ∨ (st.session.replied st.handle text st.fetchSize).1.isDone = false) :
    (run text st).1.isDone = false ∧
      (run text st).2.session.shapes = st.session.shapes := by
  cases closed : st.closed with
  | true =>
    rw [run_of_closed closed]
    exact ⟨rfl, rfl⟩
  | false =>
    have undone := h.resolve_left (by simp [closed])
    constructor
    · cases ran : run text st with
      | mk outcome st' =>
        cases outcome with
        | done answer =>
          obtain ⟨reply, columns⟩ := answer
          obtain ⟨-, _, replied, -⟩ := exists_of_run ran
          rw [replied] at undone
          cases undone
        | failed e => rfl
        | suspended => rfl
    · obtain ⟨handle, state, -⟩ := run_state closed text
      rw [state, (Session.execute_of_not_replied undone).2]
      exact Session.shapes_ask _ _ _

/-- The columns of a result, by the reply to its query and the descriptions before it. -/
inductive Shaped (described : List Description) (st : Statement) (text : String)
    (reply : ExecuteReply) (rs : ResultSet) : Prop where
  | described {columns : List Descriptor} (fresh : reply.columns = some columns)
      (same : rs.columns = columns)
  /-- The latest description of this very text is still remembered. -/
  | remembered {columns : List Descriptor} (omitted : reply.columns = none)
      (found : st.session.shapes.find? text = some columns)
      (latest : Latest described text columns) (same : rs.columns = columns)
  /-- Whatever is called on the result, there never are any rows. -/
  | unknown (omitted : reply.columns = none) (missing : st.session.shapes.find? text = none)
      (bare : ∀ calls, (rs.run calls).2.columns = [] ∧ (rs.run calls).2.cursor.rows = [])

/-- What is remembered behind these turns, and what the next query of a statement makes of it. -/
structure Remembers (turns : List Turn) (st : Statement) : Prop where
  bounded : st.session.shapes.entries.length ≤ 256
  distinct : (st.session.shapes.entries.map Prod.fst).Nodup
  /-- What is found of a text is the latest description of this very text. -/
  latest : ∀ query columns, st.session.shapes.find? query = some columns →
    Latest (turns.flatMap Turn.described) query columns
  /-- When a request was begun, what had been described in the turns before it was remembered, and
  an execution has asked for what was not. -/
  inquires : ∀ earlier t later, turns = earlier ++ t :: later →
    t.before.shapes = ShapeCache.remembering {} (earlier.flatMap Turn.described) ∧ t.Inquires
  /-- A query that succeeds has had a reply, which decides about the columns of the result. -/
  shaped : ∀ text rs st', query text st = (.done rs, st') → ∃ reply s,
    st.session.replied st.handle text st.fetchSize = (.done reply, s) ∧
    Shaped (turns.flatMap Turn.described) st text reply rs
  /-- What a reply describes is found from then on, even if the statement refuses the reply. -/
  noted : ∀ text reply s columns, st.closed = false →
    st.session.replied st.handle text st.fetchSize = (.done reply, s) →
    reply.columns = some columns → (run text st).2.session.shapes.find? text = some columns
  /-- A reply that describes nothing changes nothing about what is remembered. -/
  omitted : ∀ text reply s,
    st.session.replied st.handle text st.fetchSize = (.done reply, s) →
    reply.columns = none → (run text st).2.session.shapes = st.session.shapes
  /-- Neither does a query that is refused or has no reply that can be read, and it does not
  succeed. -/
  undecoded : ∀ text,
    st.closed = true ∨ (st.session.replied st.handle text st.fetchSize).1.isDone = false →
    (run text st).1.isDone = false ∧ (run text st).2.session.shapes = st.session.shapes
  /-- Nothing is put under another text than that of the query. What is found there stays, unless
  the cache is full. -/
  others : ∀ text other, other ≠ text →
    (run text st).2.session.shapes.find? other = st.session.shapes.find? other ∨
      256 ≤ st.session.shapes.entries.length ∧
        (run text st).2.session.shapes.find? other = none

/-- A query that is neither described nor remembered opens a result without columns. -/
theorem bare_of_query {rs : ResultSet} (queried : query text st = (.done rs, st'))
    (replied : st.session.replied st.handle text st.fetchSize = (.done reply, s))
    (omitted : reply.columns = none) (missing : st.session.shapes.find? text = none) :
    rs.Bare := by
  obtain ⟨reply', columns, ran, rfl⟩ := query_eq_done_iff.1 queried
  obtain ⟨-, s', replied', rfl, -⟩ := exists_of_run ran
  cases replied.symm.trans replied'
  refine ⟨by simp [omitted, missing], ?_⟩
  -- Rows that came with the reply would have been cut by columns that are known.
  cases hrows : reply.rows with
  | none => simp [Cursor.ofBatch]
  | some rows =>
    obtain ⟨columns, cut, -⟩ := Session.allOf_of_replied replied hrows
    rw [omitted, missing] at cut
    cases cut

/-- A query opens a result with the columns of the reply, or with those that were last described for
the same text. -/
theorem shaped_of_query {described : List Description} {rs : ResultSet}
    (latest : ∀ columns, st.session.shapes.find? text = some columns →
      Latest described text columns)
    (queried : query text st = (.done rs, st')) : ∃ reply s,
      st.session.replied st.handle text st.fetchSize = (.done reply, s) ∧
      Shaped described st text reply rs := by
  obtain ⟨reply, columns, ran, same⟩ := query_eq_done_iff.1 queried
  obtain ⟨-, s, replied, cut, -⟩ := exists_of_run ran
  have shape : rs.columns = (reply.columns.or (st.session.shapes.find? text)).getD [] := by
    rw [same, cut]
  refine ⟨reply, s, replied, ?_⟩
  cases fresh : reply.columns with
  | some columns => exact .described fresh (by rw [shape, fresh]; rfl)
  | none =>
    cases found : st.session.shapes.find? text with
    | some columns =>
      exact .remembered fresh found (latest _ found) (by rw [shape, fresh, found]; rfl)
    | none => exact .unknown fresh found (bare_of_query queried replied fresh found).run

/-- A reply without columns leaves all that is remembered. -/
theorem shapes_run_of_omitted
    (h : st.session.replied st.handle text st.fetchSize = (.done reply, s))
    (omitted : reply.columns = none) :
    (run text st).2.session.shapes = st.session.shapes := by
  cases closed : st.closed with
  | true => rw [run_of_closed closed]
  | false => rw [shapes_run_of_replied closed h, ExecuteReply.remembered, omitted]

/-- What is remembered of another text stays, unless the memory was full and is begun anew. -/
theorem find?_run_of_ne {other : String} (h : other ≠ text) :
    (run text st).2.session.shapes.find? other = st.session.shapes.find? other ∨
      256 ≤ st.session.shapes.entries.length ∧
        (run text st).2.session.shapes.find? other = none := by
  by_cases undecoded : st.closed = true ∨
      (st.session.replied st.handle text st.fetchSize).1.isDone = false
  · rw [(run_of_not_replied undecoded).2]
    exact Or.inl rfl
  · rw [not_or, Bool.not_eq_true, Bool.not_eq_false] at undecoded
    obtain ⟨opened, replied⟩ := undecoded
    obtain ⟨reply, s, replied, -⟩ := Outcome.exists_of_holds (p := fun _ => true) replied
    rw [shapes_run_of_replied opened replied, ExecuteReply.remembered]
    cases reply.columns with
    | none => exact Or.inl rfl
    | some columns =>
      dsimp only
      rw [ShapeCache.find?_remember_of_ne h]
      split_ifs with emptied
      · exact Or.inr ⟨emptied.2, rfl⟩
      · exact Or.inl rfl

end Statement

namespace Session

variable {s : Session}

/-- Nothing is remembered on a new connection. -/
theorem shapes_of_connect {hasher : PasswordHasher} {clientKey : Octets} {options : Options}
    {address : String} {zone : Int32} {channel opened : Channel}
    (h : connect hasher clientKey options address zone channel = (.done s, opened)) :
    s.shapes = {} := by
  obtain ⟨-, -, shaken⟩ := connect_eq_done_iff_handshake.1 h
  obtain ⟨-, -, -, -, -⟩ := handshake_fresh_eq_done_iff.1 shaken
  rfl

open Statement in
/-- Whatever was executed on a connection, and whatever has come of it, what is remembered of
queries is what was described last under the same text. -/
theorem run_remembers {hasher : PasswordHasher} {clientKey : Octets} {options : Options}
    {address : String} {zone : Int32} {channel opened : Channel}
    (connected : connect hasher clientKey options address zone channel = (.done s, opened))
    (calls : List SessionCall) (st : Statement) (state : st.session = (s.run calls).2) :
    Remembers (s.turns calls) st := by
  have empty := shapes_of_connect connected
  have talk := dialogue_run calls s
  have shapes : st.session.shapes =
      ShapeCache.remembering {} ((s.turns calls).flatMap Turn.described) := by
    rw [state, talk.shapes, empty]
  have sound : st.session.shapes.Sound := shapes ▸ ShapeCache.sound_empty.remembering _
  have latest (query : String) (columns : List Descriptor)
      (h : st.session.shapes.find? query = some columns) :
      Latest ((s.turns calls).flatMap Turn.described) query columns := by
    rw [shapes] at h
    exact (ShapeCache.find?_remembering h).resolve_right fun ⟨_, found⟩ => nomatch found
  exact {
    bounded := sound.bounded
    distinct := sound.distinct
    latest := latest
    inquires := by
      intro earlier t later split
      rw [split] at talk
      obtain ⟨first, -, inquires⟩ := talk.before
      exact ⟨first.shapes.trans (by rw [empty]), inquires⟩
    shaped := fun text rs st' queried => shaped_of_query (latest text) queried
    noted := fun text reply s columns opened replied fresh => by
      rw [shapes_run_of_replied opened replied, ExecuteReply.remembered, fresh]
      exact ShapeCache.find?_remember_self
    omitted := fun text reply s => shapes_run_of_omitted
    undecoded := fun text => run_of_not_replied
    others := fun text other => find?_run_of_ne }

/-- The first execution of a query asks for its columns and the second one does not, also where the
statement has refused the first reply for its handle. -/
theorem run_remembers_guest :
    let channel : Channel := {
      unread := welcome [1, 2, 3] ++ Response.success 4 (Statement.answer [] false) ++
        Response.success 5 ([.i32 8, .u32 1, .u64 0, .u32 0]) ++
        Response.success 6 ([.i32 7, .u32 2, .u64 0] ++ Statement.batch [[66]]) }
    let calls : List SessionCall :=
      [.statement [.query "a" [], .update "b", .update "a", .update "b"]]
    ∃ s opened, connect trusting [1, 2, 3] guest "" 3600 channel = (.done s, opened) ∧
      (s.turns calls).map Turn.request =
        [.execute (-1) true 100 "a", .execute 7 true 100 "b", .execute 7 false 100 "a",
          .execute 7 false 100 "b"] ∧
      Statement.Remembers (s.turns calls) (s.run calls).2.statement := by
  intro channel calls
  obtain ⟨s, opened, connected, asked⟩ := Outcome.exists_of_holds
    (x := connect trusting [1, 2, 3] guest "" 3600 channel)
    (p := fun s => (s.turns calls).map Turn.request ==
      [.execute (-1) true 100 "a", .execute 7 true 100 "b", .execute 7 false 100 "a",
        .execute 7 false 100 "b"])
    (by decide +kernel)
  exact ⟨s, opened, connected, eq_of_beq asked, run_remembers connected calls _ rfl⟩

end Session

end SqlWire
