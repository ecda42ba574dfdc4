import SqlWire.Proofs.Action
import SqlWire.Session.Script

/-!
# What whole runs keep

Calls on a session, on its statements and on their results reach the stream through requests only.
A relation between sessions is `Session.Stable` if it is a preorder that every request respects,
and that does not mind what is remembered of shapes or that a stream was shut down. A stable
relation holds between the sessions before and after any call (`Stable.perform`), and by induction
before and after any script (`Stable.run`), whatever becomes of the calls in it. A script may end
inside a statement or a result, so the last statement is also one about every moment between calls.
-/

namespace SqlWire

namespace Session

/-- A relation that all calls respect because their requests do. -/
structure Stable (R : Session → Session → Prop) : Prop where
  refl : ∀ s, R s s
  trans : ∀ {s s' s''}, R s s' → R s' s'' → R s s''
  request : ∀ r s, R s (request r s).2
  shapes : ∀ s shapes, R s { s with shapes := shapes }
  shutdown : ∀ s, R s (onChannel Channel.shutdown s).2

end Session

namespace Statement

/-- The sessions of two statements are related. -/
def Over (R : Session → Session → Prop) (st st' : Statement) : Prop :=
  R st.session st'.session

/-- A result is opened over the session that its query has left. -/
theorem statement_of_query {text : String} {st st' : Statement} {rs : ResultSet}
    (h : query text st = (.done rs, st')) : rs.statement = st' := by
  obtain ⟨_, _, -, hq⟩ := Action.bind_eq_done_iff.1 h
  cases hq
  rfl

end Statement

namespace ResultSet

/-- The sessions of two results are related. -/
def Over (R : Session → Session → Prop) (rs rs' : ResultSet) : Prop :=
  R rs.statement.session rs'.statement.session

theorem statement_move (f : Cursor → Except Error (Bool × Cursor)) (rs : ResultSet) :
    (move f rs).2.statement = rs.statement := by
  unfold move
  split
  · rfl
  · split <;> rfl

theorem statement_leave (f : Cursor → Cursor) (rs : ResultSet) :
    (leave f rs).2.statement = rs.statement := by
  unfold leave
  split <;> rfl

end ResultSet

section

variable {R : Session → Session → Prop}

instance [Std.Refl R] : Std.Refl (Statement.Over R) :=
  ⟨fun st => refl_of R st.session⟩

instance [IsTrans Session R] : IsTrans Statement (Statement.Over R) :=
  ⟨fun _ _ _ => trans_of R⟩

instance [Std.Refl R] : Std.Refl (ResultSet.Over R) :=
  ⟨fun rs => refl_of R rs.statement.session⟩

instance [IsTrans Session R] : IsTrans ResultSet (ResultSet.Over R) :=
  ⟨fun _ _ _ => trans_of R⟩

end

namespace Session

variable {R : Session → Session → Prop}

theorem Stable.isRefl (h : Stable R) : Std.Refl R :=
  ⟨h.refl⟩

theorem Stable.isTrans (h : Stable R) : IsTrans Session R :=
  ⟨fun _ _ _ => h.trans⟩

/-! ## Calls on a session -/

/-- A request whose answer carries nothing respects what requests respect. -/
theorem Stable.tell (h : Stable R) (r : Request) : Action.Respects R (tell r) :=
  have := h.isRefl
  have := h.isTrans
  Action.Respects.seq (h.request r) fun _ => .pure _

/-- Reading an answer adds nothing to a request. -/
theorem Stable.ask {α : Type} (h : Stable R) (r : Request) (reader : Wire.Reader α) :
    Action.Respects R (ask r reader) :=
  have := h.isRefl
  have := h.isTrans
  Action.Respects.seq (h.request r) fun _ => Action.Respects.get.seq fun _ => .ofExcept _

/-- A query is a request, and may change what is remembered of shapes. -/
theorem Stable.execute (h : Stable R) (handle : Option Handle) (query : String)
    (fetchSize : UInt32) : Action.Respects R (execute handle query fetchSize) := by
  have := h.isRefl
  have := h.isTrans
  refine Action.Respects.get.seq fun s => (h.ask _ _).seq fun reply => ?_
  split
  · exact Action.Respects.seq (.modify fun s => h.shapes s _) fun _ => .pure _
  · exact .pure _

theorem Stable.fetch (h : Stable R) (handle : Handle) (fetchSize : UInt32) (columns : Nat) :
    Action.Respects R (fetch handle fetchSize columns) :=
  h.ask _ _

theorem Stable.freeStatement (h : Stable R) (handle : Handle) :
    Action.Respects R (freeStatement handle) :=
  h.tell _

/-- Closing is a request, if it is made, and the attempt to shut down. -/
theorem Stable.close (h : Stable R) : Action.Respects R close := by
  intro s
  have logout : R s (if s.phase = .ready ∧ s.broken = false then Session.tell .logout s
      else (.done (), s)).2 := by
    split
    · exact h.tell .logout s
    · exact h.refl s
  simp only [Session.close]
  split
  · exact logout
  · exact h.trans logout (h.shutdown _)

/-! ## Calls on a statement -/

/-- What is respected on a session is respected over a statement. -/
theorem Stable.onSession {α : Type} {x : Action Session α} (hx : Action.Respects R x) :
    Action.Respects (Statement.Over R) (Statement.onSession x) :=
  hx.within fun _ _ h => h

/-- A run reaches the session by its query only. -/
theorem Stable.statementRun (h : Stable R) (query : String) :
    Action.Respects (Statement.Over R) (Statement.run query) := by
  have := h.isRefl
  have := h.isTrans
  refine Action.Respects.get.seq fun st => ?_
  dsimp only
  split
  · rw [Action.fail_bind]
    exact .fail _
  · exact (onSession (h.execute _ _ _)).seq fun _ => (Action.Respects.ofExcept _).seq fun _ =>
      Action.Respects.seq (.modify fun st => h.refl _) fun _ => .pure _

theorem Stable.update (h : Stable R) (query : String) :
    Action.Respects (Statement.Over R) (Statement.update query) :=
  have := h.isRefl
  have := h.isTrans
  (h.statementRun query).seq fun _ => .pure _

/-- A fetch reaches the session only if there is a handle. -/
theorem Stable.statementFetch (h : Stable R) (columns : Nat) :
    Action.Respects (Statement.Over R) (Statement.fetch columns) := by
  have := h.isRefl
  have := h.isTrans
  refine Action.Respects.get.seq fun st => ?_
  split
  · exact .fail _
  · split
    · exact .fail _
    · exact onSession (h.fetch _ _ _)

/-- Closing a statement reaches the session only to let go of the handle. -/
theorem Stable.statementClose (h : Stable R) :
    Action.Respects (Statement.Over R) Statement.close := by
  have := h.isRefl
  have := h.isTrans
  refine Action.Respects.get.seq fun st =>
    Action.Respects.seq (.modify fun st => h.refl _) fun _ => ?_
  split
  · exact .pure _
  · exact onSession (h.freeStatement _)

/-- Opening a result adds nothing to the run. -/
theorem Stable.query (h : Stable R) (text : String) :
    Action.Respects (Statement.Over R) (Statement.query text) :=
  have := h.isRefl
  have := h.isTrans
  (h.statementRun text).seq fun _ => Action.Respects.get.seq fun _ => .pure _

/-! ## Calls on a result -/

/-- What is respected over a statement is respected over a result. -/
theorem Stable.onStatement {α : Type} {x : Action Statement α}
    (hx : Action.Respects (Statement.Over R) x) :
    Action.Respects (ResultSet.Over R) (ResultSet.onStatement x) :=
  hx.within fun _ _ h => h

/-- Going on in a result reaches the session only by fetching. -/
theorem Stable.next (h : Stable R) : Action.Respects (ResultSet.Over R) ResultSet.next := by
  intro rs
  simp only [ResultSet.next]
  split
  · exact h.refl _
  · split_ifs
    · exact h.refl _
    · exact h.refl _
    · have fetched := onStatement (h.statementFetch rs.columns.length)
        { rs with cursor := rs.cursor.advance.2 }
      split
      · next run =>
        rw [run] at fetched
        exact fetched
      · next run =>
        rw [run] at fetched
        exact fetched
      · next run =>
        rw [run] at fetched
        exact fetched

/-- A move over the rows at hand does not reach the session. -/
theorem Stable.move (h : Stable R) (f : Cursor → Except Error (Bool × Cursor)) :
    Action.Respects (ResultSet.Over R) (ResultSet.move f) := by
  intro rs
  rw [ResultSet.Over, ResultSet.statement_move]
  exact h.refl _

/-- Leaving the rows at hand does not reach the session. -/
theorem Stable.leave (h : Stable R) (f : Cursor → Cursor) :
    Action.Respects (ResultSet.Over R) (ResultSet.leave f) := by
  intro rs
  rw [ResultSet.Over, ResultSet.statement_leave]
  exact h.refl _

/-- Every call on a result respects what requests respect. -/
theorem Stable.resultPerform (h : Stable R) (call : ResultCall) :
    Action.Respects (ResultSet.Over R) (ResultSet.perform call) := by
  have := h.isRefl
  have := h.isTrans
  have look {α : Type} (f : ResultSet → Except Error α) :
      Action.Respects (ResultSet.Over R) (ResultSet.look f) := fun rs => h.refl _
  cases call with
  | next => exact h.next.seq fun _ => .pure _
  | previous | first | last | absolute | relative => exact (h.move _).seq fun _ => .pure _
  | beforeFirst | afterLast => exact (h.leave _).seq fun _ => .pure _
  | _ => exact look _

/-- So do all calls on a result, one after the other. -/
theorem Stable.resultRun (h : Stable R) (calls : List ResultCall) (rs : ResultSet) :
    R rs.statement.session (rs.run calls).2.statement.session := by
  induction calls generalizing rs with
  | nil => exact h.refl _
  | cons call calls ih => exact h.trans (h.resultPerform call rs) (ih _)

/-! ## Scripts -/

/-- Every call on a statement respects what requests respect. -/
theorem Stable.statementPerform (h : Stable R) (call : StatementCall) (st : Statement) :
    R st.session (st.perform call).2.2.session := by
  have := h.isRefl
  have := h.isTrans
  cases call with
  | setFetchSize rows => exact h.refl _
  | update query => exact (h.update query).seq (fun _ => .pure _) st
  | close => exact h.statementClose.seq (fun _ => .pure _) st
  | query text calls =>
    have queried := h.query text st
    simp only [Statement.perform]
    cases hq : Statement.query text st with
    | mk outcome after =>
      rw [hq] at queried
      cases outcome with
      | done rs =>
        obtain rfl := Statement.statement_of_query hq
        exact h.trans queried (h.resultRun calls rs)
      | failed e => exact queried
      | suspended => exact queried

/-- So do all calls on a statement, one after the other. -/
theorem Stable.statementRunCalls (h : Stable R) (calls : List StatementCall) (st : Statement) :
    R st.session (st.runCalls calls).2.session := by
  induction calls generalizing st with
  | nil => exact h.refl _
  | cons call calls ih => exact h.trans (h.statementPerform call st) (ih _)

/-- What one call does to a session. -/
theorem Stable.perform (h : Stable R) (call : SessionCall) (s : Session) :
    R s (s.perform call).2.2 := by
  have := h.isRefl
  have := h.isTrans
  cases call with
  | state => exact h.refl _
  | ping | commit | rollback => exact (h.tell _).seq (fun _ => .pure _) s
  | close => exact h.close.seq (fun _ => .pure _) s
  | statement calls => exact h.statementRunCalls calls s.statement

/-- What a script does to a session. -/
theorem Stable.run (h : Stable R) (calls : List SessionCall) (s : Session) :
    R s (s.run calls).2 := by
  induction calls generalizing s with
  | nil => exact h.refl _
  | cons call calls ih => exact h.trans (h.perform call s) (ih _)

end Session

end SqlWire
