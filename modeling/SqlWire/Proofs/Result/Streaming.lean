import SqlWire.Proofs.Result.Steps
import SqlWire.Proofs.Session.Handshake
import SqlWire.Session.Script

/-!
# Every row once and in order

`Streamed text st rs received delivered` : from the result of a query, steps forward and nothing
else have led to `rs`. The rows `received` have come so far, with the execution or with a fetch, and
`delivered` steps have ended on a row.

The next step then ends on the first received row that was not delivered yet. It asks for more
exactly if there is none and the server holds more, and it ends on no row only if that brings none
(`next_of_streamed`). The invariant is that the cursor has gone over the delivered rows of its
batch, with the rows still to come all there (`Cursor.Scanning`).
-/

namespace SqlWire

/-! ## Going over a batch -/

namespace Cursor

/-- The cursor has gone over the first `n` of `rows` by steps forward. -/
structure Scanning (rows : List Row) (n : Nat) (c : Cursor) : Prop where
  total : c.total = rows.length
  le : n ≤ rows.length
  place : c.position = n - 1 ∨ c.position = n ∧ n = rows.length
  /-- Nothing was let go of but rows before the last two. -/
  held : ∀ i, n ≤ i + 2 → c.rows[i]? = rows[i]?.map some

variable {c : Cursor} {rows : List Row} {n : Nat} {p : Int} {more : Bool}

theorem scanning_ofBatch (rows : List Row) (more : Bool) : Scanning rows 0 (ofBatch rows more) where
  total := by simp [total, ofBatch]
  le := Nat.zero_le _
  place := Or.inl (by simp [ofBatch])
  held i _ := by simp [ofBatch]

/-- Upon the first step into a batch one row is gone over, if there is one. -/
theorem scanning_entered (rows : List Row) (more : Bool) :
    Scanning rows (!rows.isEmpty).toNat { ofBatch rows more with position := 0 } where
  total := (scanning_ofBatch rows more).total
  le := by cases rows <;> simp
  place := by cases rows <;> simp
  held i _ := (scanning_ofBatch rows more).held i (Nat.zero_le _)

namespace Scanning

theorem position_of_lt (h : Scanning rows n c) (lt : n < rows.length) : c.position + 1 = n := by
  obtain here | ⟨-, drained⟩ := h.place
  · omega
  · omega

theorem isRow_of_lt (h : Scanning rows n c) (lt : n < rows.length) :
    c.isRow (c.position + 1) = true := by
  rw [h.position_of_lt lt, isRow_natCast_iff, h.total]
  exact lt

theorem isRow_of_eq (h : Scanning rows n c) (drained : n = rows.length) :
    c.isRow (c.position + 1) = false := by
  have total := h.total
  refine Bool.eq_false_iff.2 fun hrow => ?_
  obtain ⟨-, bound⟩ := isRow_iff.1 hrow
  obtain here | ⟨here, -⟩ := h.place
  · omega
  · omega

/-- A step forward lets go of a row that was gone over. -/
theorem onto (h : Scanning rows n c) (lt : n < rows.length) :
    Scanning rows (n + 1) (c.onto (c.position + 1)) where
  total := by rw [total_onto, h.total]
  le := lt
  place := Or.inl (by rw [position_onto, h.position_of_lt lt]; omega)
  held i hi := by
    rw [getElem?_onto_of_ne (by rw [h.position_of_lt lt]; omega)]
    exact h.held i (by omega)

theorem past (h : Scanning rows n c) (drained : n = rows.length) (hp : c.Past p) :
    Scanning rows n { c with position := p } where
  total := h.total
  le := h.le
  place := by
    have total := h.total
    have place := h.place
    unfold Past at hp
    show p = n - 1 ∨ p = n ∧ n = rows.length
    omega
  held := h.held

/-- The row that was gone over last can be read. -/
theorem exists_current (h : Scanning rows (n + 1) c) (here : c.position = n) :
    ∃ row, rows[n]? = some row ∧ c.current = .ok row := by
  have present : rows[n]? = some (rows.get ⟨n, h.le⟩) := List.getElem?_eq_getElem h.le
  refine ⟨_, present, ?_⟩
  rw [current_eq_ok_iff, here, Int.toNat_natCast, h.held n (by omega), present]
  exact ⟨Int.natCast_nonneg n, rfl⟩

end Scanning

end Cursor

/-! ## Going over a result -/

namespace ResultSet

variable {rs rs' : ResultSet} {received batch : List Row} {delivered : Nat} {moved : Bool}
  {reply : FetchReply} {st : Statement}

/-- The result is on the row of `received` at `k`, counted from zero, and tells its number. -/
def Shows (received : List Row) (k : Nat) (rs : ResultSet) : Prop :=
  ∃ row, received[k]? = some row ∧ rs.row = .ok row ∧ rs.rowNumber? = some (k + 1)

/-- The row that was gone over last is shown, with its number across all batches. -/
theorem shows_of_scanning {before rows : List Row} {n : Nat} (live : rs.aborted = false)
    (offset : rs.rowOffset = before.length) (scan : rs.cursor.Scanning rows (n + 1))
    (here : rs.cursor.position = n) : rs.Shows (before ++ rows) (before.length + n) := by
  have onRow : rs.cursor.onRow = true := by
    rw [Cursor.onRow, here, Cursor.isRow_natCast_iff, scan.total]
    exact scan.le
  obtain ⟨row, present, current⟩ := scan.exists_current here
  refine ⟨row, ?_, ?_, ?_⟩
  · rw [List.getElem?_append_right (Nat.le_add_right _ _), Nat.add_sub_cancel_left]
    exact present
  · simp only [ResultSet.row, check_of_live live, current]
    rfl
  · simp [rowNumber?, live, onRow, here, offset]

/-- The cursor goes over the last batch, and the rows before it were all delivered. -/
structure Scanning (received : List Row) (delivered : Nat) (rs : ResultSet) : Prop where
  batch : ∃ before rows n, received = before ++ rows ∧ delivered = before.length + n ∧
    rs.rowOffset = before.length ∧ rs.cursor.Scanning rows n
  live : rs.aborted = false
  ready : rs.statement.Ready rs.hasMore

namespace Scanning

theorem le (h : rs.Scanning received delivered) : delivered ≤ received.length := by
  obtain ⟨before, rows, n, rfl, rfl, -, scan⟩ := h.batch
  have := scan.le
  rw [List.length_append]
  omega

/-- While rows are left a step goes onto the next one and does nothing else. -/
theorem next_of_lt (h : rs.Scanning received delivered) (left : delivered < received.length) :
    ∃ rs', next rs = (.done true, rs') ∧ rs'.statement = rs.statement ∧
      rs'.Scanning received (delivered + 1) ∧ rs'.Shows received delivered := by
  obtain ⟨before, rows, n, rfl, rfl, offset, scan⟩ := h.batch
  have lt : n < rows.length := by rw [List.length_append] at left; omega
  have live : (rs.onto (rs.cursor.position + 1)).aborted = false := h.live
  have scan' := scan.onto lt
  refine ⟨_, next_of_isRow h.live (scan.isRow_of_lt lt), rfl, ⟨?_, live, h.ready⟩, ?_⟩
  · exact ⟨before, rows, n + 1, rfl, rfl, offset, scan'⟩
  · exact shows_of_scanning live offset scan' (scan.position_of_lt lt)

/-- Behind the last row of all, a step does nothing but leave it. -/
theorem next_of_drained (h : rs.Scanning received delivered) (drained : delivered = received.length)
    (more : rs.hasMore = false) : ∃ rs', next rs = (.done false, rs') ∧
      rs'.statement = rs.statement ∧ rs'.hasMore = false ∧ rs'.Scanning received delivered := by
  obtain ⟨before, rows, n, rfl, rfl, offset, scan⟩ := h.batch
  have all : n = rows.length := by rw [List.length_append] at drained; omega
  obtain ⟨p, past, hnext⟩ := next_of_isLast h.live (scan.isRow_of_eq all) more
  exact ⟨_, hnext, rfl, more, ⟨before, rows, n, rfl, rfl, offset, scan.past all past⟩, h.live,
    h.ready⟩

/-- Behind the last row that has come, a step is a fetch if the server holds more. -/
theorem next_of_more (h : rs.Scanning received delivered) (drained : delivered = received.length)
    (more : rs.hasMore = true) :
    (∃ reply rs', Statement.fetch rs.columns.length rs.statement = (.done reply, rs'.statement) ∧
      next rs = (.done (!reply.rows.isEmpty), rs') ∧
      rs'.Scanning (received ++ reply.rows) (delivered + (!reply.rows.isEmpty).toNat) ∧
      (reply.rows ≠ [] → rs'.Shows (received ++ reply.rows) delivered)) ∨
    ((Statement.fetch rs.columns.length rs.statement).1.isDone = false ∧
      (next rs).1.isDone = false ∧
      (next rs).2.statement = (Statement.fetch rs.columns.length rs.statement).2) := by
  obtain ⟨before, rows, n, rfl, rfl, offset, scan⟩ := h.batch
  have all : n = rows.length := by rw [List.length_append] at drained; omega
  obtain ⟨p, -, hnext⟩ := next_of_isExhausted h.live (scan.isRow_of_eq all) more
  cases hf : Statement.fetch rs.columns.length rs.statement with
  | mk outcome st =>
    rw [hf] at hnext
    cases outcome with
    | done reply =>
      refine Or.inl ⟨reply, _, rfl, hnext, ?_⟩
      have live : (rs.turned st reply).aborted = false := h.live
      have entered := Cursor.scanning_entered reply.rows reply.hasMore
      have offset' : (rs.turned st reply).rowOffset = (before ++ rows).length := by
        rw [turned, List.length_append, offset, scan.total]
      have ready := h.ready
      rw [more] at ready
      rw [drained]
      refine ⟨⟨⟨before ++ rows, reply.rows, _, rfl, rfl, offset', entered⟩, live,
        ready.fetch hf⟩, fun some => ?_⟩
      rw [List.isEmpty_eq_false_iff.2 some] at entered
      exact shows_of_scanning live offset' entered rfl
    | failed e =>
      rw [hnext]
      exact Or.inr ⟨rfl, rfl, rfl⟩
    | suspended =>
      rw [hnext]
      exact Or.inr ⟨rfl, rfl, rfl⟩

end Scanning

/-! ## What a step brings -/

/-- The rows that come with a step : none if it leaves the statement alone, or those of a fetch. -/
inductive Brings (rs rs' : ResultSet) : List Row → Prop where
  | nothing (same : rs'.statement = rs.statement) : Brings rs rs' []
  | fetched {reply : FetchReply}
      (fetched : Statement.fetch rs.columns.length rs.statement = (.done reply, rs'.statement)) :
      Brings rs rs' reply.rows

/-- A fetch leaves a trace, so it is plain what a step has brought. -/
theorem Brings.unique {batch' : List Row} (h : Brings rs rs' batch) (h' : Brings rs rs' batch') :
    batch = batch' := by
  cases h with
  | nothing same =>
    cases h' with
    | nothing => rfl
    | fetched fetched => exact absurd same (Statement.ne_of_fetch fetched)
  | fetched fetched =>
    cases h' with
    | nothing same => exact absurd same (Statement.ne_of_fetch fetched)
    | fetched fetched' =>
      cases fetched.symm.trans fetched'
      rfl

/-- Where a step that succeeds leads to. -/
structure Goes (received batch : List Row) (delivered : Nat) (moved : Bool) (rs rs' : ResultSet) :
    Prop where
  scanning : rs'.Scanning (received ++ batch) (delivered + moved.toNat)
  shows : moved = true → rs'.Shows (received ++ batch) delivered
  ends : moved = false → delivered = (received ++ batch).length ∧
    (rs'.hasMore = false ∨ batch = [] ∧ rs'.statement ≠ rs.statement)

/-- One step keeps the place among the rows that have come. -/
theorem Scanning.goes (h : rs.Scanning received delivered) (step : next rs = (.done moved, rs')) :
    ∃ batch, Brings rs rs' batch ∧ Goes received batch delivered moved rs rs' := by
  by_cases left : delivered < received.length
  · obtain ⟨_, hnext, same, scan, shows⟩ := h.next_of_lt left
    cases step.symm.trans hnext
    rw [← List.append_nil received] at scan shows
    exact ⟨[], .nothing same, scan, fun _ => shows, nofun⟩
  have drained : delivered = received.length := Nat.le_antisymm h.le (Nat.le_of_not_lt left)
  cases more : rs.hasMore with
  | false =>
    obtain ⟨_, hnext, same, last, scan⟩ := h.next_of_drained drained more
    cases step.symm.trans hnext
    rw [← List.append_nil received] at scan drained
    exact ⟨[], .nothing same, scan, nofun, fun _ => ⟨drained, Or.inl last⟩⟩
  | true =>
    obtain ⟨reply, _, fetched, hnext, scan, shows⟩ | ⟨-, undone, -⟩ := h.next_of_more drained more
    · cases step.symm.trans hnext
      refine ⟨reply.rows, .fetched fetched, scan, fun some => shows (by simpa using some),
        fun none => ?_⟩
      have empty : reply.rows = [] := by simpa using none
      rw [empty, List.append_nil]
      exact ⟨drained, Or.inr ⟨rfl, Statement.ne_of_fetch fetched⟩⟩
    · rw [step] at undone
      cases undone

/-- A step forward either delivers the next row or finds the end, with a batch fetched or none. -/
theorem Scanning.goes_of_brings (h : rs.Scanning received delivered)
    (step : next rs = (.done moved, rs')) (brings : Brings rs rs' batch) :
    Goes received batch delivered moved rs rs' := by
  obtain ⟨batch', brings', goes⟩ := h.goes step
  rw [brings.unique brings']
  exact goes

/-- A result after steps forward and nothing else, with the rows that have come so far and the
number of steps that ended on a row. -/
inductive Streamed (text : String) (st : Statement) : ResultSet → List Row → Nat → Prop where
  | opened {st' : Statement} {rs : ResultSet} {reply : ExecuteReply} {columns : List Descriptor}
      (ran : Statement.run text st = (.done (reply, columns), st'))
      (queried : Statement.query text st = (.done rs, st')) :
      Streamed text st rs (reply.rows.getD []) 0
  | stepped {rs rs' : ResultSet} {received batch : List Row} {delivered : Nat} {moved : Bool}
      (before : Streamed text st rs received delivered) (step : next rs = (.done moved, rs'))
      (brings : Brings rs rs' batch) :
      Streamed text st rs' (received ++ batch) (delivered + moved.toNat)

/-- However often a result was stepped forward, it is where its deliveries tell. -/
theorem scanning_of_streamed {text : String} (h : Streamed text st rs received delivered) :
    rs.Scanning received delivered := by
  induction h with
  | opened ran queried =>
    obtain ⟨reply, columns, ran', rfl⟩ := Statement.query_eq_done_iff.1 queried
    cases ran.symm.trans ran'
    exact ⟨⟨[], _, 0, rfl, rfl, rfl, Cursor.scanning_ofBatch _ _⟩, rfl, Statement.ready_of_run ran⟩
  | stepped _ step brings ih => exact (ih.goes_of_brings step brings).scanning

/-! ## What a run of steps delivers -/

/-- Everything that can be said of the next step, and of all further ones once it is over. -/
structure Streams (received : List Row) (delivered : Nat) (rs : ResultSet) : Prop where
  /-- No row is delivered that has not come. -/
  le : delivered ≤ received.length
  /-- A step that succeeds brings some rows, or none. -/
  brings : ∀ moved rs', next rs = (.done moved, rs') → ∃ batch, Brings rs rs' batch
  /-- A step that ends on a row ends on the first one that was not delivered. -/
  shows : ∀ rs' batch, next rs = (.done true, rs') → Brings rs rs' batch →
    rs'.Shows (received ++ batch) delivered
  /-- A step that ends on none has none to end on, even if it has just asked for more. -/
  ends : ∀ rs' batch, next rs = (.done false, rs') → Brings rs rs' batch →
    delivered = (received ++ batch).length ∧
      (rs'.hasMore = false ∨ batch = [] ∧ rs'.statement ≠ rs.statement)
  /-- As long as there are rows to deliver, a step delivers one without a word to the server. -/
  buffered : delivered < received.length →
    ∃ rs', next rs = (.done true, rs') ∧ rs'.statement = rs.statement
  /-- When they are used up and the server holds more, a step is one fetch. -/
  asks : delivered = received.length → rs.hasMore = true → ∃ handle,
    rs.statement.handle = some handle ∧
    (next rs).2.statement = { rs.statement with
      session := (Session.request (.fetch handle.raw rs.statement.fetchSize)
        rs.statement.session).2 } ∧
    ∀ reply st, Statement.fetch rs.columns.length rs.statement = (.done reply, st) →
      (∃ rs', next rs = (.done (!reply.rows.isEmpty), rs') ∧ rs'.statement = st) ∧
      st.session.channel.sent = rs.statement.session.channel.sent ++
        rs.statement.session.octetsOf (.fetch handle.raw rs.statement.fetchSize)
  /-- When the server holds no more, no step does anything any more. -/
  finished : delivered = received.length → rs.hasMore = false → ∀ n,
    (rs.run (List.replicate n .next)).2.statement = rs.statement ∧
      ∀ report ∈ (rs.run (List.replicate n .next)).1,
        report.outcome = .done (.moved false) ∧ report.sent = []

/-- Behind the last row every further step tells the end and sends nothing. -/
theorem Scanning.run_of_drained (h : rs.Scanning received delivered)
    (drained : delivered = received.length) (more : rs.hasMore = false) (n : Nat) :
    (rs.run (List.replicate n .next)).2.statement = rs.statement ∧
      ∀ report ∈ (rs.run (List.replicate n .next)).1,
        report.outcome = .done (.moved false) ∧ report.sent = [] := by
  induction n generalizing rs with
  | zero => exact ⟨rfl, by simp [run]⟩
  | succ n ih =>
    obtain ⟨rs', hnext, same, last, scan⟩ := h.next_of_drained drained more
    have made : perform .next rs = (.done (.moved false), rs') := by
      rw [perform, Action.bind_of_done hnext]
      rfl
    obtain ⟨same', later⟩ := ih scan last
    simp only [List.replicate_succ, run, made]
    refine ⟨same'.trans same, fun report hreport => ?_⟩
    obtain rfl | hreport := List.mem_cons.1 hreport
    · exact ⟨rfl, by simp [sentBetween, same]⟩
    · exact later report hreport

/-- A step forward off a batch that is not the last asks for one more under the handle. -/
theorem Scanning.asks (h : rs.Scanning received delivered) (drained : delivered = received.length)
    (more : rs.hasMore = true) : ∃ handle, rs.statement.handle = some handle ∧
      (next rs).2.statement = { rs.statement with
        session := (Session.request (.fetch handle.raw rs.statement.fetchSize)
          rs.statement.session).2 } ∧
      ∀ reply st, Statement.fetch rs.columns.length rs.statement = (.done reply, st) →
        (∃ rs', next rs = (.done (!reply.rows.isEmpty), rs') ∧ rs'.statement = st) ∧
        st.session.channel.sent = rs.statement.session.channel.sent ++
          rs.statement.session.octetsOf (.fetch handle.raw rs.statement.fetchSize) := by
  obtain ⟨handle, held⟩ := h.ready.handle more
  have state := congrArg Prod.snd (Statement.fetch_of_handle h.ready.opened held rs.columns.length)
  refine ⟨handle, held, ?_, fun reply st fetched => ⟨?_, ?_⟩⟩
  · rw [← Session.ask_state _ (FetchReply.read rs.columns.length)]
    refine Eq.trans ?_ state
    obtain ⟨reply, rs', fetched, hnext, -, -⟩ | ⟨-, -, left⟩ := h.next_of_more drained more
    · rw [hnext, fetched]
    · exact left
  · obtain ⟨reply', rs', fetched', hnext, -, -⟩ | ⟨unfetched, -, -⟩ := h.next_of_more drained more
    · cases fetched.symm.trans fetched'
      exact ⟨rs', hnext, rfl⟩
    · rw [fetched] at unfetched
      cases unfetched
  · obtain ⟨handle', response, s, held', rfl, -, octets, frames, c, -, -, split, rfl⟩ :=
      Statement.exchanges_of_fetch fetched
    cases held.symm.trans held'
    exact (congrArg Channel.sent split).symm

/-- However the rows are spread over batches, steps forward deliver them all, each once and in
order, and ask for no more than they have to. -/
theorem next_of_streamed {text : String} (h : Streamed text st rs received delivered) :
    rs.Streams received delivered := by
  have scan := scanning_of_streamed h
  exact {
    le := scan.le
    brings := fun _ _ step => by
      obtain ⟨batch, brings, -⟩ := scan.goes step
      exact ⟨batch, brings⟩
    shows := fun _ _ step brings => (scan.goes_of_brings step brings).shows rfl
    ends := fun _ _ step brings => (scan.goes_of_brings step brings).ends rfl
    buffered := fun left => by
      obtain ⟨rs', hnext, same, -, -⟩ := scan.next_of_lt left
      exact ⟨rs', hnext, same⟩
    asks := scan.asks
    finished := scan.run_of_drained }

/-- Of two rows one comes with the execution and one with the second fetch, the first having
brought none. -/
theorem next_of_streamed_table :
    let st := Statement.serving [Statement.answer [[65]] true, Statement.continued [] true,
      Statement.continued [[66]] false]
    ∃ rs received, Streamed "SELECT n" st rs received 2 ∧ rs.Streams received 2 ∧
      received.length = 2 ∧ rs.hasMore = false ∧ rs.row = .ok [some [66]] := by
  intro st
  obtain ⟨opened, st', queried, made⟩ := Outcome.exists_of_holds
    (x := Statement.query "SELECT n" st)
    (p := fun rs =>
      let a := (next rs).2
      let b := (next a).2
      let c := (next b).2
      decide (rs.cursor.total = 1 ∧
        next rs = (.done true, a) ∧ a.statement = rs.statement ∧
        next a = (.done false, b) ∧
        Statement.fetch a.columns.length a.statement = (.done ⟨[], true⟩, b.statement) ∧
        next b = (.done true, c) ∧
        Statement.fetch b.columns.length b.statement =
          (.done ⟨[[some [66]]], false⟩, c.statement) ∧
        c.hasMore = false ∧ c.row = .ok [some [66]]))
    (by decide +kernel)
  obtain ⟨one, stepA, same, stepB, fetchB, stepC, fetchC, last, row⟩ := of_decide_eq_true made
  obtain ⟨reply, columns, ran, rfl⟩ := Statement.query_eq_done_iff.1 queried
  have streamed := (((Streamed.opened ran queried).stepped stepA (.nothing same)).stepped stepB
    (.fetched fetchB)).stepped stepC (.fetched fetchC)
  refine ⟨_, _, streamed, next_of_streamed streamed, ?_, last, row⟩
  simpa [Cursor.total, Cursor.ofBatch] using one

end ResultSet

end SqlWire
