import SqlWire.Proofs.Result.Aborted
import SqlWire.Proofs.Result.Moves
import SqlWire.Proofs.Result.Navigation

/-!
# The history of a result

`Visited text st rs log` : some calls on the result of a query have led to `rs`. The log tells which
rows came before the batch at hand, which came with it, and what moves were made over it. A call
that fetches begins a new batch, and every other call makes its move over the old one
(`ResultSet.exists_visited`).

So the cursor of a result is one over a fresh batch after these moves, and the rows that came before
the batch are counted (`ResultSet.Kept`). The numbers in refused moves and reads count on from them
(`ResultSet.history_counts`).
-/

namespace SqlWire

open Cursor (Move Lost within)

/-- The move that a call makes over the batch at hand. -/
def ResultCall.move? : ResultCall → Option Move
  | .next => some .advance
  | .previous => some .previous
  | .absolute number => some (.absolute number)
  | .relative offset => some (.relative offset)
  | .first => some .first
  | .last => some .last
  | .beforeFirst => some .beforeFirst
  | .afterLast => some .afterLast
  | _ => none

/-- A batch as it came, with the rows that came before it and the moves that were made over it. -/
structure Log where
  earlier : List Row
  rows : List Row
  more : Bool
  moves : List Move

namespace Log

/-- A fresh cursor over the batch, after the moves. -/
def cursor (log : Log) : Cursor :=
  (Cursor.ofBatch log.rows log.more).run log.moves

/-- The positions of the rows that the steps forward among the moves have ended on. -/
def landed (log : Log) : List Int :=
  (Cursor.ofBatch log.rows log.more).landings log.moves

/-- The log once a call has been made that brings no batch. -/
def called (log : Log) (move? : Option Move) : Log :=
  { log with moves := log.moves ++ move?.toList }

/-- The log once a step forward has brought a batch. -/
def turned (log : Log) (reply : FetchReply) : Log :=
  { earlier := log.earlier ++ log.rows, rows := reply.rows, more := reply.hasMore,
    moves := [.advance] }

theorem cursor_called (log : Log) (move? : Option Move) :
    (log.called move?).cursor = log.cursor.run move?.toList :=
  List.foldl_append

/-- The cursor of a log has lost what its steps forward tell, and nothing else. -/
theorem tracks (log : Log) : log.cursor.Tracks log.rows log.landed :=
  (Cursor.tracks_ofBatch log.rows log.more).run log.moves

end Log

namespace ResultSet

variable {rs rs' : ResultSet} {call : ResultCall} {move : Move} {aim p q : Int} {log : Log}
  {text : String} {st : Statement} {reply : FetchReply}

/-! ## Calls and moves -/

/-- The move that a call makes, which is none on an aborted result. -/
def moved? (rs : ResultSet) (call : ResultCall) : Option Move :=
  if rs.aborted then none else call.move?

/-- A call is a step forward that brings the next batch. -/
def Fetches (call : ResultCall) (rs : ResultSet) (reply : FetchReply) : Prop :=
  call = .next ∧ ∃ moved rs', next rs = (.done moved, rs') ∧
    Statement.fetch rs.columns.length rs.statement = (.done reply, rs'.statement)

/-- A result after any calls, with the log of its batch. -/
inductive Visited (text : String) (st : Statement) : ResultSet → Log → Prop where
  | opened {st' : Statement} {rs : ResultSet} {reply : ExecuteReply} {columns : List Descriptor}
      (ran : Statement.run text st = (.done (reply, columns), st'))
      (queried : Statement.query text st = (.done rs, st')) :
      Visited text st rs ⟨[], reply.rows.getD [], reply.hasMore, []⟩
  | called {rs : ResultSet} {log : Log} (before : Visited text st rs log) (call : ResultCall)
      (still : ∀ reply, ¬Fetches call rs reply) :
      Visited text st (perform call rs).2 (log.called (rs.moved? call))
  | fetched {rs : ResultSet} {log : Log} (before : Visited text st rs log) {call : ResultCall}
      {reply : FetchReply} (fetches : Fetches call rs reply) :
      Visited text st (perform call rs).2 (log.turned reply)

/-- A fetch leaves a trace, so what leaves the statement as it is has not fetched. -/
theorem not_fetches_of_statement (same : (next rs).2.statement = rs.statement)
    (reply : FetchReply) : ¬Fetches call rs reply := by
  rintro ⟨-, moved, rs', made, hfetch⟩
  rw [made] at same
  exact Statement.ne_of_fetch hfetch same

/-- Every call goes on in the log. -/
theorem exists_visited (h : Visited text st rs log) (call : ResultCall) :
    ∃ log', Visited text st (perform call rs).2 log' := by
  by_cases fetches : ∃ reply, Fetches call rs reply
  · obtain ⟨reply, fetches⟩ := fetches
    exact ⟨_, h.fetched fetches⟩
  · exact ⟨_, h.called call fun reply hreply => fetches ⟨reply, hreply⟩⟩

/-- A call that names a position names that of its move. -/
theorem target?_of_move? (moves : call.move? = some move)
    (named : move.aim? rs.cursor.total rs.cursor.position = some aim) :
    target? rs.cursor call = some aim := by
  cases call with
  | previous | relative | first =>
    cases moves
    exact named
  | absolute row =>
    cases moves
    rw [← named, target?, Cursor.positionOf_eq]
    rfl
  | last =>
    cases moves
    rw [← named, target?, Cursor.positionOf_eq]
    rfl
  | next | beforeFirst | afterLast =>
    cases moves
    cases named
  | _ => cases moves

theorem perform_leave_state (live : rs.aborted = false) (f : Cursor → Cursor) :
    ((leave f >>= fun _ => pure ResultAnswer.left) rs).2 = { rs with cursor := f rs.cursor } := by
  rw [seq_left_state, leave, check_of_live live]

/-- A call that moves and is no step forward makes the move and nothing else. -/
theorem perform_state_of_move? (live : rs.aborted = false) (moves : call.move? = some move)
    (other : move ≠ .advance) :
    (perform call rs).2 = { rs with cursor := rs.cursor.after move } := by
  cases named : move.aim? rs.cursor.total rs.cursor.position with
  | some aim =>
    have goal := target?_of_move? moves named
    cases gone : rs.cursor.isReleased (rs.cursor.clamp aim) with
    | true => rw [perform_of_isReleased live goal gone, Cursor.after_of_aim_lost named gone]
    | false =>
      rw [perform_of_held live goal gone, Cursor.after_of_aim_held named gone]
      rfl
  | none =>
    cases call with
    | next =>
      cases moves
      exact absurd rfl other
    | beforeFirst | afterLast =>
      cases moves
      exact perform_leave_state live _
    | previous | absolute | relative | first | last =>
      cases moves
      cases named
    | _ => cases moves

/-- A call that does not move changes nothing. -/
theorem perform_state_of_move?_none (moves : call.move? = none) : (perform call rs).2 = rs := by
  cases call with
  | next | previous | absolute | relative | first | last | beforeFirst | afterLast => cases moves
  | _ => rfl

/-! ## Steps forward -/

/-- A step that does not reach a row leaves the cursor where it would go by itself. -/
theorem cursor_of_past (hrow : rs.cursor.isRow (rs.cursor.position + 1) = false)
    (past : rs.cursor.Past p) : rs.cursor.after .advance = (rs.passed p).cursor := by
  obtain ⟨q, past', hadv⟩ := advance_eq_passed hrow
  rw [Cursor.after, Cursor.go, hadv, past.unique past']

/-- A step forward that brings no batch makes its move and leaves the rows before uncounted. -/
theorem next_of_not_fetches (live : rs.aborted = false) (still : ∀ reply, ¬Fetches .next rs reply) :
    (next rs).2.cursor = rs.cursor.after .advance ∧ (next rs).2.rowOffset = rs.rowOffset := by
  cases hnext : next rs with
  | mk outcome rs' =>
  cases case_of_next hnext with
  | refused aborted =>
    rw [live] at aborted
    cases aborted
  | within _ hrow =>
    rw [Cursor.after, Cursor.go, Cursor.advance_of_isRow hrow]
    exact ⟨rfl, rfl⟩
  | fetched _ _ _ hfetch => exact absurd ⟨rfl, _, _, hnext, hfetch⟩ (still _)
  | last _ hrow _ past | failed _ hrow _ past | suspended _ hrow _ past =>
    rw [cursor_of_past hrow past]
    exact ⟨rfl, rfl⟩

/-- A step forward that brings a batch makes its move over it and counts the rows of the old one. -/
theorem next_of_fetches (h : Fetches .next rs reply) :
    (next rs).2.cursor = (Cursor.ofBatch reply.rows reply.hasMore).after .advance ∧
      (next rs).2.rowOffset = rs.rowOffset + rs.cursor.total := by
  obtain ⟨-, moved, rs', made, hfetch⟩ := h
  have asked : rs'.statement ≠ rs.statement := Statement.ne_of_fetch hfetch
  rw [made]
  cases case_of_next made with
  | within | last => exact absurd rfl asked
  | fetched _ _ _ hfetch' =>
    cases hfetch.symm.trans hfetch'
    rw [Cursor.after, Cursor.go, Cursor.advance_ofBatch]
    exact ⟨rfl, rfl⟩

/-! ## What is kept -/

/-- The log tells the cursor, and how many rows came before the batch. -/
structure Kept (log : Log) (rs : ResultSet) : Prop where
  cursor : rs.cursor = log.cursor
  offset : rs.rowOffset = log.earlier.length

namespace Kept

/-- A call that brings no batch makes its move, if it makes one. -/
theorem called (h : rs.Kept log) (call : ResultCall) (still : ∀ reply, ¬Fetches call rs reply) :
    (perform call rs).2.Kept (log.called (rs.moved? call)) := by
  suffices stays : (perform call rs).2.cursor = rs.cursor.run (rs.moved? call).toList ∧
      (perform call rs).2.rowOffset = rs.rowOffset by
    exact ⟨by rw [Log.cursor_called, stays.1, h.cursor], stays.2.trans h.offset⟩
  cases live : rs.aborted with
  | true =>
    rw [perform_state_of_aborted live, moved?, live]
    exact ⟨rfl, rfl⟩
  | false =>
    rw [moved?, live]
    cases moves : call.move? with
    | none =>
      rw [perform_state_of_move?_none moves]
      exact ⟨rfl, rfl⟩
    | some move =>
      by_cases step : call = .next
      · subst step
        cases moves
        rw [perform_next_state]
        exact next_of_not_fetches live still
      · have other : move ≠ .advance := by
          rintro rfl
          cases call with
          | next => exact step rfl
          | _ => cases moves
        rw [perform_state_of_move? live moves other]
        exact ⟨rfl, rfl⟩

/-- A call that brings a batch begins a new log with the rows of the last one before it. -/
theorem fetched (h : rs.Kept log) (fetches : Fetches call rs reply) :
    (perform call rs).2.Kept (log.turned reply) := by
  obtain ⟨rfl, -⟩ := id fetches
  obtain ⟨cursor, offset⟩ := next_of_fetches fetches
  rw [perform_next_state]
  refine ⟨cursor, ?_⟩
  have total : rs.cursor.total = log.rows.length := by rw [h.cursor, log.tracks.total]
  rw [offset, h.offset, total, Log.turned, List.length_append]

end Kept

/-- Every result that is reached keeps to the log of how it was reached. -/
theorem kept_of_visited (h : Visited text st rs log) : rs.Kept log := by
  induction h with
  | opened ran queried =>
    obtain ⟨reply, columns, ran', rfl⟩ := Statement.query_eq_done_iff.1 queried
    cases ran.symm.trans ran'
    exact ⟨rfl, rfl⟩
  | called _ call still ih => exact ih.called call still
  | fetched _ fetches ih => exact ih.fetched fetches

/-! ## Numbers across all batches -/

theorem row_eq_ok_iff (live : rs.aborted = false) {row : Row} :
    rs.row = .ok row ↔ rs.cursor.current = .ok row := by
  rw [row_of_live live]
  cases rs.cursor.current <;> simp

/-- A read of a row that is gone is refused as the cursor refuses it, counted on. -/
theorem row_eq_rowReleased_iff (live : rs.aborted = false) {n : Nat} :
    rs.row = .error (.rowReleased n) ↔
      ∃ m, rs.cursor.current = .error (.rowReleased m) ∧ n = rs.rowOffset + m := by
  rw [row_of_live live]
  cases rs.cursor.current with
  | ok row => simp
  | error e => cases e <;> simp [acrossBatches, eq_comm]

/-- What moves and reads come to on a result, of which `log` tells the batch. -/
structure Counts (log : Log) (rs : ResultSet) : Prop where
  cursor : rs.cursor = log.cursor
  /-- A call that names a row that is gone is refused with its number among all rows. -/
  refuses : rs.aborted = false → ∀ call move aim, call.move? = some move →
    move.aim? log.rows.length rs.cursor.position = some aim →
    Lost log.landed (within log.rows.length aim) → perform call rs =
      (.failed (.rowReleased (log.earlier.length + (within log.rows.length aim).toNat + 1)), rs)
  /-- Any other call that names a position goes there and changes nothing else. -/
  goes : rs.aborted = false → ∀ call move aim, call.move? = some move →
    move.aim? log.rows.length rs.cursor.position = some aim →
    ¬Lost log.landed (within log.rows.length aim) → perform call rs =
      (.done (.moved (decide (0 ≤ within log.rows.length aim ∧
        within log.rows.length aim < log.rows.length))),
      { rs with cursor := { rs.cursor with position := within log.rows.length aim } })
  /-- On a row that is gone, reading is refused with that number as well. -/
  lost : rs.aborted = false → ∀ n, rs.row = .error (.rowReleased n) ↔
    Lost log.landed rs.cursor.position ∧
      n = log.earlier.length + rs.cursor.position.toNat + 1
  /-- Any other row is read as it came. -/
  reads : rs.aborted = false → ∀ row, rs.row = .ok row ↔ 0 ≤ rs.cursor.position ∧
    log.rows[rs.cursor.position.toNat]? = some row ∧ ¬Lost log.landed rs.cursor.position

namespace Kept

theorem tracks (h : rs.Kept log) : rs.cursor.Tracks log.rows log.landed :=
  h.cursor ▸ log.tracks

/-- A result that keeps to its log counts its rows as the log does. -/
theorem counts (h : rs.Kept log) : rs.Counts log where
  cursor := h.cursor
  refuses live call move aim moves named lost := by
    rw [← h.tracks.total] at named
    rw [← h.tracks.clamp_eq] at lost ⊢
    rw [perform_of_isReleased live (target?_of_move? moves named)
      (h.tracks.isReleased_iff.2 lost), numberAt, h.offset]
  goes live call move aim moves named kept := by
    rw [← h.tracks.total] at named
    rw [← h.tracks.clamp_eq] at kept
    rw [← h.tracks.isRow_eq, ← h.tracks.clamp_eq, perform_of_held live
      (target?_of_move? moves named) (h.tracks.isReleased_eq_false_iff.2 kept)]
    rfl
  lost live n := by
    rw [row_eq_rowReleased_iff live]
    simp only [h.tracks.reading.eq_rowReleased_iff, h.offset]
    constructor
    · rintro ⟨_, ⟨lost, rfl⟩, rfl⟩
      exact ⟨lost, rfl⟩
    · rintro ⟨lost, rfl⟩
      exact ⟨_, ⟨lost, rfl⟩, rfl⟩
  reads live row := by
    rw [row_eq_ok_iff live]
    exact h.tracks.reading.eq_ok_iff

end Kept

/-- A cursor over any batch keeps its history through any moves, and wherever calls on a result have
led, the numbers in refused moves and reads count the rows of all batches. -/
theorem history_counts (log : Log) : log.cursor.History log.rows log.landed ∧
    ∀ text st rs, Visited text st rs log → rs.Counts log :=
  ⟨log.tracks.history, fun _ _ _ visited => (kept_of_visited visited).counts⟩

/-- Over the second batch the third step forward lets go of its first row, the third row of all. -/
theorem history_counts_second :
    let st := Statement.serving [Statement.answer [[65], [66]] true,
      Statement.continued [[67], [68], [69]] false]
    ∃ rs log, Visited "SELECT n" st rs log ∧ log.cursor.History log.rows log.landed ∧
      rs.Counts log ∧ log.earlier.length = 2 ∧ log.landed = [0, 1, 2] ∧
      perform .first rs = (.failed (.rowReleased 3), rs) := by
  intro st
  obtain ⟨opened, st', queried, made⟩ := Outcome.exists_of_holds
    (x := Statement.query "SELECT n" st)
    (p := fun rs =>
      let a := (perform .next rs).2
      let b := (perform .next a).2
      let c := (perform .next b).2
      let d := (perform .next c).2
      decide (rs.cursor.total = 2 ∧ (next rs).2.statement = rs.statement ∧
        (next a).2.statement = a.statement ∧
        next b = (.done true, c) ∧ Statement.fetch b.columns.length b.statement =
          (.done ⟨[[some [67]], [some [68]], [some [69]]], false⟩, c.statement) ∧
        (next c).2.statement = c.statement ∧ (next d).2.statement = d.statement ∧
        c.aborted = false ∧ d.aborted = false ∧ (perform .next d).2.aborted = false))
    (by decide +kernel)
  obtain ⟨two, stillA, stillB, step, fetched, stillD, stillE, liveC, liveD, live⟩ :=
    of_decide_eq_true made
  obtain ⟨reply, columns, ran, rfl⟩ := Statement.query_eq_done_iff.1 queried
  have visited := ((((Visited.opened ran queried).called .next
    (not_fetches_of_statement stillA)).called .next
    (not_fetches_of_statement stillB)).fetched ⟨rfl, _, _, step, fetched⟩).called .next
    (not_fetches_of_statement stillD) |>.called .next (not_fetches_of_statement stillE)
  have advances (rs : ResultSet) (live : rs.aborted = false) : rs.moved? .next = some .advance := by
    rw [moved?, live]
    rfl
  rw [advances _ liveC, advances _ liveD] at visited
  obtain ⟨history, counts⟩ := history_counts _
  have counts := counts _ _ _ visited
  have earlier : (reply.rows.getD []).length = 2 := by
    simpa [Cursor.total, Cursor.ofBatch] using two
  have landed : (Cursor.ofBatch [[some [67]], [some [68]], [some [69]]] false).landings
      [.advance, .advance, .advance] = [0, 1, 2] := by decide
  refine ⟨_, _, visited, history, counts, earlier, landed, ?_⟩
  have lost : Lost [0, 1, 2] 0 := ⟨2, by decide, by omega, rfl⟩
  rw [← landed] at lost
  have refused := counts.refuses live .first .first 0 rfl rfl lost
  have number : (reply.rows.getD []).length + 0 + 1 = 3 := by rw [earlier]
  exact number ▸ refused

end ResultSet

end SqlWire
