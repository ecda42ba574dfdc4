import SqlWire.Proofs.Result.Steps
import SqlWire.Session.Script

/-!
# After a failed fetch

A step forward that fails has aborted its result (`aborted_of_next`), and an aborted result is
changed by no call any more (`perform_state_of_aborted`). So whatever is called on it later, in any
order, is answered as if it were called at once (`next_poisons`).

Moves and the current row are refused because the fetch has failed. So are the cells of the columns
that there are. A column that there is not is refused for that reason first, and where there are no
columns at all there is no cell to refuse : all values together are none.
-/

namespace SqlWire

namespace ResultCall

/-- Whether a call moves the cursor. -/
def moves : ResultCall → Bool
  | next | previous | first | last | beforeFirst | afterLast | absolute _ | relative _ => true
  | _ => false

/-- The column whose cell a call reads. -/
def column? : ResultCall → Option Nat
  | raw index | isNull index | value index | signed index | unsigned index | float index
  | boolean index | decimal index | date index | time index | timestamp index | text index
  | octets index => some index
  | _ => none

end ResultCall

namespace ResultSet

variable {rs rs' : ResultSet} {call : ResultCall} {e : Error}

/-- A step forward that fails leaves an aborted result. -/
theorem aborted_of_next (h : next rs = (.failed e, rs')) : rs'.aborted = true := by
  cases step_of_next h with
  | refused aborted => exact aborted
  | failed => rfl

/-! ## Moves -/

theorem move_of_aborted (h : rs.aborted = true) (f : Cursor → Except Error (Bool × Cursor)) :
    move f rs = (.failed .resultAborted, rs) := by
  simp [move, check, h]

theorem leave_of_aborted (h : rs.aborted = true) (f : Cursor → Cursor) :
    leave f rs = (.failed .resultAborted, rs) := by
  simp [leave, check, h]

/-- A result whose fetch has failed refuses every call that would move the cursor. -/
theorem perform_of_moves (h : rs.aborted = true) (moves : call.moves = true) :
    perform call rs = (.failed .resultAborted, rs) := by
  cases call with
  | next => exact Action.bind_of_failed (next_of_aborted h)
  | previous | first | last | absolute | relative =>
    exact Action.bind_of_failed (move_of_aborted h _)
  | beforeFirst | afterLast => exact Action.bind_of_failed (leave_of_aborted h _)
  | _ => cases moves

/-- An aborted result stays as it is. -/
theorem perform_state_of_aborted (h : rs.aborted = true) (call : ResultCall) :
    (perform call rs).2 = rs := by
  cases moves : call.moves with
  | true => rw [perform_of_moves h moves]
  | false =>
    cases call with
    | next | previous | first | last | beforeFirst | afterLast | absolute | relative => cases moves
    | _ => rfl

/-! ## Reads -/

theorem rowNumber_of_aborted (h : rs.aborted = true) : rs.rowNumber? = none := by
  simp [rowNumber?, h]

theorem row_of_aborted (h : rs.aborted = true) : rs.row = .error .resultAborted := by
  simp only [row, check, h, if_true]
  rfl

/-- Why a cell of an aborted result cannot be read : the column is looked up first. -/
def refusal (rs : ResultSet) (index : Nat) : Error :=
  if index < rs.columns.length then .resultAborted
  else .columnOutOfRange index rs.columns.length

/-- A cell is refused too, but its column is looked at first. -/
theorem cell_of_aborted (h : rs.aborted = true) (index : Nat) :
    rs.cell index = .error (rs.refusal index) := by
  unfold cell column refusal
  split_ifs with present
  · rw [List.getElem?_eq_getElem present, row_of_aborted h]
    rfl
  · rw [List.getElem?_eq_none (Nat.le_of_not_lt present)]
    rfl

theorem value_of_aborted (h : rs.aborted = true) (index : Nat) :
    rs.value index = .error (rs.refusal index) := by
  unfold value
  rw [cell_of_aborted h]
  unfold column refusal
  split_ifs with present
  · rw [List.getElem?_eq_getElem present]
    rfl
  · rw [List.getElem?_eq_none (Nat.le_of_not_lt present)]
    rfl

/-- A result without columns has nothing to refuse and gives the empty row. -/
theorem values_of_aborted (h : rs.aborted = true) : rs.values =
    if rs.columns = [] then .ok [] else .error .resultAborted := by
  unfold values
  split_ifs with none
  · rw [none]
    rfl
  · have some : 0 < rs.columns.length := List.length_pos_iff.2 none
    rw [← Nat.sub_add_cancel some, List.range_succ_eq_map, List.mapM_cons, value_of_aborted h,
      refusal, if_pos some]
    rfl

/-- Every call that reads a cell is refused as the cell is. -/
theorem perform_of_column (h : rs.aborted = true) {index : Nat}
    (reads : call.column? = some index) :
    perform call rs = (.failed (rs.refusal index), rs) := by
  cases call with
  | raw | octets | isNull | value | signed | unsigned | float | boolean | decimal | date | time
  | timestamp | text =>
    cases reads
    simp only [perform, look, lookTyped, isNull, typed, text, cell_of_aborted h, value_of_aborted h]
    rfl
  | _ => cases reads

/-! ## Calls in a row -/

/-- What holds of a result once a fetch has failed. -/
structure Poisoned (rs : ResultSet) : Prop where
  /-- Calls in any order are answered as each of them is alone. -/
  answers : ∀ calls, (rs.run calls).1.map (·.outcome) = calls.map fun call => (perform call rs).1
  /-- They leave the result as it is, write nothing, and find it on no row. -/
  inert : ∀ calls, (rs.run calls).2 = rs ∧
    ∀ report ∈ (rs.run calls).1, report.sent = [] ∧ report.rowNumber = none ∧ report.aborted = true
  number : rs.rowNumber? = none
  moves : ∀ call, call.moves = true → (perform call rs).1 = .failed .resultAborted
  row : (perform .row rs).1 = .failed .resultAborted
  /-- A column that there is not is refused as such. -/
  cells : ∀ call index, call.column? = some index → (perform call rs).1 = .failed
    (if index < rs.columns.length then .resultAborted
      else .columnOutOfRange index rs.columns.length)
  /-- Without columns there is nothing to refuse. -/
  values : (perform .values rs).1 =
    if rs.columns = [] then .done (.values []) else .failed .resultAborted

/-- Each of any number of calls comes to what it comes to alone, and nothing is sent. -/
theorem run_of_aborted (h : rs.aborted = true) (calls : List ResultCall) :
    rs.run calls = (calls.map fun call =>
      { outcome := (perform call rs).1
        sent := []
        rowNumber := none
        hasMore := rs.hasMore
        aborted := true }, rs) := by
  induction calls with
  | nil => rfl
  | cons call calls ih =>
    have same := perform_state_of_aborted h call
    simp only [run, same, ih, List.map_cons, rowNumber_of_aborted h, h, sentBetween,
      List.drop_length]

/-- A result whose fetch has failed is of no use any more, whatever is called on it. -/
theorem next_poisons (failed : next rs = (.failed e, rs')) : rs'.Poisoned where
  answers calls := by
    rw [run_of_aborted (aborted_of_next failed), List.map_map]
    rfl
  inert calls := by
    rw [run_of_aborted (aborted_of_next failed)]
    refine ⟨rfl, fun report hreport => ?_⟩
    obtain ⟨call, -, rfl⟩ := List.mem_map.1 hreport
    exact ⟨rfl, rfl, rfl⟩
  number := rowNumber_of_aborted (aborted_of_next failed)
  moves call moves := by rw [perform_of_moves (aborted_of_next failed) moves]
  row := by
    simp only [perform, look, row_of_aborted (aborted_of_next failed)]
    rfl
  cells call index reads := by
    rw [perform_of_column (aborted_of_next failed) reads]
    rfl
  values := by
    simp only [perform, look, values_of_aborted (aborted_of_next failed)]
    split_ifs <;> rfl

/-- The stream ends where the second batch should come. The one column of the result is refused for
the fetch, and the next one because there is none. -/
theorem next_poisons_table :
    let st := Statement.serving [Statement.answer [[65]] true]
    ∃ rs rs', Statement.query "SELECT n" st = (.done rs, rs.statement) ∧
      next (next rs).2 = (.failed .connectionClosed, rs') ∧ rs'.Poisoned ∧
      (perform (.value 0) rs').1 = .failed .resultAborted ∧
      (perform (.value 1) rs').1 = .failed (.columnOutOfRange 1 1) := by
  intro st
  obtain ⟨rs, st', queried, made⟩ := Outcome.exists_of_holds
    (x := Statement.query "SELECT n" st)
    (p := fun rs => decide (rs.columns.length = 1 ∧
      (next (next rs).2).1 = .failed .connectionClosed ∧
      (next (next rs).2).2.columns.length = 1))
    (by decide +kernel)
  obtain ⟨-, failed, one⟩ := of_decide_eq_true made
  obtain ⟨reply, columns, -, rfl⟩ := Statement.query_eq_done_iff.1 queried
  have poisoned := next_poisons (Prod.ext failed rfl)
  refine ⟨_, _, queried, Prod.ext failed rfl, poisoned, ?_, ?_⟩
  · rw [poisoned.cells (.value 0) 0 rfl, one]
    rfl
  · rw [poisoned.cells (.value 1) 1 rfl, one]
    rfl

end ResultSet

end SqlWire
