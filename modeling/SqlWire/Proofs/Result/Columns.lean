import SqlWire.Proofs.Result.Navigation
import SqlWire.Proofs.Session.Execution

/-!
# Rows as wide as the columns

The octets of a batch are cut into rows by a number of columns that comes from three places : what
the reply describes, what is remembered of the query, and, for a fetch, the columns of the result
itself. Each time it is the number of the columns that the result tells (`aligned_of_query`,
`Aligned.perform`), so of the rows that are held none is ever longer or shorter (`run_matches`),
whatever was remembered before.

Hence a cell of the current row is missing exactly if its column is (`value_of_row`).
-/

namespace SqlWire.ResultSet

variable {rs rs' : ResultSet} {call : ResultCall} {row : Row} {i : Nat}

/-- Every row that is held has a cell for each column. -/
def Aligned (rs : ResultSet) : Prop :=
  ∀ row, some row ∈ rs.cursor.rows → row.length = rs.columns.length

/-! ## Calls -/

/-- What a call can make of the rows that are held : it leaves them, or lets go of one, or the next
batch takes their place, which was cut by the columns of the result. -/
inductive Replaced (rs : ResultSet) : List (Option Row) → Prop where
  | kept : Replaced rs rs.cursor.rows
  | released (i : Nat) : Replaced rs (rs.cursor.rows.set i none)
  | fetched {st : Statement} {reply : FetchReply}
      (h : Statement.fetch rs.columns.length rs.statement = (.done reply, st)) :
      Replaced rs (reply.rows.map some)

theorem replaced_onto (rs : ResultSet) (p : Int) : rs.Replaced (rs.onto p).cursor.rows := by
  simp only [onto, Cursor.onto]
  split
  · exact .released _
  · exact .kept

/-- A step forward keeps the columns, whatever else comes of it. -/
theorem replaced_next (rs : ResultSet) :
    (next rs).2.columns = rs.columns ∧ rs.Replaced (next rs).2.cursor.rows := by
  cases hnext : next rs with
  | mk outcome rs' =>
  cases case_of_next hnext with
  | within => exact ⟨rfl, replaced_onto rs _⟩
  | fetched _ _ _ hfetch => exact ⟨rfl, .fetched hfetch⟩
  | refused | last | failed | suspended => exact ⟨rfl, .kept⟩

/-- A call that is no step forward leaves the rows alone. -/
theorem perform_state_of_ne_next (h : call ≠ .next) (rs : ResultSet) :
    (perform call rs).2 = rs ∨ ∃ p, (perform call rs).2 = rs.passed p := by
  obtain ⟨q, goal⟩ | ⟨state, -⟩ := (perform_cases call rs).resolve_left h
  · cases live : rs.aborted with
    | true => exact Or.inl (by rw [perform_of_aborted live goal])
    | false =>
      cases gone : rs.cursor.isReleased (rs.cursor.clamp q) with
      | true => exact Or.inl (by rw [perform_of_isReleased live goal gone])
      | false => exact Or.inr ⟨_, by rw [perform_of_held live goal gone]⟩
  · exact state.imp_right fun ⟨p, _, _, left⟩ => ⟨p, left⟩

/-- Every call keeps the columns too. -/
theorem replaced_perform (call : ResultCall) (rs : ResultSet) :
    (perform call rs).2.columns = rs.columns ∧ rs.Replaced (perform call rs).2.cursor.rows := by
  by_cases hc : call = .next
  · rw [hc, perform_next_state]
    exact replaced_next rs
  · obtain same | ⟨p, left⟩ := perform_state_of_ne_next hc rs
    · rw [same]
      exact ⟨rfl, .kept⟩
    · rw [left]
      exact ⟨rfl, .kept⟩

/-- What every call keeps is kept by calls in any order. -/
theorem run_of_perform {P : ResultSet → Prop}
    (step : ∀ rs call, P rs → P (perform call rs).2) (h : P rs) (calls : List ResultCall) :
    P (rs.run calls).2 := by
  induction calls generalizing rs with
  | nil => exact h
  | cons call calls ih => exact ih (step rs call h)

/-- A result begins with rows of its own columns. -/
theorem aligned_of_query {text : String} {st st' : Statement}
    (h : Statement.query text st = (.done rs, st')) : rs.Aligned := by
  obtain ⟨reply, columns, ran, rfl⟩ := Statement.query_eq_done_iff.1 h
  obtain ⟨-, s, replied, rfl, -⟩ := Statement.exists_of_run ran
  intro row hrow
  obtain ⟨_, held, ⟨⟩⟩ := List.mem_map.1 hrow
  cases hrows : reply.rows with
  | none =>
    rw [hrows] at held
    cases held
  | some rows =>
    obtain ⟨columns, described, all⟩ := Session.allOf_of_replied replied hrows
    rw [hrows] at held
    simpa [described] using all row held

theorem Aligned.perform (h : rs.Aligned) (call : ResultCall) :
    (ResultSet.perform call rs).2.Aligned := by
  obtain ⟨columns, rows⟩ := replaced_perform call rs
  intro row hrow
  rw [columns]
  generalize (ResultSet.perform call rs).2.cursor.rows = after at rows hrow
  cases rows with
  | kept => exact h row hrow
  | released i =>
    exact h row ((List.mem_or_eq_of_mem_set hrow).resolve_right (Option.some_ne_none row))
  | fetched fetched =>
    obtain ⟨-, _, _, -, -, asked⟩ := Statement.exists_of_fetch fetched
    have all := Session.yields_ask (yields_fetchReply rs.columns.length) asked
    obtain ⟨_, held, ⟨⟩⟩ := List.mem_map.1 hrow
    exact all row held

/-- After any calls every row that is held has a cell for each column. -/
theorem Aligned.run (h : rs.Aligned) (calls : List ResultCall) : (rs.run calls).2.Aligned :=
  run_of_perform (fun _ call h => h.perform call) h calls

/-! ## Cells of the current row -/

/-- What can be read is a row that is held. -/
theorem mem_of_row (h : rs.row = .ok row) : some row ∈ rs.cursor.rows := by
  cases live : rs.aborted with
  | true =>
    simp only [ResultSet.row, check, live, if_true] at h
    cases h
  | false =>
    rw [row_of_live live] at h
    split at h
    · next current =>
      cases h
      exact List.mem_of_getElem? (Cursor.current_eq_ok_iff.1 current).2
    · cases h

/-- Behind the last column there is no value, on whatever row the cursor is. -/
theorem value_of_length_le (h : rs.columns.length ≤ i) :
    rs.value i = .error (.columnOutOfRange i rs.columns.length) := by
  simp only [value, column, List.getElem?_eq_none h]
  rfl

/-- A cell of a row that is as wide as the columns can only be unreadable. -/
theorem value_of_row (aligned : rs.Aligned) (h : rs.row = .ok row) (hi : i < rs.columns.length) :
    ∃ column cell, rs.columns[i]? = some column ∧ row[i]? = some cell ∧ rs.value i =
      named column (Value.read column.sqlType rs.order rs.charset cell) := by
  have wide : i < row.length := (aligned row (mem_of_row h)).symm ▸ hi
  refine ⟨_, _, List.getElem?_eq_getElem hi, List.getElem?_eq_getElem wide, ?_⟩
  simp only [value, cell, column, List.getElem?_eq_getElem hi, h, Bind.bind, Except.bind,
    List.getElem?_eq_getElem wide]
  rfl

theorem named_ne_columnOutOfRange {α : Type} {column : Descriptor} {x : Except Unreadable α}
    {index count : Nat} : named column x ≠ .error (.columnOutOfRange index count) := by
  cases x <;> simp [named]

/-- What is made of a list piece by piece succeeds exactly if every piece does. -/
theorem mapM_eq_ok_iff {ε α β : Type} {f : α → Except ε β} {as : List α} {bs : List β} :
    as.mapM f = .ok bs ↔ as.map f = bs.map .ok := by
  induction as generalizing bs with
  | nil => cases bs <;> simp [pure, Except.pure]
  | cons a as ih =>
    rw [List.mapM_cons]
    cases ha : f a with
    | error e => cases bs <;> simp [bind, Except.bind, ha]
    | ok b =>
      cases hr : as.mapM f with
      | error e =>
        have none (rest : List β) : as.map f ≠ rest.map .ok := fun h => by
          rw [ih.2 h] at hr
          cases hr
        cases bs <;> simp [bind, Except.bind, ha, none]
      | ok rest =>
        have one (bs : List β) : as.map f = bs.map .ok ↔ rest = bs := by
          rw [← ih, hr, Except.ok.injEq]
        cases bs <;> simp [bind, Except.bind, pure, Except.pure, ha, one]

/-- All values together are the value of each column, in the order of the columns. -/
theorem values_eq_ok_iff {vs : List Value} : rs.values = .ok vs ↔
    vs.length = rs.columns.length ∧ ∀ i v, vs[i]? = some v → rs.value i = .ok v := by
  rw [values, mapM_eq_ok_iff]
  constructor
  · intro h
    have len : vs.length = rs.columns.length := by simpa using (congrArg List.length h).symm
    refine ⟨len, fun i v hv => ?_⟩
    have at_i := congrArg (·[i]?) h
    have bound : i < rs.columns.length := len ▸ (List.getElem?_eq_some_iff.1 hv).1
    simpa [hv, bound] using at_i
  · rintro ⟨len, each⟩
    refine List.ext_getElem (by simp [len]) fun i _ hi => ?_
    rw [List.length_map] at hi
    simp [each i _ (List.getElem?_eq_getElem hi)]

/-- If the value of every column can be read, so can all values together. -/
theorem exists_values (h : ∀ i < rs.columns.length, ∃ v, rs.value i = .ok v) :
    ∃ vs, rs.values = .ok vs := by
  have : Nonempty Value := ⟨.null⟩
  choose! read hread using h
  refine ⟨(List.range rs.columns.length).map read, values_eq_ok_iff.2 ⟨by simp, fun i v hv => ?_⟩⟩
  obtain ⟨bound, rfl⟩ := List.getElem?_eq_some_iff.1 hv
  simp only [List.length_map, List.length_range] at bound
  simpa using hread i bound

/-- What holds of a result whose rows match its columns. -/
structure Matches (rs : ResultSet) : Prop where
  /-- A row that was not let go has a cell for each column. -/
  held : ∀ row, some row ∈ rs.cursor.rows → row.length = rs.columns.length
  row : ∀ row, rs.row = .ok row → row.length = rs.columns.length
  /-- On a row that can be read, a value is out of range exactly if its column is. -/
  outOfRange : ∀ row, rs.row = .ok row → ∀ i,
    (∃ index count, rs.value i = .error (.columnOutOfRange index count)) ↔ rs.columns.length ≤ i
  /-- If the value of every column can be read, so can all together : one for each column. -/
  values : ∀ row, rs.row = .ok row → (∀ i < rs.columns.length, ∃ v, rs.value i = .ok v) →
    ∃ vs, rs.values = .ok vs ∧ vs.length = rs.columns.length ∧
      ∀ i v, vs[i]? = some v → rs.value i = .ok v

/-- If the rows have a cell for each column, a column is out of range by its index alone. -/
theorem Aligned.matches (h : rs.Aligned) : rs.Matches where
  held := h
  row row hrow := h row (mem_of_row hrow)
  outOfRange row hrow i := by
    constructor
    · rintro ⟨index, count, hv⟩
      by_contra inside
      obtain ⟨column, cell, -, -, read⟩ := value_of_row h hrow (Nat.lt_of_not_le inside)
      exact named_ne_columnOutOfRange (read.symm.trans hv)
    · intro outside
      exact ⟨_, _, value_of_length_le outside⟩
  values row hrow each := by
    obtain ⟨vs, all⟩ := exists_values each
    exact ⟨vs, all, values_eq_ok_iff.1 all⟩

/-- Whatever a session remembers of a query, and whatever is called on its result, the rows of the
result match its columns. -/
theorem run_matches {text : String} {st st' : Statement}
    (queried : Statement.query text st = (.done rs, st')) (calls : List ResultCall) :
    (rs.run calls).2.Matches :=
  ((aligned_of_query queried).run calls).matches

/-- The columns are described with the first execution, remembered for the second one, and those of
the result for the fetch behind it. -/
theorem run_matches_table :
    let st := Statement.serving [Statement.answer [[65]] false,
      [.i32 7, .u32 6, .u64 0] ++ Statement.batch [[66]], Statement.continued [[67]] false]
    let again := (Statement.query "SELECT n" st).2
    ∃ rs, Statement.query "SELECT n" again = (.done rs, rs.statement) ∧
      (rs.run [.next, .next]).2.Matches ∧ (rs.run [.next, .next]).2.row = .ok [some [67]] := by
  intro st again
  obtain ⟨rs, st', queried, row⟩ := Outcome.exists_of_holds
    (x := Statement.query "SELECT n" again)
    (p := fun rs => decide ((rs.run [.next, .next]).2.row = .ok [some [67]]))
    (by decide +kernel)
  obtain ⟨reply, columns, -, rfl⟩ := Statement.query_eq_done_iff.1 queried
  exact ⟨_, queried, run_matches queried _, of_decide_eq_true row⟩

end SqlWire.ResultSet
