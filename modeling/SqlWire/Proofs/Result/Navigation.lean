import SqlWire.Proofs.Result.Steps
import SqlWire.Session.Script

/-!
# Where a call can end

`Navigated text st rs landed` : some calls on the result of a query have led to `rs`, and the steps
forward among them ended on the rows numbered `landed`. Since a step forward lets go of the row two
places back, the row numbered `n` of the batch is gone exactly if `n + 2` is among them
(`Navigable.released`).

A call that names its target refuses a row that is gone and leaves the result as it was. A step
forward does not look : it ends on the row all the same, where nothing can be read. In every other
case a call that ends on a row can read it (`navigated_reads`). So it takes a way back before such a
row to step onto it, as `Cursor.beforeFirst` is (`navigated_reads_table`).
-/

namespace SqlWire.ResultSet

variable {rs rs' : ResultSet} {call : ResultCall} {landed : List Nat} {p q : Int} {onRow : Bool}

/-! ## The current row -/

/-- The number of the row at a position, across all batches. -/
def numberAt (rs : ResultSet) (p : Int) : Nat :=
  rs.rowOffset + p.toNat + 1

theorem rowNumber_of_onRow (live : rs.aborted = false) (h : rs.cursor.onRow = true) :
    rs.rowNumber? = some (rs.numberAt rs.cursor.position) := by
  simp [rowNumber?, live, h, numberAt]

theorem onRow_onto (hrow : rs.cursor.isRow p = true) : (rs.onto p).cursor.onRow = true := by
  rw [onto, Cursor.onRow, Cursor.position_onto, Cursor.isRow, Cursor.total_onto]
  exact hrow

theorem rowNumber_onto (live : rs.aborted = false) (hrow : rs.cursor.isRow p = true) :
    (rs.onto p).rowNumber? = some (rs.numberAt p) :=
  rowNumber_of_onRow live (onRow_onto hrow)

theorem onRow_turned (st : Statement) {reply : FetchReply} (some : reply.rows ≠ []) :
    (rs.turned st reply).cursor.onRow = true := by
  have := List.length_pos_iff.2 some
  simpa [turned, Cursor.onRow, Cursor.isRow, Cursor.total, Cursor.ofBatch] using this

theorem rowNumber_turned (live : rs.aborted = false) (st : Statement) {reply : FetchReply}
    (some : reply.rows ≠ []) :
    (rs.turned st reply).rowNumber? = Option.some (rs.rowOffset + rs.cursor.total + 1) :=
  rowNumber_of_onRow live (onRow_turned st some)

theorem row_of_live (live : rs.aborted = false) : rs.row =
    match rs.cursor.current with
    | .ok row => .ok row
    | .error e => .error (rs.acrossBatches e) := by
  simp only [row, check_of_live live]
  rfl

theorem exists_row_iff (live : rs.aborted = false) (h : rs.cursor.onRow = true) :
    (∃ row, rs.row = .ok row) ↔ rs.cursor.isReleased rs.cursor.position = false := by
  rw [← Cursor.exists_current_iff h, row_of_live live]
  cases rs.cursor.current <;> simp

theorem row_of_isReleased (live : rs.aborted = false)
    (h : rs.cursor.isReleased rs.cursor.position = true) :
    rs.row = .error (.rowReleased (rs.numberAt rs.cursor.position)) := by
  rw [row_of_live live, Cursor.current_of_isReleased h]
  rfl

/-! ## Calls that name their target -/

/-- Where in the batch a call goes that says where. -/
def target? (c : Cursor) : ResultCall → Option Int
  | .previous => some (c.position - 1)
  | .absolute row => some (c.positionOf row)
  | .relative offset => some (c.position + offset)
  | .first => some (c.positionOf 1)
  | .last => some (c.positionOf (-1))
  | _ => none

theorem move_of_isReleased (live : rs.aborted = false)
    (h : rs.cursor.isReleased (rs.cursor.clamp q) = true) : move (Cursor.moveTo · q) rs =
      (.failed (.rowReleased (rs.numberAt (rs.cursor.clamp q))), rs) := by
  simp only [move, check_of_live live, Cursor.moveTo_of_isReleased h]
  rfl

theorem move_of_held (live : rs.aborted = false)
    (h : rs.cursor.isReleased (rs.cursor.clamp q) = false) : move (Cursor.moveTo · q) rs =
      (.done (rs.cursor.isRow (rs.cursor.clamp q)), rs.passed (rs.cursor.clamp q)) := by
  simp only [move, check_of_live live, Cursor.moveTo_of_held h]
  rfl

/-- Calls that name their target differ in nothing but the target. -/
theorem perform_of_target (h : target? rs.cursor call = some q) : perform call rs =
    (move (Cursor.moveTo · q) >>= fun onRow => pure (ResultAnswer.moved onRow)) rs := by
  cases call <;> cases h <;> rfl

/-- A call that names a released row is refused, and the result stays as it is. -/
theorem perform_of_isReleased (live : rs.aborted = false) (goal : target? rs.cursor call = some q)
    (h : rs.cursor.isReleased (rs.cursor.clamp q) = true) : perform call rs =
      (.failed (.rowReleased (rs.numberAt (rs.cursor.clamp q))), rs) := by
  rw [perform_of_target goal]
  simp only [Bind.bind, Action.bind, move_of_isReleased live h]

/-- A call that names any other place goes there. -/
theorem perform_of_held (live : rs.aborted = false) (goal : target? rs.cursor call = some q)
    (h : rs.cursor.isReleased (rs.cursor.clamp q) = false) : perform call rs =
      (.done (.moved (rs.cursor.isRow (rs.cursor.clamp q))), rs.passed (rs.cursor.clamp q)) := by
  rw [perform_of_target goal, Action.bind_of_done (move_of_held live h)]
  rfl

theorem perform_of_aborted (aborted : rs.aborted = true) (goal : target? rs.cursor call = some q) :
    perform call rs = (.failed .resultAborted, rs) := by
  rw [perform_of_target goal]
  simp only [Bind.bind, Action.bind, move, check, aborted, if_true]

/-! ## Calls that do not end on a row -/

/-- To look at a result is not to move. -/
theorem look_ne_moved {α : Type} {x : Except Error α} {f : α → ResultAnswer}
    (hf : ∀ a, f a ≠ .moved onRow) :
    Outcome.ofExcept (x >>= fun a => pure (f a)) ≠ .done (.moved onRow) := by
  cases x with
  | ok a =>
    intro h
    exact hf a (by injection h)
  | error e => exact nofun

theorem leave_state (f : Cursor → Cursor) (rs : ResultSet) :
    (leave f rs).2 = rs ∨ (leave f rs).2 = { rs with cursor := f rs.cursor } := by
  unfold leave
  split
  · exact Or.inl rfl
  · exact Or.inr rfl

/-- A call that leaves the rows never tells that it is on one. -/
theorem seq_left_ne_moved (x : Action ResultSet Unit) :
    ((x >>= fun _ => pure ResultAnswer.left) rs).1 ≠ .done (.moved onRow) := by
  intro h
  obtain ⟨_, _, -, left⟩ := Action.bind_eq_done_iff.1 (Prod.ext h rfl)
  cases left

theorem seq_left_state (x : Action ResultSet Unit) :
    ((x >>= fun _ => pure ResultAnswer.left) rs).2 = (x rs).2 := by
  rcases Action.bind_cases x (fun _ => pure ResultAnswer.left) rs with ⟨_, _, hx, hb⟩ | ⟨-, hb, -⟩
  · rw [hb, hx]
    rfl
  · exact hb

/-- Every call is a step forward, names its target, or ends on no row. -/
theorem perform_cases (call : ResultCall) (rs : ResultSet) : call = .next ∨
    (∃ q, target? rs.cursor call = some q) ∨
    ((perform call rs).2 = rs ∨ ∃ p : Int, -1 ≤ p ∧ p ≤ rs.cursor.total ∧
      (perform call rs).2 = rs.passed p) ∧
    ∀ onRow, (perform call rs).1 ≠ .done (.moved onRow) := by
  cases call with
  | next => exact Or.inl rfl
  | previous | absolute | relative | first | last => exact Or.inr (Or.inl ⟨_, rfl⟩)
  | beforeFirst =>
    refine Or.inr (Or.inr ⟨?_, fun _ => seq_left_ne_moved _⟩)
    obtain h | h := leave_state Cursor.beforeFirst rs
    · exact Or.inl ((seq_left_state _).trans h)
    · exact Or.inr ⟨-1, by omega, by omega, (seq_left_state _).trans h⟩
  | afterLast =>
    refine Or.inr (Or.inr ⟨?_, fun _ => seq_left_ne_moved _⟩)
    obtain h | h := leave_state Cursor.afterLast rs
    · exact Or.inl ((seq_left_state _).trans h)
    · exact Or.inr ⟨rs.cursor.total, by omega, by omega, (seq_left_state _).trans h⟩
  | columns | columnIndex | affected => exact Or.inr (Or.inr ⟨Or.inl rfl, fun _ => nofun⟩)
  | _ => exact Or.inr (Or.inr ⟨Or.inl rfl, fun _ => look_ne_moved fun _ => nofun⟩)

/-! ## Calls in a row -/

/-- The number of the row that a call ends on, if it is a step forward. -/
def stepped : ResultCall → ResultSet → List Nat
  | .next, rs =>
    match next rs with
    | (.done true, rs') => rs'.rowNumber?.toList
    | _ => []
  | _, _ => []

/-- A result after any calls, with the numbers of the rows that its steps forward have ended on. -/
inductive Navigated (text : String) (st : Statement) : ResultSet → List Nat → Prop where
  | opened {st' : Statement} {rs : ResultSet}
      (queried : Statement.query text st = (.done rs, st')) : Navigated text st rs []
  | called {rs : ResultSet} {landed : List Nat} (before : Navigated text st rs landed)
      (call : ResultCall) : Navigated text st (perform call rs).2 (landed ++ stepped call rs)

/-- What is gone of a batch is what a step forward has left two rows behind. -/
structure Navigable (landed : List Nat) (rs : ResultSet) : Prop where
  inBounds : rs.cursor.InBounds
  released : ∀ i < rs.cursor.total,
    rs.cursor.isReleased i = true ↔ rs.numberAt i + 2 ∈ landed
  known : ∀ n ∈ landed, n ≤ rs.rowOffset + rs.cursor.total

theorem stepped_of_ne_next (h : call ≠ .next) (rs : ResultSet) : stepped call rs = [] := by
  cases call with
  | next => exact absurd rfl h
  | _ => rfl

theorem perform_next_state : (perform .next rs).2 = (next rs).2 := by
  rcases Action.bind_cases next (fun onRow => pure (ResultAnswer.moved onRow)) rs with
    ⟨_, _, hx, hb⟩ | ⟨-, hb, -⟩
  · rw [perform, hb, hx]
    rfl
  · exact hb

namespace Navigable

theorem of_passed (h : rs.Navigable landed) (low : -1 ≤ p) (high : p ≤ rs.cursor.total)
    (offset : rs'.rowOffset = rs.rowOffset) (cursor : rs'.cursor = (rs.passed p).cursor) :
    rs'.Navigable landed where
  inBounds := by
    rw [cursor]
    exact ⟨low, high⟩
  released i hi := by
    rw [numberAt, offset, cursor]
    rw [cursor] at hi
    exact h.released i hi
  known n hn := by
    rw [offset, cursor]
    exact h.known n hn

/-- A step onto a row of the batch lets go of one and takes note of that. -/
theorem onto (h : rs.Navigable landed) (hrow : rs.cursor.isRow (rs.cursor.position + 1) = true) :
    (rs.onto (rs.cursor.position + 1)).Navigable
      (landed ++ [rs.numberAt (rs.cursor.position + 1)]) where
  inBounds := h.inBounds.onto hrow
  released i hi := by
    have here := (Cursor.isRow_iff.1 hrow).1
    rw [ResultSet.onto, Cursor.total_onto] at hi
    rw [ResultSet.onto, Cursor.isReleased_onto_iff hi, h.released i hi, List.mem_append,
      List.mem_singleton]
    refine or_congr Iff.rfl ?_
    simp only [numberAt]
    omega
  known n hn := by
    have here := Cursor.isRow_iff.1 hrow
    rw [ResultSet.onto, Cursor.total_onto]
    show n ≤ rs.rowOffset + rs.cursor.total
    obtain hn | hn := List.mem_append.1 hn
    · exact h.known n hn
    · rw [List.mem_singleton.1 hn, numberAt]
      omega

/-- Of a batch that has just come nothing is gone. -/
theorem turned (h : rs.Navigable landed) (st : Statement) (reply : FetchReply) {more : List Nat}
    (first : ∀ n ∈ more, n = rs.rowOffset + rs.cursor.total + 1 ∧ reply.rows ≠ []) :
    (rs.turned st reply).Navigable (landed ++ more) := by
  have total : (rs.turned st reply).cursor.total = reply.rows.length := by
    simp [ResultSet.turned, Cursor.ofBatch, Cursor.total]
  refine ⟨⟨by simp [ResultSet.turned], by simp [ResultSet.turned]⟩, fun i hi => ?_, fun n hn => ?_⟩
  · have held : (rs.turned st reply).cursor.isReleased i = false := by
      simp [ResultSet.turned, Cursor.ofBatch, Cursor.isReleased]
    rw [held]
    refine iff_of_false Bool.false_ne_true fun hn => ?_
    have number : (rs.turned st reply).numberAt i = rs.rowOffset + rs.cursor.total + i + 1 := rfl
    rw [number] at hn
    obtain hn | hn := List.mem_append.1 hn
    · have := h.known _ hn
      omega
    · have := (first _ hn).1
      omega
  · rw [total]
    show n ≤ rs.rowOffset + rs.cursor.total + reply.rows.length
    obtain hn | hn := List.mem_append.1 hn
    · have := h.known n hn
      omega
    · obtain ⟨rfl, some⟩ := first n hn
      have := List.length_pos_iff.2 some
      omega

/-- A step forward keeps the rows in step with the numbers that were landed on. -/
theorem next (h : rs.Navigable landed) :
    (ResultSet.next rs).2.Navigable (landed ++ stepped .next rs) := by
  cases hnext : ResultSet.next rs with
  | mk outcome rs' =>
    cases step_of_next hnext with
    | refused _ =>
      simp only [stepped, hnext, List.append_nil]
      exact h
    | within live hrow =>
      simp only [stepped, hnext]
      rw [rowNumber_onto live hrow]
      exact h.onto hrow
    | past hp =>
      simp only [stepped, hnext, List.append_nil]
      exact h.of_passed (h.inBounds.past hp).1 (h.inBounds.past hp).2 rfl rfl
    | @fetched reply st moved live hmoved =>
      refine h.turned st reply fun n hn => ?_
      cases moved with
      | false => simp [stepped, hnext] at hn
      | true =>
        have some : reply.rows ≠ [] := List.isEmpty_eq_false_iff.1 (by simpa using hmoved.symm)
        simp only [stepped, hnext, rowNumber_turned live st some, Option.toList_some,
          List.mem_singleton] at hn
        exact ⟨hn, some⟩
    | failed hp =>
      simp only [stepped, hnext, List.append_nil]
      exact h.of_passed (h.inBounds.past hp).1 (h.inBounds.past hp).2 rfl rfl
    | suspended hp =>
      simp only [stepped, hnext, List.append_nil]
      exact h.of_passed (h.inBounds.past hp).1 (h.inBounds.past hp).2 rfl rfl

/-- What is gone is accounted for whatever is called. -/
theorem perform (h : rs.Navigable landed) (call : ResultCall) :
    (ResultSet.perform call rs).2.Navigable (landed ++ stepped call rs) := by
  by_cases hc : call = .next
  · rw [hc, perform_next_state]
    exact h.next
  rw [stepped_of_ne_next hc, List.append_nil]
  obtain ⟨q, goal⟩ | ⟨state, -⟩ := (perform_cases call rs).resolve_left hc
  · have bounds := Cursor.clamp_bounds rs.cursor q
    cases live : rs.aborted with
    | true =>
      rw [perform_of_aborted live goal]
      exact h
    | false =>
      cases gone : rs.cursor.isReleased (rs.cursor.clamp q) with
      | true =>
        rw [perform_of_isReleased live goal gone]
        exact h
      | false =>
        rw [perform_of_held live goal gone]
        exact h.of_passed bounds.1 bounds.2 rfl rfl
  · obtain same | ⟨p, low, high, left⟩ := state
    · rw [same]
      exact h
    · rw [left]
      exact h.of_passed low high rfl rfl

end Navigable

theorem navigable_of_navigated {text : String} {st : Statement} (h : Navigated text st rs landed) :
    rs.Navigable landed := by
  induction h with
  | opened queried =>
    obtain ⟨reply, columns, -, rfl⟩ := Statement.query_eq_done_iff.1 queried
    refine ⟨Cursor.inBounds_ofBatch _ _, fun i hi => ?_, by simp⟩
    simp [Cursor.ofBatch, Cursor.isReleased]
  | called _ call ih => exact ih.perform call

/-- What a call on a result that was gone through can end on. -/
structure Reads (landed : List Nat) (rs : ResultSet) : Prop where
  /-- A call that ends on a row can read it, unless it has stepped onto a row that is gone. -/
  lands : ∀ call rs', perform call rs = (.done (.moved true), rs') → ∃ n,
    rs'.rowNumber? = some n ∧
    ((∃ row, rs'.row = .ok row) ↔ ¬(call = .next ∧ n + 2 ∈ landed)) ∧
    (call = .next ∧ n + 2 ∈ landed → rs'.row = .error (.rowReleased n))
  /-- A call that names a row that is gone is refused and changes nothing. -/
  refuses : rs.aborted = false → ∀ call q, target? rs.cursor call = some q →
    0 ≤ rs.cursor.clamp q → rs.numberAt (rs.cursor.clamp q) + 2 ∈ landed →
    perform call rs = (.failed (.rowReleased (rs.numberAt (rs.cursor.clamp q))), rs)
  /-- A step forward onto a row that is gone is not. -/
  steps : rs.aborted = false → rs.numberAt (rs.cursor.position + 1) + 2 ∈ landed → ∃ rs',
    perform .next rs = (.done (.moved true), rs') ∧
    rs'.rowNumber? = some (rs.numberAt (rs.cursor.position + 1)) ∧
    rs'.row = .error (.rowReleased (rs.numberAt (rs.cursor.position + 1)))

namespace Navigable

/-- Rows that are gone are rows of the batch. -/
theorem isReleased_of_mem (h : rs.Navigable landed) (hp : 0 ≤ p)
    (gone : rs.numberAt p + 2 ∈ landed) : rs.cursor.isReleased p = true := by
  obtain ⟨i, rfl⟩ := Int.eq_ofNat_of_zero_le hp
  refine (h.released i ?_).2 gone
  have bound := h.known _ gone
  rw [numberAt, Int.toNat_natCast] at bound
  omega

/-- A row of the batch is released exactly if a step has landed two rows further on. -/
theorem isReleased_iff (h : rs.Navigable landed) (hrow : rs.cursor.isRow p = true) :
    rs.cursor.isReleased p = true ↔ rs.numberAt p + 2 ∈ landed := by
  obtain ⟨hp, bound⟩ := Cursor.isRow_iff.1 hrow
  obtain ⟨i, rfl⟩ := Int.eq_ofNat_of_zero_le hp
  exact h.released i (by omega)

end Navigable

/-- A call that names its target and ends on a row can read it. -/
theorem lands_target (goal : target? rs.cursor call = some q)
    (made : perform call rs = (.done (.moved true), rs')) :
    ∃ n, rs'.rowNumber? = some n ∧ ∃ row, rs'.row = .ok row := by
  cases live : rs.aborted with
  | true =>
    rw [perform_of_aborted live goal] at made
    cases made
  | false =>
    cases gone : rs.cursor.isReleased (rs.cursor.clamp q) with
    | true =>
      rw [perform_of_isReleased live goal gone] at made
      cases made
    | false =>
      rw [perform_of_held live goal gone] at made
      obtain ⟨hrow, rfl⟩ := Prod.mk.inj made
      have live' : (rs.passed (rs.cursor.clamp q)).aborted = false := live
      have onRow : (rs.passed (rs.cursor.clamp q)).cursor.onRow = true := by
        injection hrow with hrow
        injection hrow
      exact ⟨_, rowNumber_of_onRow live' onRow, (exists_row_iff live' onRow).2 gone⟩

theorem perform_next_eq_done_iff :
    perform .next rs = (.done (.moved onRow), rs') ↔ next rs = (.done onRow, rs') := by
  rw [perform, Action.bind_eq_done_iff]
  constructor
  · rintro ⟨_, _, hnext, ⟨⟩⟩
    exact hnext
  · intro hnext
    exact ⟨onRow, rs', hnext, rfl⟩

namespace Navigable

/-- A step forward onto a row of the batch can read it exactly if it is not gone. -/
theorem reads_onto (h : rs.Navigable landed) (live : rs.aborted = false)
    (hrow : rs.cursor.isRow p = true) :
    ((∃ row, (rs.onto p).row = .ok row) ↔ rs.numberAt p + 2 ∉ landed) ∧
      (rs.numberAt p + 2 ∈ landed → (rs.onto p).row = .error (.rowReleased (rs.numberAt p))) := by
  have live' : (rs.onto p).aborted = false := live
  have kept : (rs.onto p).cursor.isReleased (rs.onto p).cursor.position =
    rs.cursor.isReleased p := Cursor.isReleased_onto_self hrow
  constructor
  · rw [exists_row_iff live' (onRow_onto hrow), kept, ← h.isReleased_iff hrow,
      Bool.not_eq_true]
  · intro gone
    exact row_of_isReleased live' (kept.trans ((h.isReleased_iff hrow).2 gone))

/-- Of a batch that has just come the first row can be read. -/
theorem reads_turned (h : rs.Navigable landed) (live : rs.aborted = false) (st : Statement)
    {reply : FetchReply} (some : reply.rows ≠ []) :
    (∃ row, (rs.turned st reply).row = .ok row) ∧
      rs.rowOffset + rs.cursor.total + 1 + 2 ∉ landed := by
  have live' : (rs.turned st reply).aborted = false := live
  constructor
  · rw [exists_row_iff live' (onRow_turned st some)]
    simp [ResultSet.turned, Cursor.ofBatch, Cursor.isReleased]
  · intro hn
    have := h.known _ hn
    omega

/-- A step forward that ends on a row can read it unless a step has landed two rows further on
before. -/
theorem lands_next (h : rs.Navigable landed) (step : ResultSet.next rs = (.done true, rs')) :
    ∃ n, rs'.rowNumber? = some n ∧ ((∃ row, rs'.row = .ok row) ↔ n + 2 ∉ landed) ∧
      (n + 2 ∈ landed → rs'.row = .error (.rowReleased n)) := by
  cases step_of_next step with
  | within live hrow => exact ⟨_, rowNumber_onto live hrow, h.reads_onto live hrow⟩
  | @fetched reply st _ live hmoved =>
    have some : reply.rows ≠ [] := List.isEmpty_eq_false_iff.1 (by simpa using hmoved.symm)
    obtain ⟨readable, fresh⟩ := h.reads_turned live st some
    exact ⟨_, rowNumber_turned live st some, iff_of_true readable fresh, fun hn => absurd hn fresh⟩

/-- A step forward onto a row that is gone reports that it is on a row, which cannot be read. -/
theorem steps (h : rs.Navigable landed) (live : rs.aborted = false)
    (gone : rs.numberAt (rs.cursor.position + 1) + 2 ∈ landed) :
    ResultSet.next rs = (.done true, rs.onto (rs.cursor.position + 1)) ∧
      (rs.onto (rs.cursor.position + 1)).rowNumber? =
        some (rs.numberAt (rs.cursor.position + 1)) ∧
      (rs.onto (rs.cursor.position + 1)).row =
        .error (.rowReleased (rs.numberAt (rs.cursor.position + 1))) := by
  have low := h.inBounds.1
  have hrow := Cursor.isRow_of_isReleased (h.isReleased_of_mem (by omega) gone)
  exact ⟨next_of_isRow live hrow, rowNumber_onto live hrow, (h.reads_onto live hrow).2 gone⟩

end Navigable

/-- Whatever was called on a result, a call that ends on a row can read it, but for a step forward
onto a row that an earlier step forward has left two rows behind. -/
theorem navigated_reads {text : String} {st : Statement} (nav : Navigated text st rs landed) :
    rs.Reads landed where
  lands call rs' made := by
    have h := navigable_of_navigated nav
    by_cases hc : call = .next
    · subst hc
      obtain ⟨n, number, readable, gone⟩ := h.lands_next (perform_next_eq_done_iff.1 made)
      exact ⟨n, number, by simpa using readable, fun hn => gone hn.2⟩
    obtain ⟨q, goal⟩ | ⟨-, stays⟩ := (perform_cases call rs).resolve_left hc
    · obtain ⟨n, number, readable⟩ := lands_target goal made
      exact ⟨n, number, iff_of_true readable fun hn => hc hn.1, fun hn => absurd hn.1 hc⟩
    · exact absurd (congrArg Prod.fst made) (stays true)
  refuses live call q goal hp gone :=
    perform_of_isReleased live goal ((navigable_of_navigated nav).isReleased_of_mem hp gone)
  steps live gone := by
    obtain ⟨hnext, number, row⟩ := (navigable_of_navigated nav).steps live gone
    exact ⟨_, perform_next_eq_done_iff.2 hnext, number, row⟩

/-- Three steps forward let go of the first row, and a fourth one from before it ends on it. -/
theorem navigated_reads_table :
    let st := Statement.serving [Statement.answer [[65], [66], [67], [68]] false]
    ∃ rs, Navigated "SELECT n" st rs [1, 2, 3] ∧ rs.Reads [1, 2, 3] ∧
      rs.rowNumber? = none ∧
      perform (.absolute 1) rs = (.failed (.rowReleased 1), rs) ∧
      ∃ rs', perform .next rs = (.done (.moved true), rs') ∧ rs'.rowNumber? = some 1 ∧
        rs'.row = .error (.rowReleased 1) := by
  intro st
  obtain ⟨opened, st', queried, made⟩ := Outcome.exists_of_holds
    (x := Statement.query "SELECT n" st)
    (p := fun rs =>
      let a := (perform .next rs).2
      let b := (perform .next a).2
      let c := (perform .next b).2
      let d := (perform .beforeFirst c).2
      decide (stepped .next rs = [1] ∧ stepped .next a = [2] ∧ stepped .next b = [3] ∧
        d.aborted = false ∧ d.numberAt (d.cursor.position + 1) = 1 ∧
        d.numberAt (d.cursor.clamp (d.cursor.positionOf 1)) = 1 ∧
        0 ≤ d.cursor.clamp (d.cursor.positionOf 1) ∧ d.rowNumber? = none))
    (by decide +kernel)
  obtain ⟨one, two, three, live, first, target, row, before⟩ := of_decide_eq_true made
  have nav := ((((Navigated.opened queried).called .next).called .next).called .next).called
    .beforeFirst
  rw [one, two, three] at nav
  have nav : Navigated "SELECT n" st _ [1, 2, 3] := nav
  have reads := navigated_reads nav
  have refused := reads.refuses live (.absolute 1) _ rfl row (by rw [target]; decide)
  have lands := reads.steps live (by rw [first]; decide)
  rw [target] at refused
  rw [first] at lands
  exact ⟨_, nav, reads, before, refused, lands⟩

end SqlWire.ResultSet
