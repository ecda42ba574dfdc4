import SqlWire.Proofs.Result.Cursor

/-!
# Any moves over a batch

`Cursor.run` makes one move after the other, and one that is refused leaves the cursor as it was.
What is left of the batch depends on the rows that the steps forward among them have ended on
(`Cursor.landings`) : the row two places back of each is gone, and all others are as they came. So
it can be told from them what the next move comes to (`Cursor.History`).

The invariant is `Cursor.Tracks`. A step forward takes one row away, and no other move touches the
rows, by induction over the moves (`Cursor.Tracks.run`).

Positions are unbounded numbers here. In words of 64 bits, with a sum of an offset that stops at the
ends of their range, row numbers and offsets lead to the same positions (`Cursor.toInt_wordOfRow`,
`Cursor.toInt_wordOfOffset`).
-/

namespace SqlWire.Cursor

/-! ## Moves -/

/-- A way to move a cursor. -/
inductive Move where
  | advance
  | previous
  | absolute (row : Int)
  | relative (offset : Int)
  | first
  | last
  | beforeFirst
  | afterLast
  deriving DecidableEq

/-- Make a move. One to a place that is no row has nothing to tell, and so it tells that. -/
def go (c : Cursor) : Move → Except Error (Bool × Cursor)
  | .advance => .ok c.advance
  | .previous => c.previous
  | .absolute row => c.absolute row
  | .relative offset => c.relative offset
  | .first => c.first
  | .last => c.last
  | .beforeFirst => .ok (false, c.beforeFirst)
  | .afterLast => .ok (false, c.afterLast)

/-- The cursor after a move. -/
def after (c : Cursor) (move : Move) : Cursor :=
  match c.go move with
  | .ok (_, c') => c'
  | .error _ => c

/-- The cursor after one move after the other. -/
def run (c : Cursor) (moves : List Move) : Cursor :=
  moves.foldl after c

/-- The position of the row that a move ends on, if it is a step forward. -/
def landing (c : Cursor) : Move → List Int
  | .advance => if c.advance.1 then [c.advance.2.position] else []
  | _ => []

/-- The positions of the rows that the steps forward among the moves end on. -/
def landings : Cursor → List Move → List Int
  | _, [] => []
  | c, move :: moves => c.landing move ++ landings (c.after move) moves

/-- Some step forward has left the row at `p` two places behind. -/
def Lost (landed : List Int) (p : Int) : Prop :=
  ∃ i ∈ landed, 2 ≤ i ∧ p = i - 2

/-- The position that a row number stands for, counted from one, or from the end. -/
def aimOfRow (total : Nat) (row : Int) : Int :=
  if 0 < row then row - 1 else if row < 0 then total + row else -1

/-- The position that a move names that names one, be it one of the batch or not. -/
def Move.aim? (total : Nat) (position : Int) : Move → Option Int
  | .previous => some (position - 1)
  | .absolute row => some (aimOfRow total row)
  | .relative offset => some (position + offset)
  | .first => some 0
  | .last => some (total - 1)
  | .advance | .beforeFirst | .afterLast => none

/-- The position of a batch that is the nearest one. -/
def within (total : Nat) (p : Int) : Int :=
  max (-1) (min p total)

variable {rows : List Row} {landed : List Int} {c : Cursor} {move : Move} {p q aim : Int}

/-! ## Lost rows -/

theorem lost_append_iff {later : List Int} :
    Lost (landed ++ later) p ↔ Lost landed p ∨ Lost later p := by
  simp only [Lost, List.mem_append, or_and_right, exists_or]

theorem lost_singleton_iff : Lost [q] p ↔ 2 ≤ q ∧ p = q - 2 := by
  simp [Lost]

theorem Lost.nonneg (h : Lost landed p) : 0 ≤ p := by
  obtain ⟨i, -, far, rfl⟩ := h
  omega

/-! ## One move -/

theorem positionOf_eq (c : Cursor) (row : Int) : c.positionOf row = aimOfRow c.total row := by
  unfold positionOf aimOfRow
  split_ifs <;> omega

/-- What a move that names a position comes to depends on this position only. -/
theorem go_of_aim (h : move.aim? c.total c.position = some aim) : c.go move = c.moveTo aim := by
  cases move with
  | previous | relative | first =>
    cases h
    rfl
  | absolute row =>
    cases h
    rw [go, absolute, positionOf_eq]
  | last =>
    cases h
    rw [go, last, absolute, positionOf_eq]
    rfl
  | advance | beforeFirst | afterLast => cases h

theorem after_of_aim_lost (h : move.aim? c.total c.position = some aim)
    (lost : c.isReleased (c.clamp aim) = true) : c.after move = c := by
  simp only [after, go_of_aim h, moveTo_of_isReleased lost]

theorem after_of_aim_held (h : move.aim? c.total c.position = some aim)
    (held : c.isReleased (c.clamp aim) = false) :
    c.after move = { c with position := c.clamp aim } := by
  simp only [after, go_of_aim h, moveTo_of_held held]

/-- Every move but a step forward changes nothing but the position, and keeps it in bounds. -/
theorem after_of_ne_advance (h : move ≠ .advance) : ∃ p, c.after move = { c with position := p } ∧
    (c.InBounds → -1 ≤ p ∧ p ≤ c.total) := by
  cases named : move.aim? c.total c.position with
  | some aim =>
    cases lost : c.isReleased (c.clamp aim) with
    | true => exact ⟨c.position, after_of_aim_lost named lost, id⟩
    | false => exact ⟨_, after_of_aim_held named lost, fun _ => c.clamp_bounds aim⟩
  | none =>
    cases move with
    | advance => exact absurd rfl h
    | beforeFirst => exact ⟨-1, rfl, fun _ => by omega⟩
    | afterLast => exact ⟨c.total, rfl, fun _ => by omega⟩
    | previous | absolute | relative | first | last => cases named

theorem Past.unique (h : c.Past p) (h' : c.Past q) : p = q := by
  unfold Past at h h'
  omega

theorem landing_of_ne_advance (h : move ≠ .advance) : c.landing move = [] := by
  cases move with
  | advance => exact absurd rfl h
  | _ => rfl

/-! ## Any moves -/

/-- The rows are there but for those that are lost, and these are rows of the batch. -/
structure Tracks (rows : List Row) (landed : List Int) (c : Cursor) : Prop where
  total : c.total = rows.length
  inBounds : c.InBounds
  known : ∀ i ∈ landed, i < c.total
  gone : ∀ i : Nat, i < c.total → (c.isReleased i = true ↔ Lost landed i)
  held : ∀ i : Nat, ¬Lost landed i → c.rows[i]? = rows[i]?.map some

theorem tracks_ofBatch (rows : List Row) (more : Bool) : Tracks rows [] (ofBatch rows more) where
  total := by simp [total, ofBatch]
  inBounds := inBounds_ofBatch rows more
  known := by simp
  gone := by simp [isReleased, ofBatch, Lost]
  held := by simp [ofBatch]

namespace Tracks

theorem of_position (h : Tracks rows landed c) (low : -1 ≤ p) (high : p ≤ c.total) :
    Tracks rows landed { c with position := p } where
  total := h.total
  inBounds := ⟨low, high⟩
  known := h.known
  gone := h.gone
  held := h.held

/-- A step onto a row takes away the one two places back. -/
theorem onto (h : Tracks rows landed c) (hrow : c.isRow (c.position + 1) = true) :
    Tracks rows (landed ++ [c.position + 1]) (c.onto (c.position + 1)) where
  total := by rw [total_onto, h.total]
  inBounds := h.inBounds.onto hrow
  known i hi := by
    rw [total_onto]
    obtain hi | hi := List.mem_append.1 hi
    · exact h.known i hi
    · rw [List.mem_singleton.1 hi]
      exact (isRow_iff.1 hrow).2
  gone i hi := by
    rw [total_onto] at hi
    rw [isReleased_onto_iff hi, h.gone i hi, lost_append_iff, lost_singleton_iff]
    refine or_congr Iff.rfl ?_
    omega
  held i hi := by
    rw [lost_append_iff, lost_singleton_iff, not_or] at hi
    rw [getElem?_onto_of_ne (by omega)]
    exact h.held i hi.1

/-- A step forward loses a row only if it ends on one. -/
theorem advance (h : Tracks rows landed c) :
    Tracks rows (landed ++ c.landing .advance) c.advance.2 := by
  cases hrow : c.isRow (c.position + 1) with
  | true =>
    have lands : c.landing .advance = [c.position + 1] := by
      simp [landing, advance_of_isRow hrow]
    rw [lands, advance_of_isRow hrow]
    exact h.onto hrow
  | false =>
    obtain ⟨p, past, hadv⟩ := advance_of_not_isRow hrow
    have bounds := h.inBounds.past past
    have lands : c.landing .advance = [] := by
      simp [landing, hadv]
    rw [lands, hadv, List.append_nil]
    exact h.of_position bounds.1 bounds.2

/-- One move of any kind keeps to what its landing tells. -/
theorem after (h : Tracks rows landed c) (move : Move) :
    Tracks rows (landed ++ c.landing move) (c.after move) := by
  by_cases step : move = .advance
  · rw [step]
    exact h.advance
  · obtain ⟨p, hafter, bounds⟩ := after_of_ne_advance (c := c) step
    rw [landing_of_ne_advance step, hafter, List.append_nil]
    exact h.of_position (bounds h.inBounds).1 (bounds h.inBounds).2

/-- By induction on the moves, the rows that are gone are told by where the steps forward ended. -/
theorem run (h : Tracks rows landed c) (moves : List Move) :
    Tracks rows (landed ++ c.landings moves) (c.run moves) := by
  induction moves generalizing landed c with
  | nil =>
    rw [landings, List.append_nil]
    exact h
  | cons move moves ih =>
    rw [landings, ← List.append_assoc]
    exact ih (h.after move)

/-- A row is released exactly if some step forward has left it two places behind. -/
theorem isReleased_iff (h : Tracks rows landed c) : c.isReleased p = true ↔ Lost landed p := by
  constructor
  · intro gone
    obtain ⟨low, high⟩ := isRow_iff.1 (isRow_of_isReleased gone)
    obtain ⟨i, rfl⟩ := Int.eq_ofNat_of_zero_le low
    exact (h.gone i (by omega)).1 gone
  · intro lost
    obtain ⟨i, rfl⟩ := Int.eq_ofNat_of_zero_le lost.nonneg
    obtain ⟨j, hj, -, back⟩ := id lost
    have bound := h.known j hj
    exact (h.gone i (by omega)).2 lost

/-- A row that was not left so can still be read. -/
theorem isReleased_eq_false_iff (h : Tracks rows landed c) :
    c.isReleased p = false ↔ ¬Lost landed p := by
  rw [← h.isReleased_iff, Bool.not_eq_true]

end Tracks

/-! ## Words of 64 bits -/

/-- The position of a batch that is the nearest one, in words. -/
def withinWord (total p : Int64) : Int64 :=
  max (-1) (min p total)

/-- The position that a row number stands for, in words. -/
def wordOfRow (total row : Int64) : Int64 :=
  if row = 0 then -1 else if 0 < row then min (row - 1) total else max (total + row) (-1)

/-- The position that an offset stands for, in words. The sum stops at the ends of their range. -/
def wordOfOffset (total position offset : Int64) : Int64 :=
  withinWord total (.ofIntClamp (position.toInt + offset.toInt))

variable {total : Nat}

theorem toInt_min (a b : Int64) : (min a b).toInt = min a.toInt b.toInt := by
  rw [Int.min_def]
  show (if a ≤ b then a else b).toInt = _
  simp only [apply_ite Int64.toInt, Int64.le_iff_toInt_le]

theorem toInt_max (a b : Int64) : (max a b).toInt = max a.toInt b.toInt := by
  rw [Int.max_def]
  show (if a ≤ b then b else a).toInt = _
  simp only [apply_ite Int64.toInt, Int64.le_iff_toInt_le]

/-- A sum that leaves the range of the words stops at its ends. -/
theorem toInt_saturated (p : Int) : (Int64.ofIntClamp p).toInt =
    max Int64.minValue.toInt (min p Int64.maxValue.toInt) := by
  have ends := Int64.toInt_minValue
  have ends' := Int64.toInt_maxValue
  unfold Int64.ofIntClamp
  split_ifs with low high
  · rw [Int64.toInt_ofIntLE]
    omega
  · omega
  · omega

/-- A batch has no more rows than a word can count. -/
def FitsWord (total : Nat) : Prop :=
  (total : Int) ≤ Int64.maxValue.toInt

theorem FitsWord.lt (h : FitsWord total) : total < 0x8000000000000000 := by
  have ends := Int64.toInt_maxValue
  unfold FitsWord at h
  omega

theorem toInt_total (small : FitsWord total) : (Int64.ofNat total).toInt = total :=
  Int64.toInt_ofNat_of_lt small.lt

/-- No word wraps around when a row is counted from one. -/
theorem toInt_sub_one {n : Int64} (h : 0 < n.toInt) : (n - 1).toInt = n.toInt - 1 := by
  have high := n.toInt_lt
  rw [Int64.toInt_sub, Int64.toInt_one, Int.bmod_eq_of_le (by omega) (by omega)]

/-- Nor when it is counted from the end. -/
theorem toInt_total_add {n : Int64} (small : FitsWord total) (h : n.toInt < 0) :
    (.ofNat total + n : Int64).toInt = total + n.toInt := by
  have low := n.le_toInt
  have bound := small.lt
  rw [Int64.toInt_add, toInt_total small, Int.bmod_eq_of_le (by omega) (by omega)]

theorem toInt_withinWord (small : FitsWord total) (p : Int64) :
    (withinWord (.ofNat total) p).toInt = within total p.toInt := by
  simp only [withinWord, within, toInt_max, toInt_min, toInt_total small]
  rfl

/-- The number of a row stands for the same position. -/
theorem toInt_wordOfRow (small : FitsWord total) (n : Int64) :
    within total (wordOfRow (.ofNat total) n).toInt = within total (aimOfRow total n.toInt) := by
  have zero : (0 : Int64).toInt = 0 := Int64.toInt_zero
  by_cases isZero : n = 0
  · simp [isZero, wordOfRow, aimOfRow]
  have nonzero : n.toInt ≠ 0 := fun h => isZero (Int64.toInt_inj.1 (h.trans zero.symm))
  rw [wordOfRow, if_neg isZero, aimOfRow]
  simp only [Int64.lt_iff_toInt_lt, zero]
  by_cases pos : 0 < n.toInt
  · rw [if_pos pos, if_pos pos, toInt_min, toInt_sub_one pos, toInt_total small]
    simp only [within]
    omega
  · have neg : n.toInt < 0 := by omega
    rw [if_neg pos, if_neg pos, if_pos neg, toInt_max, toInt_total_add small neg]
    simp only [within, show (-1 : Int64).toInt = -1 from rfl]
    omega

/-- Saturation makes no difference where the result is kept to the batch in any case. -/
theorem toInt_wordOfOffset (small : FitsWord total) (low : -1 ≤ p) (high : p ≤ total) (n : Int64) :
    (wordOfOffset (.ofNat total) (.ofInt p) n).toInt = within total (p + n.toInt) := by
  have bound := small.lt
  have place : (Int64.ofInt p).toInt = p := Int64.toInt_ofInt_of_le (by omega) (by omega)
  rw [wordOfOffset, toInt_withinWord small, toInt_saturated, place, Int64.toInt_minValue,
    Int64.toInt_maxValue]
  simp only [within]
  omega

/-! ## What has become of a batch -/

/-- What is left of a batch and what moves come to, once the steps forward among any moves have
ended on the rows at `landed`. -/
structure History (rows : List Row) (landed : List Int) (c : Cursor) : Prop where
  /-- The cursor is somewhere from before the first row to behind the last. -/
  bounds : -1 ≤ c.position ∧ c.position ≤ rows.length
  /-- What is gone is what a step forward has left two places behind. -/
  gone : ∀ p, c.isReleased p = true ↔ Lost landed p
  /-- It stays so, whatever moves are made. -/
  stays : ∀ p, Lost landed p → ∀ moves, (c.run moves).isReleased p = true
  /-- Only a step forward takes a row away. -/
  keeps : ∀ move, move ≠ .advance → ∀ p, (c.after move).isReleased p = c.isReleased p
  /-- A step forward goes to the next position there is, and tells whether it is a row. -/
  steps : c.advance.1 = decide (c.position + 1 < rows.length) ∧
    c.advance.2.position = min (c.position + 1) rows.length
  /-- A move that names a row that is gone is refused and changes nothing. -/
  refuses : ∀ move aim, move.aim? rows.length c.position = some aim →
    Lost landed (within rows.length aim) →
    c.go move = .error (.rowReleased ((within rows.length aim).toNat + 1)) ∧ c.after move = c
  /-- Otherwise it goes to the nearest position there is, and tells whether it is a row. -/
  goes : ∀ move aim, move.aim? rows.length c.position = some aim →
    ¬Lost landed (within rows.length aim) →
    c.go move = .ok (decide (0 ≤ within rows.length aim ∧ within rows.length aim < rows.length),
      { c with position := within rows.length aim })
  /-- In words of 64 bits that position is the same for every number, as long as a word can count
  the rows, which it can of any batch in memory. -/
  words : FitsWord rows.length → ∀ n : Int64,
    (withinWord (.ofNat rows.length) (wordOfRow (.ofNat rows.length) n)).toInt =
      within rows.length (aimOfRow rows.length n.toInt) ∧
    (withinWord (.ofNat rows.length)
      (wordOfOffset (.ofNat rows.length) (.ofInt c.position) n)).toInt =
      within rows.length (c.position + n.toInt)
  /-- Before the first row and behind the last there is no row to read. -/
  none : c.current = .error .noCurrentRow ↔ c.position = -1 ∨ c.position = rows.length
  /-- On a row that is gone, reading is refused. -/
  lost : ∀ n, c.current = .error (.rowReleased n) ↔
    Lost landed c.position ∧ n = c.position.toNat + 1
  /-- Any other row is read as it came. -/
  reads : ∀ row, c.current = .ok row ↔
    0 ≤ c.position ∧ rows[c.position.toNat]? = some row ∧ ¬Lost landed c.position

namespace Tracks

theorem clamp_eq (h : Tracks rows landed c) (p : Int) : c.clamp p = within rows.length p := by
  rw [clamp, h.total, within]

theorem isRow_eq (h : Tracks rows landed c) (p : Int) :
    c.isRow p = decide (0 ≤ p ∧ p < rows.length) := by
  rw [Bool.eq_iff_iff, isRow_iff, h.total, decide_eq_true_iff]

/-- Where a step forward ends depends on the position and the number of rows only. -/
theorem steps (h : Tracks rows landed c) :
    c.advance.1 = decide (c.position + 1 < rows.length) ∧
      c.advance.2.position = min (c.position + 1) rows.length := by
  have total := h.total
  obtain ⟨low, high⟩ := h.inBounds
  cases hrow : c.isRow (c.position + 1) with
  | true =>
    have bound := (isRow_iff.1 hrow).2
    rw [advance_of_isRow hrow, position_onto]
    exact ⟨(decide_eq_true (by omega)).symm, by omega⟩
  | false =>
    have bound : ¬(c.position + 1 < rows.length) := by
      rw [h.isRow_eq, decide_eq_false_iff_not] at hrow
      omega
    obtain ⟨p, past, hadv⟩ := advance_of_not_isRow hrow
    rw [hadv]
    unfold Past at past
    refine ⟨(decide_eq_false bound).symm, ?_⟩
    show p = _
    omega

end Tracks

/-- What reading comes to at a position. -/
inductive Reading (rows : List Row) (landed : List Int) (p : Int) : Except Error Row → Prop where
  | none (off : p = -1 ∨ p = rows.length) (kept : ¬Lost landed p) :
      Reading rows landed p (.error .noCurrentRow)
  | lost (gone : Lost landed p) (on : 0 ≤ p ∧ p < rows.length) :
      Reading rows landed p (.error (.rowReleased (p.toNat + 1)))
  | row {row : Row} (on : 0 ≤ p) (here : rows[p.toNat]? = some row) (kept : ¬Lost landed p) :
      Reading rows landed p (.ok row)

namespace Reading

variable {answer : Except Error Row}

theorem eq_noCurrentRow_iff (h : Reading rows landed p answer) :
    answer = .error .noCurrentRow ↔ p = -1 ∨ p = rows.length := by
  cases h with
  | none off kept => exact iff_of_true rfl off
  | lost gone on => exact iff_of_false nofun (by omega)
  | row on here kept =>
    obtain ⟨bound, -⟩ := List.getElem?_eq_some_iff.1 here
    exact iff_of_false nofun (by omega)

/-- An answer that tells of a released row tells it of the one at the position. -/
theorem eq_rowReleased_iff (h : Reading rows landed p answer) {n : Nat} :
    answer = .error (.rowReleased n) ↔ Lost landed p ∧ n = p.toNat + 1 := by
  cases h with
  | none off kept => exact iff_of_false nofun fun lost => kept lost.1
  | lost gone on => simp [gone, eq_comm]
  | row on here kept => exact iff_of_false nofun fun lost => kept lost.1

theorem eq_ok_iff (h : Reading rows landed p answer) {row : Row} :
    answer = .ok row ↔ 0 ≤ p ∧ rows[p.toNat]? = some row ∧ ¬Lost landed p := by
  cases h with
  | none off kept =>
    refine iff_of_false nofun fun ⟨on, here, _⟩ => ?_
    obtain ⟨bound, -⟩ := List.getElem?_eq_some_iff.1 here
    omega
  | lost gone on => exact iff_of_false nofun fun kept => kept.2.2 gone
  | row on here kept => simp [on, here, kept]

end Reading

namespace Tracks

/-- What a cursor reads is what its history tells. -/
theorem reading (h : Tracks rows landed c) : Reading rows landed c.position c.current := by
  cases released : c.isReleased c.position with
  | true =>
    have on := isRow_of_isReleased released
    rw [h.isRow_eq, decide_eq_true_iff] at on
    rw [current_of_isReleased released]
    exact .lost (h.isReleased_iff.1 released) on
  | false =>
    have kept := h.isReleased_eq_false_iff.1 released
    cases onRow : c.onRow with
    | true =>
      obtain ⟨row, read⟩ := (exists_current_iff onRow).2 released
      rw [read]
      obtain ⟨on, here⟩ := current_eq_ok_iff.1 read
      rw [h.held _ (by rwa [Int.toNat_of_nonneg on]), Option.map_eq_some_iff] at here
      obtain ⟨_, here, ⟨⟩⟩ := here
      exact .row on here kept
    | false =>
      have total := h.total
      obtain ⟨low, high⟩ := h.inBounds
      have read : c.current = .error .noCurrentRow := by simp [current, onRow]
      have off := onRow
      rw [Cursor.onRow, h.isRow_eq, decide_eq_false_iff_not] at off
      rw [read]
      exact .none (by omega) kept

/-- What is tracked tells the history. -/
theorem history (h : Tracks rows landed c) : History rows landed c where
  bounds := by
    obtain ⟨low, high⟩ := h.inBounds
    exact ⟨low, h.total ▸ high⟩
  gone p := h.isReleased_iff
  stays p lost moves := (h.run moves).isReleased_iff.2 (lost_append_iff.2 (Or.inl lost))
  keeps move other p := by
    obtain ⟨q, hafter, -⟩ := after_of_ne_advance (c := c) other
    rw [hafter]
    rfl
  steps := h.steps
  refuses move aim named lost := by
    rw [← h.total] at named
    rw [← h.clamp_eq] at lost ⊢
    have gone := h.isReleased_iff.2 lost
    exact ⟨by rw [go_of_aim named, moveTo_of_isReleased gone], after_of_aim_lost named gone⟩
  goes move aim named kept := by
    rw [← h.total] at named
    rw [← h.clamp_eq] at kept
    rw [← h.isRow_eq, ← h.clamp_eq, go_of_aim named,
      moveTo_of_held (h.isReleased_eq_false_iff.2 kept)]
  words small n := by
    obtain ⟨low, high⟩ := h.inBounds
    rw [h.total] at high
    rw [toInt_withinWord small, toInt_wordOfRow small, toInt_withinWord small,
      toInt_wordOfOffset small low high]
    refine ⟨rfl, ?_⟩
    simp only [within]
    omega
  none := h.reading.eq_noCurrentRow_iff
  lost _ := h.reading.eq_rowReleased_iff
  reads _ := h.reading.eq_ok_iff

end Tracks

end SqlWire.Cursor
