import Mathlib.Tactic.Common
import SqlWire.Session.Cursor

/-!
# Moving a cursor

What the two ways to move a cursor come to. A step forward (`advance_of_isRow`,
`advance_of_not_isRow`) goes onto the next position, whatever became of the row there, and lets go
of one row two places back. Every other move goes through `moveTo`, which refuses a row that was let
go (`moveTo_of_isReleased`) and otherwise leaves the rows alone (`moveTo_of_held`).
-/

namespace SqlWire.Cursor

variable {c : Cursor} {p : Int} {i : Nat} {row : Row}

/-! ## Positions -/

theorem isRow_iff : c.isRow p = true ↔ 0 ≤ p ∧ p < c.total := by
  simp [isRow]

theorem isRow_natCast_iff : c.isRow i = true ↔ i < c.total := by
  rw [isRow_iff]
  omega

theorem isReleased_natCast_iff : c.isReleased i = true ↔ c.rows[i]? = some none := by
  simp [isReleased]

/-- A released row is a row. -/
theorem isRow_of_isReleased (h : c.isReleased p = true) : c.isRow p = true := by
  simp only [isReleased, Bool.and_eq_true, decide_eq_true_eq, beq_iff_eq] at h
  obtain ⟨hp, hrow⟩ := h
  obtain ⟨i, rfl⟩ := Int.eq_ofNat_of_zero_le hp
  obtain ⟨bound, -⟩ := List.getElem?_eq_some_iff.1 hrow
  exact isRow_natCast_iff.2 bound

/-- A cursor never leaves the places from before its first row to behind its last. -/
def InBounds (c : Cursor) : Prop :=
  -1 ≤ c.position ∧ c.position ≤ c.total

theorem inBounds_ofBatch (rows : List Row) (more : Bool) : (ofBatch rows more).InBounds := by
  simp only [InBounds, ofBatch]
  omega

/-! ## The current row -/

/-- The row that is read is the one which is held at the position. -/
theorem current_eq_ok_iff : c.current = .ok row ↔
    0 ≤ c.position ∧ c.rows[c.position.toNat]? = some (some row) := by
  unfold current onRow
  by_cases hrow : c.isRow c.position = true
  · have bounds := isRow_iff.1 hrow
    simp only [hrow, Bool.not_true, Bool.false_eq_true, if_false, bounds.1, true_and]
    split
    · next h => simp [h]
    · next h => exact iff_of_false nofun (h row)
  · simp only [Bool.not_eq_true] at hrow
    simp only [hrow, Bool.not_false, if_true, reduceCtorEq, false_iff, not_and]
    intro hp held
    obtain ⟨bound, -⟩ := List.getElem?_eq_some_iff.1 held
    have := isRow_iff.2 ⟨hp, show c.position < c.total by unfold total; omega⟩
    rw [this] at hrow
    cases hrow

/-- On a row that was let go there is nothing to read. -/
theorem current_of_isReleased (h : c.isReleased c.position = true) :
    c.current = .error (.rowReleased (c.position.toNat + 1)) := by
  have hrow := isRow_of_isReleased h
  simp only [isReleased, Bool.and_eq_true, decide_eq_true_eq, beq_iff_eq] at h
  simp [current, onRow, hrow, h.2]

/-- On a row there is something to read unless it was released. -/
theorem exists_current_iff (h : c.onRow = true) :
    (∃ row, c.current = .ok row) ↔ c.isReleased c.position = false := by
  obtain ⟨hp, bound⟩ := isRow_iff.1 h
  have here : c.position.toNat < c.rows.length := by unfold total at bound; omega
  simp only [current_eq_ok_iff, hp, true_and, isReleased, decide_true, Bool.true_and,
    beq_eq_false_iff_ne, ne_eq, List.getElem?_eq_getElem here, Option.some.injEq]
  cases c.rows[c.position.toNat] <;> simp

/-! ## Steps forward -/

/-- The cursor once a step forward has gone onto the row at `p`. -/
def onto (c : Cursor) (p : Int) : Cursor :=
  { c with
    position := p
    rows := if 2 ≤ p then c.rows.set (p - 2).toNat none else c.rows }

@[simp] theorem position_onto : (c.onto p).position = p :=
  rfl

@[simp] theorem total_onto : (c.onto p).total = c.total := by
  simp only [total, onto]
  split <;> simp

theorem getElem?_onto_of_ne (h : (i : Int) + 2 ≠ p) : (c.onto p).rows[i]? = c.rows[i]? := by
  simp only [onto]
  split
  · exact List.getElem?_set_ne (by omega)
  · rfl

/-- Of the rows a step forward lets go of the one two places back. -/
theorem isReleased_onto_iff (hi : i < c.total) :
    (c.onto p).isReleased i = true ↔ c.isReleased i = true ∨ (i : Int) + 2 = p := by
  simp only [isReleased_natCast_iff]
  by_cases h : (i : Int) + 2 = p
  · subst h
    have far : (2 : Int) ≤ i + 2 := by omega
    simp only [onto, far, if_true, or_true, iff_true]
    rw [show ((i : Int) + 2 - 2).toNat = i by omega, List.getElem?_set_self hi]
  · rw [getElem?_onto_of_ne h]
    simp [h]

/-- A step forward does not let go of the row that it goes onto. -/
theorem isReleased_onto_self (h : c.isRow p = true) :
    (c.onto p).isReleased p = c.isReleased p := by
  obtain ⟨hp, bound⟩ := isRow_iff.1 h
  obtain ⟨i, rfl⟩ := Int.eq_ofNat_of_zero_le hp
  rw [Bool.eq_iff_iff, isReleased_onto_iff (by omega)]
  exact or_iff_left (by omega)

theorem advance_of_isRow (h : c.isRow (c.position + 1) = true) :
    c.advance = (true, c.onto (c.position + 1)) := by
  obtain ⟨-, bound⟩ := isRow_iff.1 h
  have before : ¬c.position ≥ c.total := by omega
  simp only [advance, onRow, before, if_false]
  rw [show isRow { c with position := c.position + 1 } (c.position + 1) = true from h]
  simp only [Bool.not_true, Bool.false_eq_true, if_false, onto]
  split <;> rfl

/-- Where a step forward ends that does not end on a row. -/
def Past (c : Cursor) (p : Int) : Prop :=
  p = c.position + 1 ∧ c.position < c.total ∨ p = c.position ∧ (c.total : Int) ≤ p

/-- A step that does not reach a row changes nothing but the position. -/
theorem advance_of_not_isRow (h : c.isRow (c.position + 1) = false) :
    ∃ p, c.Past p ∧ c.advance = (false, { c with position := p }) := by
  by_cases before : c.position ≥ c.total
  · exact ⟨c.position, Or.inr ⟨rfl, before⟩, by simp [advance, before]⟩
  · refine ⟨c.position + 1, Or.inl ⟨rfl, by omega⟩, ?_⟩
    simp only [advance, onRow, before, if_false]
    rw [show isRow { c with position := c.position + 1 } (c.position + 1) = false from h]
    rfl

theorem InBounds.past (h : c.InBounds) (hp : c.Past p) : -1 ≤ p ∧ p ≤ c.total := by
  obtain ⟨low, high⟩ := h
  unfold Past at hp
  omega

theorem InBounds.onto (h : c.InBounds) (hrow : c.isRow (c.position + 1) = true) :
    (c.onto (c.position + 1)).InBounds := by
  have low := h.1
  obtain ⟨-, bound⟩ := isRow_iff.1 hrow
  rw [InBounds, position_onto, total_onto]
  omega

/-! ## Other moves -/

/-- A move onto a released row is refused, by its number in the batch. -/
theorem moveTo_of_isReleased (h : c.isReleased (c.clamp p) = true) :
    c.moveTo p = .error (.rowReleased ((c.clamp p).toNat + 1)) := by
  simp [moveTo, h]

/-- Any other move ends at the place that is named, or at the nearest one of the batch. -/
theorem moveTo_of_held (h : c.isReleased (c.clamp p) = false) :
    c.moveTo p = .ok (c.isRow (c.clamp p), { c with position := c.clamp p }) := by
  simp only [moveTo, h, Bool.false_eq_true, if_false]
  rfl

theorem clamp_bounds (c : Cursor) (p : Int) : -1 ≤ c.clamp p ∧ c.clamp p ≤ c.total := by
  unfold clamp
  omega

end SqlWire.Cursor
