import SqlWire.Session.ResultSet

/-!
# Remaining rows

`ResultSet.remaining` steps through all rows that are still to come and reads each of them. It ends:
a step onto a row either asks the server for a batch, and a request that succeeds spends octets of
the stream (`Session.spends_request`), or it stays in the batch and leaves one row fewer ahead of it
(`ResultSet.next_onto_row`).
-/

namespace SqlWire

namespace Session

/-- The number of octets that the session has not read yet. -/
def left (s : Session) : Nat := s.channel.left

theorem spends_onChannel {α : Type} {k : Nat} {x : Action Channel α}
    (h : Action.Spends Channel.left k x) : Action.Spends left k (onChannel x) :=
  h.within fun _ _ => rfl

theorem spends_roundTrip (command : Command) (payload : Octets) :
    Action.Spends left 1 (roundTrip command payload) :=
  (Action.Spends.modify fun _ => by exact Nat.le_refl _).bind fun _ =>
    Action.Spends.get.bind fun s =>
      (spends_onChannel (Channel.spends_write _)).bind fun _ =>
        spends_onChannel (Channel.spends_receive s.order _)

theorem spends_request (r : Request) : Action.Spends left 1 (request r) := by
  intro s payload s' run
  simp only [request] at run
  split at run
  · simp at run
  · split at run
    · next run₁ =>
      have spent := spends_roundTrip _ _ run₁
      simp only [Prod.mk.injEq] at run
      rw [← run.2]
      exact spent
    · simp at run
    · simp at run

theorem spends_fetch (handle : Handle) (fetchSize : UInt32) (columns : Nat) :
    Action.Spends left 1 (fetch handle fetchSize columns) :=
  ((spends_request _).bind fun _ => Action.Spends.get.bind fun _ =>
    Action.Spends.ofExcept _).mono (by simp)

end Session

namespace Statement

theorem spends_fetch (columns : Nat) :
    Action.Spends (fun st => st.session.left) 1 (fetch columns) := by
  refine Action.Spends.get.bind (k := 1) fun st => ?_
  split
  · exact Action.Spends.fail _
  · split
    · exact Action.Spends.fail _
    · exact (Session.spends_fetch _ _ _).within fun _ _ => rfl

end Statement

/-- The number of rows ahead of a cursor, the end counted as one. -/
def Cursor.ahead (cursor : Cursor) : Nat := (cursor.total - cursor.position).toNat

theorem Cursor.ahead_advance_lt {cursor cursor' : Cursor}
    (h : cursor.advance = (true, cursor')) : cursor'.ahead < cursor.ahead := by
  simp only [advance, onRow, isRow, ahead, total] at *
  grind

namespace ResultSet

/-- The number of octets that the session below has not read yet. -/
def left (rs : ResultSet) : Nat := rs.statement.session.left

theorem next_onto_row {rs rs' : ResultSet} (h : next rs = (.done true, rs')) :
    rs'.left < rs.left ∨ rs'.left = rs.left ∧ rs'.cursor.ahead < rs.cursor.ahead := by
  unfold next at h
  split at h
  · simp at h
  · dsimp only at h
    split at h
    · next moved =>
      cases h
      exact .inr ⟨rfl, Cursor.ahead_advance_lt (Prod.ext moved rfl)⟩
    · split at h
      · simp at h
      · split at h
        · next reply rs₁ run =>
          have spent := ((Statement.spends_fetch _).within fun _ _ => rfl) run
          simp only [Prod.mk.injEq] at h
          rw [← h.2]
          exact .inl spent
        · simp at h
        · simp at h

/-- Step through the rows that are still to come and read each as its columns say. -/
def remaining (rs : ResultSet) : Outcome (List (List Value)) × ResultSet :=
  match _step : next rs with
  | (.done true, rs') =>
    match rs'.values with
    | .error e => (.failed e, rs')
    | .ok row =>
      let (outcome, last) := remaining rs'
      (outcome.map (row :: ·), last)
  | (.done false, rs') => (.done [], rs')
  | (.failed e, rs') => (.failed e, rs')
  | (.suspended, rs') => (.suspended, rs')
termination_by (rs.left, rs.cursor.ahead)
decreasing_by
  rcases next_onto_row _step with fewer | ⟨same, fewer⟩
  · exact Prod.Lex.left _ _ fewer
  · exact same ▸ Prod.Lex.right _ fewer

end ResultSet

end SqlWire
