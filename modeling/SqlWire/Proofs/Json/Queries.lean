import SqlWire.CommandLine.Run
import SqlWire.Proofs.Json.Rows
import SqlWire.Proofs.Result.Columns

/-!
# Queries in JSON

A query that is shown with `--json` prints one line, once all its rows are read and the connection
is closed (`showQuery_json`). Every row that is read has a value for each column
(`ResultSet.length_of_remaining`), so `Shows` holds of each row and its object : of columns with one
name, only the last one is printed.
-/

namespace SqlWire

namespace ResultSet

variable {rs rs' last : ResultSet} {row : List Value} {rows : List (List Value)}

/-- The rows that remain are the one at hand and those behind it. -/
theorem remaining_of_onto_row (step : next rs = (.done true, rs')) (read : rs'.values = .ok row)
    (rest : rs'.remaining = (.done rows, last)) : rs.remaining = (.done (row :: rows), last) := by
  rw [remaining]
  split
  · next h =>
    cases step.symm.trans h
    simp only [read, rest, Outcome.map]
  · next h => cases step.symm.trans h
  · next h => cases step.symm.trans h
  · next h => cases step.symm.trans h

theorem remaining_of_last (step : next rs = (.done false, rs')) :
    rs.remaining = (.done [], rs') := by
  rw [remaining]
  split
  · next h => cases step.symm.trans h
  · next h =>
    cases step.symm.trans h
    rfl
  · next h => cases step.symm.trans h
  · next h => cases step.symm.trans h

/-- Every row that is read has a value for each column. -/
theorem length_of_remaining (h : rs.remaining = (.done rows, last)) :
    ∀ row ∈ rows, row.length = rs.columns.length := by
  fun_induction ResultSet.remaining rs generalizing rows last with
  | case1 rs rs' step e unread => cases h
  | case2 rs rs' step row read outcome final run ih =>
    have columns : rs'.columns = rs.columns := by
      have kept := (replaced_next rs).1
      rwa [step] at kept
    cases outcome with
    | done rest =>
      cases h
      rw [← columns]
      exact List.forall_mem_cons.2 ⟨(values_eq_ok_iff.1 read).1, ih run⟩
    | failed e => cases h
    | suspended => cases h
  | case3 rs rs' step =>
    cases h
    exact List.forall_mem_nil _
  | case4 rs rs' e step => cases h
  | case5 rs rs' step => cases h

end ResultSet

namespace CommandLine

/-- The line that a listing is shown as with `--json`. -/
structure Listing.Shown (listing : Listing) (line : String) : Prop where
  /-- Without columns it tells how many rows were changed. -/
  changed : listing.names = [] →
    line = "✓ " ++ Text.decimal listing.affected.toNat ++ " row(s) affected"
  /-- Otherwise it is an array with an object for each row, in the order of the rows. -/
  rows : listing.names ≠ [] → ∃ objects, Json.read line = some (.array (objects.map .object)) ∧
    List.Forall₂ (Shows listing.names) listing.rows objects

/-- A listing whose rows are as wide as its names is shown on one line. -/
theorem exists_shown (listing : Listing)
    (width : ∀ row ∈ listing.rows, row.length = listing.names.length) :
    ∃ line, listing.lines true = [line] ∧ listing.Shown line := by
  obtain ⟨names, rows, affected⟩ := listing
  by_cases none : names = []
  · subst none
    exact ⟨_, rfl, ⟨fun _ => rfl, fun some => absurd rfl some⟩⟩
  · refine ⟨rowsJson names rows, ?_, ⟨fun h => absurd h none, fun some => ?_⟩⟩
    · rw [Listing.lines, List.isEmpty_eq_false_iff.2 none]
      rfl
    · refine ⟨rows.map fun row => (rowMembers names row).read, ?_, ?_⟩
      · rw [read_rowsJson none width, List.map_map]
        rfl
      · rw [List.forall₂_map_right_iff]
        exact List.forall₂_same.2 fun row hrow => shows_read (width row hrow)

/-- A listing holds what the columns of the result are called and all its rows. Reading it prints
nothing. -/
theorem exists_of_readListing {sql : String} {w w' : Work} {listing : Listing}
    (h : readListing sql w = (.done listing, w')) : w'.printed = w.printed ∧
    ∃ rs st rows last, Statement.query sql w.session.statement = (.done rs, st) ∧
      rs.remaining = (.done rows, last) ∧
      listing = ⟨rs.columns.map Descriptor.name, rows, rs.affected⟩ := by
  rw [readListing] at h
  split at h
  · cases h
  · cases h
  · next rs st queried =>
    split at h
    · cases h
    · cases h
    · next rows last all =>
      dsimp only at h
      have told := congrArg Prod.fst h
      refine ⟨(congrArg (fun result => result.2.printed) h).symm, rs, st, rows, last, queried, all,
        ?_⟩
      cases closed : last.statement.close.1 with
      | done _ =>
        rw [closed] at told
        exact (Outcome.done.inj told).symm
      | failed e =>
        rw [closed] at told
        cases told
      | suspended =>
        rw [closed] at told
        cases told

/-- What a query prints with `--json` reads back as an array with one object for each row of the
result, in their order, and each object shows its row. -/
theorem showQuery_json {sql : String} {w w' : Work}
    (h : showQuery sql true w = (.done (), w')) :
    ∃ rs st rows last line, Statement.query sql w.session.statement = (.done rs, st) ∧
      rs.remaining = (.done rows, last) ∧ w'.printed = w.printed ++ line ++ "\n" ∧
      Listing.Shown ⟨rs.columns.map Descriptor.name, rows, rs.affected⟩ line := by
  obtain ⟨listing, w₁, read, rest⟩ := Action.bind_eq_done_iff.1 h
  obtain ⟨_, w₂, closed, said⟩ := Action.bind_eq_done_iff.1 rest
  obtain ⟨silent, rs, st, rows, last, queried, all, rfl⟩ := exists_of_readListing read
  have width : ∀ row ∈ rows, row.length = (rs.columns.map Descriptor.name).length := by
    rw [List.length_map]
    exact ResultSet.length_of_remaining all
  obtain ⟨line, only, shown⟩ := exists_shown ⟨_, rows, rs.affected⟩ width
  refine ⟨rs, st, rows, last, line, queried, all, ?_, shown⟩
  rw [only] at said
  have quiet : w₂.printed = w₁.printed :=
    (congrArg (fun result => result.2.printed) closed).symm
  have printed : w'.printed = w₂.printed ++ line ++ "\n" := by
    cases said
    rfl
  rw [printed, quiet, silent]

/-- Two columns have the name `n`, and of each row only the value of the second one is shown. -/
theorem showQuery_json_repeated :
    let column : List Wire.Item := [.field [0x6E], .u32 14, .u32 8, .i32 0, .i32 0, .u32 1]
    let w : Work := { session := (Statement.serving [
      [.i32 7, .u32 3, .u64 0, .u32 2] ++ column ++ column ++
        [.u32 1, .field [65], .field [66]], []]).session }
    ∃ w', showQuery "SELECT n, n" true w = (.done (), w') ∧
      w'.printed = "[\n  \x7b\n    \"n\": \"B\"\n  \x7d\n]\n" ∧
      ∃ rs st rows last line, Statement.query "SELECT n, n" w.session.statement = (.done rs, st) ∧
        rs.remaining = (.done rows, last) ∧ w'.printed = w.printed ++ line ++ "\n" ∧
        Listing.Shown ⟨rs.columns.map Descriptor.name, rows, rs.affected⟩ line ∧
        rs.columns.map Descriptor.name = ["n", "n"] ∧ rows = [[.text "A", .text "B"]] := by
  intro column w
  obtain ⟨rs, st, queried, facts⟩ := Outcome.exists_of_holds
    (x := Statement.query "SELECT n, n" w.session.statement)
    (p := fun rs =>
      let onto := ResultSet.next rs
      let behind := ResultSet.next onto.2
      let closed := Statement.close behind.2.statement
      decide (rs.columns.map Descriptor.name = ["n", "n"]) && decide (onto.1 = .done true) &&
      decide (onto.2.values = .ok [.text "A", .text "B"]) &&
      decide (behind.1 = .done false) && decide (closed.1 = .done ()) &&
      decide ((Session.close closed.2.session).1 = .done ())) (by decide +kernel)
  simp only [Bool.and_eq_true, decide_eq_true_eq] at facts
  obtain ⟨⟨⟨⟨⟨names, onto⟩, read⟩, behind⟩, closed⟩, left⟩ := facts
  have all := ResultSet.remaining_of_onto_row (Prod.ext onto rfl) read
    (ResultSet.remaining_of_last (Prod.ext behind rfl))
  have shown : "" ++ rowsJson ["n", "n"] [[.text "A", .text "B"]] ++ "\n" =
      "[\n  \x7b\n    \"n\": \"B\"\n  \x7d\n]\n" := by
    decide +kernel
  let w₁ : Work := { w with
    session := (Statement.close (ResultSet.next (ResultSet.next rs).2).2.statement).2.session
    doing := some "Failed to release statement" }
  let w₂ : Work := { w₁ with
    session := (Session.close w₁.session).2
    doing := some "Failed to close connection" }
  have listed : readListing "SELECT n, n" w =
      (.done ⟨["n", "n"], [[.text "A", .text "B"]], rs.affected⟩, w₁) := by
    simp only [readListing, queried, all, closed, names]
    rfl
  have ended : trying "Failed to close connection" Session.close w₁ = (.done (), w₂) :=
    Prod.ext left rfl
  have run : showQuery "SELECT n, n" true w = (.done (), { w₂ with
      printed := "" ++ rowsJson ["n", "n"] [[.text "A", .text "B"]] ++ "\n" }) :=
    Action.bind_eq_done_iff.2 ⟨_, _, listed, Action.bind_eq_done_iff.2 ⟨_, _, ended, rfl⟩⟩
  refine ⟨_, run, shown, ?_⟩
  obtain ⟨rs', st', rows, last, line, queried', all', printed, told⟩ := showQuery_json run
  cases queried.symm.trans queried'
  cases all.symm.trans all'
  exact ⟨rs, st, _, _, line, queried, all, printed, told, names, rfl⟩

end CommandLine

end SqlWire
