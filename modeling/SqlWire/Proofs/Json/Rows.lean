import Mathlib.Data.List.Dedup
import SqlWire.Proofs.Json.Values

/-!
# Rows in JSON

Rows are written as an array with an object for each of them, which is read back as such
(`read_rowsJson`). The members of an object are kept by name : a value that is inserted takes the
place of the one that its name has (`Members.mem_insert_iff`), so in the end each name has the value
of the last column that is called so (`mem_rowMembers_iff`).

`Shows` says what an object tells of its row. Two columns with one name share a member, so all
columns are there exactly if no name comes twice.
-/

namespace SqlWire

open Text Text.Parser

/-! ## Members -/

namespace CommandLine

namespace Members

/-- The members are in the order of their names, and no name comes twice. -/
def Sorted (members : Members) : Prop :=
  (members.map Prod.fst).Pairwise (· < ·)

variable {members : Members} {name value : String} {entry : String × String}

theorem sorted_nil : Sorted [] := List.Pairwise.nil

theorem sorted_cons_iff : Sorted (entry :: members) ↔
    (∀ later ∈ members, entry.1 < later.1) ∧ Sorted members := by
  simp [Sorted, List.pairwise_cons]

theorem lt_of_not_lt {a b : String} (h : ¬a < b) (differ : a ≠ b) : b < a :=
  Std.lt_of_le_of_ne (String.not_lt.1 h) differ.symm

/-- What is inserted takes the place of what has its name, and leaves the others. -/
theorem mem_insert_iff (sorted : Sorted members) : entry ∈ members.insert name value ↔
    entry = (name, value) ∨ entry ∈ members ∧ entry.1 ≠ name := by
  induction members with
  | nil => simp [Members.insert]
  | cons first members ih =>
    obtain ⟨other, current⟩ := first
    obtain ⟨later, others⟩ := sorted_cons_iff.1 sorted
    have ne_of_lt {a b : String} (h : a < b) : b ≠ a := (Std.ne_of_lt h).symm
    rw [Members.insert]
    split
    · next same =>
      have behind : entry ∈ members → entry.1 ≠ name := fun h => same ▸ ne_of_lt (later entry h)
      grind
    · next differ =>
      split
      · next before =>
        have behind : entry ∈ members → entry.1 ≠ name := fun h =>
          ne_of_lt (String.lt_trans before (later entry h))
        grind
      · grind

/-- Members stay in the order of their names if one is put in. -/
theorem sorted_insert (sorted : Sorted members) : Sorted (members.insert name value) := by
  induction members with
  | nil => simp [Members.insert, Sorted]
  | cons first members ih =>
    obtain ⟨other, current⟩ := first
    obtain ⟨later, others⟩ := sorted_cons_iff.1 sorted
    rw [Members.insert]
    split
    · next same =>
      subst same
      exact sorted_cons_iff.2 ⟨later, others⟩
    · next differ =>
      split
      · next before =>
        refine sorted_cons_iff.2 ⟨List.forall_mem_cons.2 ⟨before, fun entry hentry => ?_⟩, sorted⟩
        exact String.lt_trans before (later entry hentry)
      · next notBefore =>
        refine sorted_cons_iff.2 ⟨fun entry hentry => ?_, ih others⟩
        obtain rfl | ⟨hentry, -⟩ := (mem_insert_iff others).1 hentry
        · exact lt_of_not_lt notBefore differ
        · exact later entry hentry

end Members

/-- The value in a row of the last column of a name. -/
def LastOf (names : List String) (row : List Value) (name : String) (v : Value) : Prop :=
  ∃ i : Nat, names[i]? = some name ∧ row[i]? = some v ∧ name ∉ names.drop (i + 1)

/-- A name belongs to the first value of a row only if no later one has it. -/
theorem lastOf_cons_iff {names : List String} {row : List Value} {first name : String}
    {v w : Value} : LastOf (first :: names) (v :: row) name w ↔
      LastOf names row name w ∨ first = name ∧ v = w ∧ name ∉ names := by
  constructor
  · rintro ⟨i, hname, hrow, last⟩
    cases i with
    | zero => exact .inr ⟨by simpa using hname, by simpa using hrow, by simpa using last⟩
    | succ i => exact .inl ⟨i, by simpa using hname, by simpa using hrow, by simpa using last⟩
  · rintro (⟨i, hname, hrow, last⟩ | ⟨rfl, rfl, last⟩)
    · exact ⟨i + 1, by simpa using hname, by simpa using hrow, by simpa using last⟩
    · exact ⟨0, rfl, rfl, by simpa using last⟩

/-- Inserting the values of a row one after the other leaves each name with its last value, and what
was there before under other names. -/
theorem members_of_fold {names : List String} {row : List Value} (width : row.length = names.length)
    {members : Members} (sorted : members.Sorted) :
    let after := (names.zip row).foldl
      (fun members (name, value) => members.insert name (valueJson value)) members
    after.Sorted ∧ ∀ name text, (name, text) ∈ after ↔
      (∃ v, LastOf names row name v ∧ text = valueJson v) ∨
        (name, text) ∈ members ∧ name ∉ names := by
  induction names generalizing row members with
  | nil =>
    refine ⟨sorted, fun name text => ?_⟩
    simp [LastOf]
  | cons first names ih =>
    cases row with
    | nil => cases width
    | cons v row =>
      have inserted : (members.insert first (valueJson v)).Sorted := Members.sorted_insert sorted
      obtain ⟨stays, iff⟩ := ih (Nat.succ.inj width) inserted
      refine ⟨stays, fun name text => ?_⟩
      rw [List.zip_cons_cons, List.foldl_cons, iff, Members.mem_insert_iff sorted]
      simp only [lastOf_cons_iff, List.mem_cons, not_or, Prod.mk.injEq]
      constructor
      · rintro (⟨w, last, shown⟩ | ⟨⟨rfl, rfl⟩ | ⟨old, differ⟩, none⟩)
        · exact .inl ⟨w, .inl last, shown⟩
        · exact .inl ⟨v, .inr ⟨rfl, rfl, none⟩, rfl⟩
        · exact .inr ⟨old, differ, none⟩
      · rintro (⟨w, last | ⟨rfl, rfl, none⟩, shown⟩ | ⟨old, differ, none⟩)
        · exact .inl ⟨w, last, shown⟩
        · exact .inr ⟨.inl ⟨rfl, shown⟩, none⟩
        · exact .inr ⟨.inr ⟨old, differ⟩, none⟩

/-- Every name has a value if the row is wide enough. -/
theorem exists_lastOf {names : List String} {row : List Value} {name : String}
    (width : row.length = names.length) (h : name ∈ names) : ∃ v, LastOf names row name v := by
  induction names generalizing row with
  | nil => cases h
  | cons first names ih =>
    cases row with
    | nil => cases width
    | cons v row =>
      by_cases later : name ∈ names
      · obtain ⟨w, last⟩ := ih (Nat.succ.inj width) later
        exact ⟨w, lastOf_cons_iff.2 (.inl last)⟩
      · obtain rfl := (List.mem_cons.1 h).resolve_right later
        exact ⟨v, lastOf_cons_iff.2 (.inr ⟨rfl, rfl, later⟩)⟩

section Row

variable {names : List String} {row : List Value}

/-- The members of a row are in the order of their names. -/
theorem sorted_rowMembers (width : row.length = names.length) :
    (rowMembers names row).Sorted :=
  (members_of_fold width Members.sorted_nil).1

/-- The member of a name is the last value that has it. -/
theorem mem_rowMembers_iff (width : row.length = names.length) {name text : String} :
    (name, text) ∈ rowMembers names row ↔ ∃ v, LastOf names row name v ∧ text = valueJson v := by
  refine ((members_of_fold width Members.sorted_nil).2 name text).trans (or_iff_left ?_)
  exact fun h => List.not_mem_nil h.1

theorem rowMembers_ne_nil (width : row.length = names.length) (some : names ≠ []) :
    rowMembers names row ≠ [] := by
  obtain ⟨name, others, rfl⟩ := List.exists_cons_of_ne_nil some
  obtain ⟨v, last⟩ := exists_lastOf width List.mem_cons_self
  exact List.ne_nil_of_mem ((mem_rowMembers_iff width).2 ⟨v, last, rfl⟩)

/-! ## Texts -/

/-- What the members of an object say. -/
def Members.read (members : Members) : List (String × Json) :=
  members.map fun entry => (entry.1, (Json.read entry.2).getD .null)

/-- The line of a member. -/
def entryText (entry : String × String) : String :=
  "    " ++ Text.Quoted.json entry.1 ++ ": " ++ entry.2

theorem intercalate_cons {α : Type} (separator first : List α) (others : List (List α)) :
    separator.intercalate (first :: others) =
      first ++ others.flatMap fun other => separator ++ other := by
  induction others generalizing first with
  | nil => simp
  | cons second others ih =>
    rw [List.intercalate_cons_cons, ih, List.flatMap_cons, List.append_assoc, List.append_assoc]

/-- Texts on lines of their own, with commas between them. -/
theorem toList_lines {ι : Type} (text : ι → String) (first : ι) (others : List ι) :
    '\n' :: (String.intercalate ",\n" ((first :: others).map text)).toList =
      ('\n' :: (text first).toList) ++ others.flatMap fun other =>
        [','] ++ '\n' :: (text other).toList := by
  rw [String.toList_intercalate, List.map_map, List.map_cons, intercalate_cons, List.flatMap_map,
    List.cons_append]
  rfl

theorem toList_entryText (entry : String × String) : '\n' :: (entryText entry).toList =
    (Json.indent 4 ++ (Text.Quoted.json entry.1).toList) ++
      (([] ++ [':']) ++ ([' '] ++ entry.2.toList)) := by
  simp [entryText, Json.indent, List.replicate_succ]

theorem toList_rowJson (entry : String × String) (entries : Members) :
    '\n' :: (rowJson (entry :: entries)).toList = Json.indent 2 ++ '\x7b' ::
      ((('\n' :: (entryText entry).toList) ++ entries.flatMap fun entry =>
        [','] ++ '\n' :: (entryText entry).toList) ++ (Json.indent 2 ++ ['\x7d'])) := by
  rw [← toList_lines, rowJson]
  simp only [String.toList_append]
  rfl

theorem toList_rowsJson_nil (names : List String) :
    (rowsJson names []).toList = [] ++ '[' :: ([] ++ [']']) := by
  rw [rowsJson, List.isEmpty_nil, if_pos rfl]
  rfl

theorem toList_rowsJson (names : List String) (first : List Value) (others : List (List Value)) :
    (rowsJson names (first :: others)).toList = [] ++ '[' ::
      ((('\n' :: (rowJson (rowMembers names first)).toList) ++ others.flatMap fun row =>
        [','] ++ '\n' :: (rowJson (rowMembers names row)).toList) ++ (Json.indent 0 ++ [']'])) := by
  rw [← toList_lines fun row => rowJson (rowMembers names row), rowsJson, List.isEmpty_cons,
    if_neg Bool.false_ne_true]
  simp only [String.toList_append]
  rfl

/-! ## Reading -/

theorem takes_entryText (name : String) (v : Value) (depth : Nat) {rest : List Char}
    (stop : Stops Json.isNumeric rest) :
    Takes (Json.member (Json.value (depth + 1))) ('\n' :: (entryText (name, valueJson v)).toList)
      (name, v.json) rest := by
  have quoted (rest : List Char) : Takes (Json.token Json.quoted)
      (Json.indent 4 ++ (Text.Quoted.json name).toList) name rest := by
    refine Json.takes_token (fun _ => Json.isBlank_of_mem_indent) ?_ (Json.takes_quoted name rest)
    simp [Text.Quoted.json, Json.isBlank]
  rw [toList_entryText]
  exact (quoted _).bind ((Json.takes_mark (List.forall_mem_nil _) rfl _).bind
    (Json.takes_value depth (List.forall_mem_singleton.2 rfl) (takes_valueJson v stop)).map)

/-- A member does not look like the end of its object. -/
theorem opens_entryText (entry : String × String) (rest : List Char) :
    Json.token (char '\x7d') ('\n' :: (entryText entry).toList ++ rest) = none := by
  have shape : '\n' :: (entryText entry).toList ++ rest = Json.indent 4 ++ '"' ::
      ((String.join (entry.1.toList.map Text.Quoted.jsonChar) ++ "\"" ++ ": " ++ entry.2).toList ++
        rest) := by
    simp [entryText, Text.Quoted.json, Json.indent, List.replicate_succ]
  rw [shape]
  exact Json.mark_eq_none (fun _ => Json.isBlank_of_mem_indent) rfl (by decide)

/-- A row that is written is read as its members. -/
theorem takes_rowJson (width : row.length = names.length) (some : names ≠ []) (depth : Nat)
    (rest : List Char) :
    Takes (Json.value (depth + 2)) ('\n' :: (rowJson (rowMembers names row)).toList)
      (.object (rowMembers names row).read) rest := by
  have each : ∀ entry ∈ rowMembers names row, ∀ rest, Stops Json.isNumeric rest →
      Takes (Json.member (Json.value (depth + 1))) ('\n' :: (entryText entry).toList)
        (entry.1, (Json.read entry.2).getD .null) rest := by
    rintro ⟨name, text⟩ hentry rest stop
    obtain ⟨v, -, rfl⟩ := (mem_rowMembers_iff width).1 hentry
    rw [read_valueJson, Option.getD_some]
    exact takes_entryText name v depth stop
  obtain ⟨entry, entries, hmembers⟩ := List.exists_cons_of_ne_nil (rowMembers_ne_nil width some)
  rw [hmembers] at each ⊢
  rw [toList_rowJson]
  exact Json.takes_object (fun _ => Json.isBlank_of_mem_indent) (Json.takes_listed rfl (by decide)
    (fun _ => Json.isBlank_of_mem_indent) each (opens_entryText entry) rest)

/-- An object does not look like the end of its array. -/
theorem opens_rowJson (entry : String × String) (entries : Members) (rest : List Char) :
    Json.token (char ']') ('\n' :: (rowJson (entry :: entries)).toList ++ rest) = none := by
  rw [toList_rowJson, List.append_assoc, List.cons_append]
  exact Json.mark_eq_none (fun _ => Json.isBlank_of_mem_indent) rfl (by decide)

/-- The text of rows says of each row, in their order, what its members say. -/
theorem read_rowsJson {rows : List (List Value)} (some : names ≠ [])
    (width : ∀ row ∈ rows, row.length = names.length) : Json.read (rowsJson names rows) =
      .some (.array (rows.map fun row => .object (rowMembers names row).read)) := by
  refine Json.read_eq_some ?_
  cases rows with
  | nil =>
    rw [toList_rowsJson_nil]
    exact Json.takes_array (List.forall_mem_nil _) <|
      (Json.takes_mark (List.forall_mem_nil _) rfl _).bind
        (takes_orElse (Json.takes_mark (List.forall_mem_nil _) rfl _).map)
  | cons first rows =>
    have shape := toList_rowsJson names first rows
    have long : 2 ≤ (rowsJson names (first :: rows)).length := by
      rw [← String.length_toList, shape]
      simp
    -- Members lie in objects, and these in the array.
    obtain ⟨depth, deep⟩ : ∃ depth, (rowsJson names (first :: rows)).length + 1 = depth + 3 :=
      ⟨_, (Nat.sub_add_cancel (Nat.succ_le_succ long)).symm⟩
    obtain ⟨entry, entries, hmembers⟩ :=
      List.exists_cons_of_ne_nil (rowMembers_ne_nil (width first List.mem_cons_self) some)
    have opens (rest : List Char) : Json.token (char ']')
        ('\n' :: (rowJson (rowMembers names first)).toList ++ rest) = none := by
      rw [hmembers]
      exact opens_rowJson entry entries rest
    rw [deep, shape]
    exact Json.takes_array (List.forall_mem_nil _) (Json.takes_listed rfl (by decide)
      (fun _ => Json.isBlank_of_mem_indent)
      (fun row hrow rest _ => takes_rowJson (width row hrow) some depth rest) opens [])

/-! ## What is told of a row -/

/-- What the object that a row is shown as tells of it. -/
structure Shows (names : List String) (row : List Value) (object : List (String × Json)) :
    Prop where
  /-- The row has a value for each column. -/
  width : row.length = names.length
  /-- The members are in the order of their names, and no name comes twice. -/
  sorted : (object.map Prod.fst).Pairwise (· < ·)
  /-- There is a member for each name, and its value is that of the last column of that name. -/
  mem_iff : ∀ name json, (name, json) ∈ object ↔ ∃ v, LastOf names row name v ∧ json = v.json
  /-- There are as many members as columns exactly if no two columns have one name. -/
  length_iff : object.length = names.length ↔ names.Nodup
  /-- If so, each column appears under its name. -/
  each : names.Nodup → ∀ (i : Nat) name v, names[i]? = some name → row[i]? = some v →
    (name, v.json) ∈ object

theorem map_fst_read (members : Members) : members.read.map Prod.fst = members.map Prod.fst := by
  rw [Members.read, List.map_map]
  rfl

theorem mem_read_iff (width : row.length = names.length) {name : String} {json : Json} :
    (name, json) ∈ (rowMembers names row).read ↔ ∃ v, LastOf names row name v ∧ json = v.json := by
  simp only [Members.read, List.mem_map, Prod.exists, Prod.mk.injEq]
  constructor
  · rintro ⟨_, text, hentry, rfl, rfl⟩
    obtain ⟨v, last, rfl⟩ := (mem_rowMembers_iff width).1 hentry
    exact ⟨v, last, by rw [read_valueJson, Option.getD_some]⟩
  · rintro ⟨v, last, rfl⟩
    exact ⟨name, valueJson v, (mem_rowMembers_iff width).2 ⟨v, last, rfl⟩, rfl,
      by rw [read_valueJson, Option.getD_some]⟩

theorem mem_map_fst_rowMembers_iff (width : row.length = names.length) {name : String} :
    name ∈ (rowMembers names row).map Prod.fst ↔ name ∈ names := by
  rw [List.mem_map]
  constructor
  · rintro ⟨⟨_, text⟩, hentry, rfl⟩
    obtain ⟨v, ⟨i, hname, -⟩, -⟩ := (mem_rowMembers_iff width).1 hentry
    exact List.mem_of_getElem? hname
  · intro hname
    obtain ⟨v, last⟩ := exists_lastOf width hname
    exact ⟨_, (mem_rowMembers_iff width).2 ⟨v, last, rfl⟩, rfl⟩

/-- Without a name twice every value is the last of its name. -/
theorem lastOf_of_nodup (distinct : names.Nodup) {i : Nat} {name : String} {v : Value}
    (hname : names[i]? = some name) (hrow : row[i]? = some v) : LastOf names row name v := by
  refine ⟨i, hname, hrow, fun later => ?_⟩
  obtain ⟨j, hj⟩ := List.mem_iff_getElem?.1 later
  rw [List.getElem?_drop] at hj
  have bound := (List.getElem?_eq_some_iff.1 hname).1
  have same := (List.getElem?_inj bound distinct).1 (hname.trans hj.symm)
  omega

/-- A row has as many members as there are different names. -/
theorem length_rowMembers (width : row.length = names.length) :
    (rowMembers names row).length = names.dedup.length := by
  have nodup : ((rowMembers names row).map Prod.fst).Nodup :=
    (sorted_rowMembers width).imp fun before => Std.ne_of_lt before
  have same : ((rowMembers names row).map Prod.fst).Perm names.dedup := by
    refine (List.perm_ext_iff_of_nodup nodup names.nodup_dedup).2 fun name => ?_
    rw [mem_map_fst_rowMembers_iff width, List.mem_dedup]
  rw [← List.length_map (f := Prod.fst), same.length_eq]

/-- There are as many different names as names exactly if none is there twice. -/
theorem length_dedup_eq_iff : names.dedup.length = names.length ↔ names.Nodup := by
  constructor
  · intro same
    exact List.dedup_eq_self.1 (names.dedup_sublist.eq_of_length same)
  · intro distinct
    rw [List.dedup_eq_self.2 distinct]

/-- What is read of a row shows it. -/
theorem shows_read (width : row.length = names.length) :
    Shows names row (rowMembers names row).read where
  width := width
  sorted := by
    rw [map_fst_read]
    exact sorted_rowMembers width
  mem_iff _ _ := mem_read_iff width
  length_iff := by
    rw [Members.read, List.length_map, length_rowMembers width, length_dedup_eq_iff]
  each distinct _ _ v hname hrow :=
    (mem_read_iff width).2 ⟨v, lastOf_of_nodup distinct hname hrow, rfl⟩

end Row

end CommandLine

end SqlWire
