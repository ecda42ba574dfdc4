import SqlWire.Column.Value
import SqlWire.CommandLine.Layering

/-!
# Output

Rows are printed as a table with columns of equal width, or as JSON objects with their members
sorted by name. A failure is printed with all its causes.
-/

namespace SqlWire.CommandLine

/-! ## Tables -/

/-- A text with blanks after it up to a width. -/
def padRight (width : Nat) (text : String) : String :=
  text ++ String.ofList (List.replicate (width - text.length) ' ')

/-- The width of a column: that of its widest text. -/
def columnWidth (name : String) (texts : List String) : Nat :=
  (texts.map String.length).foldl max name.length

/-- The lines of a table: the names, a rule, and the rows. -/
def tableLines (names : List String) (rows : List (List Value)) : List String :=
  let cells := rows.map (List.map Value.display)
  let widths := names.mapIdx fun i name => columnWidth name (cells.filterMap fun row => row[i]?)
  let line (texts : List String) : String :=
    String.intercalate " | " (List.zipWith padRight widths texts)
  let rule := widths.map fun width => String.ofList (List.replicate width '-')
  line names :: String.intercalate "-+-" rule :: cells.map line

/-! ## JSON -/

/-- A value in JSON. Numbers and truth values are written as such, all else as its text. -/
def valueJson : Value → String
  | .null => "null"
  | .boolean value => if value then "true" else "false"
  | .signed value => Text.signed value
  | .unsigned value => Text.decimal value
  | .float value => value.json?.getD "null"
  | value => Text.Quoted.json value.display

/-- The members of an object, sorted by name. -/
abbrev Members := List (String × String)

/-- Give a name a value, in place of the one that it has. -/
def Members.insert (name value : String) : Members → Members
  | [] => [(name, value)]
  | (other, current) :: members =>
    if name = other then (name, value) :: members
    else if name < other then (name, value) :: (other, current) :: members
    else (other, current) :: Members.insert name value members

/-- The members of a row. Of two columns with one name the last is kept. -/
def rowMembers (names : List String) (row : List Value) : Members :=
  (names.zip row).foldl (fun members (name, value) => members.insert name (valueJson value)) []

/-- A row in JSON, within an array. -/
def rowJson (members : Members) : String :=
  let member : String × String → String := fun (name, value) =>
    "    " ++ Text.Quoted.json name ++ ": " ++ value
  "  \x7b\n" ++ String.intercalate ",\n" (members.map member) ++ "\n  \x7d"

/-- Rows in JSON. -/
def rowsJson (names : List String) (rows : List (List Value)) : String :=
  if rows.isEmpty then "[]"
  else
    "[\n" ++ String.intercalate ",\n" (rows.map fun row => rowJson (rowMembers names row)) ++ "\n]"

/-! ## Failures -/

/-- A cause with its further lines indented like its first, behind a number if there is one. -/
def causeText (number : Option Nat) (text : String) : String :=
  let (first, others) : String × String := match number with
    | some n =>
      let digits := Text.decimal n
      (String.ofList (List.replicate (5 - digits.length) ' ') ++ digits ++ ": ", "       ")
    | none => ("    ", "    ")
  first ++ String.intercalate ("\n" ++ others) (text.splitOn "\n")

/-- The report of a failure: what was being done, and why that failed. -/
def Failure.report (failure : Failure) : String :=
  let (head, causes) := match failure.doing with
    | some doing => (doing, failure.error.message :: failure.error.causes)
    | none => (failure.error.message, failure.error.causes)
  let listed := match causes with
    | [] => []
    | [cause] => ["", "Caused by:", causeText none cause]
    | causes => "" :: "Caused by:" :: causes.mapIdx fun i cause => causeText (some i) cause
  String.intercalate "\n" (("Error: " ++ head) :: listed) ++ "\n"

end SqlWire.CommandLine
