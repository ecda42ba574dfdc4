/-!
# TOML documents

A document is a tree of tables. How a table came about decides what may still be added to it:
`TableKind` keeps that. `update` follows a dotted path and makes the tables on it that are missing;
`insert` adds a pair, and `ofPairs` gathers the pairs of an inline table.
-/

namespace SqlWire.Toml

/-- How a table came about. -/
inductive TableKind where
  /-- Under a header of its own. -/
  | headed
  /-- On the way to the table of a header. -/
  | implied
  /-- On the way to the last key of a dotted one. -/
  | dotted
  /-- Between braces. -/
  | inlined
  deriving DecidableEq

/-- A value of a document. Only those kinds that options are made of keep what they write. -/
inductive Node where
  | text (value : String)
  | integer (value : Int)
  | float
  | boolean (value : Bool)
  | dateTime
  | array (items : List Node)
  | table (kind : TableKind) (entries : List (String × Node))
  /-- Tables under one repeated header, last to first. -/
  | tables (items : List (List (String × Node)))

/-- The pairs of a table, in order. -/
abbrev Entries := List (String × Node)

namespace Entries

/-- Put a node in the place of the one that a key has. -/
def replace (entries : Entries) (key : String) (node : Node) : Entries :=
  entries.map fun entry => if entry.1 == key then (key, node) else entry

/-- Leave out a key. -/
def erase (entries : Entries) (key : String) : Entries :=
  entries.filter fun entry => entry.1 != key

end Entries

/-- Change the table at the end of a path with `f`, which sees its kind and its entries. A missing
table becomes one of kind `missing`. A path of dotted keys does not lead through tables that have a
header, and no path leads through values. -/
def update {α : Type} (missing : TableKind) (f : TableKind → Entries → Option (α × Entries)) :
    List String → TableKind → Entries → Option (α × Entries)
  | [], kind, entries => f kind entries
  | key :: path, _, entries =>
    match entries.lookup key with
    | none => do
      let (a, inner) ← update missing f path missing []
      return (a, entries ++ [(key, .table missing inner)])
    | some (.table .inlined _) => none
    | some (.table kind inner) =>
      if missing = .dotted ∧ kind = .headed then none
      else do
        let (a, inner) ← update missing f path kind inner
        return (a, entries.replace key (.table kind inner))
    | some (.tables (last :: before)) => do
      let (a, last) ← update missing f path .headed last
      return (a, entries.replace key (.tables (last :: before)))
    | some _ => none

/-- Add a pair under a key that may be dotted: `path` is all of it but the last part. The table that
the pair goes into must not have come about in another way than by dotted keys. -/
def insert (kind : TableKind) (entries : Entries) (path : List String) (key : String)
    (node : Node) : Option Entries :=
  (update .dotted (fun kind entries =>
    if (kind == .dotted) == path.isEmpty then none
    else if (entries.lookup key).isSome then none
    else some ((), entries ++ [(key, node)])) path kind entries).map Prod.snd

/-- A pair as written: all parts of the key but the last, the last, and the value. -/
structure Pair where
  path : List String
  key : String
  node : Node

/-- The table with these pairs between braces. -/
def ofPairs (pairs : List Pair) : Option Node :=
  (pairs.foldlM (fun entries pair => insert .inlined entries pair.path pair.key pair.node) []).map
    (.table .inlined)

end SqlWire.Toml
