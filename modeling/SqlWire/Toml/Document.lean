import SqlWire.Toml.Scalar

/-!
# Reading TOML documents

A document is read in two steps. `lines` takes the text apart into key-value pairs and headers, and
`Builder` puts them together to the tree of tables, which fails where a key or a header is repeated
or contradicts what came before. `parse?` does both.
-/

namespace SqlWire.Toml

open Text Text.Parser

/-! ## Lines -/

/-- The most parts a dotted key may have, plus one; nested values stop one level earlier too. -/
def depthLimit : Nat := 80

/-- Blanks, comments and line ends, as allowed within an array. -/
def gaps : Parser Unit := do
  let _ ← many (firstOf [
    (do let _ ← satisfy isBlank),
    newline,
    (do comment; newline)])

/-- One part of a key. -/
def keyPart : Parser String :=
  firstOf [
    basicString,
    literalString,
    do
      let isBare (c : Char) : Bool := c.isAlphanum || c == '-' || c == '_'
      let first ← satisfy isBare
      return String.ofList (first :: (← takeWhile isBare))]

/-- A key: its parts but the last, and the last. -/
def key : Parser (List String × String) := do
  let parts ← separated (do blanks; let part ← keyPart; blanks; return part) (char '.')
  match parts.getLast? with
  | some last => if parts.length < depthLimit then return (parts.dropLast, last) else fail
  | none => fail

/-- A value in which `depth` more levels may be nested. -/
def value : (depth : Nat) → Parser Node
  | 0 => scalar
  | depth + 1 =>
    let item : Parser Node := do gaps; let node ← value depth; gaps; return node
    let array : Parser Node := do
      let _ ← char '['
      let items ← optional (separated item (char ','))
      if items.isSome then
        let _ ← optional (char ',')
      gaps
      let _ ← char ']'
      return .array (items.getD [])
    let pair : Parser Pair := do
      let (path, last) ← key
      let _ ← char '='
      blanks
      let node ← value depth
      blanks
      return ⟨path, last, node⟩
    let table : Parser Node := do
      let _ ← char '\x7b'
      let pairs ← optional (separated pair (char ','))
      blanks
      let _ ← char '\x7d'
      ofOption (ofPairs (pairs.getD []))
    firstOf [scalar, array, table]

/-- What a line says. -/
inductive Line where
  | blank
  | pair (pair : Pair)
  /-- The header of a table. -/
  | table (path : List String) (key : String)
  /-- The header of one of several tables. -/
  | element (path : List String) (key : String)

/-- The rest of a line behind what it says. -/
def lineEnd : Parser Unit := do
  blanks
  let _ ← optional comment
  orElse newline atEnd

/-- A line with its end. -/
def line : Parser Line := do
  blanks
  let said ← firstOf [
    (do
      literal "[["
      let (path, last) ← key
      literal "]]"
      return .element path last),
    (do
      literal "["
      let (path, last) ← key
      literal "]"
      return .table path last),
    (do
      let (path, last) ← key
      let _ ← char '='
      blanks
      let node ← value (depthLimit - 1)
      return .pair ⟨path, last, node⟩),
    pure .blank]
  lineEnd
  return said

/-- The lines of a document; a byte order mark at its start is left out. -/
def lines : Parser (List Line) := do
  let _ ← optional (char '\ufeff')
  let lines ← many line
  atEnd
  return lines

/-! ## Tables -/

/-- Where the table goes that is being read. -/
inductive Place where
  | top
  | table (path : List String) (key : String)
  | element (path : List String) (key : String)

/-- A document that is being put together: what is complete, and the table that pairs go into. -/
structure Builder where
  root : Entries := []
  current : Entries := []
  place : Place := .top

namespace Builder

/-- Put the current table into its place. -/
def settle (b : Builder) : Option Entries :=
  match b.place with
  | .top => if b.root.isEmpty then some b.current else none
  | .table path key =>
    (update .implied (fun _ entries =>
      if (entries.lookup key).isSome then none
      else some ((), entries ++ [(key, .table .headed b.current)])) path .headed b.root).map
        Prod.snd
  | .element path key =>
    (update .implied (fun _ entries =>
      match entries.lookup key with
      | none => some ((), entries ++ [(key, .tables [b.current])])
      | some (.tables items) => some ((), entries.replace key (.tables (b.current :: items)))
      | some _ => none) path .headed b.root).map Prod.snd

/-- Begin a table under a header. One that was only on the way to others is taken up again. -/
def beginTable (root : Entries) (path : List String) (key : String) : Option Builder := do
  let (current, root) ← update .implied (fun _ entries =>
    match entries.lookup key with
    | none => some ([], entries)
    | some (.table .implied inner) => some (inner, entries.erase key)
    | some _ => none) path .headed root
  return ⟨root, current, .table path key⟩

/-- Begin one more of several tables under one header. -/
def beginElement (root : Entries) (path : List String) (key : String) : Option Builder := do
  let (_, root) ← update .implied (fun _ entries =>
    match entries.lookup key with
    | none => some ((), entries)
    | some (.tables _) => some ((), entries)
    | some _ => none) path .headed root
  return ⟨root, [], .element path key⟩

/-- Take one more line. -/
def push (b : Builder) : Line → Option Builder
  | .blank => some b
  | .pair pair =>
    (insert .headed b.current pair.path pair.key pair.node).map fun current =>
      { b with current := current }
  | .table path key => do beginTable (← b.settle) path key
  | .element path key => do beginElement (← b.settle) path key

end Builder

/-- The pairs and tables at the top of a document. -/
def parse? (text : String) : Option Entries := do
  let (lines, _) ← lines text.toList
  (← lines.foldlM Builder.push {}).settle

end SqlWire.Toml
