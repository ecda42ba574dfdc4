import SqlWire.Column.Descriptor

/-!
# Remembered shapes

The columns of a query are described once and remembered under its text. At most
`ShapeCache.capacity` shapes are remembered: a new description that finds the cache full empties it
first, also when it replaces an older one.
-/

namespace SqlWire

/-- The columns of queries, by the text of the query. -/
structure ShapeCache where
  entries : List (String × List Descriptor) := []
  deriving DecidableEq

namespace ShapeCache

/-- The most shapes that are remembered. -/
def capacity : Nat := 256

/-- The columns of a query. -/
def find? (cache : ShapeCache) (query : String) : Option (List Descriptor) :=
  cache.entries.lookup query

/-- Remember the columns of a query in place of what was known about it. -/
def insert (cache : ShapeCache) (query : String) (columns : List Descriptor) : ShapeCache :=
  ⟨(query, columns) :: cache.entries.filter fun entry => entry.1 != query⟩

/-- Take note of a description. One that is known already changes nothing. -/
def remember (cache : ShapeCache) (query : String) (columns : List Descriptor) : ShapeCache :=
  if cache.find? query = some columns then cache
  else if capacity ≤ cache.entries.length then insert {} query columns
  else cache.insert query columns

end ShapeCache

end SqlWire
