import SqlWire.Session.Basic

/-!
# Statements

A statement runs queries over a session that it has to itself. The server gives it a handle with
the first reply that carries one; the handle is kept until the statement is closed, which releases
it on the server.
-/

namespace SqlWire

/-- A statement, with the session that it runs over. -/
structure Statement where
  session : Session
  handle : Option Handle := none
  /-- Rows asked for in one round trip. -/
  fetchSize : UInt32
  closed : Bool := false
  deriving DecidableEq

/-- A new statement. -/
def Session.statement (s : Session) : Statement :=
  { session := s, fetchSize := s.fetchSize }

namespace Statement

/-- Act on the session. -/
def onSession {α : Type} (x : Action Session α) : Action Statement α :=
  .within session (fun s st => { st with session := s }) x

/-- Ask for so many rows in one round trip, at least one. -/
def setFetchSize (rows : UInt32) (st : Statement) : Statement :=
  { st with fetchSize := max rows 1 }

/-- The handle of a statement after a reply with this one. A statement keeps the handle it has, and
rows cannot remain without a handle to fetch them with. -/
def adopt (current : Option Handle) (raw : Int32) (hasMore : Bool) :
    Except Error (Option Handle) :=
  match Handle.ofRaw? raw, current with
  | some new, none => .ok (some new)
  | some new, some old =>
    if new = old then .ok (some old)
    else .error (.malformed (.handleSwitched old.raw new.raw))
  | none, current => if hasMore then .error (.invalidHandle raw) else .ok current

/-- Run a query. The result is the reply with the columns of its rows. -/
def run (query : String) : Action Statement (ExecuteReply × List Descriptor) := do
  let st ← Action.get
  if st.closed then
    Action.fail .statementClosed
  let (reply, columns) ← onSession (Session.execute st.handle query st.fetchSize)
  let handle ← Action.ofExcept (adopt st.handle reply.handle reply.hasMore)
  Action.modify fun st => { st with handle := handle }
  return (reply, columns.getD [])

/-- Run a query for the number of rows that it changes. -/
def update (query : String) : Action Statement UInt64 := do
  return (← run query).1.affected

/-- Ask for more rows of the open result. -/
def fetch (columns : Nat) : Action Statement FetchReply := do
  let st ← Action.get
  if st.closed then Action.fail .statementClosed
  else
    match st.handle with
    | none => Action.fail (.invalidHandle Request.newStatement)
    | some handle => onSession (Session.fetch handle st.fetchSize columns)

/-- Close the statement and release its handle, if it has one. -/
def close : Action Statement Unit := do
  let st ← Action.get
  Action.modify fun st => { st with closed := true, handle := none }
  match st.handle with
  | none => return ()
  | some handle => onSession (Session.freeStatement handle)

end Statement

end SqlWire
