import SqlWire.Session.Handshake
import SqlWire.Session.ResultSet

/-!
# Scripts

A script is what a caller does with a session, written down: calls on the session, calls on each
statement opened from it, and calls on each result of a statement. Running a script gives a report
of every call, with its outcome, the octets written during it, and what can be seen of the state
after it. Octets that were written during an inner call are reported there only. An abandoned call
does not end a script.
-/

namespace SqlWire

/-! ## Calls and answers -/

/-- A call on a result set. -/
inductive ResultCall where
  | next
  | previous
  | first
  | last
  | beforeFirst
  | afterLast
  | absolute (row : Int)
  | relative (offset : Int)
  | columns
  | columnIndex (name : String)
  | affected
  | row
  | values
  | raw (index : Nat)
  | isNull (index : Nat)
  | value (index : Nat)
  | signed (index : Nat)
  | unsigned (index : Nat)
  | float (index : Nat)
  | boolean (index : Nat)
  | decimal (index : Nat)
  | date (index : Nat)
  | time (index : Nat)
  | timestamp (index : Nat)
  | text (index : Nat)
  | octets (index : Nat)
  deriving DecidableEq

/-- What a call on a result set gives. -/
inductive ResultAnswer where
  /-- The move is made; whether it ended on a row. -/
  | moved (onRow : Bool)
  | left
  | columns (columns : List Descriptor)
  | index (index : Option Nat)
  | count (rows : UInt64)
  | row (row : Row)
  | values (values : List Value)
  | cell (cell : Cell)
  | truth (value : Bool)
  | value (value : Value)
  /-- A cell read as the caller said. -/
  | typed (value : Option Value)
  deriving DecidableEq

/-- A call on a statement. -/
inductive StatementCall where
  | setFetchSize (rows : UInt32)
  | update (query : String)
  /-- Run a query and go through its result. -/
  | query (text : String) (calls : List ResultCall)
  | close
  deriving DecidableEq

/-- A call on a session. -/
inductive SessionCall where
  /-- Look at the session. -/
  | state
  | ping
  | commit
  | rollback
  /-- Open a statement, use it, and drop it. -/
  | statement (calls : List StatementCall)
  | close
  deriving DecidableEq

/-! ## Reports -/

/-- What is seen of a call on a result set. -/
structure ResultReport where
  outcome : Outcome ResultAnswer
  sent : Octets
  rowNumber : Option Nat
  hasMore : Bool
  aborted : Bool

/-- What a call on a statement gives. -/
inductive StatementAnswer where
  | done
  | affected (rows : UInt64)
  /-- The octets that the query itself took, and the calls on its result. -/
  | result (sent : Octets) (reports : List ResultReport)

/-- What is seen of a call on a statement. -/
structure StatementReport where
  outcome : Outcome StatementAnswer
  sent : Octets
  handle : Option Handle
  fetchSize : UInt32
  closed : Bool

/-- What a call on a session gives. -/
inductive SessionAnswer where
  | done
  | state (session : Session)
  | statement (reports : List StatementReport)

/-- What is seen of a call on a session. -/
structure SessionReport where
  outcome : Outcome SessionAnswer
  sent : Octets
  broken : Bool
  /-- Whether the call ends the session. -/
  final : Bool

/-- The octets written between two states of a channel. -/
def sentBetween (before after : Channel) : Octets :=
  after.sent.drop before.sent.length

/-! ## Runs -/

namespace ResultSet

/-- Answer from the result as it stands. -/
def look {α : Type} (f : ResultSet → Except Error α) : Action ResultSet α := fun rs =>
  (.ofExcept (f rs), rs)

/-- Read a cell as the caller says, as a value. -/
def lookTyped {α : Type} (index : Nat) (toValue : α → Value)
    (reader : ByteOrder → Octets → Except Unreadable α) : Action ResultSet ResultAnswer :=
  look fun rs => return .typed ((← rs.typed index reader).map toValue)

/-- Make one call. -/
def perform : ResultCall → Action ResultSet ResultAnswer
  | .next => return .moved (← next)
  | .previous => return .moved (← previous)
  | .first => return .moved (← first)
  | .last => return .moved (← last)
  | .beforeFirst => do beforeFirst; return .left
  | .afterLast => do afterLast; return .left
  | .absolute row => return .moved (← absolute row)
  | .relative offset => return .moved (← relative offset)
  | .columns => look fun rs => return .columns rs.columns
  | .columnIndex name => look fun rs => return .index (rs.columnIndex? name)
  | .affected => look fun rs => return .count rs.affected
  | .row => look fun rs => return .row (← rs.row)
  | .values => look fun rs => return .values (← rs.values)
  | .raw index => look fun rs => return .cell (← rs.cell index)
  | .octets index => look fun rs => return .cell (← rs.cell index)
  | .isNull index => look fun rs => return .truth (← rs.isNull index)
  | .value index => look fun rs => return .value (← rs.value index)
  | .signed index => lookTyped index .signed Column.readSigned
  | .unsigned index => lookTyped index .unsigned Column.readUnsigned
  | .float index => lookTyped index .float Column.readFloat
  | .boolean index => lookTyped index .boolean fun _ => Column.readBoolean
  | .decimal index => lookTyped index .decimal fun _ => Column.readDecimal
  | .date index => lookTyped index .date Column.readDate
  | .time index => lookTyped index .time Column.readTime
  | .timestamp index => lookTyped index .timestamp Column.readTimestamp
  | .text index => look fun rs => return .typed ((← rs.text index).map .text)

/-- Make one call after the other. -/
def run : List ResultCall → ResultSet → List ResultReport × ResultSet
  | [], rs => ([], rs)
  | call :: calls, rs =>
    let (outcome, after) := perform call rs
    let report : ResultReport :=
      { outcome := outcome
        sent := sentBetween rs.statement.session.channel after.statement.session.channel
        rowNumber := after.rowNumber?
        hasMore := after.hasMore
        aborted := after.aborted }
    let (reports, last) := run calls after
    (report :: reports, last)

end ResultSet

namespace Statement

/-- Make one call, with the octets written outside of the calls on a result. -/
def perform (call : StatementCall) (st : Statement) :
    Outcome StatementAnswer × Octets × Statement :=
  let seen (x : Action Statement StatementAnswer) :=
    let (outcome, after) := x st
    (outcome, sentBetween st.session.channel after.session.channel, after)
  match call with
  | .setFetchSize rows => seen do Action.modify (setFetchSize rows); return .done
  | .update query => seen do return .affected (← update query)
  | .close => seen do close; return .done
  | .query text calls =>
    let (outcome, after) := query text st
    let sent := sentBetween st.session.channel after.session.channel
    match outcome with
    | .done rs =>
      let (reports, rs) := rs.run calls
      (.done (.result sent reports), [], rs.statement)
    | .failed e => (.failed e, sent, after)
    | .suspended => (.suspended, sent, after)

/-- Make one call after the other. -/
def runCalls : List StatementCall → Statement → List StatementReport × Statement
  | [], st => ([], st)
  | call :: calls, st =>
    let (outcome, sent, after) := perform call st
    let report : StatementReport :=
      { outcome := outcome
        sent := sent
        handle := after.handle
        fetchSize := after.fetchSize
        closed := after.closed }
    let (reports, last) := runCalls calls after
    (report :: reports, last)

end Statement

namespace Session

/-- Make one call, with the octets written outside of inner calls. -/
def perform (call : SessionCall) (s : Session) : Outcome SessionAnswer × Octets × Session :=
  let seen (x : Action Session SessionAnswer) :=
    let (outcome, after) := x s
    (outcome, sentBetween s.channel after.channel, after)
  match call with
  | .state => seen do return .state (← Action.get)
  | .ping => seen do ping; return .done
  | .commit => seen do commit; return .done
  | .rollback => seen do rollback; return .done
  | .close => seen do close; return .done
  | .statement calls =>
    let (reports, st) := s.statement.runCalls calls
    (.done (.statement reports), [], st.session)

/-- Make one call after the other. -/
def run : List SessionCall → Session → List SessionReport × Session
  | [], s => ([], s)
  | call :: calls, s =>
    let (outcome, sent, after) := perform call s
    let report : SessionReport :=
      { outcome := outcome
        sent := sent
        broken := after.broken
        final := call = .close }
    let (reports, last) := run calls after
    (report :: reports, last)

end Session

/-- What is seen of a whole connection. -/
structure Transcript where
  /-- The session as it was opened, or why it was not. -/
  connected : Outcome Session
  /-- The octets written while connecting. -/
  connectSent : Octets
  reports : List SessionReport
  /-- The channel at the end. -/
  channel : Channel

/-- Open a session and run a script over it. -/
def Transcript.of (hasher : PasswordHasher) (clientKey : Octets) (options : Options)
    (zoneOffset : Int32) (channel : Channel) (calls : List SessionCall) : Transcript :=
  match Session.connect hasher clientKey options unknownAddress zoneOffset channel with
  | (.done s, opened) =>
    let (reports, last) := s.run calls
    ⟨.done s, sentBetween channel opened, reports, last.channel⟩
  | (outcome, opened) => ⟨outcome, sentBetween channel opened, [], opened⟩

end SqlWire
