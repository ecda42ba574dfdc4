import SqlWire.CommandLine.Output
import SqlWire.Session.Handshake
import SqlWire.Session.Remaining

/-!
# Runs

A command line is run in three steps: it is read, the options are put together, and the task is
carried out over a connection. Each step may end the run with a `Report`. What happens outside, such
as reading a file, is left to the `Surroundings`.

Over the connection a plan is a pure function of what the server sends (`Plan.perform`). It is over
unless it waits for octets that have not come.
-/

namespace SqlWire.CommandLine

/-- What a run leaves behind. -/
structure Report where
  code : UInt8
  output : String := ""
  errors : String := ""
  deriving DecidableEq

/-- The name and version that the program tells. -/
def programVersion : String := "qail-native 0.2.1"

/-- How the program is called. -/
def usage : String :=
  "Usage: qail-native [OPTIONS] query [--fetch-size ROWS] [--json] SQL\n" ++
  "       qail-native [OPTIONS] ping\n"

/-- The report on a command line that is not run. -/
def Stop.report : Stop → Report
  | .misuse => { code := 2, errors := usage }
  | .help => { code := 0, output := usage }
  | .version => { code := 0, output := programVersion ++ "\n" }

/-- The report on a run that fails after it has printed something. -/
def Failure.ending (printed : String) (failure : Failure) : Report :=
  { code := 1, output := printed, errors := failure.report }

/-! ## Work -/

/-- A session at work. -/
structure Work where
  session : Session
  /-- What is being done, as a failure would tell it. -/
  doing : Option String := none
  /-- Everything printed so far. -/
  printed : String := ""

/-- Do something over the session. -/
def trying {α : Type} (doing : String) (x : Action Session α) : Action Work α := fun w =>
  let (outcome, session) := x w.session
  (outcome, { w with session := session, doing := some doing })

/-- Print a line. -/
def say (line : String) : Action Work Unit :=
  .modify fun w => { w with printed := w.printed ++ line ++ "\n" }

/-- The rows of a query, read. -/
structure Listing where
  names : List String
  rows : List (List Value)
  /-- Rows that the query changed. -/
  affected : UInt64

/-- The lines that show a listing. -/
def Listing.lines (listing : Listing) (json : Bool) : List String :=
  if listing.names.isEmpty then
    ["✓ " ++ Text.decimal listing.affected.toNat ++ " row(s) affected"]
  else if json then [rowsJson listing.names listing.rows]
  else
    tableLines listing.names listing.rows ++
      ["", "✓ " ++ Text.decimal listing.rows.length ++ " row(s)"]

/-- Run a query over the session, read all its rows, and release the statement. -/
def readListing (sql : String) : Action Work Listing := fun w =>
  match Statement.query sql w.session.statement with
  | (.failed e, st) => (.failed e, { w with session := st.session, doing := some "Query failed" })
  | (.suspended, st) => (.suspended, { w with session := st.session })
  | (.done rs, _) =>
    match rs.remaining with
    | (.failed e, rs) =>
      let doing := if rs.aborted then some "Fetch failed" else none
      (.failed e, { w with session := rs.statement.session, doing := doing })
    | (.suspended, rs) => (.suspended, { w with session := rs.statement.session })
    | (.done rows, last) =>
      let (outcome, st) := Statement.close last.statement
      let listing := ⟨rs.columns.map Descriptor.name, rows, rs.affected⟩
      (outcome.map fun _ => listing,
        { w with session := st.session, doing := some "Failed to release statement" })

/-- Show the rows of a query. -/
def showQuery (sql : String) (json : Bool) : Action Work Unit := do
  let listing ← readListing sql
  trying "Failed to close connection" Session.close
  (listing.lines json).forM say

/-- A span of time in the greatest unit of which it has at least one. -/
def duration (nanoseconds : Nat) : String :=
  let inUnits (places : Nat) (unit : String) : String :=
    let fraction :=
      (Text.padded places (nanoseconds % Nat.pow 10 places)).reverse.dropWhile (· == 0)
    let shown := if fraction.isEmpty then "" else "." ++ Text.ofDigitList fraction.reverse
    Text.decimal (nanoseconds / Nat.pow 10 places) ++ shown ++ unit
  if Nat.pow 10 9 ≤ nanoseconds then inUnits 9 "s"
  else if Nat.pow 10 6 ≤ nanoseconds then inUnits 6 "ms"
  else if Nat.pow 10 3 ≤ nanoseconds then inUnits 3 "µs"
  else inUnits 0 "ns"

/-- Show what is known about the server, once it answers. -/
def showServer (address : String) (elapsed : Nat) : Action Work Unit := do
  trying "Ping failed" Session.ping
  let w ← Action.get
  let server := w.session.server
  say ("✓ " ++ address)
  say ("  Banner:   " ++ server.banner)
  say ("  Session:  " ++ Text.decimal server.sessionId.toNat)
  say ("  Protocol: " ++ Text.decimal server.protocolVersion.toNat)
  say ("  Charset:  " ++ w.session.charset.name)
  say ("  Elapsed:  " ++ duration elapsed)
  trying "Failed to close connection" Session.close

/-! ## Plans -/

/-- A task, with options that a connection can be made with. -/
structure Plan where
  task : Task
  options : Options

/-- The failure to make a connection. -/
def unconnected (options : Options) (e : Error) : Failure :=
  ⟨some ("Failed to connect to " ++ options.address), e⟩

/-- Plan what the arguments ask for. The rows of one round trip are checked last, like all that has
to do with connecting. -/
def Arguments.plan (args : Arguments) (file : Option OptionsFile) : Except Failure Plan := do
  let base ← args.options file
  let options := match args.task with
    | .query _ (some rows) _ => { base with fetchSize := rows }
    | _ => base
  match options.validate with
  | .ok () => return ⟨args.task, options⟩
  | .error e => throw (unconnected options e)

/-- How far a plan has been carried out. -/
inductive Progress where
  | connecting
  | connected
  | over (report : Report)

/-- A plan over a new connection, as a function of the client's own address, the nanoseconds it has
taken, and the channel. -/
abbrev Conversation := String → Nat → Channel → Progress × Channel

/-- Carry out a plan. -/
def Plan.perform (plan : Plan) (hasher : PasswordHasher) (clientKey : Octets)
    (zoneOffset : Int32) : Conversation :=
  fun ownAddress elapsed channel =>
    match Session.connect hasher clientKey plan.options ownAddress zoneOffset channel with
    | (.suspended, channel) => (.connecting, channel)
    | (.failed e, channel) => (.over ((unconnected plan.options e).ending ""), channel)
    | (.done s, _) =>
      let work := match plan.task with
        | .query sql _ json => showQuery sql json
        | .ping => showServer plan.options.address elapsed
      let (outcome, w) := work { session := s }
      let progress := match outcome with
        | .done () => .over { code := 0, output := w.printed }
        | .failed e => .over (Failure.ending w.printed ⟨w.doing, e⟩)
        | .suspended => .connected
      (progress, w.session.channel)

/-! ## The whole run -/

/-- What a run needs from outside. -/
structure Surroundings (m : Type → Type) where
  /-- The value of a variable. -/
  environment : String → m (Option String)
  /-- Read a file. -/
  read : String → m OptionsFile
  /-- Read the file that is taken if none is named, if there is one. -/
  standard : m (Option OptionsFile)
  /-- A fresh client key. -/
  clientKey : m Octets
  /-- The seconds that the local time is ahead of UTC. -/
  zoneOffset : m Int32
  /-- Connect to the address in the options and hold a conversation, or tell why that is not
  possible. -/
  converse : Options → Conversation → m (Except String Report)

/-- Run a command line. -/
def run {m : Type → Type} [Monad m] (around : Surroundings m) (args : List String) : m Report := do
  let known ← (commonFlags.filterMap Flag.standIn).mapM fun name =>
    return (name, ← around.environment name)
  match Arguments.parse (fun name => (known.lookup name).join) args with
  | .error stop => return stop.report
  | .ok args =>
    let file ← match args.config with
      | some path => some <$> around.read path
      | none => around.standard
    match args.plan file with
    | .error failure => return failure.ending ""
    | .ok plan =>
      let clientKey ← around.clientKey
      let zoneOffset ← around.zoneOffset
      match ← around.converse plan.options (plan.perform .standard clientKey zoneOffset) with
      | .ok report => return report
      | .error reason =>
        return (unconnected plan.options (.connectFailed (.io reason))).ending ""

end SqlWire.CommandLine
