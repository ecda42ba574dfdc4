import SqlWire.Text.Digits

/-!
# Arguments

The command line is `[flags] query [flags] SQL` or `[flags] ping`. A flag with a value takes it from
the same argument or from the next one, short flags may be joined, no flag is given twice, and
behind `--` there are no flags. What is not given may come from an environment variable.
`Arguments.parse` reads all that; it stops at the first misuse or request for help.

Which of the two comes first is settled from left to right, with one exception. A value in an
argument of its own is looked at when something else follows it (`Scan.settle`), and a task counts
as a whole: its flags are seen before the value in front of it.
-/

namespace SqlWire.CommandLine

/-- What the command is to do. -/
inductive Task where
  /-- Run a query and show its rows. -/
  | query (sql : String) (fetchSize : Option UInt32) (json : Bool)
  /-- Connect and tell about the server. -/
  | ping
  deriving DecidableEq

/-- A command line, read. -/
structure Arguments where
  /-- The options file. -/
  config : Option String
  host : Option String
  port : Option UInt16
  user : Option String
  password : Option String
  tenant : Option String
  task : Task
  deriving DecidableEq

/-- Why a command line is not run. -/
inductive Stop where
  | misuse
  | help
  | version
  deriving DecidableEq

/-! ## Flags -/

/-- What a flag does. -/
inductive FlagKind where
  /-- It has a value, of which it accepts some. -/
  | value (accepts : String → Bool)
  | switch
  | stop (reason : Stop)

/-- A flag. -/
structure Flag where
  long : String
  short : Option Char := none
  kind : FlagKind
  /-- The variable that stands in for it. -/
  standIn : Option String := none

/-- The integer that a text writes in base ten, perhaps with a sign. -/
def integer? (text : String) : Option Int :=
  let number (ds : List Char) : Option Nat :=
    if ds.isEmpty || !ds.all Char.isDigit then none
    else some (Text.ofDigits (ds.map fun d => d.toNat - '0'.toNat))
  match text.toList with
  | '-' :: ds => (number ds).map fun n => -n
  | '+' :: ds => (number ds).map Int.ofNat
  | ds => (number ds).map Int.ofNat

/-- The number below `2 ^ width` that a text writes. -/
def number? (width : Nat) (text : String) : Option Nat :=
  match integer? text with
  | some n => if 0 ≤ n ∧ n < (Nat.pow 2 width : Int) then some n.toNat else none
  | none => none

/-- The flags before the task. -/
def commonFlags : List Flag := [
  { long := "config", short := 'c', kind := .value fun text => !text.isEmpty,
    standIn := "QAIL_NATIVE_CONFIG" },
  { long := "host", kind := .value fun _ => true, standIn := "QAIL_HOST" },
  { long := "port", short := 'p', kind := .value fun text => (number? 16 text).isSome,
    standIn := "QAIL_PORT" },
  { long := "user", short := 'u', kind := .value fun _ => true, standIn := "QAIL_USER" },
  { long := "password", kind := .value fun _ => true, standIn := "QAIL_PASSWORD" },
  { long := "tenant", kind := .value fun _ => true, standIn := "QAIL_TENANT" },
  { long := "log-level", kind := .value fun _ => true },
  { long := "help", short := 'h', kind := .stop .help },
  { long := "version", short := 'V', kind := .stop .version }]

/-- The flags of a query. -/
def queryFlags : List Flag := [
  { long := "fetch-size", kind := .value fun text => (number? 32 text).isSome },
  { long := "json", kind := .switch },
  { long := "help", short := 'h', kind := .stop .help }]

/-- The flags of a ping. -/
def pingFlags : List Flag := [
  { long := "help", short := 'h', kind := .stop .help }]

/-- Flags with their values, by long name. A switch has an empty value. -/
abbrev Given := List (String × String)

/-- Note the value of a flag. -/
def Given.add (given : Given) (flag : Flag) (text : String) : Except Stop Given :=
  if (given.lookup flag.long).isSome then .error .misuse
  else
    match flag.kind with
    | .value accepts => if accepts text then .ok ((flag.long, text) :: given) else .error .misuse
    | _ => .ok ((flag.long, text) :: given)

/-! ## Scanning -/

/-- How far a scan has come. -/
structure Scan where
  given : Given := []
  /-- The flag before, if it takes its value from an argument of its own, and that value, if it has
  come. It is not looked at yet. -/
  pending : Option (Flag × Option String) := none

/-- Look at the value that is pending. -/
def Scan.settle (scan : Scan) : Except Stop Given :=
  match scan.pending with
  | none => .ok scan.given
  | some (flag, some text) => scan.given.add flag text
  | some (_, none) => .error .misuse

/-- Whether an argument is a flag. A lone hyphen is none. -/
def isFlag (arg : String) : Bool :=
  arg.startsWith "-" && arg != "-"

/-- A long flag, with the value behind its equals sign if there is one. -/
def Scan.long (flags : List Flag) (given : Given) (name : String) (value? : Option String) :
    Except Stop Scan :=
  match flags.find? fun flag => flag.long == name with
  | none => .error .misuse
  | some flag =>
    match flag.kind, value? with
    | .value _, some value => return { given := ← given.add flag value }
    | .value _, none => .ok { given := given, pending := some (flag, none) }
    | _, some _ => .error .misuse
    | .stop reason, none => .error reason
    | .switch, none => return { given := ← given.add flag "" }

/-- Short flags that are joined. The first one with a value takes what follows it. -/
def Scan.short (flags : List Flag) (given : Given) : List Char → Except Stop Scan
  | [] => .ok { given := given }
  | c :: cs =>
    match flags.find? fun flag => flag.short == some c with
    | none => .error .misuse
    | some flag =>
      match flag.kind, cs with
      | .stop reason, _ => .error reason
      | .switch, cs => do short flags (← given.add flag "") cs
      | .value _, [] => .ok { given := given, pending := some (flag, none) }
      | .value _, '=' :: value => return { given := ← given.add flag (String.ofList value) }
      | .value _, value => return { given := ← given.add flag (String.ofList value) }

/-- Take one more argument that is a flag. -/
def Scan.flag (flags : List Flag) (scan : Scan) (arg : String) : Except Stop Scan := do
  let given ← scan.settle
  match arg.toList with
  | '-' :: '-' :: rest =>
    let name := rest.takeWhile (· != '=')
    let value? := (rest.dropWhile (· != '=')).tail?.map String.ofList
    Scan.long flags given (String.ofList name) value?
  | _ :: rest => Scan.short flags given rest
  | [] => throw .misuse

/-- Scan the arguments up to the first one that is neither a flag nor its value; the result has the
arguments from there on. -/
def scanFlags (flags : List Flag) (scan : Scan) : List String → Except Stop (Scan × List String)
  | [] => .ok (scan, [])
  | arg :: args =>
    match scan.pending with
    | some (flag, none) =>
      if isFlag arg then .error .misuse
      else scanFlags flags { scan with pending := some (flag, some arg) } args
    | _ =>
      if arg = "--" then .error .misuse
      else if isFlag arg then do scanFlags flags (← scan.flag flags arg) args
      else .ok (scan, arg :: args)

/-- Scan all arguments, of which at most `room` are neither flags nor values; the result has those
too. -/
def scanAll (flags : List Flag) (room : Nat) (scan : Scan) :
    List String → Except Stop (Given × List String)
  | [] => do return (← scan.settle, [])
  | arg :: args =>
    match scan.pending with
    | some (flag, none) =>
      if isFlag arg then .error .misuse
      else scanAll flags room { scan with pending := some (flag, some arg) } args
    | _ =>
      if arg = "--" then
        if args.length ≤ room then do return (← scan.settle, args) else .error .misuse
      else if isFlag arg then do scanAll flags room (← scan.flag flags arg) args
      else
        match room with
        | 0 => .error .misuse
        | room + 1 => do
          let (given, others) ← scanAll flags room { given := ← scan.settle } args
          return (given, arg :: others)

/-- Let variables stand in for flags that are not given. -/
def fillIn (environment : String → Option String) (flags : List Flag) (given : Given) :
    Except Stop Given :=
  flags.foldlM (fun given flag =>
    match given.lookup flag.long, flag.standIn.bind environment with
    | none, some text => given.add flag text
    | _, _ => .ok given) given

/-! ## Reading -/

/-- The task that arguments name. -/
def Task.parse : List String → Except Stop Task
  | "query" :: args => do
    let (given, others) ← scanAll queryFlags 1 {} args
    match others with
    | [sql] =>
      return .query sql (((given.lookup "fetch-size").bind (number? 32)).map UInt32.ofNat)
        (given.lookup "json").isSome
    | _ => throw .misuse
  | "ping" :: args => do
    let _ ← scanAll pingFlags 0 {} args
    return .ping
  | ["help"] | ["help", "query"] | ["help", "ping"] | ["help", "help"] => throw .help
  | _ => throw .misuse

/-- Read a command line. -/
def Arguments.parse (environment : String → Option String) (args : List String) :
    Except Stop Arguments := do
  let (scan, rest) ← scanFlags commonFlags {} args
  let task ← Task.parse rest
  let given ← fillIn environment commonFlags (← scan.settle)
  return {
    config := given.lookup "config"
    host := given.lookup "host"
    port := ((given.lookup "port").bind (number? 16)).map UInt16.ofNat
    user := given.lookup "user"
    password := given.lookup "password"
    tenant := given.lookup "tenant"
    task := task }

end SqlWire.CommandLine
