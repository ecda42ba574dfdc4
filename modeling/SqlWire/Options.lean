import SqlWire.Error
import SqlWire.Text.Quoted

/-!
# Connection options

What a caller decides before connecting. `Options.validate` names the first of the options that no
connection can be made with; `Options.shown` keeps the password to itself.
-/

namespace SqlWire

/-- What a connection is opened with. -/
structure Options where
  host : String := "localhost"
  port : UInt16 := 4588
  user : String := ""
  password : String := ""
  /-- A label that is sent along with the user. -/
  tenant : Option String := none
  /-- Rows asked for in one round trip. -/
  fetchSize : UInt32 := 100
  /-- Seconds within which a connection must be ready. -/
  connectTimeout : UInt64 := 10
  /-- The address of the client to report instead of its own. -/
  clientAddress : Option String := none
  deriving DecidableEq, Inhabited

namespace Options

/-- Accept options that a connection can be made with. -/
def validate (options : Options) : Except Error Unit :=
  if options.user.isEmpty then .error (.options .emptyUser)
  else if options.host.isEmpty then .error (.options .emptyHost)
  else if options.fetchSize = 0 then .error (.options .zeroFetchSize)
  else .ok ()

/-- Host and port with a colon between them. -/
def address (options : Options) : String :=
  options.host ++ ":" ++ Text.decimal options.port.toNat

/-- A text that may be absent, for people. -/
def shownText : Option String → String
  | none => "None"
  | some text => "Some(" ++ Text.Quoted.readable text ++ ")"

/-- All options for people, the password blotted out. -/
def shown (options : Options) : String :=
  "ConnectOptions \x7b host: " ++ Text.Quoted.readable options.host ++
    ", port: " ++ Text.decimal options.port.toNat ++
    ", user: " ++ Text.Quoted.readable options.user ++
    ", password: " ++ Text.Quoted.readable "***" ++
    ", tenant: " ++ shownText options.tenant ++
    ", fetch_size: " ++ Text.decimal options.fetchSize.toNat ++
    ", connect_timeout_secs: " ++ Text.decimal options.connectTimeout.toNat ++
    ", client_addr: " ++ shownText options.clientAddress ++ " \x7d"

end Options

end SqlWire
