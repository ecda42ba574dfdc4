import SqlWire.Options
import SqlWire.Toml.Document

/-!
# Options files

Options are kept in a TOML document. A key that is missing leaves its option at the default, a key
that names no option is ignored, and a value of another type than its option has is refused.
-/

namespace SqlWire.Options

open Toml

/-- A text under a key, if there is one. -/
def textAt? (entries : Entries) (key : String) : Option (Option String) :=
  match entries.lookup key with
  | none => some none
  | some (.text value) => some (some value)
  | some _ => none

/-- A text under a key, or a default. -/
def textAt (entries : Entries) (key otherwise : String) : Option String :=
  (textAt? entries key).map fun text => text.getD otherwise

/-- A number below `2 ^ width` under a key, or a default. -/
def numberAt (entries : Entries) (key : String) (width otherwise : Nat) : Option Nat :=
  match entries.lookup key with
  | none => some otherwise
  | some (.integer value) =>
    if 0 ≤ value ∧ value < (Nat.pow 2 width : Int) then some value.toNat else none
  | some _ => none

/-- The options of a document. -/
def ofEntries (entries : Entries) : Option Options := do
  let base : Options := {}
  let host ← textAt entries "host" base.host
  let port ← numberAt entries "port" 16 base.port.toNat
  let user ← textAt entries "user" base.user
  let password ← textAt entries "password" base.password
  let tenant ← textAt? entries "tenant"
  let fetchSize ← numberAt entries "fetch_size" 32 base.fetchSize.toNat
  let connectTimeout ← numberAt entries "connect_timeout_secs" 64 base.connectTimeout.toNat
  let clientAddress ← textAt? entries "client_addr"
  return {
    host := host
    port := UInt16.ofNat port
    user := user
    password := password
    tenant := tenant
    fetchSize := UInt32.ofNat fetchSize
    connectTimeout := UInt64.ofNat connectTimeout
    clientAddress := clientAddress }

/-- The options in the text of a file, if a connection can be made with them. -/
def ofToml (text : String) : Except Error Options :=
  match (parse? text).bind ofEntries with
  | none => .error (.options .invalidToml)
  | some options => options.validate.map fun _ => options

end SqlWire.Options
