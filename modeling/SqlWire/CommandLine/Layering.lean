import SqlWire.CommandLine.Arguments
import SqlWire.Options.File

/-!
# Options in layers

The options of a command are those of its file, or the defaults without a file, with the flags on
top. The options of a file have to be usable on their own.
-/

namespace SqlWire.CommandLine

/-- A file: its path, and its text or why it cannot be read. -/
structure OptionsFile where
  path : String
  text : Except String String

/-- A failure, with what was being done if that is told. -/
structure Failure where
  doing : Option String
  error : Error
  deriving DecidableEq

/-- Tell what was being done when an error came up. -/
def attempt {α : Type} (doing : String) : Except Error α → Except Failure α
  | .ok a => .ok a
  | .error e => .error ⟨some doing, e⟩

/-- The options in a file. -/
def OptionsFile.load (file : OptionsFile) : Except Error Options :=
  match file.text with
  | .error reason => .error (.options (.unreadableFile file.path reason))
  | .ok text => Options.ofToml text

/-- Options with flags on top. -/
def Arguments.applyTo (args : Arguments) (base : Options) : Options :=
  { base with
    host := args.host.getD base.host
    port := args.port.getD base.port
    user := args.user.getD base.user
    password := args.password.getD base.password
    tenant := args.tenant.or base.tenant }

/-- The options of a command. `file` is the one that the arguments name, or else the standard one,
if there is one. -/
def Arguments.options (args : Arguments) (file : Option OptionsFile) : Except Failure Options := do
  let base ←
    match file, args.config with
    | none, _ => .ok {}
    | some file, some path => attempt ("Failed to load " ++ path) file.load
    | some file, none => attempt "Failed to load default options" file.load
  let options := args.applyTo base
  attempt "Invalid connection options" options.validate
  return options

end SqlWire.CommandLine
