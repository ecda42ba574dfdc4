/-!
# Commands

Every request names a command by one octet. A reply repeats it.
-/

namespace SqlWire

/-- What a request asks the server to do. -/
inductive Command where
  | handshake
  | authInit
  | login
  | logout
  | execute
  | fetch
  | freeStatement
  | commit
  | rollback
  | ping
  deriving DecidableEq

namespace Command

/-- The octet of a command. -/
def code : Command → UInt8
  | handshake => 0x01
  | authInit => 0x02
  | login => 0x03
  | logout => 0x04
  | execute => 0x10
  | fetch => 0x11
  | freeStatement => 0x12
  | commit => 0x13
  | rollback => 0x14
  | ping => 0x20

/-- All commands. -/
def all : List Command :=
  [handshake, authInit, login, logout, execute, fetch, freeStatement, commit, rollback, ping]

/-- The command of an octet. -/
def ofCode? (code : UInt8) : Option Command :=
  all.find? fun command => command.code == code

/-- The name of a command. -/
def name : Command → String
  | handshake => "Handshake"
  | authInit => "AuthInit"
  | login => "Login"
  | logout => "Logout"
  | execute => "Execute"
  | fetch => "Fetch"
  | freeStatement => "FreeStatement"
  | commit => "Commit"
  | rollback => "Rollback"
  | ping => "Ping"

end Command

end SqlWire
