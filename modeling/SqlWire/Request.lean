import SqlWire.Charset
import SqlWire.Frame.Command
import SqlWire.Wire.Item

/-!
# Requests

A request is a command with its arguments. `Request.items` lays the arguments out; texts are
written in the charset of the session, an absent tenant as an empty text, and the address of the
client in UTF-8 whatever the charset.
-/

namespace SqlWire

/-- What a client asks a server. -/
inductive Request where
  /-- Offer a client key. -/
  | handshake (clientKey : Octets)
  /-- Say who wants to log in. -/
  | authInit (user : String) (clientKey : Octets) (tenant : Option String)
  /-- Prove knowledge of the password and describe the client. -/
  | login (user : String) (passwordHash : Octets) (clientAddress : String)
      (zoneOffset : Int32) (tenant : Option String) (flags : UInt32)
  | logout
  /-- Run a query on a statement. -/
  | execute (handle : Int32) (describe : Bool) (fetchSize : UInt32) (query : String)
  /-- Ask for more rows of a statement. -/
  | fetch (handle : Int32) (fetchSize : UInt32)
  /-- Let go of a statement. -/
  | freeStatement (handle : Int32)
  | commit
  | rollback
  | ping
  deriving DecidableEq

namespace Request

open Wire

/-- Login flag: rows come in binary form. -/
def binaryRows : UInt32 := 0x1

/-- Login flag: responses may span several frames. -/
def multiFrame : UInt32 := 0x2

/-- Execute flag: describe the columns. -/
def describeFlag : UInt32 := 0x1

/-- The handle that asks for a new statement. -/
def newStatement : Int32 := -1

/-- The command of a request. -/
def command : Request → Command
  | handshake _ => .handshake
  | authInit .. => .authInit
  | login .. => .login
  | logout => .logout
  | execute .. => .execute
  | fetch .. => .fetch
  | freeStatement _ => .freeStatement
  | commit => .commit
  | rollback => .rollback
  | ping => .ping

/-- The arguments of a request in the order they are written. -/
def items (charset : Charset) : Request → List Item
  | handshake clientKey => [.field clientKey]
  | authInit user clientKey tenant =>
    [.field (charset.encode user), .field clientKey, .field (charset.encode (tenant.getD ""))]
  | login user passwordHash clientAddress zoneOffset tenant flags =>
    [.field (charset.encode user), .field passwordHash, .field (Utf8.encode clientAddress),
      .i32 zoneOffset, .field (charset.encode (tenant.getD "")), .u32 flags]
  | execute handle describe fetchSize query =>
    [.i32 handle, .u32 (if describe then describeFlag else 0), .u32 fetchSize,
      .field (charset.encode query)]
  | fetch handle fetchSize => [.i32 handle, .u32 fetchSize]
  | freeStatement handle => [.i32 handle]
  | logout | commit | rollback | ping => []

/-- The payload of a request. -/
def payload (order : ByteOrder) (charset : Charset) (request : Request) : Octets :=
  encode order (request.items charset)

end Request

end SqlWire
