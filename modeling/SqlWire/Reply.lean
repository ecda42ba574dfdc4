import SqlWire.Column.Descriptor
import SqlWire.Row

/-!
# Replies

One type for the answer to each request that has one, with the reader of its payload. Octets behind
the last part of an answer are left alone.
-/

namespace SqlWire

open Wire

/-! ## Connecting -/

/-- The server's answer to the mark that opens a connection. -/
structure Preamble where
  /-- The byte order of everything that follows. -/
  order : ByteOrder
  serverVersion : UInt8
  /-- Zero if the server goes on. -/
  refusal : UInt16
  deriving DecidableEq

/-- The mark that opens a connection. -/
def Preamble.mark : Octets := [0x7E, 0x51, 0x4E, 0x50]

/-- Octets of the server's answer to the mark. -/
def Preamble.size : Nat := 4

/-- The preamble that four octets make. Any other number of octets makes none. -/
def Preamble.decode : Octets → Except Error Preamble
  | [flag, version, r₀, r₁] =>
    match ByteOrder.ofFlag? flag with
    | none => .error (.handshake (.unknownByteOrder flag))
    | some order => .ok ⟨order, version, UInt16.ofNat (order.toNat [r₀, r₁])⟩
  | _ => .error .connectionClosed

/-- The answer to a client key. -/
structure KeyReply where
  /-- The greatest frame that the server takes; zero for no limit. -/
  capacity : UInt32
  protocolVersion : UInt32
  /-- The client key, followed by octets of the server's choice. -/
  scramble : Octets
  /-- Rounds of key derivation. -/
  iterations : UInt32
  deriving DecidableEq

/-- Read the answer to a client key. -/
def KeyReply.read : Reader KeyReply := do
  let capacity ← Reader.u32
  let protocolVersion ← Reader.u32
  let scramble ← Reader.field
  let iterations ← Reader.u32
  return ⟨capacity, protocolVersion, scramble, iterations⟩

/-- The proof that the server knows the password. -/
structure Challenge where
  signingKey : Octets
  deriving DecidableEq

/-- Read a server's proof. -/
def Challenge.read : Reader Challenge := do
  return ⟨← Reader.field⟩

/-- The answer to a login. -/
structure LoginReply where
  /-- The number of a charset, not yet checked. -/
  charset : UInt32
  sessionId : UInt32
  /-- What the server says about itself, in the charset of the session. -/
  banner : Octets
  deriving DecidableEq

/-- Read the answer to a login. -/
def LoginReply.read : Reader LoginReply := do
  let charset ← Reader.u32
  let sessionId ← Reader.u32
  let banner ← Reader.field
  return ⟨charset, sessionId, banner⟩

/-! ## Rows -/

/-- Reply flag: descriptors follow. -/
def describedFlag : UInt32 := 0x1

/-- Reply flag: a batch of rows follows. -/
def rowsFlag : UInt32 := 0x2

/-- Reply flag: the server holds more rows. -/
def moreRowsFlag : UInt32 := 0x4

/-- Whether a flag is set. -/
def isSet (flags flag : UInt32) : Bool := flags &&& flag != 0

/-- The answer to the execution of a query. -/
structure ExecuteReply where
  /-- The handle of the statement. -/
  handle : Int32
  /-- Rows that the query changed. -/
  affected : UInt64
  /-- The columns, if the server describes them. -/
  columns : Option (List Descriptor)
  /-- The first rows, if there are any to come. -/
  rows : Option (List Row)
  /-- Whether the server holds more rows. -/
  hasMore : Bool
  deriving DecidableEq

/-- Read `r` if `present`. -/
def readIf {α : Type} (present : Bool) (r : Reader α) : Reader (Option α) := do
  if present then return some (← r) else return none

/-- Read rows whose number of columns is known from the descriptors at hand or from before. -/
def readRows (columns : Option (List Descriptor)) (known : Option Nat) : Reader (List Row) :=
  match columns, known with
  | some columns, _ => Row.readBatch columns.length
  | none, some known => Row.readBatch known
  | none, none => Reader.malformed .undescribedRows

/-- Read the answer to the execution of a query that is known to have so many columns, if it is
known at all. -/
def ExecuteReply.read (charset : Charset) (known : Option Nat) : Reader ExecuteReply := do
  let handle ← Reader.i32
  let flags ← Reader.u32
  let affected ← Reader.u64
  let columns ← readIf (isSet flags describedFlag) (Descriptor.readList charset)
  let rows ← readIf (isSet flags rowsFlag) (readRows columns known)
  return ⟨handle, affected, columns, rows, isSet flags moreRowsFlag⟩

/-- The answer to a request for more rows. -/
structure FetchReply where
  rows : List Row
  /-- Whether the server holds more rows. -/
  hasMore : Bool
  deriving DecidableEq

/-- Read the answer to a request for more rows. -/
def FetchReply.read (columns : Nat) : Reader FetchReply := do
  let flags ← Reader.u32
  let rows ← Row.readBatch columns
  return ⟨rows, isSet flags moreRowsFlag⟩

end SqlWire
