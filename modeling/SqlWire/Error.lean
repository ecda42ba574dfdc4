import SqlWire.Column.Failure
import SqlWire.Fault

/-!
# Errors

`Error` lists everything that can go wrong between the options and the last row. Callers branch on
its `Error.kind`; `Error.message` is its wording. A failed connection attempt wraps its cause, and
keeps the kind of that cause.

`Error.desynchronises` tells after which errors the position in the stream is lost.
-/

namespace SqlWire

open Text (decimal signed)

/-- The category of an error. -/
inductive ErrorKind where
  /-- The stream failed, or is no longer usable. -/
  | transport
  /-- The two sides could not agree on how to talk. -/
  | handshake
  /-- One side could not prove who it is. -/
  | auth
  /-- The server reported an error. -/
  | server
  /-- A malformed frame, or a misused statement or cursor. -/
  | protocol
  /-- The connection options cannot be used. -/
  | config
  deriving DecidableEq

/-- The name of a category. -/
def ErrorKind.name : ErrorKind → String
  | transport => "transport"
  | handshake => "handshake"
  | auth => "auth"
  | server => "server"
  | protocol => "protocol"
  | config => "config"

/-- Everything that can go wrong. -/
inductive Error where
  /-- The stream failed. -/
  | io (text : String)
  /-- The stream ended where octets were expected. -/
  | connectionClosed
  /-- An earlier exchange was interrupted. -/
  | broken
  | handshake (fault : HandshakeFault)
  /-- The server chose a charset that does not exist. -/
  | unsupportedCharset (value : UInt32)
  /-- The scramble departs from the client key at this octet. -/
  | clientKeyMismatch (offset : Nat)
  /-- The server does not know the password. -/
  | signingKeyRejected
  | server (report : ServerReport)
  | malformed (fault : Malformation)
  /-- The number addresses no statement. -/
  | invalidHandle (raw : Int32)
  /-- A forward scan has let go of the row, counted from one. -/
  | rowReleased (row : Nat)
  | noCurrentRow
  | columnOutOfRange (index count : Nat)
  | unreadable (column : String) (failure : Unreadable)
  /-- An earlier fetch of the same result failed. -/
  | resultAborted
  | statementClosed
  | options (fault : OptionFault)
  /-- A connection attempt failed for this cause. -/
  | connectFailed (cause : Error)
  deriving DecidableEq

namespace Error

/-- The category of an error; a failed attempt has the category of its cause. -/
def kind : Error → ErrorKind
  | io _ | connectionClosed | broken => .transport
  | handshake _ | unsupportedCharset _ => .handshake
  | clientKeyMismatch _ | signingKeyRejected => .auth
  | server _ => .server
  | malformed _ | invalidHandle _ | rowReleased _ | noCurrentRow | columnOutOfRange _ _
  | unreadable _ _ | resultAborted | statementClosed => .protocol
  | options _ => .config
  | connectFailed cause => cause.kind

/-- The wording of an error. -/
def message : Error → String
  | io text => "I/O error: " ++ text
  | connectionClosed => "connection closed by server"
  | broken => "connection is broken after an interrupted exchange"
  | handshake fault => "handshake failed: " ++ fault.message
  | unsupportedCharset value =>
    "unsupported server charset " ++ decimal value.toNat ++ " (configuration error)"
  | clientKeyMismatch offset =>
    "protocol violation: scramble does not echo the client key at byte " ++ decimal offset
  | signingKeyRejected => "server signing key verification failed"
  | server report => "server error " ++ report.text
  | malformed fault => "malformed frame: " ++ fault.message
  | invalidHandle raw => "invalid statement handle " ++ signed raw.toInt
  | rowReleased row =>
    "row " ++ decimal row ++ " is no longer available (released by forward scan)"
  | noCurrentRow => "cursor is not positioned on a row"
  | columnOutOfRange index count =>
    "column index " ++ decimal index ++ " out of range (" ++ decimal count ++ " columns)"
  | unreadable column failure =>
    "cannot decode " ++ column ++ " as " ++ failure.target.name ++ ": " ++ failure.reason.message
  | resultAborted => "result set aborted by an earlier fetch failure"
  | statementClosed => "statement is closed"
  | options fault => "invalid options: " ++ fault.message
  | connectFailed cause => "connection attempt failed: " ++ cause.message

/-- Whether this is a failed connection attempt. -/
def isConnectFailure : Error → Bool
  | connectFailed _ => true
  | _ => false

/-- The innermost cause. -/
def rootCause : Error → Error
  | connectFailed cause => cause.rootCause
  | e => e

/-- The server's report at the root of an error, if there is one. -/
def serverReport? (e : Error) : Option ServerReport :=
  match e.rootCause with
  | server report => some report
  | _ => none

/-- A failed attempt with this cause. An attempt that failed already is not wrapped again. -/
def asConnectFailure : Error → Error
  | connectFailed cause => connectFailed cause
  | e => connectFailed e

/-- Whether the place of the next frame in the stream is lost after this error. -/
def desynchronises (e : Error) : Bool :=
  (e.kind == .transport || e.kind == .protocol) && e != .broken

/-- The wordings of the causes beneath an error, outermost first. -/
def causes : Error → List String
  | connectFailed cause => cause.message :: cause.causes
  | io text => [text]
  | _ => []

end Error

end SqlWire
