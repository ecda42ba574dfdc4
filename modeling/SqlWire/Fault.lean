import SqlWire.Text.Digits

/-!
# Faults in what a server sends or a caller asks

Each kind of failure that has several causes gets its own type of causes here, with the wording of
each cause beside it. `SqlWire.Error` gathers them.
-/

namespace SqlWire

open Text (decimal signed)

/-! ## Connecting -/

/-- How far a connection has come. -/
inductive Phase where
  | idle
  | markSent
  | orderAgreed
  | keySent
  | keyEchoed
  | userSent
  | serverVerified
  | loginSent
  | ready
  | failed
  deriving DecidableEq, Inhabited

/-- The name of a phase in messages. -/
def Phase.name : Phase → String
  | idle => "Idle"
  | markSent => "MarkSent"
  | orderAgreed => "EndianNegotiated"
  | keySent => "HandshakeSent"
  | keyEchoed => "HandshakeAcked"
  | userSent => "AuthInitSent"
  | serverVerified => "AuthChallengeVerified"
  | loginSent => "LoginSent"
  | ready => "Ready"
  | failed => "Failed"

/-- Why a handshake is given up before any credential is at stake. -/
inductive HandshakeFault where
  /-- The preamble announces no byte order. -/
  | unknownByteOrder (flag : UInt8)
  /-- The preamble carries a refusal. -/
  | preambleRefused (flag : UInt16)
  /-- Zero rounds of key derivation are no derivation. -/
  | noIterations
  /-- A handshake starts on a fresh connection only. -/
  | notFresh (phase : Phase)
  /-- A cause in the words of a caller. -/
  | note (text : String)
  deriving DecidableEq

/-- The wording of a handshake fault. -/
def HandshakeFault.message : HandshakeFault → String
  | unknownByteOrder flag => "unknown endianness flag " ++ decimal flag.toNat
  | preambleRefused flag =>
    "server rejected connection preamble (flag 0x" ++ Text.hex 4 flag.toNat ++ ")"
  | noIterations => "server sent iteration count 0"
  | notFresh phase => "handshake cannot restart from " ++ phase.name
  | note text => text

/-! ## Frames and payloads -/

/-- A part of a payload that can be missing. -/
inductive Part where
  | octet
  | word16
  | word32
  | word64
  | rawOctets
  | fieldBody
  deriving DecidableEq

/-- The name of a part in messages. -/
def Part.name : Part → String
  | octet => "u8"
  | word16 => "u16"
  | word32 => "u32"
  | word64 => "u64"
  | rawOctets => "raw bytes"
  | fieldBody => "field body"

/-- What is wrong with a frame or with the payload of a reply. -/
inductive Malformation where
  /-- The payload ends before the part. -/
  | short (part : Part) (needed left : Nat)
  /-- A field that must have a value is NULL. -/
  | unexpectedNull
  /-- A frame cannot be shorter than its header. -/
  | frameTooShort (length : Nat)
  /-- A frame is longer than the limit. -/
  | frameTooLong (length limit : Nat)
  /-- What follows the length cannot hold a header. -/
  | noHeader
  /-- An error payload cannot hold its fixed fields. -/
  | errorTooShort (result : UInt8) (length : Nat)
  /-- The frames of a response add up to more than the limit. -/
  | responseTooLong (seq : UInt32) (limit frames : Nat)
  /-- Rows without columns have no extent. -/
  | rowsWithoutColumns (count : Nat)
  /-- The announced rows cannot fit into the payload. -/
  | batchTooLarge (count columns left : Nat)
  /-- Rows of a query whose columns were never described. -/
  | undescribedRows
  /-- A statement keeps the handle it was given. -/
  | handleSwitched (old new : Int32)
  /-- A cause in the words of a caller. -/
  | note (text : String)
  deriving DecidableEq

/-- The wording of a malformation. -/
def Malformation.message : Malformation → String
  | short part needed left =>
    part.name ++ ": need " ++ decimal needed ++ " bytes, " ++ decimal left ++ " left"
  | unexpectedNull => "unexpected NULL field"
  | frameTooShort length => "frame length " ++ decimal length ++ " shorter than header"
  | frameTooLong length limit => "frame length " ++ decimal length ++ " exceeds " ++ decimal limit
  | noHeader => "frame body shorter than header"
  | errorTooShort result length =>
    "error frame (result " ++ decimal result.toNat ++ ") with " ++ decimal length ++
      " payload bytes"
  | responseTooLong seq limit frames =>
    "response " ++ decimal seq.toNat ++ " exceeds " ++ decimal limit ++ " bytes after " ++
      decimal frames ++ " frames"
  | rowsWithoutColumns count =>
    decimal count ++ " rows received for a result without columns"
  | batchTooLarge count columns left =>
    "batch of " ++ decimal count ++ " rows x " ++ decimal columns ++ " columns exceeds " ++
      decimal left ++ " payload bytes"
  | undescribedRows => "row batch without field descriptors for an unknown query shape"
  | handleSwitched old new =>
    "server switched statement handle " ++ signed old.toInt ++ " to " ++ signed new.toInt
  | note text => text

/-! ## Errors of the server -/

/-- An error that the server reports. Line and column are zero where they do not apply. -/
structure ServerReport where
  code : Int32
  line : Int32
  column : Int32
  message : String
  deriving DecidableEq

/-- The wording of a server's report; the place is told when there is one. -/
def ServerReport.text (report : ServerReport) : String :=
  let place :=
    if 0 < report.line then
      " (line " ++ signed report.line.toInt ++ ", column " ++ signed report.column.toInt ++ ")"
    else ""
  "[" ++ signed report.code.toInt ++ "] " ++ report.message ++ place

/-! ## Options -/

/-- Why connection options are refused. -/
inductive OptionFault where
  | emptyUser
  | emptyHost
  | zeroFetchSize
  /-- The text is no TOML, or a key has a value of another type than its own. -/
  | invalidToml
  /-- The options file cannot be read. -/
  | unreadableFile (path reason : String)
  /-- A cause in the words of a caller. -/
  | note (text : String)
  deriving DecidableEq

/-- The wording of an option fault. -/
def OptionFault.message : OptionFault → String
  | emptyUser => "user must not be empty"
  | emptyHost => "host must not be empty"
  | zeroFetchSize => "fetch_size must be at least 1"
  | invalidToml => "invalid TOML"
  | unreadableFile path reason => "cannot read " ++ path ++ ": " ++ reason
  | note text => text

end SqlWire
