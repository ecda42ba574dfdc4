import SqlWire.Reply
import SqlWire.Request
import SqlWire.Session.Channel
import SqlWire.Session.ShapeCache

/-!
# Sessions

A session is one connection with everything the two sides have agreed on. One request is
outstanding at a time: `Session.request` numbers it, writes its frames, and reads frames until the
response to that number is complete.

While a request is under way the session counts as broken. It stops to do so when the response is
complete, or when the request fails without losing the place in the stream. A broken session refuses
every request, so a request that is abandoned halfway breaks its session.
-/

namespace SqlWire

/-- What a server tells about itself while connecting. -/
structure ServerInfo where
  /-- The version in the preamble. -/
  preambleVersion : UInt8 := 0
  protocolVersion : UInt32 := 0
  /-- The greatest frame that the server takes; zero for no limit. -/
  capacity : UInt32 := 0
  sessionId : UInt32 := 0
  banner : String := ""
  deriving DecidableEq

/-- The client's side of a connection. -/
structure Session where
  channel : Channel
  phase : Phase := .idle
  order : ByteOrder := .big
  charset : Charset := .utf8
  server : ServerInfo := {}
  /-- Rows that a new statement asks for at a time. -/
  fetchSize : UInt32 := 100
  /-- The number of the last request. -/
  seq : UInt32 := 0
  /-- Whether an exchange was interrupted. -/
  broken : Bool := false
  shapes : ShapeCache := {}
  deriving DecidableEq

/-- The address that is reported of a client whose own address is not known. -/
def unknownAddress : String := "0.0.0.0"

/-- A statement's number on the server. -/
structure Handle where
  raw : Int32
  positive : 0 < raw
  deriving DecidableEq

/-- The handle of a number; zero and negative numbers address no statement. -/
def Handle.ofRaw? (raw : Int32) : Option Handle :=
  if h : 0 < raw then some ⟨raw, h⟩ else none

namespace Session

/-- Act on the channel. -/
def onChannel {α : Type} (x : Action Channel α) : Action Session α :=
  .within channel (fun c s => { s with channel := c }) x

/-- Reach a phase of the handshake. -/
def enter (phase : Phase) : Action Session Unit :=
  .modify fun s => { s with phase := phase }

/-! ## Requests -/

/-- Write a request under the next number and read its response. -/
def roundTrip (command : Command) (payload : Octets) : Action Session Response := do
  Action.modify fun s => { s with seq := s.seq + 1 }
  let s ← Action.get
  let frames := Frame.request command s.seq payload s.server.capacity.toNat
  onChannel (Channel.write (frames.flatMap (Frame.encode s.order)))
  onChannel (Channel.receive s.order { seq := s.seq })

/-- Send a request and give the payload of its response. -/
def request (r : Request) : Action Session Octets := fun s =>
  if s.broken then (.failed .broken, s)
  else
    match roundTrip r.command (r.payload s.order s.charset) { s with broken := true } with
    | (.done response, s) =>
      (.ofExcept (response.payload? s.order s.charset), { s with broken := false })
    | (.failed e, s) => (.failed e, { s with broken := e.desynchronises })
    | (.suspended, s) => (.suspended, s)

/-- Send a request and read the payload of its response. -/
def ask {α : Type} (r : Request) (reader : Wire.Reader α) : Action Session α := do
  let payload ← request r
  let s ← Action.get
  Action.ofExcept (reader s.order payload).1

/-- Send a request whose response carries nothing. -/
def tell (r : Request) : Action Session Unit := do
  let _ ← request r

/-- A round trip without effect. -/
def ping : Action Session Unit := tell .ping

/-- Commit the transaction. -/
def commit : Action Session Unit := tell .commit

/-- Roll the transaction back. -/
def rollback : Action Session Unit := tell .rollback

/-! ## Queries -/

/-- Run a query under a handle, or under a new one. The result is the reply, with the columns that
it describes or that are remembered. -/
def execute (handle : Option Handle) (query : String) (fetchSize : UInt32) :
    Action Session (ExecuteReply × Option (List Descriptor)) := do
  let s ← Action.get
  let known := s.shapes.find? query
  let raw := (handle.map Handle.raw).getD Request.newStatement
  let reply ← ask (.execute raw known.isNone fetchSize query)
    (ExecuteReply.read s.charset (known.map List.length))
  match reply.columns with
  | some columns =>
    Action.modify fun s => { s with shapes := s.shapes.remember query columns }
    return (reply, some columns)
  | none => return (reply, known)

/-- Ask for more rows of a statement. -/
def fetch (handle : Handle) (fetchSize : UInt32) (columns : Nat) : Action Session FetchReply :=
  ask (.fetch handle.raw fetchSize) (FetchReply.read columns)

/-- Let go of a statement on the server. -/
def freeStatement (handle : Handle) : Action Session Unit :=
  tell (.freeStatement handle.raw)

/-! ## The end -/

/-- Log out, if the session can still be used, and shut the stream down whatever comes of that. -/
def close : Action Session Unit := fun s =>
  let (outcome, s) :=
    if s.phase = .ready ∧ s.broken = false then tell .logout s else (.done (), s)
  match outcome with
  | .suspended => (.suspended, s)
  | _ => onChannel Channel.shutdown s

end Session

end SqlWire
