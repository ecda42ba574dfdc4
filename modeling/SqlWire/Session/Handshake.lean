import SqlWire.Auth.PasswordHasher
import SqlWire.Options
import SqlWire.Session.Basic

/-!
# Connecting

A connection is opened in four exchanges, each of which has to succeed before the next is begun.

* The mark goes out, and the preamble with the byte order comes back (`exchangeMark`).
* The client key goes out. The server returns it at the head of its scramble, with the number of
  rounds for key derivation (`exchangeKeys`).
* The user goes out. The server proves that it knows the password (`authenticate`).
* The client proves that too, and the charset of the session comes back (`login`).

`Session.connect` runs them over a channel and shuts it down when one fails.
-/

namespace SqlWire

/-- What the proofs of a session are computed from, besides the password. -/
structure SessionKeys where
  scramble : Octets
  iterations : UInt32
  deriving DecidableEq

namespace Session

/-- Send the mark and agree on the byte order. -/
def exchangeMark : Action Session Unit := do
  onChannel (Channel.write Preamble.mark)
  enter .markSent
  let octets ← onChannel (Channel.read Preamble.size)
  let preamble ← Action.ofExcept (Preamble.decode octets)
  if preamble.refusal ≠ 0 then
    Action.fail (.handshake (.preambleRefused preamble.refusal))
  Action.modify fun s => { s with
    order := preamble.order
    server := { s.server with preambleVersion := preamble.serverVersion } }
  enter .orderAgreed

/-- Offer the client key and check that it comes back. -/
def exchangeKeys (clientKey : Octets) : Action Session SessionKeys := do
  enter .keySent
  let reply ← ask (.handshake clientKey) KeyReply.read
  Action.ofExcept (checkEcho clientKey reply.scramble)
  if reply.iterations = 0 then
    Action.fail (.handshake .noIterations)
  Action.modify fun s => { s with
    server := { s.server with
      capacity := reply.capacity
      protocolVersion := reply.protocolVersion } }
  enter .keyEchoed
  return ⟨reply.scramble, reply.iterations⟩

/-- Name the user and check the server's proof. -/
def authenticate (hasher : PasswordHasher) (options : Options) (clientKey : Octets)
    (keys : SessionKeys) : Action Session Unit := do
  enter .userSent
  let challenge ← ask (.authInit options.user clientKey options.tenant) Challenge.read
  if !hasher.verify (Utf8.encode options.password) keys.scramble keys.iterations
      challenge.signingKey then
    Action.fail .signingKeyRejected
  enter .serverVerified

/-- Prove knowledge of the password, describe the client and learn the charset. Part of the
description is by how many seconds the client's local time is ahead of universal time. -/
def login (hasher : PasswordHasher) (options : Options) (clientAddress : String)
    (zoneOffset : Int32) (keys : SessionKeys) : Action Session Unit := do
  let passwordHash :=
    hasher.deriveHash (Utf8.encode options.password) keys.scramble keys.iterations
  enter .loginSent
  let reply ← ask
    (.login options.user passwordHash clientAddress zoneOffset options.tenant
      (Request.binaryRows ||| Request.multiFrame))
    LoginReply.read
  let charset ← Action.ofExcept (Charset.ofWire reply.charset)
  Action.modify fun s => { s with
    charset := charset
    server := { s.server with
      sessionId := reply.sessionId
      banner := charset.decode reply.banner } }
  enter .ready

/-- The four exchanges, in order, on a fresh connection. -/
def handshake (hasher : PasswordHasher) (clientKey : Octets) (options : Options)
    (clientAddress : String) (zoneOffset : Int32) : Action Session Unit := do
  let s ← Action.get
  if s.phase ≠ .idle then
    Action.fail (.handshake (.notFresh s.phase))
  exchangeMark
  let keys ← exchangeKeys clientKey
  authenticate hasher options clientKey keys
  login hasher options clientAddress zoneOffset keys

/-- Shut a channel down over which a handshake has failed. What comes of that is not told, but the
attempt is over only when this is. -/
def giveUp (cause : Error) (channel : Channel) : Outcome Session × Channel :=
  let (outcome, channel) := channel.shutdown
  match outcome with
  | .suspended => (.suspended, channel)
  | _ => (.failed cause.asConnectFailure, channel)

/-- Open a session over a channel. Options that no connection can be made with are refused before
anything is written. A failed handshake shuts the channel down and is reported as the cause of a
failed attempt. -/
def connect (hasher : PasswordHasher) (clientKey : Octets) (options : Options)
    (ownAddress : String) (zoneOffset : Int32) (channel : Channel) : Outcome Session × Channel :=
  match options.validate with
  | .error e => (.failed e, channel)
  | .ok () =>
    let fresh : Session := { channel := channel, fetchSize := options.fetchSize }
    let address := options.clientAddress.getD ownAddress
    match handshake hasher clientKey options address zoneOffset fresh with
    | (.done (), s) => (.done s, s.channel)
    | (.failed cause, s) => giveUp cause s.channel
    | (.suspended, s) => (.suspended, s.channel)

end Session

end SqlWire
