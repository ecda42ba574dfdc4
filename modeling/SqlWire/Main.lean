import SqlWire.CommandLine.Run
import Std.Async.DNS
import Std.Async.TCP
import Std.Async.Timer
import Std.Time

/-!
# The program

The command line over real files and sockets. Everything is decided by `CommandLine.run`; what is
here reads, connects, sends and receives for it.

What a client says is a function of what it has heard. So a conversation over a socket is worked out
from its beginning whenever something is heard, and what is not yet sent of it is sent (`hold`).
-/

namespace SqlWire.Program

open CommandLine Std.Async Std.Net

/-- A failure of the system in words, with its number. The number may come with its sign changed.
Beyond 3000 are the failures to find an address. -/
def reason : IO.Error → String
  | .alreadyExists _ code text | .noFileOrDirectory _ code text | .invalidArgument _ code text
  | .permissionDenied _ code text | .resourceExhausted _ code text
  | .inappropriateType _ code text | .otherError code text | .resourceBusy code text
  | .resourceVanished code text | .timeExpired code text | .noSuchThing _ code text =>
    let number := code.toInt32.toInt.natAbs
    if number < 3000 then text.capitalize ++ " (os error " ++ Text.decimal number ++ ")"
    else "failed to lookup address information: " ++ text.capitalize
  | e => toString e

/-! ## Files -/

/-- Read an options file. -/
def readFile (path : String) : IO OptionsFile := do
  match ← (IO.FS.readBinFile path).toBaseIO with
  | .error e => return ⟨path, .error (reason e)⟩
  | .ok octets =>
    match String.fromUTF8? octets with
    | some text => return ⟨path, .ok text⟩
    | none => return ⟨path, .error "stream did not contain valid UTF-8"⟩

/-- The path of the options file that is taken if none is named. -/
def standardPath : IO (Option String) := do
  let below (directory : String) : String := directory ++ "/qail/native.toml"
  match ← IO.getEnv "XDG_CONFIG_HOME" with
  | some directory => if directory.startsWith "/" then return some (below directory)
  | none => pure ()
  return (← IO.getEnv "HOME").map fun directory => below (directory ++ "/.config")

/-- Read the options file that is taken if none is named, if it exists. -/
def readStandardFile : IO (Option OptionsFile) := do
  match ← standardPath with
  | none => return none
  | some path =>
    match ← (IO.FS.readBinFile path).toBaseIO with
    | .error (.noFileOrDirectory _ _ _) => return none
    | _ => return some (← readFile path)

/-! ## Sockets -/

/-- The address of a port. -/
def socketAddress (port : UInt16) : IPAddr → SocketAddress
  | .v4 address => .v4 ⟨address, port⟩
  | .v6 address => .v6 ⟨address, port⟩

/-- Connect to the first of some addresses that takes a connection. -/
def dialAny (port : UInt16) : List IPAddr → Async TCP.Socket.Client
  | [] => throw (IO.userError "could not resolve to any addresses")
  | address :: addresses => do
    let socket ← TCP.Socket.Client.mk
    try
      socket.connect (socketAddress port address)
      socket.noDelay
      return socket
    catch e =>
      if addresses.isEmpty then throw e else dialAny port addresses

/-- Connect to the address in the options. -/
def dial (options : Options) : Async TCP.Socket.Client := do
  let addresses ← DNS.getAddrInfo options.host (Text.decimal options.port.toNat)
  dialAny options.port addresses.toList

/-- Something done before a point in time, or nothing. -/
def before {α : Type} (deadline : Nat) (x : Async α) : Async (Option α) := do
  let left := min (Nat.pow 2 31) (deadline - (← IO.monoMsNow))
  Async.race (some <$> x) do
    sleep (Std.Time.Millisecond.Offset.ofNat left)
    return none

/-- Hold a conversation over a socket until it is over, or nothing if it has not come to a
connection before the deadline. -/
partial def hold (socket : TCP.Socket.Client) (deadline : Nat)
    (talk : Channel → Async (Progress × Channel)) (channel : Channel) (sent : Nat) :
    Async (Option Report) := do
  let (progress, after) ← talk channel
  let unsent := after.sent.drop sent
  let fault ←
    try
      if !unsent.isEmpty then
        socket.send (ByteArray.mk unsent.toArray)
      pure none
    catch e => pure (some (reason e))
  match fault, progress with
  | some text, _ =>
    hold socket deadline talk { channel with room := some sent, atFull := .failing text } sent
  | none, .over report =>
    if after.shutdowns = 0 ∨ channel.atShutdown.isSome then return some report
    try
      socket.shutdown
      return some report
    catch e =>
      hold socket deadline talk { channel with atShutdown := some (.failing (reason e)) }
        after.sent.length
  | none, progress =>
    let receive : Async Channel :=
      try
        match ← socket.recv? 65536 with
        | some octets => pure { channel with unread := channel.unread ++ octets.toList }
        | none => pure { channel with atEnd := .closed }
      catch e => pure { channel with atEnd := .failing (reason e) }
    let heard ← match progress with
      | .connecting => before deadline receive
      | _ => some <$> receive
    match heard with
    | some channel => hold socket deadline talk channel after.sent.length
    | none => return none

/-- Connect and hold a conversation. -/
def converse (options : Options) (conversation : Conversation) : IO (Except String Report) :=
  Async.block do
    let start ← IO.monoNanosNow
    let limit := max 1 options.connectTimeout.toNat
    let deadline := (← IO.monoMsNow) + 1000 * limit
    let late := "connect to " ++ options.address ++ " timed out after " ++
      duration (Nat.pow 10 9 * limit)
    try
      match ← before deadline (dial options) with
      | none => return .error late
      | some socket =>
        let own := ((← (socket.getSockName).toBaseIO).toOption.map fun address =>
          toString address.ipAddr).getD unknownAddress
        let talk (channel : Channel) : Async (Progress × Channel) := do
          return conversation own ((← IO.monoNanosNow) - start) channel
        match ← hold socket deadline talk { unread := [], atEnd := .stalled } 0 with
        | some report => return .ok report
        | none => return .error late
    catch e => return .error (reason e)

/-- The seconds that the local time is ahead of UTC, or zero if the machine does not know. -/
def zoneOffset : IO Int32 := do
  match ← Std.Time.DateTime.now.toBaseIO with
  | .ok now => return .ofInt now.timezone.offset.second.val
  | .error _ => return 0

/-- The machine that the program runs on. -/
def machine : Surroundings IO :=
  { environment := fun name => IO.getEnv name
    read := readFile
    standard := readStandardFile
    clientKey := return (← IO.getRandomBytes 32).toList
    zoneOffset := zoneOffset
    converse := converse }

end SqlWire.Program

/-- Run the command line and print its report. -/
def main (args : List String) : IO UInt32 := do
  let report ← SqlWire.CommandLine.run SqlWire.Program.machine args
  (← IO.getStdout).putStr report.output
  (← IO.getStderr).putStr report.errors
  return report.code.toUInt32
