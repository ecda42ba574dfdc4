import SqlWire.Frame.Response
import SqlWire.Session.Action

/-!
# Channels

A channel is the client's end of a stream, seen as a value: the octets of the server that are not
read yet, what happens when they run out, how much can still be written, and everything written so
far. A read takes exactly as many octets as asked for; if there are fewer it takes those and does
not succeed.

A write counts as done once it is flushed. A write that exceeds its room sends what fits, and then
it fails or waits for ever. One that just fills its room may still be held up by the flush. There is
only one such place on a channel, since a client writes nothing behind it. Shutting down may be held
up too.

`Channel.readFrame` reads a frame and `Channel.receive` the frames of one response.
-/

namespace SqlWire

/-- What a reader meets behind the last octet. -/
inductive AtEnd where
  /-- The server has ended its side. -/
  | closed
  /-- Nothing, for ever. -/
  | stalled
  /-- The stream fails. -/
  | failing (text : String)
  deriving DecidableEq

/-- What keeps a stream from doing what it is asked for. -/
inductive Hindrance where
  /-- It never comes to it. -/
  | stalled
  /-- The stream fails. -/
  | failing (text : String)
  deriving DecidableEq

/-- The client's end of a stream. -/
structure Channel where
  /-- Octets of the server that are not read yet. -/
  unread : Octets
  atEnd : AtEnd := .closed
  /-- Octets that can still be written, if there is a limit. -/
  room : Option Nat := none
  /-- Whether what just fills the room can be flushed. -/
  brimming : Bool := true
  /-- What meets a write behind its room. -/
  atFull : Hindrance := .failing "broken pipe"
  /-- Everything written so far. -/
  sent : Octets := []
  /-- What meets the attempt to shut the stream down, if anything does. -/
  atShutdown : Option Hindrance := none
  /-- How often it was attempted to shut the stream down. -/
  shutdowns : Nat := 0
  deriving DecidableEq

/-- What becomes of a read that runs into the end. -/
def AtEnd.outcome {α : Type} : AtEnd → Outcome α
  | closed => .failed .connectionClosed
  | stalled => .suspended
  | failing text => .failed (.io text)

/-- What becomes of something that is held up. -/
def Hindrance.outcome {α : Type} : Hindrance → Outcome α
  | stalled => .suspended
  | failing text => .failed (.io text)

theorem Hindrance.outcome_ne_done {α : Type} (h : Hindrance) (a : α) : h.outcome ≠ .done a := by
  cases h <;> exact nofun

namespace Channel

/-- Read exactly `n` octets. -/
def read (n : Nat) : Action Channel Octets := fun c =>
  if n ≤ c.unread.length then
    (.done (c.unread.take n), { c with unread := c.unread.drop n })
  else
    (c.atEnd.outcome, { c with unread := [] })

/-- Write all of `octets` and flush. -/
def write (octets : Octets) : Action Channel Unit := fun c =>
  match c.room with
  | none => (.done (), { c with sent := c.sent ++ octets })
  | some room =>
    if octets.length < room ∨ octets.length = room ∧ c.brimming then
      (.done (), { c with sent := c.sent ++ octets, room := some (room - octets.length) })
    else
      (c.atFull.outcome, { c with sent := c.sent ++ octets.take room, room := some 0 })

/-- Shut the stream down. -/
def shutdown : Action Channel Unit := fun c =>
  (c.atShutdown.elim (.done ()) Hindrance.outcome, { c with shutdowns := c.shutdowns + 1 })

/-- Read one frame. -/
def readFrame (order : ByteOrder) : Action Channel Frame := do
  let length ← read Frame.lengthSize
  let length ← Action.ofExcept (Frame.bodyLength order length)
  let body ← read length
  Action.ofExcept (Frame.ofBody order body)

/-- The number of octets that are not read yet. -/
def left (c : Channel) : Nat := c.unread.length

theorem spends_read (n : Nat) : Action.Spends left n (read n) := by
  intro c octets c' run
  unfold read at run
  split at run
  · cases run
    simp only [left, List.length_drop]
    omega
  · cases hc : c.atEnd <;> simp [AtEnd.outcome, hc] at run

theorem spends_write (octets : Octets) : Action.Spends left 0 (write octets) := by
  intro c a c' run
  unfold write at run
  split at run
  · cases run
    exact Nat.le_refl _
  · split at run
    · cases run
      exact Nat.le_refl _
    · exact absurd (congrArg Prod.fst run) (c.atFull.outcome_ne_done a)

theorem spends_readFrame (order : ByteOrder) :
    Action.Spends left Frame.lengthSize (readFrame order) :=
  (spends_read Frame.lengthSize).bind fun length =>
    (Action.Spends.ofExcept (Frame.bodyLength order length)).bind fun size =>
      ((spends_read size).mono (Nat.zero_le size)).bind fun body =>
        Action.Spends.ofExcept (Frame.ofBody order body)

/-- Read frames until the response that `assembler` collects is complete. -/
def receive (order : ByteOrder) (assembler : Assembler) (c : Channel) :
    Outcome Response × Channel :=
  match _read : c.readFrame order with
  | (.done frame, c') =>
    match assembler.push frame with
    | (.ok (.complete response), _) => (.done response, c')
    | (.ok _, assembler) => c'.receive order assembler
    | (.error e, _) => (.failed e, c')
  | (.failed e, c') => (.failed e, c')
  | (.suspended, c') => (.suspended, c')
termination_by c.left
decreasing_by
  have spent := spends_readFrame order _read
  simp only [Frame.lengthSize] at spent
  omega

theorem spends_receive (order : ByteOrder) (assembler : Assembler) :
    Action.Spends left 1 (receive order assembler) := by
  intro c response c' run
  fun_induction receive order assembler c with
  | case1 assembler c frame c₁ read response' _ _ =>
    have spent := spends_readFrame order read
    simp only [Frame.lengthSize] at spent
    cases run
    omega
  | case2 assembler c frame c₁ read _ _ _ _ ih =>
    have spent := spends_readFrame order read
    have later := ih run
    omega
  | case3 => simp at run
  | case4 => simp at run
  | case5 => simp at run

end Channel

end SqlWire
