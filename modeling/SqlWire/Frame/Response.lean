import SqlWire.Charset
import SqlWire.Frame.Basic
import SqlWire.Wire.Reader

/-!
# Responses

A response is a chain of frames with the sequence number of its request. An `Assembler` collects
them: frames of other requests are counted and dropped, payloads are joined, and the first result
code other than zero is kept. The payloads of a response are limited in total.

`Response.payload?` gives the payload of a successful response and the server's report otherwise.
-/

namespace SqlWire

/-- The frames of an answer, put together. -/
structure Response where
  /-- The header of the first frame. -/
  header : Header
  /-- The first result code other than zero, or zero. -/
  result : UInt8
  /-- The payloads, joined. -/
  payload : Octets
  /-- The number of frames. -/
  frames : Nat
  deriving DecidableEq

namespace Response

/-- The greatest total of payloads that a response may have. -/
def maxLength : Nat := Frame.maxLength

/-- Octets of the fixed fields of an error payload. -/
def reportSize : Nat := 12

/-- Read the report in an error payload. -/
def readReport (charset : Charset) : Wire.Reader ServerReport := do
  let code ← Wire.Reader.i32
  let line ← Wire.Reader.i32
  let column ← Wire.Reader.i32
  let text ← Wire.Reader.untilZero
  return ⟨code, line, column, charset.decode text⟩

/-- The payload of a success; for another result code, the report in it as an error. -/
def payload? (response : Response) (order : ByteOrder) (charset : Charset) :
    Except Error Octets :=
  if response.result = 0 then .ok response.payload
  else if response.payload.length < reportSize then
    .error (.malformed (.errorTooShort response.result response.payload.length))
  else
    match (readReport charset order response.payload).1 with
    | .ok report => .error (.server report)
    | .error e => .error e

end Response

/-- Collects the frames that answer one request. -/
structure Assembler where
  /-- Sequence number of the request. -/
  seq : UInt32
  /-- The greatest total of payloads. -/
  limit : Nat := Response.maxLength
  /-- Header of the first frame that belongs to the response. -/
  first : Option Header := none
  /-- The first result code other than zero, or zero. -/
  result : UInt8 := 0
  /-- The payloads so far, joined. -/
  buffered : Octets := []
  /-- Frames that belong to the response. -/
  frames : Nat := 0
  /-- Frames of other requests. -/
  skipped : Nat := 0
  deriving DecidableEq

namespace Assembler

/-- What a frame does to a response. -/
inductive Step where
  /-- It belongs to another request. -/
  | skipped (header : Header)
  /-- More frames follow. -/
  | partway
  /-- It is the last one. -/
  | complete (response : Response)
  deriving DecidableEq

/-- Take one more frame. A frame that exceeds the limit is refused and leaves no trace. The payload
of a single frame is handed over as it is. -/
def push (assembler : Assembler) (frame : Frame) : Except Error Step × Assembler :=
  let header := frame.header
  if header.seq ≠ assembler.seq then
    (.ok (.skipped header), { assembler with skipped := assembler.skipped + 1 })
  else if assembler.limit < assembler.buffered.length + frame.payload.length then
    (.error (.malformed (.responseTooLong assembler.seq assembler.limit assembler.frames)),
      assembler)
  else
    let first := assembler.first.getD header
    let result := if assembler.result = 0 then header.result else assembler.result
    let frames := assembler.frames + 1
    let accepted := { assembler with first := some first, result := result, frames := frames }
    if !header.hasMore && frames == 1 then
      (.ok (.complete ⟨first, result, frame.payload, 1⟩), accepted)
    else
      let joined := assembler.buffered ++ frame.payload
      if header.hasMore then (.ok .partway, { accepted with buffered := joined })
      else (.ok (.complete ⟨first, result, joined, frames⟩), { accepted with buffered := [] })

end Assembler

end SqlWire
