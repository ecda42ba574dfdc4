import SqlWire.Octets

/-!
# SHA-256

The hash is a fold of a compression function over blocks of 64 octets (`State.absorb`), the last of
which holds the length of the message (`padded`).
-/

namespace SqlWire.Sha256

/-- Octets of a block. -/
def blockSize : Nat := 64

/-- The constants of the rounds. -/
def roundConstants : Array UInt32 := #[
  0x428a2f98, 0x71374491, 0xb5c0fbcf, 0xe9b5dba5, 0x3956c25b, 0x59f111f1, 0x923f82a4, 0xab1c5ed5,
  0xd807aa98, 0x12835b01, 0x243185be, 0x550c7dc3, 0x72be5d74, 0x80deb1fe, 0x9bdc06a7, 0xc19bf174,
  0xe49b69c1, 0xefbe4786, 0x0fc19dc6, 0x240ca1cc, 0x2de92c6f, 0x4a7484aa, 0x5cb0a9dc, 0x76f988da,
  0x983e5152, 0xa831c66d, 0xb00327c8, 0xbf597fc7, 0xc6e00bf3, 0xd5a79147, 0x06ca6351, 0x14292967,
  0x27b70a85, 0x2e1b2138, 0x4d2c6dfc, 0x53380d13, 0x650a7354, 0x766a0abb, 0x81c2c92e, 0x92722c85,
  0xa2bfe8a1, 0xa81a664b, 0xc24b8b70, 0xc76c51a3, 0xd192e819, 0xd6990624, 0xf40e3585, 0x106aa070,
  0x19a4c116, 0x1e376c08, 0x2748774c, 0x34b0bcb5, 0x391c0cb3, 0x4ed8aa4a, 0x5b9cca4f, 0x682e6ff3,
  0x748f82ee, 0x78a5636f, 0x84c87814, 0x8cc70208, 0x90befffa, 0xa4506ceb, 0xbef9a3f7, 0xc67178f2]

/-- Eight words that stand for the octets absorbed so far. -/
structure State where
  a : UInt32
  b : UInt32
  c : UInt32
  d : UInt32
  e : UInt32
  f : UInt32
  g : UInt32
  h : UInt32
  deriving DecidableEq

/-- The state before any octets. -/
def State.initial : State where
  a := 0x6a09e667
  b := 0xbb67ae85
  c := 0x3c6ef372
  d := 0xa54ff53a
  e := 0x510e527f
  f := 0x9b05688c
  g := 0x1f83d9ab
  h := 0x5be0cd19

/-- The word `x`, turned right by `n` of its 32 bits. -/
@[inline] def rotate (x n : UInt32) : UInt32 :=
  (x >>> n) ||| (x <<< (32 - n))

/-- Octets taken four at a time, each four a word with its high octet first. -/
def words : Octets → List UInt32
  | b₀ :: b₁ :: b₂ :: b₃ :: rest =>
    ((b₀.toUInt32 <<< 24) ||| (b₁.toUInt32 <<< 16) ||| (b₂.toUInt32 <<< 8) ||| b₃.toUInt32) ::
      words rest
  | _ => []

/-- Append `n` words to the schedule, each a mix of four of the sixteen words before it. -/
def extend : Nat → Array UInt32 → Array UInt32
  | 0, schedule => schedule
  | n + 1, schedule =>
    let back (k : Nat) : UInt32 := schedule.getD (schedule.size - k) 0
    let x := back 15
    let y := back 2
    let s₀ := rotate x 7 ^^^ rotate x 18 ^^^ (x >>> 3)
    let s₁ := rotate y 17 ^^^ rotate y 19 ^^^ (y >>> 10)
    extend n (schedule.push (back 16 + s₀ + back 7 + s₁))

/-- The last `n` rounds of compression. -/
def rounds (schedule : Array UInt32) : Nat → (a b c d e f g h : UInt32) → State
  | 0, a, b, c, d, e, f, g, h => ⟨a, b, c, d, e, f, g, h⟩
  | n + 1, a, b, c, d, e, f, g, h =>
    let i := 63 - n
    let s₁ := rotate e 6 ^^^ rotate e 11 ^^^ rotate e 25
    let choice := (e &&& f) ^^^ (~~~e &&& g)
    let t₁ := h + s₁ + choice + roundConstants.getD i 0 + schedule.getD i 0
    let s₀ := rotate a 2 ^^^ rotate a 13 ^^^ rotate a 22
    let majority := (a &&& b) ^^^ (a &&& c) ^^^ (b &&& c)
    rounds schedule n (t₁ + (s₀ + majority)) a b c (d + t₁) e f g

/-- Absorb one block. -/
def State.absorb (s : State) (block : Octets) : State :=
  let schedule := extend 48 (words block).toArray
  let r := rounds schedule 64 s.a s.b s.c s.d s.e s.f s.g s.h
  ⟨s.a + r.a, s.b + r.b, s.c + r.c, s.d + r.d, s.e + r.e, s.f + r.f, s.g + r.g, s.h + r.h⟩

/-- Absorb octets block by block; an incomplete block at the end is left out. -/
def State.absorbAll (s : State) (octets : Octets) : State :=
  if octets.length < blockSize then s
  else State.absorbAll (s.absorb (octets.take blockSize)) (octets.drop blockSize)
termination_by octets.length
decreasing_by simp only [List.length_drop]; simp [blockSize] at *; omega

/-- The octets of a word, high octet first. -/
def wordOctets (word : UInt32) : Octets :=
  [(word >>> 24).toUInt8, (word >>> 16).toUInt8, (word >>> 8).toUInt8, word.toUInt8]

/-- The octets of a state. -/
def State.octets (s : State) : Octets :=
  [s.a, s.b, s.c, s.d, s.e, s.f, s.g, s.h].flatMap wordOctets

/-- Octets at the end of a message of `total` octets, filled up to whole blocks: a one bit, zeros,
and the length of the message in bits. -/
def padded (total : Nat) (octets : Octets) : Octets :=
  octets ++ 0x80 :: List.replicate ((119 - total % blockSize) % blockSize) 0 ++
    Octets.ofNat 8 (8 * total)

/-- The hash of the message that ends with `octets`, after `before` octets in whole blocks have been
absorbed into `s`. -/
def State.finish (s : State) (before : Nat) (octets : Octets) : Octets :=
  (s.absorbAll (padded (before + octets.length) octets)).octets

/-- The hash of a message. -/
def digest (message : Octets) : Octets :=
  State.initial.finish 0 message

end SqlWire.Sha256
