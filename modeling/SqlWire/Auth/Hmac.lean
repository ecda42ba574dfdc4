import SqlWire.Auth.Sha256

/-!
# Keyed hashes and key derivation

`Hmac` is the keyed hash over SHA-256, with the blocks of the key absorbed once for many messages.
`derive` stretches a password with it.
-/

namespace SqlWire

/-- A key, as the two states that it leads to. -/
structure Hmac where
  inner : Sha256.State
  outer : Sha256.State

namespace Hmac

open Sha256

/-- Prepare a key. A key longer than a block is hashed first. -/
def ofKey (key : Octets) : Hmac :=
  let key := if blockSize < key.length then digest key else key
  let block := key ++ List.replicate (blockSize - key.length) 0
  ⟨State.initial.absorb (block.map (· ^^^ 0x36)), State.initial.absorb (block.map (· ^^^ 0x5c))⟩

/-- The keyed hash of a message. -/
def digest (key : Hmac) (message : Octets) : Octets :=
  key.outer.finish blockSize (key.inner.finish blockSize message)

/-- Hash `n` more times and gather all results by exclusive or. -/
def stretch (key : Hmac) : Nat → Octets → Octets → Octets
  | 0, _, gathered => gathered
  | n + 1, last, gathered =>
    let next := key.digest last
    stretch key n next (List.zipWith (· ^^^ ·) gathered next)

/-- A key of 32 octets, stretched from a password and a salt in `iterations` rounds. -/
def derive (password salt : Octets) (iterations : Nat) : Octets :=
  let key := ofKey password
  let first := key.digest (salt ++ Octets.ofNat 4 1)
  key.stretch (iterations - 1) first first

end Hmac

end SqlWire
