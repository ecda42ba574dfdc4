import SqlWire.Auth.Hmac
import SqlWire.Error

/-!
# Proving knowledge of a password

A session key comes from the password, a salt of the session and a number of rounds. The client
sends a hash of it, and the server sends a signing key that only one who knows the password can
compute. `PasswordHasher` is any pair of such functions; `PasswordHasher.standard` derives them with
HMAC-SHA-256.

Before any of this the server has to return the client key at the head of its scramble
(`checkEcho`).
-/

namespace SqlWire

/-- How a password is proved and how the server's proof is checked. -/
structure PasswordHasher where
  /-- The hash sent at login, from password, salt and rounds. -/
  deriveHash : Octets → Octets → UInt32 → Octets
  /-- Whether a signing key is the one of password, salt and rounds. -/
  verify : Octets → Octets → UInt32 → Octets → Bool

namespace PasswordHasher

/-- The text that the client's proof signs. -/
def clientLabel : Octets := "Client Key".toUTF8.toList

/-- The text that the server's proof signs. -/
def serverLabel : Octets := "Server Key".toUTF8.toList

/-- The hash that a client sends. -/
def clientHash (password salt : Octets) (iterations : UInt32) : Octets :=
  Sha256.digest ((Hmac.ofKey (Hmac.derive password salt iterations.toNat)).digest clientLabel)

/-- The signing key that a server presents. -/
def signingKey (password salt : Octets) (iterations : UInt32) : Octets :=
  (Hmac.ofKey (Hmac.derive password salt iterations.toNat)).digest serverLabel

/-- Derivation with HMAC-SHA-256. -/
def standard : PasswordHasher where
  deriveHash := clientHash
  verify password salt iterations presented := presented == signingKey password salt iterations

end PasswordHasher

/-- The first place, if any, at which `scramble` departs from the key it should begin with. -/
def echoMismatch? : (clientKey scramble : Octets) → Option Nat
  | [], _ => none
  | _ :: _, [] => some 0
  | k :: key, s :: scramble =>
    if s = k then (echoMismatch? key scramble).map (· + 1) else some 0

/-- Accept a scramble that begins with the client key. -/
def checkEcho (clientKey scramble : Octets) : Except Error Unit :=
  match echoMismatch? clientKey scramble with
  | none => .ok ()
  | some offset => .error (.clientKeyMismatch offset)

end SqlWire
