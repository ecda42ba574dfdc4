import SqlWire.Octets

/-!
# UTF-8

`Utf8.encode` writes a text, and `Utf8.decode` reads any octets: a sequence that cannot be continued
to a character gives one replacement character, and reading goes on at the octet that broke it.
-/

namespace SqlWire.Utf8

/-- The octets of a text. -/
def encode (text : String) : Octets :=
  text.toList.flatMap String.utf8EncodeChar

/-- The character for octets that write none. -/
def replacement : Char := '\uFFFD'

/-- Where the reader stands: between characters, or with `missing` octets to come of a character
whose high bits are `code`, the next octet being between `low` and `high`. -/
inductive State where
  | ready
  | within (code missing low high : Nat)

/-- The state after a first octet, with the character it makes or breaks on its own. -/
def start (b : Nat) : State × List Char :=
  if b < 0x80 then (.ready, [Char.ofNat b])
  else if 0xC2 ≤ b ∧ b ≤ 0xDF then (.within (b - 0xC0) 1 0x80 0xBF, [])
  else if b = 0xE0 then (.within 0 2 0xA0 0xBF, [])
  else if b = 0xED then (.within 13 2 0x80 0x9F, [])
  else if 0xE1 ≤ b ∧ b ≤ 0xEF then (.within (b - 0xE0) 2 0x80 0xBF, [])
  else if b = 0xF0 then (.within 0 3 0x90 0xBF, [])
  else if b = 0xF4 then (.within 4 3 0x80 0x8F, [])
  else if 0xF1 ≤ b ∧ b ≤ 0xF3 then (.within (b - 0xF0) 3 0x80 0xBF, [])
  else (.ready, [replacement])

/-- The state after one more octet, with the characters that it completes or breaks. -/
def step : State → Nat → State × List Char
  | .ready, b => start b
  | .within code missing low high, b =>
    if low ≤ b ∧ b ≤ high then
      let code := 64 * code + (b - 0x80)
      if missing ≤ 1 then (.ready, [Char.ofNat code])
      else (.within code (missing - 1) 0x80 0xBF, [])
    else
      let (state, chars) := start b
      (state, replacement :: chars)

/-- The characters that octets write from a state on. -/
def run : State → Octets → List Char
  | .ready, [] => []
  | .within .., [] => [replacement]
  | state, b :: bs =>
    let (state, chars) := step state b.toNat
    chars ++ run state bs

/-- The text that octets write. -/
def decode (bs : Octets) : String :=
  String.ofList (run .ready bs)

end SqlWire.Utf8
