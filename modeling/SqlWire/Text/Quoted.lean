import SqlWire.Text.Digits
import SqlWire.Text.Hidden

/-!
# Quoted text

Two ways to quote a text: for people (`Quoted.readable`), where every character that cannot be seen
is named by its code, and for JSON (`Quoted.json`), where control characters are.
-/

namespace SqlWire.Text.Quoted

/-- One character between readable quotes. -/
def readableChar (c : Char) : String :=
  match c with
  | '\x00' => "\\0"
  | '\t' => "\\t"
  | '\r' => "\\r"
  | '\n' => "\\n"
  | '"' => "\\\""
  | '\\' => "\\\\"
  | c => if isHidden c then "\\u\x7b" ++ shortHex c.toNat ++ "\x7d" else String.singleton c

/-- A text between readable quotes. -/
def readable (text : String) : String :=
  "\"" ++ String.join (text.toList.map readableChar) ++ "\""

/-- One character of a JSON string. -/
def jsonChar (c : Char) : String :=
  match c with
  | '"' => "\\\""
  | '\\' => "\\\\"
  | '\x08' => "\\b"
  | '\x0c' => "\\f"
  | '\n' => "\\n"
  | '\r' => "\\r"
  | '\t' => "\\t"
  | c => if c.toNat < 0x20 then "\\u" ++ hex 4 c.toNat else String.singleton c

/-- A text as a JSON string. -/
def json (text : String) : String :=
  "\"" ++ String.join (text.toList.map jsonChar) ++ "\""

end SqlWire.Text.Quoted
