import SqlWire.Text.Digits
import SqlWire.Text.Parser
import SqlWire.Toml.Node

/-!
# TOML scalars

Strings of four forms, integers of four bases, floats, booleans, dates and times, as TOML 1.0 writes
them. Integers fit into 64 bits with a sign; floats do not overflow upwards.
-/

namespace SqlWire.Toml

open Text Text.Parser

/-! ## Blanks and lines -/

/-- Blank or tab. -/
def isBlank (c : Char) : Bool := c == ' ' || c == '\t'

/-- Blanks and tabs. -/
def blanks : Parser Unit := do
  let _ ← takeWhile isBlank

/-- The end of a line that is not the last. -/
def newline : Parser Unit := orElse (literal "\n") (literal "\x0d\n")

/-- A character that may stand in a comment, and unescaped in a string but for the marks of the
string. -/
def isPlain (c : Char) : Bool :=
  c == '\t' || (0x20 ≤ c.toNat && c.toNat != 0x7F)

/-- A comment. -/
def comment : Parser Unit := do
  let _ ← char '#'
  let _ ← takeWhile isPlain

/-! ## Strings -/

/-- Whether a character is a decimal digit. -/
def isDigit (c : Char) : Bool := '0' ≤ c && c ≤ '9'

/-- The value of a digit in a base up to sixteen. -/
def digitValue (c : Char) : Nat :=
  if isDigit c then c.toNat - '0'.toNat
  else if 'a' ≤ c then c.toNat - 'a'.toNat + 10
  else c.toNat - 'A'.toNat + 10

/-- Whether a character is a digit in base sixteen. -/
def isHexDigit (c : Char) : Bool :=
  isDigit c || ('a' ≤ c && c ≤ 'f') || ('A' ≤ c && c ≤ 'F')

/-- The number that digits write in a base. -/
def numberOf (base : Nat) (ds : List Char) : Nat :=
  ds.foldl (fun n d => base * n + digitValue d) 0

/-- The character with a code, if there is one. -/
def charOfCode? (code : Nat) : Option Char :=
  if h : code.isValidChar then some (Char.ofNatAux code h) else none

/-- What follows a backslash. -/
def escape : Parser Char := do
  match ← satisfy fun _ => true with
  | 'b' => return '\x08'
  | 't' => return '\t'
  | 'n' => return '\n'
  | 'f' => return '\x0c'
  | 'r' => return '\r'
  | '"' => return '"'
  | '\\' => return '\\'
  | 'u' => ofOption (charOfCode? (numberOf 16 (← exactly 4 isHexDigit)))
  | 'U' => ofOption (charOfCode? (numberOf 16 (← exactly 8 isHexDigit)))
  | _ => fail

/-- A backslash with what follows it. -/
def escaped : Parser Char := do
  let _ ← char '\\'
  escape

/-- A text between quotation marks on one line. -/
def basicString : Parser String := do
  let _ ← char '"'
  let cs ← many (orElse (satisfy fun c => isPlain c && c != '"' && c != '\\') escaped)
  let _ ← char '"'
  return String.ofList cs

/-- A text between apostrophes on one line, without escapes. -/
def literalString : Parser String := do
  let _ ← char '\''
  let cs ← takeWhile fun c => isPlain c && c != '\''
  let _ ← char '\''
  return String.ofList cs

/-- A backslash at the end of a line, with all blanks and line ends after it. -/
def lineContinuation : Parser (List Char) := do
  let _ ← char '\\'
  blanks
  newline
  let _ ← many (orElse newline (do let _ ← satisfy isBlank))
  return []

/-- A line end within a text. -/
def innerNewline : Parser (List Char) := do
  newline
  return ['\n']

/-- One or two marks, which do not end a text between three. -/
def innerMarks (mark : Char) : Parser (List Char) := fun cs =>
  let run := cs.takeWhile (· == mark)
  if 1 ≤ run.length ∧ run.length ≤ 2 then some (run, cs.drop run.length) else none

/-- Three marks that end a text, with up to two before them that belong to it. -/
def closingMarks (mark : Char) : Parser (List Char) := fun cs =>
  let run := cs.takeWhile (· == mark)
  if 3 ≤ run.length then
    let inner := min (run.length - 3) 2
    some (List.replicate inner mark, cs.drop (inner + 3))
  else none

/-- A text between three marks, over several lines; a line end right at its start is left out. -/
def multilineString (mark : Char) (piece : Parser (List Char)) : Parser String := do
  literal (String.ofList [mark, mark, mark])
  let _ ← optional newline
  let pieces ← many (firstOf [piece, innerNewline, innerMarks mark])
  let last ← closingMarks mark
  return String.ofList (pieces.flatten ++ last)

/-- A text between three quotation marks. -/
def multilineBasicString : Parser String :=
  multilineString '"' <| firstOf [
    (do return [← satisfy fun c => isPlain c && c != '"' && c != '\\']),
    lineContinuation,
    (do return [← escaped])]

/-- A text between three apostrophes. -/
def multilineLiteralString : Parser String :=
  multilineString '\'' (do return [← satisfy fun c => isPlain c && c != '\''])

/-- A text. -/
def string : Parser String :=
  firstOf [multilineBasicString, basicString, multilineLiteralString, literalString]

/-! ## Numbers -/

/-- Digits of a class, with single underscores between them. -/
def digitRun (p : Char → Bool) : Parser (List Char) := do
  let first ← satisfy p
  let others ← many (orElse (satisfy p) (do let _ ← char '_'; satisfy p))
  return first :: others

/-- A sign; whether it is a minus. -/
def sign : Parser Bool := do
  match ← optional (satisfy fun c => c == '+' || c == '-') with
  | some c => return c == '-'
  | none => return false

/-- Digits without a zero in front. -/
def decimalDigits : Parser (List Char) := fun cs =>
  match cs with
  | '0' :: rest => some (['0'], rest)
  | cs => digitRun isDigit cs

/-- A number between `-2 ^ 63` and `2 ^ 63 - 1`. -/
def integerNode (n : Int) : Parser Node :=
  if -(Nat.pow 2 63 : Int) ≤ n ∧ n < (Nat.pow 2 63 : Int) then pure (.integer n) else fail

/-- Digits of a base other than ten, behind a mark. -/
def basedInteger (mark : String) (base : Nat) (p : Char → Bool) : Parser Node := do
  literal mark
  integerNode (numberOf base (← digitRun p))

/-- An integer. -/
def integer : Parser Node :=
  firstOf [
    basedInteger "0x" 16 isHexDigit,
    basedInteger "0o" 8 (fun c => '0' ≤ c && c ≤ '7'),
    basedInteger "0b" 2 (fun c => c == '0' || c == '1'),
    do
      let negative ← sign
      let n : Nat := numberOf 10 (← decimalDigits)
      integerNode (if negative then -n else n)]

/-- Digits behind a point. -/
def fractionDigits : Parser (List Char) := do
  let _ ← char '.'
  digitRun isDigit

/-- A power of ten. -/
def exponent : Parser Int := do
  let _ ← satisfy fun c => c == 'e' || c == 'E'
  let negative ← sign
  let n : Nat := numberOf 10 (← digitRun isDigit)
  return if negative then -n else n

/-- Whether `coefficient * 10 ^ power` is so large that it is rounded to infinity: half a unit in
the last place above the greatest double, or more. -/
def overflows (coefficient : Nat) (power : Int) : Bool :=
  let magnitude := ((digits coefficient).length : Int) + power
  if coefficient = 0 || magnitude < 300 then false
  else if 400 < magnitude then true
  else
    (Nat.pow 2 1024 - Nat.pow 2 970) * Nat.pow 10 (-power).toNat ≤
      coefficient * Nat.pow 10 power.toNat

/-- A float in digits. One below zero may overflow. -/
def numericFloat : Parser Node := do
  let negative ← sign
  let whole ← decimalDigits
  let fraction ← optional fractionDigits
  let power ← optional exponent
  if fraction.isNone && power.isNone then fail
  else
    let ds := whole ++ fraction.getD []
    let scale : Int := power.getD 0 - (fraction.getD []).length
    if !negative && overflows (numberOf 10 ds) scale then fail else return .float

/-- A float in words. -/
def namedFloat : Parser Node := do
  let _ ← sign
  orElse (literal "inf") (literal "nan")
  return .float

/-- A float. -/
def float : Parser Node := orElse numericFloat namedFloat

/-! ## Dates and times -/

/-- A number of exactly `width` digits between two bounds. -/
def fixedNumber (width least greatest : Nat) : Parser Nat := do
  let n := numberOf 10 (← exactly width isDigit)
  if least ≤ n ∧ n ≤ greatest then return n else fail

/-- The days of a month. -/
def daysOfMonth (year month : Nat) : Nat :=
  if month = 2 then
    if year % 4 = 0 ∧ (year % 100 ≠ 0 ∨ year % 400 = 0) then 29 else 28
  else if month = 4 ∨ month = 6 ∨ month = 9 ∨ month = 11 then 30
  else 31

/-- A date. -/
def date : Parser Unit := do
  let year ← fixedNumber 4 0 9999
  let _ ← char '-'
  let month ← fixedNumber 2 1 12
  let _ ← char '-'
  let _ ← fixedNumber 2 1 (daysOfMonth year month)

/-- A time of day, which may be a leap second. -/
def time : Parser Unit := do
  let _ ← fixedNumber 2 0 23
  let _ ← char ':'
  let _ ← fixedNumber 2 0 59
  let _ ← char ':'
  let _ ← fixedNumber 2 0 60
  let _ ← optional (do
    let _ ← char '.'
    let _ ← satisfy isDigit
    takeWhile isDigit)

/-- The offset of a zone. -/
def zone : Parser Unit :=
  orElse (do let _ ← satisfy fun c => c == 'Z' || c == 'z')
    (do
      let _ ← satisfy fun c => c == '+' || c == '-'
      let _ ← fixedNumber 2 0 23
      let _ ← char ':'
      let _ ← fixedNumber 2 0 59)

/-- A date, a time, or both. -/
def dateTime : Parser Node := do
  orElse
    (do
      date
      let _ ← optional (do
        let _ ← satisfy fun c => c == 'T' || c == 't' || c == ' '
        time
        optional zone))
    time
  return .dateTime

/-! ## All scalars -/

/-- A boolean. -/
def boolean : Parser Node :=
  orElse (do literal "true"; return .boolean true) (do literal "false"; return .boolean false)

/-- A value without parts. -/
def scalar : Parser Node :=
  firstOf [(do return .text (← string)), boolean, dateTime, float, integer]

end SqlWire.Toml
