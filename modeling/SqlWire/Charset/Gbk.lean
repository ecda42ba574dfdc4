import SqlWire.Charset.Gb18030.Cells
import SqlWire.Charset.Gb18030.Ranges
import SqlWire.Octets

/-!
# GBK

Texts are read as GB18030, the 2022 edition: ASCII, cells of two octets, and numbers of four octets
(`Gbk.decode`). They are written with one and two octets only (`Gbk.encode`): a character without a
cell becomes a numeric character reference.

Octets that write no character give one replacement character. Reading then goes on behind the
first octet, or behind the pair if its second octet could not start anything by itself.
-/

namespace SqlWire.Gb18030

/-- The cells as an array. -/
def cells : Array Char :=
  (rows.flatMap String.toList).toArray

/-- The private character in a cell, if the cell holds one. -/
def privateChar? (cell : Nat) : Option Char :=
  (privateRuns.find? fun (start, _, length) => start ≤ cell && cell < start + length).map
    fun (start, code, _) => Char.ofNat (code + (cell - start))

/-- The character in a cell. -/
def charOfCell? (cell : Nat) : Option Char :=
  match privateChar? cell with
  | some c => some c
  | none => cells[cell]?

/-- The cell of a private character. -/
def privateCell? (c : Char) : Option Nat :=
  (privateRuns.find? fun (_, code, length) => code ≤ c.toNat && c.toNat < code + length).map
    fun (start, code, _) => start + (c.toNat - code)

/-- The first cell that holds a character. ASCII has no cells. -/
def cellOfChar? (c : Char) : Option Nat :=
  if c.toNat < 0x80 then none
  else
    match privateCell? c with
    | some cell => some cell
    | none => cells.findIdx? (· == c)

/-- The cell at a lead and a trail octet. -/
def cellOfPair? (lead trail : Nat) : Option Nat :=
  if 0x40 ≤ trail ∧ trail ≤ 0x7E then some (rowLength * (lead - 0x81) + (trail - 0x40))
  else if 0x80 ≤ trail ∧ trail ≤ 0xFE then some (rowLength * (lead - 0x81) + (trail - 0x41))
  else none

/-- The lead and trail octet of a cell. -/
def pairOfCell (cell : Nat) : Octets :=
  let trail := cell % rowLength
  [UInt8.ofNat (0x81 + cell / rowLength), UInt8.ofNat (trail + if trail < 0x3F then 0x40 else 0x41)]

/-- The number that has a private character, although its run would give it another one, which
moved to a cell. -/
def exchangedNumber : Nat × Char := (7457, '\ue7c7')

/-- The character with a four-octet number. -/
def charOfNumber? (number : Nat) : Option Char :=
  if number = exchangedNumber.1 then some exchangedNumber.2
  else if number < basicCount then
    ((ranges.takeWhile fun (start, _) => start ≤ number).getLast?).map
      fun (start, code) => Char.ofNat (code + (number - start))
  else if supplementaryStart ≤ number ∧ number < supplementaryStart + 0x100000 then
    some (Char.ofNat (0x10000 + (number - supplementaryStart)))
  else none

/-- The number at four octets. -/
def numberOf (first second third fourth : Nat) : Nat :=
  10 * (126 * (10 * (first - 0x81) + (second - 0x30)) + (third - 0x81)) + (fourth - 0x30)

end SqlWire.Gb18030

namespace SqlWire.Gbk

open Gb18030

/-- The character for octets that write none. -/
def replacement : Char := '\uFFFD'

/-- Whether an octet can be the second or fourth of four. -/
def isDigit (b : UInt8) : Bool := 0x30 ≤ b && b ≤ 0x39

/-- Whether an octet can be the first or third of four, or the first of two. -/
def isLead (b : UInt8) : Bool := 0x81 ≤ b && b ≤ 0xFE

/-- The characters that octets write. -/
def chars : Octets → List Char
  | [] => []
  | first :: rest =>
    if first < 0x80 then Char.ofNat first.toNat :: chars rest
    else if first = 0x80 then '€' :: chars rest
    else if !isLead first then replacement :: chars rest
    else
      match rest with
      | [] => [replacement]
      | second :: more =>
        if isDigit second then
          match more with
          | [] => [replacement]
          | third :: more =>
            if isLead third then
              match more with
              | [] => [replacement]
              | fourth :: more =>
                if isDigit fourth then
                  let number := numberOf first.toNat second.toNat third.toNat fourth.toNat
                  (charOfNumber? number).getD replacement :: chars more
                else replacement :: chars (second :: third :: fourth :: more)
            else replacement :: chars (second :: third :: more)
        else
          match (cellOfPair? first.toNat second.toNat).bind charOfCell? with
          | some c => c :: chars more
          | none =>
            if second < 0x80 then replacement :: chars (second :: more)
            else replacement :: chars more
termination_by bs => bs.length
decreasing_by all_goals simp only [List.length_cons]; omega

/-- The text that octets write. -/
def decode (bs : Octets) : String :=
  String.ofList (chars bs)

/-- Private characters of earlier editions that stand for characters which have cells now: the
first character, the first cell and the number of each run. -/
def formerRuns : List (Nat × Nat × Nat) := [
  (0xE78D, 7182, 7), (0xE794, 7201, 2), (0xE796, 7208, 1), (0xE81E, 23775, 1), (0xE826, 23783, 1),
  (0xE82B, 23788, 2), (0xE832, 23795, 1), (0xE843, 23812, 1), (0xE854, 23829, 1),
  (0xE864, 23845, 1)]

/-- The cell that a private character of an earlier edition stands for. -/
def formerCell? (c : Char) : Option Nat :=
  (formerRuns.find? fun (code, _, length) => code ≤ c.toNat && c.toNat < code + length).map
    fun (code, cell, _) => cell + (c.toNat - code)

/-- The one private character of a cell that is not written. -/
def unwritten : Char := '\ue5e5'

/-- The cell in which a character is written. -/
def writtenCell? (c : Char) : Option Nat :=
  if c = unwritten then none
  else
    match cellOfChar? c with
    | some cell => some cell
    | none => formerCell? c

/-- The octets of one character. -/
def encodeChar (c : Char) : Octets :=
  if c.toNat < 0x80 then [UInt8.ofNat c.toNat]
  else if c = '€' then [0x80]
  else
    match writtenCell? c with
    | some cell => pairOfCell cell
    | none =>
      ("&#" ++ Text.decimal c.toNat ++ ";").toList.map fun ascii => UInt8.ofNat ascii.toNat

/-- The octets of a text. -/
def encode (text : String) : Octets :=
  text.toList.flatMap encodeChar

end SqlWire.Gbk
