/-!
# Digits of natural numbers

Numbers are written most significant digit first, without superfluous leading zeros (`digits`),
or with zeros in front up to a given width (`padded`). `ofDigits` reads a digit list back.
-/

namespace SqlWire.Text

/-- The digits of `n` in base ten, most significant first. Zero has the one digit `0`. -/
def digits (n : Nat) : List Nat :=
  if n < 10 then [n] else digits (n / 10) ++ [n % 10]
termination_by n
decreasing_by omega

/-- The number that a list of base-ten digits writes, most significant digit first. -/
def ofDigits (ds : List Nat) : Nat :=
  ds.foldl (fun n d => 10 * n + d) 0

/-- The digits of `n` with zeros in front of them until there are `width`. -/
def padded (width n : Nat) : List Nat :=
  let ds := digits n
  List.replicate (width - ds.length) 0 ++ ds

/-- The character of one digit, in a base up to sixteen. -/
def digitChar (d : Nat) : Char :=
  if d < 10 then Char.ofNat ('0'.toNat + d) else Char.ofNat ('a'.toNat + (d - 10))

/-- The text of a digit list. -/
def ofDigitList (ds : List Nat) : String :=
  String.ofList (ds.map digitChar)

/-- `n` in base ten. -/
def decimal (n : Nat) : String :=
  ofDigitList (digits n)

/-- `n` in base ten, with a minus sign below zero. -/
def signed : Int → String
  | .ofNat n => decimal n
  | .negSucc n => "-" ++ decimal (n + 1)

/-- `n` in base ten, with a sign also at and above zero. -/
def withSign : Int → String
  | .ofNat n => "+" ++ decimal n
  | .negSucc n => "-" ++ decimal (n + 1)

/-- `n` in base ten, with zeros in front up to `width` digits. -/
def zeroPadded (width n : Nat) : String :=
  ofDigitList (padded width n)

/-- The `width` lowest base-sixteen digits of `n`, most significant first. -/
def hexDigits : Nat → Nat → List Nat
  | 0, _ => []
  | width + 1, n => hexDigits width (n / 16) ++ [n % 16]

/-- `n` in base sixteen with `width` lowercase digits. -/
def hex (width n : Nat) : String :=
  ofDigitList (hexDigits width n)

/-- `n` in base sixteen with as few lowercase digits as it needs. -/
def shortHex (n : Nat) : String :=
  if n < 16 then hex 1 n else shortHex (n / 16) ++ hex 1 n
termination_by n
decreasing_by omega

end SqlWire.Text
