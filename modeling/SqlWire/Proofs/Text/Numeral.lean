import Mathlib.Algebra.Field.Rat
import Mathlib.Tactic.FieldSimp
import SqlWire.Proofs.Text.Digits

/-!
# Decimal notation

`valueOf?` reads decimal notation as a number : maybe a minus sign, digits, maybe a point with
digits behind it, maybe an `E` with a power of ten behind it. A `Numeral` holds the parts of such a
notation and `Numeral.text` sets them one behind the other. The text denotes what the parts are
worth (`WellFormed.valueOf?_text`), which is the number that all its digits write, with the point
moved to its place (`Numeral.value_eq`).
-/

namespace SqlWire.Text

/-! ## Reading -/

/-- The number that one or more digits write. -/
def natural? (cs : List Char) : Option Nat :=
  if cs ≠ [] ∧ cs.all Char.isDigit then some (ofDigits (cs.map fun c => c.toNat - '0'.toNat))
  else none

/-- Digits, maybe with a sign in front. -/
def integer? : List Char → Option Int
  | '+' :: cs => (natural? cs).map fun n => (n : Int)
  | '-' :: cs => (natural? cs).map fun n => -(n : Int)
  | cs => (natural? cs).map fun n => (n : Int)

/-- Digits, maybe with a point and digits behind. -/
def fixed? (cs : List Char) : Option Rat :=
  match cs.splitOn '.' with
  | [whole] => (natural? whole).map fun n => (n : Rat)
  | [whole, fraction] =>
    (natural? whole).bind fun n => (natural? fraction).map fun m =>
      (n : Rat) + m / 10 ^ fraction.length
  | _ => none

/-- Digits and maybe a point, maybe with a power of ten behind. -/
def unsigned? (cs : List Char) : Option Rat :=
  match cs.splitOn 'E' with
  | [mantissa] => fixed? mantissa
  | [mantissa, power] => (fixed? mantissa).bind fun q => (integer? power).map fun p => q * 10 ^ p
  | _ => none

/-- The number that is denoted, maybe with a minus sign in front. -/
def signed? : List Char → Option Rat
  | '-' :: cs => (unsigned? cs).map fun q => -q
  | cs => unsigned? cs

/-- The number that a text denotes in decimal notation. -/
def valueOf? (text : String) : Option Rat :=
  signed? text.toList

/-! ## Digits and signs -/

theorem isDigit_digitChar : ∀ d < 10, (digitChar d).isDigit = true := by decide

theorem toNat_digitChar : ∀ d < 10, (digitChar d).toNat - '0'.toNat = d := by decide

/-- Digits are read back from their characters. -/
theorem map_toNat_digitChar {ds : List Nat} (h : ∀ d ∈ ds, d < 10) :
    (ds.map digitChar).map (fun c => c.toNat - '0'.toNat) = ds := by
  have each : ∀ d ∈ ds, (digitChar d).toNat - '0'.toNat = id d :=
    fun d hd => toNat_digitChar d (h d hd)
  rw [List.map_map]
  exact (List.map_congr_left each).trans (List.map_id ds)

theorem isDigit_of_mem_map_digitChar {ds : List Nat} (h : ∀ d ∈ ds, d < 10) :
    ∀ c ∈ ds.map digitChar, c.isDigit = true := by
  rw [List.forall_mem_map]
  exact fun d hd => isDigit_digitChar d (h d hd)

theorem natural?_map_digitChar {ds : List Nat} (some : ds ≠ []) (h : ∀ d ∈ ds, d < 10) :
    natural? (ds.map digitChar) = .some (ofDigits ds) := by
  have all : (ds.map digitChar).all Char.isDigit = true :=
    List.all_eq_true.2 (isDigit_of_mem_map_digitChar h)
  rw [natural?, if_pos ⟨by simpa using some, all⟩, map_toNat_digitChar h]

/-- A character that is no digit is not among digits. -/
theorem not_mem_map_digitChar {c : Char} (hc : c.isDigit = false) {ds : List Nat}
    (h : ∀ d ∈ ds, d < 10) : c ∉ ds.map digitChar := by
  rintro hmem
  obtain ⟨d, hd, rfl⟩ := List.mem_map.1 hmem
  rw [isDigit_digitChar d (h d hd)] at hc
  cases hc

theorem toList_ofDigitList (ds : List Nat) : (ofDigitList ds).toList = ds.map digitChar :=
  String.toList_ofList

/-- A natural number is read as it was written. -/
theorem natural?_decimal (n : Nat) : natural? (decimal n).toList = some n := by
  rw [decimal, toList_ofDigitList, natural?_map_digitChar (digits_ne_nil n) fun d hd =>
    lt_ten_of_mem_digits hd, ofDigits_digits]

theorem beq_eq_false_of_isDigit {c d : Char} (hd : d.isDigit = false) (hc : c.isDigit = true) :
    (c == d) = false := by
  rw [beq_eq_false_iff_ne]
  rintro rfl
  rw [hd] at hc
  cases hc

theorem signed_eq (p : Int) :
    signed p = (if decide (p < 0) then "-" else "") ++ decimal p.natAbs := by
  cases p with
  | ofNat n =>
    have unsigned : ¬Int.ofNat n < 0 := Int.not_lt.2 (Int.natCast_nonneg n)
    rw [decide_eq_false unsigned]
    exact String.empty_append.symm
  | negSucc n =>
    rw [decide_eq_true (Int.negSucc_lt_zero n)]
    rfl

theorem integer?_withSign (p : Int) : integer? (withSign p).toList = some p := by
  cases p with
  | ofNat n =>
    have shape : (withSign (.ofNat n)).toList = '+' :: (decimal n).toList := by
      simp [withSign]
    rw [shape, integer?, natural?_decimal]
    rfl
  | negSucc n =>
    have shape : (withSign (.negSucc n)).toList = '-' :: (decimal (n + 1)).toList := by
      simp [withSign]
    rw [shape, integer?, natural?_decimal]
    rfl

theorem not_mem_withSign {c : Char} (hc : c.isDigit = false) (plus : c ≠ '+') (minus : c ≠ '-')
    (p : Int) : c ∉ (withSign p).toList := by
  have among (n : Nat) : c ∉ (decimal n).toList := by
    rw [decimal, toList_ofDigitList]
    exact not_mem_map_digitChar hc fun d hd => lt_ten_of_mem_digits hd
  cases p with
  | ofNat n => simp [withSign, plus, among]
  | negSucc n => simp [withSign, minus, among]

/-! ## Numerals -/

/-- A number in decimal notation. -/
structure Numeral where
  negative : Bool
  /-- Digits before the point. -/
  whole : List Nat
  /-- Digits behind the point; without any there is no point. -/
  fraction : List Nat
  /-- The power of ten behind an `E`. -/
  power : Option Int
  deriving DecidableEq

namespace Numeral

/-- A minus before numbers below zero, and no sign before others. -/
def sign (n : Numeral) : String :=
  if n.negative then "-" else ""

/-- The digits, with a point if some of them stand behind it. -/
def mantissa (n : Numeral) : String :=
  ofDigitList n.whole ++ if n.fraction.isEmpty then "" else "." ++ ofDigitList n.fraction

/-- The power of ten, if there is one. -/
def exponent (n : Numeral) : String :=
  n.power.elim "" fun p => "E" ++ withSign p

/-- A numeral as it is written. -/
def text (n : Numeral) : String :=
  n.sign ++ n.mantissa ++ n.exponent

/-- The factor that a sign stands for. -/
def signFactor (negative : Bool) : Rat :=
  if negative then -1 else 1

/-- What the digits are worth without sign and power. -/
def magnitude (n : Numeral) : Rat :=
  ofDigits n.whole + ofDigits n.fraction / 10 ^ n.fraction.length

/-- What the parts are worth. -/
def value (n : Numeral) : Rat :=
  signFactor n.negative * (n.magnitude * 10 ^ n.power.getD 0)

/-- There are digits before the point, and all digits are digits of base ten. -/
structure WellFormed (n : Numeral) : Prop where
  whole_ne_nil : n.whole ≠ []
  whole_lt : ∀ d ∈ n.whole, d < 10
  fraction_lt : ∀ d ∈ n.fraction, d < 10

variable {n : Numeral}

/-- The value of a numeral as a whole number and a power of ten. -/
theorem value_eq (n : Numeral) : n.value = signFactor n.negative *
    (ofDigits (n.whole ++ n.fraction) * 10 ^ (n.power.getD 0 - n.fraction.length)) := by
  have ten : (10 : Rat) ≠ 0 := by norm_num
  rw [value, magnitude, ofDigits_append, zpow_sub₀ ten, zpow_natCast]
  push_cast
  field_simp

theorem text_of_nil (h : n.fraction = []) :
    n.text = n.sign ++ ofDigitList n.whole ++ n.exponent := by
  rw [text, mantissa, h, List.isEmpty_nil, if_pos rfl, String.append_empty]

theorem text_of_ne_nil (h : n.fraction ≠ []) :
    n.text = n.sign ++ ofDigitList n.whole ++ "." ++ ofDigitList n.fraction ++ n.exponent := by
  rw [text, mantissa, if_neg (by rwa [List.isEmpty_iff])]
  simp only [String.append_assoc]

theorem toList_mantissa (n : Numeral) : n.mantissa.toList = n.whole.map digitChar ++
    if n.fraction.isEmpty then [] else '.' :: n.fraction.map digitChar := by
  rw [mantissa, String.toList_append, toList_ofDigitList]
  split
  · rfl
  · simp [toList_ofDigitList]

/-- The digits are read as what they are worth. -/
theorem WellFormed.fixed?_mantissa (h : n.WellFormed) :
    fixed? n.mantissa.toList = some n.magnitude := by
  have point : '.' ∉ n.whole.map digitChar := not_mem_map_digitChar (by decide) h.whole_lt
  have point' : '.' ∉ n.fraction.map digitChar := not_mem_map_digitChar (by decide) h.fraction_lt
  have whole := natural?_map_digitChar h.whole_ne_nil h.whole_lt
  rw [toList_mantissa, magnitude]
  by_cases none : n.fraction = []
  · simp [none, fixed?, List.splitOn_eq_singleton point, whole]
  · have fraction := natural?_map_digitChar none h.fraction_lt
    rw [if_neg (by simpa using none), fixed?, List.splitOn_append_cons_self_of_not_mem point,
      List.splitOn_eq_singleton point']
    simp [whole, fraction]

/-- The digits and the power are read as what they are worth together. -/
theorem WellFormed.unsigned?_eq (h : n.WellFormed) :
    unsigned? (n.mantissa ++ n.exponent).toList = some (n.magnitude * 10 ^ n.power.getD 0) := by
  have before : 'E' ∉ n.mantissa.toList := by
    have whole : 'E' ∉ n.whole.map digitChar := not_mem_map_digitChar (by decide) h.whole_lt
    have fraction : 'E' ∉ n.fraction.map digitChar :=
      not_mem_map_digitChar (by decide) h.fraction_lt
    rw [toList_mantissa, List.mem_append, not_or]
    refine ⟨whole, ?_⟩
    split
    · exact List.not_mem_nil
    · rw [List.mem_cons, not_or]
      exact ⟨by decide, fraction⟩
  have mantissa := h.fixed?_mantissa
  rw [String.toList_append]
  cases hpower : n.power with
  | none => simp [exponent, hpower, unsigned?, List.splitOn_eq_singleton before, mantissa]
  | some p =>
    have behind : 'E' ∉ (withSign p).toList :=
      not_mem_withSign (by decide) (by decide) (by decide) p
    have shape : n.exponent.toList = 'E' :: (withSign p).toList := by
      simp [exponent, hpower]
    rw [shape, unsigned?, List.splitOn_append_cons_self_of_not_mem before,
      List.splitOn_eq_singleton behind]
    simp [mantissa, integer?_withSign]

/-- What begins with a digit has no sign. -/
theorem WellFormed.signed?_eq (h : n.WellFormed) :
    signed? (n.mantissa ++ n.exponent).toList = unsigned? (n.mantissa ++ n.exponent).toList := by
  obtain ⟨d, ds, hwhole⟩ := List.exists_cons_of_ne_nil h.whole_ne_nil
  have digit : d < 10 := h.whole_lt d (hwhole ▸ List.mem_cons_self)
  have minus : digitChar d ≠ '-' := by
    intro same
    have digit' := isDigit_digitChar d digit
    rw [same] at digit'
    exact absurd digit' (by decide)
  rw [String.toList_append, toList_mantissa, hwhole, List.map_cons, List.cons_append,
    List.cons_append, signed?]
  intro cs same
  exact minus (List.cons.inj same).1

/-- The text of a numeral denotes what its parts are worth. -/
theorem WellFormed.valueOf?_text (h : n.WellFormed) : valueOf? n.text = some n.value := by
  have unsigned := h.unsigned?_eq
  cases hsign : n.negative with
  | false =>
    have shape : n.text = n.mantissa ++ n.exponent := by
      simp [text, sign, hsign]
    rw [valueOf?, shape, h.signed?_eq, unsigned, value, hsign]
    simp [signFactor]
  | true =>
    have shape : n.text.toList = '-' :: (n.mantissa ++ n.exponent).toList := by
      simp [text, sign, hsign]
    rw [valueOf?, shape, signed?, unsigned, value, hsign]
    simp [signFactor]

end Numeral

end SqlWire.Text
