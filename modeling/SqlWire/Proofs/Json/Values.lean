import SqlWire.CommandLine.Output
import SqlWire.Proofs.Json.Reading

/-!
# Values in JSON

`Value.json` says what the value of a column is in JSON : a number or a truth value is one there,
what is no finite number is `null`, and all else is its text. That is what is read back from the
text that is written for it (`takes_valueJson`, `read_valueJson`).

A double is written with its shortest digits. Whether these are laid out plainly, with a zero behind
the point or with an exponent, what is read is the number that they write (`takes_float`).
-/

namespace SqlWire

open Text Text.Parser

/-! ## Doubles -/

namespace Binary64

/-- The number that a finite double is written as in JSON, that of its shortest digits. -/
def written (x : Binary64) : Rat :=
  if x.isZero then 0
  else (Scaled.mk x.negative (x.shortest .even).1 (-(x.shortest .even).2)).toRat

/-- The parts of the text of a finite double in JSON. -/
def jsonNumeral (x : Binary64) : Numeral :=
  if x.isZero then ⟨x.negative, [0], [0], none⟩
  else
    let (c, k) := x.shortest .even
    let top := ((digits c).length : Int) + k
    if jsonRule.least < top ∧ top ≤ jsonRule.greatest then
      if 0 ≤ k then ⟨x.negative, digits c ++ Scaled.zeros k.toNat, [0], none⟩
      else (Scaled.mk x.negative c (-k)).plainNumeral
    else (Scaled.mk x.negative c (-k)).scientificNumeral

theorem plainNumeral_of_nonneg {k : Int} (h : 0 ≤ k) (negative : Bool) (c : Nat) :
    (Scaled.mk negative c (-k)).plainNumeral =
      ⟨negative, digits c ++ Scaled.zeros k.toNat, [], none⟩ := by
  have whole : -k ≤ 0 := by omega
  simp only [Scaled.plainNumeral, if_pos whole, Int.neg_neg]

/-- Without a power, a numeral has the same text everywhere. -/
theorem numeralText_plain (value : Scaled) :
    Json.numeralText value.plainNumeral = value.plain := by
  have none : value.plainNumeral.power = none := by
    simp only [Scaled.plainNumeral]
    split_ifs <;> rfl
  rw [← Scaled.text_plainNumeral, Json.numeralText, Numeral.text, Numeral.exponent, none]
  rfl

theorem numeralText_integer (negative : Bool) (whole : List Nat) :
    Json.numeralText ⟨negative, whole, [0], none⟩ =
      Json.numeralText ⟨negative, whole, [], none⟩ ++ ".0" := by
  have zero : "." ++ ofDigitList [0] = ".0" := by decide
  simp only [Json.numeralText, Numeral.mantissa, List.isEmpty_cons, List.isEmpty_nil, if_true,
    Bool.false_eq_true, if_false, zero, Json.powerText, Option.elim_none, String.append_empty,
    String.append_assoc]
  rfl

theorem numeralText_scientific (negative : Bool) (c : Nat) (k : Int) :
    Json.numeralText (Scaled.mk negative c (-k)).scientificNumeral =
      (Scaled.mk negative c (-k)).sign ++ ofDigitList ((digits c).take 1) ++
        (if 1 < (digits c).length then "." ++ ofDigitList ((digits c).drop 1) else "") ++ "e" ++
        signed ((digits c).length + k - 1) := by
  have power : ((digits c).length : Int) - 1 - -k = (digits c).length + k - 1 := by omega
  have point : (if ((digits c).drop 1).isEmpty then ""
      else "." ++ ofDigitList ((digits c).drop 1)) =
      if 1 < (digits c).length then "." ++ ofDigitList ((digits c).drop 1) else "" := by
    by_cases more : 1 < (digits c).length
    · rw [if_pos more, if_neg]
      rw [List.isEmpty_iff, List.drop_eq_nil_iff]
      omega
    · rw [if_neg more, if_pos]
      rw [List.isEmpty_iff, List.drop_eq_nil_iff]
      omega
  rw [← point, ← power]
  simp only [Json.numeralText, Scaled.scientificNumeral, Numeral.mantissa, Json.powerText,
    Option.elim_some, String.append_assoc]
  rfl

theorem json?_eq (x : Binary64) : x.json? =
    if x.isNaN || x.isInfinite then none else some (Json.numeralText x.jsonNumeral) := by
  rw [json?, jsonNumeral]
  split
  · rfl
  · split
    · cases x.negative <;> rfl
    · dsimp only
      split_ifs with plain integer more
      · rw [numeralText_integer, ← plainNumeral_of_nonneg integer, numeralText_plain]
      · rw [numeralText_plain]
      · rw [numeralText_scientific, if_pos more]
      · rw [numeralText_scientific, if_neg more]

theorem wellFormed_jsonNumeral (x : Binary64) : x.jsonNumeral.WellFormed := by
  rw [jsonNumeral]
  split
  · exact ⟨List.cons_ne_nil _ _, by simp, by simp⟩
  · dsimp only
    split_ifs with plain integer
    · have formed := Scaled.wellFormed_plainNumeral
        ⟨x.negative, (x.shortest .even).1, -(x.shortest .even).2⟩
      rw [plainNumeral_of_nonneg integer] at formed
      exact ⟨formed.whole_ne_nil, formed.whole_lt, by simp⟩
    · exact Scaled.wellFormed_plainNumeral _
    · exact Scaled.wellFormed_scientificNumeral _

theorem value_integer (negative : Bool) (whole : List Nat) :
    (Numeral.mk negative whole [0] none).value = (Numeral.mk negative whole [] none).value := by
  simp [Numeral.value, Numeral.magnitude, ofDigits]

/-- What is written of a floating point number is worth what is told of it. -/
theorem value_jsonNumeral (x : Binary64) : x.jsonNumeral.value = x.written := by
  rw [jsonNumeral, written]
  split
  · simp [Numeral.value, Numeral.magnitude, ofDigits]
  · dsimp only
    split_ifs with plain integer
    · rw [value_integer, ← plainNumeral_of_nonneg integer, Scaled.value_plainNumeral]
    · exact Scaled.value_plainNumeral _
    · exact Scaled.value_scientificNumeral _

end Binary64

/-! ## Values -/

/-- What a value is in JSON. -/
def Value.json : Value → Json
  | .null => .null
  | .boolean value => .boolean value
  | .signed value => .number value
  | .unsigned value => .number value
  | .float value => if value.isNaN || value.isInfinite then .null else .number value.written
  | value => .text value.display

namespace CommandLine

theorem takes_signed (v : Int) {rest : List Char} (stop : Stops Json.isNumeric rest) :
    Takes Json.scalar (signed v).toList (.number v) rest := by
  let n : Numeral := ⟨decide (v < 0), digits v.natAbs, [], none⟩
  have formed : n.WellFormed := ⟨digits_ne_nil _, fun d hd => lt_ten_of_mem_digits hd, nofun⟩
  have text : Json.numeralText n = signed v := by
    rw [signed_eq]
    simp [n, Json.numeralText, Numeral.sign, Numeral.mantissa, Json.powerText, decimal]
  have worth : n.value = v := by
    rw [Numeral.value_eq]
    simp only [n, List.append_nil, ofDigits_digits, Option.getD_none, List.length_nil,
      Nat.cast_zero, Int.sub_zero, zpow_zero, mul_one, Numeral.signFactor, decide_eq_true_eq,
      Nat.cast_natAbs, Int.cast_abs]
    split
    · next negative => rw [abs_of_neg (Int.cast_lt_zero.2 negative), neg_one_mul, neg_neg]
    · next positive => rw [abs_of_nonneg (Int.cast_nonneg (Int.not_lt.1 positive)), one_mul]
  rw [← text, ← worth]
  exact Json.takes_number formed stop

/-- A floating point number is read as what is told of it, or as null. -/
theorem takes_float (x : Binary64) {rest : List Char} (stop : Stops Json.isNumeric rest) :
    Takes Json.scalar (valueJson (.float x)).toList (Value.json (.float x)) rest := by
  rw [valueJson, Binary64.json?_eq, Value.json]
  split
  · exact Json.takes_null rest
  · rw [Option.getD_some, ← Binary64.value_jsonNumeral]
    exact Json.takes_number x.wellFormed_jsonNumeral stop

/-- Every value is read as the one that it is shown as. -/
theorem takes_valueJson (v : Value) {rest : List Char} (stop : Stops Json.isNumeric rest) :
    Takes Json.scalar (valueJson v).toList v.json rest := by
  cases v with
  | null => exact Json.takes_null rest
  | boolean b => exact Json.takes_boolean b rest
  | signed v => exact takes_signed v stop
  | unsigned n => exact takes_signed n stop
  | float x => exact takes_float x stop
  | _ => exact Json.takes_text _ rest

/-- The text of a value on its own says what the value is. -/
theorem read_valueJson (v : Value) : Json.read (valueJson v) = some v.json := by
  refine Json.read_eq_some ?_
  exact Json.takes_value _ (List.forall_mem_nil _) (takes_valueJson v stops_nil)

end CommandLine

end SqlWire
