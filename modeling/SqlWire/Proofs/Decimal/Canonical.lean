import Mathlib.Data.Int.Log
import Mathlib.Data.Rat.Floor
import SqlWire.Proofs.Decimal.Value

/-!
# One text for each value

The text of a decimal has no superfluous digits : zero is a lone `0`, plain digits have no zeros
around them (`Numeral.IsPlain`), and scientific ones have one digit before the point and the order
of magnitude as the power of ten (`Numeral.IsScientific`, `Scaled.log_abs_toRat`).

Stripped integers are told apart by what they are worth (`Scaled.eq_of_toRat_eq`), although segments
and exponents are not. Within one layout a value has therefore one text and a text has one value
(`PackedDecimal.display_canonical`).
-/

namespace SqlWire

open Text

/-! ## Digits without superfluous zeros -/

namespace Text.Numeral

/-- Plain digits with nothing to leave out. -/
structure IsPlain (n : Numeral) : Prop extends WellFormed n where
  /-- No zero in front of other digits. -/
  head : n.whole = [0] ∨ n.whole.head? ≠ some 0
  /-- No zero at the end of the fraction. -/
  last : n.fraction.getLast? ≠ some 0
  power : n.power = none

/-- Scientific notation with nothing to leave out. -/
structure IsScientific (n : Numeral) (magnitude : Int) : Prop extends WellFormed n where
  head : ∃ d, n.whole = [d] ∧ 1 ≤ d ∧ d ≤ 9
  /-- No zero at the end of the fraction. -/
  last : n.fraction.getLast? ≠ some 0
  power : n.power = some magnitude

theorem signFactor_ne_zero (negative : Bool) : signFactor negative ≠ 0 := by
  cases negative <;> simp [signFactor]

theorem abs_signFactor (negative : Bool) : |signFactor negative| = 1 := by
  cases negative <;> simp [signFactor]

theorem signFactor_injective : Function.Injective signFactor := by
  intro a b
  cases a <;> cases b <;> norm_num [signFactor]

end Text.Numeral

attribute [ext] Scaled

namespace Scaled

variable {a b value : Scaled}

theorem negative_stripped (value : Scaled) : value.stripped.negative = value.negative := by
  fun_induction stripped value with
  | case1 _ _ ih => exact ih
  | case2 => rfl

/-- Stripping leaves no zero at the end. -/
theorem coefficient_stripped_mod (h : value.coefficient ≠ 0) :
    value.stripped.coefficient % 10 ≠ 0 := by
  fun_induction stripped value with
  | case1 value divides ih =>
    have some : value.coefficient / 10 ≠ 0 := by omega
    exact ih some
  | case2 value ends =>
    intro zero
    exact ends ⟨h, zero⟩

theorem getLast?_digits_ne (h : value.coefficient % 10 ≠ 0) :
    (digits value.coefficient).getLast? ≠ some 0 := by
  rw [getLast?_digits]
  intro zero
  exact h (Option.some.inj zero)

theorem head?_digits_ne (h : value.coefficient % 10 ≠ 0) :
    (digits value.coefficient).head? ≠ some 0 :=
  head?_digits (by omega)

/-- Without zeros at the end the plain text has the shape of one. -/
theorem isPlain_plainNumeral (h : value.coefficient % 10 ≠ 0) : value.plainNumeral.IsPlain := by
  have front := head?_digits_ne h
  have ends := getLast?_digits_ne h
  refine ⟨value.wellFormed_plainNumeral, ?_, ?_, ?_⟩
  · simp only [plainNumeral]
    split_ifs with left inside
    · rw [List.head?_append_of_ne_nil _ (digits_ne_nil _)]
      exact Or.inr front
    · have some : (digits value.coefficient).length - value.scale.toNat ≠ 0 := by omega
      rw [List.head?_take, if_neg some]
      exact Or.inr front
    · exact Or.inl rfl
  · simp only [plainNumeral]
    split_ifs with left inside
    · exact (Option.some_ne_none 0).symm
    · have some : ¬(digits value.coefficient).length ≤
          (digits value.coefficient).length - value.scale.toNat := by omega
      rw [List.getLast?_drop, if_neg some]
      exact ends
    · rw [List.getLast?_append, getLast?_digits, Option.some_or, ← getLast?_digits]
      exact ends
  · simp only [plainNumeral]
    split_ifs <;> rfl

theorem abs_toRat (value : Scaled) : |value.toRat| = value.coefficient * 10 ^ (-value.scale) := by
  have pos : (0 : Rat) ≤ value.coefficient * 10 ^ (-value.scale) :=
    mul_nonneg (Nat.cast_nonneg _) (zpow_nonneg (by norm_num) _)
  rw [toRat, abs_mul, Numeral.abs_signFactor, one_mul, abs_of_nonneg pos]

theorem toRat_eq_zero_iff : value.toRat = 0 ↔ value.coefficient = 0 := by
  have unit : (10 : Rat) ^ (-value.scale) ≠ 0 := zpow_ne_zero _ (by norm_num)
  rw [toRat, mul_eq_zero_iff_left (Numeral.signFactor_ne_zero _), mul_eq_zero_iff_right unit,
    Nat.cast_eq_zero]

/-- The order of magnitude is that of the coefficient, moved by the scale. -/
theorem log_abs_toRat (h : value.coefficient ≠ 0) :
    Int.log 10 |value.toRat| = Nat.log 10 value.coefficient - value.scale := by
  have ten : ((10 : Nat) : Rat) ≠ 0 := by norm_num
  have pos : 0 < |value.toRat| := abs_pos.2 (mt toRat_eq_zero_iff.1 h)
  have unit : (0 : Rat) < ((10 : Nat) : Rat) ^ (-value.scale) := zpow_pos (by norm_num) _
  have below : ((10 : Nat) : Rat) ^ (Nat.log 10 value.coefficient : Int) ≤ value.coefficient := by
    exact_mod_cast Nat.pow_log_le_self 10 h
  have above : (value.coefficient : Rat) <
      ((10 : Nat) : Rat) ^ ((Nat.log 10 value.coefficient : Int) + 1) := by
    exact_mod_cast Nat.lt_pow_succ_log_self (by decide : 1 < 10) value.coefficient
  have lower : (Nat.log 10 value.coefficient : Int) - value.scale ≤ Int.log 10 |value.toRat| := by
    rw [← Int.zpow_le_iff_le_log (by decide) pos, abs_toRat, sub_eq_add_neg, zpow_add₀ ten]
    exact mul_le_mul_of_nonneg_right below unit.le
  have upper : Int.log 10 |value.toRat| <
      (Nat.log 10 value.coefficient : Int) + 1 - value.scale := by
    rw [← Int.lt_zpow_iff_log_lt (by decide) pos, abs_toRat, sub_eq_add_neg _ value.scale,
      zpow_add₀ ten]
    exact mul_lt_mul_of_pos_right above unit
  omega

/-- Without zeros at the end the other text has one digit before the point, and the power is the
order of magnitude. -/
theorem isScientific_scientificNumeral (h : value.coefficient % 10 ≠ 0) :
    value.scientificNumeral.IsScientific (Int.log 10 |value.toRat|) := by
  have some : value.coefficient ≠ 0 := by omega
  have length := length_digits some
  obtain ⟨d, ds, hdigits⟩ := List.exists_cons_of_ne_nil (digits_ne_nil value.coefficient)
  have front := head?_digits_ne h
  have ends := getLast?_digits_ne h
  have among : d ∈ digits value.coefficient := hdigits ▸ List.mem_cons_self
  have small : d < 10 := lt_ten_of_mem_digits among
  refine ⟨value.wellFormed_scientificNumeral, ⟨d, ?_, ?_, by omega⟩, ?_, ?_⟩
  · simp only [scientificNumeral, hdigits, List.take_succ_cons, List.take_zero]
  · rw [hdigits, List.head?_cons] at front
    exact Nat.pos_of_ne_zero fun zero => front (congrArg Option.some zero)
  · simp only [scientificNumeral, List.getLast?_drop]
    split
    · exact (Option.some_ne_none 0).symm
    · exact ends
  · rw [log_abs_toRat some]
    simp only [scientificNumeral, length, Nat.cast_add, Nat.cast_one]
    congr 1
    omega

/-! ## Equal values -/

/-- Of two integers worth the same, one without a zero at the end has no greater scale. -/
theorem scale_le_of_abs_eq (hb : b.coefficient % 10 ≠ 0) (h : |a.toRat| = |b.toRat|) :
    b.scale ≤ a.scale := by
  by_contra less
  have apart : 0 ≤ b.scale - a.scale - 1 := by omega
  obtain ⟨n, hn⟩ := Int.eq_ofNat_of_zero_le apart
  have ten : (10 : Rat) ≠ 0 := by norm_num
  have shift : -a.scale = -b.scale + (n + 1 : Nat) := by omega
  rw [abs_toRat, abs_toRat, shift, zpow_add₀ ten, zpow_natCast, mul_left_comm,
    mul_comm (b.coefficient : Rat)] at h
  have same := mul_left_cancel₀ (zpow_ne_zero _ ten) h
  have multiple : a.coefficient * 10 ^ (n + 1) = b.coefficient := by exact_mod_cast same
  rw [Nat.pow_succ, ← Nat.mul_assoc] at multiple
  omega

/-- Integers without a zero at the end are the same if they are worth the same. -/
theorem eq_of_toRat_eq (ha : a.coefficient % 10 ≠ 0) (hb : b.coefficient % 10 ≠ 0)
    (h : a.toRat = b.toRat) : a = b := by
  have magnitudes : |a.toRat| = |b.toRat| := congrArg _ h
  have scales : a.scale = b.scale :=
    Int.le_antisymm (scale_le_of_abs_eq ha magnitudes.symm) (scale_le_of_abs_eq hb magnitudes)
  have unit : (10 : Rat) ^ (-b.scale) ≠ 0 := zpow_ne_zero _ (by norm_num)
  have coefficients : a.coefficient = b.coefficient := by
    rw [abs_toRat, abs_toRat, scales] at magnitudes
    exact_mod_cast mul_right_cancel₀ unit magnitudes
  have some : (b.coefficient : Rat) * 10 ^ (-b.scale) ≠ 0 :=
    mul_ne_zero (Nat.cast_ne_zero.2 (by omega)) unit
  have signs : a.negative = b.negative := by
    rw [toRat, toRat, scales, coefficients] at h
    exact Numeral.signFactor_injective (mul_right_cancel₀ some h)
  exact Scaled.ext signs coefficients scales

end Scaled

/-! ## Texts -/

namespace PackedDecimal

variable {a b value : PackedDecimal}

theorem coefficient_eq_zero_iff (valid : value.Valid) :
    value.scaled.coefficient = 0 ↔ value.toRat = 0 := by
  rw [← toRat_scaled valid, Scaled.toRat_eq_zero_iff]

theorem coefficient_stripped_mod (valid : value.Valid) (h : value.toRat ≠ 0) :
    value.scaled.stripped.coefficient % 10 ≠ 0 :=
  Scaled.coefficient_stripped_mod (mt (coefficient_eq_zero_iff valid).1 h)

theorem display_of_eq_zero (valid : value.Valid) (h : value.toRat = 0) : value.display = "0" := by
  rw [display, if_pos ((coefficient_eq_zero_iff valid).2 h)]

theorem display_of_le (valid : value.Valid) (h : value.toRat ≠ 0)
    (short : value.estimatedPrecision ≤ plainPrecision) :
    value.display = value.scaled.stripped.plain := by
  rw [display, if_neg (mt (coefficient_eq_zero_iff valid).1 h), if_pos short]

theorem display_of_lt (valid : value.Valid) (h : value.toRat ≠ 0)
    (long : plainPrecision < value.estimatedPrecision) :
    value.display = value.scaled.stripped.scientific := by
  rw [display, if_neg (mt (coefficient_eq_zero_iff valid).1 h), if_neg (Nat.not_le.2 long)]

/-- How a decimal is shown : without a digit that could be left out. -/
structure ShownBare (value : PackedDecimal) : Prop where
  zero : value.toRat = 0 → value.display = "0"
  plain : value.toRat ≠ 0 → value.estimatedPrecision ≤ plainPrecision →
    ∃ n : Numeral, value.display = n.text ∧ n.negative = value.negative ∧ n.IsPlain
  scientific : value.toRat ≠ 0 → plainPrecision < value.estimatedPrecision →
    ∃ n : Numeral, value.display = n.text ∧ n.negative = value.negative ∧
      n.IsScientific (Int.log 10 |value.toRat|)

theorem negative_plainNumeral (value : Scaled) : value.plainNumeral.negative = value.negative := by
  simp only [Scaled.plainNumeral]
  split_ifs <;> rfl

/-- Every text has such a shape. -/
theorem shownBare (valid : value.Valid) : value.ShownBare where
  zero := display_of_eq_zero valid
  plain h short := by
    have stripped := coefficient_stripped_mod valid h
    refine ⟨value.scaled.stripped.plainNumeral, ?_, ?_, Scaled.isPlain_plainNumeral stripped⟩
    · rw [display_of_le valid h short, Scaled.text_plainNumeral]
    · rw [negative_plainNumeral, Scaled.negative_stripped]
      rfl
  scientific h long := by
    have stripped := coefficient_stripped_mod valid h
    have numeral := Scaled.isScientific_scientificNumeral stripped
    rw [Scaled.toRat_stripped, toRat_scaled valid] at numeral
    refine ⟨value.scaled.stripped.scientificNumeral, ?_, ?_, numeral⟩
    · rw [display_of_lt valid h long, Scaled.text_scientificNumeral]
    · exact Scaled.negative_stripped _

/-- Equal numbers are the same once the zeros at the end were taken off. -/
theorem stripped_eq_of_toRat_eq (ha : a.Valid) (hb : b.Valid) (some : a.toRat ≠ 0)
    (h : a.toRat = b.toRat) : a.scaled.stripped = b.scaled.stripped := by
  have some' : b.toRat ≠ 0 := h ▸ some
  refine Scaled.eq_of_toRat_eq (coefficient_stripped_mod ha some)
    (coefficient_stripped_mod hb some') ?_
  rw [Scaled.toRat_stripped, Scaled.toRat_stripped, toRat_scaled ha, toRat_scaled hb, h]

/-- Equal numbers have the same text if they are written in the same way. -/
theorem display_eq_of_toRat_eq (ha : a.Valid) (hb : b.Valid)
    (layout : a.toRat ≠ 0 → b.toRat ≠ 0 →
      (a.estimatedPrecision ≤ plainPrecision ↔ b.estimatedPrecision ≤ plainPrecision))
    (h : a.toRat = b.toRat) : a.display = b.display := by
  by_cases zero : a.toRat = 0
  · rw [display_of_eq_zero ha zero, display_of_eq_zero hb (h ▸ zero)]
  have zero' : b.toRat ≠ 0 := h ▸ zero
  have same := stripped_eq_of_toRat_eq ha hb zero h
  by_cases short : a.estimatedPrecision ≤ plainPrecision
  · rw [display_of_le ha zero short, display_of_le hb zero' ((layout zero zero').1 short), same]
  · have short' := mt (layout zero zero').2 short
    rw [display_of_lt ha zero (Nat.lt_of_not_le short),
      display_of_lt hb zero' (Nat.lt_of_not_le short'), same]

/-- A decimal is shown without a digit that could be left out. Two that are shown in the same layout
have the same text exactly if they stand for the same number. -/
theorem display_canonical (ha : a.Valid) : a.ShownBare ∧ ∀ b : PackedDecimal, b.Valid →
    (a.toRat ≠ 0 → b.toRat ≠ 0 →
      (a.estimatedPrecision ≤ plainPrecision ↔ b.estimatedPrecision ≤ plainPrecision)) →
    (a.display = b.display ↔ a.toRat = b.toRat) := by
  refine ⟨shownBare ha, fun b hb layout => ⟨fun h => ?_, display_eq_of_toRat_eq ha hb layout⟩⟩
  have denoted := valueOf?_display ha
  rw [h, valueOf?_display hb] at denoted
  exact (Option.some.inj denoted).symm

/-- Zeros around the digits, and a wide segment or a greater exponent, are not seen in the text. -/
theorem display_canonical_wide :
    let a : PackedDecimal := ⟨true, 0, [12345, 6000]⟩
    let b : PackedDecimal := ⟨true, 2, [0, 1, 2345, 6000, 0]⟩
    a.Valid ∧ b.Valid ∧ a.estimatedPrecision = 9 ∧ b.estimatedPrecision = 17 ∧
      (a.display = b.display ↔ a.toRat = b.toRat) ∧ a.toRat = b.toRat := by
  intro a b
  have ha : a.Valid := by simp [a, Valid, segmentBase]
  have hb : b.Valid := by simp [b, Valid, segmentBase]
  have precision : a.estimatedPrecision = 9 := by decide +kernel
  have precision' : b.estimatedPrecision = 17 := by decide +kernel
  refine ⟨ha, hb, precision, precision', (display_canonical ha).2 b hb fun _ _ => ?_, ?_⟩
  · rw [precision, precision']
    decide
  · have exponent : a.exponent.toInt = 0 := by decide
    have exponent' : b.exponent.toInt = 2 := by decide
    have written : significand a.segments = 123456000 := by
      simp [a, significand_cons, segmentBase]
    have written' : significand b.segments = 1234560000000 := by
      simp [b, significand_cons, segmentBase]
    rw [toRat, toRat, exponent, exponent', written, written']
    norm_num [a, b, segmentBase]

end PackedDecimal

end SqlWire
