import Mathlib.Algebra.BigOperators.Fin
import SqlWire.Decimal.Rendering
import SqlWire.Proofs.Text.Numeral

/-!
# What the text of a decimal denotes

A packed decimal stands for the number that its segments write in base ten thousand, with the point
behind the first of them and moved by the exponent (`PackedDecimal.toRat`). Its digits are those of
an integer with a decimal scale that is worth the same (`PackedDecimal.toRat_scaled`), and stripping
the zeros from it changes nothing of that (`Scaled.toRat_stripped`).

Each layout is the text of a numeral with the same digits and the point or the power of ten that
belongs to the scale (`Scaled.plainNumeral`, `Scaled.scientificNumeral`,
`PackedDecimal.intermediateNumeral`). So both texts of a decimal denote its value
(`PackedDecimal.texts_denote`).
-/

namespace SqlWire

open Text

/-! ## Segments -/

namespace PackedDecimal

/-- Every segment but the leading one is a digit of base ten thousand. -/
def Valid (value : PackedDecimal) : Prop :=
  ∀ segment ∈ value.segments.tail, segment.toNat < segmentBase

/-- The number that segments write in base ten thousand. -/
def significand (segments : List UInt16) : Nat :=
  ∑ i : Fin segments.length, segments[i].toNat * segmentBase ^ (segments.length - 1 - i)

/-- The number that a packed decimal stands for. -/
def toRat (value : PackedDecimal) : Rat :=
  Numeral.signFactor value.negative * (significand value.segments *
    (segmentBase : Rat) ^ (value.exponent.toInt - ((value.segments.length : Int) - 1)))

@[simp] theorem significand_nil : significand [] = 0 := rfl

theorem significand_cons (lead : UInt16) (rest : List UInt16) : significand (lead :: rest) =
    lead.toNat * segmentBase ^ rest.length + significand rest := by
  have next (i : Fin rest.length) : rest.length - (i.val + 1) = rest.length - 1 - i.val := by
    omega
  simp only [significand, List.length_cons, Fin.sum_univ_succ, Fin.getElem_fin, Fin.val_zero,
    List.getElem_cons_zero, Fin.val_succ, List.getElem_cons_succ, next, Nat.add_sub_cancel,
    Nat.sub_zero]

variable {segments : List UInt16}

theorem length_flatMap_padded (h : ∀ segment ∈ segments, segment.toNat < segmentBase) :
    (segments.flatMap fun segment => padded segmentWidth segment.toNat).length =
      segmentWidth * segments.length := by
  induction segments with
  | nil => rfl
  | cons segment segments ih =>
    have first : (padded segmentWidth segment.toNat).length = segmentWidth :=
      length_padded (by decide) (h segment List.mem_cons_self)
    have others := ih fun segment hsegment => h segment (List.mem_cons_of_mem _ hsegment)
    rw [List.flatMap_cons, List.length_append, first, others, List.length_cons, Nat.mul_succ,
      Nat.add_comm]

theorem ten_pow_segmentWidth_mul (n : Nat) : 10 ^ (segmentWidth * n) = segmentBase ^ n :=
  Nat.pow_mul 10 segmentWidth n

theorem ofDigits_flatMap_padded (h : ∀ segment ∈ segments, segment.toNat < segmentBase) :
    ofDigits (segments.flatMap fun segment => padded segmentWidth segment.toNat) =
      significand segments := by
  induction segments with
  | nil => rfl
  | cons segment segments ih =>
    have behind : ∀ segment ∈ segments, segment.toNat < segmentBase :=
      fun segment hsegment => h segment (List.mem_cons_of_mem _ hsegment)
    rw [List.flatMap_cons, ofDigits_append, ofDigits_padded, length_flatMap_padded behind,
      ih behind, ten_pow_segmentWidth_mul, significand_cons]

theorem Valid.behind {value : PackedDecimal} {lead : UInt16} {rest : List UInt16}
    (valid : value.Valid) (h : value.segments = lead :: rest) :
    ∀ segment ∈ rest, segment.toNat < segmentBase := by
  rw [Valid, h, List.tail_cons] at valid
  exact valid

/-- The digits that are written are worth the segments. -/
theorem ofDigits_writtenDigits {value : PackedDecimal} (valid : value.Valid) :
    ofDigits value.writtenDigits = significand value.segments := by
  cases hsegments : value.segments with
  | nil => simp [writtenDigits, hsegments, ofDigits]
  | cons lead rest =>
    have behind := valid.behind hsegments
    simp only [writtenDigits, hsegments]
    rw [ofDigits_append, ofDigits_digits, length_flatMap_padded behind,
      ofDigits_flatMap_padded behind, ten_pow_segmentWidth_mul, significand_cons]

end PackedDecimal

/-! ## Integers with a scale -/

namespace Scaled

/-- The number that an integer with a decimal scale stands for. -/
def toRat (value : Scaled) : Rat :=
  Numeral.signFactor value.negative * (value.coefficient * 10 ^ (-value.scale))

/-- To take off zeros at the end changes no value. -/
theorem toRat_stripped (value : Scaled) : value.stripped.toRat = value.toRat := by
  fun_induction stripped value with
  | case1 value h ih =>
    have ten : (10 : Rat) ≠ 0 := by norm_num
    have whole : (value.coefficient : Rat) = (value.coefficient / 10 : Nat) * 10 := by
      exact_mod_cast (Nat.div_mul_cancel (Nat.dvd_of_mod_eq_zero h.2)).symm
    have shifted : -(value.scale - 1) = -value.scale + 1 := by omega
    rw [ih, toRat, toRat, shifted, zpow_add₀ ten, zpow_one, whole]
    ring
  | case2 => rfl

/-- The parts of the plain layout. -/
def plainNumeral (value : Scaled) : Numeral :=
  let ds := digits value.coefficient
  if value.scale ≤ 0 then ⟨value.negative, ds ++ zeros (-value.scale).toNat, [], none⟩
  else
    let scale := value.scale.toNat
    if scale < ds.length then
      ⟨value.negative, ds.take (ds.length - scale), ds.drop (ds.length - scale), none⟩
    else ⟨value.negative, [0], zeros (scale - ds.length) ++ ds, none⟩

/-- The parts of the scientific layout. -/
def scientificNumeral (value : Scaled) : Numeral where
  negative := value.negative
  whole := (digits value.coefficient).take 1
  fraction := (digits value.coefficient).drop 1
  power := some ((digits value.coefficient).length - 1 - value.scale)

/-- The plain text is that of a numeral. -/
theorem text_plainNumeral (value : Scaled) : value.plainNumeral.text = value.plain := by
  by_cases left : value.scale ≤ 0
  · have parts : value.plainNumeral =
        ⟨value.negative, digits value.coefficient ++ zeros (-value.scale).toNat, [], none⟩ := by
      simp only [plainNumeral, if_pos left]
    rw [parts, Numeral.text_of_nil rfl]
    simp only [plain, if_pos left]
    exact String.append_empty
  by_cases inside : value.scale.toNat < (digits value.coefficient).length
  · have some : (digits value.coefficient).drop
        ((digits value.coefficient).length - value.scale.toNat) ≠ [] := by
      rw [Ne, List.drop_eq_nil_iff]
      omega
    simp only [plainNumeral, plain, if_neg left, if_pos inside]
    rw [Numeral.text_of_ne_nil some]
    exact String.append_empty
  · have some : zeros (value.scale.toNat - (digits value.coefficient).length) ++
        digits value.coefficient ≠ [] := List.append_ne_nil_of_right_ne_nil _ (digits_ne_nil _)
    have zero : "0." = ofDigitList [0] ++ "." := by decide
    simp only [plainNumeral, plain, if_neg left, if_neg inside]
    rw [Numeral.text_of_ne_nil some, zero, ← String.append_assoc]
    exact String.append_empty

theorem text_scientificNumeral (value : Scaled) :
    value.scientificNumeral.text = value.scientific := by
  have power : value.scientificNumeral.exponent =
      "E" ++ withSign ((digits value.coefficient).length - 1 - value.scale) := rfl
  simp only [scientific]
  by_cases more : 1 < (digits value.coefficient).length
  · have some : value.scientificNumeral.fraction ≠ [] := by
      rw [scientificNumeral, Ne, List.drop_eq_nil_iff]
      omega
    rw [Numeral.text_of_ne_nil some, if_pos more, power, ← String.append_assoc,
      ← String.append_assoc]
    rfl
  · have none : value.scientificNumeral.fraction = [] := by
      rw [scientificNumeral, List.drop_eq_nil_iff]
      omega
    rw [Numeral.text_of_nil none, if_neg more, String.append_empty, power, ← String.append_assoc]
    rfl

theorem lt_ten_of_mem_zeros {n d : Nat} (h : d ∈ zeros n) : d < 10 := by
  rw [zeros, List.mem_replicate] at h
  omega

theorem wellFormed_plainNumeral (value : Scaled) : value.plainNumeral.WellFormed := by
  have all : ∀ d ∈ digits value.coefficient, d < 10 := fun d hd => lt_ten_of_mem_digits hd
  have padding (n : Nat) : ∀ d ∈ zeros n, d < 10 := fun d hd => lt_ten_of_mem_zeros hd
  simp only [plainNumeral]
  split_ifs with left inside
  · exact ⟨List.append_ne_nil_of_left_ne_nil (digits_ne_nil _) _,
      List.forall_mem_append.2 ⟨all, padding _⟩, nofun⟩
  · refine ⟨?_, fun d hd => all d (List.mem_of_mem_take hd),
      fun d hd => all d (List.mem_of_mem_drop hd)⟩
    rw [Ne, List.take_eq_nil_iff, not_or]
    exact ⟨by omega, digits_ne_nil _⟩
  · exact ⟨List.cons_ne_nil _ _, by simp, List.forall_mem_append.2 ⟨padding _, all⟩⟩

theorem wellFormed_scientificNumeral (value : Scaled) : value.scientificNumeral.WellFormed where
  whole_ne_nil := by
    rw [scientificNumeral, Ne, List.take_eq_nil_iff, not_or]
    exact ⟨by decide, digits_ne_nil _⟩
  whole_lt _ hd := lt_ten_of_mem_digits (List.mem_of_mem_take hd)
  fraction_lt _ hd := lt_ten_of_mem_digits (List.mem_of_mem_drop hd)

@[simp] theorem length_zeros (n : Nat) : (zeros n).length = n :=
  List.length_replicate

@[simp] theorem ofDigits_zeros (n : Nat) : ofDigits (zeros n) = 0 :=
  ofDigits_replicate_zero n

/-- The plain text is worth the number. -/
theorem value_plainNumeral (value : Scaled) : value.plainNumeral.value = value.toRat := by
  have written := ofDigits_digits value.coefficient
  rw [Numeral.value_eq, toRat]
  simp only [plainNumeral]
  split_ifs with left inside
  · -- The zeros behind the digits are those that the scale asks for.
    obtain ⟨n, shift⟩ := Int.eq_ofNat_of_zero_le (Int.neg_nonneg_of_nonpos left)
    rw [shift, List.append_nil, ofDigits_append, written, ofDigits_zeros, length_zeros]
    simp
  · have places : (((digits value.coefficient).drop
        ((digits value.coefficient).length - value.scale.toNat)).length : Int) = value.scale := by
      rw [List.length_drop]
      omega
    rw [List.take_append_drop, written, places, Option.getD_none, Int.zero_sub]
  · have places : ((zeros (value.scale.toNat - (digits value.coefficient).length) ++
        digits value.coefficient).length : Int) = value.scale := by
      rw [List.length_append, length_zeros]
      omega
    have front : ofDigits ([0] ++ zeros (value.scale.toNat - (digits value.coefficient).length)) =
        0 := ofDigits_replicate_zero (_ + 1)
    rw [← List.append_assoc, ofDigits_append, front, written, places, Nat.zero_mul, Nat.zero_add,
      Option.getD_none, Int.zero_sub]

theorem value_scientificNumeral (value : Scaled) :
    value.scientificNumeral.value = value.toRat := by
  have digit := length_digits_pos value.coefficient
  have places : ((digits value.coefficient).length : Int) - 1 - value.scale -
      (((digits value.coefficient).drop 1).length : Int) = -value.scale := by
    rw [List.length_drop]
    omega
  simp only [Numeral.value_eq, toRat, scientificNumeral, List.take_append_drop, ofDigits_digits,
    Option.getD_some, places]

end Scaled

/-! ## Texts -/

namespace Text.Numeral

/-- The numeral of zero. -/
def zero : Numeral := ⟨false, [0], [], none⟩

theorem text_zero : zero.text = "0" := by decide

theorem wellFormed_zero : zero.WellFormed := ⟨by decide, by decide, nofun⟩

theorem value_zero : zero.value = 0 := by
  simp [value, magnitude, zero, ofDigits]

end Text.Numeral

namespace PackedDecimal

variable {value : PackedDecimal}

/-- The digits and the scale are worth the segments and the exponent. -/
theorem toRat_scaled (valid : value.Valid) : value.scaled.toRat = value.toRat := by
  have coefficient : value.scaled.coefficient = significand value.segments :=
    ofDigits_writtenDigits valid
  have sign : value.scaled.negative = value.negative := rfl
  rw [Scaled.toRat, toRat, coefficient, sign]
  cases hsegments : value.segments with
  | nil => simp
  | cons lead rest =>
    have base : (segmentBase : Rat) = 10 ^ (4 : Int) := by norm_num [segmentBase]
    have shift : -value.scaled.scale =
        4 * (value.exponent.toInt - (((lead :: rest).length : Int) - 1)) := by
      simp only [scaled, powerOfTen, hsegments, List.tail_cons, List.length_cons, segmentWidth]
      omega
    rw [base, shift, zpow_mul]

/-- The parts of the intermediate text. -/
def intermediateNumeral (value : PackedDecimal) : Numeral :=
  match value.segments with
  | [] => .zero
  | lead :: rest =>
    { negative := value.negative
      whole := digits lead.toNat
      fraction := rest.flatMap fun segment => padded segmentWidth segment.toNat
      power := if value.exponent = 0 then none else some value.powerOfTen }

/-- The parts of the text that is shown. -/
def displayNumeral (value : PackedDecimal) : Numeral :=
  if value.scaled.coefficient = 0 then .zero
  else if value.estimatedPrecision ≤ plainPrecision then value.scaled.stripped.plainNumeral
  else value.scaled.stripped.scientificNumeral

theorem text_intermediateNumeral (value : PackedDecimal) :
    value.intermediateNumeral.text = value.intermediate := by
  rw [intermediateNumeral, intermediate]
  cases value.segments with
  | nil => exact Numeral.text_zero
  | cons lead rest =>
    have empty : (rest.flatMap fun segment => padded segmentWidth segment.toNat).isEmpty =
        rest.isEmpty := by
      cases rest with
      | nil => rfl
      | cons segment rest => simp [padded_ne_nil]
    have power : (if value.exponent = 0 then none else some value.powerOfTen).elim ""
        (fun p => "E" ++ withSign p) =
        if value.exponent = 0 then "" else "E" ++ withSign value.powerOfTen := by
      split <;> rfl
    simp only [Numeral.text, Numeral.sign, Numeral.mantissa, Numeral.exponent, empty, power,
      decimal, String.append_assoc]

theorem wellFormed_intermediateNumeral (value : PackedDecimal) :
    value.intermediateNumeral.WellFormed := by
  rw [intermediateNumeral]
  cases value.segments with
  | nil => exact Numeral.wellFormed_zero
  | cons lead rest =>
    refine ⟨digits_ne_nil _, fun d hd => lt_ten_of_mem_digits hd, fun d hd => ?_⟩
    obtain ⟨segment, -, among⟩ := List.mem_flatMap.1 hd
    exact lt_ten_of_mem_padded among

/-- The text in between is worth the number. -/
theorem value_intermediateNumeral (valid : value.Valid) :
    value.intermediateNumeral.value = value.toRat := by
  rw [← toRat_scaled valid, Scaled.toRat, scaled, writtenDigits, intermediateNumeral]
  cases hsegments : value.segments with
  | nil => simp [Numeral.value_zero, ofDigits]
  | cons lead rest =>
    have behind := valid.behind hsegments
    have power : (if value.exponent = 0 then none else some value.powerOfTen).getD 0 =
        value.powerOfTen := by
      split
      · next none =>
        rw [powerOfTen, none]
        rfl
      · rfl
    have shift : value.powerOfTen - ((segmentWidth * rest.length : Nat) : Int) =
        -((segmentWidth * rest.length : Nat) - value.powerOfTen) := by
      omega
    rw [Numeral.value_eq]
    simp only [length_flatMap_padded behind, power, shift, List.tail_cons]

theorem text_displayNumeral (value : PackedDecimal) :
    value.displayNumeral.text = value.display := by
  rw [displayNumeral, display]
  split_ifs
  · exact Numeral.text_zero
  · exact Scaled.text_plainNumeral _
  · exact Scaled.text_scientificNumeral _

theorem wellFormed_displayNumeral (value : PackedDecimal) : value.displayNumeral.WellFormed := by
  rw [displayNumeral]
  split_ifs
  · exact Numeral.wellFormed_zero
  · exact Scaled.wellFormed_plainNumeral _
  · exact Scaled.wellFormed_scientificNumeral _

/-- The text that is shown is worth the number. -/
theorem value_displayNumeral (valid : value.Valid) : value.displayNumeral.value = value.toRat := by
  rw [← toRat_scaled valid, displayNumeral]
  split_ifs with none
  · simp [Numeral.value_zero, Scaled.toRat, none]
  · rw [Scaled.value_plainNumeral, Scaled.toRat_stripped]
  · rw [Scaled.value_scientificNumeral, Scaled.toRat_stripped]

/-- The text in between is read as the number. -/
theorem valueOf?_intermediate (valid : value.Valid) :
    valueOf? value.intermediate = some value.toRat := by
  rw [← text_intermediateNumeral, (wellFormed_intermediateNumeral value).valueOf?_text,
    value_intermediateNumeral valid]

/-- So is the text that is shown. -/
theorem valueOf?_display (valid : value.Valid) : valueOf? value.display = some value.toRat := by
  rw [← text_displayNumeral, (wellFormed_displayNumeral value).valueOf?_text,
    value_displayNumeral valid]

/-- Whatever the layout, both texts of a decimal denote exactly the number it stands for. -/
theorem texts_denote (valid : value.Valid) :
    valueOf? value.intermediate = some value.toRat ∧ valueOf? value.display = some value.toRat :=
  ⟨valueOf?_intermediate valid, valueOf?_display valid⟩

/-- A leading segment of five digits, a zero at the end and a power below zero. -/
theorem texts_denote_wide :
    let value : PackedDecimal := ⟨true, -1, [65535, 50, 0]⟩
    value.Valid ∧ value.toRat = -6.5535005 ∧
      valueOf? value.intermediate = some value.toRat ∧
      valueOf? value.display = some value.toRat := by
  intro value
  have valid : value.Valid := by
    simp [value, Valid, segmentBase]
  have exponent : value.exponent.toInt = -1 := by decide
  have written : significand value.segments = 655350050 * 10000 := by
    simp [value, significand_cons, segmentBase]
  refine ⟨valid, ?_, texts_denote valid⟩
  rw [toRat, exponent, written]
  norm_num [value, Numeral.signFactor, segmentBase]

end PackedDecimal

end SqlWire
