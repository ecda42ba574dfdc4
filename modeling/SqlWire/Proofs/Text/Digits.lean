import Mathlib.Data.Nat.Digits.Lemmas
import SqlWire.Text.Digits

/-!
# Digits and the numbers they write

`Text.digits` writes a number the way `Nat.digits` does, read from the other end
(`digits_eq_reverse`), and `Text.ofDigits` reads it back (`ofDigits_digits`). Digits one behind the
other write a sum (`ofDigits_append`), so zeros in front count nothing and zeros behind shift.
-/

namespace SqlWire.Text

theorem ofDigits_eq (ds : List Nat) : ofDigits ds = Nat.ofDigits 10 ds.reverse := by
  rw [ofDigits, Nat.ofDigits_eq_foldr, List.foldr_reverse]
  simp only [Nat.add_comm, Nat.cast_id]

@[simp] theorem ofDigits_nil : ofDigits [] = 0 := rfl

theorem ofDigits_append (ds ds' : List Nat) :
    ofDigits (ds ++ ds') = ofDigits ds * 10 ^ ds'.length + ofDigits ds' := by
  rw [ofDigits_eq, List.reverse_append, Nat.ofDigits_append, List.length_reverse, ← ofDigits_eq,
    ← ofDigits_eq]
  ring

@[simp] theorem ofDigits_replicate_zero (n : Nat) : ofDigits (List.replicate n 0) = 0 := by
  rw [ofDigits_eq, List.reverse_replicate, Nat.ofDigits_replicate_zero]

@[simp] theorem digits_zero : digits 0 = [0] := by
  rw [digits]
  rfl

theorem digits_of_lt {n : Nat} (h : n < 10) : digits n = [n] := by
  rw [digits, if_pos h]

theorem digits_of_le {n : Nat} (h : 10 ≤ n) : digits n = digits (n / 10) ++ [n % 10] := by
  rw [digits, if_neg (Nat.not_lt.2 h)]

/-- The digits are those of base ten, the highest first. -/
theorem digits_eq_reverse {n : Nat} (h : n ≠ 0) : digits n = (Nat.digits 10 n).reverse := by
  induction n using Nat.strongRecOn with
  | _ n ih =>
    by_cases small : n < 10
    · rw [digits_of_lt small, Nat.digits_of_lt 10 n h small, List.reverse_singleton]
    · have some : n / 10 ≠ 0 := by omega
      have front := ih (n / 10) (by omega) some
      rw [digits_of_le (Nat.not_lt.1 small), front, Nat.digits_eq_cons_digits_div (by decide) h,
        List.reverse_cons]

/-- The digits of a number stand for it. -/
theorem ofDigits_digits (n : Nat) : ofDigits (digits n) = n := by
  by_cases h : n = 0
  · subst h
    rw [digits_zero]
    rfl
  · rw [ofDigits_eq, digits_eq_reverse h, List.reverse_reverse, Nat.ofDigits_digits]

theorem lt_ten_of_mem_digits {n d : Nat} (h : d ∈ digits n) : d < 10 := by
  by_cases zero : n = 0
  · rw [zero, digits_zero, List.mem_singleton] at h
    omega
  · rw [digits_eq_reverse zero, List.mem_reverse] at h
    exact Nat.digits_lt_base (by decide) h

theorem digits_ne_nil (n : Nat) : digits n ≠ [] := by
  by_cases h : n = 0
  · rw [h, digits_zero]
    exact List.cons_ne_nil _ _
  · rw [digits_eq_reverse h, Ne, List.reverse_eq_nil_iff]
    exact Nat.digits_ne_nil_iff_ne_zero.2 h

theorem length_digits_pos (n : Nat) : 0 < (digits n).length :=
  List.length_pos_iff.2 (digits_ne_nil n)

/-- How many digits a number has. -/
theorem length_digits {n : Nat} (h : n ≠ 0) : (digits n).length = Nat.log 10 n + 1 := by
  rw [digits_eq_reverse h, List.length_reverse, Nat.length_digits 10 n (by decide) h]

/-- There is no zero in front of a number that is not zero. -/
theorem head?_digits {n : Nat} (h : n ≠ 0) : (digits n).head? ≠ some 0 := by
  have some : Nat.digits 10 n ≠ [] := Nat.digits_ne_nil_iff_ne_zero.2 h
  have last := Nat.getLast_digit_ne_zero 10 h
  rw [digits_eq_reverse h, List.head?_reverse, List.getLast?_eq_some_getLast some]
  intro zero
  exact last (Option.some.inj zero)

/-- The last digit is what is left of a division by ten. -/
theorem getLast?_digits (n : Nat) : (digits n).getLast? = some (n % 10) := by
  by_cases small : n < 10
  · rw [digits_of_lt small, Nat.mod_eq_of_lt small]
    rfl
  · rw [digits_of_le (Nat.not_lt.1 small), List.getLast?_concat]

/-! ## Digits of a given width -/

/-- Zeros before a number change no value. -/
theorem ofDigits_padded (width n : Nat) : ofDigits (padded width n) = n := by
  rw [padded, ofDigits_append, ofDigits_replicate_zero, Nat.zero_mul, Nat.zero_add, ofDigits_digits]

theorem length_padded {width n : Nat} (pos : 0 < width) (h : n < 10 ^ width) :
    (padded width n).length = width := by
  have fits : (digits n).length ≤ width := by
    by_cases zero : n = 0
    · rw [zero, digits_zero]
      exact pos
    · have short := (Nat.digits_length_le_iff (by decide) n).2 h
      rwa [digits_eq_reverse zero, List.length_reverse]
  simp only [padded, List.length_append, List.length_replicate]
  omega

theorem lt_ten_of_mem_padded {width n d : Nat} (h : d ∈ padded width n) : d < 10 := by
  rw [padded, List.mem_append, List.mem_replicate] at h
  obtain ⟨-, rfl⟩ | h := h
  · decide
  · exact lt_ten_of_mem_digits h

theorem padded_ne_nil (width n : Nat) : padded width n ≠ [] :=
  List.append_ne_nil_of_right_ne_nil _ (digits_ne_nil n)

end SqlWire.Text
