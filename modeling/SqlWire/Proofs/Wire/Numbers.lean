import Mathlib.Algebra.Group.Nat.Defs
import Mathlib.Data.List.Induction
import SqlWire.ByteOrder

/-!
# Numbers in octets

A number is read back from its octets in either byte order as long as they can hold it
(`ByteOrder.toNat_octets`), and octets are those of the number that they write
(`ByteOrder.octets_toNat`).
-/

namespace SqlWire

namespace Octets

@[simp] theorem length_ofNat (width n : Nat) : (ofNat width n).length = width := by
  induction width generalizing n with
  | zero => rfl
  | succ width ih => rw [ofNat, List.length_append, ih, List.length_singleton]

theorem toNat_concat (bs : Octets) (b : UInt8) :
    toNat (bs ++ [b]) = 256 * toNat bs + b.toNat := by
  simp [toNat]

/-- The low octets of a number write its remainder. -/
theorem toNat_ofNat (width n : Nat) : toNat (ofNat width n) = n % 256 ^ width := by
  induction width generalizing n with
  | zero => simp [ofNat, toNat, Nat.mod_one]
  | succ width ih =>
    have low : (UInt8.ofNat n).toNat = n % 256 := UInt8.toNat_ofNat'
    rw [ofNat, toNat_concat, ih, low, Nat.pow_succ', Nat.mod_mul, Nat.add_comm]

/-- All octets are the low ones of the number that they write. -/
theorem ofNat_toNat (bs : Octets) : ofNat bs.length (toNat bs) = bs := by
  induction bs using List.reverseRecOn with
  | nil => rfl
  | append_singleton bs b ih =>
    have below := b.toNat_lt
    have front : (256 * toNat bs + b.toNat) / 256 = toNat bs := by omega
    have last : UInt8.ofNat (256 * toNat bs + b.toNat) = b := by
      rw [← UInt8.toNat_inj, UInt8.toNat_ofNat']
      omega
    rw [List.length_append, List.length_singleton, ofNat, toNat_concat, front, ih, last]

theorem toNat_lt (bs : Octets) : toNat bs < 256 ^ bs.length := by
  have low := toNat_ofNat bs.length (toNat bs)
  rw [ofNat_toNat] at low
  rw [low]
  exact Nat.mod_lt _ (Nat.pow_pos (by decide))

end Octets

namespace ByteOrder

/-- To put octets in the other order twice changes nothing. -/
@[simp] theorem arrange_arrange (order : ByteOrder) (bs : Octets) :
    order.arrange (order.arrange bs) = bs := by
  cases order <;> simp [arrange]

@[simp] theorem length_octets (order : ByteOrder) (width n : Nat) :
    (order.octets width n).length = width := by
  cases order <;> simp [octets, arrange]

/-- A number that fits so many octets is read as it was written. -/
theorem toNat_octets {order : ByteOrder} {width n : Nat} (h : n < 256 ^ width) :
    order.toNat (order.octets width n) = n := by
  rw [toNat, octets, arrange_arrange, Octets.toNat_ofNat, Nat.mod_eq_of_lt h]

@[simp] theorem length_arrange (order : ByteOrder) (bs : Octets) :
    (order.arrange bs).length = bs.length := by
  cases order <;> simp [arrange]

theorem toNat_lt (order : ByteOrder) (bs : Octets) : order.toNat bs < 256 ^ bs.length := by
  rw [toNat, ← order.length_arrange bs]
  exact Octets.toNat_lt _

/-- The number that the first four octets write. -/
def firstWord (order : ByteOrder) (bs : Octets) : Nat :=
  order.toNat (bs.take 4)

theorem firstWord_lt (order : ByteOrder) (bs : Octets) : order.firstWord bs < 2 ^ 32 :=
  Nat.lt_of_lt_of_le (order.toNat_lt _)
    (Nat.pow_le_pow_right (by decide) (List.length_take_le 4 bs))

theorem toNat_ofNat_firstWord (order : ByteOrder) (bs : Octets) :
    (UInt32.ofNat (order.firstWord bs)).toNat = order.firstWord bs :=
  UInt32.toNat_ofNat_of_lt' (order.firstWord_lt bs)

theorem firstWord_append {bs : Octets} (h : 4 ≤ bs.length) (order : ByteOrder) (rest : Octets) :
    order.firstWord (bs ++ rest) = order.firstWord bs := by
  rw [firstWord, List.take_append_of_le_length h, firstWord]

theorem octets_toNat (order : ByteOrder) (bs : Octets) :
    order.octets bs.length (order.toNat bs) = bs := by
  rw [toNat, octets, ← order.length_arrange bs, Octets.ofNat_toNat, arrange_arrange]

/-- As many octets as a number is written with are those of the number that they write. -/
theorem octets_of_toNat_eq {order : ByteOrder} {bs : Octets} {width n : Nat}
    (length : bs.length = width) (h : n = order.toNat bs) : order.octets width n = bs := by
  rw [h, ← length, octets_toNat]

end ByteOrder

end SqlWire
