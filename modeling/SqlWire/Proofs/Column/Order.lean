import Mathlib.Data.Int.ModEq
import Mathlib.Data.Nat.Digits.Lemmas
import SqlWire.Column.Value
import SqlWire.Proofs.Wire.Numbers

/-!
# Cells in either byte order

The number in a cell is that of its octets as digits of base 256, least first in one order and last
in the other (`ByteOrder.toNat_eq_written`). A type either reads this number and nothing else of its
cell (`Value.read_congr`), so a cell and its octets turned around are the same in the two orders, or
it does not ask for the order at all : packed decimals, texts and octets are what they are.

An integer is told apart from all others by its range and by what is left of it when it is divided
by the words of its width (`Column.twosComplement_eq_iff`). `Value.read_follows_order` says both of
every type and every cell.
-/

namespace SqlWire

/-! ## Octets as digits -/

namespace Octets

/-- Octets are digits of base 256, most significant first. -/
theorem toNat_eq_ofDigits (bs : Octets) :
    toNat bs = Nat.ofDigits 256 (bs.reverse.map UInt8.toNat) := by
  induction bs using List.reverseRecOn with
  | nil => rfl
  | append_singleton bs b ih =>
    rw [toNat_concat, ih, List.reverse_append, List.reverse_singleton, List.singleton_append,
      List.map_cons, Nat.ofDigits_cons, Nat.add_comm]

end Octets

namespace ByteOrder

/-- The octets of a number as digits of base 256, least significant first. -/
def digits : ByteOrder → Octets → List Nat
  | little, bs => bs.map UInt8.toNat
  | big, bs => bs.reverse.map UInt8.toNat

/-- The number that octets write by the places of their digits. -/
def written (order : ByteOrder) (bs : Octets) : Nat :=
  Nat.ofDigits 256 (order.digits bs)

theorem toNat_eq_written (order : ByteOrder) (bs : Octets) : order.toNat bs = order.written bs := by
  cases order with
  | little => rw [toNat, Octets.toNat_eq_ofDigits, arrange, List.reverse_reverse, written, digits]
  | big => exact Octets.toNat_eq_ofDigits bs

/-- Octets turned around write the same number in the other order. -/
theorem toNat_reverse (bs : Octets) : little.toNat bs.reverse = big.toNat bs := by
  rw [toNat, arrange, List.reverse_reverse, toNat, arrange]

end ByteOrder

/-! ## Integers -/

namespace Column

variable {order order' : ByteOrder} {cell cell' : Octets} {width n : Nat} {value : Int}

/-- A signed number is the one in its range that the octets write up to multiples of all that they
can write. -/
theorem twosComplement_eq_iff (h : n < 256 ^ width) :
    twosComplement width n = value ↔ value ≡ n [ZMOD 256 ^ width] ∧
      -(256 ^ width : Int) ≤ 2 * value ∧ 2 * value < 256 ^ width := by
  have words : ((256 ^ width : Nat) : Int) = 256 ^ width := Nat.cast_pow 256 width
  rw [twosComplement, Nat.pow_eq, ← words, Int.modEq_iff_dvd]
  generalize 256 ^ width = words at h
  constructor
  · rintro rfl
    split_ifs with low
    · exact ⟨⟨0, by omega⟩, by omega, by omega⟩
    · exact ⟨⟨1, by omega⟩, by omega, by omega⟩
  · rintro ⟨⟨times, same⟩, least, greatest⟩
    -- The two differ by less than twice the words, so by none of them or by one.
    have few : -1 < times ∧ times < 2 := by
      constructor
      · by_contra less
        nlinarith
      · by_contra more
        nlinarith
    obtain rfl | rfl : times = 0 ∨ times = 1 := by omega
    · rw [if_pos (by omega)]
      omega
    · rw [if_neg (by omega)]
      omega

/-- What the two readers of integers make of a cell. -/
structure ReadsIntegers (order : ByteOrder) (cell : Octets) : Prop where
  unsigned_iff : ∀ value, readUnsigned order cell = .ok value ↔
    cell.length ∈ [1, 2, 4, 8] ∧ value = order.written cell
  /-- A signed integer lies in its range, and is the unsigned one up to the words of its width. -/
  signed_iff : ∀ value, readSigned order cell = .ok value ↔
    cell.length ∈ [1, 2, 4, 8] ∧
      value ≡ order.written cell [ZMOD 256 ^ cell.length] ∧
      -(256 ^ cell.length : Int) ≤ 2 * value ∧ 2 * value < 256 ^ cell.length
  unsigned_error_iff : ∀ e, readUnsigned order cell = .error e ↔
    cell.length ∉ [1, 2, 4, 8] ∧ e = ⟨.unsigned, .width cell.length⟩
  signed_error_iff : ∀ e, readSigned order cell = .error e ↔
    cell.length ∉ [1, 2, 4, 8] ∧ e = ⟨.signed, .width cell.length⟩

theorem isIntegerWidth_iff : isIntegerWidth width = true ↔ width ∈ [1, 2, 4, 8] := by
  simp [isIntegerWidth, or_assoc]

/-- Numbers are read by all columns of whole numbers alike. -/
theorem readsIntegers (order : ByteOrder) (cell : Octets) : ReadsIntegers order cell := by
  have bound := order.toNat_lt cell
  by_cases width : cell.length ∈ [1, 2, 4, 8]
  · have whole := isIntegerWidth_iff.2 width
    refine ⟨fun value => ?_, fun value => ?_, fun e => ?_, fun e => ?_⟩
    · simp only [readUnsigned, whole, width, if_true, Except.ok.injEq, true_and,
        ← order.toNat_eq_written]
      exact eq_comm
    · simp only [readSigned, whole, width, if_true, Except.ok.injEq, true_and,
        ← order.toNat_eq_written]
      exact twosComplement_eq_iff bound
    · simp [readUnsigned, whole, width]
    · simp [readSigned, whole, width]
  · have none : isIntegerWidth cell.length = false := by
      rw [Bool.eq_false_iff, Ne, isIntegerWidth_iff]
      exact width
    refine ⟨fun value => ?_, fun value => ?_, fun e => ?_, fun e => ?_⟩
    · simp [readUnsigned, none, width]
    · simp [readSigned, none, width]
    · simp [readUnsigned, none, width, eq_comm]
    · simp [readSigned, none, width, eq_comm]

end Column

/-! ## Types -/

/-- Whether the cells of a type are numbers of several octets. -/
def SqlType.isOrdered : SqlType → Bool
  | tinyInt | smallInt | integer | bigInt | uInt | real | double | date | time | timestamp => true
  | _ => false

namespace Value

open Column

variable {type : SqlType} {charset : Charset} {order order' : ByteOrder} {cell cell' : Octets}

/-- Of an ordered cell nothing is read but the number of its octets and the number that they
write. -/
theorem read_congr (ordered : type.isOrdered = true) (length : cell.length = cell'.length)
    (number : order.toNat cell = order'.toNat cell') :
    read type order charset (some cell) = read type order' charset (some cell') := by
  have signed : readSigned order cell = readSigned order' cell' := by
    simp only [readSigned, length, number]
  have unsigned : readUnsigned order cell = readUnsigned order' cell' := by
    simp only [readUnsigned, length, number]
  have float : readFloat order cell = readFloat order' cell' := by
    simp only [readFloat, length, number]
  have date : readDate order cell = readDate order' cell' := by
    simp only [readDate, length, number]
  have time : readTime order cell = readTime order' cell' := by
    simp only [readTime, length, number]
  have timestamp : readTimestamp order cell = readTimestamp order' cell' := by
    simp only [readTimestamp, length, number]
  cases type with
  | tinyInt | smallInt | integer | bigInt => simp only [read, signed]
  | uInt => simp only [read, unsigned]
  | real | double => simp only [read, float]
  | date => simp only [read, date]
  | time => simp only [read, time]
  | timestamp => simp only [read, timestamp]
  | _ => cases ordered

/-- Where the order does not count, it is not asked for. -/
theorem read_of_not_isOrdered (unordered : type.isOrdered = false) (cell : Cell) :
    read type order charset cell = read type order' charset cell := by
  cases cell with
  | none => rfl
  | some cell =>
    cases type with
    | boolean | numeric | char | varChar | clob | binary | varBinary | blob | other _ => rfl
    | _ => cases unordered

/-- How a cell follows the byte order by the type of its column. -/
structure FollowsOrder (type : SqlType) (charset : Charset) (cell : Octets) : Prop where
  /-- Turned around, the cell is the same in the other order, or unreadable for the same reason. -/
  ordered : type.isOrdered = true →
    read type .big charset (some cell) = read type .little charset (some cell.reverse)
  unordered : type.isOrdered = false →
    read type .big charset (some cell) = read type .little charset (some cell)

/-- Numbers of several octets follow the byte order and nothing else does ; integers are those that
the octets write in the order, and NULL is NULL in every column. -/
theorem read_follows_order (type : SqlType) (charset : Charset) (order : ByteOrder)
    (cell : Octets) :
    FollowsOrder type charset cell ∧ ReadsIntegers order cell ∧
      read type order charset none = .ok .null where
  left.ordered h := read_congr h cell.length_reverse.symm (ByteOrder.toNat_reverse cell).symm
  left.unordered h := read_of_not_isOrdered h (some cell)
  right := ⟨readsIntegers order cell, rfl⟩

end Value

end SqlWire
