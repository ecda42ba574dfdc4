import Mathlib.Data.List.TakeWhile
import SqlWire.Proofs.Wire.RoundTrip

/-!
# What every step of a reader takes

A reader goes on after an error from wherever it stands, so what a step takes matters also when it
fails. `Slot.Step` lists all that can become of a slot : a word that is there is taken as a whole
and one that is not there is left alone, while a field has given up its length before its body is
looked for. Each slot ends in exactly one of these ways, whatever the octets are
(`Slot.read_eq_iff`).

`Slot.Run` puts steps one behind the other, and `Slot.trace_disciplined` says of all slots in any
order and of any octets that nothing but such a run is possible, and that what is left at any time
is the end of what there was.
-/

namespace SqlWire.Wire

/-! ## Reading what is not there -/

namespace Reader

variable {α β : Type} {order : ByteOrder} {left rest : Octets} {e : Error} {n : Nat}

theorem bind_of_error {r : Reader α} {f : α → Reader β} (h : r order left = (.error e, rest)) :
    (r >>= f) order left = (.error e, rest) := by
  simp only [Bind.bind, Reader.bind, h]

theorem take_of_short (part : Part) (missing : left.length < n) :
    take part n order left = (.error (.malformed (.short part n left.length)), left) := by
  rw [take, if_pos missing]

theorem word_of_short (part : Part) (missing : left.length < n) :
    word part n order left = (.error (.malformed (.short part n left.length)), left) := by
  rw [word, take_of_short part missing]

theorem u32_of_short (missing : left.length < 4) :
    u32 order left = (.error (.malformed (.short .word32 4 left.length)), left) :=
  bind_of_error (word_of_short .word32 missing)

/-- Behind a length that is too great the body is missing, and the length is taken. -/
theorem nullable_of_noBody (length : n < nullLength.toNat) (missing : rest.length < n + padding n) :
    nullable order (order.octets alignment n ++ rest) =
      (.error (.malformed (.short .fieldBody (n + padding n) rest.length)), rest) := by
  have null : nullLength.toNat = 2 ^ 32 - 1 := rfl
  have short : n < 2 ^ 32 := by omega
  have whole : (UInt32.ofNat n).toNat = n := UInt32.toNat_ofNat_of_lt' short
  have some : UInt32.ofNat n ≠ nullLength := by
    intro same
    rw [← same, whole] at length
    omega
  have count : u32 order (order.octets 4 n ++ rest) = _ := reads_count short rest
  simp only [nullable, Bind.bind, Reader.bind, alignment, count, if_neg some, whole]
  exact bind_of_error (take_of_short .fieldBody missing)

theorem field_of_error (h : nullable order left = (.error e, rest)) :
    field order left = (.error e, rest) :=
  bind_of_error h

theorem field_of_null :
    field order (order.octets alignment nullLength.toNat ++ rest) =
      (.error (.malformed .unexpectedNull), rest) := by
  simp only [field, Bind.bind, Reader.bind, reads_null rest]
  rfl

theorem untilZero_of_zero {octets : Octets} (nonzero : ∀ octet ∈ octets, (octet != 0) = true) :
    untilZero order (octets ++ 0 :: rest) = (.ok octets, rest) := by
  simp only [untilZero, List.takeWhile_append_of_pos nonzero, List.dropWhile_append_of_pos nonzero]
  simp

theorem untilZero_of_noZero {octets : Octets} (nonzero : ∀ octet ∈ octets, (octet != 0) = true) :
    untilZero order octets = (.ok octets, []) := by
  have taken : octets.takeWhile (· != 0) = octets := List.takeWhile_eq_self_iff.2 nonzero
  have none : octets.dropWhile (· != 0) = [] := List.dropWhile_eq_nil_iff.2 nonzero
  simp only [untilZero, taken, none, List.drop_nil]

end Reader

open Reader

namespace Slot

/-! ## Steps -/

/-- The part that a slot of fixed extent takes, and the number of its octets. -/
def fixed? : Slot → Option (Part × Nat)
  | u8 => some (.octet, 1)
  | u16 => some (.word16, 2)
  | u32 | i32 => some (.word32, 4)
  | u64 => some (.word64, 8)
  | raw count => some (.rawOctets, count)
  | field | nullable | untilZero => none

/-- Whether a slot begins with the length of a field. -/
def isField : Slot → Bool
  | field | nullable => true
  | _ => false

/-- `Step order slot left outcome rest` : of the octets that are left a slot makes this outcome, and
leaves the rest. -/
inductive Step (order : ByteOrder) : Slot → Octets → Except Error Item → Octets → Prop
  /-- A part that is there is taken, as the item that it writes. -/
  | whole {part : Part} {item : Item} {taken rest : Octets}
      (fixed : item.slot.fixed? = some (part, taken.length)) (written : item.encode order = taken) :
      Step order item.slot (taken ++ rest) (.ok item.reread) rest
  /-- Of a part that is not all there, nothing is taken. -/
  | short {slot : Slot} {part : Part} {n : Nat} {left : Octets}
      (fixed : slot.fixed? = some (part, n)) (missing : left.length < n) :
      Step order slot left (.error (.malformed (.short part n left.length))) left
  /-- The body of a field is taken behind its length, and as many octets as fill it up. -/
  | body {item : Item} {octets fill rest : Octets} (body : item.body? = some (some octets))
      (length : octets.length < nullLength.toNat) (filled : fill.length = padding octets.length) :
      Step order item.slot (order.octets alignment octets.length ++ (octets ++ fill) ++ rest)
        (.ok item) rest
  | null {rest : Octets} :
      Step order .nullable (order.octets alignment nullLength.toNat ++ rest)
        (.ok (.nullable none)) rest
  /-- Of a length that is not all there, nothing is taken. -/
  | noLength {slot : Slot} {left : Octets} (field : slot.isField = true)
      (missing : left.length < alignment) :
      Step order slot left (.error (.malformed (.short .word32 alignment left.length))) left
  /-- A length is taken also if the body behind it, or what fills it up, is not all there. -/
  | noBody {slot : Slot} {n : Nat} {rest : Octets} (field : slot.isField = true)
      (length : n < nullLength.toNat) (missing : rest.length < n + padding n) :
      Step order slot (order.octets alignment n ++ rest)
        (.error (.malformed (.short .fieldBody (n + padding n) rest.length))) rest
  | unexpectedNull {rest : Octets} :
      Step order .field (order.octets alignment nullLength.toNat ++ rest)
        (.error (.malformed .unexpectedNull)) rest
  /-- The zero behind octets is taken with them. -/
  | zero {octets rest : Octets} (nonzero : ∀ octet ∈ octets, octet ≠ 0) :
      Step order .untilZero (octets ++ 0 :: rest) (.ok (.raw octets)) rest
  /-- Without a zero all octets are taken. -/
  | noZero {octets : Octets} (nonzero : ∀ octet ∈ octets, octet ≠ 0) :
      Step order .untilZero octets (.ok (.raw octets)) []

variable {order : ByteOrder} {slot : Slot} {left rest : Octets} {outcome : Except Error Item}

/-! ## What a step tells is read -/

theorem read_of_short {part : Part} {n : Nat} (fixed : slot.fixed? = some (part, n))
    (missing : left.length < n) :
    slot.read order left = (.error (.malformed (.short part n left.length)), left) := by
  cases slot with
  | u8 | u16 | u32 | u64 =>
    cases fixed
    exact bind_of_error (bind_of_error (word_of_short _ missing))
  | i32 =>
    cases fixed
    exact bind_of_error (bind_of_error (u32_of_short missing))
  | raw count =>
    cases fixed
    exact bind_of_error (take_of_short _ missing)
  | field | nullable | untilZero => cases fixed

/-- Whatever is wrong with a field, it is read as one that may be NULL. -/
theorem read_of_error {e : Error} (h : slot.isField = true)
    (failed : Reader.nullable order left = (.error e, rest)) :
    slot.read order left = (.error e, rest) := by
  cases slot with
  | field => exact bind_of_error (field_of_error failed)
  | nullable => exact bind_of_error failed
  | u8 | u16 | u32 | i32 | u64 | raw _ | untilZero => cases h

/-- An item that a slot of fixed extent takes is no field. -/
theorem storable_of_fixed {item : Item} {part : Part} {n : Nat}
    (fixed : item.slot.fixed? = some (part, n)) : item.Storable := by
  intro octets h
  cases item with
  | field | nullable => cases fixed
  | _ => cases h

theorem reads_body {item : Item} {octets fill : Octets} (body : item.body? = some (some octets))
    (length : octets.length < nullLength.toNat) (filled : fill.length = padding octets.length) :
    Reads order item.slot.read (order.octets alignment octets.length ++ (octets ++ fill)) item := by
  have read : Reads order Reader.nullable _ _ := reads_filled length filled
  cases item with
  | field _ =>
    cases body
    exact read.field_of_nullable.bind_pure Item.field
  | nullable _ =>
    cases body
    exact read.bind_pure Item.nullable
  | _ => cases body

/-- A step tells what is read. -/
theorem Step.read_eq (step : Step order slot left outcome rest) :
    slot.read order left = (outcome, rest) := by
  cases step with
  | whole fixed written =>
    rw [← written]
    exact Item.reads_encode (storable_of_fixed fixed) _
  | short fixed missing => exact read_of_short fixed missing
  | body body length filled => exact reads_body body length filled _
  | null => exact reads_null.bind_pure Item.nullable _
  | noLength field missing => exact read_of_error field (bind_of_error (u32_of_short missing))
  | noBody field length missing => exact read_of_error field (nullable_of_noBody length missing)
  | unexpectedNull => exact bind_of_error field_of_null
  | zero nonzero =>
    have all := fun octet h => bne_iff_ne.2 (nonzero octet h)
    simp only [read, Bind.bind, Reader.bind, untilZero_of_zero all]
    rfl
  | noZero nonzero =>
    have all := fun octet h => bne_iff_ne.2 (nonzero octet h)
    simp only [read, Bind.bind, Reader.bind, untilZero_of_noZero all]
    rfl

/-! ## There is a step from any octets -/

/-- A part that is there is what some item writes. -/
theorem exists_item {part : Part} {n : Nat} {taken : Octets} (order : ByteOrder)
    (fixed : slot.fixed? = some (part, n)) (length : taken.length = n) :
    ∃ item : Item, item.slot = slot ∧ item.encode order = taken := by
  have bound := order.toNat_lt taken
  rw [length] at bound
  cases slot with
  | u8 =>
    cases fixed
    obtain ⟨octet, rfl⟩ := List.length_eq_one_iff.1 length
    exact ⟨.u8 octet, rfl, rfl⟩
  | u16 =>
    cases fixed
    exact ⟨.u16 (.ofNat (order.toNat taken)), rfl,
      ByteOrder.octets_of_toNat_eq length (UInt16.toNat_ofNat_of_lt' bound)⟩
  | u32 =>
    cases fixed
    exact ⟨.u32 (.ofNat (order.toNat taken)), rfl,
      ByteOrder.octets_of_toNat_eq length (UInt32.toNat_ofNat_of_lt' bound)⟩
  | i32 =>
    cases fixed
    obtain ⟨value, written⟩ := exists_i32 order length
    exact ⟨.i32 value, rfl, written⟩
  | u64 =>
    cases fixed
    exact ⟨.u64 (.ofNat (order.toNat taken)), rfl,
      ByteOrder.octets_of_toNat_eq length (UInt64.toNat_ofNat_of_lt' bound)⟩
  | raw count =>
    cases fixed
    exact ⟨.raw taken, congrArg Slot.raw length, rfl⟩
  | field | nullable | untilZero => cases fixed

/-- So many octets at the front, if there are as many. -/
theorem exists_append {n : Nat} {octets : Octets} (h : n ≤ octets.length) :
    ∃ front rest, octets = front ++ rest ∧ front.length = n :=
  ⟨octets.take n, octets.drop n, (List.take_append_drop n octets).symm, List.length_take_of_le h⟩

/-- A slot of fixed extent makes a step, there being enough octets or too few. -/
theorem exists_step_of_fixed {part : Part} {n : Nat} (order : ByteOrder) (left : Octets)
    (fixed : slot.fixed? = some (part, n)) : ∃ outcome rest, Step order slot left outcome rest := by
  by_cases missing : left.length < n
  · exact ⟨_, _, .short fixed missing⟩
  · obtain ⟨taken, rest, rfl, rfl⟩ := exists_append (Nat.le_of_not_lt missing)
    obtain ⟨item, rfl, written⟩ := exists_item order fixed rfl
    exact ⟨_, _, .whole fixed written⟩

/-- Behind a length stands what it asks for, or there is too little of that. -/
theorem exists_step_of_length {n : Nat} (order : ByteOrder) (behind : Octets)
    (field : slot.isField = true) (length : n < nullLength.toNat) :
    ∃ outcome rest, Step order slot (order.octets alignment n ++ behind) outcome rest := by
  by_cases missing : behind.length < n + padding n
  · exact ⟨_, _, .noBody field length missing⟩
  · have enough : n ≤ behind.length := by omega
    obtain ⟨octets, behind, rfl, rfl⟩ := exists_append enough
    have enough : padding octets.length ≤ behind.length := by
      rw [List.length_append] at missing
      omega
    obtain ⟨fill, rest, rfl, filled⟩ := exists_append enough
    have step (item : Item) (body : item.body? = some (some octets)) :
        Step order item.slot (_ ++ (octets ++ fill) ++ rest) (.ok item) rest :=
      .body body length filled
    rw [← List.append_assoc octets, ← List.append_assoc]
    cases slot with
    | field => exact ⟨_, _, step (.field octets) rfl⟩
    | nullable => exact ⟨_, _, step (.nullable (some octets)) rfl⟩
    | u8 | u16 | u32 | i32 | u64 | raw _ | untilZero => cases field

theorem exists_step_of_isField (order : ByteOrder) (left : Octets) (field : slot.isField = true) :
    ∃ outcome rest, Step order slot left outcome rest := by
  by_cases missing : left.length < alignment
  · exact ⟨_, _, .noLength field missing⟩
  · obtain ⟨word, behind, rfl, whole⟩ := exists_append (Nat.le_of_not_lt missing)
    have bound := order.toNat_lt word
    rw [← ByteOrder.octets_of_toNat_eq whole rfl]
    by_cases null : order.toNat word = nullLength.toNat
    · rw [null]
      cases slot with
      | field => exact ⟨_, _, .unexpectedNull⟩
      | nullable => exact ⟨_, _, .null⟩
      | u8 | u16 | u32 | i32 | u64 | raw _ | untilZero => cases field
    · have top : nullLength.toNat = 256 ^ alignment - 1 := rfl
      rw [whole] at bound
      exact exists_step_of_length order behind field (by omega)

theorem exists_step_untilZero (order : ByteOrder) (left : Octets) :
    ∃ outcome rest, Step order .untilZero left outcome rest := by
  by_cases zero : 0 ∈ left
  · obtain ⟨octets, rest, rfl, nonzero⟩ := List.eq_append_cons_of_mem zero
    exact ⟨_, _, .zero fun octet h same => nonzero (same ▸ h)⟩
  · exact ⟨_, _, .noZero fun octet h same => zero (same ▸ h)⟩

/-- Whatever is left, a slot can make a step. -/
theorem exists_step (order : ByteOrder) (slot : Slot) (left : Octets) :
    ∃ outcome rest, Step order slot left outcome rest := by
  cases slot with
  | field | nullable => exact exists_step_of_isField order left rfl
  | untilZero => exact exists_step_untilZero order left
  | u8 | u16 | u32 | i32 | u64 | raw _ => exact exists_step_of_fixed order left rfl

/-- What is read is what a step tells, and there is no other step. -/
theorem read_eq_iff :
    slot.read order left = (outcome, rest) ↔ Step order slot left outcome rest := by
  refine ⟨fun read => ?_, Step.read_eq⟩
  obtain ⟨outcome', rest', step⟩ := exists_step order slot left
  obtain ⟨rfl, rfl⟩ := Prod.mk.inj (read.symm.trans step.read_eq)
  exact step

/-- What is read is a step. -/
theorem step_read (order : ByteOrder) (slot : Slot) (left : Octets) :
    Step order slot left (slot.read order left).1 (slot.read order left).2 :=
  read_eq_iff.1 rfl

/-- A step leaves the end of what it was given. -/
theorem Step.suffix (step : Step order slot left outcome rest) : rest <:+ left := by
  cases step with
  | whole | body | null | noBody | unexpectedNull => exact List.suffix_append _ _
  | short | noLength => exact List.suffix_refl _
  | zero => exact (List.suffix_cons _ _).trans (List.suffix_append _ _)
  | noZero => exact List.nil_suffix

/-! ## Runs -/

/-- Steps one after the other, each from where the one before has left off, an error or not. -/
inductive Run (order : ByteOrder) : List Slot → Octets → List (Except Error Item × Octets) → Prop
  | nil {left : Octets} : Run order [] left []
  | cons {slot : Slot} {slots : List Slot} {left rest : Octets} {outcome : Except Error Item}
      {entries : List (Except Error Item × Octets)} (step : Step order slot left outcome rest)
      (others : Run order slots rest entries) :
      Run order (slot :: slots) left ((outcome, rest) :: entries)

variable {slots : List Slot} {entries : List (Except Error Item × Octets)}

/-- What is read one after the other is a run. -/
theorem run_trace (order : ByteOrder) (slots : List Slot) (left : Octets) :
    Run order slots left (trace order slots left) := by
  induction slots generalizing left with
  | nil => exact .nil
  | cons slot slots ih => exact .cons (step_read order slot left) (ih _)

/-- There is one run of given slots over given octets. -/
theorem Run.eq_trace (run : Run order slots left entries) : entries = trace order slots left := by
  induction run with
  | nil => rfl
  | cons step _ ih => rw [trace, step.read_eq, ih]

/-- Whatever is left at any time is the end of what there was. -/
theorem Run.suffix (run : Run order slots left entries) : ∀ entry ∈ entries, entry.2 <:+ left := by
  induction run with
  | nil => exact fun _ => nofun
  | cons step _ ih =>
    intro entry h
    obtain rfl | h := List.mem_cons.1 h
    · exact step.suffix
    · exact (ih entry h).trans step.suffix

/-- What slots in any order take of any octets. -/
structure Disciplined (order : ByteOrder) (slots : List Slot) (octets : Octets) : Prop where
  /-- Every slot makes one of the steps that there are, from where the one before has left off. -/
  run : Run order slots octets (trace order slots octets)
  only : ∀ entries, Run order slots octets entries → entries = trace order slots octets
  /-- What is left after a step is the end of what there was, an error or not. -/
  suffix : ∀ entry ∈ trace order slots octets, entry.2 <:+ octets

/-- Slots in any order take of any octets what their steps say, and nothing else. -/
theorem trace_disciplined (order : ByteOrder) (slots : List Slot) (octets : Octets) :
    Disciplined order slots octets where
  run := run_trace order slots octets
  only _ := Run.eq_trace
  suffix := (run_trace order slots octets).suffix

/-- A field without a body has given up its length, and words are read behind that. -/
example : trace .big [.field, .u16, .u32] [0, 0, 0, 5, 1, 2, 3] =
    [(.error (.malformed (.short .fieldBody 8 3)), [1, 2, 3]), (.ok (.u16 258), [3]),
      (.error (.malformed (.short .word32 4 1)), [3])] := by
  rfl

end Slot

end SqlWire.Wire
