import Mathlib.Algebra.Group.Nat.Defs
import SqlWire.Proofs.Wire.Numbers
import SqlWire.Wire.Slot

/-!
# Items that are read back

`Reader.Reads order r octets a` says that the reader `r` takes just these octets from whatever
begins with them and gives `a`. It is proved of a long reader by way of its parts (`Reads.bind`,
`Reads.replicate`), each of which has the octets of its own.

The slot of an item reads the item back (`Item.reads_encode`), as long as the body of a field is
not so long that its length is taken for another one or for NULL. So items are read back one after
the other, whatever stands behind them (`reads_encode`). Since fields are filled up, items of whole
words stay on the boundaries of words (`alignment_dvd_encode`). `encode_roundTrips` says both.
-/

namespace SqlWire.Wire

/-! ## Readers and the octets they take -/

namespace Reader

variable {α β : Type} {order : ByteOrder} {r : Reader α} {octets octets' : Octets} {a : α} {b : β}

instance : LawfulMonad Reader :=
  LawfulMonad.mk' Reader
    (fun r => by
      funext order left
      simp only [Functor.map, Reader.bind]
      rcases r order left with ⟨_ | _, _⟩ <;> rfl)
    (fun _ _ => rfl)
    (fun r f g => by
      funext order left
      simp only [Bind.bind, Reader.bind]
      rcases r order left with ⟨_ | _, _⟩ <;> rfl)

/-- From whatever begins with these octets the reader takes just them, and gives `a`. -/
def Reads (order : ByteOrder) (r : Reader α) (octets : Octets) (a : α) : Prop :=
  ∀ rest, r order (octets ++ rest) = (.ok a, rest)

theorem Reads.pure (a : α) : Reads order (Pure.pure a : Reader α) [] a :=
  fun _ => rfl

/-- Values that are read one after the other take their octets one after the other. -/
theorem Reads.bind {f : α → Reader β} (hr : Reads order r octets a)
    (hf : Reads order (f a) octets' b) : Reads order (r >>= f) (octets ++ octets') b := by
  intro rest
  have first := hr (octets' ++ rest)
  have second := hf rest
  simp only [List.append_assoc, Bind.bind, Reader.bind, first, second]

/-- What is made of a value takes no octets of its own. -/
theorem Reads.bind_pure (hr : Reads order r octets a) (f : α → β) :
    Reads order (r >>= fun a => Pure.pure (f a)) octets (f a) := by
  have made := hr.bind (f := fun a => Pure.pure (f a)) (.pure (f a))
  rwa [List.append_nil] at made

theorem reads_take (part : Part) (octets : Octets) :
    Reads order (take part octets.length) octets octets := by
  intro rest
  have enough : ¬(octets ++ rest).length < octets.length := by
    rw [List.length_append]
    omega
  simp only [take, if_neg enough, List.take_left, List.drop_left]

theorem reads_word (part : Part) {width n : Nat} (h : n < 256 ^ width) :
    Reads order (word part width) (order.octets width n) n := by
  intro rest
  have taken : Reads order (take part _) _ _ := reads_take part (order.octets width n)
  rw [ByteOrder.length_octets] at taken
  simp only [word, taken rest, ByteOrder.toNat_octets h]

theorem reads_u8 (value : UInt8) : Reads order u8 [value] value := by
  intro rest
  have taken : Reads order (take .octet 1) [value] [value] := reads_take .octet [value]
  have only : order.toNat [value] = value.toNat := by
    cases order <;> simp [ByteOrder.toNat, ByteOrder.arrange, Octets.toNat]
  simp only [u8, Bind.bind, Reader.bind, word, taken rest, only, UInt8.ofNat_toNat]
  rfl

theorem reads_u16 (value : UInt16) : Reads order u16 (order.octets 2 value.toNat) value := by
  have whole : Reads order (word .word16 2) _ value.toNat := reads_word .word16 value.toNat_lt
  have read := whole.bind_pure UInt16.ofNat
  rwa [UInt16.ofNat_toNat] at read

theorem reads_u32 (value : UInt32) : Reads order u32 (order.octets 4 value.toNat) value := by
  have whole : Reads order (word .word32 4) _ value.toNat := reads_word .word32 value.toNat_lt
  have read := whole.bind_pure UInt32.ofNat
  rwa [UInt32.ofNat_toNat] at read

theorem reads_i32 (value : Int32) :
    Reads order i32 (order.octets 4 value.toUInt32.toNat) value :=
  (reads_u32 value.toUInt32).bind_pure UInt32.toInt32

theorem reads_u64 (value : UInt64) : Reads order u64 (order.octets 8 value.toNat) value := by
  have whole : Reads order (word .word64 8) _ value.toNat := reads_word .word64 value.toNat_lt
  have read := whole.bind_pure UInt64.ofNat
  rwa [UInt64.ofNat_toNat] at read

/-- A count that fits into its word is read as it is. -/
theorem reads_count {n : Nat} (h : n < 2 ^ 32) :
    Reads order u32 (order.octets 4 n) (UInt32.ofNat n) := by
  have read : Reads order u32 _ _ := reads_u32 (UInt32.ofNat n)
  rwa [UInt32.toNat_ofNat_of_lt' h] at read

theorem reads_null : Reads order nullable (order.octets alignment nullLength.toNat) none := by
  rw [← List.append_nil (order.octets _ _)]
  exact (reads_u32 nullLength).bind (.pure none)

/-- A field is read unless its length stands for NULL, whatever fills it up. -/
theorem reads_filled {octets fill : Octets} (h : octets.length < nullLength.toNat)
    (filled : fill.length = padding octets.length) :
    Reads order nullable (order.octets alignment octets.length ++ (octets ++ fill))
      (some octets) := by
  have null : nullLength.toNat = 2 ^ 32 - 1 := rfl
  have short : octets.length < 2 ^ 32 := by omega
  have whole : (UInt32.ofNat octets.length).toNat = octets.length := UInt32.toNat_ofNat_of_lt' short
  have some : UInt32.ofNat octets.length ≠ nullLength := by
    intro same
    rw [← same, whole] at h
    omega
  have body : Reads order (take .fieldBody _) _ _ := reads_take .fieldBody (octets ++ fill)
  rw [List.length_append, filled] at body
  have read := body.bind_pure fun body => Option.some (body.take octets.length)
  rw [List.take_left] at read
  refine (reads_count short).bind ?_
  simpa only [if_neg some, whole] using read

theorem reads_nullable {octets : Octets} (h : octets.length < nullLength.toNat) :
    Reads order nullable (encodeField order octets) (some octets) := by
  rw [encodeField, List.append_assoc]
  exact reads_filled h List.length_replicate

/-- A field that is not NULL is read as a field that may be. -/
theorem Reads.field_of_nullable (h : Reads order nullable octets (some octets')) :
    Reads order field octets octets' := by
  intro rest
  simp only [field, Bind.bind, Reader.bind, h rest]
  rfl

theorem reads_field {octets : Octets} (h : octets.length < nullLength.toNat) :
    Reads order field (encodeField order octets) octets :=
  (reads_nullable h).field_of_nullable

/-- Values are read back one after the other. -/
theorem Reads.replicate {γ : Type} {encode : γ → Octets} {f : γ → α} (values : List γ)
    (h : ∀ value ∈ values, Reads order r (encode value) (f value)) :
    Reads order (replicate values.length r) (values.flatMap encode) (values.map f) := by
  -- The values read so far are in reverse.
  suffices go : ∀ read, Reads order (replicate.go r values.length read) (values.flatMap encode)
      (read.reverse ++ values.map f) by
    simpa only [Reader.replicate, List.reverse_nil, List.nil_append] using go []
  induction values with
  | nil =>
    intro read
    rw [List.map_nil, List.append_nil]
    exact Reads.pure read.reverse
  | cons value values ih =>
    intro read
    have first := h value List.mem_cons_self
    have others := ih (fun value hvalue => h value (List.mem_cons_of_mem _ hvalue))
      (f value :: read)
    rw [List.reverse_cons, List.append_assoc, List.singleton_append] at others
    exact first.bind others

end Reader

open Reader

/-! ## Items -/

namespace Item

/-- The slot that an item is read back with. Eight octets are read without a sign. -/
def slot : Item → Slot
  | u8 _ => .u8
  | u16 _ => .u16
  | u32 _ => .u32
  | i32 _ => .i32
  | u64 _ | i64 _ => .u64
  | raw octets => .raw octets.length
  | field _ => .field
  | nullable _ => .nullable

/-- What is read back of an item. -/
def reread : Item → Item
  | i64 value => .u64 value.toUInt64
  | item => item

/-- The body of a field, `none` for NULL. The result is absent for items that are no field. -/
def body? : Item → Option (Option Octets)
  | field octets => some (some octets)
  | nullable octets => some octets
  | _ => none

/-- The length of a field stands for itself. -/
def Storable (item : Item) : Prop :=
  ∀ octets, item.body? = some (some octets) → octets.length < nullLength.toNat

/-- Whether an item is a field or made of whole words. -/
def isAligned : Item → Bool
  | u8 _ | u16 _ | raw _ => false
  | _ => true

variable {order : ByteOrder} {item : Item}

/-- An item is read by its own slot as what can be read of it. -/
theorem reads_encode (h : item.Storable) :
    Reads order item.slot.read (item.encode order) item.reread := by
  cases item with
  | u8 value => exact (reads_u8 value).bind_pure Item.u8
  | u16 value => exact (reads_u16 value).bind_pure Item.u16
  | u32 value => exact (reads_u32 value).bind_pure Item.u32
  | i32 value => exact (reads_i32 value).bind_pure Item.i32
  | u64 value => exact (reads_u64 value).bind_pure Item.u64
  | i64 value => exact (reads_u64 value.toUInt64).bind_pure Item.u64
  | raw octets => exact (reads_take _ octets).bind_pure Item.raw
  | field octets => exact (reads_field (h octets rfl)).bind_pure Item.field
  | nullable octets =>
    cases octets with
    | none => exact reads_null.bind_pure Item.nullable
    | some octets => exact (reads_nullable (h octets rfl)).bind_pure Item.nullable

end Item

/-- Four octets are a number. -/
theorem exists_i32 (order : ByteOrder) {word : Octets} (h : word.length = 4) :
    ∃ value, (Item.i32 value).encode order = word := by
  have bound := order.toNat_lt word
  rw [h] at bound
  refine ⟨(UInt32.ofNat (order.toNat word)).toInt32, ByteOrder.octets_of_toNat_eq h ?_⟩
  rw [UInt32.toUInt32_toInt32, UInt32.toNat_ofNat_of_lt' bound]

/-! ## Alignment -/

/-- A field ends at a whole word. -/
theorem alignment_dvd_fieldSize (length : Nat) : alignment ∣ fieldSize length := by
  rw [fieldSize, padding]
  by_cases full : length % alignment = 0
  · rw [if_pos full]
    simp only [alignment] at full ⊢
    omega
  · rw [if_neg full]
    simp only [alignment] at full ⊢
    omega

@[simp] theorem length_encodeField (order : ByteOrder) (octets : Octets) :
    (encodeField order octets).length = fieldSize octets.length := by
  simp only [encodeField, List.length_append, ByteOrder.length_octets, List.length_replicate,
    fieldSize]

/-- Behind the length and the body of a field are zeros. -/
theorem drop_encodeField (order : ByteOrder) (octets : Octets) :
    (encodeField order octets).drop (alignment + octets.length) =
      List.replicate (padding octets.length) 0 :=
  List.drop_left' (by rw [List.length_append, ByteOrder.length_octets])

/-- How the octets of a field are laid out. -/
structure Fills (body : Option Octets) (encoded : Octets) : Prop where
  length_eq : encoded.length = body.elim alignment fun octets => fieldSize octets.length
  alignment_dvd : alignment ∣ encoded.length
  /-- Behind the length and the body there is nothing but zeros. -/
  zeros : ∀ octet ∈ encoded.drop (alignment + (body.getD []).length), octet = 0

theorem fills_encodeField (order : ByteOrder) (octets : Octets) :
    Fills (some octets) (encodeField order octets) where
  length_eq := length_encodeField order octets
  alignment_dvd := by
    rw [length_encodeField]
    exact alignment_dvd_fieldSize _
  zeros octet h := by
    rw [Option.getD_some, drop_encodeField] at h
    exact List.eq_of_mem_replicate h

theorem fills_null (order : ByteOrder) :
    Fills none (order.octets alignment nullLength.toNat) where
  length_eq := order.length_octets _ _
  alignment_dvd := ⟨1, order.length_octets _ _⟩
  zeros octet h := by
    have all : (order.octets alignment nullLength.toNat).length ≤
        alignment + ([] : Octets).length :=
      Nat.le_trans (Nat.le_of_eq (order.length_octets _ _)) (Nat.le_add_right _ _)
    rw [Option.getD_none, List.drop_eq_nil_of_le all] at h
    cases h

/-- Every item that is a field is laid out so. -/
theorem Item.fills {item : Item} {body : Option Octets} (h : item.body? = some body)
    (order : ByteOrder) : Fills body (item.encode order) := by
  cases item with
  | field octets =>
    cases h
    exact fills_encodeField order octets
  | nullable octets =>
    cases octets with
    | none =>
      cases h
      exact fills_null order
    | some octets =>
      cases h
      exact fills_encodeField order octets
  | _ => cases h

/-- Items that are fields or words end at a whole word. -/
theorem Item.alignment_dvd_encode {item : Item} (h : item.isAligned = true) (order : ByteOrder) :
    alignment ∣ (item.encode order).length := by
  cases item with
  | u8 _ | u16 _ | raw _ => cases h
  | u32 value => exact ⟨1, order.length_octets 4 value.toNat⟩
  | i32 value => exact ⟨1, order.length_octets 4 value.toUInt32.toNat⟩
  | u64 value => exact ⟨2, order.length_octets 8 value.toNat⟩
  | i64 value => exact ⟨2, order.length_octets 8 value.toUInt64.toNat⟩
  | field octets => exact (Item.fills rfl order).alignment_dvd
  | nullable octets => exact (Item.fills rfl order).alignment_dvd

@[simp] theorem encode_nil (order : ByteOrder) : encode order [] = [] := rfl

@[simp] theorem encode_cons (order : ByteOrder) (item : Item) (items : List Item) :
    encode order (item :: items) = item.encode order ++ encode order items :=
  List.flatMap_cons

theorem encode_append (order : ByteOrder) (items items' : List Item) :
    encode order (items ++ items') = encode order items ++ encode order items' :=
  List.flatMap_append

theorem encode_flatMap {α : Type} (order : ByteOrder) (as : List α) (f : α → List Item) :
    encode order (as.flatMap f) = as.flatMap fun a => encode order (f a) :=
  List.flatMap_assoc

/-- Such items end at a whole word together. -/
theorem alignment_dvd_encode {items : List Item} (h : ∀ item ∈ items, item.isAligned = true)
    (order : ByteOrder) : alignment ∣ (encode order items).length := by
  induction items with
  | nil => exact Nat.dvd_zero _
  | cons item items ih =>
    have first := Item.alignment_dvd_encode (h item List.mem_cons_self) order
    have others := ih fun item hitem => h item (List.mem_cons_of_mem _ hitem)
    rw [encode_cons, List.length_append]
    exact Nat.dvd_add first others

/-! ## Items one after the other -/

/-- Items that were written one after the other are read so, by induction on the list. -/
theorem reads_encode {items : List Item} (h : ∀ item ∈ items, item.Storable) (order : ByteOrder) :
    Reads order ((items.map Item.slot).mapM Slot.read) (encode order items)
      (items.map Item.reread) := by
  induction items with
  | nil => exact .pure []
  | cons item items ih =>
    have first : Reads order item.slot.read _ _ := Item.reads_encode (h item List.mem_cons_self)
    have others := ih fun item hitem => h item (List.mem_cons_of_mem _ hitem)
    rw [List.map_cons, List.mapM_cons, encode_cons]
    exact first.bind (others.bind_pure (item.reread :: ·))

/-- What can be said of items on the wire. -/
structure RoundTrips (order : ByteOrder) (items : List Item) : Prop where
  /-- Slot by slot they are read back, and what stands behind them is left. -/
  reads : ∀ rest, (items.map Item.slot).mapM Slot.read order (encode order items ++ rest) =
    (.ok (items.map Item.reread), rest)
  fields : ∀ item ∈ items, ∀ body, item.body? = some body → Fills body (item.encode order)
  /-- Fields and whole words make up whole words, and each of them begins at the boundary of one. -/
  aligned : (∀ item ∈ items, item.isAligned = true) →
    alignment ∣ (encode order items).length ∧
    ∀ before item after, items = before ++ item :: after →
      encode order items = encode order before ++ (item.encode order ++ encode order after) ∧
      alignment ∣ (encode order before).length

/-- In either byte order, items are read back if the length of every field stands for itself. -/
theorem encode_roundTrips (order : ByteOrder) {items : List Item}
    (h : ∀ item ∈ items, item.Storable) : RoundTrips order items where
  reads := reads_encode h order
  fields item _ body hbody := item.fills hbody order
  aligned all := by
    refine ⟨alignment_dvd_encode all order, ?_⟩
    rintro before item after rfl
    have ahead : ∀ item ∈ before, item.isAligned = true :=
      fun item hitem => all item (List.mem_append_left _ hitem)
    exact ⟨by rw [encode_append, encode_cons], alignment_dvd_encode ahead order⟩

/-- An item of each kind, with a field that is filled up, an empty one and NULL. -/
theorem encode_roundTrips_each :
    let items : List Item := [.u8 1, .u16 258, .u32 7, .i32 (-2), .u64 9, .i64 (-1), .raw [5, 6, 7],
      .field [120], .nullable none, .nullable (some [])]
    (∀ item ∈ items, item.Storable) ∧ RoundTrips .little items ∧
      (items.map Item.reread)[5]? = some (.u64 0xFFFFFFFFFFFFFFFF) ∧
      (encode .little items).length = 46 := by
  intro items
  have storable : ∀ item ∈ items, item.Storable := by
    simp [items, Item.Storable, Item.body?, nullLength]
  exact ⟨storable, encode_roundTrips .little storable, by decide +kernel, by decide +kernel⟩

end SqlWire.Wire
