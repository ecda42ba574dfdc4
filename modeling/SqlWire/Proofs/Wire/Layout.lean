import Mathlib.Algebra.Order.BigOperators.Group.List
import Mathlib.Algebra.Order.Ring.Nat
import SqlWire.Proofs.Wire.RoundTrip
import SqlWire.Reply

/-!
# Replies as a server writes them

The reply to an execution is a handle, a word of flags, a count, and behind them the columns and
the first rows, each only if its flag is set; the reply to a fetch is a word of flags and rows.
`items` lays them out, with no more rows and columns than a count can tell and with fields whose
length stands for itself (`ColumnLayout`, `BatchLayout`, `ExecuteLayout`, `FetchLayout`).

What is laid out is read, whatever stands behind it (`ExecuteLayout.reads`, `FetchLayout.reads`).
The size that a batch is held against before any row is read never stands in the way, since every
cell takes a word at least (`BatchLayout.le_length_encode`). `read_of_layout` says so of all
replies, and that rows whose columns nobody told are refused.
-/

namespace SqlWire

open Wire Reader

/-! ## Columns -/

/-- A column as it is described on the wire. -/
structure ColumnLayout where
  /-- The name in the charset of the session, or octets that are none. -/
  name : Octets
  typeId : UInt32
  length : UInt32
  precision : Int32
  scale : Int32
  /-- Any word but zero for a column that may be NULL. -/
  nullable : UInt32
  name_storable : name.length < nullLength.toNat

namespace ColumnLayout

/-- The fields and words that a column is written as. -/
def items (column : ColumnLayout) : List Item :=
  [.field column.name, .u32 column.typeId, .u32 column.length, .i32 column.precision,
    .i32 column.scale, .u32 column.nullable]

/-- What is read of a column. Its number tells its type. -/
def descriptor (charset : Charset) (column : ColumnLayout) : Descriptor where
  name := charset.decode column.name
  typeId := column.typeId
  length := column.length
  precision := column.precision
  scale := column.scale
  nullable := column.nullable ≠ 0

/-- The items of a list of columns, their number first. -/
def listItems (columns : List ColumnLayout) : List Item :=
  .u32 (UInt32.ofNat columns.length) :: columns.flatMap items

variable {order : ByteOrder}

/-- A column is read as what it describes. -/
theorem reads (column : ColumnLayout) (charset : Charset) :
    Reads order (Descriptor.read charset) (encode order column.items)
      (column.descriptor charset) := by
  have name : Reads order field _ column.name := reads_field column.name_storable
  exact name.bind <| (reads_u32 _).bind <| (reads_u32 _).bind <| (reads_i32 _).bind <|
    (reads_i32 _).bind <| (reads_u32 _).bind <| .pure _

theorem reads_list {columns : List ColumnLayout} (h : columns.length < 2 ^ 32) (charset : Charset) :
    Reads order (Descriptor.readList charset) (encode order (listItems columns))
      (columns.map (descriptor charset)) := by
  have whole : (UInt32.ofNat columns.length).toNat = columns.length := UInt32.toNat_ofNat_of_lt' h
  have each : Reads order (replicate _ (Descriptor.read charset)) _ _ :=
    Reads.replicate columns fun column _ => column.reads charset
  rw [← whole] at each
  rw [listItems, encode_cons, encode_flatMap]
  exact (reads_u32 _).bind each

end ColumnLayout

/-! ## Rows -/

/-- Rows of so many columns as they stand on the wire. -/
structure BatchLayout (width : Nat) where
  rows : List Row
  length_lt : rows.length < 2 ^ 32
  /-- Every row has a cell for each column. -/
  wide : ∀ row ∈ rows, row.length = width
  storable : ∀ row ∈ rows, ∀ cell ∈ row, ∀ octets ∈ cell, octets.length < nullLength.toNat
  /-- There is no row without columns. -/
  width_pos : rows ≠ [] → 0 < width

namespace BatchLayout

variable {width : Nat} {order : ByteOrder}

/-- The items of a batch, the number of its rows first. -/
def items (batch : BatchLayout width) : List Item :=
  .u32 (UInt32.ofNat batch.rows.length) :: batch.rows.flatMap fun row => row.map .nullable

theorem alignment_le_length_nullable (order : ByteOrder) (cell : Cell) :
    alignment ≤ ((Item.nullable cell).encode order).length := by
  have filled : Fills cell ((Item.nullable cell).encode order) := Item.fills rfl order
  rw [filled.length_eq]
  cases cell with
  | none => exact Nat.le_refl _
  | some octets =>
    rw [Option.elim_some, fieldSize, Nat.add_assoc]
    exact Nat.le_add_right _ _

theorem mul_le_length_flatMap {α : Type} {f : α → Octets} {n : Nat} {as : List α}
    (h : ∀ a ∈ as, n ≤ (f a).length) : as.length * n ≤ (as.flatMap f).length := by
  have least := List.card_nsmul_le_sum (as.map fun a => (f a).length) n (by simpa using h)
  rw [List.length_map, Nat.nsmul_eq_mul] at least
  rwa [List.length_flatMap]

/-- Every cell takes a word at least. -/
theorem le_length_encode (batch : BatchLayout width) (order : ByteOrder) :
    batch.rows.length * width * alignment ≤
      (batch.rows.flatMap fun row => encode order (row.map .nullable)).length := by
  rw [Nat.mul_assoc]
  refine mul_le_length_flatMap fun row hrow => ?_
  have cells : ∀ item ∈ row.map Item.nullable, alignment ≤ (item.encode order).length := by
    intro item hitem
    obtain ⟨cell, -, rfl⟩ := List.mem_map.1 hitem
    exact alignment_le_length_nullable order cell
  have least := mul_le_length_flatMap cells
  rwa [List.length_map, batch.wide row hrow] at least

theorem reads_row {row : Row}
    (h : ∀ cell ∈ row, ∀ octets ∈ cell, octets.length < nullLength.toNat) :
    Reads order (Row.read row.length) (encode order (row.map .nullable)) row := by
  have each : ∀ cell ∈ row, Reads order nullable ((Item.nullable cell).encode order) (id cell) := by
    intro cell hcell
    cases cell with
    | none => exact reads_null
    | some octets => exact reads_nullable (h _ hcell octets rfl)
  have cells := Reads.replicate row each
  rwa [List.map_id, ← List.flatMap_map] at cells

/-- A batch is read as its rows, for the check of its size does not stand in the way. -/
theorem reads (batch : BatchLayout width) :
    Reads order (Row.readBatch width) (encode order batch.items) batch.rows := by
  have whole : (UInt32.ofNat batch.rows.length).toNat = batch.rows.length :=
    UInt32.toNat_ofNat_of_lt' batch.length_lt
  have room := batch.le_length_encode order
  have each : ∀ row ∈ batch.rows,
      Reads order (Row.read width) (encode order (row.map .nullable)) (id row) := by
    intro row hrow
    rw [← batch.wide row hrow]
    exact reads_row (batch.storable row hrow)
  have rows := Reads.replicate batch.rows each
  rw [List.map_id] at rows
  have allowed : ¬(width = 0 ∧ 0 < batch.rows.length) := by
    rintro ⟨none, pos⟩
    exact Nat.ne_of_gt (batch.width_pos (List.length_pos_iff.1 pos)) none
  rw [items, encode_cons, encode_flatMap]
  refine (reads_u32 _).bind fun rest => ?_
  have fits : ¬((batch.rows.flatMap fun row => encode order (row.map .nullable)) ++
      rest).length < Row.leastLength batch.rows.length width := by
    have least := Row.leastLength_le batch.rows.length width
    rw [List.length_append]
    omega
  simp only [whole, Bind.bind, Reader.bind, remaining, if_neg allowed, if_neg fits]
  exact rows rest

end BatchLayout

/-! ## Replies -/

/-- The word that tells what a reply holds. -/
def replyFlags (described rows more : Bool) : UInt32 :=
  (if described then describedFlag else 0) ||| (if rows then rowsFlag else 0) |||
    (if more then moreRowsFlag else 0)

/-- Each part of a reply can be told from the word. -/
theorem isSet_replyFlags (described rows more : Bool) :
    isSet (replyFlags described rows more) describedFlag = described ∧
    isSet (replyFlags described rows more) rowsFlag = rows ∧
    isSet (replyFlags described rows more) moreRowsFlag = more := by
  cases described <;> cases rows <;> cases more <;> decide

/-- A part of a reply is read if it is there. -/
theorem reads_readIf {α γ : Type} {order : ByteOrder} {r : Reader α} {items : γ → List Item}
    {f : γ → α} (part : Option γ)
    (h : ∀ c, part = some c → Reads order r (encode order (items c)) (f c)) :
    Reads order (readIf part.isSome r) (encode order (part.elim [] items)) (part.map f) := by
  cases part with
  | none => exact .pure none
  | some c => exact (h c rfl).bind_pure some

/-- A reply to an execution, with rows of so many columns if there are any. -/
structure ExecuteLayout (width : Nat) where
  handle : Int32
  affected : UInt64
  columns : Option (List ColumnLayout)
  rows : Option (BatchLayout width)
  hasMore : Bool
  /-- The columns that are described are those of the rows. -/
  length_columns : ∀ described ∈ columns, described.length = width
  length_lt : ∀ described ∈ columns, described.length < 2 ^ 32

namespace ExecuteLayout

variable {width : Nat} {order : ByteOrder} {charset : Charset} {known : Option Nat}

/-- The word of this reply. -/
def flags (layout : ExecuteLayout width) : UInt32 :=
  replyFlags layout.columns.isSome layout.rows.isSome layout.hasMore

/-- The items of a reply, with those of the parts that it has. -/
def items (layout : ExecuteLayout width) : List Item :=
  [.i32 layout.handle, .u32 layout.flags, .u64 layout.affected] ++
    (layout.columns.elim [] ColumnLayout.listItems ++ layout.rows.elim [] BatchLayout.items)

/-- What is read of the reply. -/
def reply (charset : Charset) (layout : ExecuteLayout width) : ExecuteReply where
  handle := layout.handle
  affected := layout.affected
  columns := layout.columns.map (List.map (ColumnLayout.descriptor charset))
  rows := layout.rows.map BatchLayout.rows
  hasMore := layout.hasMore

/-- The columns of the rows are described or known, or there are no rows. -/
def Cut (layout : ExecuteLayout width) (known : Option Nat) : Prop :=
  layout.columns.isSome = true ∨ layout.rows = none ∨ known = some width

/-- The rows of a reply are cut by the columns that are described, or else by those known. -/
theorem reads_rows (layout : ExecuteLayout width) {batch : BatchLayout width}
    (hrows : layout.rows = some batch) (cut : layout.Cut known) :
    Reads order (readRows (layout.reply charset).columns known) (encode order batch.items)
      batch.rows := by
  cases hcolumns : layout.columns with
  | some columns =>
    have wide : (columns.map (ColumnLayout.descriptor charset)).length = width := by
      rw [List.length_map, layout.length_columns columns hcolumns]
    simp only [reply, hcolumns, Option.map_some, readRows, wide]
    exact batch.reads
  | none =>
    have told : known = some width := by
      simpa [Cut, hcolumns, hrows] using cut
    simp only [reply, hcolumns, Option.map_none, told, readRows]
    exact batch.reads

theorem encode_items (layout : ExecuteLayout width) (order : ByteOrder) :
    encode order layout.items =
      (Item.i32 layout.handle).encode order ++ ((Item.u32 layout.flags).encode order ++
        ((Item.u64 layout.affected).encode order ++
          (encode order (layout.columns.elim [] ColumnLayout.listItems) ++
            (encode order (layout.rows.elim [] BatchLayout.items) ++ [])))) := by
  simp only [items, List.cons_append, List.nil_append, encode_cons, encode_append,
    List.append_nil]

/-- A reply is read as it was written, if the columns of its rows can be told. -/
theorem reads (layout : ExecuteLayout width) (charset : Charset) (cut : layout.Cut known) :
    Reads order (ExecuteReply.read charset known) (encode order layout.items)
      (layout.reply charset) := by
  obtain ⟨described, rows, more⟩ :=
    isSet_replyFlags layout.columns.isSome layout.rows.isSome layout.hasMore
  rw [← flags] at described rows more
  rw [encode_items]
  refine (reads_i32 _).bind <| (reads_u32 _).bind <| (reads_u64 _).bind ?_
  rw [described, rows, more]
  refine (reads_readIf _ fun columns hcolumns =>
    ColumnLayout.reads_list (layout.length_lt columns hcolumns) charset).bind ?_
  exact (reads_readIf _ fun batch hbatch => layout.reads_rows hbatch cut).bind (.pure _)

/-- Rows that nobody told the columns of are refused. -/
theorem read_of_undescribed (layout : ExecuteLayout width) (charset : Charset)
    (hcolumns : layout.columns = none) (hrows : layout.rows.isSome = true) (trailing : Octets) :
    (ExecuteReply.read charset none order (encode order layout.items ++ trailing)).1 =
      .error (.malformed .undescribedRows) := by
  obtain ⟨described, rows, more⟩ :=
    isSet_replyFlags layout.columns.isSome layout.rows.isSome layout.hasMore
  rw [← flags] at described rows more
  rw [hcolumns] at described
  rw [hrows] at rows
  have handle : Reads order i32 _ _ := reads_i32 layout.handle
  have word : Reads order u32 _ _ := reads_u32 layout.flags
  have affected : Reads order u64 _ _ := reads_u64 layout.affected
  rw [encode_items]
  simp only [Item.encode, List.append_assoc, ExecuteReply.read, Bind.bind, Reader.bind,
    handle _, word _, affected _, described, rows, readIf, Option.isSome_none,
    Bool.false_eq_true, if_false, if_true, Pure.pure, Reader.pure, readRows, malformed, fail]

end ExecuteLayout

/-- A reply to a request for more rows. -/
structure FetchLayout (width : Nat) where
  rows : BatchLayout width
  hasMore : Bool

namespace FetchLayout

variable {width : Nat} {order : ByteOrder}

/-- The items of a reply, the word that tells whether rows remain first. -/
def items (layout : FetchLayout width) : List Item :=
  .u32 (replyFlags false false layout.hasMore) :: layout.rows.items

/-- What is read of the reply. -/
def reply (layout : FetchLayout width) : FetchReply where
  rows := layout.rows.rows
  hasMore := layout.hasMore

/-- A reply to a fetch is read as it was written. -/
theorem reads (layout : FetchLayout width) :
    Reads order (FetchReply.read width) (encode order layout.items) layout.reply := by
  obtain ⟨-, -, more⟩ := isSet_replyFlags false false layout.hasMore
  rw [items, encode_cons]
  refine (reads_u32 _).bind ?_
  rw [more]
  exact layout.rows.reads.bind_pure fun rows => FetchReply.mk rows layout.hasMore

end FetchLayout

/-- Every reply that a server writes is read as what was written, and what stands behind it is left.
Rows need columns that are described or known, and are refused without any. -/
theorem read_of_layout (order : ByteOrder) (charset : Charset) (width : Nat) (trailing : Octets) :
    (∀ (layout : ExecuteLayout width) (known : Option Nat), layout.Cut known →
      ExecuteReply.read charset known order (encode order layout.items ++ trailing) =
        (.ok (layout.reply charset), trailing)) ∧
    (∀ column : ColumnLayout, (column.descriptor charset).sqlType = .ofId column.typeId) ∧
    (∀ layout : ExecuteLayout width, layout.columns = none → layout.rows.isSome = true →
      (ExecuteReply.read charset none order (encode order layout.items ++ trailing)).1 =
        .error (.malformed .undescribedRows)) ∧
    (∀ layout : FetchLayout width,
      FetchReply.read width order (encode order layout.items ++ trailing) =
        (.ok layout.reply, trailing)) := by
  refine ⟨fun layout known cut => ?_, fun _ => rfl, fun layout hcolumns hrows => ?_,
    fun layout => ?_⟩
  · exact layout.reads charset cut trailing
  · exact layout.read_of_undescribed charset hcolumns hrows trailing
  · exact layout.reads trailing

/-- Two rows with NULL and empty cells, once described and once not, and three octets behind. -/
theorem read_of_layout_table :
    let batch : BatchLayout 2 :=
      ⟨[[some [65], none], [some [], none]], by decide, by decide, by decide, by decide⟩
    let column : ColumnLayout := ⟨[78], 4, 4, 10, -1, 7, by decide⟩
    let described : ExecuteLayout 2 :=
      ⟨-1, 3, some [column, column], some batch, true, by decide, by decide⟩
    let undescribed : ExecuteLayout 2 := ⟨7, 0, none, some batch, false, nofun, nofun⟩
    ExecuteReply.read .gbk none .little (encode .little described.items ++ [1, 2, 3]) =
      (.ok (described.reply .gbk), [1, 2, 3]) ∧
    ExecuteReply.read .gbk (some 2) .little (encode .little undescribed.items ++ [1, 2, 3]) =
      (.ok (undescribed.reply .gbk), [1, 2, 3]) ∧
    (ExecuteReply.read .gbk none .little (encode .little undescribed.items ++ [1, 2, 3])).1 =
      .error (.malformed .undescribedRows) := by
  intro batch column described undescribed
  obtain ⟨read, -, refused, -⟩ := read_of_layout .little .gbk 2 [1, 2, 3]
  exact ⟨read described none (Or.inl rfl), read undescribed (some 2) (Or.inr (Or.inr rfl)),
    refused undescribed rfl rfl⟩

end SqlWire
