import SqlWire.Proofs.Reply
import SqlWire.Proofs.Wire.Numbers

/-!
# Counts and the octets behind them

A count is a word that a server can choose as it likes. `Reader.Takes n r` says that the reader `r`
takes `n` octets at least for whatever it gives. A cell takes a word (`takes_nullable`) and a column
six (`Descriptor.takes_read`), so no list is longer than its octets allow (`Takes.replicate`).

A batch of rows is held against what is left before any of them is read. The product of its counts
stops at the greatest word, which no payload reaches, so the check is that of the exact product
(`Row.lt_leastLength_iff`). It stands in the way of no rows that there are octets for : what
`Row.readUnchecked` reads without it is read, but for rows without columns. `counts_fit` says so of
every payload, and bounds what both lists can hold.
-/

namespace SqlWire

/-! ## Octets taken -/

namespace Wire.Reader

variable {α β : Type} {r : Reader α} {m n : Nat}

/-- Whatever this reader gives, it has taken `n` octets for it at least. -/
def Takes (n : Nat) (r : Reader α) : Prop :=
  ∀ order octets a left, r order octets = (.ok a, left) → left.length + n ≤ octets.length

theorem Takes.mono (h : Takes n r) (le : m ≤ n) : Takes m r :=
  fun order octets a left read =>
    Nat.le_trans (Nat.add_le_add_left le _) (h order octets a left read)

theorem Takes.pure (a : α) : Takes 0 (Pure.pure a : Reader α) := by
  rintro order octets _ _ ⟨⟩
  exact Nat.le_refl _

theorem Takes.malformed (fault : Malformation) : Takes n (malformed fault : Reader α) :=
  fun _ _ _ _ => nofun

/-- Octets that are taken one after the other add up. -/
theorem Takes.bind {f : α → Reader β} (hr : Takes m r) (hf : ∀ a, Takes n (f a)) :
    Takes (m + n) (r >>= f) := by
  intro order octets b left h
  simp only [Bind.bind, Reader.bind] at h
  split at h
  · next a left' read =>
    have first := hr order octets a left' read
    have rest := hf a order left' b left h
    omega
  · cases h

theorem takes_take (part : Part) (n : Nat) : Takes n (take part n) := by
  intro order octets a left h
  unfold take at h
  split_ifs at h with short
  · cases h
  · obtain ⟨-, rfl⟩ := Prod.mk.inj h
    rw [List.length_drop]
    omega

theorem takes_word (part : Part) (width : Nat) : Takes width (word part width) := by
  intro order octets a left h
  unfold word at h
  split at h
  · next taken left' read =>
    obtain ⟨-, rfl⟩ := Prod.mk.inj h
    exact takes_take part width order octets taken left' read
  · cases h

theorem takes_u32 : Takes 4 u32 :=
  (takes_word .word32 4).bind fun _ => .pure _

theorem takes_i32 : Takes 4 i32 :=
  takes_u32.bind fun _ => .pure _

theorem takes_nullable : Takes 4 nullable := by
  have body (length : UInt32) : Takes 0 (if length = nullLength then Pure.pure none
      else take .fieldBody (length.toNat + padding length.toNat) >>= fun octets =>
        Pure.pure (some (octets.take length.toNat)) : Reader (Option Octets)) := by
    split_ifs
    · exact .pure none
    · exact ((takes_take _ _).bind fun _ => .pure _).mono (Nat.zero_le _)
  exact takes_u32.bind body

theorem takes_field : Takes 4 field := by
  change Takes (4 + 0) field
  unfold field
  refine takes_nullable.bind fun found => ?_
  cases found with
  | some octets => exact .pure octets
  | none => exact .malformed _

/-- Values that are read one after the other take so many times the octets. -/
theorem Takes.replicate (hr : Takes n r) (count : Nat) : Takes (n * count) (replicate count r) := by
  -- The values read so far took their octets before.
  suffices go : ∀ read, Takes (n * count) (replicate.go r count read) from go []
  induction count with
  | zero => exact fun read => .pure read.reverse
  | succ count ih =>
    intro read
    have next : Takes (n + n * count) (replicate.go r (count + 1) read) :=
      hr.bind fun a => ih (a :: read)
    rwa [Nat.mul_succ, Nat.add_comm]

/-- A word is read if there are octets for it. -/
theorem u32_eq (order : ByteOrder) (octets : Octets) :
    u32 order octets = if octets.length < 4
      then (.error (.malformed (.short .word32 4 octets.length)), octets)
      else (.ok (UInt32.ofNat (order.firstWord octets)), octets.drop 4) := by
  simp only [u32, Bind.bind, Reader.bind, word, take]
  split_ifs <;> rfl

/-- What a count asks for is read behind it. -/
theorem bind_count_eq (f : Nat → Reader α) (order : ByteOrder) (octets : Octets) :
    (u32 >>= fun count => f count.toNat) order octets = if octets.length < 4
      then (.error (.malformed (.short .word32 4 octets.length)), octets)
      else f (order.firstWord octets) order (octets.drop 4) := by
  simp only [Bind.bind, Reader.bind, u32_eq]
  split_ifs
  · rfl
  · exact congrArg (fun count => f count order (octets.drop 4)) (order.toNat_ofNat_firstWord octets)

end Wire.Reader

open Wire Reader

/-! ## Columns -/

namespace Descriptor

/-- A column takes six words at least. -/
theorem takes_read (charset : Charset) : Takes 24 (read charset) :=
  takes_field.bind fun _ => takes_u32.bind fun _ => takes_u32.bind fun _ => takes_i32.bind fun _ =>
    takes_i32.bind fun _ => takes_u32.bind fun _ => .pure _

/-- What a list of columns takes of a payload. -/
structure Counted (charset : Charset) (order : ByteOrder) (payload : Octets) : Prop where
  /-- It has as many columns as are announced, and each of them took six words. -/
  taken : ∀ columns left, readList charset order payload = (.ok columns, left) →
    columns.length = order.firstWord payload ∧
      left.length + (4 + 24 * columns.length) ≤ payload.length
  /-- Whatever the count is, no more columns are read one after the other than there are octets
  for, also if a later one cannot be read. -/
  limited : ∀ count columns left,
    replicate count (read charset) order (payload.drop 4) = (.ok columns, left) →
      columns.length = count ∧ 24 * columns.length ≤ payload.length - 4

/-- No list of columns is longer than its payload has octets for. -/
theorem counted (charset : Charset) (order : ByteOrder) (payload : Octets) :
    Counted charset order payload := by
  have limited (count : Nat) (columns : List Descriptor) (left : Octets)
      (h : replicate count (read charset) order (payload.drop 4) = (.ok columns, left)) :
      columns.length = count ∧ left.length + 24 * columns.length ≤ payload.length - 4 := by
    have len := ((Yields.any (read charset)).replicate count order _ columns (by rw [h])).1
    have taken := (takes_read charset).replicate count order _ columns left h
    rw [List.length_drop] at taken
    rw [len]
    exact ⟨rfl, taken⟩
  refine ⟨fun columns left h => ?_, fun count columns left h => ?_⟩
  · rw [readList, bind_count_eq fun count => replicate count (read charset)] at h
    split_ifs at h with short
    · cases h
    · obtain ⟨len, taken⟩ := limited _ columns left h
      exact ⟨len, by omega⟩
  · obtain ⟨len, taken⟩ := limited count columns left h
    exact ⟨len, by omega⟩

end Descriptor

/-! ## Rows -/

namespace Row

variable {order : ByteOrder} {columns : Nat} {payload left : Octets} {rows : List Row}

/-- Read a batch without a look at what is left of the payload. -/
def readUnchecked (columns : Nat) : Reader (List Row) := do
  let count ← u32
  replicate count.toNat (read columns)

/-- A row takes a word for each of its columns at least. -/
theorem takes_read (columns : Nat) : Takes (4 * columns) (read columns) :=
  takes_nullable.replicate columns

/-- Rows that are read without a check are as many as announced, and each cell took a word. -/
theorem taken_of_readUnchecked (h : readUnchecked columns order payload = (.ok rows, left)) :
    rows.length = order.firstWord payload ∧ AllOf columns rows ∧
      left.length + (4 + 4 * (rows.length * columns)) ≤ payload.length := by
  rw [readUnchecked, bind_count_eq fun count => replicate count (read columns)] at h
  split_ifs at h with short
  · cases h
  · obtain ⟨len, wide⟩ := (yields_read columns).replicate _ order _ rows (by rw [h])
    have taken := (takes_read columns).replicate _ order _ rows left h
    rw [List.length_drop, Nat.mul_assoc, Nat.mul_comm columns, ← len] at taken
    exact ⟨len, wide, by omega⟩

/-- A product that stops at the greatest word is too large exactly if the product is. -/
theorem lt_leastLength_iff {left : Nat} (h : left < maxWord) (count columns : Nat) :
    left < leastLength count columns ↔ left < count * columns * alignment := by
  simp only [leastLength, cappedMul, alignment, Nat.lt_min]
  omega

/-- What becomes of a batch, the check apart, is what becomes of it without one. -/
theorem readBatch_eq (columns : Nat) (order : ByteOrder) (payload : Octets) :
    readBatch columns order payload =
      if 4 ≤ payload.length ∧ columns = 0 ∧ 0 < order.firstWord payload then
        (.error (.malformed (.rowsWithoutColumns (order.firstWord payload))), payload.drop 4)
      else if 4 ≤ payload.length ∧
          payload.length - 4 < leastLength (order.firstWord payload) columns then
        (.error (.malformed (.batchTooLarge (order.firstWord payload) columns
          (payload.length - 4))), payload.drop 4)
      else readUnchecked columns order payload := by
  rw [readUnchecked, bind_count_eq fun count => replicate count (read columns)]
  simp only [readBatch, Bind.bind, Reader.bind, u32_eq]
  by_cases short : payload.length < 4
  · simp [short, Nat.not_le.2 short]
  · simp only [short, if_false, Nat.le_of_not_lt short, true_and, remaining,
      ByteOrder.toNat_ofNat_firstWord, List.length_drop, malformed]
    split_ifs <;> rfl

/-- How a batch is read, its counts being held against the payload first. -/
structure Guarded (columns : Nat) (order : ByteOrder) (payload : Octets) : Prop where
  /-- The check refuses no rows that can be read without it, but for rows without columns. -/
  reads_iff : ∀ rows left, readBatch columns order payload = (.ok rows, left) ↔
    readUnchecked columns order payload = (.ok rows, left) ∧
      ¬(columns = 0 ∧ 0 < order.firstWord payload)
  /-- In a payload whose length is a word, the check is that of the exact product : behind it there
  are octets for every cell, and the rows are read as without it. -/
  exact : payload.length ≤ maxWord → 4 ≤ payload.length → readBatch columns order payload =
    if columns = 0 ∧ 0 < order.firstWord payload then
      (.error (.malformed (.rowsWithoutColumns (order.firstWord payload))), payload.drop 4)
    else if order.firstWord payload * columns * 4 ≤ payload.length - 4 then
      readUnchecked columns order payload
    else
      (.error (.malformed (.batchTooLarge (order.firstWord payload) columns
        (payload.length - 4))), payload.drop 4)
  /-- There are as many rows as announced and no more cells than there are octets for. -/
  taken : ∀ rows left, readBatch columns order payload = (.ok rows, left) →
    rows.length = order.firstWord payload ∧ AllOf columns rows ∧
      left.length + (4 + 4 * (rows.length * columns)) ≤ payload.length

/-- The check stands in the way of no rows that there are octets for. -/
theorem readBatch_eq_ok_iff : readBatch columns order payload = (.ok rows, left) ↔
    readUnchecked columns order payload = (.ok rows, left) ∧
      ¬(columns = 0 ∧ 0 < order.firstWord payload) := by
  rw [readBatch_eq]
  split_ifs with columnless large
  · simp [columnless.2]
  · refine ⟨nofun, fun ⟨read, _⟩ => ?_⟩
    obtain ⟨len, -, taken⟩ := taken_of_readUnchecked read
    have least := leastLength_le (order.firstWord payload) columns
    simp only [alignment, ← len] at least large
    omega
  · refine ⟨fun read => ⟨read, fun none => columnless ⟨?_, none⟩⟩, And.left⟩
    have taken := (taken_of_readUnchecked read).2.2
    omega

/-- Every payload is read so, with any number of columns. -/
theorem guarded (columns : Nat) (order : ByteOrder) (payload : Octets) :
    Guarded columns order payload where
  reads_iff _ _ := readBatch_eq_ok_iff
  exact word whole := by
    have short : payload.length - 4 < maxWord := by
      unfold maxWord at word ⊢
      omega
    simp only [readBatch_eq, whole, true_and, lt_leastLength_iff short, alignment, ← Nat.not_lt,
      ite_not]
  taken _ _ h := taken_of_readUnchecked (readBatch_eq_ok_iff.1 h).1

end Row

/-- Counts are held against the payload exactly, and neither rows nor columns exceed it. -/
theorem counts_fit (order : ByteOrder) (payload : Octets) (columns : Nat) (charset : Charset) :
    Row.Guarded columns order payload ∧ Descriptor.Counted charset order payload :=
  ⟨Row.guarded columns order payload, Descriptor.counted charset order payload⟩

/-- A count and a number of columns whose product is more than a word holds, and octets for one
cell behind them. -/
theorem counts_fit_huge :
    let payload : Octets := [255, 255, 255, 255, 255, 255, 255, 255]
    payload.length ≤ Row.maxWord ∧ 4 ≤ payload.length ∧
      Row.Guarded (2 ^ 62) .big payload ∧ Descriptor.Counted .utf8 .big payload ∧
      Row.readBatch (2 ^ 62) .big payload =
        (.error (.malformed (.batchTooLarge 4294967295 (2 ^ 62) 4)), [255, 255, 255, 255]) := by
  intro payload
  have word : payload.length ≤ Row.maxWord := by decide
  have whole : 4 ≤ payload.length := by decide
  obtain ⟨guarded, counted⟩ := counts_fit .big payload (2 ^ 62) .utf8
  exact ⟨word, whole, guarded, counted, guarded.exact word whole⟩

end SqlWire
