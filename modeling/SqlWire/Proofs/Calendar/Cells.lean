import Mathlib.Data.BitVec
import SqlWire.Column.Value
import SqlWire.Proofs.Calendar.Gregorian
import SqlWire.Proofs.Wire.Numbers
import SqlWire.Wire.Item

/-!
# Cells with dates and times

A day, a time of day and an instant are counts with a sign, of 1970-01-01 or of midnight. An instant
is read by its seconds and a time by its own, so both are brought to counts of microseconds first
(`TimeOfDay.ofSeconds?_eq_some_iff`, `Timestamp.ofMicroseconds?_eq_some_iff`). The cell of an
instant is then read as that of its day and that of what is left of the day : the day is rounded
down and what is left is never negative, also before 1970. `Column.readsCalendar` collects what the
three readers do, in either byte order, with the calendar of `Date.liesAt_iff`.
-/

namespace SqlWire

/-! ## Counts of microseconds -/

/-- Which seconds and microseconds are a time of a day, and which time they are. -/
theorem TimeOfDay.ofSeconds?_eq_some_iff {seconds microseconds : Nat} {time : TimeOfDay} :
    ofSeconds? seconds microseconds = some time ↔
      (seconds < secondsPerDay ∧ microseconds < microsecondsPerSecond) ∧
        microsecondsPerSecond * seconds + microseconds = time.microseconds := by
  unfold ofSeconds?
  rw [Option.ite_none_right_eq_some, Option.some.injEq, TimeOfDay.mk.injEq]

/-- A count within a day is that of its whole seconds and of what is left of a second. -/
theorem TimeOfDay.ofSeconds?_split {count : Int} (nonneg : 0 ≤ count)
    (lt : count < microsecondsPerDay) {time : TimeOfDay} :
    ofSeconds? (count / microsecondsPerSecond).toNat (count % microsecondsPerSecond).toNat =
      some time ↔ (time.microseconds : Int) = count := by
  rw [ofSeconds?_eq_some_iff]
  unfold microsecondsPerDay at lt
  unfold secondsPerDay microsecondsPerSecond
  omega

/-- What is left of a day is always a time. -/
theorem emod_microsecondsPerDay_within (instant : Int) :
    0 ≤ instant % microsecondsPerDay ∧ instant % microsecondsPerDay < microsecondsPerDay := by
  unfold microsecondsPerDay
  omega

/-- A timestamp has the date of its day, and the time that is left of it. -/
theorem Timestamp.ofMicroseconds?_eq_some_iff {instant : Int} {timestamp : Timestamp} :
    ofMicroseconds? instant = some timestamp ↔
      Date.ofDay? (instant / microsecondsPerDay) = some timestamp.date ∧
        (timestamp.time.microseconds : Int) = instant % microsecondsPerDay := by
  have day_eq : instant / microsecondsPerSecond / secondsPerDay = instant / microsecondsPerDay := by
    unfold microsecondsPerSecond secondsPerDay microsecondsPerDay
    omega
  have seconds_eq : instant / microsecondsPerSecond % secondsPerDay =
      instant % microsecondsPerDay / microsecondsPerSecond := by
    unfold microsecondsPerSecond secondsPerDay microsecondsPerDay
    omega
  have rest_eq : instant % microsecondsPerSecond =
      instant % microsecondsPerDay % microsecondsPerSecond := by
    unfold microsecondsPerSecond microsecondsPerDay
    omega
  obtain ⟨nonneg, lt⟩ := emod_microsecondsPerDay_within instant
  unfold ofMicroseconds?
  dsimp only [Option.bind_eq_bind, Option.pure_def]
  rw [day_eq, seconds_eq, rest_eq, Option.bind_eq_some_iff]
  constructor
  · rintro ⟨date, date_eq, h⟩
    obtain ⟨time, time_eq, ⟨⟩⟩ := Option.bind_eq_some_iff.mp h
    exact ⟨date_eq, (TimeOfDay.ofSeconds?_split nonneg lt).mp time_eq⟩
  · rintro ⟨date_eq, time_eq⟩
    refine ⟨_, date_eq, Option.bind_eq_some_iff.mpr ⟨_, ?_, rfl⟩⟩
    exact (TimeOfDay.ofSeconds?_split nonneg lt).mpr time_eq

namespace Column

/-- A number is read back with its sign. -/
theorem twosComplement_octets (order : ByteOrder) (width : Nat) (x : BitVec (8 * width)) :
    twosComplement width (order.toNat (order.octets width x.toNat)) = x.toInt := by
  have power : 256 ^ width = 2 ^ (8 * width) := (Nat.pow_mul 2 8 width).symm
  have below : x.toNat < 256 ^ width := power ▸ x.isLt
  rw [ByteOrder.toNat_octets below, BitVec.toInt_eq_toNat_cond, ← power]
  rfl

/-! ## Cells -/

/-- The cell of a count of days. -/
def dayCell (order : ByteOrder) (day : Int32) : Octets :=
  (Wire.Item.i32 day).encode order

/-- The cell of a count of microseconds. -/
def countCell (order : ByteOrder) (count : Int64) : Octets :=
  (Wire.Item.i64 count).encode order

section Readers

variable {order : ByteOrder} {day : Int32} {count : Int64}

theorem length_dayCell : (dayCell order day).length = 4 :=
  order.length_octets 4 _

theorem length_countCell : (countCell order count).length = 8 :=
  order.length_octets 8 _

theorem twosComplement_dayCell :
    twosComplement 4 (order.toNat (dayCell order day)) = day.toInt :=
  twosComplement_octets order 4 day.toBitVec

theorem twosComplement_countCell :
    twosComplement 8 (order.toNat (countCell order count)) = count.toInt :=
  twosComplement_octets order 8 count.toBitVec

/-- A date is read exactly if the calendar has it. -/
theorem readDate_eq_ok_iff {date : Date} : readDate order (dayCell order day) = .ok date ↔
    Date.ofDay? day.toInt = some date := by
  unfold readDate
  rw [if_pos length_dayCell, twosComplement_dayCell]
  dsimp only
  cases Date.ofDay? day.toInt <;> simp

/-- A time of day is read exactly if it is within a day, as the count that it is. -/
theorem readTime_eq_ok_iff {time : TimeOfDay} : readTime order (countCell order count) = .ok time ↔
    (0 ≤ count.toInt ∧ count.toInt < microsecondsPerDay) ∧
      (time.microseconds : Int) = count.toInt := by
  unfold readTime
  rw [if_pos length_countCell, twosComplement_countCell]
  dsimp only
  split_ifs with within
  · rw [← TimeOfDay.ofSeconds?_split within.1 within.2]
    cases TimeOfDay.ofSeconds? _ _ <;> simp [within]
  · exact iff_of_false nofun fun h => within h.1

/-- A time stamp is read exactly if the calendar has its day. -/
theorem readTimestamp_eq_ok_iff {timestamp : Timestamp} :
    readTimestamp order (countCell order count) = .ok timestamp ↔
      Timestamp.ofMicroseconds? count.toInt = some timestamp := by
  unfold readTimestamp
  rw [if_pos length_countCell, twosComplement_countCell]
  dsimp only
  cases Timestamp.ofMicroseconds? count.toInt <;> simp

end Readers

/-! ## Instants -/

/-- The day of an instant. -/
def dayOf (instant : Int64) : Int32 :=
  .ofInt (instant.toInt / microsecondsPerDay)

/-- What is left of the day of an instant. -/
def leftOf (instant : Int64) : Int64 :=
  .ofInt (instant.toInt % microsecondsPerDay)

/-- There are fewer days than words. -/
theorem toInt_dayOf (instant : Int64) :
    (dayOf instant).toInt = instant.toInt / microsecondsPerDay := by
  have low := instant.le_toInt
  have high := instant.toInt_lt
  unfold dayOf microsecondsPerDay
  exact Int32.toInt_ofInt_of_le (by omega) (by omega)

theorem toInt_leftOf (instant : Int64) :
    (leftOf instant).toInt = instant.toInt % microsecondsPerDay := by
  unfold leftOf microsecondsPerDay
  exact Int64.toInt_ofInt_of_le (by omega) (by omega)

theorem exists_readTime {order : ByteOrder} {count : Int64} :
    (∃ time, readTime order (countCell order count) = .ok time) ↔
      0 ≤ count.toInt ∧ count.toInt < microsecondsPerDay := by
  constructor
  · rintro ⟨time, h⟩
    exact (readTime_eq_ok_iff.mp h).1
  · intro within
    exact ⟨⟨count.toInt.toNat⟩, readTime_eq_ok_iff.mpr ⟨within, Int.toNat_of_nonneg within.1⟩⟩

theorem exists_readDate {order : ByteOrder} {day : Int32} :
    (∃ date, readDate order (dayCell order day) = .ok date) ↔
      Date.firstDay ≤ day.toInt ∧ day.toInt ≤ Date.lastDay := by
  constructor
  · rintro ⟨date, h⟩
    exact (Date.ofDay?_eq_some_iff.mp (readDate_eq_ok_iff.mp h)).2
  · intro within
    exact ⟨_, readDate_eq_ok_iff.mpr (Date.ofDay?_eq_some_iff.mpr ⟨rfl, within⟩)⟩

theorem leftOf_within (instant : Int64) :
    0 ≤ (leftOf instant).toInt ∧ (leftOf instant).toInt < microsecondsPerDay := by
  rw [toInt_leftOf]
  exact emod_microsecondsPerDay_within _

/-- A timestamp is read as the date of its day and the time that is left of it. -/
theorem readTimestamp_eq_ok_iff_parts {order : ByteOrder} {instant : Int64}
    {timestamp : Timestamp} :
    readTimestamp order (countCell order instant) = .ok timestamp ↔
      readDate order (dayCell order (dayOf instant)) = .ok timestamp.date ∧
        readTime order (countCell order (leftOf instant)) = .ok timestamp.time := by
  rw [readTimestamp_eq_ok_iff, Timestamp.ofMicroseconds?_eq_some_iff, readDate_eq_ok_iff,
    readTime_eq_ok_iff, and_iff_right (leftOf_within instant), toInt_dayOf, toInt_leftOf]

/-- The cells of an instant, of its day and of what is left of the day are read alike. -/
structure ReadAlike (order : ByteOrder) (instant : Int64) (day : Int32) (left : Int64) : Prop where
  /-- The day is rounded down, also before 1970. -/
  day_eq : day.toInt = instant.toInt / microsecondsPerDay
  left_eq : left.toInt = instant.toInt - day.toInt * microsecondsPerDay
  time_succeeds : ∃ time, readTime order (countCell order left) = .ok time
  succeeds_iff : (∃ timestamp, readTimestamp order (countCell order instant) = .ok timestamp) ↔
    ∃ date, readDate order (dayCell order day) = .ok date
  parts : ∀ timestamp, readTimestamp order (countCell order instant) = .ok timestamp →
    readDate order (dayCell order day) = .ok timestamp.date ∧
      readTime order (countCell order left) = .ok timestamp.time

/-- A time stamp is read as its date and its time are. -/
theorem readAlike (order : ByteOrder) (instant : Int64) :
    ReadAlike order instant (dayOf instant) (leftOf instant) where
  day_eq := toInt_dayOf instant
  left_eq := by
    rw [toInt_leftOf, toInt_dayOf, Int.emod_def, Int.mul_comm]
  time_succeeds := exists_readTime.mpr (leftOf_within instant)
  succeeds_iff := by
    constructor
    · rintro ⟨timestamp, h⟩
      exact ⟨timestamp.date, (readTimestamp_eq_ok_iff_parts.mp h).1⟩
    · rintro ⟨date, date_eq⟩
      obtain ⟨time, time_eq⟩ := exists_readTime.mpr (leftOf_within instant)
      exact ⟨⟨date, time⟩, readTimestamp_eq_ok_iff_parts.mpr ⟨date_eq, time_eq⟩⟩
  parts _ := readTimestamp_eq_ok_iff_parts.mp

/-! ## The calendar of the cells -/

/-- What the readers of dates, times and timestamps make of every count. -/
structure ReadsCalendar (order : ByteOrder) : Prop where
  /-- An instant is read as a day and a time. -/
  timestamp : ∀ instant, ∃ day left, ReadAlike order instant day left
  time_iff : ∀ count : Int64, (∃ time, readTime order (countCell order count) = .ok time) ↔
    0 ≤ count.toInt ∧ count.toInt < microsecondsPerDay
  time : ∀ count time, readTime order (countCell order count) = .ok time →
    (time.microseconds : Int) = count.toInt
  /-- The days of the first and of the last date of the calendar. -/
  first : Date.LiesAt Date.firstDay ⟨-262143, 1, 1⟩
  last : Date.LiesAt Date.lastDay ⟨262142, 12, 31⟩
  date_iff : ∀ day : Int32, (∃ date, readDate order (dayCell order day) = .ok date) ↔
    Date.firstDay ≤ day.toInt ∧ day.toInt ≤ Date.lastDay
  /-- The date of a day is as many steps from 1970-01-01 as the day says. -/
  date : ∀ day date, readDate order (dayCell order day) = .ok date → Date.LiesAt day.toInt date
  /-- A date is earlier than another if its day is. -/
  increasing : ∀ day day' date date', readDate order (dayCell order day) = .ok date →
    readDate order (dayCell order day') = .ok date' → (date < date' ↔ day < day')

/-- Timestamps are read as dates and times are, and dates by the calendar. -/
theorem readsCalendar (order : ByteOrder) : ReadsCalendar order where
  timestamp instant := ⟨_, _, readAlike order instant⟩
  time_iff _ := exists_readTime
  time _ _ h := (readTime_eq_ok_iff.mp h).2
  first := Date.liesAt_iff.mpr Date.ofDay_firstDay
  last := Date.liesAt_iff.mpr Date.ofDay_lastDay
  date_iff _ := exists_readDate
  date _ _ h := Date.liesAt_iff.mpr (Date.ofDay?_eq_some_iff.mp (readDate_eq_ok_iff.mp h)).1
  increasing day day' date date' h h' := by
    obtain ⟨rfl, -⟩ := Date.ofDay?_eq_some_iff.mp (readDate_eq_ok_iff.mp h)
    obtain ⟨rfl, -⟩ := Date.ofDay?_eq_some_iff.mp (readDate_eq_ok_iff.mp h')
    exact Date.strictMono_ofDay.lt_iff_lt.trans Int32.lt_iff_toInt_lt.symm

/-- The last microsecond before 1970 is read as the end of a day. -/
example (order : ByteOrder) : readTimestamp order (countCell order (-1)) =
    .ok ⟨⟨1969, 12, 31⟩, ⟨86399999999⟩⟩ := by
  cases order <;> decide

end Column

end SqlWire
