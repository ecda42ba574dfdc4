import Mathlib
import SqlWire.Calendar.Date

/-!
# The proleptic Gregorian calendar

The calendar is given by the lengths of its months (`Date.daysInMonth`) : they tell which dates
there are (`Date.Valid`) and which one follows another (`Date.next`). A date lies so many days after
1970-01-01 if as many steps lead from there to it, or back (`Date.LiesAt`), and there is no more
than one such date for a day.

`Date.ofDay` finds it (`Date.liesAt_iff`). A day belongs to the year from March to February that
begins at it or last before it (`Date.exists_ofMarch`), and no other (`Date.march_unique`), so the
next day is the next one of that year or the first of another, and `Date.ofDay_add_one` follows
month by month. Since a date is before the next one, dates are ordered as their days
(`Date.strictMono_ofDay`), and those within the calendar are the ones of a run of days
(`Date.ofDay?_eq_some_iff`).
-/

namespace SqlWire.Date

/-! ## The calendar -/

/-- Whether a year has a leap day. -/
def IsLeap (year : Int) : Prop :=
  4 ∣ year ∧ (100 ∣ year → 400 ∣ year)

instance : DecidablePred IsLeap := fun year =>
  inferInstanceAs (Decidable (4 ∣ year ∧ (100 ∣ year → 400 ∣ year)))

/-- Days of a month. -/
def daysInMonth (year : Int) (month : Nat) : Nat :=
  if month = 2 then if IsLeap year then 29 else 28
  else if month = 4 ∨ month = 6 ∨ month = 9 ∨ month = 11 then 30
  else 31

/-- There is such a date. -/
structure Valid (date : Date) : Prop where
  month_pos : 1 ≤ date.month
  month_le : date.month ≤ 12
  day_pos : 1 ≤ date.day
  day_le : date.day ≤ daysInMonth date.year date.month

/-- The date of the day after. -/
def next (date : Date) : Date :=
  if date.day < daysInMonth date.year date.month then ⟨date.year, date.month, date.day + 1⟩
  else if date.month < 12 then ⟨date.year, date.month + 1, 1⟩
  else ⟨date.year + 1, 1, 1⟩

/-- The day that others are counted from. -/
def epoch : Date := ⟨1970, 1, 1⟩

/-- The date lies `day` days after 1970-01-01, or before it if `day` is negative. -/
def LiesAt (day : Int) (date : Date) : Prop :=
  date.Valid ∧ next^[day.toNat] epoch = next^[(-day).toNat] date

theorem daysInMonth_pos (year : Int) (month : Nat) : 0 < daysInMonth year month := by
  unfold daysInMonth
  split_ifs <;> decide

/-- The day after a day of the calendar is one too. -/
theorem valid_next {date : Date} (valid : date.Valid) : date.next.Valid := by
  obtain ⟨month_pos, month_le, day_pos, day_le⟩ := valid
  unfold next
  split_ifs with within year
  · exact ⟨month_pos, month_le, Nat.succ_pos _, within⟩
  · exact ⟨Nat.succ_pos _, year, Nat.le_refl _, daysInMonth_pos _ _⟩
  · exact ⟨Nat.le_refl _, Nat.le_add_left 1 11, Nat.le_refl _, daysInMonth_pos _ _⟩

/-- No date follows two others. -/
theorem next_injective {a b : Date} (ha : a.Valid) (hb : b.Valid) (h : a.next = b.next) :
    a = b := by
  obtain ⟨year, month, day⟩ := a
  obtain ⟨year', month', day'⟩ := b
  obtain ⟨month_pos, month_le, day_pos, day_le⟩ := ha
  obtain ⟨month_pos', month_le', day_pos', day_le'⟩ := hb
  dsimp only at month_pos month_le day_pos day_le month_pos' month_le' day_pos' day_le'
  unfold next at h
  dsimp only at h
  rw [mk.injEq]
  -- A first follows the last of its month, and another day follows one that is not the last.
  split_ifs at h with within within' year_le' year_le within' year_le' within' year_le' <;>
    rw [mk.injEq] at h <;> obtain ⟨hy, hm, hd⟩ := h
  · exact ⟨hy, hm, Nat.succ.inj hd⟩
  · omega
  · omega
  · omega
  · obtain rfl := hy
    obtain rfl := Nat.succ.inj hm
    exact ⟨rfl, rfl, by omega⟩
  · omega
  · omega
  · omega
  · obtain rfl : year = year' := by omega
    obtain rfl : month = month' := by omega
    exact ⟨rfl, rfl, by omega⟩

/-! ## Years from March to February -/

/-- Days from 1 March of year 0 to 1 March of a year. -/
def daysBeforeYear (year : Int) : Int :=
  365 * year + year / 4 - year / 100 + year / 400

/-- Days from 1 March of a year to 1 March of the next. -/
def daysInYear (year : Int) : Nat :=
  if IsLeap (year + 1) then 366 else 365

/-- A day of the month that is `index` months after March of a year. -/
def ofMonth (year : Int) (index day : Nat) : Date where
  year := if index < 10 then year else year + 1
  month := if index < 10 then index + 3 else index - 9
  day := day

/-- The date `inYear` days after 1 March of a year. -/
def ofMarch (year : Int) (inYear : Nat) : Date :=
  ofMonth year ((5 * inYear + 2) / 153) (inYear - daysBeforeMonth ((5 * inYear + 2) / 153) + 1)

theorem daysBeforeYear_add_one (year : Int) :
    daysBeforeYear (year + 1) = daysBeforeYear year + daysInYear year := by
  unfold daysBeforeYear daysInYear
  split_ifs with leap <;> unfold IsLeap at leap <;> omega

theorem daysInYear_eq (year : Int) : daysInYear year = 365 ∨ daysInYear year = 366 := by
  unfold daysInYear
  split_ifs
  · exact .inr rfl
  · exact .inl rfl

theorem daysBeforeYear_strictMono : StrictMono daysBeforeYear :=
  strictMono_int_of_lt_succ fun year => by
    have length := daysInYear_eq year
    rw [daysBeforeYear_add_one]
    omega

/-- A day is in one year only. -/
theorem march_unique {year year' : Int} {inYear inYear' : Nat} (lt : inYear < daysInYear year)
    (lt' : inYear' < daysInYear year')
    (same : daysBeforeYear year + inYear = daysBeforeYear year' + inYear') :
    year = year' ∧ inYear = inYear' := by
  have ends := daysBeforeYear_add_one year
  have ends' := daysBeforeYear_add_one year'
  have le : year ≤ year' :=
    Int.lt_add_one_iff.mp (daysBeforeYear_strictMono.lt_iff_lt.mp (by omega))
  have ge : year' ≤ year :=
    Int.lt_add_one_iff.mp (daysBeforeYear_strictMono.lt_iff_lt.mp (by omega))
  obtain rfl : year = year' := Int.le_antisymm le ge
  exact ⟨rfl, by omega⟩

/-- The last year of a cycle ends with a leap day, but for the last cycle of a century that is not
the last. -/
theorem isLeap_add_one_iff (era : Int) {century cycle yearOfCycle : Nat} (century_le : century ≤ 3)
    (cycle_le : cycle ≤ 24) (yearOfCycle_le : yearOfCycle ≤ 3) :
    IsLeap (400 * era + (100 * century + 4 * cycle + yearOfCycle : Nat) + 1) ↔
      yearOfCycle = 3 ∧ (cycle = 24 → century = 3) := by
  unfold IsLeap
  omega

/-- The years of an era are those of its centuries, and theirs of their cycles. -/
theorem daysBeforeYear_eq (era : Int) {century cycle yearOfCycle : Nat} (century_le : century ≤ 3)
    (cycle_le : cycle ≤ 24) (yearOfCycle_le : yearOfCycle ≤ 3) :
    daysBeforeYear (400 * era + (100 * century + 4 * cycle + yearOfCycle : Nat)) =
      daysPerEra * era +
        (daysPerCentury * century + daysPerCycle * cycle + daysPerYear * yearOfCycle : Nat) := by
  unfold daysBeforeYear daysPerEra daysPerCentury daysPerCycle daysPerYear
  omega

/-- A day of an era in whole centuries, cycles and years. The last year of a cycle has a leap day,
but for the last cycle of a century that is not the last. -/
structure Counted (inEra century cycle yearOfCycle inYear : Nat) : Prop where
  century_le : century ≤ 3
  cycle_le : cycle ≤ 24
  yearOfCycle_le : yearOfCycle ≤ 3
  inEra_eq : inEra =
    daysPerCentury * century + daysPerCycle * cycle + daysPerYear * yearOfCycle + inYear
  inYear_lt : inYear < if yearOfCycle = 3 ∧ (cycle = 24 → century = 3) then 366 else 365

/-- Dividing by the days of the shorter centuries and years counts too many of them on the last
days, where the greatest number is taken. -/
theorem counted {inEra century inCentury cycle inCycle yearOfCycle inYear : Nat}
    (inEra_lt : inEra < daysPerEra) (century_eq : min (inEra / daysPerCentury) 3 = century)
    (inCentury_eq : inEra - daysPerCentury * century = inCentury)
    (cycle_eq : inCentury / daysPerCycle = cycle)
    (inCycle_eq : inCentury - daysPerCycle * cycle = inCycle)
    (yearOfCycle_eq : min (inCycle / daysPerYear) 3 = yearOfCycle)
    (inYear_eq : inCycle - daysPerYear * yearOfCycle = inYear) :
    Counted inEra century cycle yearOfCycle inYear := by
  unfold daysPerEra at inEra_lt
  unfold daysPerCentury at century_eq inCentury_eq
  unfold daysPerCycle at cycle_eq inCycle_eq
  unfold daysPerYear at yearOfCycle_eq inYear_eq
  have century_le : century ≤ 3 := by omega
  have inCentury_lt : inCentury < 36524 + if century = 3 then 1 else 0 := by
    split_ifs <;> omega
  have inEra_sum : inEra = 36524 * century + inCentury := by omega
  clear century_eq inCentury_eq
  have cycle_le : cycle ≤ 24 := by
    split_ifs at inCentury_lt <;> omega
  have inCycle_lt : inCycle < 1460 + if cycle = 24 ∧ century ≠ 3 then 0 else 1 := by
    split_ifs at * <;> omega
  have inCentury_sum : inCentury = 1461 * cycle + inCycle := by omega
  clear cycle_eq inCycle_eq
  refine ⟨century_le, cycle_le, by omega, ?_, ?_⟩
  · unfold daysPerCentury daysPerCycle daysPerYear
    omega
  · split_ifs at * <;> omega

/-- A day is in some year. -/
theorem exists_ofMarch (day : Int) : ∃ year inYear, ofDay day = ofMarch year inYear ∧
    daysBeforeYear year + inYear = day + epochOffset ∧ inYear < daysInYear year := by
  have era_pos : (0 : Int) < daysPerEra := by decide
  have nonneg := Int.emod_nonneg (day + epochOffset) era_pos.ne'
  have lt := Int.emod_lt_of_pos (day + epochOffset) era_pos
  have split := Int.mul_ediv_add_emod (day + epochOffset) daysPerEra
  have count := counted ((Int.toNat_lt nonneg).mpr lt) rfl rfl rfl rfl rfl rfl
  refine ⟨_, _, rfl, ?_, ?_⟩
  · rw [daysBeforeYear_eq _ count.century_le count.cycle_le count.yearOfCycle_le]
    have sum := count.inEra_eq
    omega
  · unfold daysInYear
    rw [if_congr
      (isLeap_add_one_iff _ count.century_le count.cycle_le count.yearOfCycle_le) rfl rfl]
    exact count.inYear_lt

/-! ## Months of a year from March to February -/

section Months

variable {index day inYear : Nat}

theorem daysBeforeMonth_strictMono : StrictMono daysBeforeMonth :=
  strictMono_nat_of_lt_succ fun index => by
    unfold daysBeforeMonth
    omega

/-- Twelve months start before a year ends. -/
theorem daysBeforeMonth_lt_iff (year : Int) (index : Nat) :
    daysBeforeMonth index < daysInYear year ↔ index ≤ 11 := by
  have length := daysInYear_eq year
  unfold daysBeforeMonth
  omega

/-- The months of a year follow one another, and the last one takes what is left of it. -/
theorem daysInMonth_ofMonth (year : Int) (index_le : index ≤ 11) (day : Nat) :
    daysInMonth (ofMonth year index day).year (ofMonth year index day).month =
      min (daysBeforeMonth (index + 1)) (daysInYear year) - daysBeforeMonth index := by
  unfold daysInYear
  interval_cases index <;> simp only [ofMonth, daysInMonth, daysBeforeMonth] <;> split_ifs <;>
    first | rfl | contradiction

theorem valid_ofMonth {year : Int} (index_le : index ≤ 11) (pos : 0 < day)
    (le : daysBeforeMonth index + day ≤ min (daysBeforeMonth (index + 1)) (daysInYear year)) :
    (ofMonth year index day).Valid where
  month_pos := by
    dsimp only [ofMonth]
    split_ifs <;> omega
  month_le := by
    dsimp only [ofMonth]
    split_ifs <;> omega
  day_pos := pos
  day_le := by
    rw [daysInMonth_ofMonth year index_le]
    exact Nat.le_sub_of_add_le' le

/-- A month ends with the day before the next one starts. -/
theorem next_ofMonth (year : Int) (index_le : index ≤ 11) (day : Nat) :
    (ofMonth year index day).next =
    if daysBeforeMonth index + day < min (daysBeforeMonth (index + 1)) (daysInYear year) then
      ofMonth year index (day + 1)
    else if index < 11 then ofMonth year (index + 1) 1
    else ofMonth (year + 1) 0 1 := by
  unfold next
  rw [daysInMonth_ofMonth year index_le, if_congr Nat.lt_sub_iff_add_lt' rfl rfl]
  refine if_congr Iff.rfl rfl ?_
  interval_cases index <;> rfl

/-- A day is in the month that starts with it or last before it. -/
theorem ofMarch_eq (year : Int) (first : daysBeforeMonth index ≤ inYear)
    (last : inYear < daysBeforeMonth (index + 1)) :
    ofMarch year inYear = ofMonth year index (inYear - daysBeforeMonth index + 1) := by
  have index_eq : (5 * inYear + 2) / 153 = index := by
    unfold daysBeforeMonth at first last
    omega
  unfold ofMarch
  rw [index_eq]

/-- A day of a year is in some month. -/
theorem exists_month {year : Int} (lt : inYear < daysInYear year) :
    ∃ index ≤ 11, daysBeforeMonth index ≤ inYear ∧ inYear < daysBeforeMonth (index + 1) := by
  have length := daysInYear_eq year
  refine ⟨(5 * inYear + 2) / 153, ?_⟩
  unfold daysBeforeMonth
  omega

theorem valid_ofMarch {year : Int} (lt : inYear < daysInYear year) :
    (ofMarch year inYear).Valid := by
  obtain ⟨index, index_le, first, last⟩ := exists_month lt
  rw [ofMarch_eq year first last]
  exact valid_ofMonth index_le (Nat.succ_pos _) (by omega)

/-- A day is followed by the next one of its year, and the last one by a first. -/
theorem next_ofMarch {year : Int} (lt : inYear < daysInYear year) : (ofMarch year inYear).next =
    if inYear + 1 < daysInYear year then ofMarch year (inYear + 1) else ofMarch (year + 1) 0 := by
  obtain ⟨index, index_le, first, last⟩ := exists_month lt
  have follows := daysBeforeMonth_lt_iff year (index + 1)
  rw [ofMarch_eq year first last, next_ofMonth year index_le]
  by_cases within : inYear + 1 < daysInYear year
  · rw [if_pos within]
    by_cases same : inYear + 1 < daysBeforeMonth (index + 1)
    · rw [if_pos (by omega), ofMarch_eq year (by omega) same, Nat.sub_add_comm first]
    · have ends : inYear + 1 = daysBeforeMonth (index + 1) := by omega
      have starts := daysBeforeMonth_strictMono (Nat.lt_succ_self (index + 1))
      rw [if_neg (by omega), if_pos (by omega), ofMarch_eq year ends.ge (ends ▸ starts), ends,
        Nat.sub_self]
  · rw [if_neg (by omega), if_neg (by omega), if_neg within]
    rfl

end Months

/-! ## Days and dates -/

/-- Every number of days is a day of the calendar. -/
theorem valid_ofDay (day : Int) : (ofDay day).Valid := by
  obtain ⟨year, inYear, date_eq, -, lt⟩ := exists_ofMarch day
  rw [date_eq]
  exact valid_ofMarch lt

/-- The date of the next day is the next date. -/
theorem ofDay_add_one (day : Int) : ofDay (day + 1) = (ofDay day).next := by
  obtain ⟨year, inYear, date_eq, day_eq, lt⟩ := exists_ofMarch day
  obtain ⟨year', inYear', date_eq', day_eq', lt'⟩ := exists_ofMarch (day + 1)
  rw [date_eq, date_eq', next_ofMarch lt]
  split_ifs with within
  · obtain ⟨rfl, rfl⟩ := march_unique within lt' (by omega)
    rfl
  · have ends := daysBeforeYear_add_one year
    have length := daysInYear_eq (year + 1)
    have first : 0 < daysInYear (year + 1) := by omega
    obtain ⟨rfl, rfl⟩ := march_unique first lt' (by omega)
    rfl

/-- So many days later, the date is so many dates later. -/
theorem ofDay_add (day : Int) (count : Nat) : ofDay (day + count) = next^[count] (ofDay day) := by
  induction count with
  | zero => rw [Nat.cast_zero, Int.add_zero, Function.iterate_zero_apply]
  | succ count ih =>
    rw [Nat.cast_succ, ← Int.add_assoc, ofDay_add_one, ih, Function.iterate_succ_apply']

/-- No days after the epoch it is the epoch. -/
theorem ofDay_zero : ofDay 0 = epoch :=
  rfl

/-- No date comes so many dates after two others. -/
theorem iterate_next_injective (count : Nat) {a b : Date} (ha : a.Valid) (hb : b.Valid)
    (h : next^[count] a = next^[count] b) : a = b := by
  induction count generalizing a b with
  | zero => exact h
  | succ count ih => exact next_injective ha hb (ih (valid_next ha) (valid_next hb) h)

/-- The date found for a day is the one that lies there. -/
theorem liesAt_iff {day : Int} {date : Date} : LiesAt day date ↔ ofDay day = date := by
  have meets : next^[day.toNat] epoch = next^[(-day).toNat] (ofDay day) := by
    rw [← ofDay_zero, ← ofDay_add, ← ofDay_add]
    congr 1
    omega
  constructor
  · rintro ⟨valid, h⟩
    exact iterate_next_injective _ (valid_ofDay day) valid (meets.symm.trans h)
  · rintro rfl
    exact ⟨valid_ofDay day, meets⟩

/-! ## Order -/

/-- Dates are ordered by year, then by month, then by day. -/
instance : Preorder Date where
  le a b := a.year < b.year ∨
    a.year = b.year ∧ (a.month < b.month ∨ a.month = b.month ∧ a.day ≤ b.day)
  lt a b := a.year < b.year ∨
    a.year = b.year ∧ (a.month < b.month ∨ a.month = b.month ∧ a.day < b.day)
  le_refl a := .inr ⟨rfl, .inr ⟨rfl, Nat.le_refl _⟩⟩
  le_trans a b c := by
    omega
  lt_iff_le_not_ge a b := by
    omega

theorem lt_next (date : Date) : date < date.next := by
  unfold next
  split_ifs
  · exact .inr ⟨rfl, .inr ⟨rfl, Nat.lt_succ_self _⟩⟩
  · exact .inr ⟨rfl, .inl (Nat.lt_succ_self _)⟩
  · exact .inl (Int.lt_succ _)

/-- More days come to a later date. -/
theorem strictMono_ofDay : StrictMono ofDay :=
  strictMono_int_of_lt_succ fun day => ofDay_add_one day ▸ lt_next _

theorem year_mono : Monotone year := by
  rintro a b (h | ⟨h, -⟩)
  · exact Int.le_of_lt h
  · exact Int.le_of_eq h

/-! ## The range of the calendar -/

/-- The day of the first date of the calendar. -/
def firstDay : Int := -96465292

/-- The day of the last date of the calendar. -/
def lastDay : Int := 95026236

theorem ofDay_firstDay : ofDay firstDay = ⟨firstYear, 1, 1⟩ :=
  rfl

theorem ofDay_lastDay : ofDay lastDay = ⟨lastYear, 12, 31⟩ :=
  rfl

/-- The first year of the range begins with its first day. -/
theorem firstYear_le_iff {day : Int} : firstYear ≤ (ofDay day).year ↔ firstDay ≤ day := by
  constructor
  · intro h
    by_contra before
    have le : day ≤ firstDay - 1 := by omega
    have year_le := year_mono (strictMono_ofDay.monotone le)
    exact absurd (h.trans year_le) (by decide)
  · intro h
    have year_le := year_mono (strictMono_ofDay.monotone h)
    rwa [ofDay_firstDay] at year_le

/-- The last year of the range ends with its last day. -/
theorem le_lastYear_iff {day : Int} : (ofDay day).year ≤ lastYear ↔ day ≤ lastDay := by
  constructor
  · intro h
    by_contra after
    have le : lastDay + 1 ≤ day := by omega
    have year_le := year_mono (strictMono_ofDay.monotone le)
    exact absurd (year_le.trans h) (by decide)
  · intro h
    have year_le := year_mono (strictMono_ofDay.monotone h)
    rwa [ofDay_lastDay] at year_le

/-- The calendar has the dates of a run of days. -/
theorem ofDay?_eq_some_iff {day : Int} {date : Date} :
    ofDay? day = some date ↔ ofDay day = date ∧ firstDay ≤ day ∧ day ≤ lastDay := by
  unfold ofDay?
  rw [Option.ite_none_right_eq_some, firstYear_le_iff, le_lastYear_iff, Option.some.injEq, and_comm]

end SqlWire.Date
