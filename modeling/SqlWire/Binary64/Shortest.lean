import SqlWire.Binary64.Basic

/-!
# The shortest decimal of a double

Every decimal in an interval around a double reads back as that double. `Binary64.shortest` looks
for the coarsest grid of powers of ten that has a point in the interval. On that grid it takes the
point nearest to the double, and of two equally near ones the one that `Tie` chooses.

The search compares exact integers: with `below`, `value` and `above` four times the ends of the
interval and the double, all over the same power of two, a point `c * 10 ^ k` is in the interval
when `below * B ≤ c * A ≤ above * B` for the two factors of `Grid`.
-/

namespace SqlWire.Binary64

/-- Which of two equally near decimals is taken. -/
inductive Tie where
  /-- The greater one. -/
  | up
  /-- The one whose last digit is even. -/
  | even
  deriving DecidableEq

/-- A double and the ends of the interval of numbers that are read as it, in units of a quarter of
its last place. -/
structure Interval where
  below : Nat
  value : Nat
  above : Nat
  /-- Whether the ends themselves are read as the double. -/
  closed : Bool
  /-- The power of two of the unit. -/
  power : Int

/-- The interval of a finite double other than zero. The gap below a power of two is half as wide as
the one above it. -/
def interval (x : Binary64) : Interval :=
  let m := x.significand
  let narrow := x.fraction = 0 ∧ 1 < x.exponentField
  { below := 4 * m - if narrow then 1 else 2
    value := 4 * m
    above := 4 * m + 2
    closed := m % 2 == 0
    power := x.power - 2 }

/-- The factors that bring the grid of multiples of `10 ^ k` (`points`) and the units of an interval
(`units`) to a common unit. -/
structure Grid where
  points : Nat
  units : Nat

/-- The factors for the grid of `10 ^ k`. -/
def Interval.grid (i : Interval) (k : Int) : Grid where
  points := Nat.pow 10 k.toNat * Nat.pow 2 (-i.power).toNat
  units := Nat.pow 2 i.power.toNat * Nat.pow 10 (-k).toNat

/-- Whether the point `c` of a grid lies in the interval. -/
def Interval.contains (i : Interval) (g : Grid) (c : Nat) : Bool :=
  if i.closed then i.below * g.units ≤ c * g.points && c * g.points ≤ i.above * g.units
  else i.below * g.units < c * g.points && c * g.points < i.above * g.units

/-- The point of a grid to write: of the neighbours of the double that lie in the interval, the
nearer one. -/
def Interval.pointOn? (i : Interval) (g : Grid) (tie : Tie) : Option Nat :=
  let c := i.value * g.units / g.points
  let twice := 2 * (i.value * g.units)
  let middle := (2 * c + 1) * g.points
  match i.contains g c, i.contains g (c + 1) with
  | false, false => none
  | true, false => some c
  | false, true => some (c + 1)
  | true, true =>
    if twice < middle then some c
    else if middle < twice then some (c + 1)
    else
      match tie with
      | .up => some (c + 1)
      | .even => some (if c % 2 = 0 then c else c + 1)

/-- Search the grids of `10 ^ k`, `10 ^ (k - 1)`, … -/
def Interval.search (i : Interval) (tie : Tie) : Nat → Int → Nat × Int
  | 0, k => (i.value * (i.grid k).units / (i.grid k).points, k)
  | n + 1, k =>
    match i.pointOn? (i.grid k) tie with
    | some c => (c, k)
    | none => i.search tie n (k - 1)

/-- A power of ten that exceeds a double: `1233 / 4096` is just below the logarithm of two. -/
def exceedingPower (x : Binary64) : Int :=
  ((x.significand.log2 + 1 : Nat) + x.power) * 1233 / 4096 + 1

/-- Grids that are searched: one for each of up to seventeen digits, and some above the first. -/
def gridCount : Nat := 20

/-- The integer `c` and the power `k` of the shortest decimal `c * 10 ^ k` that reads back as a
finite double other than zero, sign aside. -/
def shortest (x : Binary64) (tie : Tie) : Nat × Int :=
  x.interval.search tie gridCount x.exceedingPower

end SqlWire.Binary64
