set_option autoImplicit false

/-! # Shortest decimals

The decimal with the fewest digits that reads back as a given double, and of those the one
closest to it. The double `m * 2 ^ e` stands for an interval of numbers: half a step to both
sides, or a quarter step down where the steps get finer, with the ends included if `m` is
even. The coarsest decimal grid that has a point in the interval is found by trying the grids
from above; on each only the two neighbours of the double can be in the interval.
-/

namespace HttpDoctest.Number

/-- The number `significand * 10 ^ exponent`. -/
structure Decimal where
  significand : Nat
  exponent : Int
deriving DecidableEq, Repr

/-- Which of two equally close decimals is taken. -/
inductive Tie where
  /-- The larger one. -/
  | up
  /-- The one with an even last digit. -/
  | even
deriving DecidableEq, Repr

/-- The interval of a double in units of `2 ^ (exponent - 2)`. -/
structure Interval where
  low : Nat
  middle : Nat
  high : Nat
  closed : Bool
  exponent : Int

/-- The interval of the double `m * 2 ^ e`. -/
def Interval.ofBinary (m : Nat) (e : Int) : Interval where
  low := if m = Nat.pow 2 52 ∧ e > -1074 then 4 * m - 1 else 4 * m - 2
  middle := 4 * m
  high := 4 * m + 2
  closed := m % 2 == 0
  exponent := e - 2

namespace Interval

/-- The factor of the interval's bounds where points of the grid `10 ^ k` are compared. -/
def boundFactor (i : Interval) (k : Int) : Nat :=
  Nat.pow 2 i.exponent.toNat * Nat.pow 10 (-k).toNat

/-- The factor of the grid points where points of the grid `10 ^ k` are compared. -/
def pointFactor (i : Interval) (k : Int) : Nat :=
  Nat.pow 2 (-i.exponent).toNat * Nat.pow 10 k.toNat

/-- Whether `c * 10 ^ k` lies in the interval. Zero never does. -/
def holds (i : Interval) (k : Int) (c : Nat) : Bool :=
  let low := i.low * i.boundFactor k
  let high := i.high * i.boundFactor k
  let point := c * i.pointFactor k
  c != 0 && (if i.closed then low ≤ point && point ≤ high else low < point && point < high)

/-- The point of the grid `10 ^ k` in the interval that is closest to its middle. -/
def pointOn? (i : Interval) (tie : Tie) (k : Int) : Option Nat :=
  let middle := i.middle * i.boundFactor k
  let step := i.pointFactor k
  let below := middle / step
  match i.holds k below, i.holds k (below + 1) with
  | true, false => some below
  | false, true => some (below + 1)
  | false, false => none
  | true, true =>
      match compare (2 * middle) ((2 * below + 1) * step), tie with
      | .lt, _ => some below
      | .gt, _ => some (below + 1)
      | .eq, .up => some (below + 1)
      | .eq, .even => if below % 2 = 0 then some below else some (below + 1)

/-- The first point found on the grids `10 ^ k`, `10 ^ (k - 1)`, and so on. -/
def search (i : Interval) (tie : Tie) : Nat → Int → Decimal
  | 0, k => ⟨i.middle * i.boundFactor k / i.pointFactor k, k⟩
  | fuel + 1, k =>
      match i.pointOn? tie k with
      | some c => ⟨c, k⟩
      | none => i.search tie fuel (k - 1)

end Interval

/-- The shortest decimal of the double `m * 2 ^ e`. The search starts above the leading digit
of the double, and twenty grids below it are enough for the seventeen digits that always do. -/
def shortest (tie : Tie) (m : Nat) (e : Int) : Decimal :=
  let top := (m.log2 + 1 + e) * 30103 / 100000 + 2
  (Interval.ofBinary m e).search tie 24 top

end HttpDoctest.Number
