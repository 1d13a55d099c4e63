import DemandFlow.Binary.Basic

/-!
Contract: the fewest decimal digits that read back as the same floating-point word.

Owns: decimal numbers, the search for the shortest one in an interval, and the interval of a word.

Does not own: how digits are laid out as text (`Decimal.Layout`).

The search needs no fractions. A value of `u` units is `u / 2 ^ s`, which is `u * 5 ^ s` counted
in steps of `10 ^ -s`; on that scale the value, the bounds of its interval and every decimal grid
point that matters are whole numbers.
-/

namespace DemandFlow

/-- The number `coefficient * 10 ^ exponent`. -/
structure Decimal where
  coefficient : Nat
  exponent : Int
deriving DecidableEq, Repr

namespace Decimal

/-- The digits of a decimal's coefficient, the leading one first. -/
def digits (decimal : Decimal) : List Char := Nat.toDigits 10 decimal.coefficient

/-- The numbers that are read as `value`: those between the two bounds, which are written doubled
so that the middle of two whole numbers is whole. The bounds themselves belong to it if `closed`. -/
structure Interval where
  lowDoubled : Nat
  value : Nat
  highDoubled : Nat
  closed : Bool
deriving DecidableEq, Repr

namespace Interval

def contains (interval : Interval) (point : Nat) : Bool :=
  if interval.closed then interval.lowDoubled ≤ 2 * point && 2 * point ≤ interval.highDoubled
  else interval.lowDoubled < 2 * point && 2 * point < interval.highDoubled

/-- The multiple of `step` to write, if the interval holds one: of the two next to the value the
one inside, of two the nearer, and on a tie the greater. -/
def pick (interval : Interval) (step : Nat) : Option Nat :=
  let below := interval.value / step
  let above := below + 1
  match interval.contains (below * step), interval.contains (above * step) with
  | true, true =>
      if interval.value - below * step < above * step - interval.value then some below
      else some above
  | true, false => some below
  | false, true => some above
  | false, false => none

/-- Tries the powers of ten from `10 ^ power` down. The coarsest grid that has a point in the
interval gives the fewest digits, and its point never ends in a zero: such a point lies on the
next coarser grid, too. The grid of step one holds the value itself. -/
def shortestFrom (interval : Interval) : Nat → Nat × Nat
  | 0 => (interval.value, 0)
  | power + 1 =>
      match interval.pick (Nat.pow 10 (power + 1)) with
      | some coefficient => (coefficient, power + 1)
      | none => interval.shortestFrom power

/-- The shortest coefficient and its power of ten. -/
def shortest (interval : Interval) : Nat × Nat :=
  interval.shortestFrom (Nat.toDigits 10 interval.value).length

end Interval

end Decimal

namespace Format

/-- The numbers that round to a magnitude word, in steps of `10 ^ -unitShift`. The bounds lie half
way to the neighbouring words, and belong to the word that is even. -/
def interval (format : Format) (magnitude : Nat) : Decimal.Interval :=
  let scale := Nat.pow 5 format.unitShift
  let units := format.units magnitude
  { lowDoubled := (format.units (magnitude - 1) + units) * scale
    value := units * scale
    highDoubled := (units + format.units (magnitude + 1)) * scale
    closed := magnitude % 2 == 0 }

/-- The shortest decimal that reads back as a finite magnitude word, and of those the nearest. -/
def shortest (format : Format) (magnitude : Nat) : Decimal :=
  if magnitude = 0 then ⟨0, 0⟩
  else
    let (coefficient, power) := (format.interval magnitude).shortest
    ⟨coefficient, (power : Int) - format.unitShift⟩

end Format

end DemandFlow
