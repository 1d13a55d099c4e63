import DemandFlow.Binary.Basic

/-!
Contract: rounding exact quotients into a binary format.

Owns: rounding to the nearest whole number and to the nearest word, ties to the even one, and
what is built on it: words of integers, words of another format, and words without a fraction.

Does not own: decimal text, although reading it ends in `Binary.ofQuotient`.
-/

namespace DemandFlow

/-- The whole number nearest to `numerator / denominator`; a tie goes to the even one. -/
def nearestWhole (numerator denominator : Nat) : Nat :=
  let whole := numerator / denominator
  let rest := numerator % denominator
  if 2 * rest < denominator then whole
  else if denominator < 2 * rest then whole + 1
  else whole + whole % 2

namespace Format

/-- The magnitude word nearest to `numerator / denominator` units; a tie goes to the even word,
and what lies beyond the greatest finite value by half a spacing or more is infinite.

`shift` is the exponent of the spacing at that place. Rounding up to the next power of two needs
no case of its own: the carry runs into the exponent field. -/
def nearest (format : Format) (numerator denominator : Nat) : Nat :=
  let shift := Nat.log2 (numerator / denominator) + 1 - format.precision
  min (shift * format.binade + nearestWhole numerator (denominator * Nat.pow 2 shift))
    format.infinity

theorem nearest_lt (format : Format) (numerator denominator : Nat) :
    format.nearest numerator denominator < format.magnitudes :=
  Nat.lt_of_le_of_lt (Nat.min_le_right _ _) format.infinity_lt

end Format

namespace Binary

/-- The word nearest to `numerator / denominator` units with the given sign. -/
def ofQuotient (format : Format) (negative : Bool) (numerator denominator : Nat) :
    Binary format :=
  ⟨negative, format.nearest numerator denominator, format.nearest_lt _ _⟩

/-- The word nearest to an integer. -/
def ofInt (format : Format) (value : Int) : Binary format :=
  ofQuotient format (decide (value < 0)) (value.natAbs * Nat.pow 2 format.unitShift) 1

/-- The word of another format nearest to this one. Infinities keep their sign; what is not a
number stays so. -/
def toFormat {format : Format} (x : Binary format) (target : Format) : Binary target :=
  if x.isNaN then notANumber target
  else if x.isInfinite then infinity target x.negative
  else
    ofQuotient target x.negative (x.units * Nat.pow 2 target.unitShift)
      (Nat.pow 2 format.unitShift)

/-- The word of the whole part, with the sign of the number also where that part is zero. What is
not finite has no fraction to lose. -/
def trunc (x : Binary format) : Binary format :=
  if x.isFinite then
    ofQuotient format x.negative (x.wholePart.natAbs * Nat.pow 2 format.unitShift) 1
  else x

end Binary

end DemandFlow
