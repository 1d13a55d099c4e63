import DemandFlow.Proofs.Binary.Nearest
import Mathlib.Data.Rat.Floor
import Mathlib.Tactic.FieldSimp

/-!
Contract: the numbers that floating-point words stand for.

Owns: the exact rational number of a word, read off the fields of its bit pattern, and what the
operations on words that do not round mean for it: counting in units, order, absolute value and
the whole part.

Main statements: a number is its units, signed (`number_eq`); words are ordered as their numbers are
(`atMost_abs_iff`); the whole part of a word is its number cut toward zero (`wholePart_eq`).

Does not own: which word a number is rounded to (`Proofs.Binary.Rounding`).
-/

namespace DemandFlow

/-- A rational number cut toward zero. -/
def cut (q : ℚ) : ℤ := if q < 0 then ⌈q⌉ else ⌊q⌋

theorem cut_neg (q : ℚ) : cut (-q) = -cut q := by
  rcases lt_trichotomy q 0 with negative | rfl | positive
  · rw [cut, cut, if_neg (by linarith), if_pos negative, Int.floor_neg]
  · rfl
  · rw [cut, cut, if_pos (by linarith), if_neg (by linarith), Int.ceil_neg]

@[simp]
theorem cut_intCast (n : ℤ) : cut n = n := by
  unfold cut
  split <;> simp

namespace Format

/-- What the exponent field of a word is greater by than the exponent. -/
def bias (format : Format) : ℕ := 2 ^ (format.exponentBits - 1) - 1

/-- One is so many units. -/
theorem one_eq_units (format : Format) :
    (2 : ℚ) ^ format.unitShift = format.binade * 2 ^ (format.bias - 1 : ℤ) := by
  have precision := format.two_le_precision
  have fields : 2 ^ 1 ≤ 2 ^ (format.exponentBits - 1) :=
    Nat.pow_le_pow_right (by decide) (by have := format.two_le_exponentBits; omega)
  have shift : (format.unitShift : ℤ) = (format.precision - 1 : ℕ) + (format.bias - 1 : ℤ) := by
    have unfolded : format.unitShift = 2 ^ (format.exponentBits - 1) + format.precision - 3 := rfl
    unfold bias
    omega
  have binade : (format.binade : ℚ) = 2 ^ (format.precision - 1 : ℕ) := by
    unfold Format.binade
    exact Nat.cast_pow 2 _
  rw [binade, ← zpow_natCast, ← zpow_natCast, shift, zpow_add₀ two_ne_zero]

end Format

namespace Binary

variable {format : Format}

def exponentField (x : Binary format) : ℕ := x.magnitude / format.binade

def fraction (x : Binary format) : ℕ := x.magnitude % format.binade

def sign (x : Binary format) : ℚ := if x.negative then -1 else 1

/-- The number that a finite word stands for: the digit before the point is one, unless the exponent
field is zero. -/
def number (x : Binary format) : ℚ :=
  if x.exponentField = 0 then
    x.sign * (x.fraction / format.binade) * 2 ^ (1 - format.bias : ℤ)
  else
    x.sign * (1 + x.fraction / format.binade) * 2 ^ (x.exponentField - format.bias : ℤ)

/-- A number is its units, signed. -/
theorem number_eq (x : Binary format) :
    x.number = x.sign * x.units / 2 ^ format.unitShift := by
  have binade : (format.binade : ℚ) ≠ 0 := Nat.cast_ne_zero.mpr format.binade_pos.ne'
  have power (exponent : ℤ) : (2 : ℚ) ^ exponent ≠ 0 := zpow_ne_zero _ two_ne_zero
  rw [format.one_eq_units]
  unfold number units Format.units
  cases field : x.magnitude / format.binade with
  | zero =>
      have whole : x.fraction = x.magnitude := by
        have split := Nat.div_add_mod x.magnitude format.binade
        rw [field, Nat.mul_zero, Nat.zero_add] at split
        exact split
      rw [if_pos (show x.exponentField = 0 from field), whole,
        show (1 - format.bias : ℤ) = -(format.bias - 1) by ring, zpow_neg]
      have scale := power (format.bias - 1)
      field_simp
  | succ below =>
      have above : x.exponentField = below + 1 := field
      rw [if_neg (by omega), above,
        show (((below + 1 : ℕ) : ℤ) - format.bias : ℤ) = below - (format.bias - 1) by
          push_cast
          ring,
        zpow_sub₀ two_ne_zero, zpow_natCast]
      have scale := power (format.bias - 1)
      have units : ((format.binade + x.magnitude % format.binade) * Nat.pow 2 below : ℕ) =
          ((format.binade + x.fraction) * 2 ^ below : ℚ) := by
        rw [Nat.cast_mul, Nat.cast_add]
        exact congrArg _ (Nat.cast_pow 2 below)
      rw [units]
      field_simp

theorem abs_sign (x : Binary format) : |x.sign| = 1 := by
  unfold sign
  split <;> simp

theorem abs_number (x : Binary format) : |x.number| = x.units / 2 ^ format.unitShift := by
  rw [number_eq, abs_div, abs_mul, abs_sign, one_mul, abs_of_nonneg (Nat.cast_nonneg _),
    abs_of_pos (by positivity)]

theorem number_of_negative {x : Binary format} (negative : x.negative = true) :
    x.number = -|x.number| := by
  rw [abs_number, number_eq, sign, if_pos negative]
  ring

theorem number_of_not_negative {x : Binary format} (positive : x.negative = false) :
    x.number = |x.number| := by
  rw [abs_number, number_eq, sign, positive]
  simp

/-! ### Order -/

theorem units_le_iff (x y : Binary format) : x.units ≤ y.units ↔ x.magnitude ≤ y.magnitude :=
  format.units_strictMono.le_iff_le

theorem abs_number_le_iff (x y : Binary format) :
    |x.number| ≤ |y.number| ↔ x.magnitude ≤ y.magnitude := by
  rw [abs_number, abs_number, div_le_div_iff_of_pos_right (by positivity), Nat.cast_le,
    units_le_iff]

theorem isFinite_iff {x : Binary format} : x.isFinite = true ↔ x.magnitude < format.infinity :=
  decide_eq_true_iff

theorem isNaN_of_isFinite {x : Binary format} (finite : x.isFinite = true) : x.isNaN = false :=
  decide_eq_false (isFinite_iff.mp finite).not_gt

theorem isInfinite_of_isFinite {x : Binary format} (finite : x.isFinite = true) :
    x.isInfinite = false :=
  decide_eq_false (isFinite_iff.mp finite).ne

/-- Words without a sign are ordered as their numbers are. -/
theorem atMost_abs_iff {x y : Binary format} (finite : x.isFinite = true)
    (other : y.isFinite = true) : x.abs.atMost y.abs = true ↔ |x.number| ≤ |y.number| := by
  have number : x.abs.isNaN = false := isNaN_of_isFinite finite
  have otherNumber : y.abs.isNaN = false := isNaN_of_isFinite other
  rw [atMost, number, otherNumber, abs_number_le_iff]
  simp [rank, abs]

/-! ### Whole parts -/

theorem floor_abs_number (x : Binary format) :
    ⌊|x.number|⌋ = (x.units / 2 ^ format.unitShift : ℕ) := by
  rw [abs_number]
  have divided := Rat.floor_intCast_div_natCast x.units (2 ^ format.unitShift)
  push_cast at divided ⊢
  exact divided

/-- The whole part of a word is its number cut toward zero. -/
theorem wholePart_eq (x : Binary format) : x.wholePart = cut x.number := by
  have size : cut |x.number| = (x.units / 2 ^ format.unitShift : ℕ) := by
    rw [cut, if_neg (abs_nonneg _).not_gt, floor_abs_number]
  unfold wholePart
  cases negative : x.negative with
  | true =>
      rw [number_of_negative negative, cut_neg, size]
      rfl
  | false =>
      rw [number_of_not_negative negative, size]
      rfl

theorem natAbs_wholePart (x : Binary format) :
    x.wholePart.natAbs = x.units / 2 ^ format.unitShift := by
  unfold wholePart
  split
  · exact (Int.natAbs_neg _).trans (Int.natAbs_natCast _)
  · exact Int.natAbs_natCast _

end Binary

end DemandFlow
