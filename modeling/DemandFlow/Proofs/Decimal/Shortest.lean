import DemandFlow.Decimal.Reading
import DemandFlow.Proofs.Binary.Nearest
import Mathlib.Tactic.Positivity

/-!
Contract: the decimals that are read as a word, and that the shortest one is among them.

Owns: when a decimal lies within the interval of a word, that the search for the shortest one ends
within it, and that what lies within it is read as the word.

Main statements:
- `Format.shortest_within`: the decimal that is written lies within the interval;
- `Binary.ofDecimal_eq`: what lies within the interval of a finite word is read as that word.

Does not own: the text of a decimal (`Proofs.Decimal.Text`).

The exponents that count are at least `-unitShift`, so on the scale of the interval every decimal is
a whole number and no fraction is needed on the way.
-/

namespace DemandFlow

namespace Decimal.Interval

theorem contains_iff {interval : Interval} {point : Nat} :
    interval.contains point = true ↔
      interval.lowDoubled ≤ 2 * point ∧ 2 * point ≤ interval.highDoubled ∧
        (interval.closed = false →
          interval.lowDoubled < 2 * point ∧ 2 * point < interval.highDoubled) := by
  unfold contains
  cases interval.closed with
  | true => simp
  | false =>
    simp only [Bool.false_eq_true, if_false, Bool.and_eq_true, decide_eq_true_eq, forall_const]
    omega

/-- A multiple that is picked lies in the interval. -/
theorem contains_of_pick {interval : Interval} {step coefficient : Nat}
    (picked : interval.pick step = some coefficient) :
    interval.contains (coefficient * step) = true := by
  unfold pick at picked
  dsimp only at picked
  split at picked
  · rename_i below above
    split at picked
    · cases picked
      exact below
    · cases picked
      exact above
  · rename_i below above
    cases picked
    exact below
  · rename_i below above
    cases picked
    exact above
  · cases picked

theorem contains_shortestFrom {interval : Interval}
    (value : interval.contains interval.value = true) (power : Nat) :
    interval.contains
      ((interval.shortestFrom power).1 * 10 ^ (interval.shortestFrom power).2) = true := by
  induction power with
  | zero => simpa [shortestFrom] using value
  | succ power inductionHypothesis =>
    cases picked : interval.pick (Nat.pow 10 (power + 1)) with
    | some coefficient =>
      have contained := contains_of_pick picked
      rw [Nat.pow_eq] at contained
      simpa only [shortestFrom, picked] using contained
    | none => simpa only [shortestFrom, picked] using inductionHypothesis

end Decimal.Interval

/-- A decimal that is among the numbers that round to a magnitude word. -/
def Decimal.Within (decimal : Decimal) (format : Format) (magnitude : Nat) : Prop :=
  ∃ power : Nat, decimal.exponent = power - format.unitShift ∧
    (format.interval magnitude).contains (decimal.coefficient * 10 ^ power) = true

namespace Format

variable {format : Format}

theorem contains_value {magnitude : Nat} (nonzero : 0 < magnitude) :
    (format.interval magnitude).contains (format.interval magnitude).value = true := by
  have scale : 0 < 5 ^ format.unitShift := Nat.pow_pos (by decide)
  have below := format.units_strictMono (Nat.sub_lt nonzero Nat.one_pos)
  have above := format.units_strictMono (Nat.lt_add_one magnitude)
  have low : (format.units (magnitude - 1) + format.units magnitude) * 5 ^ format.unitShift <
      2 * (format.units magnitude * 5 ^ format.unitShift) := by nlinarith
  have high : 2 * (format.units magnitude * 5 ^ format.unitShift) <
      (format.units magnitude + format.units (magnitude + 1)) * 5 ^ format.unitShift := by nlinarith
  exact Decimal.Interval.contains_iff.mpr ⟨low.le, high.le, fun _ => ⟨low, high⟩⟩

/-- The decimal that is written for a word other than zero is among those that round to it. -/
theorem shortest_within {magnitude : Nat} (nonzero : 0 < magnitude) :
    (format.shortest magnitude).Within format magnitude := by
  have found : (format.interval magnitude).contains ((format.interval magnitude).shortest.1 *
      10 ^ (format.interval magnitude).shortest.2) = true :=
    Decimal.Interval.contains_shortestFrom (contains_value nonzero) _
  unfold shortest
  rw [if_neg nonzero.ne']
  exact ⟨_, rfl, found⟩

theorem two_le_two_pow_bits (format : Format) : 2 ≤ 2 ^ (format.exponentBits - 1) := by
  have bits := format.two_le_exponentBits
  calc 2 = 2 ^ 1 := rfl
    _ ≤ 2 ^ (format.exponentBits - 1) := Nat.pow_le_pow_right (by decide) (by omega)

theorem one_le_unitShift (format : Format) : 1 ≤ format.unitShift := by
  have precision := format.two_le_precision
  have bits := format.two_le_two_pow_bits
  show 1 ≤ 2 ^ (format.exponentBits - 1) + format.precision - 3
  omega

/-- Every finite value is below `2 ^ (unitShift + 1)`. -/
theorem units_infinity_le (format : Format) :
    format.units format.infinity ≤ 2 ^ (2 * format.unitShift + 1) := by
  have precision := format.two_le_precision
  have bits := format.two_le_two_pow_bits
  have fields : 2 ^ format.exponentBits = 2 * 2 ^ (format.exponentBits - 1) := by
    rw [← Nat.pow_succ']
    congr 1
    have := format.two_le_exponentBits
    omega
  rw [units_infinity]
  show 2 ^ (format.precision - 1) * 2 ^ (2 ^ format.exponentBits - 2) ≤ _
  rw [← Nat.pow_add]
  refine Nat.pow_le_pow_right (by decide) ?_
  show _ ≤ 2 * (2 ^ (format.exponentBits - 1) + format.precision - 3) + 1
  omega

end Format

namespace Decimal

variable {format : Format} {magnitude : Nat} {decimal : Decimal}

theorem Within.coefficient_ne_zero (within : decimal.Within format magnitude)
    (nonzero : 0 < magnitude) :
    decimal.coefficient ≠ 0 := by
  obtain ⟨power, -, contained⟩ := within
  obtain ⟨low, -, -⟩ := Interval.contains_iff.mp contained
  have value := format.units_strictMono nonzero
  have scale : 0 < 5 ^ format.unitShift := Nat.pow_pos (by decide)
  intro zero
  rw [zero, Nat.zero_mul] at low
  have positive : 0 < (format.units (magnitude - 1) + format.units magnitude) *
      5 ^ format.unitShift := Nat.mul_pos (by omega) scale
  exact absurd low positive.not_ge

theorem ten_pow_le_coefficient (decimal : Decimal) (nonzero : decimal.coefficient ≠ 0) :
    10 ^ (decimal.digits.length - 1) ≤ decimal.coefficient := by
  by_cases single : decimal.digits.length ≤ 1
  · rw [Nat.sub_eq_zero_of_le single]
    omega
  · by_contra less
    have shorter : decimal.digits.length ≤ decimal.digits.length - 1 :=
      (Nat.length_toDigits_le_iff (by decide) (by omega)).mpr (Nat.lt_of_not_le less)
    omega

/-- The exponent alone does not make a decimal infinite that rounds to a finite word. -/
theorem Within.top_le (within : decimal.Within format magnitude) (nonzero : 0 < magnitude)
    (finite : magnitude < format.infinity) :
    decimal.exponent + decimal.digits.length ≤ format.unitShift := by
  have digits := decimal.ten_pow_le_coefficient (within.coefficient_ne_zero nonzero)
  have shift := format.one_le_unitShift
  obtain ⟨power, exponent, contained⟩ := within
  obtain ⟨-, high, -⟩ := Interval.contains_iff.mp contained
  by_contra beyond
  have point : 2 ^ (2 * format.unitShift) * 5 ^ format.unitShift * 5 ^ format.unitShift ≤
      decimal.coefficient * 10 ^ power := by
    calc 2 ^ (2 * format.unitShift) * 5 ^ format.unitShift * 5 ^ format.unitShift
        = 10 ^ (2 * format.unitShift) := by
          rw [Nat.mul_assoc, ← Nat.pow_add, ← Nat.two_mul, ← Nat.mul_pow]
      _ ≤ 10 ^ (decimal.digits.length - 1 + power) :=
          Nat.pow_le_pow_right (by decide) (by omega)
      _ = 10 ^ (decimal.digits.length - 1) * 10 ^ power := Nat.pow_add ..
      _ ≤ decimal.coefficient * 10 ^ power := Nat.mul_le_mul_right _ digits
  have word : format.units magnitude ≤ 2 ^ (2 * format.unitShift + 1) :=
    (format.units_strictMono.monotone finite.le).trans format.units_infinity_le
  have next : format.units (magnitude + 1) ≤ 2 ^ (2 * format.unitShift + 1) :=
    (format.units_strictMono.monotone finite).trans format.units_infinity_le
  have bound : 2 * (decimal.coefficient * 10 ^ power) ≤
      4 * (2 ^ (2 * format.unitShift) * 5 ^ format.unitShift) := by
    calc 2 * (decimal.coefficient * 10 ^ power)
        ≤ (format.units magnitude + format.units (magnitude + 1)) * 5 ^ format.unitShift := high
      _ ≤ (2 ^ (2 * format.unitShift + 1) + 2 ^ (2 * format.unitShift + 1)) *
            5 ^ format.unitShift := Nat.mul_le_mul_right _ (Nat.add_le_add word next)
      _ = 4 * (2 ^ (2 * format.unitShift) * 5 ^ format.unitShift) := by ring
  have five : 5 ^ 1 ≤ 5 ^ format.unitShift := Nat.pow_le_pow_right (by decide) shift
  have positive : 0 < 2 ^ (2 * format.unitShift) * 5 ^ format.unitShift := by positivity
  nlinarith

end Decimal

namespace Binary

variable {format : Format} {magnitude : Nat} {decimal : Decimal}

/-- A quotient that is a point of the interval, once it is put on the scale of the interval. -/
theorem ofQuotient_eq {numerator denominator point : Nat} (positive : 0 < denominator)
    (negative : Bool) (nonzero : 0 < magnitude) (finite : magnitude < format.infinity)
    (scaled : numerator * 5 ^ format.unitShift = point * denominator)
    (contained : (format.interval magnitude).contains point = true) :
    ofQuotient format negative numerator denominator =
      ⟨negative, magnitude, finite.trans format.infinity_lt⟩ := by
  have scale : 0 < 5 ^ format.unitShift := Nat.pow_pos (by decide)
  have pointScaled : 2 * point * denominator = 2 * numerator * 5 ^ format.unitShift := by linarith
  have below (bound : Nat) :
      bound * 5 ^ format.unitShift < 2 * point ↔ bound * denominator < 2 * numerator := by
    rw [← Nat.mul_lt_mul_right positive, pointScaled, Nat.mul_right_comm,
      Nat.mul_lt_mul_right scale]
  have above (bound : Nat) :
      2 * point < bound * 5 ^ format.unitShift ↔ 2 * numerator < bound * denominator := by
    rw [← Nat.mul_lt_mul_right positive, pointScaled, Nat.mul_right_comm bound,
      Nat.mul_lt_mul_right scale]
  obtain ⟨low, high, tie⟩ := Decimal.Interval.contains_iff.mp contained
  have nearest : format.nearest numerator denominator = magnitude := by
    refine Format.nearest_eq positive nonzero finite ?_ ?_ fun odd => ?_
    · exact Nat.le_of_not_lt fun less => Nat.not_lt_of_le low ((above _).mpr less)
    · exact Nat.le_of_not_lt fun less => Nat.not_lt_of_le high ((below _).mpr less)
    · have inside := tie (beq_eq_false_iff_ne.mpr (by omega))
      exact ⟨(below _).mp inside.1, (above _).mp inside.2⟩
  unfold ofQuotient
  congr 1

/-- What lies within the interval of a finite word is read as that word. -/
theorem ofDecimal_eq (within : decimal.Within format magnitude) (negative : Bool)
    (nonzero : 0 < magnitude) (finite : magnitude < format.infinity) :
    ofDecimal format negative decimal =
      ⟨negative, magnitude, finite.trans format.infinity_lt⟩ := by
  have top := within.top_le nonzero finite
  have someDigit := within.coefficient_ne_zero nonzero
  obtain ⟨power, exponent, contained⟩ := within
  have ten : 2 ^ format.unitShift * 5 ^ format.unitShift = 10 ^ format.unitShift :=
    (Nat.mul_pow ..).symm
  unfold ofDecimal
  dsimp only
  rw [if_neg someDigit, if_neg (by omega), if_neg (by omega)]
  split
  · refine ofQuotient_eq Nat.one_pos negative nonzero finite ?_ contained
    have split : power = format.unitShift + decimal.exponent.toNat := by omega
    rw [split, Nat.pow_add, ← ten, Nat.pow_eq, Nat.pow_eq]
    ring
  · refine ofQuotient_eq (Nat.pow_pos (by decide)) negative nonzero finite ?_ contained
    have split : format.unitShift = power + (-decimal.exponent).toNat := by omega
    calc decimal.coefficient * 2 ^ format.unitShift * 5 ^ format.unitShift
        = decimal.coefficient * 10 ^ format.unitShift := by rw [Nat.mul_assoc, ten]
      _ = decimal.coefficient * 10 ^ power * 10 ^ (-decimal.exponent).toNat := by
          rw [Nat.mul_assoc, ← Nat.pow_add, ← split]

theorem ofDecimal_zero (format : Format) (negative : Bool) (exponent : Int) :
    ofDecimal format negative ⟨0, exponent⟩ = ⟨negative, 0, (zero format).magnitude_lt⟩ := by
  unfold ofDecimal
  dsimp only
  rw [if_pos rfl]

end Binary

end DemandFlow
