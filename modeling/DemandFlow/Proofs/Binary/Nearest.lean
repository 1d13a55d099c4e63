import DemandFlow.Binary.Round
import Mathlib.Tactic.Linarith
import Mathlib.Tactic.Ring

/-!
Contract: rounding to a word gives back the word whose interval holds the number.

Owns: a magnitude word as an exponent and a significand, the order of the values, and which
quotients `Format.nearest` sends to a word.

Main statement: `Format.nearest_eq`. What lies between the middles to both neighbours of a finite
word rounds to that word, and so do the middles themselves if the word is even.

Does not own: decimals (`Proofs.Decimal.Shortest`).

A word is split as `exponent * binade + significand`, and the significand may reach twice the
binade. So the word after the last one of an exponent needs no case of its own: its two splits
stand for the same value.
-/

namespace DemandFlow

namespace Format

variable {format : Format}

/-! ### The split of a word -/

theorem two_dvd_binade (format : Format) : 2 ∣ format.binade := by
  have more : format.precision - 1 = format.precision - 2 + 1 := by
    have := format.two_le_precision
    omega
  refine ⟨Nat.pow 2 (format.precision - 2), ?_⟩
  unfold binade
  rw [more]
  exact Nat.pow_succ'

/-- The value of a word by its exponent and its significand. -/
theorem units_split {exponent significand : Nat} (upper : significand ≤ 2 * format.binade)
    (lower : exponent = 0 ∨ format.binade ≤ significand) :
    format.units (exponent * format.binade + significand) = significand * 2 ^ exponent := by
  have positive := format.binade_pos
  -- The field of the word is by one greater than the exponent, unless the word is subnormal.
  have field (quotient rest : Nat) (small : rest < format.binade) :
      format.units (quotient * format.binade + rest) =
        if quotient = 0 then rest else (format.binade + rest) * 2 ^ (quotient - 1) := by
    have quotientEq : (quotient * format.binade + rest) / format.binade = quotient := by
      rw [Nat.mul_comm, Nat.mul_add_div positive, Nat.div_eq_of_lt small, Nat.add_zero]
    have restEq : (quotient * format.binade + rest) % format.binade = rest := by
      rw [Nat.mul_comm, Nat.mul_add_mod, Nat.mod_eq_of_lt small]
    unfold units
    rw [quotientEq, restEq]
    cases quotient with
    | zero => simp
    | succ quotient => rfl
  by_cases subnormal : significand < format.binade
  · obtain rfl : exponent = 0 := by omega
    have value := field 0 significand subnormal
    simpa using value
  by_cases last : significand = 2 * format.binade
  · have value := field (exponent + 2) 0 positive
    have wordEq : exponent * format.binade + significand = (exponent + 2) * format.binade + 0 := by
      rw [last]
      ring
    rw [wordEq, value, last]
    show (format.binade + 0) * 2 ^ (exponent + 1) = 2 * format.binade * 2 ^ exponent
    ring
  · have value := field (exponent + 1) (significand - format.binade) (by omega)
    have wordEq : exponent * format.binade + significand =
        (exponent + 1) * format.binade + (significand - format.binade) := by
      rw [Nat.succ_mul]
      omega
    rw [wordEq, value]
    show (format.binade + (significand - format.binade)) * 2 ^ exponent = significand * 2 ^ exponent
    rw [Nat.add_sub_cancel' (by omega)]

theorem exists_split (format : Format) (magnitude : Nat) :
    ∃ exponent significand, magnitude = exponent * format.binade + significand ∧
      significand < 2 * format.binade ∧ (exponent = 0 ∨ format.binade ≤ significand) := by
  have positive := format.binade_pos
  have split := Nat.div_add_mod magnitude format.binade
  have small := Nat.mod_lt magnitude positive
  cases quotient : magnitude / format.binade with
  | zero =>
    rw [quotient] at split
    exact ⟨0, magnitude % format.binade, by omega, by omega, .inl rfl⟩
  | succ exponent =>
    rw [quotient, Nat.mul_succ, Nat.mul_comm] at split
    exact ⟨exponent, format.binade + magnitude % format.binade, by omega, by omega,
      .inr (by omega)⟩

/-- A greater word has a greater value. -/
theorem units_strictMono (format : Format) : StrictMono format.units := by
  refine strictMono_nat_of_lt_succ fun magnitude => ?_
  obtain ⟨exponent, significand, rfl, upper, lower⟩ := format.exists_split magnitude
  rw [Nat.add_assoc, units_split upper.le lower, units_split (by omega) (by omega)]
  exact Nat.mul_lt_mul_of_pos_right (by omega) (Nat.two_pow_pos _)

theorem units_infinity (format : Format) :
    format.units format.infinity = format.binade * 2 ^ (2 ^ format.exponentBits - 2) := by
  have fields : 2 ^ 2 ≤ 2 ^ format.exponentBits :=
    Nat.pow_le_pow_right (by decide) format.two_le_exponentBits
  have split : format.infinity =
      (2 ^ format.exponentBits - 2) * format.binade + format.binade := by
    rw [← Nat.succ_mul]
    unfold infinity
    congr 1
    show 2 ^ format.exponentBits - 1 = _
    omega
  rw [split, units_split (by omega) (.inr le_rfl)]

end Format

/-! ### Rounding -/

/-- What a whole number is nearest to: the quotients between the middles to its neighbours, the
middles included if it is even. -/
theorem nearestWhole_eq {numerator denominator whole : Nat} (positive : 0 < denominator)
    (low : 2 * whole * denominator ≤ 2 * numerator + denominator)
    (high : 2 * numerator ≤ (2 * whole + 1) * denominator)
    (tie : whole % 2 = 1 → 2 * whole * denominator < 2 * numerator + denominator ∧
      2 * numerator < (2 * whole + 1) * denominator) :
    nearestWhole numerator denominator = whole := by
  have split := Nat.div_add_mod numerator denominator
  have small := Nat.mod_lt numerator positive
  unfold nearestWhole
  generalize numerator / denominator = quotient at split ⊢
  generalize numerator % denominator = rest at split small ⊢
  subst split
  have notBelow : quotient ≤ whole := by
    by_contra above
    nlinarith [Nat.mul_le_mul_right denominator (Nat.lt_of_not_le above)]
  have notAbove : whole ≤ quotient + 1 := by
    by_contra above
    nlinarith [Nat.mul_le_mul_right denominator (Nat.lt_of_not_le above)]
  obtain rfl | rfl : whole = quotient ∨ whole = quotient + 1 := by omega
  · have nearer : 2 * rest ≤ denominator := by linarith
    have strict (odd : whole % 2 = 1) : 2 * rest < denominator := by linarith [(tie odd).2]
    dsimp only
    split
    · rfl
    · rw [if_neg (by omega)]
      omega
  · have nearer : denominator ≤ 2 * rest := by linarith
    have strict (odd : (quotient + 1) % 2 = 1) : denominator < 2 * rest := by
      linarith [(tie odd).1]
    dsimp only
    rw [if_neg (by omega)]
    split
    · rfl
    · omega

namespace Format

variable {format : Format}

/-- The exponent of the spacing at a place, from bounds of the place. -/
theorem shift_eq {numerator denominator exponent : Nat} (positive : 0 < denominator)
    (low : exponent = 0 ∨ format.binade * 2 ^ exponent * denominator ≤ numerator)
    (high : numerator < 2 * format.binade * 2 ^ exponent * denominator) :
    Nat.log2 (numerator / denominator) + 1 - format.precision = exponent := by
  have precision := format.two_le_precision
  have lowPower : format.binade * 2 ^ exponent = 2 ^ (format.precision - 1 + exponent) :=
    (Nat.pow_add ..).symm
  have highPower : 2 * format.binade * 2 ^ exponent = 2 ^ (format.precision + exponent) := by
    rw [Nat.mul_assoc, lowPower, ← Nat.pow_succ']
    congr 1
    omega
  rw [lowPower, ← Nat.le_div_iff_mul_le positive] at low
  rw [highPower, ← Nat.div_lt_iff_lt_mul positive] at high
  by_cases zero : numerator / denominator = 0
  · have low := low.resolve_right (by rw [zero]; exact (Nat.two_pow_pos _).not_ge)
    rw [zero, low]
    show 0 + 1 - format.precision = 0
    omega
  · rw [← Nat.log2_lt zero] at high
    rw [← Nat.le_log2 zero] at low
    omega

/-- Rounding within the words of one exponent, and to the first word of the next one. -/
theorem nearest_split {numerator denominator exponent significand : Nat}
    (positive : 0 < denominator)
    (lower : exponent = 0 ∨ format.binade * 2 ^ exponent * denominator ≤ numerator)
    (upper : numerator < 2 * format.binade * 2 ^ exponent * denominator)
    (low : 2 * significand * (denominator * 2 ^ exponent) ≤
      2 * numerator + denominator * 2 ^ exponent)
    (high : 2 * numerator ≤ (2 * significand + 1) * (denominator * 2 ^ exponent))
    (tie : significand % 2 = 1 →
      2 * significand * (denominator * 2 ^ exponent) < 2 * numerator + denominator * 2 ^ exponent ∧
        2 * numerator < (2 * significand + 1) * (denominator * 2 ^ exponent)) :
    format.nearest numerator denominator =
      min (exponent * format.binade + significand) format.infinity := by
  have whole := nearestWhole_eq (Nat.mul_pos positive (Nat.two_pow_pos exponent)) low high tie
  show min (_ * format.binade + nearestWhole numerator (denominator * 2 ^ _)) _ = _
  rw [shift_eq positive lower upper, whole]

/-- Above the first word of an exponent the two neighbours lie equally far away. -/
theorem nearest_even_spacing {numerator denominator exponent significand : Nat}
    (positive : 0 < denominator) (upper : significand < 2 * format.binade)
    (first : exponent = 0 ∨ format.binade < significand)
    (low : 2 * significand * (denominator * 2 ^ exponent) ≤
      2 * numerator + denominator * 2 ^ exponent)
    (high : 2 * numerator ≤ (2 * significand + 1) * (denominator * 2 ^ exponent))
    (tie : significand % 2 = 1 →
      2 * significand * (denominator * 2 ^ exponent) < 2 * numerator + denominator * 2 ^ exponent ∧
        2 * numerator < (2 * significand + 1) * (denominator * 2 ^ exponent)) :
    format.nearest numerator denominator =
      min (exponent * format.binade + significand) format.infinity := by
  refine nearest_split positive ?_ ?_ low high tie
  · refine first.imp_right fun more => ?_
    nlinarith [Nat.mul_le_mul_right (denominator * 2 ^ exponent) more]
  · nlinarith [Nat.mul_le_mul_right (denominator * 2 ^ exponent) upper,
      Nat.mul_pos positive (Nat.two_pow_pos exponent)]

/-- What lies below the first word of an exponent is spaced half as wide, so the interval of that
word begins nearer to it than it ends. -/
theorem nearest_first {numerator denominator exponent : Nat} (positive : 0 < denominator)
    (low : (4 * format.binade - 1) * (denominator * 2 ^ exponent) ≤ 2 * numerator)
    (high : 2 * numerator ≤ (2 * format.binade + 1) * (denominator * 2 ^ (exponent + 1))) :
    format.nearest numerator denominator =
      min ((exponent + 1) * format.binade + format.binade) format.infinity := by
  obtain ⟨half, evenBinade⟩ := format.two_dvd_binade
  have binadePositive := format.binade_pos
  have spacing : 0 < denominator * 2 ^ exponent := Nat.mul_pos positive (Nat.two_pow_pos _)
  have wider : denominator * 2 ^ (exponent + 1) = 2 * (denominator * 2 ^ exponent) := by ring
  rw [Nat.sub_mul, Nat.sub_le_iff_le_add] at low
  rw [wider] at high
  by_cases reached : format.binade * 2 ^ (exponent + 1) * denominator ≤ numerator
  · refine nearest_split positive (.inr reached) ?_ ?_ (by rw [wider]; exact high) fun odd => ?_
    · nlinarith
    · rw [wider]
      nlinarith
    · omega
  · have finer : format.nearest numerator denominator =
        min (exponent * format.binade + 2 * format.binade) format.infinity := by
      refine nearest_split positive (.inr ?_) ?_ ?_ ?_ fun odd => ?_
      · nlinarith
      · nlinarith
      · nlinarith
      · nlinarith
      · omega
    rw [finer]
    congr 1
    ring

/-- The word before the first one of an exponent has the exponent below. -/
theorem units_before_first (exponent : Nat) :
    format.units ((exponent + 1) * format.binade + format.binade - 1) =
      (2 * format.binade - 1) * 2 ^ exponent := by
  have positive := format.binade_pos
  have word : (exponent + 1) * format.binade + format.binade - 1 =
      exponent * format.binade + (2 * format.binade - 1) := by
    rw [Nat.succ_mul]
    omega
  rw [word, units_split (by omega) (by omega)]

/-- The numbers between the middles to the two neighbours of a word round to the word; the middles
themselves round to it if it is even. -/
theorem nearest_eq {magnitude numerator denominator : Nat} (positive : 0 < denominator)
    (nonzero : 0 < magnitude) (finite : magnitude < format.infinity)
    (low : (format.units (magnitude - 1) + format.units magnitude) * denominator ≤ 2 * numerator)
    (high : 2 * numerator ≤
      (format.units magnitude + format.units (magnitude + 1)) * denominator)
    (tie : magnitude % 2 = 1 →
      (format.units (magnitude - 1) + format.units magnitude) * denominator < 2 * numerator ∧
        2 * numerator <
          (format.units magnitude + format.units (magnitude + 1)) * denominator) :
    format.nearest numerator denominator = magnitude := by
  obtain ⟨half, evenBinade⟩ := format.two_dvd_binade
  have binadePositive := format.binade_pos
  obtain ⟨exponent, significand, rfl, upper, lower⟩ := format.exists_split magnitude
  have parity : (exponent * format.binade + significand) % 2 = significand % 2 := by
    rw [evenBinade, Nat.mul_left_comm, Nat.mul_add_mod]
  have next : format.units (exponent * format.binade + significand + 1) =
      (significand + 1) * 2 ^ exponent := by
    rw [Nat.add_assoc, units_split (by omega) (by omega)]
  rw [parity] at tie
  rw [next, units_split upper.le lower] at high tie
  rw [units_split upper.le lower] at low
  refine Eq.trans ?_ (Nat.min_eq_left finite.le)
  by_cases first : exponent = 0 ∨ format.binade < significand
  · obtain ⟨before, rfl⟩ : ∃ before, significand = before + 1 := by
      refine Nat.exists_eq_succ_of_ne_zero ?_
      rintro rfl
      obtain rfl : exponent = 0 := by omega
      simp at nonzero
    have previous : format.units (exponent * format.binade + (before + 1) - 1) =
        before * 2 ^ exponent := units_split (by omega) (by omega)
    rw [previous] at low tie
    refine nearest_even_spacing positive upper first ?_ ?_ fun odd => ?_
    · linarith
    · linarith
    · obtain ⟨lowTie, highTie⟩ := tie odd
      constructor <;> linarith
  · obtain rfl : significand = format.binade := by omega
    obtain ⟨finer, rfl⟩ : ∃ finer, exponent = finer + 1 :=
      Nat.exists_eq_succ_of_ne_zero (by omega)
    rw [units_before_first, pow_succ] at low
    refine nearest_first positive ?_ (by linarith)
    have sum : 2 * format.binade - 1 + 2 * format.binade = 4 * format.binade - 1 := by omega
    calc (4 * format.binade - 1) * (denominator * 2 ^ finer)
        = ((2 * format.binade - 1) * 2 ^ finer + format.binade * (2 ^ finer * 2)) *
            denominator := by
          rw [← sum]
          ring
      _ ≤ 2 * numerator := low

end Format

end DemandFlow
