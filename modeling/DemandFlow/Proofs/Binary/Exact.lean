import DemandFlow.Proofs.Binary.Rounding

/-!
Contract: when rounding takes nothing away.

Owns: which numbers are numbers of words, and that these are rounded to themselves.

Main statements: integers are rounded to integers (`exists_number_ofInt`), short ones to themselves
(`exists_of_short`); the word of a whole part has that part as its number (`number_trunc`), and a
word keeps its number in a format that holds more (`number_toFormat`).

Does not own: what is rounded to when something is taken away (`Proofs.Binary.Rounding`).
-/

namespace DemandFlow

namespace Format

variable {format : Format}

/-! ### Values of words -/

/-- Short significands are the values of words at any exponent. -/
theorem exists_units {significand : ℕ} (short : significand ≤ 2 * format.binade) (exponent : ℕ) :
    ∃ magnitude, format.units magnitude = significand * 2 ^ exponent := by
  induction exponent generalizing significand with
  | zero => exact ⟨0 * format.binade + significand, units_split short (.inl rfl)⟩
  | succ exponent inductionHypothesis =>
      by_cases normal : format.binade ≤ significand
      · exact ⟨(exponent + 1) * format.binade + significand, units_split short (.inr normal)⟩
      · have shorter : 2 * significand ≤ 2 * format.binade := by omega
        obtain ⟨magnitude, value⟩ := inductionHypothesis shorter
        refine ⟨magnitude, value.trans ?_⟩
        ring

/-- The whole part of a word is the value of a word that is no greater. -/
theorem exists_units_whole (format : Format) (magnitude : ℕ) :
    ∃ whole ≤ magnitude, format.units whole =
      format.units magnitude / 2 ^ format.unitShift * 2 ^ format.unitShift := by
  obtain ⟨exponent, significand, word, upper, lower⟩ := format.exists_split magnitude
  have units : format.units magnitude = significand * 2 ^ exponent := by
    rw [word, units_split upper.le lower]
  have found : ∃ whole, format.units whole =
      format.units magnitude / 2 ^ format.unitShift * 2 ^ format.unitShift := by
    rcases Nat.le_total format.unitShift exponent with whole | fractional
    · refine ⟨magnitude, (Nat.div_mul_cancel ?_).symm⟩
      rw [units]
      exact (Nat.pow_dvd_pow 2 whole).mul_left significand
    · apply exists_units
      calc format.units magnitude / 2 ^ format.unitShift
          ≤ significand * 2 ^ format.unitShift / 2 ^ format.unitShift := by
            rw [units]
            exact Nat.div_le_div_right
              (Nat.mul_le_mul_left _ (Nat.pow_le_pow_right two_pos fractional))
        _ = significand := Nat.mul_div_cancel _ (Nat.two_pow_pos _)
        _ ≤ 2 * format.binade := upper.le
  obtain ⟨whole, value⟩ := found
  refine ⟨whole, ?_, value⟩
  rw [← format.units_strictMono.le_iff_le, value]
  exact Nat.div_mul_le_self _ _

/-- A great integer is rounded to an integer. -/
theorem dvd_units_nearest {value : ℕ} (great : 2 * format.binade ≤ value)
    (bound : value * 2 ^ format.unitShift ≤ format.units (format.infinity - 1)) :
    2 ^ format.unitShift ∣
      format.units (format.nearest (value * 2 ^ format.unitShift) 1) := by
  rw [← Nat.mul_one (format.units (format.infinity - 1))] at bound
  obtain ⟨magnitude, low, high⟩ := format.exists_between (value * 2 ^ format.unitShift) Nat.one_pos
  have chooses := nearest_chooses Nat.one_pos bound low high
  obtain ⟨exponent, significand, rfl, upper, lower⟩ := format.exists_split magnitude
  have units : format.units (exponent * format.binade + significand) = significand * 2 ^ exponent :=
    units_split upper.le lower
  have unitsNext : format.units (exponent * format.binade + (significand + 1)) =
      (significand + 1) * 2 ^ exponent := units_split (by omega) (by omega)
  rw [← Nat.add_assoc] at unitsNext
  have spaced : format.unitShift ≤ exponent := by
    have spacing : 2 ^ format.unitShift < 2 ^ exponent := by
      refine Nat.lt_of_mul_lt_mul_left (?_ : 2 * format.binade * _ < 2 * format.binade * _)
      calc 2 * format.binade * 2 ^ format.unitShift
          ≤ value * 2 ^ format.unitShift := Nat.mul_le_mul_right _ great
        _ < (significand + 1) * 2 ^ exponent := by rwa [Nat.mul_one, unitsNext] at high
        _ ≤ 2 * format.binade * 2 ^ exponent := Nat.mul_le_mul_right _ upper
    exact (Nat.pow_lt_pow_iff_right Nat.one_lt_two).mp spacing |>.le
  have divides := Nat.pow_dvd_pow 2 spaced
  generalize format.nearest (value * 2 ^ format.unitShift) 1 = chosen at chooses ⊢
  cases chooses with
  | lower =>
      rw [units]
      exact divides.mul_left significand
  | upper =>
      rw [unitsNext]
      exact divides.mul_left (significand + 1)

end Format

namespace Binary

variable {format : Format}

/-- A quotient that is the value of a finite word is rounded to it. -/
theorem magnitude_ofQuotient {magnitude numerator denominator : ℕ} (positive : 0 < denominator)
    (finite : magnitude < format.infinity)
    (exact : numerator = format.units magnitude * denominator) (negative : Bool) :
    (ofQuotient format negative numerator denominator).magnitude = magnitude := by
  show format.nearest numerator denominator = magnitude
  rw [exact, Format.nearest_units positive finite]

/-! ### Integers -/

/-- A short integer is the number of a word. -/
theorem exists_of_short {value : ℤ} (short : value.natAbs ≤ 2 * format.binade)
    (bound : value.natAbs * 2 ^ format.unitShift ≤ format.units (format.infinity - 1)) :
    ∃ x : Binary format, x.isFinite = true ∧ x.number = value := by
  obtain ⟨magnitude, units⟩ := Format.exists_units short format.unitShift
  have nonempty := format.infinity_pos
  have finite : magnitude < format.infinity := by
    rw [← units, format.units_strictMono.le_iff_le] at bound
    omega
  refine ⟨⟨decide (value < 0), magnitude, finite.trans format.infinity_lt⟩, ?_, ?_⟩
  · exact isFinite_iff.mpr finite
  · rw [number_eq_value, Format.value, units, ← sign_mul_natAbs format value]
    push_cast
    rw [mul_div_cancel_right₀ _ (by positivity)]
    rfl

/-- An integer is rounded to an integer. -/
theorem exists_number_ofInt {value : ℤ}
    (bound : value.natAbs * 2 ^ format.unitShift ≤ format.units (format.infinity - 1)) :
    ∃ rounded : ℤ, (ofInt format value).number = rounded := by
  rcases Nat.le_total value.natAbs (2 * format.binade) with short | great
  · obtain ⟨x, finite, exact⟩ := exists_of_short short bound
    exact ⟨value, (nearest_ofInt bound).number_eq finite exact⟩
  · obtain ⟨whole, units⟩ := Format.dvd_units_nearest great bound
    have value : format.value (ofInt format value).magnitude = whole := by
      rw [Format.value, show format.units (ofInt format value).magnitude = _ from units]
      push_cast
      rw [mul_div_cancel_left₀ _ (by positivity)]
    rw [number_eq_value, value, sign]
    split
    · exact ⟨-whole, by push_cast; ring⟩
    · exact ⟨whole, by push_cast; ring⟩

/-! ### Whole parts and other formats -/

/-- The word without a fraction has the whole part as its number. -/
theorem number_trunc {x : Binary format} (finite : x.isFinite = true) :
    x.trunc.isFinite = true ∧ x.trunc.number = x.wholePart := by
  obtain ⟨whole, atMost, units⟩ := format.exists_units_whole x.magnitude
  have finiteWhole : whole < format.infinity :=
    lt_of_le_of_lt atMost (isFinite_iff.mp finite)
  have size : x.wholePart.natAbs = format.units x.magnitude / 2 ^ format.unitShift :=
    x.natAbs_wholePart
  have exact : x.wholePart.natAbs * 2 ^ format.unitShift = format.units whole * 1 := by
    rw [size, units, Nat.mul_one]
  have magnitude : x.trunc.magnitude = whole := by
    rw [trunc, if_pos finite]
    exact magnitude_ofQuotient Nat.one_pos finiteWhole exact x.negative
  have negative : x.trunc.negative = x.negative := by
    rw [trunc, if_pos finite]
    rfl
  constructor
  · exact isFinite_iff.mpr (magnitude ▸ finiteWhole)
  · have value : format.value whole = (x.units / 2 ^ format.unitShift : ℕ) := by
      rw [Format.value, units]
      push_cast
      rw [mul_div_cancel_right₀ _ (by positivity)]
      rfl
    rw [number_eq_value, magnitude, value, sign, negative]
    unfold wholePart
    split
    · push_cast
      ring_nf
      rfl
    · push_cast
      ring_nf
      rfl

end Binary

/-- A format that has a word for every finite value of another one. -/
structure Format.Widens (format target : Format) : Prop where
  binade : format.binade ≤ target.binade
  unitShift : format.unitShift ≤ target.unitShift
  infinity : format.units format.infinity * 2 ^ (target.unitShift - format.unitShift) ≤
    target.units target.infinity

theorem Format.single_widens_double : Format.Widens .single .double where
  binade := by decide
  unitShift := by decide
  infinity := by decide +kernel

namespace Binary

variable {format target : Format}

/-- A word keeps its number in a format that holds more. -/
theorem number_toFormat (widens : format.Widens target) {x : Binary format}
    (finite : x.isFinite = true) :
    (x.toFormat target).isFinite = true ∧ (x.toFormat target).number = x.number := by
  have isSmall : x.magnitude < format.infinity := isFinite_iff.mp finite
  obtain ⟨exponent, significand, word, upper, lower⟩ := format.exists_split x.magnitude
  have units : x.units = significand * 2 ^ exponent := by
    rw [Binary.units, word, Format.units_split upper.le lower]
  have short : significand ≤ 2 * target.binade :=
    upper.le.trans (Nat.mul_le_mul_left 2 widens.binade)
  obtain ⟨magnitude, wider⟩ :=
    Format.exists_units short (exponent + (target.unitShift - format.unitShift))
  rw [pow_add, ← Nat.mul_assoc, ← units] at wider
  have finiteWider : magnitude < target.infinity := by
    rw [← target.units_strictMono.lt_iff_lt, wider]
    refine lt_of_lt_of_le ?_ widens.infinity
    exact Nat.mul_lt_mul_of_pos_right (format.units_strictMono isSmall) (Nat.two_pow_pos _)
  have exact : x.units * 2 ^ target.unitShift = target.units magnitude * 2 ^ format.unitShift := by
    rw [wider, Nat.mul_assoc, ← pow_add, Nat.sub_add_cancel widens.unitShift]
  have converted : x.toFormat target = ofQuotient target x.negative
      (x.units * 2 ^ target.unitShift) (2 ^ format.unitShift) := by
    rw [toFormat, isNaN_of_isFinite finite, isInfinite_of_isFinite finite]
    rfl
  have rounded : (x.toFormat target).magnitude = magnitude := by
    rw [converted]
    exact magnitude_ofQuotient (Nat.two_pow_pos _) finiteWider exact x.negative
  constructor
  · exact isFinite_iff.mpr (rounded ▸ finiteWider)
  · have sign : (x.toFormat target).sign = x.sign := by
      rw [converted]
      rfl
    have value : target.value magnitude = format.value x.magnitude := by
      rw [Format.value, Format.value, div_eq_div_iff (by positivity) (by positivity)]
      exact_mod_cast exact.symm
    rw [number_eq_value, number_eq_value, rounded, sign, value]

theorem isFinite_toFormat (widens : format.Widens target) (x : Binary format) :
    (x.toFormat target).isFinite = x.isFinite := by
  cases finite : x.isFinite with
  | true => exact (number_toFormat widens finite).1
  | false =>
      rw [toFormat]
      by_cases number : x.isNaN = true
      · rw [if_pos number]
        have above := target.infinity_lt_notANumber
        exact decide_eq_false above.le.not_gt
      · have infinite : x.isInfinite = true := by
          simp only [isFinite, isNaN, isInfinite, decide_eq_false_iff_not, decide_eq_true_eq]
            at finite number ⊢
          omega
        rw [if_neg number, if_pos infinite]
        simp [isFinite, infinity]

end Binary

end DemandFlow
