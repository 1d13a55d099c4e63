import DemandFlow.Proofs.Binary.Number

/-!
Contract: rounding finds the nearest word.

Owns: which of the two words around a quotient it is rounded to, and that no other word is nearer.

Main statements: no word is nearer to a quotient than the one it is rounded to, and of two that
are equally near it is the even one (`nearest_ofQuotient`); so it is for integers
(`nearest_ofInt`).

Does not own: the intervals that `Format.nearest` rests on (`Proofs.Binary.Nearest`), and when
nothing is rounded away (`Proofs.Binary.Exact`).
-/

namespace DemandFlow

namespace Format

variable {format : Format} {magnitude numerator denominator : ℕ}

/-! ### The words around a quotient -/

@[simp]
theorem units_zero (format : Format) : format.units 0 = 0 := by
  simp [units]

theorem units_one (format : Format) : format.units 1 = 1 := by
  have binade := format.binade_pos
  have value : format.units (0 * format.binade + 1) = 1 * 2 ^ 0 :=
    units_split (by omega) (.inl rfl)
  simpa using value

/-- Whole products of a word and of the next one are in order. -/
theorem units_mul_lt (format : Format) (magnitude : ℕ) (positive : 0 < denominator) :
    format.units magnitude * denominator < format.units (magnitude + 1) * denominator :=
  Nat.mul_lt_mul_of_pos_right (format.units_strictMono (Nat.lt_succ_self _)) positive

/-- Every quotient lies between the values of a word and of the next one. -/
theorem exists_between (format : Format) (numerator : ℕ) (positive : 0 < denominator) :
    ∃ magnitude, format.units magnitude * denominator ≤ numerator ∧
      numerator < format.units (magnitude + 1) * denominator := by
  have above : ∃ magnitude, numerator < format.units magnitude * denominator := by
    refine ⟨numerator + 1, ?_⟩
    calc numerator < numerator + 1 := Nat.lt_succ_self _
      _ ≤ format.units (numerator + 1) := format.units_strictMono.le_apply
      _ ≤ format.units (numerator + 1) * denominator := Nat.le_mul_of_pos_right _ positive
  obtain ⟨least, isAbove, isLeast⟩ := Nat.findX above
  cases least with
  | zero =>
      rw [units_zero, Nat.zero_mul] at isAbove
      exact absurd isAbove (Nat.not_lt_zero _)
  | succ magnitude =>
      exact ⟨magnitude, Nat.not_lt.mp (isLeast magnitude (Nat.lt_succ_self _)), isAbove⟩

/-- What is at most half a unit rounds to zero. -/
theorem nearest_zero (positive : 0 < denominator) (high : 2 * numerator ≤ denominator) :
    format.nearest numerator denominator = 0 := by
  have binade := format.binade_pos
  have small : numerator < 2 * format.binade * 2 ^ 0 * denominator := by
    calc numerator < 2 * denominator := by omega
      _ ≤ 2 * format.binade * 2 ^ 0 * denominator :=
          Nat.mul_le_mul_right _ (by omega)
  have rounded : format.nearest numerator denominator =
      min (0 * format.binade + 0) format.infinity :=
    nearest_split positive (.inl rfl) small (by omega) (by omega) (by omega)
  simpa using rounded

/-- In the lower half between two words, and in the middle if the lower one is even, a quotient
rounds to the lower one. -/
theorem nearest_eq_lower (positive : 0 < denominator) (finite : magnitude < format.infinity)
    (low : format.units magnitude * denominator ≤ numerator)
    (high : 2 * numerator ≤
      (format.units magnitude + format.units (magnitude + 1)) * denominator)
    (tie : magnitude % 2 = 1 → 2 * numerator <
      (format.units magnitude + format.units (magnitude + 1)) * denominator) :
    format.nearest numerator denominator = magnitude := by
  cases magnitude with
  | zero =>
      rw [units_zero, Nat.zero_add, units_one, Nat.one_mul] at high
      exact nearest_zero positive high
  | succ before =>
      have spaced := format.units_mul_lt before positive
      have below : (format.units before + format.units (before + 1)) * denominator <
          2 * numerator := by
        rw [Nat.add_mul]
        omega
      exact nearest_eq positive (Nat.succ_pos _) finite below.le high fun odd => ⟨below, tie odd⟩

/-- In the upper half between two words, and in the middle if the upper one is even, a quotient
rounds to the upper one. -/
theorem nearest_eq_upper (positive : 0 < denominator) (finite : magnitude + 1 < format.infinity)
    (low : (format.units magnitude + format.units (magnitude + 1)) * denominator ≤ 2 * numerator)
    (high : numerator < format.units (magnitude + 1) * denominator)
    (tie : (magnitude + 1) % 2 = 1 →
      (format.units magnitude + format.units (magnitude + 1)) * denominator < 2 * numerator) :
    format.nearest numerator denominator = magnitude + 1 := by
  have spaced : format.units (magnitude + 1) * denominator <
      format.units (magnitude + 2) * denominator := format.units_mul_lt (magnitude + 1) positive
  have above : 2 * numerator <
      (format.units (magnitude + 1) + format.units (magnitude + 2)) * denominator := by
    rw [Nat.add_mul]
    omega
  exact nearest_eq positive (Nat.succ_pos _) finite low above.le fun odd => ⟨tie odd, above⟩

/-- The value of a finite word rounds to the word. -/
theorem nearest_units (positive : 0 < denominator) (finite : magnitude < format.infinity) :
    format.nearest (format.units magnitude * denominator) denominator = magnitude := by
  have spaced := format.units_mul_lt magnitude positive
  have below : 2 * (format.units magnitude * denominator) <
      (format.units magnitude + format.units (magnitude + 1)) * denominator := by
    rw [Nat.add_mul]
    omega
  exact nearest_eq_lower positive finite le_rfl below.le fun _ => below

/-- Which of two neighbouring words a quotient between them is rounded to: the one in whose half it
lies, or the even one from the middle. -/
inductive Chooses (format : Format) (numerator denominator magnitude : ℕ) : ℕ → Prop where
  | lower (finite : magnitude < format.infinity)
      (half : 2 * numerator ≤
        (format.units magnitude + format.units (magnitude + 1)) * denominator)
      (tie : 2 * numerator =
        (format.units magnitude + format.units (magnitude + 1)) * denominator →
          magnitude % 2 = 0) :
      Chooses format numerator denominator magnitude magnitude
  | upper (finite : magnitude + 1 < format.infinity)
      (half : (format.units magnitude + format.units (magnitude + 1)) * denominator ≤
        2 * numerator)
      (tie : 2 * numerator =
        (format.units magnitude + format.units (magnitude + 1)) * denominator →
          (magnitude + 1) % 2 = 0) :
      Chooses format numerator denominator magnitude (magnitude + 1)

theorem infinity_pos (format : Format) : 0 < format.infinity := by
  have fields : 2 ^ 2 ≤ 2 ^ format.exponentBits :=
    Nat.pow_le_pow_right (by decide) format.two_le_exponentBits
  exact Nat.mul_pos (Nat.sub_pos_of_lt (lt_of_lt_of_le (by decide) fields)) format.binade_pos

/-- What is at most the greatest finite value is rounded to one of the words around it. -/
theorem nearest_chooses (positive : 0 < denominator)
    (bound : numerator ≤ format.units (format.infinity - 1) * denominator)
    (low : format.units magnitude * denominator ≤ numerator)
    (high : numerator < format.units (magnitude + 1) * denominator) :
    format.Chooses numerator denominator magnitude (format.nearest numerator denominator) := by
  have nonempty := format.infinity_pos
  have atMostLast : magnitude ≤ format.infinity - 1 := by
    rw [← format.units_strictMono.le_iff_le]
    exact Nat.le_of_mul_le_mul_right (low.trans bound) positive
  have finite : magnitude < format.infinity := by omega
  rcases lt_trichotomy (2 * numerator)
    ((format.units magnitude + format.units (magnitude + 1)) * denominator) with
    lower | middle | upper
  · rw [nearest_eq_lower positive finite low lower.le fun _ => lower]
    exact .lower finite lower.le fun same => absurd same lower.ne
  all_goals
    -- Above the greatest finite value there is nothing to be rounded.
    have below : magnitude ≠ format.infinity - 1 := by
      rintro rfl
      rw [Nat.add_mul] at *
      omega
    have finiteNext : magnitude + 1 < format.infinity := by omega
  · rcases Nat.mod_two_eq_zero_or_one magnitude with even | odd
    · rw [nearest_eq_lower positive finite low middle.le (by omega)]
      exact .lower finite middle.le fun _ => even
    · rw [nearest_eq_upper positive finiteNext middle.ge high (by omega)]
      exact .upper finiteNext middle.ge (by omega)
  · rw [nearest_eq_upper positive finiteNext upper.le high fun _ => upper]
    exact .upper finiteNext upper.le fun same => absurd same upper.ne'

theorem Chooses.finite {chosen : ℕ}
    (chooses : format.Chooses numerator denominator magnitude chosen) :
    chosen < format.infinity := by
  cases chooses with
  | lower finite => exact finite
  | upper finite => exact finite

/-! ### Nothing is nearer -/

/-- The value of a word, one not being so many units but one. -/
def value (format : Format) (magnitude : ℕ) : ℚ := format.units magnitude / 2 ^ format.unitShift

theorem value_zero (format : Format) : format.value 0 = 0 := by
  simp [value]

theorem value_nonneg (format : Format) (magnitude : ℕ) : 0 ≤ format.value magnitude := by
  unfold value
  positivity

theorem value_strictMono (format : Format) : StrictMono format.value := by
  intro less greater order
  have units := format.units_strictMono order
  exact div_lt_div_of_pos_right (by exact_mod_cast units) (by positivity)

/-- A number in the lower half between two others is nearer to the lower one than to whatever lies
outside. -/
theorem lower_closest {low high q other : ℚ} (above : low ≤ q) (half : 2 * q ≤ low + high)
    (outside : other ≤ low ∨ high ≤ other) :
    |low - q| ≤ |other - q| ∧ (other ≠ low → |other - q| = |low - q| → 2 * q = low + high) := by
  rw [abs_of_nonpos (sub_nonpos.mpr above)]
  rcases outside with below | beyond
  · rw [abs_of_nonpos (by linarith)]
    exact ⟨by linarith, fun differs same => absurd (by linarith) differs⟩
  · rw [abs_of_nonneg (by linarith)]
    exact ⟨by linarith, fun _ same => by linarith⟩

theorem upper_closest {low high q other : ℚ} (below : q ≤ high) (half : low + high ≤ 2 * q)
    (outside : other ≤ low ∨ high ≤ other) :
    |high - q| ≤ |other - q| ∧ (other ≠ high → |other - q| = |high - q| → 2 * q = low + high) := by
  rw [abs_of_nonneg (sub_nonneg.mpr below)]
  rcases outside with under | beyond
  · rw [abs_of_nonpos (by linarith)]
    exact ⟨by linarith, fun _ same => by linarith⟩
  · rw [abs_of_nonneg (by linarith)]
    exact ⟨by linarith, fun differs same => absurd (by linarith) differs⟩

/-- Whole products compare as the values do. -/
theorem units_mul_eq (format : Format) (magnitude denominator : ℕ) :
    (format.units magnitude * denominator : ℕ) =
      format.value magnitude * (denominator * 2 ^ format.unitShift) := by
  rw [value]
  push_cast
  field_simp

section Quotient

variable (positive : 0 < denominator) {q : ℚ}
  (quotient : numerator = q * (denominator * 2 ^ format.unitShift))

include positive quotient

theorem units_mul_le_iff :
    format.units magnitude * denominator ≤ numerator ↔ format.value magnitude ≤ q := by
  have scale : (0 : ℚ) < denominator * 2 ^ format.unitShift := by positivity
  rw [← Nat.cast_le (α := ℚ), units_mul_eq, quotient, mul_le_mul_iff_left₀ scale]

theorem lt_units_mul_iff :
    numerator < format.units magnitude * denominator ↔ q < format.value magnitude := by
  rw [← not_le, ← not_le, units_mul_le_iff positive quotient]

/-- A quotient lies on the same side of the middle between two words in whole products and in
values. -/
theorem cmp_middle (magnitude : ℕ) :
    cmp (2 * numerator) ((format.units magnitude + format.units (magnitude + 1)) * denominator) =
      cmp (2 * q) (format.value magnitude + format.value (magnitude + 1)) := by
  have scale : (0 : ℚ) < denominator * 2 ^ format.unitShift := by positivity
  have double : (2 * numerator : ℕ) = 2 * q * (denominator * 2 ^ format.unitShift) := by
    push_cast
    rw [quotient]
    ring
  have middle : ((format.units magnitude + format.units (magnitude + 1)) * denominator : ℕ) =
      (format.value magnitude + format.value (magnitude + 1)) *
        (denominator * 2 ^ format.unitShift) := by
    rw [Nat.add_mul, Nat.cast_add, units_mul_eq, units_mul_eq]
    ring
  rw [← (Nat.strictMono_cast (α := ℚ)).cmp_map_eq, double, middle, cmp_mul_pos_right scale]

/-- The word that a quotient is rounded to is the nearest one, and even if it is not alone in
that. -/
theorem nearest_closest
    (bound : numerator ≤ format.units (format.infinity - 1) * denominator) (other : ℕ) :
    |format.value (format.nearest numerator denominator) - q| ≤ |format.value other - q| ∧
      (format.value other ≠ format.value (format.nearest numerator denominator) →
        |format.value other - q| = |format.value (format.nearest numerator denominator) - q| →
        format.nearest numerator denominator % 2 = 0) := by
  obtain ⟨magnitude, low, high⟩ := format.exists_between numerator positive
  have above := (units_mul_le_iff positive quotient).mp low
  have below := (lt_units_mul_iff positive quotient).mp high
  have side := cmp_middle positive quotient magnitude
  have outside : format.value other ≤ format.value magnitude ∨
      format.value (magnitude + 1) ≤ format.value other := by
    rw [format.value_strictMono.le_iff_le, format.value_strictMono.le_iff_le]
    omega
  have chooses := nearest_chooses positive bound low high
  generalize format.nearest numerator denominator = chosen at chooses ⊢
  cases chooses with
  | lower _ half tie =>
      have lowerHalf := (le_iff_le_of_cmp_eq_cmp side).mp half
      have nearer := lower_closest above lowerHalf outside
      refine ⟨nearer.1, fun differs same => tie ?_⟩
      exact (eq_iff_eq_of_cmp_eq_cmp side).mpr (nearer.2 differs same)
  | upper _ half tie =>
      have upperHalf := (le_iff_le_of_cmp_eq_cmp (cmp_eq_cmp_symm.mp side)).mp half
      have nearer := upper_closest below.le upperHalf outside
      refine ⟨nearer.1, fun differs same => tie ?_⟩
      exact (eq_iff_eq_of_cmp_eq_cmp side).mpr (nearer.2 differs same)

end Quotient

end Format

namespace Binary

variable {format : Format}

/-- A word is the nearest one to a number: no finite word is nearer, and if another one is equally
near, its own last digit is zero. -/
structure Nearest (x : Binary format) (q : ℚ) : Prop where
  finite : x.isFinite = true
  closest : ∀ y : Binary format, y.isFinite = true → |x.number - q| ≤ |y.number - q|
  even : ∀ y : Binary format, y.isFinite = true → y.number ≠ x.number →
    |y.number - q| = |x.number - q| → x.magnitude % 2 = 0

theorem number_eq_value (x : Binary format) : x.number = x.sign * format.value x.magnitude := by
  rw [number_eq, mul_div_assoc]
  rfl

theorem sign_mul_self_number (x : Binary format) :
    x.sign * x.number = format.value x.magnitude := by
  rw [number_eq_value]
  unfold sign
  split <;> ring

/-- Distances are the same on the side of a word. -/
theorem abs_sub_sign_mul (x : Binary format) (p q : ℚ) : |p - x.sign * q| = |x.sign * p - q| := by
  have turned : x.sign * (p - x.sign * q) = x.sign * p - q := by
    unfold sign
    split <;> ring
  rw [← turned, abs_mul, abs_sign, one_mul]

/-- The number of a word, turned to the side of another one, is a value or the opposite of one. -/
theorem sign_mul_number (x y : Binary format) :
    x.sign * y.number = format.value y.magnitude ∨
      x.sign * y.number = -format.value y.magnitude := by
  rw [number_eq_value]
  unfold sign
  cases x.negative <;> cases y.negative <;> simp

theorem sign_mul_injective (x : Binary format) {p q : ℚ} (same : x.sign * p = x.sign * q) :
    p = q := by
  have nonzero : x.sign ≠ 0 := by
    rw [← abs_pos, abs_sign]
    exact one_pos
  exact mul_left_cancel₀ nonzero same

/-- Below zero nothing is nearer to a number that is not negative than zero is. -/
theorem exists_same_side {p q : ℚ} (nonneg : 0 ≤ q) {magnitude : ℕ}
    (sized : p = format.value magnitude ∨ p = -format.value magnitude) :
    ∃ other, |format.value other - q| ≤ |p - q| ∧
      (|p - q| = |format.value other - q| → p = format.value other) := by
  rcases sized with rfl | rfl
  · exact ⟨magnitude, le_rfl, fun _ => rfl⟩
  · have value := format.value_nonneg magnitude
    refine ⟨0, ?_⟩
    rw [format.value_zero, zero_sub, abs_neg, abs_of_nonneg nonneg, abs_of_nonpos (by linarith)]
    exact ⟨by linarith, fun same => by linarith⟩

/-- What is at most the greatest finite value is rounded to the nearest word. -/
theorem nearest_ofQuotient {numerator denominator : ℕ} (positive : 0 < denominator)
    (bound : numerator ≤ format.units (format.infinity - 1) * denominator) {q : ℚ}
    (quotient : numerator = q * (denominator * 2 ^ format.unitShift)) (negative : Bool) :
    (ofQuotient format negative numerator denominator).Nearest
      ((ofQuotient format negative numerator denominator).sign * q) := by
  have nonneg : 0 ≤ q := by
    have scaled : 0 ≤ q * (denominator * 2 ^ format.unitShift) := by
      rw [← quotient]
      exact Nat.cast_nonneg _
    exact nonneg_of_mul_nonneg_left scaled (by positivity)
  have closest := Format.nearest_closest positive quotient bound
  obtain ⟨least, low, high⟩ := format.exists_between numerator positive
  have finite := (Format.nearest_chooses positive bound low high).finite
  set x := ofQuotient format negative numerator denominator
  have magnitude : x.magnitude = format.nearest numerator denominator := rfl
  rw [← magnitude] at closest finite
  have itself := x.sign_mul_self_number
  constructor
  · exact isFinite_iff.mpr finite
  · intro y _
    obtain ⟨other, nearer, -⟩ := exists_same_side nonneg (sign_mul_number x y)
    rw [abs_sub_sign_mul, abs_sub_sign_mul, itself]
    exact (closest other).1.trans nearer
  · intro y _ differs same
    obtain ⟨other, nearer, exact⟩ := exists_same_side nonneg (sign_mul_number x y)
    rw [abs_sub_sign_mul, abs_sub_sign_mul, itself] at same
    have equal := le_antisymm (same ▸ nearer) (closest other).1
    refine (closest other).2 ?_ equal
    intro value
    apply differs
    apply x.sign_mul_injective
    rw [itself, exact (same.trans equal.symm), value]

/-! ### Integers -/

theorem sign_mul_natAbs (format : Format) (value : ℤ) :
    (ofInt format value).sign * (value.natAbs : ℚ) = value := by
  have size : (value.natAbs : ℚ) = |(value : ℚ)| := by
    rw [← Int.cast_abs, Int.abs_eq_natAbs, Int.cast_natCast]
  have negative : (ofInt format value).negative = decide (value < 0) := rfl
  rw [size, sign, negative]
  rcases lt_or_ge value 0 with below | above
  · rw [if_pos (decide_eq_true below), abs_of_neg (by exact_mod_cast below)]
    ring
  · rw [if_neg (by simpa using above), abs_of_nonneg (by exact_mod_cast above), one_mul]

/-- An integer that is at most the greatest finite value is rounded to the nearest word. -/
theorem nearest_ofInt {value : ℤ}
    (bound : value.natAbs * 2 ^ format.unitShift ≤ format.units (format.infinity - 1)) :
    (ofInt format value).Nearest value := by
  have quotient : (value.natAbs * 2 ^ format.unitShift : ℕ) =
      (value.natAbs : ℚ) * ((1 : ℕ) * 2 ^ format.unitShift) := by
    push_cast
    ring
  rw [← Nat.mul_one (format.units _)] at bound
  have rounded := nearest_ofQuotient Nat.one_pos bound quotient (decide (value < 0))
  rwa [show ofQuotient format (decide (value < 0)) (value.natAbs * 2 ^ format.unitShift) 1 =
    ofInt format value from rfl, sign_mul_natAbs] at rounded

/-- An integer is the number of a word only if it is rounded to that number. -/
theorem Nearest.number_eq {x y : Binary format} {q : ℚ} (nearest : x.Nearest q)
    (finite : y.isFinite = true) (exact : y.number = q) : x.number = q := by
  have closest := nearest.closest y finite
  rw [exact, sub_self, abs_zero] at closest
  exact sub_eq_zero.mp (abs_nonpos_iff.mp closest)

end Binary

end DemandFlow
