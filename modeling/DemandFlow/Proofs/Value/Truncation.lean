import DemandFlow.Proofs.Value.Number

/-!
Contract: casts from floats to integers.

Owns: what a float comes to as an integer of a kind, and that the limit on floats and the passage
through 128 binary digits are never seen in it.

Main statement: a float that is not finite is refused as such, and a finite one is cut toward zero
and then fits the kind or is out of its range (`Scalar.toInteger_truncates`).

Does not own: the exact numbers of words (`Proofs.Binary.Number`).
-/

namespace DemandFlow

/-! ### The limit -/

/-- The limit as an integer. -/
def wholeLimit : ℤ := 99999999999999997748809823456034029568

theorem wholePartLimit_units : Scalar.wholePartLimit.units =
    wholeLimit.natAbs * 2 ^ Format.double.unitShift := by decide +kernel

theorem wholePartLimit_isFinite : Scalar.wholePartLimit.isFinite = true := by decide +kernel

theorem wholePartLimit_abs : Scalar.wholePartLimit.abs = Scalar.wholePartLimit := rfl

theorem abs_number_wholePartLimit : |Scalar.wholePartLimit.number| = wholeLimit := by
  rw [Binary.abs_number, wholePartLimit_units]
  push_cast
  rw [mul_div_cancel_right₀ _ (by positivity)]
  rfl

/-- Every integer kind lies within the limit, and the limit within 128 binary digits. -/
theorem IntegerKind.neg_wholeLimit_lt_least (kind : IntegerKind) : -wholeLimit < kind.least := by
  cases kind <;> decide

theorem IntegerKind.greatest_lt_wholeLimit (kind : IntegerKind) : kind.greatest < wholeLimit := by
  cases kind <;> decide

theorem wholeLimit_lt : wholeLimit < 2 ^ 127 := by decide

/-- What reaches the limit is out of the range of every integer kind. -/
theorem IntegerKind.outside_of_wholeLimit_le (kind : IntegerKind) {whole : ℤ}
    (beyond : wholeLimit ≤ |whole|) : whole < kind.least ∨ kind.greatest < whole := by
  have low := kind.neg_wholeLimit_lt_least
  have high := kind.greatest_lt_wholeLimit
  rcases le_abs'.mp beyond with under | above
  · exact .inl (by omega)
  · exact .inr (by omega)

section Finite

variable {x : Binary64} (finite : x.isFinite = true)

include finite

/-- The word without a fraction is at least as great as the limit exactly if the whole part is. -/
theorem limit_atMost_trunc_iff :
    Scalar.wholePartLimit.atMost x.trunc.abs = true ↔ wholeLimit ≤ |cut x.number| := by
  obtain ⟨finiteWhole, number⟩ := Binary.number_trunc finite
  rw [← wholePartLimit_abs, Binary.atMost_abs_iff wholePartLimit_isFinite finiteWhole,
    abs_number_wholePartLimit, number, Binary.wholePart_eq]
  exact_mod_cast Iff.rfl

/-- Below the limit 128 binary digits hold the whole part. -/
theorem toIntSaturating_trunc (below : |cut x.number| < wholeLimit) :
    x.trunc.toIntSaturating 128 = cut x.number := by
  obtain ⟨finiteWhole, number⟩ := Binary.number_trunc finite
  have whole : x.trunc.wholePart = cut x.number := by
    rw [Binary.wholePart_eq, number, cut_intCast, Binary.wholePart_eq]
  have bound := below.trans wholeLimit_lt
  rw [abs_lt] at bound
  rw [Binary.toIntSaturating, Binary.isNaN_of_isFinite finiteWhole,
    Binary.isInfinite_of_isFinite finiteWhole, whole]
  show max (-2 ^ 127) (min (cut x.number) (2 ^ 127 - 1)) = cut x.number
  omega

/-- A finite float is cut toward zero and then has to fit. -/
theorem toInteger_of_isFinite (kind : IntegerKind) :
    (Scalar.float x).toInteger kind = (Scalar.float x).fit kind (cut x.number) := by
  have notRefused : (!x.isFinite) = false := by rw [finite]; rfl
  rw [Scalar.toInteger, if_neg (by simp [notRefused])]
  rcases lt_or_ge |cut x.number| wholeLimit with below | beyond
  · have passes := mt (limit_atMost_trunc_iff finite).mp below.not_ge
    rw [if_neg passes, toIntSaturating_trunc finite below]
  · rw [if_pos ((limit_atMost_trunc_iff finite).mpr beyond)]
    exact (Scalar.fit_eq_error (kind.outside_of_wholeLimit_le beyond)).symm

end Finite

/-! ### Casts from floats -/

/-- What a float with a number, or without one if it is not finite, comes to as an integer of a
kind. A refusal reports the scalar. -/
structure Truncates (kind : IntegerKind) (scalar : Scalar) (number? : Option ℚ)
    (result : Except ConversionError (FixedInt kind)) : Prop where
  notFinite : number? = none → result = .error (.notFinite scalar (.integer kind))
  fits : ∀ number, number? = some number → ∀ fixed, result = .ok fixed ↔ fixed.value = cut number
  outside : ∀ number, number? = some number →
    cut number < kind.least ∨ kind.greatest < cut number →
      result = .error (.outOfRange scalar (.integer kind))

theorem truncates_float (kind : IntegerKind) (x : Binary64) :
    Truncates kind (.float x) (Scalar.number? (.float x)) ((Scalar.float x).toInteger kind) := by
  cases finite : x.isFinite with
  | true =>
      have stands : Scalar.number? (.float x) = some x.number := if_pos finite
      rw [stands, toInteger_of_isFinite finite]
      constructor
      · intro impossible
        cases impossible
      · rintro _ ⟨⟩ fixed
        exact Scalar.fit_eq_ok_iff
      · rintro _ ⟨⟩ outside
        exact Scalar.fit_eq_error outside
  | false =>
      have stands : Scalar.number? (.float x) = none := by simp [Scalar.number?, finite]
      rw [stands]
      constructor
      · intro _
        rw [Scalar.toInteger, finite]
        rfl
      · rintro _ ⟨⟩
      · rintro _ ⟨⟩

/-- A float of either kind widens to a 64-bit float. -/
theorem exists_widen_float (source : FloatKind) (value : (Kind.float source).Carrier) :
    ∃ x : Binary64, (Kind.float source).widen value = .float x := by
  cases source with
  | single => exact ⟨_, rfl⟩
  | double => exact ⟨_, rfl⟩

/-- A cast from a float kind is told by the number of the value, however wide it is. -/
theorem truncates_convert (kind : IntegerKind) (source : FloatKind)
    (value : (Kind.float source).Carrier) :
    Truncates kind ((Kind.float source).widen value) ((Kind.float source).number? value)
      (convert (.float source) (.integer kind) value) := by
  obtain ⟨x, widened⟩ := exists_widen_float source value
  rw [← number?_widen, convert, widened]
  exact truncates_float kind x

/-- For every 64-bit float and integer kind: a float that is not finite is refused as such; else it
comes to its number cut toward zero if that is in the range of the kind, and is out of range if not.
So it is for every cast from a float kind, with the number of the value that is cast. The limit
refuses no float whose whole part is in the range of the kind, and what it lets through is held by
128 binary digits. -/
theorem Scalar.toInteger_truncates (kind : IntegerKind) :
    (∀ x : Binary64,
      Truncates kind (.float x) (Scalar.number? (.float x)) ((Scalar.float x).toInteger kind)) ∧
    (∀ (source : FloatKind) (value : (Kind.float source).Carrier),
      Truncates kind ((Kind.float source).widen value) ((Kind.float source).number? value)
        (convert (.float source) (.integer kind) value)) ∧
    ∀ x : Binary64, x.isFinite = true →
      (wholePartLimit.atMost x.trunc.abs = true →
        cut x.number < kind.least ∨ kind.greatest < cut x.number) ∧
      (wholePartLimit.atMost x.trunc.abs = false →
        -2 ^ 127 ≤ cut x.number ∧ cut x.number ≤ 2 ^ 127 - 1 ∧
          x.trunc.toIntSaturating 128 = cut x.number) := by
  refine ⟨truncates_float kind, truncates_convert kind, fun x finite => ⟨?_, ?_⟩⟩
  · intro refused
    exact kind.outside_of_wholeLimit_le ((limit_atMost_trunc_iff finite).mp refused)
  · intro passes
    have below : |cut x.number| < wholeLimit := by
      rw [← not_le, ← limit_atMost_trunc_iff finite, passes]
      exact Bool.false_ne_true
    have bound := abs_lt.mp (below.trans wholeLimit_lt)
    exact ⟨bound.1.le, by omega, toIntSaturating_trunc finite below⟩

end DemandFlow
