import DemandFlow.Proofs.Binary.Exact
import DemandFlow.Value.Conversion

/-!
Contract: the numbers that values stand for, across the kinds.

Owns: the exact number of a value of any kind, and which integers the whole kinds have a value for.

Main statement: a value stands for the same number when it is widened to a scalar
(`number?_widen`).

Does not own: what narrowing a scalar comes to (`Proofs.Value.Casting` for integers and truth
values, `Proofs.Value.Truncation` for floats).
-/

namespace DemandFlow

/-- The number that a value stands for: a true value is one and a false one zero, and a float that is
not finite stands for no number. -/
def Kind.number? : (kind : Kind) → kind.Carrier → Option ℚ
  | .bool, value => some (Bool.toInt value)
  | .integer _, value => some (FixedInt.value value)
  | .float _, value => if Binary.isFinite value then some (Binary.number value) else none

/-- A kind has a value for a number. -/
def Kind.Represents (kind : Kind) (number : ℚ) : Prop :=
  ∃ value : kind.Carrier, kind.number? value = some number

def Scalar.number? : Scalar → Option ℚ
  | .bool value => some value.toInt
  | .int value => some value
  | .float value => if value.isFinite then some value.number else none

/-- A 32-bit float keeps its number when it is widened. -/
theorem Scalar.number?_toFormat (x : Binary32) :
    Scalar.number? (.float (x.toFormat .double)) = if x.isFinite then some x.number else none := by
  rw [Scalar.number?, Binary.isFinite_toFormat Format.single_widens_double]
  by_cases finite : x.isFinite = true
  · rw [if_pos finite, if_pos finite, (Binary.number_toFormat Format.single_widens_double finite).2]
  · rw [if_neg finite, if_neg finite]

/-- Widening a value to a scalar keeps its number, or keeps that it has none. -/
theorem number?_widen (kind : Kind) (value : kind.Carrier) :
    (kind.widen value).number? = kind.number? value := by
  cases kind with
  | bool => rfl
  | integer kind => rfl
  | float kind =>
      cases kind with
      | double => rfl
      | single => exact Scalar.number?_toFormat value

/-! ### Whole kinds -/

namespace Kind

/-- A value of a whole kind stands for an integer. -/
theorem exists_number?_eq {kind : Kind} (whole : kind.isBitwise = true) (value : kind.Carrier) :
    ∃ number : ℤ, kind.number? value = some (number : ℚ) := by
  cases kind with
  | bool => exact ⟨Bool.toInt value, rfl⟩
  | integer kind => exact ⟨FixedInt.value value, rfl⟩
  | float => cases whole

theorem represents_bool_iff {number : ℚ} : bool.Represents number ↔ number = 0 ∨ number = 1 := by
  constructor
  · rintro ⟨value, number⟩
    cases value with
    | false => exact .inl (Option.some.inj number).symm
    | true => exact .inr (Option.some.inj number).symm
  · rintro (rfl | rfl)
    · exact ⟨false, rfl⟩
    · exact ⟨true, rfl⟩

theorem represents_integer_iff {kind : IntegerKind} {number : ℤ} :
    (integer kind).Represents number ↔ kind.least ≤ number ∧ number ≤ kind.greatest := by
  constructor
  · rintro ⟨value, same⟩
    have same : FixedInt.value value = number := by exact_mod_cast Option.some.inj same
    rw [← same]
    exact ⟨FixedInt.least_le value, FixedInt.le_greatest value⟩
  · rintro ⟨low, high⟩
    exact ⟨⟨number, low, high⟩, rfl⟩

theorem not_represents_integer_iff {kind : IntegerKind} {number : ℤ} :
    ¬ (integer kind).Represents number ↔ number < kind.least ∨ kind.greatest < number := by
  rw [represents_integer_iff]
  omega

end Kind

end DemandFlow
