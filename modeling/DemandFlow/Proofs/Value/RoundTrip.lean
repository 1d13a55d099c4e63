import DemandFlow.Proofs.Value.Truncation

/-!
Contract: casts from integers to floats, and back.

Owns: which float an integer is cast to, and what the cast back comes to.

Main statement: an integer is cast to the nearest float, which is an integer, too; the cast back
gives that integer if it is in range, so it gives the first one exactly if a float stands for it
(`FixedInt.roundTrip`).

Does not own: rounding (`Proofs.Binary.Rounding`) and the cast from a float
(`Proofs.Value.Truncation`).
-/

namespace DemandFlow

namespace FixedInt

variable {kind : IntegerKind}

theorem natAbs_value_le (x : FixedInt kind) : x.value.natAbs ≤ 2 ^ 64 := by
  have low : -2 ^ 64 ≤ kind.least := by cases kind <;> decide
  have high : kind.greatest ≤ 2 ^ 64 := by cases kind <;> decide
  have atLeast := x.least_le
  have atMost := x.le_greatest
  omega

/-- Every integer of a kind is far below the greatest float. -/
theorem units_le (x : FixedInt kind) (target : FloatKind) :
    x.value.natAbs * 2 ^ target.format.unitShift ≤
      target.format.units (target.format.infinity - 1) := by
  have bound : 2 ^ 64 * 2 ^ target.format.unitShift ≤
      target.format.units (target.format.infinity - 1) := by
    cases target <;> decide +kernel
  exact (Nat.mul_le_mul_right _ x.natAbs_value_le).trans bound

theorem convert_float (x : FixedInt kind) (target : FloatKind) :
    convert (.integer kind) (.float target) x = .ok (Binary.ofInt target.format x.value) := by
  cases target <;> rfl

/-- For every integer kind and float kind: an integer is cast to the float that is nearest to it, ties
going to the even one, and that is not infinite. Its number is an integer, and the cast back gives
that one if it is in the range of the kind and is out of range if not. So the cast back gives the
integer that it began with exactly if a float stands for it, and it does for all integers that the
significand of the float kind holds. -/
theorem roundTrip (x : FixedInt kind) (target : FloatKind) :
    ∃ (float : Binary target.format) (rounded : ℤ),
      convert (.integer kind) (.float target) x = .ok float ∧
      float.Nearest x.value ∧ float.isInfinite = false ∧ float.number = rounded ∧
      (∀ back, convert (.float target) (.integer kind) float = .ok back ↔
        FixedInt.value back = rounded) ∧
      (rounded < kind.least ∨ kind.greatest < rounded →
        convert (.float target) (.integer kind) float =
          .error (.outOfRange ((Kind.float target).widen float) (.integer kind))) ∧
      (convert (.float target) (.integer kind) float = .ok x ↔
        (Kind.float target).Represents x.value) ∧
      (x.value.natAbs ≤ 2 ^ target.format.precision →
        convert (.float target) (.integer kind) float = .ok x) := by
  have bound := x.units_le target
  have nearest := Binary.nearest_ofInt bound
  obtain ⟨rounded, number⟩ := Binary.exists_number_ofInt bound
  have stands : (Kind.float target).number? (Binary.ofInt target.format x.value) =
      some (rounded : ℚ) := by
    rw [← number]
    exact if_pos nearest.finite
  have truncates := truncates_convert kind target (Binary.ofInt target.format x.value)
  rw [stands] at truncates
  have fits := truncates.fits rounded rfl
  have outside := truncates.outside rounded rfl
  rw [cut_intCast] at fits outside
  -- The cast back gives the first integer if a float stands for it, as that one is the nearest.
  have returns (float : Binary target.format) (finite : float.isFinite = true)
      (exact : float.number = x.value) :
      convert (.float target) (.integer kind) (Binary.ofInt target.format x.value) = .ok x := by
    have same := nearest.number_eq finite exact
    rw [number] at same
    exact (fits x).mpr (by exact_mod_cast same.symm)
  refine ⟨Binary.ofInt target.format x.value, rounded, x.convert_float target, nearest,
    Binary.isInfinite_of_isFinite nearest.finite, number, fits, outside, ⟨?_, ?_⟩, ?_⟩
  · intro back
    have same := (fits x).mp back
    exact ⟨Binary.ofInt target.format x.value, by rw [stands, same]⟩
  · rintro ⟨float, represents⟩
    have finite : Binary.isFinite float = true := by
      by_contra infinite
      rw [Kind.number?, if_neg infinite] at represents
      cases represents
    rw [Kind.number?, if_pos finite] at represents
    exact returns float finite (Option.some.inj represents)
  · intro short
    have significand : 2 * target.format.binade = 2 ^ target.format.precision := by
      cases target <;> decide
    rw [← significand] at short
    obtain ⟨float, finite, exact⟩ := Binary.exists_of_short short bound
    exact returns float finite exact

end FixedInt

end DemandFlow
