import DemandFlow.Value.Kind

/-!
Contract: integers of a fixed width.

Owns: the type of the integers that fit a kind, the check for that, and their passage to and from
words of binary digits.

Does not own: arithmetic, which is done on the integers and checked afterwards
(`Operation.Arithmetic`).
-/

namespace DemandFlow

/-- An integer that fits a kind. -/
structure FixedInt (kind : IntegerKind) where
  value : Int
  least_le : kind.least ≤ value
  le_greatest : value ≤ kind.greatest
deriving DecidableEq, Repr

namespace FixedInt

variable {kind : IntegerKind}

@[ext]
theorem ext {x y : FixedInt kind} (values : x.value = y.value) : x = y := by
  obtain ⟨_, _, _⟩ := x
  obtain ⟨_, _, _⟩ := y
  congr

/-- The integer as one of the kind, if it fits. -/
def ofInt? (kind : IntegerKind) (value : Int) : Option (FixedInt kind) :=
  if fits : kind.least ≤ value ∧ value ≤ kind.greatest then some ⟨value, fits.1, fits.2⟩
  else none

theorem ofInt?_eq_some_iff {value : Int} {x : FixedInt kind} :
    ofInt? kind value = some x ↔ x.value = value := by
  unfold ofInt?
  split
  · simp only [Option.some.injEq]
    constructor
    · rintro rfl
      rfl
    · intro same
      exact FixedInt.ext same.symm
  · rename_i outside
    simp only [reduceCtorEq, false_iff]
    rintro rfl
    exact outside ⟨x.least_le, x.le_greatest⟩

theorem ofInt?_eq_none_iff {value : Int} :
    ofInt? kind value = none ↔ value < kind.least ∨ kind.greatest < value := by
  unfold ofInt?
  split <;> rename_i fits
  · simp only [reduceCtorEq, false_iff]
    omega
  · simp only [true_iff]
    omega

/-- Zero or one. -/
def ofBool (kind : IntegerKind) (value : Bool) : FixedInt kind :=
  ⟨if value then 1 else 0, by cases kind <;> cases value <;> decide,
    by cases kind <;> cases value <;> decide⟩

instance : Inhabited (FixedInt kind) := ⟨ofBool kind false⟩

/-- The binary digits, in two's complement if the kind has a sign. -/
def toWord (x : FixedInt kind) : BitVec kind.width := BitVec.ofInt kind.width x.value

/-- The integer that a word of binary digits stands for. -/
def ofWord (word : BitVec kind.width) : FixedInt kind where
  value := if kind.isSigned then word.toInt else word.toNat
  least_le := by
    have signed := word.le_toInt
    cases kind <;>
      simp_all [IntegerKind.isSigned, IntegerKind.least, IntegerKind.width]
  le_greatest := by
    have signed := word.toInt_lt
    have unsigned := word.isLt
    cases kind <;>
      simp_all [IntegerKind.isSigned, IntegerKind.greatest, IntegerKind.width] <;> omega

end FixedInt

end DemandFlow
