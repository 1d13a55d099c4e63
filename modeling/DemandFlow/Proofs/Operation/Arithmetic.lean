import DemandFlow.Operation.Arithmetic
import DemandFlow.Proofs.Binary.Number

/-!
Contract: arithmetic on integers of a kind is exact, or fails.

Owns: what the four operations yield on numbers, and which failures an operation on integers of a
kind has.

Main statement: an operation has a result exactly if the number that it yields lies in the range of
the kind; it divides by zero exactly where it yields no number; and in all other cases it overflows,
which for a quotient is a single case of the kinds with a sign (`ArithmeticOp.onIntegers_exact`).

Does not own: arithmetic on floats, and how a node reports the failure
(`Proofs.Evaluation.Failure`).
-/

namespace DemandFlow

/-! ### Numbers -/

/-- The integer that an operation yields on two integers. A quotient is taken of the rational numbers
and cut toward zero, and there is none by zero. -/
inductive ArithmeticOp.Yields : ArithmeticOp → ℤ → ℤ → ℤ → Prop where
  | sum (x y : ℤ) : Yields .add x y (x + y)
  | difference (x y : ℤ) : Yields .subtract x y (x - y)
  | product (x y : ℤ) : Yields .multiply x y (x * y)
  | quotient (x : ℤ) {y : ℤ} (notZero : y ≠ 0) : Yields .divide x y (cut (x / y))

theorem cut_natCast_div (n d : ℕ) : cut ((n : ℚ) / d) = (n : ℤ).tdiv d := by
  have nonneg : ¬ (n : ℚ) / d < 0 := not_lt.mpr (by positivity)
  rw [cut, if_neg nonneg, Rat.floor_natCast_div_natCast]
  rfl

/-- Dividing integers toward zero is cutting the rational quotient toward zero. -/
theorem cut_intCast_div (x y : ℤ) : cut ((x : ℚ) / y) = x.tdiv y := by
  obtain ⟨n, rfl | rfl⟩ := x.eq_nat_or_neg <;> obtain ⟨d, rfl | rfl⟩ := y.eq_nat_or_neg
  · push_cast
    exact cut_natCast_div n d
  · push_cast
    rw [div_neg, cut_neg, cut_natCast_div, Int.tdiv_neg]
  · push_cast
    rw [neg_div, cut_neg, cut_natCast_div, Int.neg_tdiv]
  · push_cast
    rw [neg_div_neg_eq, cut_natCast_div, Int.tdiv_neg, Int.neg_tdiv, neg_neg]

namespace ArithmeticOp

/-- An operation yields its exact result, where it is not a division by zero. -/
theorem yields_iff {op : ArithmeticOp} {x y result : ℤ} :
    op.Yields x y result ↔ ¬ (op = .divide ∧ y = 0) ∧ op.exact x y = result := by
  constructor
  · rintro (_ | _ | _ | ⟨_, notZero⟩)
    · exact ⟨nofun, rfl⟩
    · exact ⟨nofun, rfl⟩
    · exact ⟨nofun, rfl⟩
    · exact ⟨fun divides => notZero divides.2, (cut_intCast_div x y).symm⟩
  · rintro ⟨defined, rfl⟩
    cases op with
    | add => exact .sum x y
    | subtract => exact .difference x y
    | multiply => exact .product x y
    | divide =>
        have notZero : y ≠ 0 := fun zero => defined ⟨rfl, zero⟩
        have quotient := Yields.quotient x notZero
        rwa [cut_intCast_div] at quotient

/-- An operation yields one number at most. -/
theorem Yields.unique {op : ArithmeticOp} {x y first second : ℤ} (yields : op.Yields x y first)
    (yieldsToo : op.Yields x y second) : first = second :=
  (yields_iff.mp yields).2.symm.trans (yields_iff.mp yieldsToo).2

theorem not_yields_zero {x number : ℤ} : ¬ divide.Yields x 0 number := fun yields =>
  (yields_iff.mp yields).1 ⟨rfl, rfl⟩

end ArithmeticOp

/-! ### Ranges -/

namespace IntegerKind

theorem least_of_isSigned {kind : IntegerKind} (signed : kind.isSigned = true) :
    kind.least = -(kind.greatest + 1) := by
  simp [least, greatest, signed]

theorem least_of_unsigned {kind : IntegerKind} (unsigned : kind.isSigned = false) :
    kind.least = 0 := by
  simp [least, unsigned]

theorem greatest_pos (kind : IntegerKind) : 0 < kind.greatest := by
  cases kind <;> decide

end IntegerKind

/-- The one quotient that leaves the range of a kind is that of its least number, if that is
negative, by minus one. -/
theorem FixedInt.quotient_outside_iff {kind : IntegerKind} (x y : FixedInt kind) :
    (x.value.tdiv y.value < kind.least ∨ kind.greatest < x.value.tdiv y.value) ↔
      kind.isSigned = true ∧ x.value = kind.least ∧ y.value = -1 := by
  obtain ⟨x, lowX, highX⟩ := x
  obtain ⟨y, lowY, highY⟩ := y
  have positive := kind.greatest_pos
  dsimp only
  have size : (x.tdiv y).natAbs ≤ x.natAbs := Int.natAbs_tdiv_le_natAbs x y
  cases signed : kind.isSigned with
  | false =>
      rw [IntegerKind.least_of_unsigned signed] at lowX lowY ⊢
      have nonneg : 0 ≤ x.tdiv y := Int.tdiv_nonneg lowX lowY
      simp only [Bool.false_eq_true, false_and, iff_false]
      omega
  | true =>
      rw [IntegerKind.least_of_isSigned signed] at lowX ⊢
      simp only [true_and]
      constructor
      · intro outside
        -- The quotient is as great as the least number, so the divisor cannot make it smaller.
        have least : x = -(kind.greatest + 1) := by omega
        have halved (large : 2 ≤ y.natAbs) : (x.tdiv y).natAbs ≤ x.natAbs / 2 := by
          rw [Int.natAbs_tdiv]
          exact Nat.div_le_div_left large (by decide)
        have notZero : y ≠ 0 := by
          rintro rfl
          rw [Int.tdiv_zero] at outside
          omega
        have notOne : y ≠ 1 := by
          rintro rfl
          rw [Int.tdiv_one] at outside
          omega
        exact ⟨least, by omega⟩
      · rintro ⟨rfl, rfl⟩
        rw [Int.tdiv_neg, Int.tdiv_one]
        omega

/-! ### Operations -/

namespace ArithmeticOp

variable {kind : IntegerKind}

/-- The three outcomes of an operation on integers of a kind, told by the number that it yields. -/
theorem onIntegers_cases (op : ArithmeticOp) (x y : FixedInt kind) :
    (op = .divide ∧ y.value = 0 ∧ op.onIntegers x y = .error .divisionByZero) ∨
    (∃ result : FixedInt kind, op.Yields x.value y.value result.value ∧
      op.onIntegers x y = .ok result) ∨
    ∃ number, op.Yields x.value y.value number ∧
      (number < kind.least ∨ kind.greatest < number) ∧ op.onIntegers x y = .error .overflow := by
  unfold onIntegers
  by_cases undefined : op = .divide ∧ y.value = 0
  · rw [if_pos undefined]
    exact .inl ⟨undefined.1, undefined.2, rfl⟩
  rw [if_neg undefined]
  cases fits : FixedInt.ofInt? kind (op.exact x.value y.value) with
  | some result =>
      have value := FixedInt.ofInt?_eq_some_iff.mp fits
      exact .inr (.inl ⟨result, yields_iff.mpr ⟨undefined, value.symm⟩, rfl⟩)
  | none =>
      have outside := FixedInt.ofInt?_eq_none_iff.mp fits
      exact .inr (.inr ⟨_, yields_iff.mpr ⟨undefined, rfl⟩, outside, rfl⟩)

variable {op : ArithmeticOp} {x y : FixedInt kind}

theorem onIntegers_eq_ok_iff_yields {result : FixedInt kind} :
    op.onIntegers x y = .ok result ↔ op.Yields x.value y.value result.value := by
  rcases op.onIntegers_cases x y with
    ⟨rfl, zero, fails⟩ | ⟨found, yields, succeeds⟩ | ⟨number, yields, outside, fails⟩
  · rw [fails, zero]
    exact iff_of_false nofun not_yields_zero
  · rw [succeeds, Except.ok.injEq]
    constructor
    · rintro rfl
      exact yields
    · exact fun yieldsToo => FixedInt.ext (yields.unique yieldsToo)
  · rw [fails]
    refine iff_of_false nofun fun yieldsToo => ?_
    rw [yields.unique yieldsToo] at outside
    exact outside.elim result.least_le.not_gt result.le_greatest.not_gt

theorem onIntegers_eq_divisionByZero_iff :
    op.onIntegers x y = .error .divisionByZero ↔ op = .divide ∧ y.value = 0 := by
  constructor
  · intro divides
    rcases op.onIntegers_cases x y with
      ⟨isDivide, zero, -⟩ | ⟨found, -, succeeds⟩ | ⟨number, -, -, fails⟩
    · exact ⟨isDivide, zero⟩
    · cases divides.symm.trans succeeds
    · cases divides.symm.trans fails
  · exact fun divides => if_pos divides

theorem onIntegers_eq_overflow_iff :
    op.onIntegers x y = .error .overflow ↔
      ∃ number, op.Yields x.value y.value number ∧
        (number < kind.least ∨ kind.greatest < number) := by
  constructor
  · intro overflows
    rcases op.onIntegers_cases x y with
      ⟨-, -, fails⟩ | ⟨found, -, succeeds⟩ | ⟨number, yields, outside, -⟩
    · cases overflows.symm.trans fails
    · cases overflows.symm.trans succeeds
    · exact ⟨number, yields, outside⟩
  · rintro ⟨number, yields, outside⟩
    obtain ⟨defined, rfl⟩ := yields_iff.mp yields
    rw [onIntegers, if_neg defined, FixedInt.ofInt?_eq_none_iff.mpr outside]

/-- A quotient overflows in a single case. -/
theorem divide_onIntegers_eq_overflow_iff :
    divide.onIntegers x y = .error .overflow ↔
      kind.isSigned = true ∧ x.value = kind.least ∧ y.value = -1 := by
  rw [onIntegers_eq_overflow_iff, ← FixedInt.quotient_outside_iff]
  constructor
  · rintro ⟨number, yields, outside⟩
    rwa [← (yields_iff.mp yields).2] at outside
  · intro outside
    have notZero : y.value ≠ 0 := by
      intro zero
      rw [FixedInt.quotient_outside_iff, zero] at outside
      cases outside.2.2
    exact ⟨_, .quotient x.value notZero, by rwa [cut_intCast_div]⟩

/-- For every integer kind, operation and operands: the operation succeeds exactly with the number
that it yields, so exactly if that lies in the range of the kind; it divides by zero exactly if it
is a division and the divisor is zero; it overflows exactly if what it yields is out of range, which
for a quotient means a kind with a sign, its least number, and minus one; and it fails in no other
way. -/
theorem onIntegers_exact (op : ArithmeticOp) (x y : FixedInt kind) :
    (∀ result, op.onIntegers x y = .ok result ↔ op.Yields x.value y.value result.value) ∧
    ((∃ result, op.onIntegers x y = .ok result) ↔
      ∃ number, op.Yields x.value y.value number ∧
        kind.least ≤ number ∧ number ≤ kind.greatest) ∧
    (op.onIntegers x y = .error .divisionByZero ↔ op = .divide ∧ y.value = 0) ∧
    (op.onIntegers x y = .error .overflow ↔
      ∃ number, op.Yields x.value y.value number ∧
        (number < kind.least ∨ kind.greatest < number)) ∧
    (∀ cause, op.onIntegers x y = .error cause → cause = .divisionByZero ∨ cause = .overflow) ∧
    (divide.onIntegers x y = .error .overflow ↔
      kind.isSigned = true ∧ x.value = kind.least ∧ y.value = -1) := by
  refine ⟨fun result => onIntegers_eq_ok_iff_yields, ?_, onIntegers_eq_divisionByZero_iff,
    onIntegers_eq_overflow_iff, ?_, divide_onIntegers_eq_overflow_iff⟩
  · constructor
    · rintro ⟨result, succeeds⟩
      exact ⟨result.value, onIntegers_eq_ok_iff_yields.mp succeeds, result.least_le,
        result.le_greatest⟩
    · rintro ⟨number, yields, low, high⟩
      exact ⟨⟨number, low, high⟩, onIntegers_eq_ok_iff_yields.mpr yields⟩
  · intro cause fails
    rcases op.onIntegers_cases x y with
      ⟨-, -, divides⟩ | ⟨found, -, succeeds⟩ | ⟨number, -, -, overflows⟩
    · exact .inl (Except.error.inj (fails.symm.trans divides))
    · cases fails.symm.trans succeeds
    · exact .inr (Except.error.inj (fails.symm.trans overflows))

end ArithmeticOp

end DemandFlow
