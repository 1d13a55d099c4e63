import DemandFlow.Proofs.Association
import DemandFlow.Text.Hex
import Mathlib.Data.List.FinRange
import Mathlib.Data.List.TakeWhile

/-!
Contract: hexadecimal digits, and numbers of several digits, read back digit by digit.

Owns: which characters are digits, the digits of a number in a base up to sixteen as hexadecimal
digits, and what any reader that goes through them makes of them.

Does not own: the readers (`Script.valueInBase?`, `Script.Quotation.hexValue?`).
-/

namespace DemandFlow.Hex

theorem digit_injective : Function.Injective digit := fun value other same => by
  have values : value? (digit value) = value? (digit other) := congrArg value? same
  rw [value?_digit, value?_digit] at values
  exact Option.some.inj values

/-- A character is a digit of a number if it is the number's digit when written in lower case. -/
theorem value?_eq_some_iff {char : Char} {value : Fin 16} :
    value? char = some value ↔ char.toLower = digit value := by
  constructor
  · intro found
    exact (by simpa using List.find?_some found : digit value = char.toLower).symm
  · intro lower
    unfold value?
    rw [lower]
    exact (find?_eq_some_iff_mem ((List.nodup_finRange 16).map digit_injective)).mpr
      ⟨List.mem_finRange value, rfl⟩

theorem value?_digitChar (value : Fin 16) : value? (Nat.digitChar value) = some value := by
  revert value
  decide

/-- A reader that takes a digit by multiplying with the base and adding reads the digits of a number
as that number. -/
theorem foldlM_toDigits {base : Nat} (large : 1 < base) {step : Nat → Char → Option Nat}
    (steps : ∀ value digit, digit < base →
      step value (Nat.digitChar digit) = some (value * base + digit)) (number : Nat) :
    (Nat.toDigits base number).foldlM step 0 = some number := by
  induction number using Nat.strongRecOn with
  | ind number inductionHypothesis =>
    rw [Nat.toDigits_eq_if large]
    split
    · rename_i single
      simp [steps 0 number single]
    · rename_i several
      have shorter : number / base < number := Nat.div_lt_self (by omega) large
      rw [List.foldlM_append, inductionHypothesis _ shorter]
      have last := steps (number / base) (number % base) (Nat.mod_lt _ (by omega))
      simp [last, Nat.div_add_mod']

/-- Every digit of a number is the digit of a value below the base. -/
theorem exists_of_mem_toDigits {base number : Nat} (large : 1 < base) {char : Char}
    (mem : char ∈ Nat.toDigits base number) : ∃ digit < base, char = Nat.digitChar digit := by
  induction number using Nat.strongRecOn with
  | ind number inductionHypothesis =>
    rw [Nat.toDigits_eq_if large] at mem
    split at mem
    · rename_i single
      exact ⟨number, single, List.mem_singleton.mp mem⟩
    · rename_i several
      rcases List.mem_append.mp mem with leading | last
      · exact inductionHypothesis _ (Nat.div_lt_self (by omega) large) leading
      · exact ⟨number % base, Nat.mod_lt _ (by omega), List.mem_singleton.mp last⟩

/-- A decimal digit is the digit of a value. -/
theorem exists_digitChar {char : Char} (isDigit : char.isDigit = true) :
    ∃ digit : Fin 10, char = Nat.digitChar digit := by
  have bounds : 48 ≤ char.toNat ∧ char.toNat ≤ 57 := by
    simpa [Char.isDigit, UInt32.le_iff_toNat_le] using isDigit
  refine ⟨⟨char.toNat - 48, by omega⟩, Char.toNat_inj.mp ?_⟩
  rw [Nat.toNat_digitChar_of_lt_ten (by dsimp only; omega)]
  dsimp only
  omega

end DemandFlow.Hex
