import DemandFlow.Decimal.Layout
import DemandFlow.Proofs.Decimal.Shortest
import Mathlib.Data.List.TakeWhile

/-!
Contract: the text of a decimal with a point, read back.

Owns: what the digits around a point are read as, the two parts of a text that always has a point,
and the decimal such a text is read as.

Main statements:
- `Decimal.readUnsigned?_text`: the text is read as the decimal with at least one place behind the
  point;
- `Decimal.Within.pointed`: that place changes nothing about the words that the decimal rounds to.

Does not own: signs, separators and suffixes (`Proofs.Script.Number`).
-/

namespace DemandFlow

namespace Decimal

/-! ### Digits -/

theorem digitsValue_eq (digits : List Char) :
    digitsValue digits = Nat.ofDigitChars 10 digits 0 := by
  rw [Nat.ofDigitChars_eq_foldl]
  unfold digitsValue
  congr 1
  funext value digit
  rw [Nat.mul_comm]

theorem digitsValue_zeros (digits : List Char) (count : Nat) :
    digitsValue (digits ++ List.replicate count '0') = digitsValue digits * 10 ^ count := by
  rw [digitsValue_eq, Nat.ofDigitChars_append, Nat.ofDigitChars_replicate_zero, ← digitsValue_eq,
    Nat.mul_comm]

theorem digitsValue_leading_zeros (count : Nat) (digits : List Char) :
    digitsValue (List.replicate count '0' ++ digits) = digitsValue digits := by
  rw [digitsValue_eq, Nat.ofDigitChars_append, Nat.ofDigitChars_replicate_zero, Nat.mul_zero,
    ← digitsValue_eq]

theorem digitsValue_digits (decimal : Decimal) :
    digitsValue decimal.digits = decimal.coefficient := by
  rw [digitsValue_eq]
  exact Nat.ofDigitChars_ten_toDigits

theorem isDigit_of_mem_digits {decimal : Decimal} {char : Char} (mem : char ∈ decimal.digits) :
    char.isDigit = true :=
  Nat.isDigit_of_mem_toDigits (by decide) (by decide) mem

/-! ### The two parts of a text with a point -/

/-- The same number with at least one place behind the point. -/
def pointed (decimal : Decimal) : Decimal :=
  if 0 ≤ decimal.exponent then ⟨decimal.coefficient * 10 ^ (decimal.exponent.toNat + 1), -1⟩
  else decimal

/-- The digits before and behind a point. There are some on either side. -/
structure Parts where
  whole : List Char
  fraction : List Char
  whole_ne_nil : whole ≠ []
  fraction_ne_nil : fraction ≠ []
  isDigit_whole : ∀ char ∈ whole, char.isDigit = true
  isDigit_fraction : ∀ char ∈ fraction, char.isDigit = true

namespace Parts

def text (parts : Parts) : List Char := parts.whole ++ '.' :: parts.fraction

/-- The number that the digits stand for. -/
def decimal (parts : Parts) : Decimal :=
  ⟨digitsValue (parts.whole ++ parts.fraction), -(parts.fraction.length : Int)⟩

theorem readUnsigned?_text (parts : Parts) : readUnsigned? parts.text = some parts.decimal := by
  have noDigit : Char.isDigit '.' = false := by decide
  have whole : parts.text.takeWhile Char.isDigit = parts.whole := by
    rw [text, List.takeWhile_append_of_pos parts.isDigit_whole,
      List.takeWhile_cons_of_neg (by simp), List.append_nil]
  have point : parts.text.dropWhile Char.isDigit = '.' :: parts.fraction := by
    rw [text, List.dropWhile_append_of_pos parts.isDigit_whole,
      List.dropWhile_cons_of_neg (by simp)]
  have fraction : parts.fraction.takeWhile Char.isDigit = parts.fraction :=
    List.takeWhile_eq_self_iff.mpr parts.isDigit_fraction
  have behind : parts.fraction.dropWhile Char.isDigit = [] :=
    List.dropWhile_eq_nil_iff.mpr parts.isDigit_fraction
  have someDigit : (parts.whole ++ parts.fraction).isEmpty = false := by
    simp [parts.whole_ne_nil]
  unfold readUnsigned?
  rw [whole, point]
  simp only [fraction, behind, someDigit, readExponent?, Bool.false_eq_true, if_false,
    Option.map_some, decimal, zero_sub]

end Parts

/-! ### The layouts with a point -/

theorem digits_ne_nil (decimal : Decimal) : decimal.digits ≠ [] := Nat.toDigits_ne_nil

theorem isDigit_of_mem_zeros {count : Nat} {char : Char} (mem : char ∈ List.replicate count '0') :
    char.isDigit = true := by
  rw [(List.mem_replicate.mp mem).2]
  decide

/-- Every digit stands before the point. -/
def wholeParts (decimal : Decimal) : Parts where
  whole := decimal.digits ++ List.replicate decimal.exponent.toNat '0'
  fraction := ['0']
  whole_ne_nil := by simp [decimal.digits_ne_nil]
  fraction_ne_nil := by simp
  isDigit_whole _ mem :=
    (List.mem_append.mp mem).elim isDigit_of_mem_digits isDigit_of_mem_zeros
  isDigit_fraction _ mem := isDigit_of_mem_zeros (show _ ∈ List.replicate 1 '0' from mem)

/-- The point stands behind that many digits. -/
def splitParts (decimal : Decimal) (count : Nat) (someBefore : 0 < count)
    (someBehind : count < decimal.digits.length) : Parts where
  whole := decimal.digits.take count
  fraction := decimal.digits.drop count
  whole_ne_nil := by
    simp [List.take_eq_nil_iff, decimal.digits_ne_nil]
    omega
  fraction_ne_nil := by
    simp [List.drop_eq_nil_iff]
    omega
  isDigit_whole _ mem := isDigit_of_mem_digits (List.mem_of_mem_take mem)
  isDigit_fraction _ mem := isDigit_of_mem_digits (List.mem_of_mem_drop mem)

/-- Every digit stands behind the point and that many zeros. -/
def smallParts (decimal : Decimal) (count : Nat) : Parts where
  whole := ['0']
  fraction := List.replicate count '0' ++ decimal.digits
  whole_ne_nil := by simp
  fraction_ne_nil := by simp [decimal.digits_ne_nil]
  isDigit_whole _ mem := isDigit_of_mem_zeros (show _ ∈ List.replicate 1 '0' from mem)
  isDigit_fraction _ mem :=
    (List.mem_append.mp mem).elim isDigit_of_mem_zeros isDigit_of_mem_digits

theorem decimal_wholeParts (decimal : Decimal) :
    decimal.wholeParts.decimal =
      ⟨decimal.coefficient * 10 ^ (decimal.exponent.toNat + 1), -1⟩ := by
  show (⟨digitsValue (decimal.digits ++ List.replicate decimal.exponent.toNat '0' ++ ['0']), -1⟩ :
    Decimal) = _
  rw [List.append_assoc, ← List.replicate_succ', digitsValue_zeros, digitsValue_digits]

theorem decimal_splitParts (decimal : Decimal) {count : Nat} (someBefore : 0 < count)
    (someBehind : count < decimal.digits.length) :
    (decimal.splitParts count someBefore someBehind).decimal =
      ⟨decimal.coefficient, count - decimal.digits.length⟩ := by
  unfold Parts.decimal splitParts
  rw [List.take_append_drop, digitsValue_digits, List.length_drop]
  congr 1
  omega

theorem decimal_smallParts (decimal : Decimal) (count : Nat) :
    (decimal.smallParts count).decimal =
      ⟨decimal.coefficient, -(count + decimal.digits.length)⟩ := by
  have zeros : ['0'] ++ (List.replicate count '0' ++ decimal.digits) =
      List.replicate (count + 1) '0' ++ decimal.digits := rfl
  unfold Parts.decimal smallParts
  rw [zeros, digitsValue_leading_zeros, digitsValue_digits, List.length_append,
    List.length_replicate, Nat.cast_add]

/-- The text of a decimal that has a point in any case. -/
theorem exists_parts (decimal : Decimal) :
    ∃ parts : Parts,
      Layout.pointed.text decimal = parts.text ∧ parts.decimal = decimal.pointed := by
  show ∃ parts : Parts, decimal.positional ".0" = parts.text ∧ _
  unfold positional pointed
  dsimp only
  by_cases whole : 0 ≤ decimal.exponent
  · rw [if_pos whole, if_pos whole]
    exact ⟨decimal.wholeParts, rfl, decimal.decimal_wholeParts⟩
  rw [if_neg whole, if_neg whole]
  by_cases inside : 0 < decimal.exponent + decimal.digits.length
  · rw [if_pos inside]
    refine ⟨decimal.splitParts _ (by omega) (by omega), rfl, ?_⟩
    rw [decimal_splitParts]
    congr 1
    omega
  · rw [if_neg inside]
    refine ⟨decimal.smallParts _, rfl, ?_⟩
    rw [decimal_smallParts]
    congr 1
    omega

theorem readUnsigned?_text (decimal : Decimal) :
    readUnsigned? (Layout.pointed.text decimal) = some decimal.pointed := by
  obtain ⟨parts, textEq, decimalEq⟩ := decimal.exists_parts
  rw [textEq, ← decimalEq, parts.readUnsigned?_text]

/-- A place behind the point more changes nothing about the words that a decimal rounds to. -/
theorem Within.pointed {format : Format} {magnitude : Nat} {decimal : Decimal}
    (within : decimal.Within format magnitude) : decimal.pointed.Within format magnitude := by
  obtain ⟨power, exponent, contained⟩ := within
  unfold Decimal.pointed
  split
  · have shift := format.one_le_unitShift
    refine ⟨format.unitShift - 1, by dsimp only; omega, ?_⟩
    have split : decimal.exponent.toNat + 1 + (format.unitShift - 1) = power := by omega
    rw [Nat.mul_assoc, ← Nat.pow_add, split]
    exact contained
  · exact ⟨power, exponent, contained⟩

end Decimal

end DemandFlow
