/-!
Contract: hexadecimal digits.

Owns: the digit of a number below sixteen, and the number of a digit of either case.

Does not own: numbers of several digits.
-/

namespace DemandFlow.Hex

/-- The lower-case digit of a number. -/
def digit (value : Fin 16) : Char :=
  if value.val < 10 then Char.ofNat ('0'.toNat + value.val)
  else Char.ofNat ('a'.toNat + (value.val - 10))

/-- The number of a digit of either case. -/
def value? (char : Char) : Option (Fin 16) :=
  (List.finRange 16).find? fun value => digit value == char.toLower

theorem value?_digit (value : Fin 16) : value? (digit value) = some value := by
  revert value
  decide

end DemandFlow.Hex
