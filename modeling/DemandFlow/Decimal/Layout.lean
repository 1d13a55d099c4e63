import DemandFlow.Decimal.Shortest

/-!
Contract: the text of floating-point words.

Owns: positional and scientific layout of decimal digits, and the three layouts in use.

Does not own: the choice of the digits (`Decimal.Shortest`).
-/

namespace DemandFlow

namespace Decimal

/-- The exponent of the leading digit, as scientific notation writes it. -/
def leadingExponent (decimal : Decimal) : Int :=
  decimal.exponent + decimal.digits.length - 1

/-- All digits around the point, zeros filled in. A number without a fraction ends in `whole`. -/
def positional (decimal : Decimal) (whole : String) : List Char :=
  let digits := decimal.digits
  let beforePoint := decimal.exponent + digits.length
  if 0 ≤ decimal.exponent then
    digits ++ List.replicate decimal.exponent.toNat '0' ++ whole.toList
  else if 0 < beforePoint then
    digits.take beforePoint.toNat ++ '.' :: digits.drop beforePoint.toNat
  else
    '0' :: '.' :: (List.replicate (-beforePoint).toNat '0' ++ digits)

/-- The leading digit, the others behind a point, and the exponent. -/
def scientific (decimal : Decimal) : List Char :=
  let exponent := 'e' :: (toString decimal.leadingExponent).toList
  match decimal.digits with
  | [] => exponent
  | [digit] => digit :: exponent
  | digit :: rest => digit :: '.' :: (rest ++ exponent)

structure Layout where
  whole : String
  /-- Whether a number is written positionally, by the exponent of its leading digit. -/
  isPositional : Int → Bool

namespace Layout

/-- Every digit is written out and a whole number has no point. -/
def plain : Layout := ⟨"", fun _ => true⟩

/-- Every digit is written out and a whole number ends in `.0`. -/
def pointed : Layout := ⟨".0", fun _ => true⟩

/-- A whole number ends in `.0`; below `10 ^ -4` and from `10 ^ 16` on the exponent is written. -/
def inspection : Layout := ⟨".0", fun exponent => -4 ≤ exponent && exponent < 16⟩

def text (layout : Layout) (decimal : Decimal) : List Char :=
  if layout.isPositional decimal.leadingExponent then decimal.positional layout.whole
  else decimal.scientific

end Layout

end Decimal

namespace Binary

variable {format : Format}

/-- The text of a word in a layout. What is not a number has no sign. -/
def text (x : Binary format) (layout : Decimal.Layout) : String :=
  if x.isNaN then "NaN"
  else
    let sign := if x.negative then "-" else ""
    if x.isInfinite then sign ++ "inf"
    else sign ++ String.ofList (layout.text (format.shortest x.magnitude))

end Binary

end DemandFlow
