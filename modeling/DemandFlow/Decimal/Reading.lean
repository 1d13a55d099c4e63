import DemandFlow.Binary.Round
import DemandFlow.Decimal.Shortest

/-!
Contract: floating-point words from decimal text.

Owns: the grammar of decimal numbers and the rounding of a decimal to a word.

Does not own: separators, suffixes and names of special values, which are the business of the
notation that holds the number.
-/

namespace DemandFlow

namespace Decimal

def digitsValue (digits : List Char) : Nat :=
  digits.foldl (fun value digit => value * 10 + (digit.toNat - '0'.toNat)) 0

/-- Splits off a sign; true if it is a minus. -/
def splitSign : List Char → Bool × List Char
  | '-' :: rest => (true, rest)
  | '+' :: rest => (false, rest)
  | text => (false, text)

/-- An exponent mark with its signed digits, or nothing at all. -/
def readExponent? : List Char → Option Int
  | [] => some 0
  | mark :: rest =>
      let (negative, digits) := splitSign rest
      if (mark == 'e' || mark == 'E') && !digits.isEmpty && digits.all Char.isDigit then
        some (if negative then -(digitsValue digits : Int) else digitsValue digits)
      else none

/-- Reads digits with an optional point and an optional exponent. There is a digit before the
exponent, on either side of the point. -/
def readUnsigned? (text : List Char) : Option Decimal :=
  let whole := text.takeWhile Char.isDigit
  let (fraction, rest) :=
    match text.dropWhile Char.isDigit with
    | '.' :: after => (after.takeWhile Char.isDigit, after.dropWhile Char.isDigit)
    | after => ([], after)
  let digits := whole ++ fraction
  if digits.isEmpty then none
  else
    (readExponent? rest).map fun exponent =>
      ⟨digitsValue digits, exponent - fraction.length⟩

/-- Reads a decimal with an optional sign; true if it is a minus. -/
def read? (text : List Char) : Option (Bool × Decimal) :=
  let (negative, rest) := splitSign text
  (readUnsigned? rest).map (negative, ·)

end Decimal

namespace Binary

/-- The word nearest to a decimal with the given sign. A decimal so great or so small that its
exponent alone decides is not expanded: from `10 ^ unitShift` on every word is infinite, and below
`10 ^ -unitShift` by more than a digit every word is zero. -/
def ofDecimal (format : Format) (negative : Bool) (decimal : Decimal) : Binary format :=
  let top := decimal.exponent + decimal.digits.length
  if decimal.coefficient = 0 then ⟨negative, 0, (zero format).magnitude_lt⟩
  else if (format.unitShift : Int) < top then infinity format negative
  else if top < -(format.unitShift : Int) then ⟨negative, 0, (zero format).magnitude_lt⟩
  else
    let scaled := decimal.coefficient * Nat.pow 2 format.unitShift
    if 0 ≤ decimal.exponent then
      ofQuotient format negative (scaled * Nat.pow 10 decimal.exponent.toNat) 1
    else ofQuotient format negative scaled (Nat.pow 10 (-decimal.exponent).toNat)

end Binary

end DemandFlow
