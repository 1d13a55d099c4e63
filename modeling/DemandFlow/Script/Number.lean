import DemandFlow.Decimal.Layout
import DemandFlow.Decimal.Reading
import DemandFlow.Text.Hex
import DemandFlow.Value.FixedInt

/-!
Contract: numbers in scripts.

Owns: the forms of integers and floating-point numbers, with their separators and suffixes, and
the form written for a floating-point number.

Does not own: rounding (`Binary.ofDecimal`) and the digits written (`Decimal.Shortest`).

A suffix names a kind, and a number with a suffix is read as no other kind. Underscores separate
digits; none stands at the beginning of a number or right behind its point.
-/

namespace DemandFlow.Script

/-- The kinds of integers and their suffixes. -/
def integerSuffixes : List (List Char × IntegerKind) :=
  [("i8".toList, .i8), ("i16".toList, .i16), ("i32".toList, .i32), ("i64".toList, .i64),
    ("u8".toList, .u8), ("u16".toList, .u16), ("u32".toList, .u32), ("u64".toList, .u64)]

/-- The base that a number is written in, and its digits. -/
def splitBase : List Char → Nat × List Char
  | '0' :: 'x' :: digits => (16, digits)
  | '0' :: 'o' :: digits => (8, digits)
  | '0' :: 'b' :: digits => (2, digits)
  | digits => (10, digits)

/-- Whether a character counts as part of an integer, whatever its base. -/
def isIntegerChar (char : Char) : Bool := char == '_' || (Hex.value? char).isSome

/-- The value of digits in a base, underscores skipped. -/
def valueInBase? (base : Nat) (digits : List Char) : Option Nat :=
  if digits.isEmpty || digits.head? == some '_' then none
  else
    (digits.filter (· != '_')).foldlM (fun value digit => do
      let digit ← Hex.value? digit
      if digit.val < base then some (value * base + digit.val) else none) 0

/-- The value of an integer with its suffix. None stands behind a number in base eight or sixteen. -/
def integer? (word : List Char) : Option (Int × Option IntegerKind) := do
  let (negative, unsigned) := Decimal.splitSign word
  let (base, text) := splitBase unsigned
  let magnitude ← valueInBase? base (text.takeWhile isIntegerChar)
  let value : Int := if negative then -(magnitude : Int) else magnitude
  match text.dropWhile isIntegerChar with
  | [] => some (value, none)
  | suffix =>
      if base = 8 ∨ base = 16 then none
      else (integerSuffixes.lookup suffix).map fun kind => (value, some kind)

def integerOf? (kind : IntegerKind) (word : List Char) : Option (FixedInt kind) :=
  match integer? word with
  | some (value, suffix) => if suffix.all (· == kind) then FixedInt.ofInt? kind value else none
  | none => none

/-- A floating-point number and its suffix. -/
def splitFloatSuffix (word : List Char) : List Char × Option FloatKind :=
  match word.reverse with
  | '2' :: '3' :: 'f' :: digits => (digits.reverse, some .single)
  | '4' :: '6' :: 'f' :: digits => (digits.reverse, some .double)
  | _ => (word, none)

/-- Takes out the underscores. One is `allowed` behind a digit or the mark of an exponent. -/
def withoutSeparators? : (allowed : Bool) → List Char → Option (List Char)
  | _, [] => some []
  | allowed, char :: rest =>
      if char == '_' then if allowed then withoutSeparators? allowed rest else none
      else
        let allowedNext :=
          if char.isDigit || char == 'e' || char == 'E' then true
          else if char == '.' then false
          else allowed
        (withoutSeparators? allowedNext rest).map (char :: ·)

def plainFloat? (format : Format) (word : List Char) : Option (Binary format) :=
  let (negative, unsigned) := Decimal.splitSign word
  if unsigned = "inf".toList then some (.infinity format negative)
  else if unsigned = "NaN".toList then some { Binary.notANumber format with negative }
  else do
    let (negative, decimal) ← Decimal.read? (← withoutSeparators? false word)
    return .ofDecimal format negative decimal

def floatOf? (kind : FloatKind) (word : List Char) : Option (Binary kind.format) :=
  let (plain, suffix) := splitFloatSuffix word
  if suffix.all (· == kind) then plainFloat? kind.format plain else none

/-- Whether a word is an integer: one with a suffix fits the kind of its suffix, and one without
fits some kind. -/
def isInteger (word : List Char) : Bool :=
  match integer? word with
  | some (value, some kind) => (FixedInt.ofInt? kind value).isSome
  | some (value, none) =>
      (FixedInt.ofInt? .i64 value).isSome || (FixedInt.ofInt? .u64 value).isSome
  | none => false

def isNumber (word : List Char) : Bool :=
  isInteger word || (floatOf? .single word).isSome || (floatOf? .double word).isSome

/-- The written form of a floating-point number, which keeps the sign of one that is not a
number. -/
def floatWord {format : Format} (x : Binary format) : String :=
  if x.isNaN && x.negative then "-NaN" else x.text .pointed

end DemandFlow.Script
