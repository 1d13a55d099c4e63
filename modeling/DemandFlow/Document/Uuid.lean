import DemandFlow.Text.Hex

/-!
Contract: universally unique identifiers.

Owns: the identifiers, the text written for them, and the texts read as one.

Does not own: the making of new identifiers.
-/

namespace DemandFlow

structure Uuid where
  digits : List (Fin 16)
  length_digits : digits.length = 32
deriving DecidableEq, Repr

namespace Uuid

/-- The sizes of the groups between hyphens. -/
def groupSizes : List Nat := [8, 4, 4, 4, 12]

/-- Cuts a list into groups of the given sizes and joins them with hyphens. -/
def joinGroups : List Nat → List Char → List Char
  | [], _ => []
  | [size], chars => chars.take size
  | size :: sizes, chars => chars.take size ++ '-' :: joinGroups sizes (chars.drop size)

/-- The characters between hyphens, if these stand exactly behind groups of the given sizes. -/
def splitGroups? : List Nat → List Char → Option (List Char)
  | [], chars => if chars.isEmpty then some [] else none
  | [size], chars => if chars.length = size then some chars else none
  | size :: sizes, chars =>
      match chars.drop size with
      | '-' :: rest => (splitGroups? sizes rest).map (chars.take size ++ ·)
      | _ => none

/-- The identifier of thirty-two digits. -/
def ofDigits? (chars : List Char) : Option Uuid :=
  match chars.mapM Hex.value? with
  | none => none
  | some digits => if length : digits.length = 32 then some ⟨digits, length⟩ else none

/-- What is left of a text without the given beginning, which is written in lower case and stands in
either case. -/
def dropBeginning? : List Char → List Char → Option (List Char)
  | [], chars => some chars
  | _ :: _, [] => none
  | first :: beginning, char :: chars =>
      if first = char.toLower then dropBeginning? beginning chars else none

/-- The text between braces. -/
def unbrace? : List Char → Option (List Char)
  | '\x7b' :: rest => if rest.getLast? = some '\x7d' then some rest.dropLast else none
  | _ => none

/-- Reads digits of either case: bare, in groups, in groups between braces, or in groups behind
`urn:uuid:`. -/
def read? (text : String) : Option Uuid :=
  let chars := text.toList
  if chars.length = 32 then ofDigits? chars
  else
    let grouped := (unbrace? chars).getD ((dropBeginning? "urn:uuid:".toList chars).getD chars)
    (splitGroups? groupSizes grouped).bind ofDigits?

/-- Lower-case digits in groups. -/
def text (uuid : Uuid) : String := String.ofList (joinGroups groupSizes (uuid.digits.map Hex.digit))

end Uuid

end DemandFlow
