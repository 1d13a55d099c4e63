import DemandFlow.Text.Escape

/-!
Contract: the values that scripts hold.

Owns: terms and their written form.

Does not own: reading terms (`Script.Grammar`), and which settings a term describes
(`Sample.Stored`).

Terms keep what settings are made of: words, quoted text and records with named fields. Every other
well-formed value, such as a list, is remembered as foreign.
-/

namespace DemandFlow.Script

/-- A value in a script. -/
inductive Term where
  /-- A name or a number. -/
  | word (spelling : String)
  /-- Quoted text. -/
  | text (value : String)
  /-- Named fields in parentheses, perhaps with a name before them. -/
  | record (name : Option String) (fields : List (String × Term))
  /-- A value of another form. -/
  | foreign
deriving Repr, Inhabited

namespace Term

mutual

/-- The written form of a term: each field of a record on a line of its own, four blanks further to
the right than the record, and a comma behind each. -/
def pretty (margin : Nat) : Term → List Char
  | .word spelling => spelling.toList
  | .text value => Escape.quote ['"', '\''] value
  | .record name fields =>
      (name.getD "").toList ++ "(\n".toList ++ prettyFields (margin + 4) fields ++
        List.replicate margin ' ' ++ [')']
  | .foreign => "()".toList

/-- The lines of a record's fields. -/
def prettyFields (margin : Nat) : List (String × Term) → List Char
  | [] => []
  | (name, value) :: rest =>
      List.replicate margin ' ' ++ name.toList ++ ": ".toList ++ pretty margin value ++
        ",\n".toList ++ prettyFields margin rest

end

end Term

end DemandFlow.Script
