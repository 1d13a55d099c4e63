import DemandFlow.Script.Number
import DemandFlow.Script.OptionContent
import DemandFlow.Script.Term

/-!
Contract: the grammar of terms.

Owns: the extensions of the grammar, reading a term from tokens, and how deep terms may lie in each
other.

Does not own: the heading that switches extensions on (`Script.Source`).

Depth is counted in levels: an enclosure takes one, and so does each of its parts. An option takes a
single one, for the value it holds, and words and quoted text take none. A reader of terms is
therefore given the readers of all terms with fewer levels, that with one level less first.
-/

namespace DemandFlow.Script

/-- A freedom or a demand that a heading adds to the grammar. -/
inductive Extension where
  /-- A record of a single nameless field is written as that field. No settings have such a record. -/
  | unwrappedRecords
  /-- The value of an option needs no parentheses. -/
  | unwrappedOptions
  /-- The fields or items that an option holds need no parentheses of their own. -/
  | unwrappedParts
  /-- Every record of settings bears its name. -/
  | namedRecords
deriving DecidableEq, Repr

/-- Reads something from the front of a list of tokens. -/
abbrev Reader (Result : Type) := List Token → Option (Result × List Token)

namespace Reader

/-- Reads nothing, where nothing may stand. -/
def nothing {Result : Type} : Reader Result := fun _ => none

/-- Reads a value of which nothing is kept. -/
def dismissed {Result : Type} (read : Reader Result) : Reader Term := fun tokens =>
  (read tokens).map fun (_, rest) => (.foreign, rest)

/-- Reads at most `limit` entries with commas between them, up to and with the closing mark. A comma
behind the last entry is allowed. -/
def separatedWithin {Entry : Type} (entry : Reader Entry) (close : Char) :
    (limit : Nat) → Reader (List Entry)
  | 0, _ => none
  | limit + 1, tokens =>
      if tokens.head? = some (.mark close) then some ([], tokens.tail)
      else
        match entry tokens with
        | some (first, .mark ',' :: rest) =>
            (separatedWithin entry close limit rest).map fun (others, rest) =>
              (first :: others, rest)
        | some (first, .mark mark :: rest) => if mark = close then some ([first], rest) else none
        | _ => none

/-- Reads entries with commas between them, up to and with the closing mark. An entry takes a token
at least, and so does the closing mark. -/
def separated {Entry : Type} (entry : Reader Entry) (close : Char) : Reader (List Entry) :=
  fun tokens => separatedWithin entry close tokens.length tokens

/-- What follows an opening parenthesis. -/
def opened? : List Token → Option (List Token)
  | .opening _ :: rest => some rest
  | .unit :: rest => some (.mark ')' :: rest)
  | _ => none

section Parts

variable (part : Reader Term)

/-- Reads an entry of a map, of which nothing is kept. -/
def entry : Reader Unit := fun tokens => do
  let (_, rest) ← part tokens
  match rest with
  | .mark ':' :: rest => do
      let (_, rest) ← part rest
      return ((), rest)
  | _ => none

def field : Reader (String × Term)
  | token :: .mark ':' :: rest => do
      let name ← token.name?
      let (value, rest) ← part rest
      return ((name, value), rest)
  | _ => none

def startsField : List Token → Bool
  | token :: .mark ':' :: _ => token.name?.isSome
  | _ => false

/-- Reads what stands in parentheses, the opening one left out. If a field comes first, all the
rest are fields; otherwise none is. -/
def group (name : Option String) : Reader Term := fun tokens =>
  if startsField tokens then
    (separated (field part) ')' tokens).map fun (fields, rest) => (.record name fields, rest)
  else
    (separated part ')' tokens).map fun (items, rest) =>
      (if items.isEmpty then .record name [] else .foreign, rest)

end Parts

/-- Reads an enclosure, given how it is read with a reader of its parts, and the readers of terms with
fewer levels than there are left. With a single level left it has to be empty. -/
def enclosure (read : Reader Term → Reader Term) : (fewer : List (Reader Term)) → Reader Term
  | [] => nothing
  | [_] => read nothing
  | _ :: part :: _ => read part

/-- Reads one term and a closing parenthesis, perhaps with a comma between them. -/
def single (content : Reader Term) : Reader Term := fun tokens =>
  match content tokens with
  | some (term, .mark ')' :: rest) => some (term, rest)
  | some (term, .mark ',' :: .mark ')' :: rest) => some (term, rest)
  | _ => none

/-- What the parentheses hold that come first. Only where parts may go unwrapped is there a choice,
and then it is made before any of it is read. -/
def contentOf? (enabled : List Extension) : List Token → Option OptionContent
  | .opening behind :: _ =>
      if enabled.contains .unwrappedParts then OptionContent.ofText? behind else some .single
  | .unit :: _ => if enabled.contains .unwrappedParts then some .nothing else some .single
  | _ => none

/-- Reads the value of an option, from what follows the word. -/
def option (enabled : List Extension) : (fewer : List (Reader Term)) → Reader Term
  | [] => nothing
  | content :: fewer => fun tokens =>
      match opened? tokens with
      | some inside =>
          match contentOf? enabled tokens with
          | some .nothing => dismissed (separated (nothing : Reader Term) ')') inside
          | some .single => single content inside
          | some .several => enclosure (fun part => group part none) fewer inside
          | none => none
      | none => if enabled.contains .unwrappedOptions then content tokens else none

/-- Whether a word is a value by itself, and so the name of no record. -/
def isComplete (word : String) : Bool :=
  ["true", "false", "None"].contains word || isNumber word.toList

/-- Reads a term, given the readers of terms with fewer levels than there are left. -/
def shape (enabled : List Extension) (fewer : List (Reader Term)) : Reader Term
  | .text value :: rest => some (.text value, rest)
  | .foreign :: rest => some (.foreign, rest)
  | .unit :: rest => some (.record none [], rest)
  | .opening _ :: rest => enclosure (fun part => group part none) fewer rest
  | .mark '[' :: rest => enclosure (fun part => dismissed (separated part ']')) fewer rest
  | .mark '\x7b' :: rest =>
      enclosure (fun part => dismissed (separated (entry part) '\x7d')) fewer rest
  | .word "Some" :: rest => dismissed (option enabled fewer) rest
  | .word spelling :: rest =>
      if isComplete spelling then some (.word spelling, rest)
      else if Identifier.isName spelling.toList then
        match opened? rest with
        | some inside => enclosure (fun part => group part (some spelling)) fewer inside
        | none => some (.word spelling, rest)
      else none
  | .rawName spelling :: rest =>
      match opened? rest with
      | some inside => enclosure (fun part => group part (some spelling)) fewer inside
      | none => some (.foreign, rest)
  | _ => none

/-- The readers of terms with fewer levels than the given number, most levels first. -/
def below (enabled : List Extension) : (levels : Nat) → List (Reader Term)
  | 0 => []
  | levels + 1 =>
      let fewer := below enabled levels
      shape enabled fewer :: fewer

/-- How many levels a script may have. -/
def levelLimit : Nat := 128

def term (enabled : List Extension) : Reader Term := shape enabled (below enabled levelLimit)

/-- There is one reader for each smaller number of levels. -/
theorem length_below (enabled : List Extension) (levels : Nat) :
    (below enabled levels).length = levels := by
  induction levels with
  | zero => rfl
  | succ levels inductionHypothesis => simp [below, inductionHypothesis]

end Reader

end DemandFlow.Script
