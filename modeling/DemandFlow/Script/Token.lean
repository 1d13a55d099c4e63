import DemandFlow.Script.Quoted
import DemandFlow.Text.Identifier

/-!
Contract: the tokens of scripts.

Owns: the tokens, what separates them, and cutting a text into tokens.

Does not own: what a word stands for (`Script.Term`, `Script.Number`).

A word is as long as it can be. One that begins as a name goes on through letters and digits; any
other, and a raw name, goes on through points and signs too, so a number is one word with its sign,
its fraction and its exponent. Blanks and comments stand anywhere between tokens.
-/

namespace DemandFlow.Script

inductive Token where
  /-- A bracket or a mark of punctuation, opening parentheses apart. -/
  | mark (char : Char)
  /-- An opening parenthesis and the text behind it. What that holds is sometimes settled by looking
  ahead. -/
  | opening (behind : List Char)
  /-- Two parentheses with nothing between them, not even a blank. -/
  | unit
  | word (spelling : String)
  /-- A name behind the mark that makes any word a name. -/
  | rawName (spelling : String)
  | text (value : String)
  /-- A character or bytes, which no setting takes. -/
  | foreign
deriving DecidableEq, Repr

/-- The name that a token is, if it is one. -/
def Token.name? : Token → Option String
  | .word spelling => if Identifier.isName spelling.toList then some spelling else none
  | .rawName spelling => some spelling
  | _ => none

/-- Whether a character is blank: spaces and tabs, the ends of lines and pages, and the two marks
of writing direction. -/
def isBlank (char : Char) : Bool :=
  [0x09, 0x0a, 0x0b, 0x0c, 0x0d, 0x20, 0x85, 0x200e, 0x200f, 0x2028, 0x2029].contains char.toNat

/-- Whether a character is a mark. -/
def isMark (char : Char) : Bool := ")[]\x7b\x7d,:#!".toList.contains char

/-- Whether a character is part of a word. -/
def isWordChar (char : Char) : Bool := Identifier.isNext char || ".+-".toList.contains char

/-- Whether a word that begins with the one character goes on through the other. -/
def goesOn (first : Char) : Char → Bool :=
  if Identifier.isFirst first then Identifier.isNext else isWordChar

/-- What follows a comment whose opening marks have been read. Comments nest. -/
def afterComment? : (depth : Nat) → List Char → Option (List Char)
  | 0, text => some text
  | _ + 1, [] => none
  | depth + 1, '*' :: '/' :: rest => afterComment? depth rest
  | depth + 1, '/' :: '*' :: rest => afterComment? (depth + 2) rest
  | depth + 1, _ :: rest => afterComment? (depth + 1) rest

/-- The token that a word begins, from the word and what follows it: certain words are the opening
marks of a raw name, of raw text, or of bytes. -/
def ofWord? : (word rest : List Char) → Option (Token × List Char)
  | ['r'], '"' :: rest =>
      (raw? ('"' :: rest)).map fun (chars, rest) => (.text (String.ofList chars), rest)
  | ['r'], '#' :: rest =>
      if rest.head? = some '"' ∨ rest.head? = some '#' then
        (raw? ('#' :: rest)).map fun (chars, rest) => (.text (String.ofList chars), rest)
      else if (rest.takeWhile isWordChar).isEmpty then none
      else some (.rawName (String.ofList (rest.takeWhile isWordChar)), rest.dropWhile isWordChar)
  | ['b'], '"' :: rest => (Quotation.bytes.close? rest).map fun (_, rest) => (.foreign, rest)
  | ['b'], '\'' :: rest => (Quotation.bytes.afterSingle? rest).map fun rest => (.foreign, rest)
  | ['b', 'r'], '"' :: rest => (raw? ('"' :: rest)).map fun (_, rest) => (.foreign, rest)
  | ['b', 'r'], '#' :: rest => (raw? ('#' :: rest)).map fun (_, rest) => (.foreign, rest)
  | word, rest => some (.word (String.ofList word), rest)

/-- One step into a text that is not empty: a token, or a blank or a comment. -/
def step? : List Char → Option (Option Token × List Char)
  | [] => none
  | '/' :: '/' :: rest => some (none, rest.dropWhile (· != '\n'))
  | '/' :: '*' :: rest => (afterComment? 1 rest).map fun rest => (none, rest)
  | '"' :: rest =>
      (Quotation.prose.close? rest).map fun (chars, rest) =>
        (some (.text (String.ofList chars)), rest)
  | '\'' :: rest => (Quotation.single.afterSingle? rest).map fun rest => (some .foreign, rest)
  | '(' :: ')' :: rest => some (some .unit, rest)
  | '(' :: rest => some (some (.opening rest), rest)
  | first :: rest =>
      if isBlank first then some (none, rest)
      else if isMark first then some (some (.mark first), rest)
      else if isWordChar first then
        (ofWord? (first :: rest.takeWhile (goesOn first)) (rest.dropWhile (goesOn first))).map
          fun (token, rest) => (some token, rest)
      else none

/-- The tokens of a text in at most `limit` steps. -/
def scanWithin : (limit : Nat) → List Char → Option (List Token)
  | _, [] => some []
  | 0, _ :: _ => none
  | limit + 1, text =>
      match step? text with
      | none => none
      | some (none, rest) => scanWithin limit rest
      | some (some token, rest) => (scanWithin limit rest).map (token :: ·)

def scan? (text : List Char) : Option (List Token) := scanWithin text.length text

end DemandFlow.Script
