import DemandFlow.Script.Token

/-!
Contract: what the parentheses of an option hold.

Owns: the forms of content, and telling them apart by looking ahead in the text.

Does not own: reading the content (`Script.Grammar`).

Looking ahead counts brackets up to the closing parenthesis or to a comma that is not within other
brackets. Each step leaves out blanks and comments, then quoted text, which may hold brackets of its
own, and then takes one character as it is. So a slash right behind quoted text begins no comment,
and what was meant as one is looked through: a slash in it that begins no comment either leaves the
content without a form.
-/

namespace DemandFlow.Script

/-- What the parentheses of an option hold. -/
inductive OptionContent where
  | nothing
  | single
  /-- Fields, or more terms than one. -/
  | several
deriving DecidableEq, Repr

namespace OptionContent

/-- The text behind blanks and comments, in at most `limit` steps. A slash begins a comment. -/
def pastBlanksWithin : (limit : Nat) → List Char → Option (List Char)
  | _, [] => some []
  | 0, _ :: _ => none
  | limit + 1, '/' :: '/' :: rest => pastBlanksWithin limit (rest.dropWhile (· != '\n'))
  | limit + 1, '/' :: '*' :: rest => (afterComment? 1 rest).bind (pastBlanksWithin limit)
  | _ + 1, '/' :: _ => none
  | limit + 1, char :: rest =>
      if isBlank char then pastBlanksWithin limit rest else some (char :: rest)

def pastBlanks? (text : List Char) : Option (List Char) := pastBlanksWithin text.length text

/-- The text behind a name, if one comes first. -/
def pastName? (text : List Char) : Option (List Char) :=
  match step? text with
  | some (some token, rest) => if token.name?.isSome then some rest else none
  | _ => none

/-- The text behind a single character between quotes, or all of it if none comes first. -/
def pastSingle : List Char → List Char
  | '\'' :: rest => (Quotation.single.afterSingle? rest).getD ('\'' :: rest)
  | text => text

/-- The text behind a closing quote, in at most `limit` steps, or the fallback if an escape is
malformed before. There is none if no quote is left. -/
def pastCloseWithin (quotation : Quotation) (fallback : List Char) :
    (limit : Nat) → List Char → Option (List Char)
  | 0, _ => none
  | limit + 1, text =>
      if text.contains '"' then
        match text.dropWhile fun char => char != '"' && char != '\\' with
        | '\\' :: rest =>
            match quotation.escape? rest with
            | some (_, rest) => pastCloseWithin quotation fallback limit rest
            | none => some fallback
        | rest => some rest.tail
      else none

/-- The text behind raw text, or the fallback if no quote follows the hash marks. There is none if the
raw text does not end. -/
def pastRaw? (fallback text : List Char) : Option (List Char) :=
  match text.dropWhile (· == '#') with
  | '"' :: rest => (closeRaw? (text.takeWhile (· == '#')).length rest).map (·.2)
  | _ => some fallback

/-- The text behind quoted text, or all of it if none comes first. -/
def pastProse? : List Char → Option (List Char)
  | '"' :: rest => pastCloseWithin .prose ('"' :: rest) (rest.length + 1) rest
  | 'r' :: rest => pastRaw? ('r' :: rest) rest
  | text => some text

/-- The text behind quoted bytes, or all of it if none come first. -/
def pastBytes? : List Char → Option (List Char)
  | 'b' :: '"' :: rest => pastCloseWithin .bytes ('b' :: '"' :: rest) (rest.length + 1) rest
  | 'b' :: 'r' :: rest => pastRaw? ('b' :: 'r' :: rest) rest
  | text => some text

/-- The form of content that a comma follows: one term, if the comma is the last mark. -/
def behindComma? (text : List Char) : Option OptionContent :=
  (pastBlanks? text).map fun text => if text.head? = some ')' then .single else .several

/-- The form of content that begins with no name, or goes on behind one, with `depth` brackets open.
Each step takes a character at least, so a limit above the length of the text is enough. -/
def scanWithin : (limit depth : Nat) → List Char → Option OptionContent
  | 0, _, _ => none
  | limit + 1, depth, text => do
      let text ← pastBlanksWithin limit text
      let text ← (pastProse? (pastSingle text)).bind pastBytes?
      match text with
      | [] => none
      | char :: rest =>
          if "([\x7b".toList.contains char then scanWithin limit (depth + 1) rest
          else if ")]\x7d".toList.contains char then
            match depth with
            | 0 => some .single
            | depth + 1 => scanWithin limit depth rest
          else if char = ',' ∧ depth = 0 then behindComma? rest
          else scanWithin limit depth rest

/-- The form of content that follows an opening parenthesis. -/
def ofText? (text : List Char) : Option OptionContent := do
  let text ← pastBlanks? text
  if text.head? = some ')' then some .nothing
  else
    match pastName? text with
    | none => scanWithin (text.length + 1) 0 text
    | some rest => do
        let rest ← pastBlanks? rest
        match rest with
        | ':' :: _ => some .several
        | ',' :: rest => behindComma? rest
        | rest => scanWithin (rest.length + 1) 0 rest

end OptionContent

end DemandFlow.Script
