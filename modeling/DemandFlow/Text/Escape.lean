import DemandFlow.Text.Unprintable

/-!
Contract: quoted text in which every character is visible.

Owns: the escapes for quotes, controls and characters without a visible form, and quoting.

Does not own: reading quoted text (`Script.Quoted`).
-/

namespace DemandFlow.Escape

/-- Whether a character is written as the number of its code point. -/
def isNumbered (char : Char) : Bool :=
  char.toNat < 0x20 || char.toNat == 0x7f || (0x80 ≤ char.toNat && Unprintable.contains char.toNat)

/-- The form of a character inside quoted text; the characters in `quotes` take a backslash. -/
def char (quotes : List Char) (char : Char) : List Char :=
  match char with
  | '\x00' => ['\\', '0']
  | '\t' => ['\\', 't']
  | '\r' => ['\\', 'r']
  | '\n' => ['\\', 'n']
  | '\\' => ['\\', '\\']
  | char =>
      if quotes.contains char then ['\\', char]
      else if isNumbered char then
        ['\\', 'u', '\x7b'] ++ Nat.toDigits 16 char.toNat ++ ['\x7d']
      else [char]

/-- Text between double quotes. -/
def quote (quotes : List Char) (text : String) : List Char :=
  '"' :: (text.toList.flatMap (Escape.char quotes) ++ ['"'])

end DemandFlow.Escape
