import DemandFlow.Text.Hex

/-!
Contract: reading quoted text.

Owns: the escapes that a backslash begins, text between quotes, raw text, and single characters
between quotes.

Does not own: writing quoted text (`Text.Escape`), and what the text is good for.

Every reader takes what follows the opening mark and gives back what it read and what is left.
-/

namespace DemandFlow.Script

/-- What stands between the quotes, which decides on what an escaped byte is good for. -/
inductive Quotation where
  | prose
  /-- A single character. -/
  | single
  | bytes
deriving DecidableEq, Repr

namespace Quotation

/-- A byte of two hexadecimal digits. -/
def byte? : List Char → Option (Nat × List Char)
  | high :: low :: rest => do
      return ((← Hex.value? high).val * 16 + (← Hex.value? low).val, rest)
  | _ => none

/-- The one character that some bytes encode. -/
def charOfBytes? (octets : List Nat) : Option Char :=
  match String.fromUTF8? ⟨(octets.map UInt8.ofNat).toArray⟩ with
  | some text =>
      match text.toList with
      | [char] => some char
      | _ => none
  | none => none

/-- The character that the bytes encode together with up to `more` escaped bytes to come. -/
def encoded? : (more : Nat) → (octets : List Nat) → List Char → Option (Char × List Char)
  | 0, octets, text => (charOfBytes? octets).map (·, text)
  | more + 1, octets, text =>
      match charOfBytes? octets, text with
      | some char, text => some (char, text)
      | none, '\\' :: 'x' :: rest => do
          let (octet, rest) ← byte? rest
          encoded? more (octets ++ [octet]) rest
      | none, _ => none

def hexValue? (digits : List Char) : Option Nat :=
  digits.foldlM (fun value digit => (Hex.value? digit).map (value * 16 + ·.val)) 0

/-- The character of a code point, which is given by up to six digits between braces. -/
def codePoint? : List Char → Option (Char × List Char)
  | '\x7b' :: text => do
      let digits := text.takeWhile (· != '\x7d')
      let code ← hexValue? digits
      match text.dropWhile (· != '\x7d') with
      | _ :: rest =>
          if 1 ≤ digits.length ∧ digits.length ≤ 6 ∧ code.isValidChar then
            some (Char.ofNat code, rest)
          else none
      | [] => none
  | _ => none

/-- The character of an escape, from what follows the backslash. -/
def escape? (quotation : Quotation) : List Char → Option (Char × List Char)
  | '\'' :: rest => some ('\'', rest)
  | '"' :: rest => some ('"', rest)
  | '\\' :: rest => some ('\\', rest)
  | 'n' :: rest => some ('\n', rest)
  | 'r' :: rest => some ('\r', rest)
  | 't' :: rest => some ('\t', rest)
  | '0' :: rest => some ('\x00', rest)
  | 'x' :: rest => do
      let (byte, rest) ← byte? rest
      match quotation with
      | .prose => encoded? 3 [byte] rest
      | .single => encoded? 0 [byte] rest
      | .bytes => some (Char.ofNat byte, rest)
  | 'u' :: rest => codePoint? rest
  | _ => none

/-- Text up to the closing quote, of at most `limit` characters, the quote counted. -/
def closeWithin (quotation : Quotation) :
    (limit : Nat) → List Char → Option (List Char × List Char)
  | 0, _ => none
  | _ + 1, [] => none
  | _ + 1, '"' :: rest => some ([], rest)
  | limit + 1, '\\' :: rest => do
      let (char, rest) ← quotation.escape? rest
      let (chars, rest) ← closeWithin quotation limit rest
      return (char :: chars, rest)
  | limit + 1, char :: rest => do
      let (chars, rest) ← closeWithin quotation limit rest
      return (char :: chars, rest)

def close? (quotation : Quotation) (text : List Char) : Option (List Char × List Char) :=
  quotation.closeWithin text.length text

/-- What follows a single character and its closing quote. A single byte is an ASCII character or an
escape other than that of a code point, which may take several bytes. -/
def afterSingle? (quotation : Quotation) : List Char → Option (List Char)
  | '\\' :: 'u' :: rest =>
      match quotation, codePoint? rest with
      | .bytes, _ => none
      | _, some (_, '\'' :: rest) => some rest
      | _, _ => none
  | '\\' :: rest =>
      match quotation.escape? rest with
      | some (_, '\'' :: rest) => some rest
      | _ => none
  | char :: '\'' :: rest =>
      if quotation = .bytes ∧ 0x80 ≤ char.toNat then none else some rest
  | _ => none

end Quotation

/-- Raw text up to a quote that is followed by the given number of hash marks. -/
def closeRaw? (hashes : Nat) : List Char → Option (List Char × List Char)
  | [] => none
  | char :: rest =>
      if char = '"' ∧ rest.take hashes = List.replicate hashes '#' then
        some ([], rest.drop hashes)
      else (closeRaw? hashes rest).map fun (chars, rest) => (char :: chars, rest)

/-- Raw text with its opening marks. -/
def raw? (text : List Char) : Option (List Char × List Char) :=
  let hashes := text.takeWhile (· == '#')
  match text.dropWhile (· == '#') with
  | '"' :: rest => closeRaw? hashes.length rest
  | _ => none

end DemandFlow.Script
