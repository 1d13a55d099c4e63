import DemandFlow.Value.Basic

/-!
Contract: operations on the binary digits of integers, and the same connectives on truth values.

Owns: the operations, the complement, and their choice by kind.

Does not own: the nodes that apply them.
-/

namespace DemandFlow

inductive BitwiseOp where
  | and
  | or
  | xor
  | nand
  | nor
  | xnor
deriving DecidableEq, Repr

namespace BitwiseOp

def all : List BitwiseOp := [.and, .or, .xor, .nand, .nor, .xnor]

def name : BitwiseOp → String
  | .and => "And"
  | .or => "Or"
  | .xor => "Xor"
  | .nand => "Nand"
  | .nor => "Nor"
  | .xnor => "Xnor"

def onBools : BitwiseOp → Bool → Bool → Bool
  | .and, x, y => x && y
  | .or, x, y => x || y
  | .xor, x, y => x != y
  | .nand, x, y => !(x && y)
  | .nor, x, y => !(x || y)
  | .xnor, x, y => x == y

/-- The connective of two words, digit by digit. -/
def onWords {width : Nat} : BitwiseOp → BitVec width → BitVec width → BitVec width
  | .and, x, y => x &&& y
  | .or, x, y => x ||| y
  | .xor, x, y => x ^^^ y
  | .nand, x, y => ~~~(x &&& y)
  | .nor, x, y => ~~~(x ||| y)
  | .xnor, x, y => ~~~(x ^^^ y)

/-- The connective on integers and truth values. -/
def on? (op : BitwiseOp) : (kind : Kind) → Option (kind.Carrier → kind.Carrier → kind.Carrier)
  | .bool => some op.onBools
  | .integer _ => some fun x y => FixedInt.ofWord (op.onWords (FixedInt.toWord x) (FixedInt.toWord y))
  | .float _ => none

end BitwiseOp

namespace Kind

/-- The complement on integers and truth values: every digit is inverted. -/
def complement? : (kind : Kind) → Option (kind.Carrier → kind.Carrier)
  | .bool => some Bool.not
  | .integer _ => some fun x => FixedInt.ofWord (~~~(FixedInt.toWord x))
  | .float _ => none

end Kind

end DemandFlow
