import DemandFlow.Operation.Error

/-!
Contract: pure functions of values, with the kinds of their operands and of their result.

Owns: formulas of one, two and three operands, conversion and selection as formulas.

Does not own: the operations (`Operation.Operator`) and the nodes that apply formulas
(`Graph.Blueprint`).
-/

namespace DemandFlow

/-- A pure function that fails or yields a value of kind `result`. -/
structure Formula where
  operands : List Kind
  result : Kind
  apply : List Value → Except OperationError result.Carrier

namespace Formula

/-- The operand at a position as a value of a kind. An operand that is missing or of another kind
counts as the default; no formula that is applied to values of its operand kinds meets one. -/
def operand (values : List Value) (position : Nat) (kind : Kind) : kind.Carrier :=
  (values[position]?.bind (·.as? kind)).getD kind.default

def unary (x result : Kind) (function : x.Carrier → Except OperationError result.Carrier) :
    Formula where
  operands := [x]
  result := result
  apply values := function (operand values 0 x)

def binary (x y result : Kind)
    (function : x.Carrier → y.Carrier → Except OperationError result.Carrier) : Formula where
  operands := [x, y]
  result := result
  apply values := function (operand values 0 x) (operand values 1 y)

def trinary (x y z result : Kind)
    (function : x.Carrier → y.Carrier → z.Carrier → Except OperationError result.Carrier) :
    Formula where
  operands := [x, y, z]
  result := result
  apply values := function (operand values 0 x) (operand values 1 y) (operand values 2 z)

def run (formula : Formula) (values : List Value) : Except OperationError Value :=
  (formula.apply values).map (Value.mk formula.result)

def conversion (source target : Kind) : Formula :=
  unary source target fun value =>
    (convert source target value).mapError .conversion

/-- The second operand if the first is true, else the third. -/
def selection (kind : Kind) : Formula :=
  trinary .bool kind kind kind fun control x y =>
    .ok (bif control then x else y)

end Formula

end DemandFlow
