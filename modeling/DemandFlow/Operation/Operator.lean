import DemandFlow.Operation.Arithmetic
import DemandFlow.Operation.Bitwise
import DemandFlow.Operation.Comparison
import DemandFlow.Operation.Formula
import DemandFlow.Operation.Math

/-!
Contract: the primitive operations, independent of the kind they are applied to.

Owns: the operations, their names, the kinds each is defined for, and their formulas.

Does not own: node names and descriptions (`Catalog.Recipe`).

`supports` states for which kinds an operation is defined; `formula?` yields its formula for just
those kinds.
-/

namespace DemandFlow

inductive Operator where
  | arithmetic (op : ArithmeticOp)
  | bitwise (op : BitwiseOp)
  | complement
  | comparison (op : ComparisonOp)
  | epsilonEqualTo
  | epsilonNotEqualTo
  | math (op : MathOp)
deriving DecidableEq, Repr

namespace Operator

/-- Every operation, in the order in which nodes are registered. -/
def all : List Operator :=
  ArithmeticOp.all.map .arithmetic ++ BitwiseOp.all.map .bitwise ++ [.complement] ++
    ComparisonOp.all.map .comparison ++ [.epsilonEqualTo, .epsilonNotEqualTo] ++
    MathOp.all.map .math

def name : Operator → String
  | .arithmetic op => op.name
  | .bitwise op => op.name
  | .complement => "Not"
  | .comparison op => op.name
  | .epsilonEqualTo => "EpsilonEqualTo"
  | .epsilonNotEqualTo => "EpsilonNotEqualTo"
  | .math op => op.name

/-- Whether the operation is defined for a kind. -/
def supports (op : Operator) (kind : Kind) : Bool :=
  match op with
  | .arithmetic _ | .comparison _ | .math _ => kind.isNumeric
  | .bitwise _ | .complement => kind.isBitwise
  | .epsilonEqualTo | .epsilonNotEqualTo => kind.isFloat

def comparisonFormula (op : ComparisonOp) (kind : Kind) : Formula :=
  .binary kind kind .bool fun x y => .ok (op.on kind x y)

/-- A tolerance test of two floats and a bound. -/
def toleranceFormula (kind : FloatKind)
    (test : Binary kind.format → Binary kind.format → Binary kind.format → Bool) : Formula :=
  .trinary (.float kind) (.float kind) (.float kind) .bool fun x y bound =>
    .ok (test x y bound)

/-- A function of one number, which is converted to a 64-bit float first. -/
def mathFormula (op : MathOp) (kind : Kind) : Formula :=
  .unary kind (.float .double) fun x =>
    match convert kind (.float .double) x with
    | .ok x => .ok (op.on x)
    | .error cause => .error (.conversion cause)

def formula? (op : Operator) (kind : Kind) : Option Formula :=
  match op with
  | .arithmetic op => (op.on? kind).map fun function => .binary kind kind kind function
  | .bitwise op => (op.on? kind).map fun function =>
      .binary kind kind kind fun x y => .ok (function x y)
  | .complement => kind.complement?.map fun function => .unary kind kind fun x => .ok (function x)
  | .comparison op =>
      match kind with
      | .bool => none
      | .integer _ | .float _ => some (comparisonFormula op kind)
  | .epsilonEqualTo =>
      match kind with
      | .float kind => some (toleranceFormula kind kind.closerThan)
      | .bool | .integer _ => none
  | .epsilonNotEqualTo =>
      match kind with
      | .float kind => some (toleranceFormula kind kind.fartherThan)
      | .bool | .integer _ => none
  | .math op =>
      match kind with
      | .bool => none
      | .integer _ | .float _ => some (mathFormula op kind)

theorem isSome_formula? (op : Operator) (kind : Kind) :
    (op.formula? kind).isSome = op.supports kind := by
  cases op <;> cases kind <;> rfl

end Operator

end DemandFlow
