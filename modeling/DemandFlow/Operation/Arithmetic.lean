import DemandFlow.Binary.Arithmetic
import DemandFlow.Operation.Error

/-!
Contract: the four arithmetic operations on numeric kinds.

Owns: checked integer arithmetic, floating-point arithmetic in the format of its operands, and
the choice between them by kind.

Does not own: the nodes that apply the operations.
-/

namespace DemandFlow

inductive ArithmeticOp where
  | add
  | subtract
  | multiply
  | divide
deriving DecidableEq, Repr

namespace ArithmeticOp

def all : List ArithmeticOp := [.add, .subtract, .multiply, .divide]

def name : ArithmeticOp → String
  | .add => "Add"
  | .subtract => "Subtract"
  | .multiply => "Multiply"
  | .divide => "Divide"

/-- The exact result on integers; a quotient is cut toward zero, and is not asked for with
divisor zero. -/
def exact : ArithmeticOp → Int → Int → Int
  | .add, x, y => x + y
  | .subtract, x, y => x - y
  | .multiply, x, y => x * y
  | .divide, x, y => x.tdiv y

/-- The exact result if it fits the kind. Division by zero is refused before anything else. -/
def onIntegers (op : ArithmeticOp) {kind : IntegerKind} (x y : FixedInt kind) :
    Except OperationError (FixedInt kind) :=
  if op = .divide ∧ y.value = 0 then .error .divisionByZero
  else
    match FixedInt.ofInt? kind (op.exact x.value y.value) with
    | some result => .ok result
    | none => .error .overflow

theorem onIntegers_eq_ok_iff {op : ArithmeticOp} (notDivide : op ≠ .divide) {kind : IntegerKind}
    {x y result : FixedInt kind} :
    op.onIntegers x y = .ok result ↔ result.value = op.exact x.value y.value := by
  rw [onIntegers, if_neg fun divides => notDivide divides.1, ← FixedInt.ofInt?_eq_some_iff]
  split <;> simp_all

theorem onIntegers_eq_overflow {op : ArithmeticOp} (notDivide : op ≠ .divide) {kind : IntegerKind}
    {x y : FixedInt kind}
    (outside : op.exact x.value y.value < kind.least ∨ kind.greatest < op.exact x.value y.value) :
    op.onIntegers x y = .error .overflow := by
  rw [onIntegers, if_neg fun divides => notDivide divides.1,
    FixedInt.ofInt?_eq_none_iff.mpr outside]

/-- The operation of a format's arithmetic. -/
def ofFormat (op : ArithmeticOp) {format : Format} (arithmetic : FloatArithmetic format) :
    Binary format → Binary format → Binary format :=
  match op with
  | .add => arithmetic.add
  | .subtract => arithmetic.sub
  | .multiply => arithmetic.mul
  | .divide => arithmetic.div

/-- The result in the format of the operands; it always exists. -/
def onFloats (op : ArithmeticOp) : (kind : FloatKind) →
    Binary kind.format → Binary kind.format → Binary kind.format
  | .single => op.ofFormat Binary32.arithmetic
  | .double => op.ofFormat Binary64.arithmetic

/-- The operation on a numeric kind. -/
def on? (op : ArithmeticOp) : (kind : Kind) →
    Option (kind.Carrier → kind.Carrier → Except OperationError kind.Carrier)
  | .bool => none
  | .integer _ => some op.onIntegers
  | .float kind => some fun x y => .ok (op.onFloats kind x y)

end ArithmeticOp

end DemandFlow
