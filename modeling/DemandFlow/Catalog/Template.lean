import DemandFlow.Graph.Blueprint
import DemandFlow.Operation.Arithmetic
import DemandFlow.Operation.Comparison

/-!
Contract: nodes made from formulas of their own, outside the catalogue.

Owns: a comparison on any kind, and five formulas that mix the kinds of their operands.

Does not own: the nodes that the registry names (`Catalog.Recipe`).
-/

namespace DemandFlow.Blueprint

/-- A comparison on any kind, truth values included. -/
def comparison (op : ComparisonOp) (kind : Kind) : Blueprint :=
  operator (kind.name ++ op.name) (.binary kind kind .bool fun x y => .ok (op.on kind x y))

/-- Twice a small number. -/
def double : Blueprint :=
  operator "ByteDouble" (.unary (.integer .u8) (.integer .u8) fun x =>
    ArithmeticOp.multiply.onIntegers x ⟨2, by decide, by decide⟩)

/-- Whether a count times a factor is more than one. -/
def scale : Blueprint :=
  operator "Scale" (.binary (.integer .u32) (.float .double) .bool fun count factor =>
    let product := Binary64.arithmetic.mul (.ofInt .double (FixedInt.value count)) factor
    .ok (Binary.less (.ofInt .double 1) product))

/-- The sum of three numbers, from the left. -/
def sumOfThree : Blueprint :=
  operator "LongSum3" (.trinary (.integer .i64) (.integer .i64) (.integer .i64) (.integer .i64)
    fun x y z =>
      match ArithmeticOp.add.onIntegers x y with
      | .ok sum => ArithmeticOp.add.onIntegers sum z
      | .error cause => .error cause)

/-- One of two integers of different kinds as a float. -/
def pick : Blueprint :=
  operator "Pick" (.trinary .bool (.integer .i16) (.integer .u64) (.float .single) fun x y z =>
    (bif x then convert (.integer .i16) (.float .single) y
      else convert (.integer .u64) (.float .single) z).mapError .conversion)

/-- A quotient that is narrowed to a small number. -/
def narrowQuotient : Blueprint :=
  operator "Narrow" (.binary (.integer .i64) (.integer .i64) (.integer .u8) fun x y =>
    match ArithmeticOp.divide.onIntegers x y with
    | .ok quotient => (convert (.integer .i64) (.integer .u8) quotient).mapError .conversion
    | .error cause => .error cause)

end DemandFlow.Blueprint
