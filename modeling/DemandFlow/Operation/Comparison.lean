import DemandFlow.Binary.Arithmetic
import DemandFlow.Value.Basic

/-!
Contract: comparisons of two values, and of a distance with a bound.

Owns: the six comparisons on every kind and the two tolerance tests on floats.

Does not own: the order of the values itself (`Value.Basic`).
-/

namespace DemandFlow

inductive ComparisonOp where
  | equalTo
  | notEqualTo
  | lessThan
  | lessThanEqualTo
  | greaterThan
  | greaterThanEqualTo
deriving DecidableEq, Repr

namespace ComparisonOp

def all : List ComparisonOp :=
  [.equalTo, .notEqualTo, .lessThan, .lessThanEqualTo, .greaterThan, .greaterThanEqualTo]

def name : ComparisonOp → String
  | .equalTo => "EqualTo"
  | .notEqualTo => "NotEqualTo"
  | .lessThan => "LessThan"
  | .lessThanEqualTo => "LessThanEqualTo"
  | .greaterThan => "GreaterThan"
  | .greaterThanEqualTo => "GreaterThanEqualTo"

/-- Compares two values of a kind. With an operand that is not a number only `notEqualTo` holds. -/
def on (op : ComparisonOp) (kind : Kind) (x y : kind.Carrier) : Bool :=
  match op with
  | .equalTo => kind.same x y
  | .notEqualTo => !kind.same x y
  | .lessThan => kind.less x y
  | .lessThanEqualTo => kind.atMost x y
  | .greaterThan => kind.less y x
  | .greaterThanEqualTo => kind.atMost y x

end ComparisonOp

namespace FloatKind

/-- The distance of two floats, rounded to their format. -/
def distance : (kind : FloatKind) → Binary kind.format → Binary kind.format → Binary kind.format
  | .single, x, y => (Binary32.arithmetic.sub x y).abs
  | .double, x, y => (Binary64.arithmetic.sub x y).abs

def closerThan (kind : FloatKind) (x y bound : Binary kind.format) : Bool :=
  (kind.distance x y).less bound

def fartherThan (kind : FloatKind) (x y bound : Binary kind.format) : Bool :=
  bound.less (kind.distance x y)

end FloatKind

end DemandFlow
