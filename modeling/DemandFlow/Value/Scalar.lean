import DemandFlow.Decimal.Layout
import DemandFlow.Value.Kind

/-!
Contract: scalars, the widest form of a value.

Owns: scalars, their text and their equality.

Does not own: the passage between scalars and values of a kind (`Value.Conversion`).
-/

namespace DemandFlow

/-- A value without a kind: a truth value, an integer of any size, or a 64-bit float. -/
inductive Scalar where
  | bool (value : Bool)
  | int (value : Int)
  | float (value : Binary64)
deriving DecidableEq, Repr

namespace Scalar

def text : Scalar → String
  | .bool value => toString value
  | .int value => toString value
  | .float value => value.text .plain

/-- Equality of scalars of one form; floats are compared by value. -/
def same : Scalar → Scalar → Bool
  | .bool left, .bool right => left == right
  | .int left, .int right => left == right
  | .float left, .float right => left.same right
  | _, _ => false

end Scalar

end DemandFlow
