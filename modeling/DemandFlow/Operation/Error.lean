import DemandFlow.Value.Conversion

/-!
Contract: why an operation has no result.

Owns: the causes and their texts.

Does not own: which node failed, which is added where nodes are evaluated (`Evaluation.Error`).
-/

namespace DemandFlow

inductive OperationError where
  | overflow
  | divisionByZero
  | conversion (cause : ConversionError)
deriving DecidableEq, Repr

namespace OperationError

def message : OperationError → String
  | .overflow => "arithmetic overflow"
  | .divisionByZero => "division by zero"
  | .conversion cause => cause.message

end OperationError

end DemandFlow
