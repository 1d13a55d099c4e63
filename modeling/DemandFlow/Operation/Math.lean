import DemandFlow.Binary.Arithmetic

/-!
Contract: functions of one 64-bit float.

Owns: their names and their choice.

Does not own: their computation, which is the machine's.
-/

namespace DemandFlow

inductive MathOp where
  | sqrt
  | sine
deriving DecidableEq, Repr

namespace MathOp

def all : List MathOp := [.sqrt, .sine]

def name : MathOp → String
  | .sqrt => "Sqrt"
  | .sine => "Sine"

def on : MathOp → Binary64 → Binary64
  | .sqrt => Binary64.sqrt
  | .sine => Binary64.sin

end MathOp

end DemandFlow
