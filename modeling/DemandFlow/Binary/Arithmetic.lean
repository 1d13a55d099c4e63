import DemandFlow.Binary.Basic

/-!
Contract: floating-point arithmetic on words.

Owns: the passage between words and the machine's floating-point numbers, and the operations
that go through it.

Does not own: the operations themselves. They are the machine's, and are taken as given.
-/

namespace DemandFlow

/-- The operations that every format has. -/
structure FloatArithmetic (format : Format) where
  add : Binary format → Binary format → Binary format
  sub : Binary format → Binary format → Binary format
  mul : Binary format → Binary format → Binary format
  div : Binary format → Binary format → Binary format

namespace Binary32

def toMachine (x : Binary32) : Float32 := Float32.ofBits (UInt32.ofNat x.toBits)

def ofMachine (x : Float32) : Binary32 := .ofBits .single x.toBits.toNat

def lift (operation : Float32 → Float32 → Float32) (x y : Binary32) : Binary32 :=
  ofMachine (operation (toMachine x) (toMachine y))

def arithmetic : FloatArithmetic .single where
  add := lift (· + ·)
  sub := lift (· - ·)
  mul := lift (· * ·)
  div := lift (· / ·)

end Binary32

namespace Binary64

def toMachine (x : Binary64) : Float := Float.ofBits (UInt64.ofNat x.toBits)

def ofMachine (x : Float) : Binary64 := .ofBits .double x.toBits.toNat

def lift (operation : Float → Float → Float) (x y : Binary64) : Binary64 :=
  ofMachine (operation (toMachine x) (toMachine y))

def arithmetic : FloatArithmetic .double where
  add := lift (· + ·)
  sub := lift (· - ·)
  mul := lift (· * ·)
  div := lift (· / ·)

def sqrt (x : Binary64) : Binary64 := ofMachine (toMachine x).sqrt

/-- The sine of an angle in radians. -/
def sin (x : Binary64) : Binary64 := ofMachine (toMachine x).sin

end Binary64

end DemandFlow
