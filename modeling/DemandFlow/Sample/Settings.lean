import DemandFlow.Decimal.Reading
import DemandFlow.Value.FixedInt

/-!
Contract: the settings of the sample graphs.

Owns: the settings, their defaults, and their equality by value.

Does not own: the script they are stored in (`Sample.Stored`) and the graphs (`Sample.Scenario`).
-/

namespace DemandFlow.Sample

/-- What the sum of two integers is taken of. -/
structure AddSettings where
  x : FixedInt .i32 := ⟨3, by decide, by decide⟩
  y : FixedInt .i32 := ⟨4, by decide, by decide⟩
deriving DecidableEq, Repr

/-- A choice between two numbers. -/
structure SelectorSettings where
  /-- Whether `x` is chosen. -/
  control : Bool := true
  x : Binary64 := .ofInt .double 10
  y : Binary64 := .ofInt .double 20
deriving DecidableEq, Repr

/-- What goes into a chain of conversions. -/
structure CastChainSettings where
  /-- Is cut to an integer. -/
  input : Binary32 := .ofDecimal .single false ⟨1075, -2⟩
  /-- Is added to that integer. -/
  offset : FixedInt .i32 := ⟨5, by decide, by decide⟩
  /-- Divides the sum. -/
  divisor : Binary32 := .ofInt .single 4
deriving DecidableEq, Repr

/-- The value of a node that feeds two others. -/
structure DiamondSettings where
  shared : FixedInt .i64 := ⟨5, by decide, by decide⟩
deriving DecidableEq, Repr

structure Settings where
  /-- The version of the stored form. -/
  version : FixedInt .u32 := ⟨1, by decide, by decide⟩
  /-- Which events are logged. -/
  logFilter : String := "info"
  /-- Whether a shared node is evaluated once for each demand. -/
  memoize : Bool := false
  add : AddSettings := {}
  selector : SelectorSettings := {}
  castChain : CastChainSettings := {}
  diamond : DiamondSettings := {}
deriving DecidableEq, Repr

namespace Settings

/-- Equality by value: floating-point settings are compared as numbers. -/
def same (left right : Settings) : Bool :=
  left.version == right.version && left.logFilter == right.logFilter &&
    left.memoize == right.memoize && left.add == right.add &&
    left.selector.control == right.selector.control &&
    left.selector.x.same right.selector.x && left.selector.y.same right.selector.y &&
    left.castChain.input.same right.castChain.input &&
    left.castChain.offset == right.castChain.offset &&
    left.castChain.divisor.same right.castChain.divisor && left.diamond == right.diamond

end Settings

end DemandFlow.Sample
