import DemandFlow.Binary.Round
import DemandFlow.Value.Basic
import DemandFlow.Value.Scalar

/-!
Contract: checked conversion between kinds.

Owns: widening every value to a scalar, narrowing a scalar to a kind, the causes of failure and
their texts.

Does not own: the nodes that convert (`Operation.Formula`).

A conversion never wraps and never saturates: it yields a value of the target kind or says why
there is none.
-/

namespace DemandFlow

inductive ConversionError where
  | outOfRange (value : Scalar) (target : Kind)
  | notFinite (value : Scalar) (target : Kind)
  | notBoolean (value : Scalar)
deriving DecidableEq, Repr

namespace ConversionError

def message : ConversionError → String
  | .outOfRange value target => value.text ++ " is out of range for " ++ target.name
  | .notFinite value target =>
      value.text ++ " is not finite and cannot be converted to " ++ target.name
  | .notBoolean value => value.text ++ " is not a boolean (expected 0 or 1)"

end ConversionError

namespace Scalar

/-- Floats of at least this size are refused without looking at the target. It is the float nearest
to `10 ^ 38`, above every integer kind and below what 128 binary digits hold. -/
def wholePartLimit : Binary64 := .ofInt .double (Nat.pow 10 38 : Nat)

/-- An integer as one of a kind, if it fits; else the scalar that it comes from is reported. -/
def fit (scalar : Scalar) (kind : IntegerKind) (value : Int) :
    Except ConversionError (FixedInt kind) :=
  match FixedInt.ofInt? kind value with
  | some fixed => .ok fixed
  | none => .error (.outOfRange scalar (.integer kind))

theorem fit_eq_ok_iff {scalar : Scalar} {kind : IntegerKind} {value : Int} {fixed : FixedInt kind} :
    scalar.fit kind value = .ok fixed ↔ fixed.value = value := by
  rw [← FixedInt.ofInt?_eq_some_iff]
  unfold fit
  split <;> simp_all

theorem fit_eq_error {scalar : Scalar} {kind : IntegerKind} {value : Int}
    (outside : value < kind.least ∨ kind.greatest < value) :
    scalar.fit kind value = .error (.outOfRange scalar (.integer kind)) := by
  rw [fit, FixedInt.ofInt?_eq_none_iff.mpr outside]

/-- The scalar as an integer of a kind. A float loses its fraction and passes through an integer of
128 binary digits. -/
def toInteger (scalar : Scalar) (kind : IntegerKind) : Except ConversionError (FixedInt kind) :=
  match scalar with
  | .bool value => .ok (FixedInt.ofBool kind value)
  | .int value => scalar.fit kind value
  | .float value =>
      if !value.isFinite then .error (.notFinite scalar (.integer kind))
      else if wholePartLimit.atMost value.trunc.abs then
        .error (.outOfRange scalar (.integer kind))
      else scalar.fit kind (value.trunc.toIntSaturating 128)

/-- The scalar as a truth value: only zero and one have one. -/
def toBool (scalar : Scalar) : Except ConversionError Bool :=
  match scalar with
  | .bool value => .ok value
  | .int value =>
      if value = 0 then .ok false
      else if value = 1 then .ok true
      else .error (.notBoolean scalar)
  | .float value =>
      if value.same (.ofInt .double 0) then .ok false
      else if value.same (.ofInt .double 1) then .ok true
      else .error (.notBoolean scalar)

/-- The scalar as a float: the nearest one. A finite float may not become infinite. -/
def toFloat (scalar : Scalar) (kind : FloatKind) : Except ConversionError (Binary kind.format) :=
  match kind, scalar with
  | _, .bool value => .ok (.ofInt _ (if value then 1 else 0))
  | _, .int value => .ok (.ofInt _ value)
  | .double, .float value => .ok value
  | .single, .float value =>
      let narrowed := value.toFormat .single
      if value.isFinite && narrowed.isInfinite then .error (.outOfRange scalar (.float .single))
      else .ok narrowed

/-- The scalar as a value of a kind. -/
def narrow (scalar : Scalar) : (kind : Kind) → Except ConversionError kind.Carrier
  | .bool => scalar.toBool
  | .integer kind => scalar.toInteger kind
  | .float kind => scalar.toFloat kind

end Scalar

namespace Kind

/-- The scalar that a value of a kind stands for; nothing is lost. -/
def widen : (kind : Kind) → kind.Carrier → Scalar
  | .bool, value => .bool value
  | .integer _, value => .int (FixedInt.value value)
  | .float .single, value => .float ((show Binary .single from value).toFormat .double)
  | .float .double, value => .float value

end Kind

/-- Converts a value of one kind to another. -/
def convert (source target : Kind) (value : source.Carrier) :
    Except ConversionError target.Carrier :=
  (source.widen value).narrow target

namespace Value

/-- The scalar that a value stands for. -/
def scalar (value : Value) : Scalar := value.kind.widen value.content

def ofScalar (kind : Kind) (scalar : Scalar) : Except ConversionError Value :=
  (scalar.narrow kind).map (Value.mk kind)

theorem kind_of_ofScalar {kind : Kind} {scalar : Scalar} {value : Value}
    (narrowed : ofScalar kind scalar = .ok value) : value.kind = kind := by
  unfold ofScalar at narrowed
  cases content : scalar.narrow kind with
  | error cause =>
      rw [content] at narrowed
      cases narrowed
  | ok content =>
      rw [content] at narrowed
      cases narrowed
      rfl

end Value

end DemandFlow
