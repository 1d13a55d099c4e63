import DemandFlow.Graph.Basic
import DemandFlow.Value.Conversion

/-!
Contract: the rule of a node that is described by a few settings.

Owns: nodes that pass values on, publish a fixed value, or fail.

Does not own: rules in general (`Graph.Basic`).
-/

namespace DemandFlow.Rule

/-- The last of the values that has a kind. -/
def lastOfKind? (values : List Value) (kind : Kind) : Option Value :=
  values.reverse.find? fun value => value.kind = kind

/-- The value to publish on an output that holds `held`: a given scalar, else the last value pulled
that has the output's kind, else what the output holds. -/
def valueFor (given : Option Scalar) (pulled : List Value) (held : Value) :
    Except ConversionError Value :=
  match given with
  | some scalar => Value.ofScalar held.kind scalar
  | none => .ok ((lastOfKind? pulled held.kind).getD held)

/-- The values for outputs in order, up to the first that cannot be had. -/
def valuesFor (given : Option Scalar) (pulled : List Value) :
    List Value → List Value × Option OperationError
  | [] => ([], none)
  | held :: rest =>
      match valueFor given pulled held with
      | .error cause => ([], some (.conversion cause))
      | .ok value =>
          let (values, failure) := valuesFor given pulled rest
          (value :: values, failure)

/-- Fails with a given cause, or publishes on each output. -/
def scripted (checksRequired : Bool) (failure : Option OperationError) (given : Option Scalar) :
    Rule where
  checksRequired := checksRequired
  respond pulled held :=
    match failure with
    | some cause => ([], some cause)
    | none => valuesFor given pulled held

end DemandFlow.Rule
