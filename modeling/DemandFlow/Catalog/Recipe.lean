import DemandFlow.Graph.Blueprint
import DemandFlow.Operation.Operator

/-!
Contract: recipes, which name the nodes of the catalogue as plain data.

Owns: recipes, the kind names and categories of the nodes they build, and the building.

Does not own: the registry that finds recipes by name (`Catalog.Registry`).
-/

namespace DemandFlow

inductive Category where
  | input
  | math
  | logic
  | comparison
  | conversion
deriving DecidableEq, Repr

namespace Category

def all : List Category := [.input, .math, .logic, .comparison, .conversion]

def name : Category → String
  | .input => "Input"
  | .math => "Math"
  | .logic => "Logic"
  | .comparison => "Comparison"
  | .conversion => "Conversion"

end Category

/-- The category of the nodes that apply an operation. -/
def Operator.category : Operator → Category
  | .arithmetic _ | .math _ => .math
  | .bitwise _ | .complement => .logic
  | .comparison _ | .epsilonEqualTo | .epsilonNotEqualTo => .comparison

/-- How to build a node. -/
inductive Recipe where
  /-- A constant that holds the default of its kind. -/
  | constant (kind : Kind)
  | selector (kind : Kind)
  /-- A checked conversion. -/
  | cast (source target : Kind)
  | operator (op : Operator) (kind : Kind)
deriving DecidableEq, Repr

/-- Why the catalogue builds no node. -/
inductive RegistryError where
  | unknownKind (kindName : String)
  | notAConstant (kindName : String)
  | conversion (cause : ConversionError)
  | unsupported (op : Operator) (kind : Kind)
deriving DecidableEq, Repr

namespace RegistryError

def message : RegistryError → String
  | .unknownKind kindName => "Unknown node kind: '" ++ kindName ++ "'"
  | .notAConstant kindName => "Node kind '" ++ kindName ++ "' is not a constant"
  | .conversion cause => cause.message
  | .unsupported op kind => op.name ++ " is not defined for " ++ kind.name

end RegistryError

namespace Recipe

def kindName : Recipe → String
  | .constant kind => kind.name ++ "Constant"
  | .selector kind => kind.name ++ "SelectiveValue"
  | .cast source target => source.name ++ "To" ++ target.name
  | .operator op kind => kind.name ++ op.name

def category : Recipe → Category
  | .constant _ => .input
  | .selector _ => .logic
  | .cast _ _ => .conversion
  | .operator op _ => op.category

def description : Recipe → String
  | .constant kind => "Constant " ++ kind.name ++ " source"
  | .selector kind => "Selects one of two " ++ kind.name ++ " values"
  | .cast source target => "Checked conversion from " ++ source.name ++ " to " ++ target.name
  | .operator op kind => op.name ++ " over " ++ kind.name

/-- The node that a recipe builds. Only an operation on a kind it is not defined for has none. -/
def blueprint (recipe : Recipe) : Except RegistryError Blueprint :=
  match recipe with
  | .constant kind => .ok (.constant (Value.ofDefault kind))
  | .selector kind => .ok (.selector kind)
  | .cast source target => .ok (.operator recipe.kindName (.conversion source target))
  | .operator op kind =>
      match op.formula? kind with
      | some formula => .ok (.operator recipe.kindName formula)
      | none => .error (.unsupported op kind)

end Recipe

end DemandFlow
