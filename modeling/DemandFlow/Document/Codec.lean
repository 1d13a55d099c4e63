import DemandFlow.Catalog.Registry
import DemandFlow.Document.Json
import DemandFlow.Document.Uuid
import DemandFlow.Graph.Connection
import DemandFlow.Graph.Validation

/-!
Contract: how the library's data is stored in JSON documents.

Owns: a writer and a reader for operations, recipes, node types and links.

Does not own: JSON values as such (`Document.Json`).

Each reader accepts what its writer makes, and more: fields in any order, fields it does not know,
and identifiers in every form that `Uuid.read?` accepts.
-/

namespace DemandFlow

namespace Kind

def toJson (kind : Kind) : Json := .text kind.tag

def ofJson? : Json → Option Kind := Json.member? all tag

end Kind

namespace Direction

def tag : Direction → String
  | .input => "Input"
  | .output => "Output"

def ofJson? : Json → Option Direction := Json.member? [.input, .output] tag

end Direction

def Category.ofJson? : Json → Option Category := Json.member? Category.all Category.name

def Validation.ofJson? : Json → Option Validation := Json.member? Validation.all Validation.name

def ArithmeticOp.ofJson? : Json → Option ArithmeticOp :=
  Json.member? ArithmeticOp.all ArithmeticOp.name

def BitwiseOp.ofJson? : Json → Option BitwiseOp := Json.member? BitwiseOp.all BitwiseOp.name

def ComparisonOp.ofJson? : Json → Option ComparisonOp :=
  Json.member? ComparisonOp.all ComparisonOp.name

def MathOp.ofJson? : Json → Option MathOp := Json.member? MathOp.all MathOp.name

namespace Operator

def toJson : Operator → Json
  | .arithmetic op => .tagged "Arithmetic" (.text op.name)
  | .bitwise op => .tagged "Bitwise" (.text op.name)
  | .complement => .text "Not"
  | .comparison op => .tagged "Comparison" (.text op.name)
  | .epsilonEqualTo => .text "EpsilonEqualTo"
  | .epsilonNotEqualTo => .text "EpsilonNotEqualTo"
  | .math op => .tagged "Math" (.text op.name)

/-- Reads an operation that has no further choice. -/
def ofPlainJson? (json : Json) : Option Operator :=
  Json.member? [.complement, .epsilonEqualTo, .epsilonNotEqualTo] name json

/-- Reads an operation that is one of a family. -/
def ofFamilyJson? (json : Json) : Option Operator :=
  match json.variant? with
  | some ("Arithmetic", some content) => (ArithmeticOp.ofJson? content).map .arithmetic
  | some ("Bitwise", some content) => (BitwiseOp.ofJson? content).map .bitwise
  | some ("Comparison", some content) => (ComparisonOp.ofJson? content).map .comparison
  | some ("Math", some content) => (MathOp.ofJson? content).map .math
  | _ => none

def ofJson? (json : Json) : Option Operator := (ofPlainJson? json).or (ofFamilyJson? json)

end Operator

namespace Recipe

def toJson : Recipe → Json
  | .constant kind => .tagged "Constant" kind.toJson
  | .selector kind => .tagged "Selector" kind.toJson
  | .cast source target =>
      .tagged "Cast" (.record [("from", source.toJson), ("to", target.toJson)])
  | .operator op kind => .tagged "Operator" (.record [("op", op.toJson), ("kind", kind.toJson)])

/-- Reads a recipe. The content of a cast or an operator, variants with named fields, is a record and
not the list of its fields' values. -/
def ofJson? (json : Json) : Option Recipe :=
  match json.variant? with
  | some ("Constant", some content) => (Kind.ofJson? content).map .constant
  | some ("Selector", some content) => (Kind.ofJson? content).map .selector
  | some ("Cast", some (.record fields)) => do
      let source ← (fields.lookup "from").bind Kind.ofJson?
      let target ← (fields.lookup "to").bind Kind.ofJson?
      return .cast source target
  | some ("Operator", some (.record fields)) => do
      let op ← (fields.lookup "op").bind Operator.ofJson?
      let kind ← (fields.lookup "kind").bind Kind.ofJson?
      return .operator op kind
  | _ => none

end Recipe

namespace NodeType

def toJson (nodeType : NodeType) : Json :=
  .record [("id", .text nodeType.id), ("category", .text nodeType.category.name),
    ("description", .text nodeType.description), ("recipe", nodeType.recipe.toJson)]

def ofJson? (json : Json) : Option NodeType :=
  match json.fields? ["id", "category", "description", "recipe"] with
  | some [id, category, description, recipe] => do
      return ⟨← id.text?, ← Category.ofJson? category, ← description.text?, ← Recipe.ofJson? recipe⟩
  | _ => none

end NodeType

namespace Uuid

def toJson (uuid : Uuid) : Json := .text uuid.text

def ofJson? (json : Json) : Option Uuid := json.text?.bind read?

end Uuid

namespace Connection

def toJson (connection : Connection Uuid) : Json :=
  .record [("from_node", connection.fromNode.toJson), ("from_port", .text connection.fromPort),
    ("to_node", connection.toNode.toJson), ("to_port", .text connection.toPort)]

def ofJson? (json : Json) : Option (Connection Uuid) :=
  match json.fields? ["from_node", "from_port", "to_node", "to_port"] with
  | some [fromNode, fromPort, toNode, toPort] => do
      return ⟨← Uuid.ofJson? fromNode, ← fromPort.text?, ← Uuid.ofJson? toNode, ← toPort.text?⟩
  | _ => none

end Connection

end DemandFlow
