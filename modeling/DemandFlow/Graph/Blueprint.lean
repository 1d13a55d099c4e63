import DemandFlow.Graph.Basic

/-!
Contract: making nodes.

Owns: the plan of a node and of its ports, and the plans of constants, formulas and selectors.

Does not own: which plan a kind name stands for (`Catalog.Recipe`).
-/

namespace DemandFlow

structure PortPlan where
  name : String
  direction : Direction
  required : Bool
  value : Value

namespace PortPlan

/-- An input that has to be linked; it holds the default of its kind. -/
def requiredInput (name : String) (kind : Kind) : PortPlan :=
  ⟨name, .input, true, Value.ofDefault kind⟩

/-- An input that reads as the given value until it is linked. -/
def optionalInput (name : String) (value : Value) : PortPlan := ⟨name, .input, false, value⟩

/-- An output that holds the given value. -/
def output (name : String) (value : Value) : PortPlan := ⟨name, .output, false, value⟩

def toPort (plan : PortPlan) (owner : NodeId) (attached : Bool) : Port where
  name := plan.name
  direction := plan.direction
  owner := owner
  attached := attached
  required := plan.required
  value := plan.value
  source := none
  sinks := []
  saved := 0

end PortPlan

structure Blueprint where
  kindName : String
  ports : List PortPlan
  behaviour : Behaviour

namespace Blueprint

/-- A source of a value, which its output holds from the start. -/
def constant (value : Value) : Blueprint where
  kindName := value.kind.name ++ "Constant"
  ports := [.output "Value" value]
  behaviour := .constant value

/-- A node that applies a formula to its inputs, which have the given names. -/
def ofFormula (kindName : String) (inputs : List String) (output : String) (formula : Formula) :
    Blueprint where
  kindName := kindName
  ports :=
    List.zipWith PortPlan.requiredInput inputs formula.operands ++
      [.output output (Value.ofDefault formula.result)]
  behaviour := .formula formula

/-- The input names of an operator, by how many operands it has. -/
def operandNames (count : Nat) : List String :=
  if count = 1 then ["In"] else ["X", "Y", "Z"].take count

/-- A node that applies a formula and has the port names of an operator. -/
def operator (kindName : String) (formula : Formula) : Blueprint :=
  ofFormula kindName (operandNames formula.operands.length) "Result" formula

/-- A node that passes on one of two values. Both are computed, whichever is chosen. -/
def selector (kind : Kind) : Blueprint :=
  ofFormula (kind.name ++ "SelectiveValue") ["Control", "X", "Y"] "Value" (.selection kind)

/-- A node that follows a rule of its maker. -/
def custom (kindName : String) (ports : List PortPlan) (rule : Rule) : Blueprint :=
  ⟨kindName, ports, .custom rule⟩

end Blueprint

namespace Graph

def add (graph : Graph) (plan : Blueprint) (displayName : String) : Graph × NodeId :=
  let owner := graph.nodes.size
  let numbered := plan.ports.zipIdx graph.ports.size
  let numbersOf (direction : Direction) : List PortId :=
    (numbered.filter fun entry => entry.1.direction = direction).map Prod.snd
  let node : Node :=
    { kindName := plan.kindName
      displayName := displayName
      inputs := numbersOf .input
      outputs := numbersOf .output
      ports := numbered.foldl (fun set entry => set.insert entry.1.name entry.2) .empty
      behaviour := plan.behaviour
      held := 1
      freed := false }
  ({ nodes := graph.nodes.push node
     ports := plan.ports.foldl (fun ports port => ports.push (port.toPort owner true)) graph.ports },
    owner)

/-- Makes a port that bears the name of an owner it cannot reach, held by one handle. -/
def addLoose (graph : Graph) (plan : PortPlan) (owner : NodeId) : Graph × PortId :=
  ({ graph with ports := graph.ports.push { plan.toPort owner false with saved := 1 } },
    graph.ports.size)

def rename (graph : Graph) (id : NodeId) (displayName : String) : Graph :=
  graph.modifyNode id fun node => { node with displayName }

def constantValue? (graph : Graph) (id : NodeId) : Option Value :=
  match (graph.node id).behaviour with
  | .constant value => some value
  | _ => none

/-- Sets the value that a constant publishes from its next evaluation on. -/
def setConstant (graph : Graph) (id : NodeId) (value : Value) : Graph :=
  graph.modifyNode id fun node =>
    match node.behaviour with
    | .constant _ => { node with behaviour := .constant value }
    | _ => node

end Graph

end DemandFlow
