import DemandFlow.Graph.Connection
import DemandFlow.Graph.Validation
import DemandFlow.Text.Escape

/-!
Contract: texts that show nodes and ports.

Owns: the full description of a node and of a port, and the one-line overview of a node.

Does not own: how nodes are called, which the caller tells.
-/

namespace DemandFlow.Graph

/-- Text in double quotes; of the quotes only the double one is escaped. -/
def quoted (text : String) : String := String.ofList (Escape.quote ['"'] text)

def directionTitle : Direction → String
  | .input => "Input"
  | .output => "Output"

def describeNode (graph : Graph) (label : NodeId → String) (id : NodeId) : String :=
  let node := graph.node id
  "Node \x7b id: NodeId(" ++ label id ++ "), kind: " ++ quoted node.kindName ++ ", name: " ++
    quoted node.displayName ++ ", ports: " ++ toString node.ports.entries.length ++ " \x7d"

def describePort (graph : Graph) (label : NodeId → String) (id : PortId) : String :=
  let port := graph.port id
  "PortCell \x7b name: " ++ quoted port.name ++ ", direction: " ++ directionTitle port.direction ++
    ", kind: " ++ port.kind.tag ++ ", owner: NodeId(" ++ label port.owner ++ "), value: " ++
    port.value.textIn .inspection ++ ", linked: " ++ toString (graph.isLinked id) ++ " \x7d"

/-- A port in an overview: its value, and where its links lead. -/
def overviewOfPort (graph : Graph) (label : NodeId → String) (id : PortId) : String :=
  let port := graph.port id
  let links :=
    match port.direction with
    | .input =>
        match graph.sourceEndpoint? id with
        | some (owner, name) => "<" ++ label owner ++ "." ++ name
        | none => ""
    | .output =>
        match graph.linkedOwners id with
        | [] => ""
        | owners => ">" ++ ",".intercalate (owners.map label)
  " " ++ port.name ++ "=" ++ port.value.text ++ links

/-- A node in an overview: its verdict and its ports. -/
def overviewOfNode (graph : Graph) (label : NodeId → String) (id : NodeId) : String :=
  label id ++ " " ++ (graph.validate id).name ++
    String.join ((graph.node id).ports.ports.map (graph.overviewOfPort label))

end DemandFlow.Graph
