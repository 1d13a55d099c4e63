import DemandFlow.Graph.Link

/-!
Contract: links as records.

Owns: the record of a link, the links that enter a node, and when two ports count as the same.

Does not own: links as state (`Graph.Link`).
-/

namespace DemandFlow

/-- A link as seen from its input. Nodes are identified by `Key`. -/
structure Connection (Key : Type) where
  fromNode : Key
  fromPort : String
  toNode : Key
  toPort : String
deriving DecidableEq, Repr

namespace Connection

variable {Key : Type} [DecidableEq Key]

def involves (connection : Connection Key) (node : Key) : Bool :=
  connection.fromNode == node || connection.toNode == node

def isSelfLoop (connection : Connection Key) : Bool := connection.fromNode == connection.toNode

end Connection

namespace Port

/-- Whether two ports have one name and one owner. -/
def isSame (port other : Port) : Bool := port.name == other.name && port.owner == other.owner

end Port

namespace Graph

/-- The owner and the name of the output that feeds an input. -/
def sourceEndpoint? (graph : Graph) (input : PortId) : Option (NodeId × String) :=
  (graph.port input).source.map fun output =>
    ((graph.port output).owner, (graph.port output).name)

/-- The links that enter a node, in the order of its inputs. -/
def incoming (graph : Graph) (id : NodeId) : List (Connection NodeId) :=
  (graph.inputsOf (graph.node id).ports).filterMap fun input =>
    (graph.sourceEndpoint? input).map fun source =>
      { fromNode := source.1
        fromPort := source.2
        toNode := id
        toPort := (graph.port input).name }

end Graph

end DemandFlow
