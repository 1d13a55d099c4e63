import DemandFlow.Graph.Basic

/-!
Contract: why a node is not computed.

Owns: the causes and their texts.

Does not own: why an operation has no result (`Operation.Error`).
-/

namespace DemandFlow

inductive EvaluationError where
  /-- A required input of the node is not linked. -/
  | notReady (node : NodeId) (port : String)
  /-- The node is needed for its own computation. -/
  | cycle (node : NodeId)
  /-- The node's function has no result. -/
  | failed (node : NodeId) (kindName : String) (cause : OperationError)
deriving DecidableEq, Repr

namespace EvaluationError

/-- The text of a failure; `label` tells how a node is called. -/
def message (label : NodeId → String) : EvaluationError → String
  | .notReady node port => "Missing required input '" ++ port ++ "' on node " ++ label node
  | .cycle node => "Graph contains a cycle through node " ++ label node
  | .failed node kindName cause =>
      "Node " ++ label node ++ " (" ++ kindName ++ ") failed: " ++ cause.message

def node : EvaluationError → NodeId
  | .notReady node _ | .cycle node | .failed node _ _ => node

end EvaluationError

end DemandFlow
