import DemandFlow.Graph.Link

/-!
Contract: the structural check of a node's ports and links.

Owns: the verdicts, the check, and the search for a required input that is not linked.

Does not own: cycles through several nodes, which the check does not look for.
-/

namespace DemandFlow

/-- The verdict on a set of ports. -/
inductive Validation where
  | success
  | nullConnectionPoint
  | recursiveConnection
  | duplicateInput
  | neitherSourceNorDestination
  | requiredConnectionsNotFulfilled
  | invalidDestination
  | invalidSource
deriving DecidableEq, Repr

namespace Validation

def all : List Validation :=
  [.success, .nullConnectionPoint, .recursiveConnection, .duplicateInput,
    .neitherSourceNorDestination, .requiredConnectionsNotFulfilled, .invalidDestination,
    .invalidSource]

def name : Validation → String
  | .success => "Success"
  | .nullConnectionPoint => "NullConnectionPoint"
  | .recursiveConnection => "RecursiveConnection"
  | .duplicateInput => "DuplicateInput"
  | .neitherSourceNorDestination => "NeitherSourceNorDestination"
  | .requiredConnectionsNotFulfilled => "RequiredConnectionsNotFulfilled"
  | .invalidDestination => "InvalidDestination"
  | .invalidSource => "InvalidSource"

def isSuccess (verdict : Validation) : Bool := verdict == .success

/-- Of several issues, a recursive connection counts first, then the first one found. -/
def ofIssues (issues : List Validation) : Option Validation :=
  if issues.contains .recursiveConnection then some .recursiveConnection else issues.head?

end Validation

namespace Graph

/-- What is wrong with one entry of an output's list. -/
def sinkIssue (graph : Graph) (output sink : PortId) : Option Validation :=
  if !graph.portAlive sink then some .nullConnectionPoint
  else if (graph.port sink).owner = (graph.port output).owner then some .recursiveConnection
  else if (graph.port sink).source = some output then none
  else some .invalidDestination

/-- What is wrong with an input's link. -/
def sourceIssue (graph : Graph) (input : PortId) : Option Validation :=
  match (graph.port input).source with
  | none => none
  | some output =>
      if (graph.port output).owner = (graph.port input).owner then some .recursiveConnection
      else if (graph.port output).sinks.contains input then none
      else some .invalidSource

/-- What is wrong with a port's links. -/
def linkIssue (graph : Graph) (id : PortId) : Option Validation :=
  match (graph.port id).direction with
  | .input => graph.sourceIssue id
  | .output => Validation.ofIssues ((graph.port id).sinks.filterMap (graph.sinkIssue id))

/-- Whether a port is a required input without a link. -/
def isMissing (graph : Graph) (id : PortId) : Bool :=
  (graph.port id).required && !graph.isLinked id

/-- The first required input of a set of ports that is not linked. -/
def firstMissing? (graph : Graph) (set : PortSet) : Option PortId :=
  (graph.inputsOf set).find? graph.isMissing

def validatePorts (graph : Graph) (set : PortSet) : Validation :=
  if set.entries.isEmpty then .neitherSourceNorDestination
  else if !set.clashes.isEmpty then .duplicateInput
  else if (graph.inputsOf set).any graph.isMissing then .requiredConnectionsNotFulfilled
  else (Validation.ofIssues (set.ports.filterMap graph.linkIssue)).getD .success

def validate (graph : Graph) (id : NodeId) : Validation := graph.validatePorts (graph.node id).ports

end Graph

end DemandFlow
