import DemandFlow.Graph.Link

/-!
Contract: the ways to link an output and an input.

Owns: the checks before a link is made, their order, the causes of refusal and their texts.

Does not own: the link itself (`Graph.Link`).

Every way to link is a sequence of steps on the graph, and what a step has changed by the time of a
refusal stays. Ports given by name are checked for their name, then for direction, then for kind;
ports given as such are checked for kind, then for direction. That the output's node is still there
is checked last, before the link that the input had is taken off.
-/

namespace DemandFlow

inductive ConnectionError where
  | unknownPort (node : NodeId) (port : String)
  | typeMismatch (expected found : Kind)
  | directionMismatch (port : String) (expected found : Direction)
  | detachedPort (port : String)
deriving DecidableEq, Repr

namespace ConnectionError

/-- The text of a refusal; `label` tells how a node is called. -/
def message (label : NodeId → String) : ConnectionError → String
  | .unknownPort node port => "Port not found: '" ++ port ++ "' on node " ++ label node
  | .typeMismatch expected found =>
      "Incompatible port types: expected " ++ expected.name ++ ", found " ++ found.name
  | .directionMismatch port expected found =>
      "Port '" ++ port ++ "' is an " ++ found.name ++ " port, expected an " ++ expected.name ++
        " port"
  | .detachedPort port => "Port '" ++ port ++ "' belongs to a node that no longer exists"

end ConnectionError

/-- A step on the way to a link: it has a result or is refused, and leaves a graph in both cases. -/
abbrev Linking := EStateM ConnectionError Graph

/-- Two ports as an input and an output. If they are one of each, the first tells which is which. -/
def Graph.ends (graph : Graph) (a b : PortId) : PortId × PortId :=
  match (graph.port a).direction with
  | .input => (a, b)
  | .output => (b, a)

namespace Linking

/-! ### Checks -/

/-- Is refused unless a condition holds. -/
def ensure (condition : Prop) [Decidable condition] (cause : ConnectionError) : Linking Unit :=
  if condition then return () else throw cause

def find (node : NodeId) (name : String) : Linking PortId := do
  match ((← get).node node).ports.get? name with
  | some port => return port
  | none => throw (.unknownPort node name)

/-- Checks the direction of a port that was asked for by name. -/
def checkDirection (port : PortId) (name : String) (direction : Direction) : Linking Unit := do
  let found := ((← get).port port).direction
  ensure (found = direction) (.directionMismatch name direction found)

def checkKind (port : PortId) (kind : Kind) : Linking Unit := do
  let found := ((← get).port port).kind
  ensure (found = kind) (.typeMismatch kind found)

/-- Checks that an output's node can still be reached and held. -/
def checkNode (output : PortId) : Linking Unit := do
  let graph ← get
  ensure (graph.canFeed output) (.detachedPort (graph.port output).name)

/-- The port of a name with a direction and a kind. -/
def lookup (node : NodeId) (name : String) (direction : Direction) (kind : Kind) :
    Linking PortId := do
  let port ← find node name
  checkDirection port name direction
  checkKind port kind
  return port

/-- The port of a name as one of a direction and a kind. -/
def lookupTyped (node : NodeId) (name : String) (direction : Direction) (kind : Kind) :
    Linking PortId := do
  let found ← lookup node name direction kind
  let graph ← get
  match graph.typed? found direction kind with
  | some port => return port
  | none => throw (.typeMismatch kind (graph.port found).kind)

/-! ### Links -/

/-- Links an output to an input of the same kind. The link that the input had is taken off once
nothing can fail any more. -/
def link (input output : PortId) : Linking Unit := do
  checkNode output
  modify fun graph => graph.clearSource input
  modify fun graph => graph.attach input output
  modify fun graph => graph.collect

/-- Links two ports as an input and an output of a kind. -/
def linkTyped (kind : Kind) (a b : PortId) : Linking Unit := do
  let graph ← get
  let ends := graph.ends a b
  match graph.typed? ends.1 .input kind, graph.typed? ends.2 .output kind with
  | some input, some output => link input output
  | _, _ => throw (.typeMismatch (graph.port a).kind (graph.port b).kind)

/-- Links two ports, in whichever order they are given. -/
def connectPorts (a b : PortId) : Linking Unit := do
  let graph ← get
  checkKind b (graph.port a).kind
  checkDirection b (graph.port b).name (graph.port a).direction.opposite
  linkTyped (graph.port a).kind a b

/-- Links an output and an input given by the names of their ports. The source is checked before
the target is looked at. -/
def connect (source : NodeId) (output : String) (target : NodeId) (input : String) :
    Linking Unit := do
  let sourcePort ← find source output
  checkDirection sourcePort output .output
  let targetPort ← lookup target input .input ((← get).port sourcePort).kind
  connectPorts sourcePort targetPort

/-- Links an output to a node's input of a name. -/
def connectInput (output : PortId) (node : NodeId) (target : String) : Linking Unit := do
  let input ← lookupTyped node target .input ((← get).port output).kind
  link input output

/-- Links an input to a node's output of a name. -/
def connectOutput (input : PortId) (node : NodeId) (target : String) : Linking Unit := do
  let output ← lookupTyped node target .output ((← get).port input).kind
  link input output

end Linking

end DemandFlow
