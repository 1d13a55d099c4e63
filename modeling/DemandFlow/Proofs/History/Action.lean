import DemandFlow.Evaluation.Demand
import DemandFlow.Graph.Blueprint
import DemandFlow.Graph.Connect

/-!
Contract: everything that a program can do to a graph, as data.

Owns: the requests to link two ports, in each of the ways there are; the actions on a graph, what
they do, and when the handles that a program can have allow them.

Does not own: runs of actions (`Proofs.History.Reachable`).
-/

namespace DemandFlow

/-- A request to link an output and an input. -/
inductive LinkRequest where
  /-- Two ports whose directions and kinds are known to fit. -/
  | direct (output input : PortId)
  /-- Two ports in any order. -/
  | ports (a b : PortId)
  /-- A node's output and a node's input, by name. -/
  | names (source : NodeId) (output : String) (target : NodeId) (input : String)
  /-- An output, and a node's input by name. -/
  | intoNode (output : PortId) (node : NodeId) (input : String)
  /-- An input, and a node's output by name. -/
  | fromNode (input : PortId) (node : NodeId) (output : String)

namespace LinkRequest

/-- The steps that a request takes. -/
def linking : LinkRequest → Linking Unit
  | .direct output input => .link input output
  | .ports a b => .connectPorts a b
  | .names source output target input => .connect source output target input
  | .intoNode output node input => .connectInput output node input
  | .fromNode input node output => .connectOutput input node output

/-- What a request comes to: whether it is granted, or why not, and the graph that it leaves. -/
def run (graph : Graph) (request : LinkRequest) : EStateM.Result ConnectionError Graph Unit :=
  request.linking.run graph

/-- The graph that a request leaves, whether it is granted or refused. -/
def perform (graph : Graph) (request : LinkRequest) : Graph :=
  match request.run graph with
  | .ok () after => after
  | .error _ after => after

/-- The input and the output that a request means. -/
def endpoints (graph : Graph) : LinkRequest → Option (PortId × PortId)
  | .direct output input => some (input, output)
  | .ports a b =>
      match (graph.port a).direction with
      | .input => some (a, b)
      | .output => some (b, a)
  | .names source output target input =>
      ((graph.node target).ports.get? input).bind fun targetPort =>
        ((graph.node source).ports.get? output).map fun sourcePort => (targetPort, sourcePort)
  | .intoNode output node input =>
      ((graph.node node).ports.get? input).map fun targetPort => (targetPort, output)
  | .fromNode input node output =>
      ((graph.node node).ports.get? output).map fun sourcePort => (input, sourcePort)

end LinkRequest

/-- What a program can do to a graph. -/
inductive Action where
  | create (plan : Blueprint) (displayName : String)
  | createLoose (plan : PortPlan) (owner : NodeId)
  | rename (node : NodeId) (displayName : String)
  | setConstant (node : NodeId) (value : Value)
  | assign (input : PortId) (value : Value)
  | publish (output : PortId) (value : Value)
  | link (request : LinkRequest)
  | disconnect (port : PortId)
  | demand (pass : Pass) (node : NodeId)
  | pull (pass : Pass) (input : PortId)
  | hold (node : NodeId)
  | release (node : NodeId)
  | save (port : PortId)
  | discard (port : PortId)

namespace Graph

/-- Whether a handle on a port can be had: the port is alive, or feeds a living input. -/
def Present (graph : Graph) (id : PortId) : Prop :=
  graph.portAlive id = true ∨
    ∃ input, graph.portAlive input = true ∧ (graph.port input).source = some id

/-- Whether a handle on an input of a kind can be had. -/
def PresentInput (graph : Graph) (id : PortId) (kind : Kind) : Prop :=
  graph.Present id ∧ (graph.port id).direction = .input ∧ (graph.port id).kind = kind

/-- Whether a handle on an output of a kind can be had. -/
def PresentOutput (graph : Graph) (id : PortId) (kind : Kind) : Prop :=
  graph.Present id ∧ (graph.port id).direction = .output ∧ (graph.port id).kind = kind

end Graph

/-- Whether the handles that a program can have allow a request. -/
def LinkRequest.Allowed (graph : Graph) : LinkRequest → Prop
  | .direct output input =>
      ∃ kind, graph.PresentOutput output kind ∧ graph.PresentInput input kind
  | .ports a b => graph.Present a ∧ graph.Present b
  | .names source _ target _ => graph.nodeAlive source = true ∧ graph.nodeAlive target = true
  | .intoNode output node _ =>
      (∃ kind, graph.PresentOutput output kind) ∧ graph.nodeAlive node = true
  | .fromNode input node _ =>
      (∃ kind, graph.PresentInput input kind) ∧ graph.nodeAlive node = true

namespace Action

/-- Whether the handles that a program can have allow an action, if nodes are made from admitted
blueprints only. -/
def Allowed (admitted : Blueprint → Prop) (graph : Graph) : Action → Prop
  | .create plan _ => admitted plan
  | .createLoose _ owner => owner < graph.nodes.size
  | .rename node _ => graph.nodeAlive node = true
  | .setConstant node value =>
      graph.nodeAlive node = true ∧ (graph.constantValue? node).map (·.kind) = some value.kind
  | .assign input value => graph.PresentInput input value.kind
  | .publish output value => graph.PresentOutput output value.kind
  | .link request => request.Allowed graph
  | .disconnect port => graph.Present port
  | .demand _ node => graph.nodeAlive node = true
  | .pull _ input => ∃ kind, graph.PresentInput input kind
  | .hold node => graph.nodeAlive node = true
  | .release node => 0 < (graph.node node).held
  | .save port => graph.Present port
  | .discard port => 0 < (graph.port port).saved

/-- What an action makes of a graph. -/
def apply (graph : Graph) : Action → Graph
  | .create plan displayName => (graph.add plan displayName).1
  | .createLoose plan owner => (graph.addLoose plan owner).1
  | .rename node displayName => graph.rename node displayName
  | .setConstant node value => graph.setConstant node value
  | .assign input value => graph.assign input value
  | .publish output value => graph.publish output value
  | .link request => request.perform graph
  | .disconnect port => graph.disconnect port
  | .demand pass node => (Run.compute ⟨graph, pass⟩ node).2.graph
  | .pull pass input => (Run.pull ⟨graph, pass⟩ input).2.graph
  | .hold node => graph.hold node
  | .release node => graph.release node
  | .save port => graph.save port
  | .discard port => graph.discard port

end Action

end DemandFlow
