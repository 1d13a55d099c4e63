import DemandFlow.Evaluation.Error
import DemandFlow.Evaluation.Pass
import DemandFlow.Graph.Validation

/-!
Contract: evaluation on demand.

Owns: the evaluation of a node, which first evaluates the nodes that feed its inputs, and the
demands that callers make.

Does not own: what a pass remembers (`Evaluation.Pass`).

Evaluations nest as deep as there are nodes and no deeper: a node that is in progress is not begun
again, but reported as a cycle. The nesting allowed is an argument of the recursion, and the
demands that callers make allow as much as the graph can need.
-/

namespace DemandFlow

/-- The graph and the memory of the pass, as an evaluation changes them. -/
structure Run where
  graph : Graph
  pass : Pass
deriving Inhabited

/-- The outcome of a step of an evaluation: a result or a failure, and the state it leaves. -/
abbrev Outcome (Result : Type) := Except EvaluationError Result × Run

namespace Run

def mapGraph (run : Run) (change : Graph → Graph) : Run := { run with graph := change run.graph }

def mapPass (run : Run) (change : Pass → Pass) : Run := { run with pass := change run.pass }

end Run

/-- Fails on the first required input of a set of ports that is not linked. -/
def Graph.ensureRequired (graph : Graph) (set : PortSet) : Except EvaluationError Unit :=
  match graph.firstMissing? set with
  | some port => .error (.notReady (graph.port port).owner (graph.port port).name)
  | none => .ok ()

namespace Demand

variable (demand : NodeId → Run → Option (Outcome Unit))

/-- Computes the node that feeds an input and reads the input. An input that no living node feeds
is read as it stands, unless it is required. -/
def pull (input : PortId) (run : Run) : Option (Outcome Value) :=
  match run.graph.sourceNode? input with
  | some node =>
      match demand node run with
      | none => none
      | some (.error failure, after) => some (.error failure, after)
      | some (.ok (), after) => some (.ok (after.graph.port input).value, after)
  | none =>
      let port := run.graph.port input
      if port.required then some (.error (.notReady port.owner port.name), run)
      else some (.ok port.value, run)

/-- Pulls inputs in order, up to the first failure. -/
def pullAll : List PortId → Run → Option (Outcome (List Value))
  | [], run => some (.ok [], run)
  | input :: rest, run =>
      match pull demand input run with
      | none => none
      | some (.error failure, after) => some (.error failure, after)
      | some (.ok value, after) =>
          match pullAll rest after with
          | none => none
          | some (.error failure, last) => some (.error failure, last)
          | some (.ok values, last) => some (.ok (value :: values), last)

def publishAll : List PortId → List Value → Graph → Graph
  | output :: outputs, value :: values, graph =>
      publishAll outputs values (graph.publish output value)
  | _, _, graph => graph

/-- Checks the required inputs if asked to, pulls every input, and publishes what the node
responds to their values and to the values of its outputs. -/
def respond (id : NodeId) (checksRequired : Bool)
    (response : List Value → List Value → List Value × Option OperationError) (run : Run) :
    Option (Outcome Unit) :=
  let node := run.graph.node id
  match (if checksRequired then run.graph.firstMissing? node.ports else none) with
  | some port =>
      some (.error (.notReady (run.graph.port port).owner (run.graph.port port).name), run)
  | none =>
      match pullAll demand node.inputs run with
      | none => none
      | some (.error failure, after) => some (.error failure, after)
      | some (.ok values, after) =>
          let held := node.outputs.map fun output => (after.graph.port output).value
          let (published, failure) := response values held
          let last := after.mapGraph (publishAll node.outputs published)
          match failure with
          | none => some (.ok (), last)
          | some cause => some (.error (.failed id node.kindName cause), last)

/-- The check that a response may begin with is `Graph.ensureRequired`. -/
theorem respond_checking (id : NodeId)
    (response : List Value → List Value → List Value × Option OperationError) (run : Run) :
    respond demand id true response run =
      match run.graph.ensureRequired (run.graph.node id).ports with
      | .error failure => some (.error failure, run)
      | .ok () => respond demand id false response run := by
  unfold respond Graph.ensureRequired
  simp only [↓reduceIte, Bool.false_eq_true]
  cases run.graph.firstMissing? (run.graph.node id).ports with
  | some port => rfl
  | none => rfl

/-- What a formula responds: its value, or its failure and nothing to publish. -/
def formulaResponse (formula : Formula) (values _held : List Value) :
    List Value × Option OperationError :=
  match formula.run values with
  | .ok value => ([value], none)
  | .error cause => ([], some cause)

/-- Does what a node does when it is evaluated. -/
def evaluate (id : NodeId) (run : Run) : Option (Outcome Unit) :=
  match (run.graph.node id).behaviour with
  | .constant value =>
      some (.ok (), run.mapGraph (publishAll (run.graph.node id).outputs [value]))
  | .formula formula => respond demand id true (formulaResponse formula) run
  | .custom rule => respond demand id rule.checksRequired rule.respond run

end Demand

/-- Computes a node as part of a pass, with evaluations nested at most `depth` deep; `none` if
that is not enough. -/
def demandWithin : (depth : Nat) → NodeId → Run → Option (Outcome Unit)
  | 0, _, _ => none
  | depth + 1, id, run =>
      if run.pass.inProgress.contains id then some (.error (.cycle id), run)
      else if run.pass.canReuse id then some (.ok (), run)
      else
        match Demand.evaluate (demandWithin depth) id (run.mapPass (·.start id)) with
        | none => none
        | some (.ok (), after) => some (.ok (), after.mapPass (·.finish id))
        | some (.error failure, after) => some (.error failure, after.mapPass (·.abandon id))

namespace Run

/-- A depth that no evaluation in the graph exceeds: every node may be in progress once, and the
last demand finds one of them. -/
def depth (run : Run) : Nat := run.graph.nodes.size + 1

/-- Computes a node as part of a pass. -/
def compute (run : Run) (id : NodeId) : Outcome Unit :=
  (demandWithin run.depth id run).getD (.error (.cycle id), run)

/-- Computes the node that feeds an input, and reads the input. -/
def pull (run : Run) (input : PortId) : Outcome Value :=
  (Demand.pull (demandWithin run.depth) input run).getD
    (.error (.cycle (run.graph.port input).owner), run)

end Run

end DemandFlow
