import DemandFlow.Catalog.Registry
import DemandFlow.Evaluation.Demand
import DemandFlow.Graph.Connect
import DemandFlow.Graph.Inspection
import DemandFlow.Workspace.Bindings

/-!
Contract: a graph with names for its nodes, ports and passes.

Owns: handles, the labels of nodes, the journal of evaluated custom nodes, and the requests that
concern them.

Does not own: the graph's own operations (`Graph`) and its evaluation (`Evaluation`).

A name that is bound again gives back the handle it had. A node is labelled by the name under which
it was made; the second node made under one name is marked `#2`, and so on.
-/

namespace DemandFlow

/-- A graph with names for what it holds. -/
structure Workspace where
  graph : Graph
  nodes : Bindings NodeId
  ports : Bindings PortId
  passes : Bindings Pass
  /-- The name under which each node was made, by node number. -/
  makers : Array String
  /-- The label of each node, by node number. -/
  labels : Array String
  /-- The nodes that were made as constants whose value may be set. -/
  settable : List NodeId
  /-- The display names of the custom nodes evaluated since the journal was last read. -/
  journal : List String
deriving Inhabited

namespace Workspace

def empty : Workspace := ⟨.empty, .empty, .empty, .empty, #[], #[], [], []⟩

def label (workspace : Workspace) (id : NodeId) : String := workspace.labels.getD id ""

/-- Binds a name to a node of which a handle has been taken. -/
def bindNode (workspace : Workspace) (name : String) (id : NodeId) : Workspace :=
  let previous := workspace.nodes.get? name
  let bound := { workspace with nodes := workspace.nodes.set name id }
  match previous with
  | some old => { bound with graph := bound.graph.release old }
  | none => bound

def make (workspace : Workspace) (name : String) (plan : Blueprint) (displayName : String) :
    Workspace × NodeId :=
  let earlier := workspace.makers.count name
  let label := if earlier = 0 then name else name ++ "#" ++ toString (earlier + 1)
  let (graph, id) := workspace.graph.add plan displayName
  let made :=
    { workspace with
      graph := graph
      makers := workspace.makers.push name
      labels := workspace.labels.push label }
  (made.bindNode name id, id)

/-- Makes a constant whose value may be set. -/
def makeConstant (workspace : Workspace) (name : String) (value : Value) (displayName : String) :
    Workspace × NodeId :=
  let (made, id) := workspace.make name (.constant value) displayName
  ({ made with settable := id :: made.settable }, id)

def addName (workspace : Workspace) (name : String) (id : NodeId) : Workspace :=
  { workspace with graph := workspace.graph.hold id }.bindNode name id

/-- Gives up the name of a node; false if there is no such name. -/
def dropNode (workspace : Workspace) (name : String) : Workspace × Bool :=
  match workspace.nodes.get? name with
  | some id =>
      ({ workspace with
          graph := workspace.graph.release id
          nodes := workspace.nodes.erase name }, true)
  | none => (workspace, false)

/-- Binds a name to a port of which a handle has been taken. -/
def bindPort (workspace : Workspace) (name : String) (id : PortId) : Workspace :=
  let previous := workspace.ports.get? name
  let bound := { workspace with ports := workspace.ports.set name id }
  match previous with
  | some old => { bound with graph := bound.graph.discard old }
  | none => bound

def savePort (workspace : Workspace) (name : String) (id : PortId) : Workspace :=
  { workspace with graph := workspace.graph.save id }.bindPort name id

/-- Makes a port that bears the name of an owner it cannot reach, and binds a name to it. -/
def makeLoosePort (workspace : Workspace) (name : String) (plan : PortPlan) (owner : NodeId) :
    Workspace :=
  let (graph, id) := workspace.graph.addLoose plan owner
  { workspace with graph := graph }.bindPort name id

/-- Gives up the name of a port; false if there is no such name. -/
def dropPort (workspace : Workspace) (name : String) : Workspace × Bool :=
  match workspace.ports.get? name with
  | some id =>
      ({ workspace with
          graph := workspace.graph.discard id
          ports := workspace.ports.erase name }, true)
  | none => (workspace, false)

def dropAll (workspace : Workspace) : Workspace :=
  let released := workspace.nodes.targets.foldl Graph.release workspace.graph
  { workspace with
    graph := workspace.ports.targets.foldl Graph.discard released
    nodes := .empty
    ports := .empty }

/-- The display names of the custom nodes among some nodes. -/
def customNames (graph : Graph) (ids : List NodeId) : List String :=
  ids.filterMap fun id =>
    match (graph.node id).behaviour with
    | .custom _ => some (graph.node id).displayName
    | _ => none

/-- Evaluates as part of a pass and notes the custom nodes that were evaluated. -/
def run {Result : Type} (workspace : Workspace) (pass : Pass) (action : Run → Outcome Result) :
    Except EvaluationError Result × Pass × Workspace :=
  let (result, after) := action ⟨workspace.graph, pass⟩
  let begun := (after.pass.trace.take (after.pass.visits - pass.visits)).reverse
  (result, after.pass,
    { workspace with
      graph := after.graph
      journal := workspace.journal ++ customNames after.graph begun })

def runNamed {Result : Type} (workspace : Workspace) (name : String) (pass : Pass)
    (action : Run → Outcome Result) : Except EvaluationError Result × Pass × Workspace :=
  let (result, after, next) := workspace.run pass action
  (result, after, { next with passes := next.passes.set name after })

/-- Computes a node in a fresh pass. -/
def compute (workspace : Workspace) (id : NodeId) : Except EvaluationError Unit × Workspace :=
  let (result, _, next) := workspace.run .plain (·.compute id)
  (result, next)

/-- Why a chain is not made to its end. -/
inductive ChainError where
  | registry (cause : RegistryError)
  | connection (cause : ConnectionError)
deriving DecidableEq, Repr

/-- What the links of a chain are made of. -/
structure Chain where
  /-- What the names of the nodes begin with; the number of the node follows. -/
  name : String
  kindName : String
  /-- The inputs that are linked to the node before. -/
  inputs : List String
  /-- The output that feeds the next node. -/
  output : String
  /-- Whether the nodes keep their names; if not, only the last does. -/
  keep : Bool

/-- Links an output to several inputs of a node, up to the first refusal. -/
def connectAll (source : NodeId) (output : String) (target : NodeId) (inputs : List String) :
    Linking Unit :=
  inputs.forM fun input => Linking.connect source output target input

/-- Makes `remaining` nodes, each fed by the one before, up to the first failure. -/
def extendChain (chain : Chain) (number : Nat) (source : NodeId) (output : String) :
    (remaining : Nat) → Workspace → Except ChainError Unit × Workspace
  | 0, workspace => (.ok (), workspace)
  | remaining + 1, workspace =>
      let name := chain.name ++ toString number
      match Registry.withOperators.blueprint chain.kindName with
      | .error cause => (.error (.registry cause), workspace)
      | .ok plan =>
          let (made, id) := workspace.make name plan name
          match (connectAll source output id chain.inputs).run made.graph with
          | .error cause graph => (.error (.connection cause), { made with graph := graph })
          | .ok () graph =>
              let made := { made with graph := graph }
              let trimmed :=
                if chain.keep || number = 0 then made
                else (made.dropNode (chain.name ++ toString (number - 1))).1
              extendChain chain (number + 1) id chain.output remaining trimmed

def living (workspace : Workspace) : List String :=
  workspace.graph.living.map workspace.label

def overview (workspace : Workspace) : List String :=
  workspace.nodes.targets.map (workspace.graph.overviewOfNode workspace.label)

end Workspace

end DemandFlow
