import DemandFlow.Operation.Formula

/-!
Contract: the state of a dataflow graph.

Owns: ports, nodes, what a node does when it is evaluated, the sets that nodes register their
ports in, and the graph as two tables with their look-ups and updates.

Does not own: links (`Graph.Link`), lifetimes (`Graph.Lifetime`) and evaluation (`Evaluation`).

Nodes and ports are numbered in the order in which they are made and keep their numbers. A link is
stored on both of its ports: the input names its source, and the output lists its sinks.
-/

namespace DemandFlow

abbrev NodeId := Nat

abbrev PortId := Nat

/-- Which way values pass through a port. -/
inductive Direction where
  | input
  | output
deriving DecidableEq, Repr, Inhabited

namespace Direction

def name : Direction → String
  | .input => "input"
  | .output => "output"

def opposite : Direction → Direction
  | .input => .output
  | .output => .input

end Direction

structure Port where
  name : String
  direction : Direction
  owner : NodeId
  /-- Whether the port can reach its owner. A port that cannot is no part of that node. -/
  attached : Bool
  /-- Whether an input has to be linked before its node can compute. -/
  required : Bool
  value : Value
  source : Option PortId
  /-- The inputs that this output feeds, in the order in which they were linked. An input that has
  been freed stays listed until the list is tidied. -/
  sinks : List PortId
  /-- How many handles hold the port itself. -/
  saved : Nat
deriving Inhabited

namespace Port

def kind (port : Port) : Kind := port.value.kind

/-- Puts a value into the port. A value of another kind is not taken, so a port keeps its kind. -/
def store (port : Port) (value : Value) : Port :=
  if value.kind = port.kind then { port with value } else port

@[simp]
theorem kind_store (port : Port) (value : Value) : (port.store value).kind = port.kind := by
  unfold store
  split
  · assumption
  · rfl

theorem value_store {port : Port} {value : Value} (sameKind : value.kind = port.kind) :
    (port.store value).value = value := by
  simp [store, sameKind]

end Port

/-- The ports that a node has registered, by name. -/
structure PortSet where
  /-- The first port of each name, in the order of registration. -/
  entries : List (String × PortId)
  /-- The names that were registered again. -/
  clashes : List String
deriving DecidableEq, Repr, Inhabited

namespace PortSet

def empty : PortSet := ⟨[], []⟩

def get? (set : PortSet) (name : String) : Option PortId := set.entries.lookup name

/-- Registers a port. If its name is taken the first port stays, and the clash is recorded. -/
def insert (set : PortSet) (name : String) (port : PortId) : PortSet :=
  match set.get? name with
  | some _ => { set with clashes := set.clashes ++ [name] }
  | none => { set with entries := set.entries ++ [(name, port)] }

def ports (set : PortSet) : List PortId := set.entries.map Prod.snd

theorem insert_of_free {set : PortSet} {name : String} (port : PortId)
    (free : set.get? name = none) :
    set.insert name port = { set with entries := set.entries ++ [(name, port)] } := by
  simp [insert, free]

theorem insert_of_taken {set : PortSet} {name : String} {first : PortId} (port : PortId)
    (taken : set.get? name = some first) :
    set.insert name port = { set with clashes := set.clashes ++ [name] } := by
  simp [insert, taken]

theorem get?_insert_free {set : PortSet} {name : String} (port : PortId)
    (free : set.get? name = none) : (set.insert name port).get? name = some port := by
  rw [insert_of_free port free]
  unfold get? at free ⊢
  rw [List.lookup_append, free]
  simp

theorem get?_insert_taken {set : PortSet} {name : String} {first : PortId} (port : PortId)
    (taken : set.get? name = some first) : (set.insert name port).get? name = some first := by
  rw [insert_of_taken port taken]
  exact taken

theorem get?_insert_other (set : PortSet) {name other : String} (port : PortId)
    (different : other ≠ name) : (set.insert name port).get? other = set.get? other := by
  have unequal : (other == name) = false := by simpa using different
  cases found : set.get? name with
  | some first =>
      rw [insert_of_taken port found]
      rfl
  | none =>
      rw [insert_of_free port found]
      simp [get?, List.lookup_append, List.lookup_cons, unequal]

end PortSet

/-- What a node made by a caller does when it is evaluated. -/
structure Rule where
  /-- Whether required inputs are checked before any input is pulled. -/
  checksRequired : Bool
  /-- From the values pulled and the values the outputs hold: the values to publish, in the order
  of the outputs, and the failure that follows them, if any. -/
  respond : List Value → List Value → List Value × Option OperationError

/-- What a node does when it is evaluated. -/
inductive Behaviour where
  /-- Publishes a value. -/
  | constant (value : Value)
  /-- Publishes the value of a formula applied to its inputs. -/
  | formula (formula : Formula)
  /-- Follows a rule of its maker. -/
  | custom (rule : Rule)
deriving Inhabited

structure Node where
  kindName : String
  displayName : String
  /-- The inputs, in the order in which they are pulled. -/
  inputs : List PortId
  /-- The outputs, in the order in which they are published. -/
  outputs : List PortId
  ports : PortSet
  behaviour : Behaviour
  /-- How many handles hold the node. -/
  held : Nat
  freed : Bool
deriving Inhabited

structure Graph where
  nodes : Array Node
  ports : Array Port
deriving Inhabited

namespace Graph

def empty : Graph := ⟨#[], #[]⟩

def node (graph : Graph) (id : NodeId) : Node := graph.nodes.getD id default

def port (graph : Graph) (id : PortId) : Port := graph.ports.getD id default

def modifyNode (graph : Graph) (id : NodeId) (change : Node → Node) : Graph :=
  { graph with nodes := graph.nodes.modify id change }

def modifyPort (graph : Graph) (id : PortId) (change : Port → Port) : Graph :=
  { graph with ports := graph.ports.modify id change }

/-- The set in which ports are registered one after the other, each under its name. -/
def gather (graph : Graph) (ports : List PortId) : PortSet :=
  ports.foldl (fun set port => set.insert (graph.port port).name port) .empty

def ofDirection (graph : Graph) (direction : Direction) (ports : List PortId) : List PortId :=
  ports.filter fun id => (graph.port id).direction = direction

def inputsOf (graph : Graph) (set : PortSet) : List PortId := graph.ofDirection .input set.ports

def outputsOf (graph : Graph) (set : PortSet) : List PortId := graph.ofDirection .output set.ports

/-- A port as one of a direction and a kind, if it is one. -/
def typed? (graph : Graph) (id : PortId) (direction : Direction) (kind : Kind) : Option PortId :=
  if (graph.port id).kind = kind ∧ (graph.port id).direction = direction then some id else none

/-- The port that a node has under a name, if it is one of a direction and a kind. -/
def findTyped? (graph : Graph) (node : NodeId) (name : String) (direction : Direction)
    (kind : Kind) : Option PortId :=
  ((graph.node node).ports.get? name).bind fun port => graph.typed? port direction kind

theorem typed?_eq_some {graph : Graph} {id : PortId} {direction : Direction} {kind : Kind}
    (sameKind : (graph.port id).kind = kind)
    (sameDirection : (graph.port id).direction = direction) :
    graph.typed? id direction kind = some id :=
  if_pos ⟨sameKind, sameDirection⟩

theorem node_modifyNode_same (graph : Graph) {id : NodeId} (change : Node → Node)
    (bound : id < graph.nodes.size) :
    (graph.modifyNode id change).node id = change (graph.node id) := by
  simp [node, modifyNode, Array.getD, bound, Array.getElem_modify]

theorem node_modifyNode_other (graph : Graph) {id other : NodeId} (change : Node → Node)
    (different : id ≠ other) : (graph.modifyNode id change).node other = graph.node other := by
  by_cases bound : other < graph.nodes.size <;>
    simp [node, modifyNode, Array.getD, bound, Array.getElem_modify, different]

theorem port_modifyPort_same (graph : Graph) {id : PortId} (change : Port → Port)
    (bound : id < graph.ports.size) :
    (graph.modifyPort id change).port id = change (graph.port id) := by
  simp [port, modifyPort, Array.getD, bound, Array.getElem_modify]

theorem port_modifyPort_other (graph : Graph) {id other : PortId} (change : Port → Port)
    (different : id ≠ other) : (graph.modifyPort id change).port other = graph.port other := by
  by_cases bound : other < graph.ports.size <;>
    simp [port, modifyPort, Array.getD, bound, Array.getElem_modify, different]

/-- A change that leaves a port's value alone leaves every port's value alone. -/
theorem value_modifyPort (graph : Graph) (id other : PortId) {change : Port → Port}
    (keeps : ∀ port, (change port).value = port.value) :
    ((graph.modifyPort id change).port other).value = (graph.port other).value := by
  by_cases same : id = other
  · subst same
    by_cases bound : id < graph.ports.size
    · rw [port_modifyPort_same graph change bound]
      exact keeps _
    · simp [port, modifyPort, Array.getD, bound]
  · rw [port_modifyPort_other graph change same]

@[simp]
theorem port_modifyNode (graph : Graph) (id : NodeId) (change : Node → Node) (other : PortId) :
    (graph.modifyNode id change).port other = graph.port other := rfl

@[simp]
theorem node_modifyPort (graph : Graph) (id : PortId) (change : Port → Port) (other : NodeId) :
    (graph.modifyPort id change).node other = graph.node other := rfl

end Graph

end DemandFlow
