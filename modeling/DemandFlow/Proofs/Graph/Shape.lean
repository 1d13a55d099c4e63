import DemandFlow.Graph.Blueprint
import DemandFlow.Graph.Link

/-!
Contract: what a node and its ports keep from the moment they are made.

Owns: the relation between two states of a graph in which every node and every port has kept its
shape, and the look-ups after an update that it rests on.

Main statements: no link, value or handle that comes or goes changes a shape
(`sameShape_clearSource`, `sameShape_clearSinks`, `sameShape_publish`, `sameShape_collect`).

Does not own: which shapes nodes have (`Proofs.Graph.Making`).
-/

namespace DemandFlow

/-- Two states of one port, which differ at most in value, links and handles. -/
structure Port.SameShape (before after : Port) : Prop where
  name : after.name = before.name
  direction : after.direction = before.direction
  owner : after.owner = before.owner
  attached : after.attached = before.attached
  required : after.required = before.required
  kind : after.kind = before.kind

theorem Port.SameShape.refl (port : Port) : port.SameShape port := ⟨rfl, rfl, rfl, rfl, rfl, rfl⟩

theorem Port.SameShape.trans {first second third : Port} (earlier : first.SameShape second)
    (later : second.SameShape third) : first.SameShape third where
  name := later.name.trans earlier.name
  direction := later.direction.trans earlier.direction
  owner := later.owner.trans earlier.owner
  attached := later.attached.trans earlier.attached
  required := later.required.trans earlier.required
  kind := later.kind.trans earlier.kind

theorem Port.sameShape_store (port : Port) (value : Value) : port.SameShape (port.store value) := by
  refine ⟨?_, ?_, ?_, ?_, ?_, kind_store port value⟩ <;> unfold store <;> split <;> rfl

/-- Two states of one behaviour: a constant may publish another value of its kind. -/
inductive Behaviour.SameShape : Behaviour → Behaviour → Prop where
  | refl (behaviour : Behaviour) : SameShape behaviour behaviour
  | constant {before after : Value} (kind : after.kind = before.kind) :
      SameShape (.constant before) (.constant after)

theorem Behaviour.SameShape.trans {first second third : Behaviour}
    (earlier : first.SameShape second) (later : second.SameShape third) :
    first.SameShape third := by
  cases earlier with
  | refl => exact later
  | constant kind =>
      cases later with
      | refl => exact .constant kind
      | constant laterKind => exact .constant (laterKind.trans kind)

/-- Two states of one node, which differ at most in label, constant and handles. -/
structure Node.SameShape (before after : Node) : Prop where
  kindName : after.kindName = before.kindName
  inputs : after.inputs = before.inputs
  outputs : after.outputs = before.outputs
  ports : after.ports = before.ports
  behaviour : before.behaviour.SameShape after.behaviour

theorem Node.SameShape.refl (node : Node) : node.SameShape node := ⟨rfl, rfl, rfl, rfl, .refl _⟩

theorem Node.SameShape.trans {first second third : Node} (earlier : first.SameShape second)
    (later : second.SameShape third) : first.SameShape third where
  kindName := later.kindName.trans earlier.kindName
  inputs := later.inputs.trans earlier.inputs
  outputs := later.outputs.trans earlier.outputs
  ports := later.ports.trans earlier.ports
  behaviour := earlier.behaviour.trans later.behaviour

namespace Graph

/-- Two states of one graph with the same nodes and ports, each in its shape. -/
structure SameShape (before after : Graph) : Prop where
  nodes_size : after.nodes.size = before.nodes.size
  ports_size : after.ports.size = before.ports.size
  node : ∀ id, (before.node id).SameShape (after.node id)
  port : ∀ id, (before.port id).SameShape (after.port id)

theorem SameShape.refl (graph : Graph) : graph.SameShape graph :=
  ⟨rfl, rfl, fun _ => .refl _, fun _ => .refl _⟩

theorem SameShape.trans {first second third : Graph} (earlier : first.SameShape second)
    (later : second.SameShape third) : first.SameShape third where
  nodes_size := later.nodes_size.trans earlier.nodes_size
  ports_size := later.ports_size.trans earlier.ports_size
  node id := (earlier.node id).trans (later.node id)
  port id := (earlier.port id).trans (later.port id)

@[simp]
theorem nodes_size_modifyNode (graph : Graph) (id : NodeId) (change : Node → Node) :
    (graph.modifyNode id change).nodes.size = graph.nodes.size := by
  simp [modifyNode]

@[simp]
theorem ports_size_modifyPort (graph : Graph) (id : PortId) (change : Port → Port) :
    (graph.modifyPort id change).ports.size = graph.ports.size := by
  simp [modifyPort]

theorem node_of_size_le {graph : Graph} {id : NodeId} (beyond : graph.nodes.size ≤ id) :
    graph.node id = default := by
  simp [node, Array.getD, Nat.not_lt.mpr beyond]

theorem port_of_size_le {graph : Graph} {id : PortId} (beyond : graph.ports.size ≤ id) :
    graph.port id = default := by
  simp [port, Array.getD, Nat.not_lt.mpr beyond]

/-- A port that has a property that an unmade one lacks has been made. -/
theorem port_lt_of_ne_default {graph : Graph} {id : PortId} (made : graph.port id ≠ default) :
    id < graph.ports.size :=
  Nat.lt_of_not_le fun beyond => made (port_of_size_le beyond)

theorem port_lt_of_attached {graph : Graph} {id : PortId}
    (attached : (graph.port id).attached = true) : id < graph.ports.size := by
  apply port_lt_of_ne_default
  intro unmade
  rw [unmade] at attached
  cases attached

theorem port_modifyPort (graph : Graph) (id other : PortId) (change : Port → Port) :
    (graph.modifyPort id change).port other =
      if other = id ∧ id < graph.ports.size then change (graph.port id) else graph.port other := by
  by_cases same : other = id
  · subst same
    by_cases bound : other < graph.ports.size
    · rw [port_modifyPort_same graph change bound, if_pos ⟨rfl, bound⟩]
    · have beyond : graph.ports.size ≤ other := Nat.not_lt.mp bound
      rw [if_neg fun both => bound both.2, port_of_size_le (by simpa using beyond),
        port_of_size_le beyond]
  · rw [port_modifyPort_other graph change fun equal => same equal.symm,
      if_neg fun both => same both.1]

theorem node_modifyNode (graph : Graph) (id other : NodeId) (change : Node → Node) :
    (graph.modifyNode id change).node other =
      if other = id ∧ id < graph.nodes.size then change (graph.node id) else graph.node other := by
  by_cases same : other = id
  · subst same
    by_cases bound : other < graph.nodes.size
    · rw [node_modifyNode_same graph change bound, if_pos ⟨rfl, bound⟩]
    · have beyond : graph.nodes.size ≤ other := Nat.not_lt.mp bound
      rw [if_neg fun both => bound both.2, node_of_size_le (by simpa using beyond),
        node_of_size_le beyond]
  · rw [node_modifyNode_other graph change fun equal => same equal.symm,
      if_neg fun both => same both.1]

/-- A port after an update is the one before, or its change. -/
theorem port_modifyPort_cases (graph : Graph) (id other : PortId) (change : Port → Port) :
    (graph.modifyPort id change).port other = graph.port other ∨
      (graph.modifyPort id change).port other = change (graph.port other) := by
  rw [port_modifyPort]
  split
  · rename_i changed
    rw [changed.1]
    exact Or.inr rfl
  · exact Or.inl rfl

/-- A node after an update is the one before, or its change. -/
theorem node_modifyNode_cases (graph : Graph) (id other : NodeId) (change : Node → Node) :
    (graph.modifyNode id change).node other = graph.node other ∨
      (graph.modifyNode id change).node other = change (graph.node other) := by
  rw [node_modifyNode]
  split
  · rename_i changed
    rw [changed.1]
    exact Or.inr rfl
  · exact Or.inl rfl

theorem SameShape.modifyPort {before graph : Graph} (earlier : before.SameShape graph)
    {id : PortId} {change : Port → Port} (keeps : ∀ port : Port, port.SameShape (change port)) :
    before.SameShape (graph.modifyPort id change) where
  nodes_size := earlier.nodes_size
  ports_size := (ports_size_modifyPort graph id change).trans earlier.ports_size
  node := earlier.node
  port other := by
    apply (earlier.port other).trans
    rcases port_modifyPort_cases graph id other change with same | changed
    · rw [same]
      exact .refl _
    · rw [changed]
      exact keeps _

theorem SameShape.modifyNode {before graph : Graph} (earlier : before.SameShape graph)
    {id : NodeId} {change : Node → Node}
    (keeps : (graph.node id).SameShape (change (graph.node id))) :
    before.SameShape (graph.modifyNode id change) where
  nodes_size := (nodes_size_modifyNode graph id change).trans earlier.nodes_size
  ports_size := earlier.ports_size
  node other := by
    apply (earlier.node other).trans
    rw [node_modifyNode]
    split
    · rename_i changed
      rw [changed.1]
      exact keeps
    · exact .refl _
  port := earlier.port

/-- A fold of updates keeps shapes if every update does. -/
theorem sameShape_foldl {Item : Type} {update : Graph → Item → Graph}
    (keeps : ∀ (graph : Graph) (item : Item), graph.SameShape (update graph item))
    (items : List Item) (graph : Graph) : graph.SameShape (items.foldl update graph) := by
  induction items generalizing graph with
  | nil => exact .refl graph
  | cons item rest inductionHypothesis =>
      exact (keeps graph item).trans (inductionHypothesis (update graph item))

theorem sameShape_free (graph : Graph) (ids : List NodeId) : graph.SameShape (graph.free ids) := by
  apply sameShape_foldl
  intro graph id
  exact (SameShape.refl graph).modifyNode ⟨rfl, rfl, rfl, rfl, .refl _⟩

theorem sameShape_collectWithin (rounds : Nat) (graph : Graph) :
    graph.SameShape (collectWithin rounds graph) := by
  induction rounds generalizing graph with
  | zero => exact .refl graph
  | succ rounds inductionHypothesis =>
      unfold collectWithin
      split
      · exact .refl graph
      · exact (sameShape_free graph _).trans (inductionHypothesis _)

theorem sameShape_collect (graph : Graph) : graph.SameShape graph.collect :=
  sameShape_collectWithin graph.nodes.size graph

theorem sameShape_clearSource (graph : Graph) (input : PortId) :
    graph.SameShape (graph.clearSource input) := by
  unfold clearSource
  split
  · exact .refl graph
  · refine ((SameShape.refl graph).modifyPort ?_).modifyPort ?_
    · exact fun _ => ⟨rfl, rfl, rfl, rfl, rfl, rfl⟩
    · exact fun _ => ⟨rfl, rfl, rfl, rfl, rfl, rfl⟩

theorem sameShape_clearSinks (graph : Graph) (output : PortId) :
    graph.SameShape (graph.clearSinks output) := by
  unfold clearSinks
  refine .trans (.modifyPort (.refl graph) ?_) (sameShape_foldl ?_ _ _)
  · exact fun _ => ⟨rfl, rfl, rfl, rfl, rfl, rfl⟩
  · intro graph input
    split
    · exact sameShape_clearSource graph input
    · exact .refl graph

theorem sameShape_publish (graph : Graph) (output : PortId) (value : Value) :
    graph.SameShape (graph.publish output value) := by
  unfold publish
  refine .trans (.modifyPort (.refl graph) ?_) (sameShape_foldl ?_ _ _)
  · exact fun port => (Port.sameShape_store port value).trans ⟨rfl, rfl, rfl, rfl, rfl, rfl⟩
  · intro graph input
    exact (SameShape.refl graph).modifyPort fun port => Port.sameShape_store port value

end Graph

end DemandFlow
