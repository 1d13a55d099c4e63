import DemandFlow.Graph.Basic

/-!
Contract: which nodes and ports are alive.

Owns: handles on nodes and ports, and the release of what nothing holds any more.

Main statements: a collection leaves no living node that nothing keeps (`doomed_collect`), and
changes no port (`ports_collect`).

Does not own: the links that hold nodes (`Graph.Link`).

A node lives while a handle holds it, or while a living input of another node is linked to one of
its outputs; an input lives with its node, or while a handle holds it. So a chain of nodes is held
by its last one, an input of a node does not hold that node itself, and nodes that hold each other
in a ring stay.
-/

namespace DemandFlow.Graph

/-- Whether a node has been made and not been freed. -/
def nodeAlive (graph : Graph) (id : NodeId) : Bool :=
  decide (id < graph.nodes.size) && !(graph.node id).freed

/-- Whether a port is held by a handle or belongs to a living node. -/
def portAlive (graph : Graph) (id : PortId) : Bool :=
  decide (0 < (graph.port id).saved) ||
    ((graph.port id).attached && graph.nodeAlive (graph.port id).owner)

/-- Whether a node has a handle or a living input of another node among its sinks. -/
def kept (graph : Graph) (id : NodeId) : Bool :=
  decide (0 < (graph.node id).held) ||
    (graph.node id).outputs.any fun output =>
      (graph.port output).sinks.any fun sink =>
        graph.portAlive sink && (graph.port sink).owner != id

/-- The living nodes, in the order in which they were made. -/
def living (graph : Graph) : List NodeId :=
  (List.range graph.nodes.size).filter graph.nodeAlive

/-- The living nodes that nothing keeps. -/
def doomed (graph : Graph) : List NodeId := graph.living.filter fun id => !graph.kept id

def free (graph : Graph) (ids : List NodeId) : Graph :=
  ids.foldl (fun graph id => graph.modifyNode id fun node => { node with freed := true }) graph

theorem nodes_size_free (graph : Graph) (ids : List NodeId) :
    (graph.free ids).nodes.size = graph.nodes.size := by
  unfold free
  induction ids generalizing graph with
  | nil => rfl
  | cons first rest inductionHypothesis =>
      rw [List.foldl_cons, inductionHypothesis]
      simp [modifyNode]

@[simp]
theorem ports_free (graph : Graph) (ids : List NodeId) : (graph.free ids).ports = graph.ports := by
  unfold free
  induction ids generalizing graph with
  | nil => rfl
  | cons first rest inductionHypothesis =>
      rw [List.foldl_cons, inductionHypothesis]
      rfl

theorem freed_free (graph : Graph) (ids : List NodeId) {id : NodeId}
    (bound : id < graph.nodes.size) :
    ((graph.free ids).node id).freed = ((graph.node id).freed || decide (id ∈ ids)) := by
  unfold free
  induction ids generalizing graph with
  | nil => simp
  | cons first rest inductionHypothesis =>
      rw [List.foldl_cons, inductionHypothesis _ (by simpa [modifyNode] using bound)]
      by_cases same : first = id
      · subst same
        rw [node_modifyNode_same _ _ bound]
        simp
      · rw [node_modifyNode_other _ _ same]
        have other : ¬ id = first := fun equal => same equal.symm
        simp [other]

theorem living_free (graph : Graph) (ids : List NodeId) :
    (graph.free ids).living = graph.living.filter fun id => !ids.contains id := by
  unfold living
  rw [nodes_size_free, List.filter_filter]
  apply List.filter_congr
  intro id member
  have bound : id < graph.nodes.size := List.mem_range.mp member
  simp [nodeAlive, nodes_size_free, freed_free graph ids bound, bound, Bool.and_comm]

theorem length_living_le (graph : Graph) : graph.living.length ≤ graph.nodes.size := by
  have bound := List.length_filter_le graph.nodeAlive (List.range graph.nodes.size)
  rwa [List.length_range] at bound

/-- A round in which something is freed leaves fewer living nodes. -/
theorem length_living_free_doomed_lt {graph : Graph} (someDoomed : graph.doomed ≠ []) :
    (graph.free graph.doomed).living.length < graph.living.length := by
  obtain ⟨id, member⟩ := List.exists_mem_of_ne_nil graph.doomed someDoomed
  have alive : id ∈ graph.living := (List.mem_filter.mp member).1
  rw [living_free]
  apply Nat.lt_of_le_of_ne (List.length_filter_le _ _)
  intro equal
  have stays := List.length_filter_eq_length_iff.mp equal id alive
  simp [member] at stays

/-- Frees what nothing keeps, then what only that kept, for at most so many rounds. -/
def collectWithin : Nat → Graph → Graph
  | 0, graph => graph
  | rounds + 1, graph =>
      match graph.doomed with
      | [] => graph
      | ids => collectWithin rounds (graph.free ids)

/-- Frees every node that nothing keeps. Each round but the last frees a node, so there are never
more rounds than nodes. -/
def collect (graph : Graph) : Graph := collectWithin graph.nodes.size graph

theorem doomed_collectWithin {rounds : Nat} {graph : Graph}
    (enough : graph.living.length ≤ rounds) : (collectWithin rounds graph).doomed = [] := by
  induction rounds generalizing graph with
  | zero =>
      have empty : graph.living = [] := List.length_eq_zero_iff.mp (Nat.le_zero.mp enough)
      simp [collectWithin, doomed, empty]
  | succ rounds inductionHypothesis =>
      unfold collectWithin
      split
      · assumption
      · rename_i someDoomed
        apply inductionHypothesis
        have fewer := length_living_free_doomed_lt someDoomed
        omega

/-- After a collection every living node is kept. -/
theorem doomed_collect (graph : Graph) : graph.collect.doomed = [] :=
  doomed_collectWithin graph.length_living_le

@[simp]
theorem ports_collectWithin (rounds : Nat) (graph : Graph) :
    (collectWithin rounds graph).ports = graph.ports := by
  induction rounds generalizing graph with
  | zero => rfl
  | succ rounds inductionHypothesis =>
      unfold collectWithin
      split
      · rfl
      · rw [inductionHypothesis, ports_free]

@[simp]
theorem ports_collect (graph : Graph) : graph.collect.ports = graph.ports :=
  ports_collectWithin graph.nodes.size graph

@[simp]
theorem port_collect (graph : Graph) (id : PortId) : graph.collect.port id = graph.port id := by
  unfold port
  rw [ports_collect]

def hold (graph : Graph) (id : NodeId) : Graph :=
  graph.modifyNode id fun node => { node with held := node.held + 1 }

def release (graph : Graph) (id : NodeId) : Graph :=
  (graph.modifyNode id fun node => { node with held := node.held - 1 }).collect

/-- Takes a handle on a port. -/
def save (graph : Graph) (id : PortId) : Graph :=
  graph.modifyPort id fun port => { port with saved := port.saved + 1 }

def discard (graph : Graph) (id : PortId) : Graph :=
  (graph.modifyPort id fun port => { port with saved := port.saved - 1 }).collect

end DemandFlow.Graph
