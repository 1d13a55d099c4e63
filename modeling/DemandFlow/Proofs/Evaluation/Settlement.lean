import DemandFlow.Proofs.Evaluation.Frame
import DemandFlow.Proofs.Evaluation.Reference
import DemandFlow.Proofs.History.Reachable

/-!
Contract: the ports of a graph after the values of some nodes have been published.

Owns: which node's value a port receives, the ports as publications leave them, and the step from
one publication to the next.

Main statements: publishing the value of a node settles that node too (`Tracks.publish`); which
nodes are settled determines the graph (`Tracks.unique`); and nodes settled later add to those
settled before (`Tracks.trans`).

Does not own: which nodes an evaluation settles (`Proofs.Evaluation.Outcome`).
-/

namespace DemandFlow.Graph

/-! ### Settled ports -/

/-- The node whose value a port receives: an output that of its owner, a living input that of the
node that it is linked to. -/
def origin? (graph : Graph) (id : PortId) : Option NodeId :=
  match (graph.port id).direction with
  | .output => if (graph.port id).attached then some (graph.port id).owner else none
  | .input => if graph.portAlive id then graph.feeder? id else none

/-- The value that a port has received once some nodes are done. -/
def delivered? (graph : Graph) (done : List NodeId) (id : PortId) : Option Value :=
  (graph.origin? id).bind fun node =>
    if node ∈ done then (graph.reference [] node).toOption else none

/-- A port that holds a value received. An output's list has lost its dead entries. -/
def received (graph : Graph) (id : PortId) (value : Value) : Port :=
  { graph.port id with
    value
    sinks :=
      match (graph.port id).direction with
      | .output => graph.liveSinks id
      | .input => (graph.port id).sinks }

theorem received_output {graph : Graph} {id : PortId}
    (outgoing : (graph.port id).direction = .output) (value : Value) :
    graph.received id value = { graph.port id with value, sinks := graph.liveSinks id } := by
  unfold received
  rw [outgoing]

theorem received_input {graph : Graph} {id : PortId}
    (incoming : (graph.port id).direction = .input) (value : Value) :
    graph.received id value = { graph.port id with value } := by
  unfold received
  rw [incoming]

/-- A port once some nodes are done. -/
def settled (graph : Graph) (done : List NodeId) (id : PortId) : Port :=
  match graph.delivered? done id with
  | some value => graph.received id value
  | none => graph.port id

theorem settled_eq (graph : Graph) (done : List NodeId) (id : PortId) :
    graph.settled done id =
      { graph.port id with
        value := (graph.settled done id).value
        sinks := (graph.settled done id).sinks } := by
  unfold settled
  split <;> rfl

theorem sinks_settled_input (graph : Graph) (done : List NodeId) {id : PortId}
    (incoming : (graph.port id).direction = .input) :
    (graph.settled done id).sinks = (graph.port id).sinks := by
  unfold settled
  split
  · rw [received_input incoming]
  · rfl

theorem settled_congr (graph : Graph) {done other : List NodeId}
    (same : ∀ node, node ∈ done ↔ node ∈ other) (id : PortId) :
    graph.settled done id = graph.settled other id := by
  simp only [settled, delivered?, same]

theorem settled_of_done {graph : Graph} {done : List NodeId} {id : PortId} {node : NodeId}
    {value : Value} (origin : graph.origin? id = some node) (isDone : node ∈ done)
    (computed : graph.reference [] node = .ok value) :
    graph.settled done id = graph.received id value := by
  have delivered : graph.delivered? done id = some value := by
    simp [delivered?, origin, isDone, computed, Except.toOption]
  rw [settled, delivered]

theorem settled_of_not_done {graph : Graph} {done : List NodeId} {id : PortId}
    (others : ∀ node ∈ done, graph.origin? id ≠ some node) :
    graph.settled done id = graph.port id := by
  have undelivered : graph.delivered? done id = none := by
    unfold delivered?
    cases origin : graph.origin? id with
    | none => rfl
    | some node =>
        have notDone : node ∉ done := fun isDone => others node isDone origin
        rw [Option.bind_some, if_neg notDone]
  rw [settled, undelivered]

theorem value_settled {graph : Graph} {done : List NodeId} {id : PortId} {node : NodeId}
    {value : Value} (origin : graph.origin? id = some node) (isDone : node ∈ done)
    (computed : graph.reference [] node = .ok value) : (graph.settled done id).value = value := by
  rw [settled_of_done origin isDone computed]
  rfl

theorem settled_cons {graph : Graph} {node : NodeId} {value : Value}
    (computed : graph.reference [] node = .ok value) (done : List NodeId) (id : PortId) :
    graph.settled (node :: done) id =
      if graph.origin? id = some node then graph.received id value
      else graph.settled done id := by
  unfold settled delivered?
  cases origin : graph.origin? id with
  | none => simp
  | some other =>
      by_cases same : other = node
      · simp [same, computed, Except.toOption]
      · simp [same]

theorem delivered?_append (graph : Graph) (more done : List NodeId) (id : PortId) :
    graph.delivered? (more ++ done) id =
      (graph.delivered? more id).or (graph.delivered? done id) := by
  unfold delivered?
  cases graph.origin? id with
  | none => rfl
  | some node =>
      simp only [Option.bind_some, List.mem_append]
      by_cases isMore : node ∈ more
      · -- Both lists deliver the one value that the node has, if it has any.
        rw [if_pos (Or.inl isMore), if_pos isMore]
        split <;> cases (graph.reference [] node).toOption <;> rfl
      · simp [isMore]

/-! ### Publications -/

theorem port_publish_other {graph : Graph} {output id : PortId} (value : Value)
    (untouched : ¬ (id = output ∨ id ∈ graph.liveSinks output)) :
    (graph.publish output value).port id = graph.port id := by
  rcases Nat.lt_or_ge id graph.ports.size with made | beyond
  · rw [port_publish value made, if_neg untouched, if_neg fun same => untouched (Or.inl same)]
  · rw [port_of_size_le beyond, port_of_size_le]
    rwa [(sameShape_publish graph output value).ports_size]

/-- The ports that receive the value of a node are its outputs and the living inputs that these
feed. -/
theorem Sound.origin?_eq_some_iff {admitted : Blueprint → Prop} {graph : Graph}
    (sound : graph.Sound admitted) {id : PortId} {node : NodeId} :
    graph.origin? id = some node ↔
      ∃ output ∈ (graph.node node).outputs, id = output ∨ id ∈ graph.liveSinks output := by
  constructor
  · intro origin
    unfold origin? at origin
    cases direction : (graph.port id).direction with
    | output =>
        simp only [direction, Option.ite_none_right_eq_some, Option.some.injEq] at origin
        obtain ⟨attached, rfl⟩ := origin
        have listed := (sound.shaped.listed id attached).2
        rw [direction] at listed
        exact ⟨id, listed, Or.inl rfl⟩
    | input =>
        simp only [direction, Option.ite_none_right_eq_some, feeder?, Option.map_eq_some_iff]
          at origin
        obtain ⟨alive, output, linked, rfl⟩ := origin
        obtain ⟨-, outgoing, -, attached⟩ := sound.coherent.joins id output linked
        have listed := (sound.shaped.listed output attached).2
        rw [outgoing] at listed
        exact ⟨output, listed, Or.inr (sound.coherent.mem_liveSinks_iff.mpr ⟨alive, linked⟩)⟩
  · rintro ⟨output, isOutput, same | member⟩
    · obtain ⟨outgoing, owner, attached⟩ := sound.shaped.output isOutput
      rw [same, origin?, outgoing]
      simp [attached, owner]
    · have owner := (sound.shaped.output isOutput).2.1
      obtain ⟨alive, linked⟩ := sound.coherent.mem_liveSinks_iff.mp member
      rw [origin?, (sound.coherent.joins id output linked).1]
      simp [alive, feeder?, linked, owner]

/-- The state of a graph in which some nodes are done. -/
structure Tracks (graph : Graph) (done : List NodeId) (current : Graph) : Prop where
  nodes : current.nodes = graph.nodes
  links : graph.SameLinks current
  port : ∀ id, current.port id = graph.settled done id

namespace Tracks

theorem refl (graph : Graph) : graph.Tracks [] graph where
  nodes := rfl
  links := .refl graph
  port id := (settled_of_not_done (by simp)).symm

theorem node {graph current : Graph} {done : List NodeId} (tracks : graph.Tracks done current)
    (id : NodeId) : current.node id = graph.node id := by
  rw [Graph.node, Graph.node, tracks.nodes]

theorem sameWiring {graph current : Graph} {done : List NodeId}
    (tracks : graph.Tracks done current) : graph.SameWiring current where
  nodes := tracks.nodes
  source := tracks.links.source
  required id := (tracks.links.shape.port id).required
  name id := (tracks.links.shape.port id).name
  owner id := (tracks.links.shape.port id).owner

theorem origin? {graph current : Graph} {done : List NodeId} (tracks : graph.Tracks done current)
    (id : PortId) : current.origin? id = graph.origin? id := by
  have shape := tracks.links.shape.port
  simp only [Graph.origin?, feeder?, (shape _).direction, (shape _).attached, (shape _).owner,
    tracks.links.portAlive, tracks.links.source]

theorem delivered? {graph current : Graph} {done : List NodeId}
    (tracks : graph.Tracks done current) (more : List NodeId) (id : PortId) :
    current.delivered? more id = graph.delivered? more id := by
  simp only [Graph.delivered?, tracks.origin?, tracks.sameWiring.reference]

/-- A value received later replaces one received before. -/
theorem received {graph current : Graph} {done : List NodeId} (tracks : graph.Tracks done current)
    (id : PortId) (value : Value) : current.received id value = graph.received id value := by
  have direction := (tracks.links.shape.port id).direction
  cases side : (graph.port id).direction with
  | input =>
      rw [received_input (direction.trans side), received_input side, tracks.port, settled_eq,
        sinks_settled_input graph done side]
  | output =>
      rw [received_output (direction.trans side), received_output side, tracks.port, settled_eq,
        tracks.links.liveSinks]

/-- What is done later adds to what was done before. -/
theorem trans {graph middle last : Graph} {done more : List NodeId}
    (first : graph.Tracks done middle) (second : middle.Tracks more last) :
    graph.Tracks (more ++ done) last where
  nodes := second.nodes.trans first.nodes
  links := first.links.trans second.links
  port id := by
    rw [second.port, settled, first.delivered?, settled, delivered?_append]
    cases graph.delivered? more id with
    | none => exact first.port id
    | some value => exact first.received id value

theorem congr {graph current : Graph} {done other : List NodeId}
    (tracks : graph.Tracks done current) (same : ∀ node, node ∈ done ↔ node ∈ other) :
    graph.Tracks other current where
  nodes := tracks.nodes
  links := tracks.links
  port id := (tracks.port id).trans (settled_congr graph same id)

/-- The nodes that are done determine the graph. -/
theorem unique {graph current other : Graph} {done otherDone : List NodeId}
    (tracks : graph.Tracks done current) (otherTracks : graph.Tracks otherDone other)
    (same : ∀ node, node ∈ done ↔ node ∈ otherDone) : current = other := by
  have ports : current.ports = other.ports := by
    have sizes : current.ports.size = other.ports.size :=
      tracks.links.shape.ports_size.trans otherTracks.links.shape.ports_size.symm
    apply Array.ext sizes
    intro id made otherMade
    have equal : current.port id = other.port id := by
      rw [tracks.port, otherTracks.port, settled_congr graph same]
    simpa [Graph.port, Array.getD, made, otherMade] using equal
  cases current
  cases other
  cases ports
  cases tracks.nodes.trans otherTracks.nodes.symm
  rfl

/-- Publishing the value of a library node makes it one of the nodes that are done. -/
theorem publish {admitted : Blueprint → Prop} {graph current : Graph} {done : List NodeId}
    (sound : graph.Sound admitted) (tracks : graph.Tracks done current) {id : NodeId}
    (library : graph.LibraryNode id) {value : Value}
    (computed : graph.reference [] id = .ok value) :
    graph.Tracks (id :: done) (Demand.publishAll (graph.node id).outputs [value] current) := by
  obtain ⟨output, outputs, -⟩ := library.output
  have isOutput : output ∈ (graph.node id).outputs := by
    rw [outputs]
    exact List.mem_singleton_self output
  have outputKind := library.kind_of_reference computed isOutput
  have receives {port : PortId} :
      graph.origin? port = some id ↔ port = output ∨ port ∈ graph.liveSinks output := by
    rw [sound.origin?_eq_some_iff, outputs]
    simp
  rw [outputs]
  show graph.Tracks (id :: done) (current.publish output value)
  refine ⟨(nodes_publish current output value).trans tracks.nodes,
    tracks.links.trans (sameLinks_publish current output value), ?_⟩
  intro port
  rw [settled_cons computed]
  have liveSinks := tracks.links.liveSinks output
  split
  · rename_i origin
    have fits : value.kind = (current.port port).kind := by
      rw [(tracks.links.shape.port port).kind, outputKind]
      rcases receives.mp origin with rfl | member
      · rfl
      · obtain ⟨-, linked⟩ := sound.coherent.mem_liveSinks_iff.mp member
        exact (sound.coherent.joins port output linked).2.2.1.symm
    have made : port < current.ports.size := by
      rw [tracks.links.shape.ports_size]
      rcases receives.mp origin with rfl | member
      · exact port_lt_of_attached (sound.shaped.output isOutput).2.2
      · exact port_lt_of_portAlive (sound.coherent.mem_liveSinks_iff.mp member).1
    rw [port_publish value made, liveSinks, if_pos (receives.mp origin), Port.value_store fits,
      tracks.port, settled_eq]
    rcases Decidable.em (port = output) with rfl | differs
    · rw [if_pos rfl, received_output (sound.shaped.output isOutput).1]
    · have member := (receives.mp origin).resolve_left differs
      obtain ⟨-, linked⟩ := sound.coherent.mem_liveSinks_iff.mp member
      have incoming := (sound.coherent.joins port output linked).1
      rw [if_neg differs, received_input incoming, sinks_settled_input graph done incoming]
  · rename_i other
    have untouched : ¬ (port = output ∨ port ∈ current.liveSinks output) := by
      rw [liveSinks]
      exact fun touched => other (receives.mpr touched)
    rw [port_publish_other value untouched, tracks.port]

end Tracks

end DemandFlow.Graph
