import DemandFlow.Proofs.Evaluation.Failure
import DemandFlow.Proofs.Evaluation.Outcome

/-!
Contract: what a computation writes.

Owns: the state of every port after a computation, whether it succeeds or fails.

Main statement: a computation writes the values of the nodes that it completes, into their outputs
and into the living inputs that these feed, and nothing else; and what fails on the way to a
failure keeps its ports (`Reachable.effect`).

Does not own: which values the nodes have (`Proofs.Evaluation.Reference`).
-/

namespace DemandFlow

namespace Graph

/-- The port is an output of the node, or a living input that is linked to one. -/
def Receives (graph : Graph) (id : PortId) (node : NodeId) : Prop :=
  ∃ output ∈ (graph.node node).outputs,
    id = output ∨ (graph.portAlive id = true ∧ (graph.port id).source = some output)

/-- The node has published its value: its output holds the value and lists living inputs only, and
every living input that is linked to the output holds the value too. All else in these ports is as
before. -/
def Published (graph after : Graph) (node : NodeId) : Prop :=
  ∃ output value, (graph.node node).outputs = [output] ∧
    graph.reference [] node = .ok value ∧
    after.port output = { graph.port output with value, sinks := graph.liveSinks output } ∧
    ∀ input, graph.portAlive input = true → (graph.port input).source = some output →
      after.port input = { graph.port input with value }

/-- What a computation of a node has done to a graph. -/
structure Effect (graph : Graph) (sink : NodeId) (result : Except EvaluationError Unit)
    (after : Run) : Prop where
  /-- It completes the nodes that have been found a value for when it ends. -/
  completed : ∀ node, node ∈ after.pass.completed ↔ graph.Completes [] sink node
  /-- Every node that it completes has published. -/
  published : ∀ node ∈ after.pass.completed, graph.Published after.graph node
  /-- Every port that receives from no completed node is as before. -/
  kept : ∀ id, (∀ node ∈ after.pass.completed, ¬ graph.Receives id node) →
    after.graph.port id = graph.port id
  /-- Names, constants, handles and lives of nodes are as before. -/
  nodes : after.graph.nodes = graph.nodes
  ports_size : after.graph.ports.size = graph.ports.size
  /-- A failure comes about along a trail, on which each node needs the next, from the node to the
  one that the failure names. No node on it is completed, and all that receives from such a node is
  as before. -/
  failed : ∀ failure, result = .error failure → ∃ rest,
    graph.Fails [] sink rest failure ∧ (sink :: rest).IsChain graph.Needs ∧
    (sink :: rest).getLast (List.cons_ne_nil sink rest) = failure.node ∧
    ∀ node ∈ sink :: rest, node ∉ after.pass.completed ∧
      ∀ id, graph.Receives id node → after.graph.port id = graph.port id

variable {admitted : Blueprint → Prop} {graph : Graph}

theorem Sound.receives_iff (sound : graph.Sound admitted) {id : PortId} {node : NodeId} :
    graph.Receives id node ↔ graph.origin? id = some node := by
  rw [sound.origin?_eq_some_iff]
  simp only [Receives, sound.coherent.mem_liveSinks_iff]

/-- A done node has published. -/
theorem Tracks.published (sound : graph.Sound admitted) {current : Graph} {done : List NodeId}
    (tracks : graph.Tracks done current) {node : NodeId} (library : graph.LibraryNode node)
    (isDone : node ∈ done) {value : Value} (computed : graph.reference [] node = .ok value) :
    graph.Published current node := by
  obtain ⟨output, outputs, -⟩ := library.output
  have isOutput : output ∈ (graph.node node).outputs := by
    rw [outputs]
    exact List.mem_singleton_self output
  refine ⟨output, value, outputs, computed, ?_, ?_⟩
  · have origin : graph.origin? output = some node :=
      sound.receives_iff.mp ⟨output, isOutput, Or.inl rfl⟩
    rw [tracks.port, settled_of_done origin isDone computed,
      received_output (sound.shaped.output isOutput).1]
  · intro input alive linked
    have origin : graph.origin? input = some node :=
      sound.receives_iff.mp ⟨output, isOutput, Or.inr ⟨alive, linked⟩⟩
    rw [tracks.port, settled_of_done origin isDone computed,
      received_input (sound.coherent.joins input output linked).1]

/-- A port that receives from no done node is as it was. -/
theorem Tracks.kept (sound : graph.Sound admitted) {current : Graph} {done : List NodeId}
    (tracks : graph.Tracks done current) {id : PortId}
    (others : ∀ node ∈ done, ¬ graph.Receives id node) : current.port id = graph.port id := by
  rw [tracks.port]
  apply settled_of_not_done
  intro node isDone origin
  exact others node isDone (sound.receives_iff.mpr origin)

/-- A port receives from one node only. -/
theorem Sound.receives_unique (sound : graph.Sound admitted) {id : PortId} {node other : NodeId}
    (receives : graph.Receives id node) (receivesOther : graph.Receives id other) :
    node = other := by
  have origin := sound.receives_iff.mp receives
  rw [sound.receives_iff.mp receivesOther] at origin
  exact (Option.some.inj origin).symm

end Graph

/-- In a reachable graph of library nodes, the computation of a living node with a fresh pass of
either sort has this effect, whether it succeeds or fails. -/
theorem Reachable.effect {graph : Graph} (reachable : Reachable Blueprint.IsLibrary graph)
    {sink : NodeId} (alive : graph.nodeAlive sink = true) (memoized : Bool) :
    graph.Effect sink (Run.compute ⟨graph, .fresh memoized⟩ sink).1
      (Run.compute ⟨graph, .fresh memoized⟩ sink).2 := by
  have sound := reachable.sound
  obtain ⟨after, outcome, advances⟩ := sound.compute_eq alive memoized
  have tracks := advances.progress.tracks
  have kept {id : PortId}
      (others : ∀ node ∈ after.pass.completed, ¬ graph.Receives id node) :
      after.graph.port id = graph.port id := tracks.kept sound others
  rw [outcome]
  refine ⟨fun _ => advances.mem_completed_iff, ?_, fun _ => kept, tracks.nodes, tracks.links.shape.ports_size, ?_⟩
  · intro node isDone
    obtain ⟨value, computed⟩ := advances.progress.computed node isDone
    have reaches := (advances.mem_completed_iff.mp isDone).reaches
    have made := (Graph.nodeAlive_iff.mp (sound.nodeAlive_of_reaches alive reaches)).1
    exact tracks.published sound (sound.shaped.libraryNode made) isDone computed
  · intro failure failed
    obtain ⟨rest, fails⟩ := Graph.exists_trail_iff.mpr (Graph.map_eq_error_iff.mp failed)
    refine ⟨rest, fails, fails.isChain, fails.getLast_eq, ?_⟩
    intro node onTrail
    have notDone : node ∉ after.pass.completed := by
      intro isDone
      obtain ⟨value, computed⟩ := advances.progress.computed node isDone
      exact fails.not_computed onTrail value computed
    refine ⟨notDone, fun id receives => kept fun other isDone receivesOther => ?_⟩
    rw [sound.receives_unique receivesOther receives] at isDone
    exact notDone isDone

/-- A conjunction of a constant and of a negation that misses its input. -/
def Graph.stalled : Graph :=
  [.create (.constant ⟨.bool, true⟩) "A",
    .create (.operator "Not" (.unary .bool .bool fun x => .ok !x)) "B",
    .create (.operator "And" (.binary .bool .bool .bool fun x y => .ok (x && y))) "C",
    .link (.direct 0 3), .link (.direct 2 4)].foldl Action.apply .empty

theorem Reachable.stalled : Reachable Blueprint.IsLibrary Graph.stalled := by
  have constant := Reachable.step Reachable.empty
    (show (Action.create (.constant ⟨.bool, true⟩) "A").Allowed Blueprint.IsLibrary .empty from
      .constant _)
  have negation := Reachable.step constant
    (show (Action.create (.operator "Not" (.unary .bool .bool fun x => .ok !x)) "B").Allowed
      Blueprint.IsLibrary _ from .unary ..)
  have conjunction := Reachable.step negation
    (show (Action.create
      (.operator "And" (.binary .bool .bool .bool fun x y => .ok (x && y))) "C").Allowed
      Blueprint.IsLibrary _ from .binary ..)
  have first := Reachable.step conjunction
    (show (Action.link (.direct 0 3)).Allowed Blueprint.IsLibrary _ from
      ⟨.bool, ⟨Or.inl (by decide), rfl, rfl⟩, Or.inl (by decide), rfl, rfl⟩)
  exact Reachable.step first
    (show (Action.link (.direct 2 4)).Allowed Blueprint.IsLibrary _ from
      ⟨.bool, ⟨Or.inl (by decide), rfl, rfl⟩, Or.inl (by decide), rfl, rfl⟩)

theorem Reachable.effect_stalled :
    (Run.compute ⟨Graph.stalled, .plain⟩ 2).1 = .error (.notReady 1 "In") ∧
      ((Run.compute ⟨Graph.stalled, .plain⟩ 2).2.graph.port 3).value = ⟨.bool, true⟩ ∧
      (Run.compute ⟨Graph.stalled, .plain⟩ 2).2.graph.port 5 = Graph.stalled.port 5 := by
  have effect := Reachable.effect Reachable.stalled
    (show Graph.stalled.nodeAlive 2 = true by decide) false
  have result : (Run.compute ⟨Graph.stalled, .plain⟩ 2).1 = .error (.notReady 1 "In") := rfl
  have completed : (Run.compute ⟨Graph.stalled, .plain⟩ 2).2.pass.completed = [0] := rfl
  have isDone : 0 ∈ (Run.compute ⟨Graph.stalled, .plain⟩ 2).2.pass.completed := by
    rw [completed]
    exact List.mem_singleton_self 0
  have constant : Graph.stalled.reference [] 0 = .ok ⟨.bool, true⟩ :=
    Graph.reference_eq_ok_iff.mpr ⟨by decide, rfl, [], rfl, rfl⟩
  obtain ⟨output, value, outputs, computed, -, delivered⟩ := effect.published 0 isDone
  have isOutput : output = 0 := (List.cons.inj outputs).1.symm
  have isTrue : value = ⟨.bool, true⟩ := Except.ok.inj (computed.symm.trans constant)
  subst isOutput isTrue
  obtain ⟨rest, -, -, -, failing⟩ := effect.failed _ result
  have kept := (failing 2 List.mem_cons_self).2 5 ⟨5, List.mem_singleton_self 5, Or.inl rfl⟩
  have fed := delivered 3 (by decide) rfl
  exact ⟨result, congrArg Port.value fed, kept⟩

end DemandFlow
