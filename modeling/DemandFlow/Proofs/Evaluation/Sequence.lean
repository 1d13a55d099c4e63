import DemandFlow.Proofs.Evaluation.Outcome

/-!
Contract: computations one after the other.

Owns: the graph that a list of computations leaves, and the results on the way.

Main statements: the nodes that were computed determine the graph, however often and in whichever
order they were (`Sound.computeAll_congr`); so two computations can change places, and one that is
repeated changes nothing more (`Reachable.computations_independent`).

Does not own: one computation (`Proofs.Evaluation.Outcome`).
-/

namespace DemandFlow

namespace Graph

/-- What computing a node with a fresh pass results in. -/
def result (graph : Graph) (memoized : Bool) (id : NodeId) : Except EvaluationError Unit :=
  (Run.compute ⟨graph, .fresh memoized⟩ id).1

/-- The graph after computing some nodes one after the other, each with a fresh pass. -/
def computeAll (graph : Graph) (memoized : Bool) (ids : List NodeId) : Graph :=
  ids.foldl (fun graph id => (Run.compute ⟨graph, .fresh memoized⟩ id).2.graph) graph

variable {graph current : Graph} {done ids others : List NodeId} {id : NodeId}

/-- A computation after others does what it would do before them. -/
theorem Tracks.compute (tracks : graph.Tracks done current)
    (sound : graph.Sound Blueprint.IsLibrary) (alive : graph.nodeAlive id = true)
    (memoized : Bool) :
    current.result memoized id = (graph.reference [] id).map (fun _ => ()) ∧
      ∃ more, (∀ node, node ∈ more ↔ graph.Completes [] id node) ∧
        graph.Tracks (more ++ done) (Run.compute ⟨current, .fresh memoized⟩ id).2.graph := by
  have soundStill := sound.of_sameLinks tracks.links
  have aliveStill : current.nodeAlive id = true := by
    rwa [tracks.links.nodeAlive]
  obtain ⟨after, outcome, advances⟩ := soundStill.compute_eq aliveStill memoized
  rw [result, outcome, tracks.sameWiring.reference]
  refine ⟨rfl, after.pass.completed, ?_, tracks.trans advances.progress.tracks⟩
  intro node
  rw [advances.mem_completed_iff, tracks.sameWiring.completes_iff]

/-- After computations, the nodes done are those that any of them completes. -/
theorem Tracks.computeAll (tracks : graph.Tracks done current)
    (sound : graph.Sound Blueprint.IsLibrary) (alive : ∀ id ∈ ids, graph.nodeAlive id = true)
    (memoized : Bool) :
    ∃ now, (∀ node, node ∈ now ↔ node ∈ done ∨ ∃ id ∈ ids, graph.Completes [] id node) ∧
      graph.Tracks now (current.computeAll memoized ids) := by
  induction ids generalizing current done with
  | nil => exact ⟨done, by simp, tracks⟩
  | cons first rest inductionHypothesis =>
      obtain ⟨-, more, completed, next⟩ :=
        tracks.compute sound (alive first List.mem_cons_self) memoized
      obtain ⟨now, members, last⟩ := inductionHypothesis next
        fun id member => alive id (List.mem_cons_of_mem _ member)
      refine ⟨now, fun node => ?_, last⟩
      rw [members, List.mem_append, completed]
      simp only [List.mem_cons, exists_eq_or_imp]
      exact or_assoc.trans or_left_comm

/-- Which nodes were computed determines the graph, however often and in whichever order. -/
theorem Sound.computeAll_congr (sound : graph.Sound Blueprint.IsLibrary)
    (alive : ∀ id ∈ ids, graph.nodeAlive id = true) (same : ∀ id, id ∈ others ↔ id ∈ ids)
    (memoized : Bool) : graph.computeAll memoized others = graph.computeAll memoized ids := by
  obtain ⟨now, members, tracks⟩ := (Tracks.refl graph).computeAll sound alive memoized
  obtain ⟨otherNow, otherMembers, otherTracks⟩ := (Tracks.refl graph).computeAll sound
    (fun id member => alive id ((same id).mp member)) memoized
  apply otherTracks.unique tracks
  intro node
  rw [members, otherMembers]
  simp only [same]

/-- Computations leave the results of others as they are. -/
theorem Sound.result_computeAll (sound : graph.Sound Blueprint.IsLibrary)
    (alive : ∀ id ∈ ids, graph.nodeAlive id = true) (aliveNext : graph.nodeAlive id = true)
    (memoized : Bool) :
    (graph.computeAll memoized ids).result memoized id = graph.result memoized id := by
  obtain ⟨now, -, tracks⟩ := (Tracks.refl graph).computeAll sound alive memoized
  rw [(tracks.compute sound aliveNext memoized).1,
    ((Tracks.refl graph).compute sound aliveNext memoized).1]

end Graph

/-- In a reachable graph of library nodes, two computations of living nodes have the same results
and leave the same graph in either order, and one that is repeated has the same result each time
and leaves the graph as the first time did. -/
theorem Reachable.computations_independent {graph : Graph}
    (reachable : Reachable Blueprint.IsLibrary graph) {first second : NodeId}
    (firstAlive : graph.nodeAlive first = true) (secondAlive : graph.nodeAlive second = true)
    (memoized : Bool) :
    ((graph.computeAll memoized [second]).result memoized first = graph.result memoized first ∧
      (graph.computeAll memoized [first]).result memoized second =
        graph.result memoized second ∧
      graph.computeAll memoized [first, second] = graph.computeAll memoized [second, first]) ∧
    ∀ times,
      (graph.computeAll memoized (List.replicate times first)).result memoized first =
          graph.result memoized first ∧
        graph.computeAll memoized (List.replicate (times + 1) first) =
          graph.computeAll memoized [first] := by
  have sound := reachable.sound
  have onlyFirst : ∀ id ∈ [first], graph.nodeAlive id = true := by
    simpa using firstAlive
  have onlySecond : ∀ id ∈ [second], graph.nodeAlive id = true := by
    simpa using secondAlive
  have both : ∀ id ∈ [second, first], graph.nodeAlive id = true := by
    simp [firstAlive, secondAlive]
  refine ⟨⟨?_, ?_, ?_⟩, fun times => ⟨?_, ?_⟩⟩
  · exact sound.result_computeAll onlySecond firstAlive memoized
  · exact sound.result_computeAll onlyFirst secondAlive memoized
  · exact sound.computeAll_congr both (fun id => by simp [or_comm]) memoized
  · have repeated : ∀ id ∈ List.replicate times first, graph.nodeAlive id = true := by
      intro id member
      rwa [List.eq_of_mem_replicate member]
    exact sound.result_computeAll repeated firstAlive memoized
  · exact sound.computeAll_congr onlyFirst (fun id => by simp) memoized

theorem Reachable.computations_independent_negation :
    Graph.negation.computeAll false [1, 0] = Graph.negation.computeAll false [0, 1] ∧
      (Graph.negation.computeAll false [1, 1, 1]).result false 1 =
        Graph.negation.result false 1 := by
  have independent := Reachable.computations_independent History.negation.reachable
    (show Graph.negation.nodeAlive 1 = true by decide)
    (show Graph.negation.nodeAlive 0 = true by decide) false
  exact ⟨independent.1.2.2, (independent.2 3).1⟩

end DemandFlow
