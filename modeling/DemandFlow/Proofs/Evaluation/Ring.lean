import DemandFlow.Proofs.Evaluation.Failure
import DemandFlow.Proofs.Evaluation.Outcome
import Mathlib.Data.Set.Card

/-!
Contract: how far a computation reaches, and what it does about rings.

Owns: the nodes upstream of a node, the bound that their number sets to the nesting of evaluations,
and when a computation reports a cycle.

Main statement: every computation in a graph of library nodes ends, nested no deeper than there are
nodes upstream; it reports a cycle only where one is, and succeeds only where none is
(`Reachable.computation_ends`).

Does not own: the results of computations (`Proofs.Evaluation.Outcome`).
-/

namespace DemandFlow

namespace Graph

/-- The node itself and all that it needs, directly or through others. -/
def upstream (graph : Graph) (sink : NodeId) : Set NodeId :=
  { node | Relation.ReflTransGen graph.Needs sink node }

/-- The node needs itself, directly or through others. -/
def OnRing (graph : Graph) (node : NodeId) : Prop := Relation.TransGen graph.Needs node node

/-- How a computation ends, whatever the ports hold. -/
structure Ends (graph : Graph) (sink : NodeId) (run : Run) : Prop where
  /-- It needs no more evaluations under way at once than there are nodes upstream. -/
  nested : demandNested (graph.upstream sink).ncard sink run = some (run.compute sink)
  /-- A cycle that it reports is upstream. -/
  reported : ∀ node, (run.compute sink).1 = .error (.cycle node) →
    node ∈ graph.upstream sink ∧ graph.OnRing node
  /-- Without a ring upstream it reports none. -/
  ringless : (∀ node ∈ graph.upstream sink, ¬ graph.OnRing node) →
    ∀ node, (run.compute sink).1 ≠ .error (.cycle node)
  /-- With a ring upstream it does not succeed. -/
  ringed : (∃ node ∈ graph.upstream sink, graph.OnRing node) → (run.compute sink).1 ≠ .ok ()

variable {admitted : Blueprint → Prop} {graph : Graph} {sink : NodeId}

theorem Sound.upstream_subset (sound : graph.Sound admitted)
    (alive : graph.nodeAlive sink = true) :
    graph.upstream sink ⊆ Finset.range graph.nodes.size := by
  intro node member
  have made := (nodeAlive_iff.mp (sound.nodeAlive_of_reaches alive member)).1
  simpa using made

/-- A node that has a value has no ring upstream. -/
theorem not_onRing_of_reference {value : Value} (computed : graph.reference [] sink = .ok value)
    {node : NodeId} (member : node ∈ graph.upstream sink) : ¬ graph.OnRing node := by
  have reaches : Relation.ReflTransGen graph.Needs sink node := member
  induction reaches using Relation.ReflTransGen.head_induction_on generalizing value with
  | refl => exact not_ring_of_reference computed
  | head needs later inductionHypothesis =>
      obtain ⟨found, upstream⟩ := exists_reference_of_needs computed needs
      exact inductionHypothesis (reference_of_unreached upstream (by simp)) later

/-- Demanding a node in a fresh pass nests no more evaluations than there are nodes upstream. -/
theorem Sound.demandNested_upstream (sound : graph.Sound Blueprint.IsLibrary)
    (alive : graph.nodeAlive sink = true) (memoized : Bool) :
    ∃ after, demandNested (graph.upstream sink).ncard sink ⟨graph, .fresh memoized⟩ =
        some ((graph.reference [] sink).map fun _ => (), after) ∧
      Run.compute ⟨graph, .fresh memoized⟩ sink =
        ((graph.reference [] sink).map fun _ => (), after) := by
  have within := sound.upstream_subset alive
  have finite : (graph.upstream sink).Finite := (Finset.finite_toSet _).subset within
  have inScope {node : NodeId} : node ∈ finite.toFinset.toList ↔ node ∈ graph.upstream sink := by
    rw [Finset.mem_toList, Set.Finite.mem_toFinset]
  have count : finite.toFinset.toList.length = (graph.upstream sink).ncard := by
    rw [Finset.length_toList, Set.ncard_eq_toFinset_card _ finite]
  have closed : ∀ node ∈ finite.toFinset.toList, ∀ source, graph.Needs node source →
      source ∈ finite.toFinset.toList := by
    intro node member source needs
    have reaches : Relation.ReflTransGen graph.Needs sink node := inScope.mp member
    exact inScope.mpr (reaches.tail needs)
  have bound : (graph.upstream sink).ncard ≤ graph.nodes.size := by
    have fewer := Set.ncard_le_ncard within (Finset.finite_toSet _)
    rwa [Set.ncard_coe_finset, Finset.card_range] at fewer
  obtain ⟨after, ended, -⟩ :=
    sound.demandNested_eq closed (inScope.mpr Relation.ReflTransGen.refl) alive memoized
  rw [count] at ended
  exact ⟨after, ended, Run.compute_of_demandNested bound ended⟩

end Graph

/-- In a reachable graph of library nodes, cyclic or not, the computation of a living node with a
fresh pass of either sort ends so. -/
theorem Reachable.computation_ends {graph : Graph}
    (reachable : Reachable Blueprint.IsLibrary graph) {sink : NodeId}
    (alive : graph.nodeAlive sink = true) (memoized : Bool) :
    graph.Ends sink ⟨graph, .fresh memoized⟩ := by
  obtain ⟨after, ended, computed⟩ := reachable.sound.demandNested_upstream alive memoized
  have reported : ∀ node, (Run.compute ⟨graph, .fresh memoized⟩ sink).1 = .error (.cycle node) →
      node ∈ graph.upstream sink ∧ graph.OnRing node := by
    intro node failed
    rw [computed] at failed
    obtain ⟨rest, fails⟩ := Graph.exists_trail_iff.mpr (Graph.map_eq_error_iff.mp failed)
    exact fails.ring (by simp)
  constructor
  · rw [ended, computed]
  · exact reported
  · intro noRing node failed
    obtain ⟨member, ring⟩ := reported node failed
    exact noRing node member ring
  · intro ringed succeeded
    obtain ⟨node, member, ring⟩ := ringed
    rw [computed] at succeeded
    obtain ⟨value, result, -⟩ := Graph.map_eq_ok_iff.mp succeeded
    exact Graph.not_onRing_of_reference result member ring

/-- A negation that feeds itself. -/
def Graph.paradox : Graph :=
  [.create (.operator "Not" (.unary .bool .bool fun x => .ok !x)) "A",
    .link (.direct 1 0)].foldl Action.apply .empty

theorem Reachable.paradox : Reachable Blueprint.IsLibrary Graph.paradox := by
  have operator := Reachable.step Reachable.empty
    (show (Action.create (.operator "Not" (.unary .bool .bool fun x => .ok !x)) "A").Allowed
      Blueprint.IsLibrary .empty from .unary ..)
  exact Reachable.step operator
    (show (Action.link (.direct 1 0)).Allowed Blueprint.IsLibrary _ from
      ⟨.bool, ⟨Or.inl (by decide), rfl, rfl⟩, Or.inl (by decide), rfl, rfl⟩)

theorem Graph.onRing_paradox : Graph.paradox.OnRing 0 := by
  have feeders : Graph.paradox.feeders 0 = [0] := rfl
  apply Relation.TransGen.single
  rw [Graph.Needs, feeders]
  exact List.mem_singleton_self 0

theorem Reachable.computation_ends_paradox :
    demandNested (Graph.paradox.upstream 0).ncard 0 ⟨Graph.paradox, .memoizing⟩ =
        some (Run.compute ⟨Graph.paradox, .memoizing⟩ 0) ∧
      (Run.compute ⟨Graph.paradox, .memoizing⟩ 0).1 ≠ .ok () := by
  have ends := Reachable.computation_ends Reachable.paradox
    (show Graph.paradox.nodeAlive 0 = true by decide) true
  exact ⟨ends.nested, ends.ringed ⟨0, Relation.ReflTransGen.refl, Graph.onRing_paradox⟩⟩

end DemandFlow
