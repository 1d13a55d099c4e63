import DemandFlow.Proofs.Evaluation.Visits

/-!
Contract: graphs whose nodes need only nodes made before them.

Owns: the values of such a graph, told without the nodes in progress, and the numbers of routes and
of nodes upstream, as sums over the nodes that a node is fed by.

Main statements: the value of a node is what its function makes of the values of its feeders
(`Layered.reference_eq`); the routes from a node add up along the links (`Sound.routesFrom_eq`), so
weights that do so too tell their number (`Layered.eq_weight`); a memoizing pass takes as many
visits as there are nodes upstream (`Sound.visits_memoizing`).

Does not own: how such a graph comes about (`Proofs.History.Scheme`).
-/

namespace DemandFlow

namespace Graph

/-- Every input is linked, to a node that was made before the node of the input. -/
structure Layered (graph : Graph) : Prop where
  older : ∀ id feeder, graph.Needs id feeder → feeder < id
  complete : ∀ id, graph.unlinked? id = none

variable {graph : Graph}

/-! ### Values -/

/-- The value of a node does not depend on the nodes in progress that were made after it. -/
theorem Layered.reference_below (layered : graph.Layered) {path : List NodeId} {id : NodeId}
    (above : ∀ active ∈ path, id < active) : graph.reference path id = graph.reference [] id := by
  induction id using Nat.strong_induction_on generalizing path with
  | _ id inductionHypothesis =>
      have outside : id ∉ path := fun inside => Nat.lt_irrefl id (above id inside)
      have upstream : (graph.feeders id).map (graph.reference (id :: path)) =
          (graph.feeders id).map (graph.reference [id]) := by
        apply List.map_congr_left
        intro feeder needs
        have below := layered.older id feeder needs
        have onPath : ∀ active ∈ id :: path, feeder < active := by
          intro active isActive
          rcases List.mem_cons.mp isActive with rfl | earlier
          · exact below
          · exact below.trans (above active earlier)
        exact (inductionHypothesis feeder below onPath).trans
          (inductionHypothesis feeder below (by simpa using below)).symm
      rw [reference_of_linked outside (layered.complete id),
        reference_of_linked List.not_mem_nil (layered.complete id), upstream]

/-- The value of a node is what its function makes of the values of its feeders. -/
theorem Layered.reference_eq (layered : graph.Layered) (id : NodeId) :
    graph.reference [] id =
      (allValues ((graph.feeders id).map (graph.reference []))).bind fun values =>
        ((graph.node id).behaviour.yield values).mapError (.failed id (graph.node id).kindName) := by
  have upstream : (graph.feeders id).map (graph.reference [id]) =
      (graph.feeders id).map (graph.reference []) := by
    apply List.map_congr_left
    intro feeder needs
    exact layered.reference_below (by simpa using layered.older id feeder needs)
  rw [reference_of_linked List.not_mem_nil (layered.complete id), upstream]
  cases allValues ((graph.feeders id).map (graph.reference [])) <;> rfl

/-! ### Routes -/

theorem sum_encard_routesBehind (target : NodeId) (inputs : List PortId) :
    (inputs.map fun input => (graph.routesBehind target input).encard).sum =
      ((inputs.filterMap graph.feeder?).map fun feeder =>
        (graph.routes feeder target).encard).sum := by
  induction inputs with
  | nil => rfl
  | cons input inputs inductionHypothesis =>
      rw [List.map_cons, List.sum_cons, inductionHypothesis]
      cases linked : graph.feeder? input with
      | none => simp [routesBehind_of_unlinked linked, linked]
      | some feeder => simp [routesBehind_of_linked linked, linked]

/-- The routes from a node are the empty one, to the node itself, and those from its feeders. -/
theorem Sound.encard_routes_eq (sound : graph.Sound Blueprint.IsLibrary) {id : NodeId}
    (made : id < graph.nodes.size) (target : NodeId) :
    (graph.routes id target).encard =
      (if target = id then 1 else 0) +
        ((graph.feeders id).map fun feeder => (graph.routes feeder target).encard).sum := by
  rw [encard_routes (inputs_nodup sound.shaped made), sum_encard_routesBehind]
  rfl

theorem Sound.routesFrom_eq (sound : graph.Sound Blueprint.IsLibrary) {id : NodeId}
    (made : id < graph.nodes.size) :
    graph.routesFrom id = 1 + ((graph.feeders id).map graph.routesFrom).sum := by
  have itself : ∑ target ∈ Finset.range graph.nodes.size, (if target = id then (1 : ℕ∞) else 0) =
      1 := by
    rw [Finset.sum_ite_eq', if_pos (Finset.mem_range.mpr made)]
  have others (feeders : List NodeId) :
      ∑ target ∈ Finset.range graph.nodes.size,
        (feeders.map fun feeder => (graph.routes feeder target).encard).sum =
          (feeders.map graph.routesFrom).sum := by
    induction feeders with
    | nil => simp
    | cons feeder feeders inductionHypothesis =>
        simp only [List.map_cons, List.sum_cons, Finset.sum_add_distrib, inductionHypothesis]
        rfl
  rw [routesFrom, Finset.sum_congr rfl fun target _ => sound.encard_routes_eq made target,
    Finset.sum_add_distrib, itself, others]

/-! ### Nodes upstream -/

theorem Sound.visits_memoizing (sound : graph.Sound Blueprint.IsLibrary) {sink : NodeId}
    (alive : graph.nodeAlive sink = true)
    (succeeds : (Run.compute ⟨graph, .fresh true⟩ sink).1 = .ok ()) :
    (Run.compute ⟨graph, .fresh true⟩ sink).2.pass.visits = (graph.upstream sink).ncard := by
  obtain ⟨events, performs, -⟩ := exists_evaluations alive true
  have evaluated : graph.upstream sink = ↑(evaluations events).toFinset := by
    ext node
    rw [← sound.mem_evaluations_iff alive succeeds performs, List.coe_toFinset, Set.mem_ofPred_eq]
  rw [evaluated, Set.ncard_coe_finset, List.toFinset_card_of_nodup (performs.novel rfl).once]
  exact performs.account.tally.visits.trans (Nat.zero_add _)

/-- Where every node but the last feeds another, all nodes are upstream of the last. -/
theorem Layered.mem_upstream (layered : graph.Layered) {sink : NodeId}
    (last : graph.nodes.size = sink + 1) (needed : ∀ id < sink, ∃ reader, graph.Needs reader id)
    {id : NodeId} (made : id ≤ sink) : id ∈ graph.upstream sink := by
  rcases Nat.eq_or_lt_of_le made with rfl | before
  · exact Relation.ReflTransGen.refl
  · obtain ⟨reader, needs⟩ := needed id before
    have later := layered.older reader id needs
    have readerMade : reader < graph.nodes.size := lt_of_mem_feeders needs
    have within : reader ≤ sink := Nat.le_of_lt_succ (readerMade.trans_eq last)
    have reaches : Relation.ReflTransGen graph.Needs sink reader :=
      layered.mem_upstream last needed within
    exact reaches.tail needs
termination_by sink - id
decreasing_by
  exact Nat.sub_lt_sub_left before later

theorem Layered.ncard_upstream (layered : graph.Layered)
    (sound : graph.Sound Blueprint.IsLibrary) {sink : NodeId}
    (alive : graph.nodeAlive sink = true) (last : graph.nodes.size = sink + 1)
    (needed : ∀ id < sink, ∃ reader, graph.Needs reader id) :
    (graph.upstream sink).ncard = graph.nodes.size := by
  have all : graph.upstream sink = Finset.range graph.nodes.size := by
    apply (sound.upstream_subset alive).antisymm
    intro id member
    have made : id < graph.nodes.size := by simpa using member
    exact layered.mem_upstream last needed (Nat.le_of_lt_succ (made.trans_eq last))
  rw [all, Set.ncard_coe_finset, Finset.card_range]

/-! ### Weights -/

/-- What adds up along the links is told by weights that do so too. -/
theorem Layered.eq_weight (layered : graph.Layered) {count : NodeId → ℕ∞}
    {base weight : NodeId → ℕ}
    (counts : ∀ id < graph.nodes.size,
      count id = base id + ((graph.feeders id).map count).sum)
    (weighs : ∀ id < graph.nodes.size,
      weight id = base id + ((graph.feeders id).map weight).sum)
    {id : NodeId} (made : id < graph.nodes.size) : count id = weight id := by
  induction id using Nat.strong_induction_on with
  | _ id inductionHypothesis =>
      have feeders : (graph.feeders id).map count =
          ((graph.feeders id).map weight).map ((↑) : ℕ → ℕ∞) := by
        rw [List.map_map]
        apply List.map_congr_left
        intro feeder needs
        have below := layered.older id feeder needs
        exact inductionHypothesis feeder below (below.trans made)
      rw [counts id made, weighs id made, feeders, Nat.cast_add, Nat.cast_list_sum]

end Graph

end DemandFlow
