import DemandFlow.Proofs.Evaluation.Ring

/-!
Contract: the ways upstream from a node.

Owns: the routes from a node to a node upstream, each told apart by the inputs that it leads
through, and their number.

Main statements: a node is upstream exactly if a route leads to it (`routes_nonempty_iff`); the
routes from a node are the empty one and those through each of its inputs (`encard_routes`).

Does not own: how often evaluation takes each route (`Proofs.Evaluation.Visits`).

Graphs may have rings, and around a ring there are infinitely many routes. So they are counted in
the natural numbers with infinity.
-/

namespace DemandFlow

namespace Graph

/-- The inputs that a way upstream leads through in order, from one node to another. Two links
between the same nodes are two routes, since they end at different inputs. -/
inductive Route (graph : Graph) : NodeId → List PortId → NodeId → Prop where
  | here (id : NodeId) : Route graph id [] id
  | through {id feeder target : NodeId} {input : PortId} {rest : List PortId}
      (isInput : input ∈ (graph.node id).inputs) (linked : graph.feeder? input = some feeder)
      (onward : Route graph feeder rest target) : Route graph id (input :: rest) target

/-- All routes from one node to another. -/
def routes (graph : Graph) (id target : NodeId) : Set (List PortId) :=
  { route | graph.Route id route target }

/-- All routes to a node from the node that feeds an input. -/
def routesBehind (graph : Graph) (target : NodeId) (input : PortId) : Set (List PortId) :=
  { route | ∃ feeder, graph.feeder? input = some feeder ∧ graph.Route feeder route target }

variable {graph : Graph} {id target : NodeId}

theorem Route.reaches {route : List PortId} (leads : graph.Route id route target) :
    Relation.ReflTransGen graph.Needs id target := by
  induction leads with
  | here => exact .refl
  | through isInput linked _ inductionHypothesis =>
      exact .head (List.mem_filterMap.mpr ⟨_, isInput, linked⟩) inductionHypothesis

theorem exists_route_of_reaches (reaches : Relation.ReflTransGen graph.Needs id target) :
    ∃ route, graph.Route id route target := by
  induction reaches using Relation.ReflTransGen.head_induction_on with
  | refl => exact ⟨[], .here target⟩
  | head needs _ inductionHypothesis =>
      obtain ⟨input, isInput, linked⟩ := List.mem_filterMap.mp needs
      obtain ⟨rest, onward⟩ := inductionHypothesis
      exact ⟨input :: rest, .through isInput linked onward⟩

/-- The nodes upstream are those that a route leads to. -/
theorem routes_nonempty_iff : (graph.routes id target).Nonempty ↔ target ∈ graph.upstream id := by
  constructor
  · rintro ⟨route, leads⟩
    exact leads.reaches
  · exact exists_route_of_reaches

theorem routesBehind_of_linked {input : PortId} {feeder : NodeId}
    (linked : graph.feeder? input = some feeder) :
    graph.routesBehind target input = graph.routes feeder target := by
  ext route
  constructor
  · rintro ⟨other, found, leads⟩
    cases Option.some.inj (found.symm.trans linked)
    exact leads
  · exact fun leads => ⟨feeder, linked, leads⟩

theorem routesBehind_of_unlinked {input : PortId} (unlinked : graph.feeder? input = none) :
    graph.routesBehind target input = ∅ := by
  apply Set.eq_empty_of_forall_notMem
  rintro route ⟨feeder, linked, -⟩
  rw [unlinked] at linked
  cases linked

/-! ### Counting -/

/-- The routes that lead through one of some inputs. -/
def routesAmong (graph : Graph) (target : NodeId) (inputs : List PortId) : Set (List PortId) :=
  { route | ∃ input ∈ inputs, ∃ rest ∈ graph.routesBehind target input, route = input :: rest }

theorem routesAmong_cons (input : PortId) (inputs : List PortId) :
    graph.routesAmong target (input :: inputs) =
      (input :: ·) '' graph.routesBehind target input ∪ graph.routesAmong target inputs := by
  ext route
  constructor
  · rintro ⟨other, member, rest, leads, rfl⟩
    rcases List.mem_cons.mp member with rfl | later
    · exact Or.inl ⟨rest, leads, rfl⟩
    · exact Or.inr ⟨other, later, rest, leads, rfl⟩
  · rintro (⟨rest, leads, rfl⟩ | ⟨other, later, rest, leads, rfl⟩)
    · exact ⟨input, List.mem_cons_self, rest, leads, rfl⟩
    · exact ⟨other, List.mem_cons_of_mem _ later, rest, leads, rfl⟩

/-- Routes through different inputs differ, so their numbers add up. -/
theorem encard_routesAmong {inputs : List PortId} (once : inputs.Nodup) :
    (graph.routesAmong target inputs).encard =
      (inputs.map fun input => (graph.routesBehind target input).encard).sum := by
  induction inputs with
  | nil => simp [routesAmong]
  | cons input inputs inductionHypothesis =>
      obtain ⟨new, others⟩ := List.nodup_cons.mp once
      have apart : Disjoint ((input :: ·) '' graph.routesBehind target input)
          (graph.routesAmong target inputs) := by
        rw [Set.disjoint_left]
        rintro _ ⟨rest, -, rfl⟩ ⟨other, later, _, -, same⟩
        cases same
        exact new later
      rw [routesAmong_cons, Set.encard_union_eq apart, List.cons_injective.encard_image,
        inductionHypothesis others, List.map_cons, List.sum_cons]

theorem routes_eq (id target : NodeId) :
    graph.routes id target =
      { route | route = [] ∧ target = id } ∪ graph.routesAmong target (graph.node id).inputs := by
  ext route
  constructor
  · intro leads
    cases leads with
    | here => exact Or.inl ⟨rfl, rfl⟩
    | through isInput linked onward =>
        exact Or.inr ⟨_, isInput, _, ⟨_, linked, onward⟩, rfl⟩
  · rintro (⟨rfl, rfl⟩ | ⟨input, isInput, rest, ⟨feeder, linked, onward⟩, rfl⟩)
    · exact .here target
    · exact .through isInput linked onward

/-- The routes from a node are the empty one, to the node itself, and those through each input. -/
theorem encard_routes (once : (graph.node id).inputs.Nodup) (target : NodeId) :
    (graph.routes id target).encard =
      (if target = id then 1 else 0) +
        ((graph.node id).inputs.map fun input => (graph.routesBehind target input).encard).sum := by
  have apart : Disjoint { route : List PortId | route = [] ∧ target = id }
      (graph.routesAmong target (graph.node id).inputs) := by
    rw [Set.disjoint_left]
    rintro _ ⟨rfl, -⟩ ⟨input, -, rest, -, impossible⟩
    cases impossible
  have itself : { route : List PortId | route = [] ∧ target = id }.encard =
      if target = id then 1 else 0 := by
    by_cases same : target = id
    · simp [same]
    · simp [same]
  rw [routes_eq, Set.encard_union_eq apart, itself, encard_routesAmong once]

end Graph

end DemandFlow
