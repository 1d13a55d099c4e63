import Mathlib.Algebra.BigOperators.Ring.Finset
import DemandFlow.Proofs.Evaluation.Route
import DemandFlow.Proofs.Evaluation.Account

/-!
Contract: how often a pass visits each node.

Owns: the counts of the evaluations that performing a task consists of, for passes that memoize and
for passes that do not, in terms of the routes from the node that is computed.

Main statement: a plain pass that succeeds visits a node once for every route to it, a memoizing
one once if there is a route; and a memoizing pass visits no node twice, even if it fails
(`Reachable.visits_counted`).

Does not own: the routes (`Proofs.Evaluation.Route`).
-/

namespace DemandFlow

/-! ### Counters -/

/-- The counter of a node goes up by one for each of its evaluations. -/
theorem Performs.visitsOf {task : Task} {run after : Run}
    {result : Except EvaluationError (List Value)} {events : List Event}
    (performs : Performs task run result after events) (node : NodeId) :
    after.pass.visitsOf node = run.pass.visitsOf node + (evaluations events).count node := by
  -- An evaluation is counted when it begins, while its event is the last one.
  have ended {begun : NodeId} {before : Pass} {last : Nat} {within : List Event}
      {outcome : Except EvaluationError Unit}
      (counted : last = (before.start begun).visitsOf node + (evaluations within).count node) :
      last = before.visitsOf node +
        (evaluations (within ++ [.evaluated begun outcome])).count node := by
    rw [counted, Pass.visitsOf_start, evaluations_append, evaluations_evaluated, List.count_append]
    omega
  induction performs with
  | reenter => rfl
  | reuse => rfl
  | complete _ _ _ counted => exact ended counted
  | abandon _ _ _ counted => exact ended counted
  | constant =>
      rw [evaluations_publications]
      rfl
  | lack => rfl
  | halt _ _ _ counted => exact counted
  | respond _ _ _ _ counted =>
      rw [evaluations_append, evaluations_publications, List.append_nil]
      exact counted
  | done => rfl
  | starve => rfl
  | spare _ _ _ counted => exact counted
  | block _ _ counted => exact counted
  | receive _ _ _ first second =>
      rw [evaluations_append, evaluations_read, List.count_append, second, first, Nat.add_assoc]

/-- A task that succeeds consists of evaluations that succeed. -/
theorem Performs.evaluations_eq_successes {task : Task} {run after : Run}
    {result : Except EvaluationError (List Value)} {events : List Event}
    (performs : Performs task run result after events) {values : List Value}
    (succeeds : result = .ok values) : evaluations events = successes events := by
  have quiet (outputs : List PortId) (published : List Value) :
      successes (publications outputs published) = [] :=
    successes_eq_nil (evaluations_publications outputs published)
  induction performs generalizing values with
  | reenter => cases succeeds
  | reuse => rfl
  | complete _ _ _ within =>
      rw [evaluations_append, successes_append, within rfl]
      rfl
  | abandon => cases succeeds
  | constant => rw [evaluations_publications, quiet]
  | lack => cases succeeds
  | halt => cases succeeds
  | respond _ _ _ _ within =>
      rw [evaluations_append, successes_append, evaluations_publications, quiet, within rfl]
  | done => rfl
  | starve => cases succeeds
  | spare _ _ _ within =>
      obtain ⟨others, isOk, -⟩ := Graph.map_eq_ok_iff.mp succeeds
      exact within isOk
  | block => cases succeeds
  | receive _ _ _ first second =>
      obtain ⟨others, isOk, -⟩ := Graph.map_eq_ok_iff.mp succeeds
      rw [evaluations_append, successes_append, first rfl]
      exact congrArg _ (second isOk)

/-! ### Passes that memoize -/

/-- Events that evaluate no node twice, and none that the pass has completed before. -/
structure Novel (pass : Pass) (events : List Event) : Prop where
  once : (evaluations events).Nodup
  new : ∀ node ∈ evaluations events, node ∉ pass.completed

namespace Novel

theorem of_quiet {pass : Pass} {events : List Event} (quiet : evaluations events = []) :
    Novel pass events where
  once := by
    rw [quiet]
    exact List.nodup_nil
  new node member := by
    rw [quiet] at member
    cases member

/-- An evaluation adds its own node, which is in progress meanwhile and so not evaluated within. -/
theorem ended {run between : Run} {node : NodeId} {events : List Event}
    {outcome : Except EvaluationError (List Value)}
    (evaluation : Performs (.evaluate node) (run.mapPass (·.start node)) outcome between events)
    (novel : Novel (run.pass.start node) events) (memoizes : run.pass.memoized = true)
    (unknown : run.pass.canReuse node = false) (result : Except EvaluationError Unit) :
    Novel run.pass (events ++ [.evaluated node result]) := by
  have fresh : node ∉ run.pass.completed := by
    simpa [Pass.canReuse, memoizes] using unknown
  have outside : node ∉ evaluations events := fun member =>
    evaluation.account.tally.outside node member List.mem_cons_self
  constructor
  · rw [evaluations_append, evaluations_evaluated, List.nodup_append]
    refine ⟨novel.once, List.nodup_singleton node, ?_⟩
    rintro other member _ isLast rfl
    rw [List.mem_singleton.mp isLast] at member
    exact outside member
  · intro other member
    rw [evaluations_append, evaluations_evaluated] at member
    rcases List.mem_append.mp member with earlier | isLast
    · exact novel.new other earlier
    · rwa [List.mem_singleton.mp isLast]

/-- What a demand has evaluated with success, it has completed, and nothing after it evaluates. -/
theorem trans {run between : Run} {node : NodeId} {earlier later : List Event}
    (demand : Performs (.demand node) run (.ok []) between earlier)
    (first : Novel run.pass earlier) (second : Novel between.pass later) :
    Novel run.pass (earlier ++ later) := by
  have completed := demand.account.tally.completed
  have same := demand.evaluations_eq_successes rfl
  constructor
  · rw [evaluations_append, List.nodup_append]
    refine ⟨first.once, second.once, ?_⟩
    rintro other early _ late rfl
    rw [same] at early
    exact second.new other late ((completed other).mpr (Or.inr early))
  · intro other member isDone
    rw [evaluations_append] at member
    rcases List.mem_append.mp member with early | late
    · exact first.new other early isDone
    · exact second.new other late ((completed other).mpr (Or.inl isDone))

end Novel

theorem Performs.novel {task : Task} {run after : Run}
    {result : Except EvaluationError (List Value)} {events : List Event}
    (performs : Performs task run result after events) (memoizes : run.pass.memoized = true) :
    Novel run.pass events := by
  induction performs with
  | reenter => exact .of_quiet rfl
  | reuse => exact .of_quiet rfl
  | complete _ unknown evaluation novel =>
      exact .ended evaluation (novel memoizes) memoizes unknown _
  | abandon _ unknown evaluation novel =>
      exact .ended evaluation (novel memoizes) memoizes unknown _
  | constant => exact .of_quiet (evaluations_publications _ _)
  | lack => exact .of_quiet rfl
  | halt _ _ _ novel => exact novel memoizes
  | respond _ _ _ _ novel =>
      obtain ⟨once, new⟩ := novel memoizes
      constructor
      · rwa [evaluations_append, evaluations_publications, List.append_nil]
      · rwa [evaluations_append, evaluations_publications, List.append_nil]
  | done => exact .of_quiet rfl
  | starve => exact .of_quiet rfl
  | spare _ _ _ novel => exact ⟨(novel memoizes).once, (novel memoizes).new⟩
  | block _ _ novel => exact novel memoizes
  | receive _ demand _ first second =>
      have later := second (demand.account.tally.memoized.trans memoizes)
      exact .trans demand (first memoizes) ⟨later.once, later.new⟩

/-! ### Plain passes -/

namespace Graph

variable {graph : Graph}

/-- What a task is about is alive: the node that is computed, or the node with the inputs. -/
def Living (graph : Graph) : Task → Prop
  | .demand id => graph.nodeAlive id = true
  | .evaluate id => graph.nodeAlive id = true
  | .pull inputs => ∃ id, graph.nodeAlive id = true ∧ inputs ⊆ (graph.node id).inputs

/-- The number of routes to a node that start with a task: from the node demanded, or through the
inputs pulled. -/
noncomputable def routeCount (graph : Graph) (target : NodeId) : Task → ℕ∞
  | .demand id => (graph.routes id target).encard
  | .evaluate id =>
      ((graph.node id).inputs.map fun input => (graph.routesBehind target input).encard).sum
  | .pull inputs => (inputs.map fun input => (graph.routesBehind target input).encard).sum

/-- The number of routes from a node, wherever they lead to. -/
noncomputable def routesFrom (graph : Graph) (id : NodeId) : ℕ∞ :=
  ∑ target ∈ Finset.range graph.nodes.size, (graph.routes id target).encard

theorem inputs_nodup (shaped : graph.Shaped Blueprint.IsLibrary) {id : NodeId}
    (made : id < graph.nodes.size) : (graph.node id).inputs.Nodup := by
  obtain ⟨plan, first, -, madeFrom⟩ := shaped.made id made
  have inputs : (graph.node id).inputs = plan.numbersOf first .input := madeFrom.terminals .input
  rw [inputs]
  exact plan.nodup_numbersOf first .input

end Graph

/-- A task that succeeds without reuse evaluates a node once for every route to it. -/
theorem Performs.count_eq_routeCount {graph : Graph} (sound : graph.Sound Blueprint.IsLibrary)
    {task : Task} {run after : Run} {result : Except EvaluationError (List Value)}
    {events : List Event} (performs : Performs task run result after events)
    (links : graph.SameLinks run.graph) (living : graph.Living task)
    (plain : run.pass.memoized = false) {values : List Value} (succeeds : result = .ok values)
    (target : NodeId) :
    ((evaluations events).count target : ℕ∞) = graph.routeCount target task := by
  induction performs generalizing values with
  | reenter => cases succeeds
  | reuse _ known => simp [Pass.canReuse, plain] at known
  | @complete _ _ id _ _ _ _ counted =>
      have within := counted links living plain rfl
      have made := (Graph.nodeAlive_iff.mp living).1
      rw [Graph.routeCount, Graph.encard_routes (Graph.inputs_nodup sound.shaped made),
        evaluations_append, evaluations_evaluated, List.count_append, Nat.cast_add, within,
        add_comm, Graph.routeCount]
      congr 1
      by_cases same : target = id
      · simp [same]
      · simp [same, Ne.symm same]
  | abandon => cases succeeds
  | @constant run id value behaviour =>
      have library := sound.shaped.libraryNode (Graph.nodeAlive_iff.mp living).1
      obtain ⟨planned, constant⟩ := (links.shape.node id).behaviour.exists_constant behaviour
      rw [evaluations_publications, Graph.routeCount, library.constants planned constant]
      rfl
  | lack => cases succeeds
  | halt => cases succeeds
  | @respond run between id _ _ _ _ _ _ _ _ _ counted =>
      have inputs : (run.graph.node id).inputs = (graph.node id).inputs :=
        (links.shape.node id).inputs
      have within := counted links
        ⟨id, living, by rw [inputs]; exact fun _ member => member⟩ plain rfl
      rw [evaluations_append, evaluations_publications, List.append_nil, within,
        Graph.routeCount, Graph.routeCount, inputs]
  | done => rfl
  | starve => cases succeeds
  | @spare run _ input rest _ _ unfed _ _ counted =>
      obtain ⟨id, alive, subset⟩ := living
      obtain ⟨others, isOk, -⟩ := Graph.map_eq_ok_iff.mp succeeds
      have within := counted links
        ⟨id, alive, fun _ member => subset (List.mem_cons_of_mem _ member)⟩ plain isOk
      have unlinked : graph.feeder? input = none := by
        rw [← sound.sourceNode?_eq_feeder? alive (subset List.mem_cons_self), ← unfed]
        exact (links.sourceNode? input).symm
      rw [evaluations_read, within, Graph.routeCount, Graph.routeCount, List.map_cons,
        List.sum_cons, Graph.routesBehind_of_unlinked unlinked]
      simp
  | block => cases succeeds
  | @receive run between _ input rest node _ _ _ fed demand _ first second =>
      obtain ⟨id, alive, subset⟩ := living
      obtain ⟨others, isOk, -⟩ := Graph.map_eq_ok_iff.mp succeeds
      have linked : graph.feeder? input = some node := by
        rw [← sound.sourceNode?_eq_feeder? alive (subset List.mem_cons_self), ← fed]
        exact (links.sourceNode? input).symm
      have feederAlive : graph.nodeAlive node = true := sound.nodeAlive_of_needs alive
        (List.mem_filterMap.mpr ⟨input, subset List.mem_cons_self, linked⟩)
      have account := demand.account
      have earlier := first links feederAlive plain rfl
      have later := second (links.trans account.links)
        ⟨id, alive, fun _ member => subset (List.mem_cons_of_mem _ member)⟩
        (account.tally.memoized.trans plain) isOk
      rw [evaluations_append, evaluations_read, List.count_append, Nat.cast_add, earlier, later,
        Graph.routeCount, Graph.routeCount, Graph.routeCount, List.map_cons, List.sum_cons,
        Graph.routesBehind_of_linked linked]

/-! ### Fresh passes -/

namespace Graph

/-- What the counters of a fresh pass tell once it has computed a node. -/
structure Counted (graph : Graph) (sink : NodeId) : Prop where
  /-- A plain pass that succeeds visits each node once for every route to it. -/
  plain : (Run.compute ⟨graph, .plain⟩ sink).1 = .ok () → ∀ node,
    ((Run.compute ⟨graph, .plain⟩ sink).2.pass.visitsOf node : ℕ∞) =
      (graph.routes sink node).encard
  total : (Run.compute ⟨graph, .plain⟩ sink).1 = .ok () →
    ((Run.compute ⟨graph, .plain⟩ sink).2.pass.visits : ℕ∞) =
      ∑ node ∈ Finset.range graph.nodes.size, (graph.routes sink node).encard
  /-- A memoizing pass that succeeds visits the nodes upstream, each once. -/
  memoizing : (Run.compute ⟨graph, .memoizing⟩ sink).1 = .ok () → ∀ node ∈ graph.upstream sink,
    (Run.compute ⟨graph, .memoizing⟩ sink).2.pass.visitsOf node = 1
  elsewhere : (Run.compute ⟨graph, .memoizing⟩ sink).1 = .ok () → ∀ node ∉ graph.upstream sink,
    (Run.compute ⟨graph, .memoizing⟩ sink).2.pass.visitsOf node = 0
  /-- A memoizing pass that fails visits no node twice. -/
  failing : ∀ failure, (Run.compute ⟨graph, .memoizing⟩ sink).1 = .error failure → ∀ node,
    (Run.compute ⟨graph, .memoizing⟩ sink).2.pass.visitsOf node ≤ 1

variable {graph : Graph} {sink : NodeId}

/-- The counters of a fresh pass count the evaluations of its computation. -/
theorem exists_evaluations (alive : graph.nodeAlive sink = true) (memoized : Bool) :
    ∃ events, Performs (.demand sink) ⟨graph, .fresh memoized⟩
        ((Run.compute ⟨graph, .fresh memoized⟩ sink).1.map fun _ => [])
        (Run.compute ⟨graph, .fresh memoized⟩ sink).2 events ∧
      ∀ node, (Run.compute ⟨graph, .fresh memoized⟩ sink).2.pass.visitsOf node =
        (evaluations events).count node := by
  obtain ⟨events, performs⟩ :=
    performs_compute ⟨graph, .fresh memoized⟩ (nodeAlive_iff.mp alive).1
  refine ⟨events, performs, fun node => ?_⟩
  have none : (Pass.fresh memoized).visitsOf node = 0 := by cases memoized <;> rfl
  rw [performs.visitsOf node, none, Nat.zero_add]

/-- The counters of the nodes of a graph add up to the number of visits. -/
theorem visits_eq_sum {pass : Pass} {size : Nat}
    (made : ∀ node, pass.visitsOf node ≠ 0 → node < size) :
    pass.visits = ∑ node ∈ Finset.range size, pass.visitsOf node := by
  have within : ∀ node ∈ (pass.trace : Multiset NodeId), node ∈ Finset.range size := by
    intro node member
    rw [Finset.mem_range]
    apply made
    exact (List.count_pos_iff.mpr member).ne'
  have total := Multiset.sum_count_eq_card within
  rw [Multiset.coe_card] at total
  simp only [Multiset.coe_count] at total
  exact total.symm

/-- After a successful pass, plain or not, exactly the nodes upstream have been evaluated. -/
theorem Sound.mem_evaluations_iff (sound : graph.Sound Blueprint.IsLibrary)
    (alive : graph.nodeAlive sink = true) {memoized : Bool}
    (succeeds : (Run.compute ⟨graph, .fresh memoized⟩ sink).1 = .ok ()) {events : List Event}
    (performs : Performs (.demand sink) ⟨graph, .fresh memoized⟩
      ((Run.compute ⟨graph, .fresh memoized⟩ sink).1.map fun _ => [])
      (Run.compute ⟨graph, .fresh memoized⟩ sink).2 events) {node : NodeId} :
    node ∈ evaluations events ↔ node ∈ graph.upstream sink := by
  obtain ⟨after, computed, advances⟩ := sound.compute_eq alive memoized
  have isOk : ((Run.compute ⟨graph, .fresh memoized⟩ sink).1.map fun _ => []) =
      .ok ([] : List Value) := by
    rw [succeeds]
    rfl
  have completed := performs.account.tally.completed node
  rw [computed] at succeeds completed
  obtain ⟨value, found, -⟩ := map_eq_ok_iff.mp succeeds
  have sinkDone : sink ∈ after.pass.completed := advances.mem_completed_iff.mpr (.itself found)
  have evaluated : node ∈ after.pass.completed ↔ node ∈ evaluations events := by
    rw [completed, performs.evaluations_eq_successes isOk]
    simp
  rw [← evaluated]
  constructor
  · exact fun isDone => (advances.mem_completed_iff.mp isDone).reaches
  · exact fun reaches => advances.progress.mem_of_reaches sinkDone reaches

/-- A plain pass that succeeds visits a node once for every route to it. -/
theorem Sound.visitsOf_plain (sound : graph.Sound Blueprint.IsLibrary)
    (alive : graph.nodeAlive sink = true)
    (succeeds : (Run.compute ⟨graph, .fresh false⟩ sink).1 = .ok ()) (target : NodeId) :
    ((Run.compute ⟨graph, .fresh false⟩ sink).2.pass.visitsOf target : ℕ∞) =
      (graph.routes sink target).encard := by
  obtain ⟨events, performs, counted⟩ := exists_evaluations alive false
  have isOk : ((Run.compute ⟨graph, .fresh false⟩ sink).1.map fun _ => []) =
      .ok ([] : List Value) := congrArg (Except.map _) succeeds
  have routes := performs.count_eq_routeCount sound (.refl graph) alive rfl isOk target
  rwa [← counted target] at routes

/-- A plain pass that succeeds takes as many visits as there are routes. -/
theorem Sound.visits_plain (sound : graph.Sound Blueprint.IsLibrary)
    (alive : graph.nodeAlive sink = true)
    (succeeds : (Run.compute ⟨graph, .fresh false⟩ sink).1 = .ok ()) :
    ((Run.compute ⟨graph, .fresh false⟩ sink).2.pass.visits : ℕ∞) = graph.routesFrom sink := by
  have routes := sound.visitsOf_plain alive succeeds
  rw [visits_eq_sum, Nat.cast_sum]
  · exact Finset.sum_congr rfl fun target _ => routes target
  · intro target visited
    have leads : (graph.routes sink target).Nonempty := by
      rw [← Set.encard_ne_zero, ← routes target]
      exact_mod_cast visited
    simpa using sound.upstream_subset alive (routes_nonempty_iff.mp leads)

/-- A memoizing pass visits no node twice, even if it fails. -/
theorem visitsOf_memoizing_le_one (alive : graph.nodeAlive sink = true) (target : NodeId) :
    (Run.compute ⟨graph, .fresh true⟩ sink).2.pass.visitsOf target ≤ 1 := by
  obtain ⟨events, performs, counted⟩ := exists_evaluations alive true
  exact (counted target).trans_le
    (List.nodup_iff_count_le_one.mp (performs.novel rfl).once target)

/-- A memoizing pass that succeeds visits just the nodes upstream. -/
theorem Sound.visitsOf_memoizing_pos_iff (sound : graph.Sound Blueprint.IsLibrary)
    (alive : graph.nodeAlive sink = true)
    (succeeds : (Run.compute ⟨graph, .fresh true⟩ sink).1 = .ok ()) {target : NodeId} :
    0 < (Run.compute ⟨graph, .fresh true⟩ sink).2.pass.visitsOf target ↔
      target ∈ graph.upstream sink := by
  obtain ⟨events, performs, counted⟩ := exists_evaluations alive true
  rw [counted target, List.count_pos_iff, sound.mem_evaluations_iff alive succeeds performs]

/-- A memoizing pass that succeeds visits the nodes upstream, each once. -/
theorem Sound.visitsOf_memoizing (sound : graph.Sound Blueprint.IsLibrary)
    (alive : graph.nodeAlive sink = true)
    (succeeds : (Run.compute ⟨graph, .fresh true⟩ sink).1 = .ok ()) {target : NodeId}
    (member : target ∈ graph.upstream sink) :
    (Run.compute ⟨graph, .fresh true⟩ sink).2.pass.visitsOf target = 1 :=
  Nat.le_antisymm (visitsOf_memoizing_le_one alive target)
    ((sound.visitsOf_memoizing_pos_iff alive succeeds).mpr member)

end Graph

/-- In a reachable graph of library nodes, the counters of a fresh pass that has computed a living
node tell the routes to each node, or for a memoizing pass, whether there is one. -/
theorem Reachable.visits_counted {graph : Graph} (reachable : Reachable Blueprint.IsLibrary graph)
    {sink : NodeId} (alive : graph.nodeAlive sink = true) : graph.Counted sink := by
  have sound := reachable.sound
  constructor
  · exact sound.visitsOf_plain alive
  · exact sound.visits_plain alive
  · intro succeeds node member
    exact sound.visitsOf_memoizing alive succeeds member
  · intro succeeds node outside
    have unvisited := mt (sound.visitsOf_memoizing_pos_iff alive succeeds).mp outside
    exact Nat.eq_zero_of_not_pos unvisited
  · intro failure _ node
    exact Graph.visitsOf_memoizing_le_one alive node

/-- A conjunction of a constant with itself. -/
def Graph.doubled : Graph :=
  [.create (.constant ⟨.bool, true⟩) "A",
    .create (.operator "And" (.binary .bool .bool .bool fun x y => .ok (x && y))) "B",
    .link (.direct 0 1), .link (.direct 0 2)].foldl Action.apply .empty

theorem Reachable.doubled : Reachable Blueprint.IsLibrary Graph.doubled := by
  have constant := Reachable.step Reachable.empty
    (show (Action.create (.constant ⟨.bool, true⟩) "A").Allowed Blueprint.IsLibrary .empty from
      .constant _)
  have conjunction := Reachable.step constant
    (show (Action.create
      (.operator "And" (.binary .bool .bool .bool fun x y => .ok (x && y))) "B").Allowed
      Blueprint.IsLibrary _ from .binary ..)
  have first := Reachable.step conjunction
    (show (Action.link (.direct 0 1)).Allowed Blueprint.IsLibrary _ from
      ⟨.bool, ⟨Or.inl (by decide), rfl, rfl⟩, Or.inl (by decide), rfl, rfl⟩)
  exact Reachable.step first
    (show (Action.link (.direct 0 2)).Allowed Blueprint.IsLibrary _ from
      ⟨.bool, ⟨Or.inl (by decide), rfl, rfl⟩, Or.inl (by decide), rfl, rfl⟩)

theorem Reachable.visits_counted_doubled :
    (Graph.doubled.routes 1 0).encard = 2 ∧
      (Run.compute ⟨Graph.doubled, .plain⟩ 1).2.pass.visits = 3 ∧
      (Run.compute ⟨Graph.doubled, .memoizing⟩ 1).2.pass.visitsOf 0 = 1 := by
  have counted := Reachable.visits_counted Reachable.doubled
    (show Graph.doubled.nodeAlive 1 = true by decide)
  have twice : (Run.compute ⟨Graph.doubled, .plain⟩ 1).2.pass.visitsOf 0 = 2 := rfl
  have routes := counted.plain rfl 0
  rw [twice] at routes
  have fed : Graph.doubled.feeders 1 = [0, 0] := rfl
  have needs : Graph.doubled.Needs 1 0 := by
    rw [Graph.Needs, fed]
    exact List.mem_cons_self
  exact ⟨routes.symm, rfl, counted.memoizing rfl 0 (.single needs)⟩

end DemandFlow
