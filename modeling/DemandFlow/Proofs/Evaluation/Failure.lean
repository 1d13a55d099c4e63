import DemandFlow.Proofs.Evaluation.Reference
import Mathlib.Data.List.Chain

/-!
Contract: where the failure of a node comes from.

Owns: the nodes that a failure passes through, from the one that was asked for to the one at which
it arises.

Main statements: the recursion fails exactly along such a trail (`exists_trail_iff`); no node on it
has a value (`Fails.not_computed`); a cycle that is reported is one (`Fails.ring`), and a link that
is reported as missing is missing upstream (`Fails.unlinked`).

Does not own: that evaluation fails in the same way (`Proofs.Evaluation.Outcome`).
-/

namespace DemandFlow.Graph

variable {graph : Graph}

/-- The recursion for a node, with the nodes of a path in progress, fails. The failure arises at the
last of the nodes `id :: rest`, each of which is the first that fails among the feeders of the one
before. -/
inductive Fails (graph : Graph) : (path : List NodeId) → (id : NodeId) → (rest : List NodeId) →
    EvaluationError → Prop where
  | cycle {path : List NodeId} {id : NodeId} (inside : id ∈ path) :
      Fails graph path id [] (.cycle id)
  | notReady {path : List NodeId} {id : NodeId} {input : PortId} (outside : id ∉ path)
      (missing : graph.unlinked? id = some input) :
      Fails graph path id [] (.notReady id (graph.port input).name)
  | failed {path : List NodeId} {id : NodeId} {values : List Value} {cause : OperationError}
      (outside : id ∉ path) (complete : graph.unlinked? id = none)
      (collected : allValues ((graph.feeders id).map (graph.reference (id :: path))) = .ok values)
      (yields : (graph.node id).behaviour.yield values = .error cause) :
      Fails graph path id [] (.failed id (graph.node id).kindName cause)
  | upstream {path earlier later rest : List NodeId} {id feeder : NodeId}
      {failure : EvaluationError} (outside : id ∉ path) (complete : graph.unlinked? id = none)
      (split : graph.feeders id = earlier ++ feeder :: later)
      (computed : ∀ before ∈ earlier, ∃ value, graph.reference (id :: path) before = .ok value)
      (within : Fails graph (id :: path) feeder rest failure) :
      Fails graph path id (feeder :: rest) failure

/-! ### The trail and the recursion -/

/-- The first failure among results is that of some node, and all before it have values. -/
theorem allValues_map_eq_error_iff {results : NodeId → Except EvaluationError Value}
    {nodes : List NodeId} {failure : EvaluationError} :
    allValues (nodes.map results) = .error failure ↔
      ∃ earlier node later, nodes = earlier ++ node :: later ∧
        (∀ before ∈ earlier, ∃ value, results before = .ok value) ∧
        results node = .error failure := by
  constructor
  · intro collected
    induction nodes with
    | nil => cases collected
    | cons first rest inductionHypothesis =>
        rw [List.map_cons] at collected
        cases found : results first with
        | error cause =>
            rw [found] at collected
            cases collected
            exact ⟨[], first, rest, rfl, by simp, found⟩
        | ok value =>
            rw [found] at collected
            have remaining : allValues (rest.map results) = .error failure := by
              cases others : allValues (rest.map results) with
              | error cause =>
                  rw [allValues, others] at collected
                  cases collected
                  rfl
              | ok values =>
                  rw [allValues, others] at collected
                  cases collected
            obtain ⟨earlier, node, later, split, computed, failed⟩ := inductionHypothesis remaining
            refine ⟨first :: earlier, node, later, by rw [split]; rfl, ?_, failed⟩
            intro before member
            rcases List.mem_cons.mp member with rfl | inside
            · exact ⟨value, found⟩
            · exact computed before inside
  · intro divided
    obtain ⟨earlier, node, later, rfl, computed, failed⟩ := divided
    induction earlier with
    | nil =>
        rw [List.nil_append, List.map_cons, failed]
        rfl
    | cons first earlier inductionHypothesis =>
        obtain ⟨value, found⟩ := computed first List.mem_cons_self
        have remaining := inductionHypothesis fun before member =>
          computed before (List.mem_cons_of_mem _ member)
        rw [List.cons_append, List.map_cons, found, allValues, remaining]
        rfl

/-- A trail leads to a failure that the recursion has. -/
theorem Fails.reference_eq {path rest : List NodeId} {id : NodeId} {failure : EvaluationError}
    (fails : graph.Fails path id rest failure) : graph.reference path id = .error failure := by
  induction fails with
  | cycle inside => exact reference_of_mem inside
  | notReady outside missing => exact reference_of_unlinked outside missing
  | failed outside complete collected yields =>
      rw [reference_of_linked outside complete, collected]
      simp only [yields]
      rfl
  | upstream outside complete split computed _ inductionHypothesis =>
      have collected :=
        allValues_map_eq_error_iff.mpr ⟨_, _, _, split, computed, inductionHypothesis⟩
      rw [reference_of_linked outside complete, collected]

/-- Every failure of the recursion has a trail. -/
theorem exists_trail {path : List NodeId} {id : NodeId} {failure : EvaluationError}
    (result : graph.reference path id = .error failure) :
    ∃ rest, graph.Fails path id rest failure := by
  by_cases inside : id ∈ path
  · rw [reference_of_mem inside] at result
    cases result
    exact ⟨[], .cycle inside⟩
  cases missing : graph.unlinked? id with
  | some input =>
      rw [reference_of_unlinked inside missing] at result
      cases result
      exact ⟨[], .notReady inside missing⟩
  | none =>
      rw [reference_of_linked inside missing] at result
      cases collected : allValues ((graph.feeders id).map (graph.reference (id :: path))) with
      | error cause =>
          rw [collected] at result
          cases result
          obtain ⟨earlier, feeder, later, split, computed, failed⟩ :=
            allValues_map_eq_error_iff.mp collected
          have needs := needs_of_split split
          obtain ⟨rest, within⟩ := exists_trail failed
          exact ⟨feeder :: rest, .upstream inside missing split computed within⟩
      | ok values =>
          rw [collected] at result
          cases yields : (graph.node id).behaviour.yield values with
          | ok value =>
              simp only [yields] at result
              cases result
          | error cause =>
              simp only [yields] at result
              cases result
              exact ⟨[], .failed inside missing collected yields⟩
termination_by ((List.range graph.nodes.size).filter (· ∉ path)).length
decreasing_by
  exact length_outside_cons_lt (List.mem_range.mpr (lt_of_mem_feeders needs)) inside

theorem exists_trail_iff {path : List NodeId} {id : NodeId} {failure : EvaluationError} :
    (∃ rest, graph.Fails path id rest failure) ↔ graph.reference path id = .error failure := by
  constructor
  · intro trail
    obtain ⟨rest, fails⟩ := trail
    exact fails.reference_eq
  · exact exists_trail

/-! ### The nodes on the trail -/

/-- Each node on the trail needs the next. -/
theorem Fails.isChain {path rest : List NodeId} {id : NodeId} {failure : EvaluationError}
    (fails : graph.Fails path id rest failure) : (id :: rest).IsChain graph.Needs := by
  induction fails with
  | cycle => exact .singleton _
  | notReady => exact .singleton _
  | failed => exact .singleton _
  | upstream _ _ split _ _ inductionHypothesis =>
      exact .cons_cons (needs_of_split split) inductionHypothesis

/-- The trail ends at the node that the failure names. -/
theorem Fails.getLast_eq {path rest : List NodeId} {id : NodeId} {failure : EvaluationError}
    (fails : graph.Fails path id rest failure) :
    (id :: rest).getLast (List.cons_ne_nil id rest) = failure.node := by
  induction fails with
  | cycle => rfl
  | notReady => rfl
  | failed => rfl
  | upstream _ _ _ _ _ inductionHypothesis =>
      rw [List.getLast_cons (List.cons_ne_nil _ _)]
      exact inductionHypothesis

/-- From each node on the trail the failure goes on in the same way, while nodes that need the node
are in progress. -/
theorem Fails.exists_of_mem {path rest : List NodeId} {id node : NodeId}
    {failure : EvaluationError} (fails : graph.Fails path id rest failure)
    (needed : ∀ active ∈ path, Relation.TransGen graph.Needs active id)
    (member : node ∈ id :: rest) :
    ∃ pathThere restThere, graph.Fails pathThere node restThere failure ∧
      ∀ active ∈ pathThere, Relation.TransGen graph.Needs active node := by
  rcases List.mem_cons.mp member with rfl | further
  · exact ⟨path, rest, fails, needed⟩
  clear member
  induction fails with
  | cycle => cases further
  | notReady => cases further
  | failed => cases further
  | upstream _ _ split _ within inductionHypothesis =>
      have neededThere := needed_cons needed (needs_of_split split)
      rcases List.mem_cons.mp further with rfl | deeper
      · exact ⟨_, _, within, neededThere⟩
      · exact inductionHypothesis neededThere deeper

/-- No node on the trail has a value, not even one found while other nodes were in progress. -/
theorem Fails.not_computed {rest : List NodeId} {id node : NodeId} {failure : EvaluationError}
    (fails : graph.Fails [] id rest failure) (member : node ∈ id :: rest) (value : Value) :
    graph.reference [] node ≠ .ok value := by
  intro computed
  obtain ⟨path, further, failsThere, needed⟩ := fails.exists_of_mem (by simp) member
  have found := reference_of_needed computed needed
  rw [failsThere.reference_eq] at found
  cases found

/-- A cycle that is reported goes through a node upstream that needs itself. -/
theorem Fails.ring {path rest : List NodeId} {id node : NodeId}
    (fails : graph.Fails path id rest (.cycle node))
    (needed : ∀ active ∈ path, Relation.TransGen graph.Needs active id) :
    Relation.ReflTransGen graph.Needs id node ∧ Relation.TransGen graph.Needs node node := by
  generalize reported : EvaluationError.cycle node = failure at fails
  induction fails with
  | cycle inside =>
      cases reported
      exact ⟨.refl, needed _ inside⟩
  | notReady => cases reported
  | failed => cases reported
  | upstream _ _ split _ _ inductionHypothesis =>
      have needs := needs_of_split split
      obtain ⟨reaches, ring⟩ := inductionHypothesis (needed_cons needed needs) reported
      exact ⟨.head needs reaches, ring⟩

/-- A lack of a link that is reported is that of a node upstream. -/
theorem Fails.unlinked {path rest : List NodeId} {id node : NodeId} {name : String}
    (fails : graph.Fails path id rest (.notReady node name)) :
    Relation.ReflTransGen graph.Needs id node ∧ graph.unlinked? node ≠ none := by
  generalize reported : EvaluationError.notReady node name = failure at fails
  induction fails with
  | cycle => cases reported
  | notReady _ missing =>
      cases reported
      exact ⟨.refl, by simp [missing]⟩
  | failed => cases reported
  | upstream _ _ split _ _ inductionHypothesis =>
      obtain ⟨reaches, missing⟩ := inductionHypothesis reported
      exact ⟨.head (needs_of_split split) reaches, missing⟩

end DemandFlow.Graph
