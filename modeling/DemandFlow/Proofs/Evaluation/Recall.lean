import DemandFlow.Proofs.Evaluation.Account

/-!
Contract: what of a pass bears on a computation.

Owns: when two states are alike for all that a computation looks at.

Main statement: alike states lead to the same results, graphs and events, whatever nodes do
(`Run.Alike.compute`); so a plain pass computes like a fresh one whenever no node is in progress
(`Run.compute_of_plain`).

Does not own: what a pass that memoizes may rely on (`Proofs.Evaluation.Outcome`).
-/

namespace DemandFlow

theorem Pass.canReuse_finish (pass : Pass) (node other : NodeId) :
    (pass.finish node).canReuse other =
      (pass.memoized && (other == node) || pass.canReuse other) := by
  have known : (pass.finish node).completed.contains other =
      ((other == node) || pass.completed.contains other) := by
    rw [Bool.eq_iff_iff]
    simpa using pass.mem_completed_finish
  show (pass.memoized && (pass.finish node).completed.contains other) = _
  rw [known, Bool.and_or_distrib_left]
  rfl

namespace Run

/-- Two states with the same graph whose passes have the same nodes in progress and can reuse the
same nodes. -/
structure Alike (run other : Run) : Prop where
  graph : other.graph = run.graph
  inProgress : other.pass.inProgress = run.pass.inProgress
  memoized : other.pass.memoized = run.pass.memoized
  canReuse : ∀ node, other.pass.canReuse node = run.pass.canReuse node

namespace Alike

variable {run other : Run}

theorem mapGraph (alike : run.Alike other) (change : Graph → Graph) :
    (run.mapGraph change).Alike (other.mapGraph change) where
  graph := congrArg change alike.graph
  inProgress := alike.inProgress
  memoized := alike.memoized
  canReuse := alike.canReuse

theorem start (alike : run.Alike other) (node : NodeId) :
    (run.mapPass (·.start node)).Alike (other.mapPass (·.start node)) where
  graph := alike.graph
  inProgress := congrArg (node :: ·) alike.inProgress
  memoized := alike.memoized
  canReuse := alike.canReuse

theorem abandon (alike : run.Alike other) (node : NodeId) :
    (run.mapPass (·.abandon node)).Alike (other.mapPass (·.abandon node)) where
  graph := alike.graph
  inProgress := congrArg (·.erase node) alike.inProgress
  memoized := alike.memoized
  canReuse := alike.canReuse

theorem finish (alike : run.Alike other) (node : NodeId) :
    (run.mapPass (·.finish node)).Alike (other.mapPass (·.finish node)) where
  graph := alike.graph
  inProgress := congrArg (·.erase node) alike.inProgress
  memoized := alike.memoized
  canReuse later := by
    show (other.pass.finish node).canReuse later = (run.pass.finish node).canReuse later
    rw [Pass.canReuse_finish, Pass.canReuse_finish, alike.memoized, alike.canReuse]

end Alike

end Run

/-- What is performed in a state is performed in every state alike. -/
theorem Performs.alike {task : Task} {run after other : Run}
    {result : Except EvaluationError (List Value)} {events : List Event}
    (performs : Performs task run result after events) (alike : run.Alike other) :
    ∃ last, Performs task other result last events ∧ after.Alike last := by
  induction performs generalizing other with
  | reenter begun => exact ⟨other, .reenter (by rwa [alike.inProgress]), alike⟩
  | reuse notBegun known =>
      exact ⟨other, .reuse (by rwa [alike.inProgress]) (by rwa [alike.canReuse]), alike⟩
  | complete notBegun unknown _ inductionHypothesis =>
      obtain ⟨last, evaluation, within⟩ := inductionHypothesis (alike.start _)
      exact ⟨_, .complete (by rwa [alike.inProgress]) (by rwa [alike.canReuse]) evaluation,
        within.finish _⟩
  | abandon notBegun unknown _ inductionHypothesis =>
      obtain ⟨last, evaluation, within⟩ := inductionHypothesis (alike.start _)
      exact ⟨_, .abandon (by rwa [alike.inProgress]) (by rwa [alike.canReuse]) evaluation,
        within.abandon _⟩
  | constant behaviour =>
      rw [← alike.graph] at behaviour ⊢
      exact ⟨_, .constant behaviour, alike.mapGraph _⟩
  | lack behaviour missing =>
      rw [← alike.graph] at behaviour missing ⊢
      exact ⟨other, .lack behaviour missing, alike⟩
  | halt behaviour ready _ inductionHypothesis =>
      obtain ⟨last, pulls, within⟩ := inductionHypothesis alike
      rw [← alike.graph] at behaviour ready pulls
      exact ⟨last, .halt behaviour ready pulls, within⟩
  | respond behaviour ready _ response inductionHypothesis =>
      obtain ⟨last, pulls, within⟩ := inductionHypothesis alike
      rw [← within.graph] at response
      rw [← alike.graph] at behaviour ready pulls response ⊢
      exact ⟨_, .respond behaviour ready pulls response, within.mapGraph _⟩
  | done => exact ⟨other, .done, alike⟩
  | starve unfed required =>
      rw [← alike.graph] at unfed required ⊢
      exact ⟨other, .starve unfed required, alike⟩
  | spare unfed optional _ inductionHypothesis =>
      obtain ⟨last, pulls, within⟩ := inductionHypothesis alike
      rw [← alike.graph] at unfed optional ⊢
      exact ⟨last, .spare unfed optional pulls, within⟩
  | block fed _ inductionHypothesis =>
      obtain ⟨last, demand, within⟩ := inductionHypothesis alike
      rw [← alike.graph] at fed
      exact ⟨last, .block fed demand, within⟩
  | receive fed _ _ demandHypothesis pullHypothesis =>
      obtain ⟨middle, demand, between⟩ := demandHypothesis alike
      obtain ⟨last, pulls, within⟩ := pullHypothesis between
      rw [← alike.graph] at fed
      rw [← between.graph]
      exact ⟨last, .receive fed demand pulls, within⟩

theorem unit_result_inj {Failure : Type} {first second : Except Failure Unit}
    (same : first.map (fun _ => ([] : List Value)) = second.map fun _ => []) : first = second := by
  cases first <;> cases second <;> cases same <;> rfl

namespace Run

/-- Alike states compute a node alike. -/
theorem Alike.compute {run other : Run} (alike : run.Alike other) {id : NodeId}
    (made : id < run.graph.nodes.size) :
    (other.compute id).1 = (run.compute id).1 ∧ (run.compute id).2.Alike (other.compute id).2 := by
  have madeToo : id < other.graph.nodes.size := by
    rwa [alike.graph]
  obtain ⟨events, performs⟩ := performs_compute run made
  obtain ⟨otherEvents, performsToo⟩ := performs_compute other madeToo
  obtain ⟨last, performsAlike, alikeAfter⟩ := performs.alike alike
  obtain ⟨sameResult, sameState, -⟩ := performsAlike.unique performsToo
  rw [sameState]
  exact ⟨unit_result_inj sameResult, alikeAfter⟩

/-- A plain pass with no node in progress computes like a fresh one. -/
theorem compute_of_plain {run : Run} (plain : run.pass.memoized = false)
    (idle : run.pass.inProgress = []) {id : NodeId} (made : id < run.graph.nodes.size) :
    (run.compute id).1 = (Run.compute ⟨run.graph, .plain⟩ id).1 ∧
      (run.compute id).2.graph = (Run.compute ⟨run.graph, .plain⟩ id).2.graph := by
  have alike : run.Alike ⟨run.graph, .plain⟩ := by
    refine ⟨rfl, idle.symm, plain.symm, fun node => ?_⟩
    simp [Pass.canReuse, plain, Pass.plain]
  obtain ⟨result, after⟩ := alike.compute made
  exact ⟨result.symm, after.graph.symm⟩

end Run

end DemandFlow
