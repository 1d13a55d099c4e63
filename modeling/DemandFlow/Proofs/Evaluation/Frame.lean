import DemandFlow.Evaluation.Demand
import DemandFlow.Proofs.Graph.Coherence

/-!
Contract: what no evaluation changes.

Owns: that an evaluation leaves the handles, the shapes and the living links of a graph as they
are, whatever its nodes do, whether it succeeds or fails, and whatever the pass remembers.

Main statements: `sameLinks_compute`, `sameLinks_pull`.

Does not own: which values an evaluation leaves behind (`Proofs.Evaluation.Outcome`).
-/

namespace DemandFlow

/-- A step of an evaluation that changes nothing but values, and lists that it tidies. -/
def KeepsLinks {Result : Type} (step : Run → Option (Outcome Result)) : Prop :=
  ∀ run result after, step run = some (result, after) → run.graph.SameLinks after.graph

theorem mapGraph_publishAll_nil (run : Run) (outputs : List PortId) :
    run.mapGraph (Demand.publishAll outputs []) = run := by
  cases outputs with
  | nil => rfl
  | cons output outputs => rfl

theorem sameLinks_publishAll (outputs : List PortId) (values : List Value) (graph : Graph) :
    graph.SameLinks (Demand.publishAll outputs values graph) := by
  induction outputs generalizing values graph with
  | nil => exact .refl graph
  | cons output outputs inductionHypothesis =>
      cases values with
      | nil => exact .refl graph
      | cons value values =>
          exact (Graph.sameLinks_publish graph output value).trans (inductionHypothesis values _)

section Steps

variable {demand : NodeId → Run → Option (Outcome Unit)}

theorem keepsLinks_pull (keeps : ∀ id, KeepsLinks (demand id)) (input : PortId) :
    KeepsLinks (Demand.pull demand input) := by
  intro run result after pulled
  unfold Demand.pull at pulled
  split at pulled
  · rename_i node _
    split at pulled
    · cases pulled
    · rename_i failed
      cases pulled
      exact keeps node run _ _ failed
    · rename_i computed
      cases pulled
      exact keeps node run _ _ computed
  · dsimp only at pulled
    split at pulled
    · cases pulled
      exact .refl _
    · cases pulled
      exact .refl _

theorem keepsLinks_pullAll (keeps : ∀ id, KeepsLinks (demand id)) (inputs : List PortId) :
    KeepsLinks (Demand.pullAll demand inputs) := by
  induction inputs with
  | nil =>
      intro run result after pulled
      cases pulled
      exact .refl _
  | cons input rest inductionHypothesis =>
      intro run result after pulled
      unfold Demand.pullAll at pulled
      split at pulled
      · cases pulled
      · rename_i failed
        cases pulled
        exact keepsLinks_pull keeps input run _ _ failed
      · rename_i between first
        have earlier := keepsLinks_pull keeps input run _ _ first
        split at pulled
        · cases pulled
        · rename_i failed
          cases pulled
          exact earlier.trans (inductionHypothesis between _ _ failed)
        · rename_i pulledRest
          cases pulled
          exact earlier.trans (inductionHypothesis between _ _ pulledRest)

theorem keepsLinks_respond (keeps : ∀ id, KeepsLinks (demand id)) (id : NodeId)
    (checksRequired : Bool)
    (response : List Value → List Value → List Value × Option OperationError) :
    KeepsLinks (Demand.respond demand id checksRequired response) := by
  intro run result after responded
  unfold Demand.respond at responded
  dsimp only at responded
  split at responded
  · cases responded
    exact .refl _
  · split at responded
    · cases responded
    · rename_i failed
      cases responded
      exact keepsLinks_pullAll keeps _ run _ _ failed
    · rename_i pulled
      have earlier := keepsLinks_pullAll keeps _ run _ _ pulled
      split at responded
      · cases responded
        exact earlier.trans (sameLinks_publishAll _ _ _)
      · cases responded
        exact earlier.trans (sameLinks_publishAll _ _ _)

theorem keepsLinks_evaluate (keeps : ∀ id, KeepsLinks (demand id)) (id : NodeId) :
    KeepsLinks (Demand.evaluate demand id) := by
  intro run result after evaluated
  unfold Demand.evaluate at evaluated
  split at evaluated
  · cases evaluated
    exact sameLinks_publishAll _ _ _
  · exact keepsLinks_respond keeps id _ _ run _ _ evaluated
  · exact keepsLinks_respond keeps id _ _ run _ _ evaluated

end Steps

theorem keepsLinks_demandWithin (depth : Nat) (id : NodeId) :
    KeepsLinks (demandWithin depth id) := by
  induction depth generalizing id with
  | zero =>
      intro run result after demanded
      cases demanded
  | succ depth inductionHypothesis =>
      intro run result after demanded
      unfold demandWithin at demanded
      split at demanded
      · cases demanded
        exact .refl _
      · split at demanded
        · cases demanded
          exact .refl _
        · split at demanded
          · cases demanded
          · rename_i computed
            have keeps := keepsLinks_evaluate inductionHypothesis id _ _ _ computed
            cases demanded
            exact keeps
          · rename_i failed
            have keeps := keepsLinks_evaluate inductionHypothesis id _ _ _ failed
            cases demanded
            exact keeps

/-- Computing a node changes no handle, no shape and no living link. -/
theorem sameLinks_compute (run : Run) (id : NodeId) :
    run.graph.SameLinks (run.compute id).2.graph := by
  unfold Run.compute
  cases demanded : demandWithin run.depth id run with
  | none => exact .refl _
  | some outcome => exact keepsLinks_demandWithin _ _ _ _ _ demanded

/-- Pulling an input changes no handle, no shape and no living link. -/
theorem sameLinks_pull (run : Run) (input : PortId) :
    run.graph.SameLinks (run.pull input).2.graph := by
  unfold Run.pull
  cases pulled : Demand.pull (demandWithin run.depth) input run with
  | none => exact .refl _
  | some outcome => exact keepsLinks_pull (keepsLinks_demandWithin _) _ _ _ _ pulled

end DemandFlow
