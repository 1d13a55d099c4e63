import DemandFlow.Evaluation.Demand

/-!
Contract: how deep evaluations nest.

Owns: the demand of a node with a bound on the evaluations that are under way at once, and the
agreement of all bounds that are wide enough.

Main statements: a wider bound changes no outcome (`approximates_demandNested`), and an outcome
under a bound that the graph's size allows is the outcome of a computation
(`Run.compute_of_demandNested`).

Does not own: which bound is wide enough (`Proofs.Evaluation.Outcome`).

The depth of `demandWithin` counts demands, also the last one that only finds its node in progress.
Here a demand counts only when it begins an evaluation.
-/

namespace DemandFlow

namespace Demand

/-- Ends the evaluation of a node with what it came to. -/
def conclude (id : NodeId) : Option (Outcome Unit) → Option (Outcome Unit)
  | none => none
  | some (.ok (), after) => some (.ok (), after.mapPass (·.finish id))
  | some (.error failure, after) => some (.error failure, after.mapPass (·.abandon id))

/-- Evaluates a node, unless it is in progress or done and remembered. -/
def attempt (evaluation : NodeId → Run → Option (Outcome Unit)) (id : NodeId) (run : Run) :
    Option (Outcome Unit) :=
  if run.pass.inProgress.contains id then some (.error (.cycle id), run)
  else if run.pass.canReuse id then some (.ok (), run)
  else conclude id (evaluation id (run.mapPass (·.start id)))

end Demand

/-- Computes a node as part of a pass, with at most so many evaluations under way at once; `none`
if one more would have to begin. -/
def demandNested : (evaluations : Nat) → NodeId → Run → Option (Outcome Unit)
  | 0 => Demand.attempt fun _ _ => none
  | evaluations + 1 => Demand.attempt (Demand.evaluate (demandNested evaluations))

namespace Demand

/-! ### Attempts -/

section Attempts

variable {evaluation : NodeId → Run → Option (Outcome Unit)} {id : NodeId} {run : Run}

theorem attempt_of_inProgress (begun : id ∈ run.pass.inProgress) :
    attempt evaluation id run = some (.error (.cycle id), run) :=
  if_pos (by simpa using begun)

theorem attempt_of_canReuse (notBegun : id ∉ run.pass.inProgress)
    (reuse : run.pass.canReuse id = true) :
    attempt evaluation id run = some (.ok (), run) := by
  rw [attempt, if_neg (by simpa using notBegun), if_pos reuse]

theorem attempt_of_fresh (notBegun : id ∉ run.pass.inProgress)
    (fresh : ¬ run.pass.canReuse id = true) :
    attempt evaluation id run = conclude id (evaluation id (run.mapPass (·.start id))) := by
  rw [attempt, if_neg (by simpa using notBegun), if_neg fresh]

end Attempts

/-! ### Approximation -/

/-- Whatever the one demand ends with, the other ends with too. -/
def Approximates (demand further : NodeId → Run → Option (Outcome Unit)) : Prop :=
  ∀ id run outcome, demand id run = some outcome → further id run = some outcome

namespace Approximates

variable {demand further last : NodeId → Run → Option (Outcome Unit)}

theorem trans (first : Approximates demand further) (second : Approximates further last) :
    Approximates demand last :=
  fun id run outcome ended => second id run outcome (first id run outcome ended)

theorem pull (approximates : Approximates demand further) {input : PortId} {run : Run}
    {outcome : Outcome Value} (pulled : Demand.pull demand input run = some outcome) :
    Demand.pull further input run = some outcome := by
  unfold Demand.pull at pulled ⊢
  cases found : run.graph.sourceNode? input with
  | none =>
      rw [found] at pulled
      exact pulled
  | some node =>
      simp only [found] at pulled ⊢
      cases demanded : demand node run with
      | none =>
          rw [demanded] at pulled
          cases pulled
      | some result =>
          rw [demanded] at pulled
          rw [approximates node run result demanded]
          exact pulled

theorem pullAll (approximates : Approximates demand further) {inputs : List PortId} {run : Run}
    {outcome : Outcome (List Value)} (pulled : Demand.pullAll demand inputs run = some outcome) :
    Demand.pullAll further inputs run = some outcome := by
  induction inputs generalizing run outcome with
  | nil => exact pulled
  | cons input rest inductionHypothesis =>
      unfold Demand.pullAll at pulled ⊢
      cases first : Demand.pull demand input run with
      | none =>
          rw [first] at pulled
          cases pulled
      | some result =>
          rw [approximates.pull first]
          obtain ⟨read, between⟩ := result
          cases read with
          | error failure =>
              rw [first] at pulled
              exact pulled
          | ok value =>
              simp only [first] at pulled ⊢
              cases others : Demand.pullAll demand rest between with
              | none =>
                  rw [others] at pulled
                  cases pulled
              | some result =>
                  rw [others] at pulled
                  rw [inductionHypothesis others]
                  exact pulled

theorem respond (approximates : Approximates demand further) {id : NodeId} {checksRequired : Bool}
    {response : List Value → List Value → List Value × Option OperationError} {run : Run}
    {outcome : Outcome Unit}
    (responded : Demand.respond demand id checksRequired response run = some outcome) :
    Demand.respond further id checksRequired response run = some outcome := by
  unfold Demand.respond at responded ⊢
  dsimp only at responded ⊢
  split at responded
  · exact responded
  · cases pulled : Demand.pullAll demand (run.graph.node id).inputs run with
    | none =>
        rw [pulled] at responded
        cases responded
    | some result =>
        rw [pulled] at responded
        rw [approximates.pullAll pulled]
        exact responded

/-- An evaluation depends on what its demands end with, so it inherits the approximation. -/
theorem evaluate (approximates : Approximates demand further) :
    Approximates (Demand.evaluate demand) (Demand.evaluate further) := by
  intro id run outcome evaluated
  unfold Demand.evaluate at evaluated ⊢
  cases behaviour : (run.graph.node id).behaviour with
  | constant value =>
      rw [behaviour] at evaluated
      exact evaluated
  | formula function =>
      rw [behaviour] at evaluated
      exact approximates.respond evaluated
  | custom rule =>
      rw [behaviour] at evaluated
      exact approximates.respond evaluated

theorem attempt (approximates : Approximates demand further) :
    Approximates (Demand.attempt demand) (Demand.attempt further) := by
  intro id run outcome attempted
  by_cases begun : id ∈ run.pass.inProgress
  · rw [attempt_of_inProgress begun] at attempted ⊢
    exact attempted
  by_cases reuse : run.pass.canReuse id = true
  · rw [attempt_of_canReuse begun reuse] at attempted ⊢
    exact attempted
  rw [attempt_of_fresh begun reuse] at attempted ⊢
  cases evaluated : demand id (run.mapPass (·.start id)) with
  | none =>
      rw [evaluated] at attempted
      cases attempted
  | some result =>
      rw [evaluated] at attempted
      rw [approximates id _ result evaluated]
      exact attempted

/-- A demand that never ends approximates every other. -/
theorem never : Approximates (fun _ _ => none) demand := by
  intro id run outcome ended
  cases ended

end Approximates

end Demand

open Demand

/-! ### Bounds -/

/-- A wider bound changes no outcome. -/
theorem approximates_demandNested {evaluations more : Nat} (wider : evaluations ≤ more) :
    Approximates (demandNested evaluations) (demandNested more) := by
  induction evaluations generalizing more with
  | zero =>
      cases more with
      | zero => exact fun _ _ _ ended => ended
      | succ more => exact Approximates.never.attempt
  | succ evaluations inductionHypothesis =>
      cases more with
      | zero => exact absurd wider (Nat.not_succ_le_zero _)
      | succ more => exact (inductionHypothesis (Nat.le_of_succ_le_succ wider)).evaluate.attempt

/-- One demand more than there are evaluations may find its node in progress or done. -/
theorem approximates_demandWithin (evaluations : Nat) :
    Approximates (demandNested evaluations) (demandWithin (evaluations + 1)) := by
  induction evaluations with
  | zero => exact Approximates.never.attempt
  | succ evaluations inductionHypothesis => exact inductionHypothesis.evaluate.attempt

/-- A computation that ends under a bound ends in the same way without one. -/
theorem Run.compute_of_demandNested {evaluations : Nat} {run : Run} {id : NodeId}
    {outcome : Outcome Unit} (bound : evaluations ≤ run.graph.nodes.size)
    (ended : demandNested evaluations id run = some outcome) : run.compute id = outcome := by
  have approximates : Approximates (demandNested evaluations) (demandWithin run.depth) :=
    (approximates_demandNested bound).trans (approximates_demandWithin _)
  rw [Run.compute, approximates id run outcome ended]
  rfl

end DemandFlow
