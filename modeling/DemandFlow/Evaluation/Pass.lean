import DemandFlow.Graph.Basic

/-!
Contract: what an evaluation pass remembers.

Owns: the nodes in progress, the nodes completed, the order of evaluations and their counts.

Does not own: the evaluation (`Evaluation.Demand`).
-/

namespace DemandFlow

structure Pass where
  /-- Whether a node completed in this pass is not evaluated again. -/
  memoized : Bool
  /-- The nodes whose evaluation has begun and not ended, the innermost first. -/
  inProgress : List NodeId
  /-- The nodes whose evaluation succeeded. -/
  completed : List NodeId
  /-- Every evaluation begun so far, the latest first. -/
  trace : List NodeId
deriving DecidableEq, Repr, Inhabited

namespace Pass

def plain : Pass := ⟨false, [], [], []⟩

def memoizing : Pass := ⟨true, [], [], []⟩

/-- A fresh pass of either sort. -/
def fresh (memoized : Bool) : Pass := if memoized then memoizing else plain

def visits (pass : Pass) : Nat := pass.trace.length

def visitsOf (pass : Pass) (node : NodeId) : Nat := pass.trace.count node

/-- Whether the pass can do without evaluating a node. -/
def canReuse (pass : Pass) (node : NodeId) : Bool :=
  pass.memoized && pass.completed.contains node

def start (pass : Pass) (node : NodeId) : Pass :=
  { pass with inProgress := node :: pass.inProgress, trace := node :: pass.trace }

def abandon (pass : Pass) (node : NodeId) : Pass :=
  { pass with inProgress := pass.inProgress.erase node }

def finish (pass : Pass) (node : NodeId) : Pass :=
  { pass with
    inProgress := pass.inProgress.erase node
    completed := if pass.completed.contains node then pass.completed else node :: pass.completed }

@[simp]
theorem inProgress_fresh (memoized : Bool) : (fresh memoized).inProgress = [] := by
  cases memoized <;> rfl

@[simp]
theorem completed_fresh (memoized : Bool) : (fresh memoized).completed = [] := by
  cases memoized <;> rfl

@[simp]
theorem inProgress_start (pass : Pass) (node : NodeId) :
    (pass.start node).inProgress = node :: pass.inProgress := rfl

@[simp]
theorem visits_start (pass : Pass) (node : NodeId) :
    (pass.start node).visits = pass.visits + 1 := rfl

/-- The count of a node goes up when its own evaluation begins. -/
theorem visitsOf_start (pass : Pass) (node other : NodeId) :
    (pass.start node).visitsOf other = pass.visitsOf other + [node].count other := by
  rw [visitsOf, start, List.count_cons, List.count_singleton]
  rfl

@[simp]
theorem visits_finish (pass : Pass) (node : NodeId) :
    (pass.finish node).visits = pass.visits := rfl

@[simp]
theorem visits_abandon (pass : Pass) (node : NodeId) :
    (pass.abandon node).visits = pass.visits := rfl

@[simp]
theorem inProgress_abandon_start (pass : Pass) (node : NodeId) :
    ((pass.start node).abandon node).inProgress = pass.inProgress := by
  simp [abandon]

@[simp]
theorem inProgress_finish_start (pass : Pass) (node : NodeId) :
    ((pass.start node).finish node).inProgress = pass.inProgress := by
  simp [finish]

theorem mem_completed_finish (pass : Pass) {node other : NodeId} :
    other ∈ (pass.finish node).completed ↔ other = node ∨ other ∈ pass.completed := by
  unfold finish
  by_cases known : node ∈ pass.completed
  · simp only [List.contains_eq_mem, known, decide_true, ↓reduceIte]
    constructor
    · exact Or.inr
    · rintro (rfl | member)
      · exact known
      · exact member
  · simp [known]

end Pass

end DemandFlow
