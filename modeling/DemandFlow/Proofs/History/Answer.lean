import DemandFlow.Proofs.History.LinkMap

/-!
Contract: how a reachable graph answers requests to link.

Owns: what a caller may rely on, whichever way of making a request is used: when a request is
granted, which cause a refusal has, and what becomes of the graph.

Main statement: every allowed request in a reachable graph is answered so (`Reachable.answered`).

Does not own: the checks themselves (`Proofs.History.Request`) and the links that a granted
request leaves (`Proofs.History.LinkMap`).
-/

namespace DemandFlow

/-- What a caller may rely on about the answer to a request. -/
structure LinkRequest.Answered (graph : Graph) (request : LinkRequest) : Prop where
  /-- It is granted exactly if the ports that it means are there, are an input and an output of one
  kind, and the output belongs to a living node. The input then has the output as its source. -/
  granted : ∀ after, request.run graph = .ok () after ↔
    ∃ input output, request.endpoints graph = some (input, output) ∧
      graph.Joinable input output ∧ after = graph.setSource input output
  /-- Requests that mean the same two ports are granted alike, and make the same graph. -/
  alike : ∀ other : LinkRequest, other.Allowed graph →
    other.endpoints graph = request.endpoints graph →
    ∀ after, other.run graph = .ok () after ↔ request.run graph = .ok () after
  /-- A refusal has the cause of the first check that fails. -/
  refused : ∀ cause, (∃ after, request.run graph = .error cause after) ↔
    LinkCheck.FirstFailure (request.checks graph) cause
  /-- The graph that a refusal leaves is the one from before: it has the same links, the one that
  the input had among them, the same values and the same living nodes. -/
  unchanged : ∀ cause after, request.run graph = .error cause after → after = graph

/-- In a reachable graph, requests to link are answered alike in every way to make them. -/
theorem Reachable.answered {admitted : Blueprint → Prop} {graph : Graph}
    (reachable : Reachable admitted graph) {request : LinkRequest}
    (allowed : request.Allowed graph) : request.Answered graph := by
  have shaped := reachable.sound.shaped
  constructor
  · intro after
    exact LinkRequest.run_eq_ok_iff shaped allowed
  · intro other otherAllowed sameEnds after
    rw [LinkRequest.run_eq_ok_iff shaped otherAllowed, LinkRequest.run_eq_ok_iff shaped allowed,
      sameEnds]
  · intro cause
    constructor
    · rintro ⟨after, refusal⟩
      exact ((LinkRequest.run_eq_error_iff shaped allowed).mp refusal).1
    · intro first
      exact ⟨graph, (LinkRequest.run_eq_error_iff shaped allowed).mpr ⟨first, rfl⟩⟩
  · intro cause after refusal
    exact ((LinkRequest.run_eq_error_iff shaped allowed).mp refusal).2

/-- The negation beside an output that is held though its node is gone. -/
def Graph.withOrphan : Graph :=
  [.create (.constant ⟨.bool, false⟩) "C", .save 3, .release 2].foldl Action.apply Graph.negation

theorem Reachable.withOrphan : Reachable Blueprint.IsLibrary Graph.withOrphan := by
  have created := Reachable.step History.negation.reachable
    (show (Action.create (.constant ⟨.bool, false⟩) "C").Allowed Blueprint.IsLibrary _ from
      .constant _)
  have saved := Reachable.step created
    (show (Action.save 3).Allowed Blueprint.IsLibrary _ from Or.inl (by decide))
  exact Reachable.step saved
    (show (Action.release 2).Allowed Blueprint.IsLibrary _ from (by decide : 0 < _))

theorem Reachable.answered_withOrphan :
    (LinkRequest.intoNode 3 1 "In").run Graph.withOrphan =
        .error (.detachedPort "Value") Graph.withOrphan ∧
      (Graph.withOrphan.port 1).source = some 0 := by
  have answered := Reachable.answered Reachable.withOrphan
    (show (LinkRequest.intoNode 3 1 "In").Allowed Graph.withOrphan from
      ⟨⟨.bool, Or.inl (by decide), rfl, rfl⟩, by decide⟩)
  have orphan : ¬ Graph.withOrphan.OfLivingNode 3 := by
    intro living
    have feeds := (Reachable.withOrphan.sound.shaped.canFeed_iff rfl).mpr living
    exact absurd feeds (by decide)
  obtain ⟨after, refusal⟩ := (answered.refused (.detachedPort "Value")).mpr
    (.later ⟨1, rfl⟩ (.later rfl (.later rfl (.here orphan))))
  obtain rfl := answered.unchanged _ _ refusal
  exact ⟨refusal, rfl⟩

end DemandFlow
