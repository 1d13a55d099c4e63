import DemandFlow.Proofs.Evaluation.Effect
import DemandFlow.Proofs.Evaluation.Recall
import DemandFlow.Proofs.Evaluation.Sequence

/-!
Contract: the life of one pass.

Owns: sessions, in which demands and pulls share a pass while the graph may be edited between them,
and what a caller may rely on about the pass.

Main statement: in every session over library nodes no node is in progress between demands and the
pass counts every evaluation, whatever failed before; a demand does what it would do with a fresh
pass if the pass is plain or nothing is edited; and a pass that memoizes never completes a node
twice (`Reachable.session_lawful`).

Does not own: which values are read in a session (`Proofs.History.Freshness`).
-/

namespace DemandFlow

/-- The states that a session leads to from a state, and the events on the way. Between demands and
pulls, a program may do what its handles allow and what is permitted. -/
inductive Session (admitted : Blueprint → Prop) (permits : Run → Action → Prop) (start : Run) :
    Run → List Event → Prop where
  | begin : Session admitted permits start start []
  | edit {run : Run} {events : List Event} {action : Action}
      (session : Session admitted permits start run events)
      (allowed : action.Allowed admitted run.graph) (permitted : permits run action) :
      Session admitted permits start (run.mapGraph fun graph => action.apply graph) events
  | demand {run : Run} {events more : List Event} {id : NodeId}
      (session : Session admitted permits start run events)
      (alive : run.graph.nodeAlive id = true)
      (performs : Performs (.demand id) run ((run.compute id).1.map fun _ => [])
        (run.compute id).2 more) :
      Session admitted permits start (run.compute id).2 (events ++ more)
  | pull {run : Run} {events more : List Event} {input : PortId}
      (session : Session admitted permits start run events)
      (present : ∃ kind, run.graph.PresentInput input kind)
      (performs : Performs (.pull [input]) run ((run.pull input).1.map ([·]))
        (run.pull input).2 more) :
      Session admitted permits start (run.pull input).2 (events ++ more)

/-- Pulling an input leaves what computing the node leaves that feeds it. -/
theorem Run.pull_state (run : Run) (input : PortId) :
    (run.pull input).2 =
      match run.graph.sourceNode? input with
      | some node => (run.compute node).2
      | none => run := by
  unfold Run.pull Demand.pull Run.compute
  cases run.graph.sourceNode? input with
  | none => cases required : (run.graph.port input).required <;> simp [required]
  | some node =>
      dsimp only
      cases demandWithin run.depth node run with
      | none => rfl
      | some outcome =>
          obtain ⟨result, after⟩ := outcome
          cases result <;> rfl

namespace Session

variable {admitted : Blueprint → Prop} {permits : Run → Action → Prop} {start run : Run}
  {events : List Event}

theorem reachable (session : Session admitted permits start run events)
    (reachable : Reachable admitted start.graph) : Reachable admitted run.graph := by
  induction session with
  | begin => exact reachable
  | edit _ allowed _ inductionHypothesis => exact inductionHypothesis.step allowed
  | @demand run _ _ id _ alive _ inductionHypothesis =>
      exact inductionHypothesis.step (show (Action.demand run.pass id).Allowed admitted _ from alive)
  | @pull run _ _ input _ present _ inductionHypothesis =>
      exact inductionHypothesis.step
        (show (Action.pull run.pass input).Allowed admitted _ from present)

/-- Edits leave the memory of the pass alone, so its tally goes on across them. -/
theorem tally (session : Session admitted permits start run events) :
    Tally start.pass run.pass events := by
  induction session with
  | begin => exact .of_quiet rfl start.pass
  | edit _ _ _ inductionHypothesis => exact inductionHypothesis
  | demand _ _ performs inductionHypothesis => exact inductionHypothesis.trans performs.account.tally
  | pull _ _ performs inductionHypothesis => exact inductionHypothesis.trans performs.account.tally

/-- In a session without edits, the ports hold what the nodes done have published. -/
theorem progress (session : Session Blueprint.IsLibrary permits start run events)
    (sound : start.graph.Sound Blueprint.IsLibrary) (fresh : start.graph.Progress start)
    (idle : start.pass.inProgress = []) (unedited : ∀ run action, ¬ permits run action) :
    start.graph.Progress run := by
  -- A demand of a living node makes some more nodes done, and changes no link.
  have step {run : Run} {events : List Event} {id : NodeId}
      (session : Session Blueprint.IsLibrary permits start run events)
      (progress : start.graph.Progress run) (alive : run.graph.nodeAlive id = true) :
      start.graph.Progress (run.compute id).2 := by
    rw [progress.tracks.links.nodeAlive] at alive
    obtain ⟨after, computed, advances⟩ :=
      sound.compute_of_progress progress (session.tally.inProgress.trans idle) alive
    rw [computed]
    exact advances.progress
  induction session with
  | begin => exact fresh
  | edit _ _ permitted => exact absurd permitted (unedited _ _)
  | demand session alive _ inductionHypothesis => exact step session inductionHypothesis alive
  | @pull run _ _ input session _ _ inductionHypothesis =>
      rw [run.pull_state input]
      split
      · rename_i fed
        exact step session inductionHypothesis (Graph.nodeAlive_of_sourceNode? fed)
      · exact inductionHypothesis

end Session

namespace Graph

/-- In a sound graph of library nodes, fresh passes of either sort compute a node alike, and so
does a pass that has remembered what is in place. -/
theorem Sound.compute_of_tracks {graph : Graph} (sound : graph.Sound Blueprint.IsLibrary)
    {run : Run} (progress : graph.Progress run) (idle : run.pass.inProgress = []) {id : NodeId}
    (alive : graph.nodeAlive id = true) (memoized : Bool) :
    (run.compute id).1 = (Run.compute ⟨run.graph, .fresh memoized⟩ id).1 ∧
      (run.compute id).2.graph = (Run.compute ⟨run.graph, .fresh memoized⟩ id).2.graph := by
  obtain ⟨after, computed, advances⟩ := sound.compute_of_progress progress idle alive
  obtain ⟨result, more, completed, tracks⟩ := progress.tracks.compute sound alive memoized
  rw [Graph.result] at result
  rw [result, computed]
  refine ⟨rfl, advances.progress.tracks.unique tracks fun node => ?_⟩
  rw [advances.completed, List.mem_append, completed, or_comm]

end Graph

/-- What a caller may rely on about a pass, whatever it has been used for. -/
structure Run.Lawful (memoized edited : Bool) (run : Run) (events : List Event) : Prop where
  /-- No node is in progress, so that no demand reports a cycle for what failed before. -/
  idle : run.pass.inProgress = []
  visits : run.pass.visits = (evaluations events).length
  /-- A pass that memoizes completes every node at most once. -/
  once : memoized = true → (successes events).Nodup
  /-- What a demand comes to does not depend on the demands before, unless the pass has memoized
  something and the graph has been edited. -/
  independent : memoized = false ∨ edited = false → ∀ id, run.graph.nodeAlive id = true →
    ∀ sort, (run.compute id).1 = (Run.compute ⟨run.graph, .fresh sort⟩ id).1 ∧
      (run.compute id).2.graph = (Run.compute ⟨run.graph, .fresh sort⟩ id).2.graph

/-- In every session over a reachable graph of library nodes that begins with a fresh pass, also
after demands that failed, the pass keeps to this. -/
theorem Reachable.session_lawful {graph : Graph} (reachable : Reachable Blueprint.IsLibrary graph)
    {memoized edited : Bool} {run : Run} {events : List Event}
    (session : Session Blueprint.IsLibrary (fun _ _ => edited = true) ⟨graph, .fresh memoized⟩ run
      events) :
    run.Lawful memoized edited events := by
  have tally := session.tally
  have idle : run.pass.inProgress = [] := tally.inProgress.trans (Pass.inProgress_fresh memoized)
  have sort : (Pass.fresh memoized).memoized = memoized := by cases memoized <;> rfl
  have visits : (Pass.fresh memoized).visits = 0 := by cases memoized <;> rfl
  refine ⟨idle, ?_, fun memoizes => (tally.once (sort.trans memoizes)).1, ?_⟩
  · rw [tally.visits, visits, Nat.zero_add]
  · intro independent id alive other
    have sound := (session.reachable reachable).sound
    rcases independent with rfl | rfl
    · have made := (Graph.nodeAlive_iff.mp alive).1
      obtain ⟨result, after⟩ := run.compute_of_plain tally.memoized idle made
      rw [result, after]
      exact sound.compute_of_tracks (.fresh run.graph false) rfl alive other
    · have progress := session.progress reachable.sound (.fresh graph memoized)
        (Pass.inProgress_fresh memoized) fun _ _ => by simp
      rw [progress.tracks.links.nodeAlive] at alive
      exact reachable.sound.compute_of_tracks progress idle alive other

/-- A demand that has failed stands in the way of none that follows. -/
theorem Reachable.session_lawful_stalled :
    let failed := (Run.compute ⟨Graph.stalled, .memoizing⟩ 2).2
    (Run.compute ⟨Graph.stalled, .memoizing⟩ 2).1 = .error (.notReady 1 "In") ∧
      failed.pass.inProgress = [] ∧
      (failed.compute 2).1 = (Run.compute ⟨failed.graph, .plain⟩ 2).1 ∧
      ∃ result events, Performs (.demand 2) ⟨Graph.stalled, .memoizing⟩ result failed events ∧
        (evaluations events).length = 3 ∧ (successes events).Nodup := by
  intro failed
  have alive : Graph.stalled.nodeAlive 2 = true := by decide
  obtain ⟨events, performs⟩ := performs_compute ⟨Graph.stalled, .memoizing⟩
    (Graph.nodeAlive_iff.mp alive).1
  have lawful : failed.Lawful true false events :=
    Reachable.session_lawful Reachable.stalled (Session.begin.demand alive performs)
  have visits : failed.pass.visits = 3 := rfl
  have aliveStill : failed.graph.nodeAlive 2 = true := by
    rwa [(sameLinks_compute ⟨Graph.stalled, .memoizing⟩ 2).nodeAlive]
  exact ⟨rfl, lawful.idle, (lawful.independent (Or.inr rfl) 2 aliveStill false).1, _, events,
    performs, lawful.visits.symm.trans visits, lawful.once rfl⟩

end DemandFlow
