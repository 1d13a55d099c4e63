import DemandFlow.Proofs.Evaluation.Effect
import DemandFlow.Proofs.Evaluation.Ring
import DemandFlow.Proofs.Graph.Verdict
import DemandFlow.Proofs.History.Assembly

/-!
Contract: what the structural check of nodes and their computation tell about each other.

Owns: the findings of the check in a library node, and how they bear on the computation of the nodes
that need it.

Main statement: a computation that succeeds leaves nothing for the check to find upstream, and where
the check finds at most freed inputs and no ring is closed, a computation can fail in functions only
(`Assembled.compute_validate`).

Does not own: the check of other nodes (`Proofs.Graph.Verdict`).

A port that is made apart from a node may bear the name of a node and be linked to its output. The
check reports that link, but no computation looks at it. Hence the graphs are those without such
ports.
-/

namespace DemandFlow

/-! ### The check of a library node -/

namespace Graph

/-- An output of the node lists an input that has been freed. -/
def Dangles (graph : Graph) (id : NodeId) : Prop :=
  ∃ output ∈ (graph.node id).outputs, ∃ input ∈ (graph.port output).sinks,
    graph.portAlive input = false

/-- What the check of a library node may find: it always has ports, and their names differ. -/
def libraryFindings (graph : Graph) (id : NodeId) : List Finding :=
  [⟨graph.unlinked? id ≠ none, .requiredConnectionsNotFulfilled⟩,
    ⟨graph.Needs id id, .recursiveConnection⟩,
    ⟨graph.Dangles id, .nullConnectionPoint⟩,
    ⟨True, .success⟩]

section LibraryNodes

variable {graph : Graph} {id : NodeId}

theorem LibraryNode.portsOf_ne_nil (library : graph.LibraryNode id) : graph.portsOf id ≠ [] := by
  obtain ⟨output, outputs, -⟩ := library.output
  simp [portsOf, outputs]

theorem Shaped.names_nodup (shaped : graph.Shaped Blueprint.IsLibrary)
    (made : id < graph.nodes.size) :
    ((graph.portsOf id).map fun port => (graph.port port).name).Nodup := by
  obtain ⟨plan, first, library, madeFrom⟩ := shaped.made id made
  obtain ⟨inputs, output, regular⟩ := library.regular
  exact madeFrom.names_nodup_iff.mpr regular.names

/-- The check misses a link where evaluation does. -/
theorem Sound.unlinked?_ne_none_iff {admitted : Blueprint → Prop} (sound : graph.Sound admitted)
    (library : graph.LibraryNode id) :
    graph.unlinked? id ≠ none ↔
      ∃ input ∈ (graph.node id).ports.ports, (graph.port input).direction = .input ∧
        (graph.port input).required = true ∧ (graph.port input).source = none := by
  rw [← any_isMissing_iff, ← sound.firstMissing?_eq_unlinked? library, firstMissing?,
    ← Option.isSome_iff_ne_none, List.find?_isSome, List.any_eq_true]

end LibraryNodes

end Graph

namespace Assembled

variable {graph : Graph} {id : NodeId}

/-- A link within a node is one by which the node needs itself. -/
theorem needs_self_iff (assembled : Assembled Blueprint.IsLibrary graph)
    (alive : graph.nodeAlive id = true) :
    graph.Needs id id ↔
      ∃ input output, graph.portAlive input = true ∧ (graph.port input).source = some output ∧
        (graph.port input).owner = id ∧ (graph.port output).owner = id := by
  have sound := assembled.sound
  constructor
  · intro needs
    obtain ⟨input, isInput, fed⟩ := List.mem_filterMap.mp needs
    obtain ⟨output, linked, owner⟩ := Option.map_eq_some_iff.mp fed
    exact ⟨input, output, sound.portAlive_of_isInput alive isInput, linked,
      (sound.shaped.input isInput).2.1, owner⟩
  · rintro ⟨input, output, inputAlive, linked, inputOwner, outputOwner⟩
    have incoming := (sound.coherent.joins input output linked).1
    have listed := (sound.shaped.listed input
      (assembled.attached (Graph.port_lt_of_portAlive inputAlive))).2
    rw [incoming, inputOwner] at listed
    refine List.mem_filterMap.mpr ⟨input, listed, ?_⟩
    rw [Graph.feeder?, linked, Option.map_some, outputOwner]

/-- The check of a living library node yields the first of its findings that applies. -/
theorem first_libraryFindings (assembled : Assembled Blueprint.IsLibrary graph)
    (alive : graph.nodeAlive id = true) :
    Finding.First (graph.libraryFindings id) (graph.validate id) := by
  have sound := assembled.sound
  have made := (Graph.nodeAlive_iff.mp alive).1
  have library := sound.shaped.libraryNode made
  let dangling : Set (PortId × PortId) :=
    {link | link.1 ∈ (graph.port link.2).sinks ∧ graph.portAlive link.1 = false}
  have dangles : graph.Dangles id ↔ ∃ link ∈ dangling, link.2 ∈ (graph.node id).outputs := by
    constructor
    · rintro ⟨output, isOutput, input, listed, freed⟩
      exact ⟨(input, output), ⟨listed, freed⟩, isOutput⟩
    · rintro ⟨⟨input, output⟩, ⟨listed, freed⟩, isOutput⟩
      exact ⟨output, isOutput, input, listed, freed⟩
  have first : Finding.First (graph.findings dangling id) (graph.validate id) :=
    sound.coherent.first_findings sound.shaped alive fun _ _ => Iff.rfl
  rw [Graph.libraryFindings, sound.unlinked?_ne_none_iff library, assembled.needs_self_iff alive,
    dangles]
  exact (first.rest library.portsOf_ne_nil).rest (not_not_intro (sound.shaped.names_nodup made))

theorem validate_eq_success (assembled : Assembled Blueprint.IsLibrary graph)
    (alive : graph.nodeAlive id = true) (complete : graph.unlinked? id = none)
    (apart : ¬ graph.Needs id id) (tidy : ¬ graph.Dangles id) : graph.validate id = .success := by
  have first := (((assembled.first_libraryFindings alive).rest (not_not_intro complete)).rest
    apart).rest tidy
  generalize graph.validate id = verdict at first
  cases first with
  | here => rfl
  | later absent _ => exact absurd trivial absent

theorem unlinked?_eq_none (assembled : Assembled Blueprint.IsLibrary graph)
    (alive : graph.nodeAlive id = true)
    (verdict : graph.validate id ≠ .requiredConnectionsNotFulfilled) :
    graph.unlinked? id = none := by
  have first := assembled.first_libraryFindings alive
  generalize graph.validate id = found at first verdict
  cases first with
  | here => exact absurd rfl verdict
  | later complete _ => exact not_not.mp complete

end Assembled

/-! ### Computations -/

/-- After a computation that has found a value for a node, the check finds nothing in it. -/
theorem Assembled.validate_after {graph : Graph} (assembled : Assembled Blueprint.IsLibrary graph)
    {run : Run} (progress : graph.Progress run) (stays : Assembled Blueprint.IsLibrary run.graph)
    {id : NodeId} (alive : graph.nodeAlive id = true) (isDone : id ∈ run.pass.completed) :
    run.graph.validate id = .success := by
  obtain ⟨value, computed⟩ := progress.computed id isDone
  have tracks := progress.tracks
  have computedStill : run.graph.reference [] id = .ok value := by
    rwa [tracks.sameWiring.reference]
  have aliveStill : run.graph.nodeAlive id = true := by
    rwa [tracks.links.nodeAlive]
  apply stays.validate_eq_success aliveStill
  · exact (Graph.reference_eq_ok_iff.mp computedStill).2.1
  · exact fun needs => Graph.not_onRing_of_reference computedStill Relation.ReflTransGen.refl
      (Relation.TransGen.single needs)
  · rintro ⟨output, isOutput, input, listed, freed⟩
    have library := assembled.sound.shaped.libraryNode (Graph.nodeAlive_iff.mp alive).1
    obtain ⟨published, _, outputs, -, port, -⟩ :=
      tracks.published assembled.sound library isDone computed
    rw [tracks.node, outputs, List.mem_singleton] at isOutput
    rw [isOutput, port] at listed
    rw [tracks.links.portAlive, (Graph.mem_liveSinks.mp listed).2] at freed
    cases freed

/-- Where the check finds at most freed inputs and no ring is closed, a failure is one of the
function of a node. -/
theorem Assembled.failed_of_valid {graph : Graph} (assembled : Assembled Blueprint.IsLibrary graph)
    {sink : NodeId} (alive : graph.nodeAlive sink = true)
    (verdicts : ∀ node ∈ graph.upstream sink,
      graph.validate node = .success ∨ graph.validate node = .nullConnectionPoint)
    (ringless : ∀ node ∈ graph.upstream sink, ¬ graph.OnRing node) {failure : EvaluationError}
    (found : graph.reference [] sink = .error failure) :
    ∃ node kindName cause, failure = .failed node kindName cause := by
  obtain ⟨rest, fails⟩ := Graph.exists_trail_iff.mpr found
  cases failure with
  | notReady node name =>
      obtain ⟨reaches, missing⟩ := fails.unlinked
      have verdict : graph.validate node ≠ .requiredConnectionsNotFulfilled := by
        rcases verdicts node reaches with valid | dangling
        · simp [valid]
        · simp [dangling]
      exact absurd
        (assembled.unlinked?_eq_none (assembled.sound.nodeAlive_of_reaches alive reaches) verdict)
        missing
  | cycle node =>
      obtain ⟨reaches, ring⟩ := fails.ring (by simp)
      exact absurd ring (ringless node reaches)
  | failed node kindName cause => exact ⟨node, kindName, cause, rfl⟩

/-- In a graph that is assembled from library nodes, with no ports made apart from them, a
computation that succeeds leaves all nodes upstream such that the check finds nothing in them. And
if the check finds nothing upstream but inputs that have been freed, and there is no ring, a
computation succeeds or fails in the function of a node: it misses no link and reports no cycle. -/
theorem Assembled.compute_validate {graph : Graph}
    (assembled : Assembled Blueprint.IsLibrary graph) {sink : NodeId}
    (alive : graph.nodeAlive sink = true) (memoized : Bool) :
    ((Run.compute ⟨graph, .fresh memoized⟩ sink).1 = .ok () →
      ∀ node ∈ graph.upstream sink,
        (Run.compute ⟨graph, .fresh memoized⟩ sink).2.graph.validate node = .success) ∧
    ((∀ node ∈ graph.upstream sink,
        graph.validate node = .success ∨ graph.validate node = .nullConnectionPoint) →
      (∀ node ∈ graph.upstream sink, ¬ graph.OnRing node) →
      (Run.compute ⟨graph, .fresh memoized⟩ sink).1 = .ok () ∨
        ∃ node kindName cause,
          (Run.compute ⟨graph, .fresh memoized⟩ sink).1 = .error (.failed node kindName cause)) := by
  have sound := assembled.sound
  obtain ⟨after, outcome, advances⟩ := sound.compute_eq alive memoized
  have stays : Assembled Blueprint.IsLibrary
      (Run.compute ⟨graph, .fresh memoized⟩ sink).2.graph :=
    assembled.step
      (show (Action.demand (.fresh memoized) sink).Allowed Blueprint.IsLibrary graph from alive)
      trivial
  rw [outcome] at stays ⊢
  dsimp only
  constructor
  · intro succeeded node reaches
    -- With a node, all that it needs is completed, and each of these nodes has published.
    obtain ⟨value, computed, -⟩ := Graph.map_eq_ok_iff.mp succeeded
    have isDone : node ∈ after.pass.completed :=
      advances.progress.mem_of_reaches (advances.mem_completed_iff.mpr (.itself computed)) reaches
    exact assembled.validate_after advances.progress stays
      (sound.nodeAlive_of_reaches alive reaches) isDone
  · intro verdicts ringless
    cases found : graph.reference [] sink with
    | ok value => exact Or.inl rfl
    | error failure =>
        obtain ⟨node, kindName, cause, rfl⟩ :=
          assembled.failed_of_valid alive verdicts ringless found
        exact Or.inr ⟨node, kindName, cause, rfl⟩

/-- A constant that feeds a negation, and fed another one that has been freed. -/
def Graph.bereft : Graph :=
  [.create (.operator "Not" (.unary .bool .bool fun x => .ok !x)) "C",
    .link (.direct 0 3), .release 2].foldl Action.apply Graph.negation

theorem Assembled.bereft : Assembled Blueprint.IsLibrary Graph.bereft := by
  have operator := Assembled.step Assembled.negation
    (show (Action.create (.operator "Not" (.unary .bool .bool fun x => .ok !x)) "C").Allowed
      Blueprint.IsLibrary _ from .unary ..) trivial
  have linked := Assembled.step operator
    (show (Action.link (.direct 0 3)).Allowed Blueprint.IsLibrary _ from
      ⟨.bool, ⟨Or.inl (by decide), rfl, rfl⟩, Or.inl (by decide), rfl, rfl⟩) trivial
  exact Assembled.step linked
    (show (Action.release 2).Allowed Blueprint.IsLibrary _ from
      Nat.lt_of_lt_of_eq Nat.zero_lt_one (by decide +kernel)) trivial

/-- The computation of the negation succeeds, and leaves nothing of the one that has been freed. -/
theorem Assembled.compute_validate_bereft :
    Graph.bereft.validate 0 = .nullConnectionPoint ∧
      (Run.compute ⟨Graph.bereft, .memoizing⟩ 1).2.graph.validate 0 = .success ∧
      ((Run.compute ⟨Graph.bereft, .memoizing⟩ 1).1 = .ok () ∨
        ∃ node kindName cause, (Run.compute ⟨Graph.bereft, .memoizing⟩ 1).1 =
          .error (.failed node kindName cause)) := by
  have alive : Graph.bereft.nodeAlive 1 = true := by decide +kernel
  have sound := Assembled.bereft.sound
  obtain ⟨leaves, ends⟩ := Assembled.compute_validate Assembled.bereft alive true
  have result : (Run.compute ⟨Graph.bereft, .fresh true⟩ 1).1 = .ok () := by decide +kernel
  have feeders : Graph.bereft.feeders 1 = [0] := by decide +kernel
  have reaches : 0 ∈ Graph.bereft.upstream 1 :=
    Relation.ReflTransGen.single (by rw [Graph.Needs, feeders]; exact List.mem_singleton_self 0)
  have verdicts : ∀ node < Graph.bereft.nodes.size, Graph.bereft.validate node = .success ∨
      Graph.bereft.validate node = .nullConnectionPoint := by decide +kernel
  refine ⟨by decide +kernel, leaves result 0 reaches, ends ?_ ?_⟩
  · intro node member
    exact verdicts node (Graph.nodeAlive_iff.mp (sound.nodeAlive_of_reaches alive member)).1
  · obtain ⟨after, outcome, -⟩ := sound.compute_eq alive true
    rw [outcome] at result
    obtain ⟨value, computed, -⟩ := Graph.map_eq_ok_iff.mp result
    exact fun node => Graph.not_onRing_of_reference computed

end DemandFlow
