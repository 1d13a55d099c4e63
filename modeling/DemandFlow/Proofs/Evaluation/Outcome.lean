import DemandFlow.Proofs.Evaluation.Nesting
import DemandFlow.Proofs.Evaluation.Settlement
import DemandFlow.Proofs.History.LinkMap
import Mathlib.Data.List.Find

/-!
Contract: the outcome of a computation in a graph of library nodes.

Owns: the invariant of a running computation, what one demand of a node does to it, and the two
results that follow for whole computations.

Main statements: with enough evaluations allowed, demanding a node does what the reference
recursion does (`fulfils_demandNested`). So a computation yields what the recursion yields, whatever
the ports held before, and a memoizing pass yields the same result and leaves the same graph as a
plain one.

Does not own: what custom nodes do.

A pass that memoizes skips nodes that are done. That is sound because all that such a node needs is
done as well, so that nothing it needs can be in progress, and because a value that is published
is delivered to every reader, also to those that ask for it later.
-/

namespace DemandFlow

namespace Graph

/-! ### The invariant -/

/-- A state of a computation: the ports hold what the nodes done have published, each of these
nodes has a value, and all that they need is done. -/
structure Progress (graph : Graph) (run : Run) : Prop where
  tracks : graph.Tracks run.pass.completed run.graph
  computed : ∀ id ∈ run.pass.completed, ∃ value, graph.reference [] id = .ok value
  closed : ∀ id ∈ run.pass.completed, ∀ source, graph.Needs id source →
    source ∈ run.pass.completed

/-- A step of a computation that begins and ends with the same nodes in progress, and makes some
more nodes done. -/
structure Advances (graph : Graph) (run after : Run) (completes : NodeId → Prop) : Prop where
  progress : graph.Progress after
  inProgress : after.pass.inProgress = run.pass.inProgress
  completed : ∀ id, id ∈ after.pass.completed ↔ id ∈ run.pass.completed ∨ completes id

theorem Advances.refl {graph : Graph} {run : Run} (progress : graph.Progress run)
    {completes : NodeId → Prop} (nothing : ∀ id, ¬ completes id) :
    graph.Advances run run completes :=
  ⟨progress, rfl, fun id => by simp [nothing id]⟩

theorem Advances.trans {graph : Graph} {run between after : Run}
    {earlier later completes : NodeId → Prop} (first : graph.Advances run between earlier)
    (second : graph.Advances between after later)
    (either : ∀ id, completes id ↔ earlier id ∨ later id) :
    graph.Advances run after completes where
  progress := second.progress
  inProgress := second.inProgress.trans first.inProgress
  completed id := by
    rw [second.completed, first.completed, either, or_assoc]

theorem Advances.of_iff {graph : Graph} {run after : Run} {completes others : NodeId → Prop}
    (advances : graph.Advances run after completes) (same : ∀ id, others id ↔ completes id) :
    graph.Advances run after others where
  progress := advances.progress
  inProgress := advances.inProgress
  completed id := by
    rw [advances.completed, same]

/-- What is done after a fresh pass, the pass has completed. -/
theorem Advances.mem_completed_iff {graph : Graph} {memoized : Bool} {after : Run}
    {completes : NodeId → Prop}
    (advances : graph.Advances ⟨graph, .fresh memoized⟩ after completes) {id : NodeId} :
    id ∈ after.pass.completed ↔ completes id := by
  rw [advances.completed]
  simp

theorem Progress.mem_of_reaches {graph : Graph} {run : Run} (progress : graph.Progress run)
    {id source : NodeId} (isDone : id ∈ run.pass.completed)
    (reaches : Relation.ReflTransGen graph.Needs id source) : source ∈ run.pass.completed := by
  induction reaches with
  | refl => exact isDone
  | tail _ needs inductionHypothesis => exact progress.closed _ inductionHypothesis _ needs

/-- What a demand of a node does while the nodes of a path are in progress: it yields what the
recursion yields, and makes done what the recursion completes. -/
def Fulfils (graph : Graph) (demand : NodeId → Run → Option (Outcome Unit)) (path : List NodeId)
    (id : NodeId) : Prop :=
  ∀ run, graph.Progress run → run.pass.inProgress = path →
    ∃ after, demand id run = some ((graph.reference path id).map fun _ => (), after) ∧
      graph.Advances run after (graph.Completes path id)

/-! ### Inputs -/

section Inputs

variable {admitted : Blueprint → Prop} {graph : Graph}
  {demand : NodeId → Run → Option (Outcome Unit)} {path : List NodeId}

/-- A linked input of a living node finds the node that it is linked to. -/
theorem Sound.sourceNode?_eq_feeder? (sound : graph.Sound admitted) {id : NodeId} {input : PortId}
    (alive : graph.nodeAlive id = true) (isInput : input ∈ (graph.node id).inputs) :
    graph.sourceNode? input = graph.feeder? input := by
  unfold sourceNode? feeder?
  cases linked : (graph.port input).source with
  | none => rfl
  | some output => simp [sound.nodeAlive_of_linked alive isInput linked]

theorem Sound.origin?_of_isInput (sound : graph.Sound admitted) {id : NodeId} {input : PortId}
    (alive : graph.nodeAlive id = true) (isInput : input ∈ (graph.node id).inputs) :
    graph.origin? input = graph.feeder? input := by
  rw [origin?, (sound.shaped.input isInput).1]
  simp [sound.portAlive_of_isInput alive isInput]

/-- Pulling a linked input yields the value of the node that it is linked to. -/
theorem pull_eq {run : Run} {input : PortId} {feeder : NodeId}
    (found : graph.sourceNode? input = some feeder) (origin : graph.origin? input = some feeder)
    (fulfils : graph.Fulfils demand path feeder) (progress : graph.Progress run)
    (inProgress : run.pass.inProgress = path) :
    ∃ after, Demand.pull demand input run = some (graph.reference path feeder, after) ∧
      graph.Advances run after (graph.Completes path feeder) := by
  obtain ⟨after, demanded, advances⟩ := fulfils run progress inProgress
  refine ⟨after, ?_, advances⟩
  rw [Demand.pull, progress.tracks.links.sourceNode?, found]
  cases computed : graph.reference path feeder with
  | error failure =>
      rw [computed] at demanded
      simp only [demanded, Except.map]
  | ok value =>
      have isDone : feeder ∈ after.pass.completed :=
        (advances.completed feeder).mpr (Or.inr (.itself computed))
      -- Even a feeder that was done before has delivered: the value of a done node is settled in every
      -- input that it feeds, and stays there.
      have delivered : (after.graph.port input).value = value := by
        rw [advances.progress.tracks.port]
        exact value_settled origin isDone (reference_of_unreached computed (by simp))
      rw [computed] at demanded
      simp only [demanded, Except.map, delivered]

/-- Pulling linked inputs yields what the recursion yields for the nodes that they are linked to,
up to the first failure. -/
theorem pullAll_eq {inputs : List PortId} {run : Run}
    (each : ∀ input ∈ inputs, ∃ feeder, graph.sourceNode? input = some feeder ∧
      graph.origin? input = some feeder ∧ graph.feeder? input = some feeder ∧
      graph.Fulfils demand path feeder)
    (progress : graph.Progress run) (inProgress : run.pass.inProgress = path) :
    ∃ after, Demand.pullAll demand inputs run =
        some (allValues ((inputs.filterMap graph.feeder?).map (graph.reference path)), after) ∧
      graph.Advances run after (graph.CompletesAmong path (inputs.filterMap graph.feeder?)) := by
  induction inputs generalizing run with
  | nil => exact ⟨run, rfl, .refl progress fun _ => not_completesAmong_nil⟩
  | cons input rest inductionHypothesis =>
      obtain ⟨feeder, found, origin, linked, fulfils⟩ := each input List.mem_cons_self
      obtain ⟨between, pulled, first⟩ := pull_eq found origin fulfils progress inProgress
      rw [List.filterMap_cons_some linked, List.map_cons, Demand.pullAll, pulled]
      cases computed : graph.reference path feeder with
      | error failure =>
          refine ⟨between, rfl, first.of_iff fun other => ?_⟩
          rw [completesAmong_cons]
          simp [computed]
      | ok value =>
          obtain ⟨after, pulledRest, second⟩ := inductionHypothesis
            (fun other member => each other (List.mem_cons_of_mem _ member)) first.progress
            (first.inProgress.trans inProgress)
          refine ⟨after, ?_, first.trans second fun other => ?_⟩
          · simp only [pulledRest, allValues]
            cases allValues ((rest.filterMap graph.feeder?).map (graph.reference path)) with
            | error failure => rfl
            | ok values => rfl
          · rw [completesAmong_cons]
            simp [computed]

end Inputs

/-! ### One node -/

section Nodes

variable {admitted : Blueprint → Prop} {graph : Graph}
  {demand : NodeId → Run → Option (Outcome Unit)} {path : List NodeId} {id : NodeId}

/-- The check before a library node is evaluated looks for what the recursion looks for. -/
theorem Sound.firstMissing?_eq_unlinked? (sound : graph.Sound admitted)
    (library : graph.LibraryNode id) :
    graph.firstMissing? (graph.node id).ports = graph.unlinked? id := by
  rw [firstMissing?, library.registered, unlinked?]
  apply List.find?_congr
  intro input isInput
  rw [isMissing, isLinked, (sound.shaped.input isInput).1]
  cases (graph.port input).source <;> rfl

/-- A library node without an unlinked input has a node at each input. -/
theorem LibraryNode.exists_feeder (library : graph.LibraryNode id)
    (complete : graph.unlinked? id = none) {input : PortId}
    (isInput : input ∈ (graph.node id).inputs) : ∃ feeder, graph.feeder? input = some feeder := by
  have linked := List.find?_eq_none.mp complete input isInput
  rw [library.required input isInput] at linked
  cases source : (graph.port input).source with
  | none => simp [source] at linked
  | some output => exact ⟨(graph.port output).owner, by rw [feeder?, source]; rfl⟩

theorem SameLinks.firstMissing? {before after : Graph} (same : before.SameLinks after)
    (set : PortSet) : after.firstMissing? set = before.firstMissing? set := by
  have inputs : after.inputsOf set = before.inputsOf set := by
    unfold inputsOf ofDirection
    apply List.filter_congr
    intro input _
    rw [(same.shape.port input).direction]
  rw [Graph.firstMissing?, Graph.firstMissing?, inputs]
  apply List.find?_congr
  intro input member
  have incoming : (before.port input).direction = .input := by
    simpa [inputsOf, ofDirection] using (List.mem_filter.mp member).2
  rw [isMissing, isMissing, isLinked, isLinked, (same.shape.port input).direction, incoming,
    (same.shape.port input).required, same.source]

/-- Pulling the inputs of a library node that misses none yields what the recursion yields for
the nodes that they are linked to. -/
theorem pullInputs_eq (sound : graph.Sound admitted) (library : graph.LibraryNode id)
    (alive : graph.nodeAlive id = true) (complete : graph.unlinked? id = none)
    (fulfils : ∀ feeder ∈ graph.feeders id, graph.Fulfils demand path feeder) {run : Run}
    (progress : graph.Progress run) (inProgress : run.pass.inProgress = path) :
    ∃ after, Demand.pullAll demand (graph.node id).inputs run =
        some (allValues ((graph.feeders id).map (graph.reference path)), after) ∧
      graph.Advances run after (graph.CompletesAmong path (graph.feeders id)) := by
  apply pullAll_eq _ progress inProgress
  intro input isInput
  obtain ⟨feeder, linked⟩ := library.exists_feeder complete isInput
  refine ⟨feeder, ?_, ?_, linked, fulfils feeder ?_⟩
  · rw [sound.sourceNode?_eq_feeder? alive isInput, linked]
  · rw [sound.origin?_of_isInput alive isInput, linked]
  · exact List.mem_filterMap.mpr ⟨input, isInput, linked⟩

/-- A constant has the value that it is set to. -/
theorem LibraryNode.constant_eq (library : graph.LibraryNode id) {value : Value}
    (behaviour : (graph.node id).behaviour = .constant value) :
    graph.feeders id = [] ∧
      ∀ path : List NodeId, id ∉ path → graph.reference path id = .ok value := by
  have noInputs := library.constants value behaviour
  have complete : graph.unlinked? id = none := by
    rw [unlinked?, noInputs]
    rfl
  have noFeeders : graph.feeders id = [] := by
    rw [feeders, noInputs]
    rfl
  refine ⟨noFeeders, fun path outside => ?_⟩
  rw [reference_of_linked outside complete, noFeeders, behaviour]
  rfl

/-- Evaluating a library node yields what the recursion yields, and publishes its value. -/
theorem evaluate_eq (sound : graph.Sound admitted) (library : graph.LibraryNode id)
    (alive : graph.nodeAlive id = true) (outside : id ∉ path)
    (fulfils : ∀ feeder ∈ graph.feeders id, graph.Fulfils demand (id :: path) feeder)
    {run : Run} (progress : graph.Progress run) (inProgress : run.pass.inProgress = id :: path) :
    ∃ between,
      graph.Advances run between (fun other => graph.unlinked? id = none ∧
        graph.CompletesAmong (id :: path) (graph.feeders id) other) ∧
      Demand.evaluate demand id run =
        some (match graph.reference path id with
          | .error failure => (.error failure, between)
          | .ok value =>
              (.ok (),
                between.mapGraph (Demand.publishAll (graph.node id).outputs [value]))) := by
  have node := progress.tracks.node id
  rw [Demand.evaluate, node]
  cases behaviour : (graph.node id).behaviour with
  | constant value =>
      obtain ⟨noFeeders, computed⟩ := library.constant_eq behaviour
      refine ⟨run, .refl progress fun other => ?_, ?_⟩
      · rw [noFeeders]
        exact fun completes => not_completesAmong_nil completes.2
      · rw [computed path outside]
  | formula function =>
      have missing : run.graph.firstMissing? (graph.node id).ports = graph.unlinked? id :=
        (progress.tracks.links.firstMissing? _).trans (sound.firstMissing?_eq_unlinked? library)
      simp only [Demand.respond, node, missing, ↓reduceIte]
      cases unlinked : graph.unlinked? id with
      | some input =>
          have isInput : input ∈ (graph.node id).inputs := List.mem_of_find?_eq_some unlinked
          have shape := progress.tracks.links.shape.port input
          refine ⟨run, .refl progress fun other => by simp, ?_⟩
          rw [reference_of_unlinked outside unlinked]
          simp only [shape.owner, shape.name, (sound.shaped.input isInput).2.1]
      | none =>
          obtain ⟨between, pulled, advances⟩ :=
            pullInputs_eq sound library alive unlinked fulfils progress inProgress
          refine ⟨between, advances.of_iff fun other => by simp, ?_⟩
          simp only [pulled]
          rw [reference_of_linked outside unlinked, behaviour]
          cases allValues ((graph.feeders id).map (graph.reference (id :: path))) with
          | error failure => rfl
          | ok values =>
              simp only [Demand.formulaResponse, Behaviour.yield]
              cases function.run values with
              | error cause =>
                  simp only [mapGraph_publishAll_nil]
                  rfl
              | ok value => rfl
  | custom rule =>
      -- A rule has no kind of result, which every library node has.
      obtain ⟨output, -, result⟩ := library.output
      rw [behaviour] at result
      cases result

end Nodes

/-! ### Demands -/

section Demands

variable {admitted : Blueprint → Prop} {graph : Graph} {run between : Run} {path : List NodeId}
  {id : NodeId} {completes : NodeId → Prop}

theorem Progress.start (progress : graph.Progress run) (id : NodeId) :
    graph.Progress (run.mapPass (·.start id)) :=
  ⟨progress.tracks, progress.computed, progress.closed⟩

/-- A node that fails is no longer in progress, and not done. -/
theorem Advances.abandon (advances : graph.Advances (run.mapPass (·.start id)) between completes) :
    graph.Advances run (between.mapPass (·.abandon id)) completes where
  progress :=
    ⟨advances.progress.tracks, advances.progress.computed, advances.progress.closed⟩
  inProgress := by
    show between.pass.inProgress.erase id = run.pass.inProgress
    rw [advances.inProgress]
    exact Pass.inProgress_abandon_start run.pass id
  completed := advances.completed

/-- A node that succeeds, and that needs done nodes only, is done. -/
theorem Advances.finish (sound : graph.Sound admitted) (library : graph.LibraryNode id)
    (advances : graph.Advances (run.mapPass (·.start id)) between completes) {value : Value}
    (computed : graph.reference [] id = .ok value)
    (closed : ∀ source, graph.Needs id source → source ∈ between.pass.completed) :
    graph.Advances run
      ((between.mapGraph (Demand.publishAll (graph.node id).outputs [value])).mapPass (·.finish id))
      (fun other => completes other ∨ other = id) := by
  have isDone (other : NodeId) : other ∈ (between.pass.finish id).completed ↔
      other = id ∨ other ∈ between.pass.completed := between.pass.mem_completed_finish
  refine ⟨⟨?_, ?_, ?_⟩, ?_, ?_⟩
  · apply (advances.progress.tracks.publish sound library computed).congr
    intro other
    rw [List.mem_cons]
    exact (isDone other).symm
  · intro other member
    rcases (isDone other).mp member with rfl | earlier
    · exact ⟨value, computed⟩
    · exact advances.progress.computed other earlier
  · intro other member source needs
    apply (isDone source).mpr
    right
    rcases (isDone other).mp member with rfl | earlier
    · exact closed source needs
    · exact advances.progress.closed other earlier source needs
  · show between.pass.inProgress.erase id = run.pass.inProgress
    rw [advances.inProgress]
    exact Pass.inProgress_finish_start run.pass id
  · intro other
    have before := advances.completed other
    refine (isDone other).trans ?_
    rw [before, or_comm, or_assoc]
    exact Iff.rfl

theorem completesAmong_of_reference {value : Value} (computed : graph.reference path id = .ok value)
    {source : NodeId} (needs : graph.Needs id source) :
    graph.CompletesAmong (id :: path) (graph.feeders id) source := by
  obtain ⟨earlier, later, split⟩ := List.append_of_mem needs
  obtain ⟨upstream, found⟩ := exists_reference_of_needs computed needs
  refine ⟨earlier, source, later, split, fun before member => ?_, .itself found⟩
  apply exists_reference_of_needs computed
  rw [Needs, split]
  exact List.mem_append_left _ member

/-- A node that is done need not be evaluated again: it has a value, whatever is in progress,
since what is in progress needs it and it does not need itself; and all that it needs is done. -/
theorem Progress.reuse (progress : graph.Progress run) (isDone : id ∈ run.pass.completed)
    (needed : ∀ active ∈ path, Relation.TransGen graph.Needs active id) :
    (graph.reference path id).map (fun _ => ()) = .ok () ∧
      graph.Advances run run (graph.Completes path id) := by
  obtain ⟨value, computed⟩ := progress.computed id isDone
  constructor
  · rw [reference_of_needed computed needed]
    rfl
  · refine ⟨progress, rfl, fun other => ?_⟩
    exact (or_iff_left_of_imp fun completes =>
      progress.mem_of_reaches isDone completes.reaches).symm

/-- An attempt at a node does what the recursion does, as soon as an evaluation of the node does. -/
theorem fulfils_attempt {evaluation : NodeId → Run → Option (Outcome Unit)}
    (needed : ∀ active ∈ path, Relation.TransGen graph.Needs active id)
    (evaluated : id ∉ path → ∀ run, graph.Progress run → run.pass.inProgress = path →
      ∃ after, Demand.conclude id (evaluation id (run.mapPass (·.start id))) =
          some ((graph.reference path id).map fun _ => (), after) ∧
        graph.Advances run after (graph.Completes path id)) :
    graph.Fulfils (Demand.attempt evaluation) path id := by
  intro run progress inProgress
  by_cases inside : id ∈ path
  · -- A node in progress is not begun again: it needs itself.
    refine ⟨run, ?_, .refl progress fun other completes => ?_⟩
    · rw [Demand.attempt_of_inProgress (by rwa [inProgress]), reference_of_mem inside]
      rfl
    · rcases completes_iff.mp completes with ⟨outside, -⟩ | ⟨-, value, computed⟩
      · exact outside inside
      · rw [reference_of_mem inside] at computed
        cases computed
  have notBegun : id ∉ run.pass.inProgress := by
    rwa [inProgress]
  by_cases reuse : run.pass.canReuse id = true
  · have isDone : id ∈ run.pass.completed := by
      simpa using (Bool.and_eq_true_iff.mp reuse).2
    obtain ⟨result, advances⟩ := progress.reuse isDone needed
    refine ⟨run, ?_, advances⟩
    rw [Demand.attempt_of_canReuse notBegun reuse, result]
  · rw [Demand.attempt_of_fresh notBegun reuse]
    exact evaluated inside run progress inProgress

/-- An evaluation of a node outside the path does what the recursion does, if the demands of the
nodes that feed it do. -/
theorem conclude_evaluate_eq (sound : graph.Sound admitted) (library : graph.LibraryNode id)
    (alive : graph.nodeAlive id = true) (outside : id ∉ path)
    {demand : NodeId → Run → Option (Outcome Unit)}
    (fulfils : ∀ feeder ∈ graph.feeders id, graph.Fulfils demand (id :: path) feeder)
    (progress : graph.Progress run) (inProgress : run.pass.inProgress = path) :
    ∃ after, Demand.conclude id (Demand.evaluate demand id (run.mapPass (·.start id))) =
        some ((graph.reference path id).map fun _ => (), after) ∧
      graph.Advances run after (graph.Completes path id) := by
  obtain ⟨between, advances, evaluated⟩ := evaluate_eq sound library alive outside fulfils
    (progress.start id) (congrArg (id :: ·) inProgress)
  rw [evaluated]
  cases computed : graph.reference path id with
  | error failure =>
      refine ⟨between.mapPass (·.abandon id), rfl, advances.abandon.of_iff fun other => ?_⟩
      rw [completes_iff]
      simp [computed, outside]
  | ok value =>
      have complete := (reference_eq_ok_iff.mp computed).2.1
      have closed : ∀ source, graph.Needs id source → source ∈ between.pass.completed := by
        intro source needs
        exact (advances.completed source).mpr
          (Or.inr ⟨complete, completesAmong_of_reference computed needs⟩)
      have alone : graph.reference [] id = .ok value :=
        reference_of_unreached computed (by simp)
      refine ⟨_, rfl, (advances.finish sound library alone closed).of_iff fun other => ?_⟩
      rw [completes_iff]
      simp [computed, outside]

/-- What a living node needs is alive. -/
theorem Sound.nodeAlive_of_needs (sound : graph.Sound admitted) {source : NodeId}
    (alive : graph.nodeAlive id = true) (needs : graph.Needs id source) :
    graph.nodeAlive source = true := by
  obtain ⟨input, isInput, linked⟩ := List.mem_filterMap.mp needs
  obtain ⟨output, joined, owner⟩ := Option.map_eq_some_iff.mp linked
  rw [← owner]
  exact sound.nodeAlive_of_linked alive isInput joined

theorem Sound.nodeAlive_of_reaches (sound : graph.Sound admitted) {source : NodeId}
    (alive : graph.nodeAlive id = true) (reaches : Relation.ReflTransGen graph.Needs id source) :
    graph.nodeAlive source = true := by
  induction reaches with
  | refl => exact alive
  | tail _ needs inductionHypothesis => exact sound.nodeAlive_of_needs inductionHypothesis needs

/-- Demanding a node does what the recursion does, with as many evaluations under way as there are
nodes outside the path in some list that has all that its nodes need. -/
theorem fulfils_demandNested (sound : graph.Sound Blueprint.IsLibrary) {scope : List NodeId}
    (closed : ∀ node ∈ scope, ∀ source, graph.Needs node source → source ∈ scope)
    {evaluations : Nat} (enough : (scope.filter (· ∉ path)).length ≤ evaluations)
    (inScope : id ∈ scope) (alive : graph.nodeAlive id = true)
    (needed : ∀ active ∈ path, Relation.TransGen graph.Needs active id) :
    graph.Fulfils (demandNested evaluations) path id := by
  -- Each evaluation puts one more node of the list on the path.
  induction evaluations generalizing path id with
  | zero =>
      apply fulfils_attempt needed
      intro outside
      have remains : id ∈ scope.filter (· ∉ path) :=
        List.mem_filter.mpr ⟨inScope, by simpa using outside⟩
      rw [List.eq_nil_of_length_eq_zero (Nat.le_zero.mp enough)] at remains
      cases remains
  | succ evaluations inductionHypothesis =>
      apply fulfils_attempt needed
      intro outside run progress inProgress
      have library := sound.shaped.libraryNode (nodeAlive_iff.mp alive).1
      refine conclude_evaluate_eq sound library alive outside ?_ progress inProgress
      intro feeder needs
      apply inductionHypothesis
      · exact Nat.le_of_lt_succ
          (Nat.lt_of_lt_of_le (length_outside_cons_lt inScope outside) enough)
      · exact closed id inScope feeder needs
      · exact sound.nodeAlive_of_needs alive needs
      · exact needed_cons needed needs

end Demands

/-! ### Computations -/

/-- The graph with other values in its ports, as far as they are of the ports' kinds. -/
def revalue (graph : Graph) (values : PortId → Value) : Graph :=
  { graph with ports := graph.ports.mapIdx fun id port => port.store (values id) }

theorem port_revalue (graph : Graph) (values : PortId → Value) (id : PortId) :
    (graph.revalue values).port id =
      if id < graph.ports.size then (graph.port id).store (values id) else graph.port id := by
  by_cases made : id < graph.ports.size
  · simp [port, revalue, Array.getD, made]
  · simp [port, revalue, Array.getD, made]

theorem port_revalue_eq (graph : Graph) (values : PortId → Value) (id : PortId) :
    (graph.revalue values).port id =
      { graph.port id with value := ((graph.revalue values).port id).value } := by
  rw [port_revalue]
  split
  · exact Port.store_eq _ _
  · rfl

theorem sameLinks_revalue (graph : Graph) (values : PortId → Value) :
    graph.SameLinks (graph.revalue values) := by
  refine ⟨⟨rfl, ?_, fun _ => .refl _, ?_⟩, fun _ => rfl, fun _ => rfl, ?_, ?_, ?_⟩
  · simp [revalue]
  · intro id
    rw [port_revalue]
    split
    · exact Port.sameShape_store _ _
    · exact .refl _
  · intro id
    rw [port_revalue_eq]
  · intro id
    rw [port_revalue_eq]
  · intro id
    left
    rw [port_revalue_eq]

theorem sameWiring_revalue (graph : Graph) (values : PortId → Value) :
    graph.SameWiring (graph.revalue values) := by
  refine ⟨rfl, ?_, ?_, ?_, ?_⟩ <;>
    · intro id
      rw [port_revalue_eq]

theorem reference_revalue (graph : Graph) (values : PortId → Value) (path : List NodeId)
    (id : NodeId) : (graph.revalue values).reference path id = graph.reference path id :=
  (graph.sameWiring_revalue values).reference path id

/-- A fresh pass has nothing done. -/
theorem Progress.fresh (graph : Graph) (memoized : Bool) :
    graph.Progress ⟨graph, .fresh memoized⟩ := by
  constructor
  · rw [Pass.completed_fresh]
    exact .refl graph
  · simp
  · simp

/-- Demanding a node in a fresh pass does what the recursion does, with as many evaluations under
way as there are nodes in some list that has the node and all that its nodes need. -/
theorem Sound.demandNested_eq {graph : Graph} (sound : graph.Sound Blueprint.IsLibrary)
    {scope : List NodeId}
    (closed : ∀ node ∈ scope, ∀ source, graph.Needs node source → source ∈ scope) {id : NodeId}
    (inScope : id ∈ scope) (alive : graph.nodeAlive id = true) (memoized : Bool) :
    ∃ after, demandNested scope.length id ⟨graph, .fresh memoized⟩ =
        some ((graph.reference [] id).map fun _ => (), after) ∧
      graph.Advances ⟨graph, .fresh memoized⟩ after (graph.Completes [] id) := by
  have enough : (scope.filter (· ∉ ([] : List NodeId))).length ≤ scope.length :=
    List.length_filter_le _ _
  exact fulfils_demandNested sound closed enough inScope alive (by simp) _ (.fresh graph memoized)
    (Pass.inProgress_fresh memoized)

/-- Computing a node while nothing is in progress does what the recursion does, whatever is done
already. -/
theorem Sound.compute_of_progress {graph : Graph} (sound : graph.Sound Blueprint.IsLibrary)
    {run : Run} (progress : graph.Progress run) (idle : run.pass.inProgress = []) {id : NodeId}
    (alive : graph.nodeAlive id = true) :
    ∃ after, run.compute id = ((graph.reference [] id).map fun _ => (), after) ∧
      graph.Advances run after (graph.Completes [] id) := by
  have isLiving {node : NodeId} : node ∈ graph.living ↔ graph.nodeAlive node = true := by
    rw [living, List.mem_filter, List.mem_range]
    exact and_iff_right_of_imp fun alive => (nodeAlive_iff.mp alive).1
  have closed : ∀ node ∈ graph.living, ∀ source, graph.Needs node source →
      source ∈ graph.living := fun node member source needs =>
    isLiving.mpr (sound.nodeAlive_of_needs (isLiving.mp member) needs)
  have enough : (graph.living.filter (· ∉ ([] : List NodeId))).length ≤ graph.living.length :=
    List.length_filter_le _ _
  have bound : graph.living.length ≤ run.graph.nodes.size := by
    rw [progress.tracks.links.shape.nodes_size]
    exact length_living_le graph
  obtain ⟨after, ended, advances⟩ :=
    fulfils_demandNested sound closed enough (isLiving.mpr alive) alive (by simp) run progress idle
  exact ⟨after, Run.compute_of_demandNested bound ended, advances⟩

/-- Computing a node with a fresh pass does what the recursion does. -/
theorem Sound.compute_eq {graph : Graph} (sound : graph.Sound Blueprint.IsLibrary) {id : NodeId}
    (alive : graph.nodeAlive id = true) (memoized : Bool) :
    ∃ after, Run.compute ⟨graph, .fresh memoized⟩ id =
        ((graph.reference [] id).map fun _ => (), after) ∧
      graph.Advances ⟨graph, .fresh memoized⟩ after (graph.Completes [] id) :=
  sound.compute_of_progress (.fresh graph memoized) (Pass.inProgress_fresh memoized) alive

end Graph

/-- Whatever values the ports of a reachable graph of library nodes hold, a plain pass computes for
a living node what the reference recursion yields for it, and if that is a value the node's output
holds it then. -/
theorem Reachable.compute_eq_reference {graph : Graph}
    (reachable : Reachable Blueprint.IsLibrary graph) (values : PortId → Value) {sink : NodeId}
    (alive : graph.nodeAlive sink = true) :
    (Run.compute ⟨graph.revalue values, .plain⟩ sink).1 =
        (graph.reference [] sink).map (fun _ => ()) ∧
      ∀ value, graph.reference [] sink = .ok value →
        ∃ output, (graph.node sink).outputs = [output] ∧
          ((Run.compute ⟨graph.revalue values, .plain⟩ sink).2.graph.port output).value =
            value := by
  have same := graph.sameLinks_revalue values
  have sound := reachable.sound.of_sameLinks same
  have aliveStill : (graph.revalue values).nodeAlive sink = true := by
    rwa [same.nodeAlive]
  obtain ⟨after, computed, advances⟩ := sound.compute_eq aliveStill false
  rw [graph.reference_revalue] at computed
  have outcome : Run.compute ⟨graph.revalue values, .plain⟩ sink = _ := computed
  rw [outcome]
  refine ⟨rfl, fun value found => ?_⟩
  rw [← graph.reference_revalue values] at found
  have library := sound.shaped.libraryNode (Graph.nodeAlive_iff.mp aliveStill).1
  obtain ⟨output, outputs, -⟩ := library.output
  have origin : (graph.revalue values).origin? output = some sink :=
    sound.origin?_eq_some_iff.mpr
      ⟨output, by rw [outputs]; exact List.mem_singleton_self output, Or.inl rfl⟩
  have isDone : sink ∈ after.pass.completed :=
    (advances.completed sink).mpr (Or.inr (.itself found))
  refine ⟨output, outputs, ?_⟩
  rw [advances.progress.tracks.port]
  exact Graph.value_settled origin isDone found

theorem Graph.reference_negation : Graph.negation.reference [] 1 = .ok ⟨.bool, false⟩ := by
  have constant : Graph.negation.reference [1] 0 = .ok ⟨.bool, true⟩ :=
    reference_eq_ok_iff.mpr ⟨by decide, rfl, [], rfl, rfl⟩
  have feeders : Graph.negation.feeders 1 = [0] := rfl
  refine reference_eq_ok_iff.mpr ⟨by decide, rfl, [⟨.bool, true⟩], ?_, rfl⟩
  rw [feeders, List.map_singleton, constant]
  rfl

theorem Reachable.compute_negation :
    (Run.compute ⟨Graph.negation.revalue fun _ => ⟨.bool, true⟩, .plain⟩ 1).1 = .ok () ∧
      ∃ output, (Graph.negation.node 1).outputs = [output] ∧
        ((Run.compute ⟨Graph.negation.revalue fun _ => ⟨.bool, true⟩, .plain⟩ 1).2.graph.port
          output).value = ⟨.bool, false⟩ := by
  obtain ⟨result, holds⟩ := Reachable.compute_eq_reference History.negation.reachable
    (fun _ => ⟨.bool, true⟩) (by decide : Graph.negation.nodeAlive 1 = true)
  rw [Graph.reference_negation] at result
  exact ⟨result, holds _ Graph.reference_negation⟩

/-- A pass that memoizes computes what a plain pass computes, and leaves the same graph. -/
theorem Reachable.compute_memoizing {graph : Graph}
    (reachable : Reachable Blueprint.IsLibrary graph) {sink : NodeId}
    (alive : graph.nodeAlive sink = true) :
    (Run.compute ⟨graph, .memoizing⟩ sink).1 = (Run.compute ⟨graph, .plain⟩ sink).1 ∧
      (Run.compute ⟨graph, .memoizing⟩ sink).2.graph =
        (Run.compute ⟨graph, .plain⟩ sink).2.graph := by
  obtain ⟨memoized, computedOnce, once⟩ := reachable.sound.compute_eq alive true
  obtain ⟨plain, computedAgain, again⟩ := reachable.sound.compute_eq alive false
  have first : Run.compute ⟨graph, .memoizing⟩ sink = _ := computedOnce
  have second : Run.compute ⟨graph, .plain⟩ sink = _ := computedAgain
  rw [first, second]
  refine ⟨rfl, once.progress.tracks.unique again.progress.tracks fun node => ?_⟩
  rw [once.completed, again.completed]
  exact Iff.rfl

theorem Reachable.compute_memoizing_negation :
    (Run.compute ⟨Graph.negation, .memoizing⟩ 1).1 =
        (Run.compute ⟨Graph.negation, .plain⟩ 1).1 ∧
      (Run.compute ⟨Graph.negation, .memoizing⟩ 1).2.graph =
        (Run.compute ⟨Graph.negation, .plain⟩ 1).2.graph :=
  Reachable.compute_memoizing History.negation.reachable (by decide)

end DemandFlow
