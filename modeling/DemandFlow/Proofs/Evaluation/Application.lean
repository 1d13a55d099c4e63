import DemandFlow.Proofs.Evaluation.Account
import DemandFlow.Proofs.Evaluation.Outcome

/-!
Contract: nodes whose inputs are linked to constants.

Owns: what the computation of such a node comes to, and how many evaluations it takes.

Main statement: the computation yields what the node makes of the values of the constants, and
visits each of them once besides the node itself (`Sound.computesTo_of_supplied`).

Does not own: how such a node is assembled (`Proofs.Catalog.Trial`).
-/

namespace DemandFlow

namespace Graph

/-- An input is linked to a constant of a value. -/
def Supplies (graph : Graph) (input : PortId) (value : Value) : Prop :=
  ∃ source, graph.feeder? input = some source ∧ (graph.node source).behaviour = .constant value

/-- The inputs of a node are linked to constants of the given values, in order. -/
def Supplied (graph : Graph) (id : NodeId) (values : List Value) : Prop :=
  List.Forall₂ graph.Supplies (graph.node id).inputs values

/-- Computing a node with a fresh plain pass comes to an outcome of its function. -/
structure ComputesTo (graph : Graph) (id : NodeId) (outcome : Except OperationError Value) :
    Prop where
  result : (Run.compute ⟨graph, .plain⟩ id).1 =
    (outcome.mapError (.failed id (graph.node id).kindName)).map fun _ => ()
  value : ∀ value, outcome = .ok value → ∃ output, (graph.node id).outputs = [output] ∧
    ((Run.compute ⟨graph, .plain⟩ id).2.graph.port output).value = value
  visits : (Run.compute ⟨graph, .plain⟩ id).2.pass.visits = 1 + (graph.node id).inputs.length

/-! ### The value -/

variable {graph : Graph} {id : NodeId} {inputs : List PortId} {values : List Value}

theorem exists_supplies (supplied : List.Forall₂ graph.Supplies inputs values) {input : PortId}
    (member : input ∈ inputs) : ∃ value, graph.Supplies input value := by
  induction supplied with
  | nil => cases member
  | cons first _ inductionHypothesis =>
      rcases List.mem_cons.mp member with rfl | later
      · exact ⟨_, first⟩
      · exact inductionHypothesis later

/-- A node with an input is no constant. -/
theorem LibraryNode.ne_of_supplies (library : graph.LibraryNode id) {input : PortId}
    (isInput : input ∈ (graph.node id).inputs) {source : NodeId} {value : Value}
    (constant : (graph.node source).behaviour = .constant value) : source ≠ id := by
  rintro rfl
  rw [library.constants value constant] at isInput
  cases isInput

theorem unlinked?_of_supplied (supplied : graph.Supplied id values) :
    graph.unlinked? id = none := by
  rw [unlinked?, List.find?_eq_none]
  intro input isInput
  obtain ⟨_, source, linked, -⟩ := exists_supplies supplied isInput
  obtain ⟨output, joined, -⟩ := Option.map_eq_some_iff.mp linked
  simp [joined]

/-- The nodes that feed inputs from constants have the values of the constants. -/
theorem Sound.allValues_of_supplied (sound : graph.Sound Blueprint.IsLibrary)
    (alive : graph.nodeAlive id = true) (subset : inputs ⊆ (graph.node id).inputs)
    (supplied : List.Forall₂ graph.Supplies inputs values) :
    allValues ((inputs.filterMap graph.feeder?).map (graph.reference [id])) = .ok values := by
  have library := sound.shaped.libraryNode (nodeAlive_iff.mp alive).1
  induction supplied with
  | nil => rfl
  | @cons input value rest others first _ inductionHypothesis =>
      obtain ⟨source, linked, constant⟩ := first
      have isInput := subset List.mem_cons_self
      have differs := library.ne_of_supplies isInput constant
      have sourceAlive := sound.nodeAlive_of_needs alive
        (List.mem_filterMap.mpr ⟨input, isInput, linked⟩)
      have sourceLibrary := sound.shaped.libraryNode (nodeAlive_iff.mp sourceAlive).1
      have known := (sourceLibrary.constant_eq constant).2 [id] (by simpa using differs)
      have later := inductionHypothesis fun _ member => subset (List.mem_cons_of_mem _ member)
      rw [List.filterMap_cons_some linked, List.map_cons, known, allValues, later]
      rfl

/-- The value of a node that is fed from constants is what it makes of their values. -/
theorem Sound.reference_of_supplied (sound : graph.Sound Blueprint.IsLibrary)
    (alive : graph.nodeAlive id = true) (supplied : graph.Supplied id values) :
    graph.reference [] id =
      ((graph.node id).behaviour.yield values).mapError
        (.failed id (graph.node id).kindName) := by
  rw [reference_of_linked (by simp) (unlinked?_of_supplied supplied), feeders,
    sound.allValues_of_supplied alive (List.Subset.refl _) supplied]

end Graph

/-! ### The visits -/

theorem Behaviour.SameShape.symm {before after : Behaviour} (same : before.SameShape after) :
    after.SameShape before := by
  cases same with
  | refl => exact .refl _
  | constant kind => exact .constant kind.symm

/-- A constant that is not in progress is evaluated in one step. -/
theorem performs_constant {run : Run} {node : NodeId} {value : Value}
    (constant : (run.graph.node node).behaviour = .constant value)
    (notBegun : node ∉ run.pass.inProgress) (plain : run.pass.memoized = false) :
    ∃ after events, Performs (.demand node) run (.ok []) after events ∧
      evaluations events = [node] := by
  have unknown : run.pass.canReuse node = false := by
    simp [Pass.canReuse, plain]
  have evaluation : Performs (.evaluate node) (run.mapPass (·.start node)) _ _ _ :=
    .constant constant
  refine ⟨_, _, .complete notBegun unknown evaluation, ?_⟩
  rw [evaluations_append, evaluations_publications]
  rfl

namespace Graph

variable {graph : Graph} {id : NodeId} {inputs : List PortId} {values : List Value}

/-- Inputs that are fed from constants are pulled with one evaluation each. -/
theorem Sound.performs_pull_of_supplied (sound : graph.Sound Blueprint.IsLibrary)
    (alive : graph.nodeAlive id = true) (subset : inputs ⊆ (graph.node id).inputs)
    (supplied : List.Forall₂ graph.Supplies inputs values) {run : Run}
    (links : graph.SameLinks run.graph) (inProgress : run.pass.inProgress = [id])
    (plain : run.pass.memoized = false) :
    ∃ read after events, Performs (.pull inputs) run (.ok read) after events ∧
      (evaluations events).length = inputs.length := by
  have library := sound.shaped.libraryNode (nodeAlive_iff.mp alive).1
  induction supplied generalizing run with
  | nil => exact ⟨_, _, _, .done, rfl⟩
  | @cons input value rest others first _ inductionHypothesis =>
      obtain ⟨source, linked, constant⟩ := first
      have isInput := subset List.mem_cons_self
      have fed : run.graph.sourceNode? input = some source := by
        rw [links.sourceNode?, sound.sourceNode?_eq_feeder? alive isInput, linked]
      obtain ⟨held, publishes⟩ :=
        (links.shape.node source).behaviour.symm.exists_constant constant
      have notBegun : source ∉ run.pass.inProgress := by
        rw [inProgress, List.mem_singleton]
        exact library.ne_of_supplies isInput constant
      obtain ⟨between, earlier, demand, single⟩ := performs_constant publishes notBegun plain
      have account := demand.account
      obtain ⟨read, after, later, pulls, count⟩ := inductionHypothesis
        (fun _ member => subset (List.mem_cons_of_mem _ member)) (links.trans account.links)
        (account.tally.inProgress.trans inProgress) (account.tally.memoized.trans plain)
      refine ⟨_, _, _, .receive fed demand pulls, ?_⟩
      rw [evaluations_append, evaluations_read, single, List.length_append, count,
        List.length_singleton, List.length_cons, Nat.add_comm]

/-- An evaluation that is performed ends the demand of a node, with success or failure. -/
theorem performs_demand {run between : Run} {failure : Option OperationError}
    {events : List Event} (notBegun : id ∉ run.pass.inProgress)
    (unknown : run.pass.canReuse id = false)
    (evaluation : Performs (.evaluate id) (run.mapPass (·.start id)) (run.graph.verdict id failure)
      between events) :
    ∃ result after last,
      Performs (.demand id) run result after (events ++ [.evaluated id last]) := by
  cases failure with
  | none => exact ⟨_, _, _, .complete notBegun unknown evaluation⟩
  | some cause => exact ⟨_, _, _, .abandon notBegun unknown evaluation⟩

/-- A node that is fed from constants takes one evaluation more than it has inputs. -/
theorem Sound.performs_of_supplied (sound : graph.Sound Blueprint.IsLibrary)
    (alive : graph.nodeAlive id = true) (supplied : graph.Supplied id values) :
    ∃ result after events, Performs (.demand id) ⟨graph, .plain⟩ result after events ∧
      (evaluations events).length = 1 + (graph.node id).inputs.length := by
  have library := sound.shaped.libraryNode (nodeAlive_iff.mp alive).1
  have notBegun : id ∉ (Run.mk graph .plain).pass.inProgress := List.not_mem_nil
  have unknown : (Run.mk graph .plain).pass.canReuse id = false := rfl
  cases behaviour : (graph.node id).behaviour with
  | constant value =>
      have constant : ((Run.mk graph .plain).graph.node id).behaviour = .constant value := behaviour
      obtain ⟨after, events, performs, single⟩ := performs_constant constant notBegun rfl
      refine ⟨_, after, events, performs, ?_⟩
      rw [single, library.constants value behaviour]
      rfl
  | formula function =>
      have begun : graph.SameLinks ((Run.mk graph .plain).mapPass (·.start id)).graph := .refl graph
      obtain ⟨read, between, events, pulls, count⟩ := sound.performs_pull_of_supplied alive
        (List.Subset.refl _) supplied begun rfl rfl
      have isRule : (graph.node id).behaviour.rule? =
          some ⟨true, Demand.formulaResponse function⟩ := by
        rw [behaviour]
        rfl
      have ready : graph.awaited? id ⟨true, Demand.formulaResponse function⟩ = none := by
        rw [awaited?, if_pos rfl, sound.firstMissing?_eq_unlinked? library,
          unlinked?_of_supplied supplied]
      obtain ⟨result, after, last, performs⟩ :=
        performs_demand notBegun unknown (Performs.respond isRule ready pulls rfl)
      refine ⟨result, after, _, performs, ?_⟩
      rw [evaluations_append, evaluations_append, evaluations_publications, List.append_nil,
        List.length_append, count, Nat.add_comm]
      rfl
  | custom rule =>
      obtain ⟨output, -, result⟩ := library.output
      rw [behaviour] at result
      cases result

/-- Computing a node that is fed from constants comes to what the node makes of their values. -/
theorem Sound.computesTo_of_supplied (sound : graph.Sound Blueprint.IsLibrary)
    (alive : graph.nodeAlive id = true) (supplied : graph.Supplied id values) :
    graph.ComputesTo id ((graph.node id).behaviour.yield values) := by
  obtain ⟨after, computed, advances⟩ := sound.compute_eq alive false
  have outcome : Run.compute ⟨graph, .plain⟩ id = _ := computed
  have reference := sound.reference_of_supplied alive supplied
  constructor
  · rw [outcome, reference]
  · intro value yields
    have found : graph.reference [] id = .ok value := by
      rw [reference, yields]
      rfl
    have library := sound.shaped.libraryNode (nodeAlive_iff.mp alive).1
    obtain ⟨output, outputs, -⟩ := library.output
    have origin : graph.origin? output = some id :=
      sound.origin?_eq_some_iff.mpr
        ⟨output, by rw [outputs]; exact List.mem_singleton_self output, Or.inl rfl⟩
    have isDone : id ∈ after.pass.completed :=
      advances.mem_completed_iff.mpr (.itself found)
    refine ⟨output, outputs, ?_⟩
    rw [outcome, advances.progress.tracks.port]
    exact value_settled origin isDone found
  · obtain ⟨result, last, events, performs, count⟩ := sound.performs_of_supplied alive supplied
    obtain ⟨others, computation⟩ := performs_compute ⟨graph, .plain⟩ (nodeAlive_iff.mp alive).1
    obtain ⟨-, sameRun, -⟩ := performs.unique computation
    rw [sameRun, performs.account.tally.visits, count]
    exact Nat.zero_add _

end Graph

end DemandFlow
