import DemandFlow.Evaluation.Error
import DemandFlow.Proofs.Graph.Library
import Mathlib.Logic.Relation

/-!
Contract: the value of a node, as a function of links alone.

Owns: the reference recursion, which reads links, constants and formulas but no value of a port,
and what a value says about the nodes it was computed from.

Main statements: a node that has a value has no ring upstream (`not_ring_of_reference`); the value
does not depend on the nodes in progress, as long as there is one (`reference_of_unreached`), nor on
what ports hold (`SameWiring.reference`).

Does not own: that evaluation finds the same value (`Proofs.Evaluation.Outcome`).
-/

namespace DemandFlow

/-! ### The recursion -/

/-- The values of results in order, or the first failure among them. -/
def allValues : List (Except EvaluationError Value) → Except EvaluationError (List Value)
  | [] => .ok []
  | .error failure :: _ => .error failure
  | .ok value :: rest => (allValues rest).map (value :: ·)

/-- What a node makes of the values of its inputs: a constant its value, a formula the result of
the formula, and a rule the first value that it publishes. -/
def Behaviour.yield : Behaviour → List Value → Except OperationError Value
  | .constant value, _ => .ok value
  | .formula function, values => function.run values
  | .custom rule, values =>
      match rule.respond values [] with
      | (published, none) => .ok (published.headD default)
      | (_, some cause) => .error cause

namespace Graph

/-- The first required input of a node that has no link. -/
def unlinked? (graph : Graph) (id : NodeId) : Option PortId :=
  (graph.node id).inputs.find? fun input =>
    (graph.port input).required && (graph.port input).source.isNone

/-- The node whose output an input is linked to. -/
def feeder? (graph : Graph) (input : PortId) : Option NodeId :=
  (graph.port input).source.map fun output => (graph.port output).owner

/-- The nodes that the inputs of a node are linked to, in the order of the inputs. -/
def feeders (graph : Graph) (id : NodeId) : List NodeId :=
  (graph.node id).inputs.filterMap graph.feeder?

theorem lt_of_mem_feeders {graph : Graph} {id feeder : NodeId}
    (member : feeder ∈ graph.feeders id) : id < graph.nodes.size := by
  apply Nat.lt_of_not_le
  intro beyond
  rw [feeders, node_of_size_le beyond] at member
  cases member

/-- One more node in progress leaves fewer outside. -/
theorem length_outside_cons_lt {scope path : List NodeId} {id : NodeId} (member : id ∈ scope)
    (outside : id ∉ path) :
    (scope.filter (· ∉ id :: path)).length < (scope.filter (· ∉ path)).length := by
  have split : scope.filter (· ∉ id :: path) = (scope.filter (· ∉ path)).filter (· ≠ id) := by
    rw [List.filter_filter]
    apply List.filter_congr
    intro other _
    simp
  rw [split, List.length_filter_lt_length_iff_exists]
  exact ⟨id, List.mem_filter.mpr ⟨member, by simpa using outside⟩, by simp⟩

/-- The value of a node while the nodes of a path are in progress. A node on the path is a cycle;
else a required input without a link is reported before any other node is looked at; else the first
failure among the nodes upstream counts, and without one the function of the node. -/
def reference (graph : Graph) (path : List NodeId) (id : NodeId) :
    Except EvaluationError Value :=
  if id ∈ path then .error (.cycle id)
  else
    match graph.unlinked? id with
    | some input => .error (.notReady id (graph.port input).name)
    | none =>
        match allValues ((graph.feeders id).attach.map fun feeder =>
          graph.reference (id :: path) feeder.1) with
        | .error failure => .error failure
        | .ok values =>
            ((graph.node id).behaviour.yield values).mapError
              (.failed id (graph.node id).kindName)
termination_by ((List.range graph.nodes.size).filter (· ∉ path)).length
decreasing_by
  exact length_outside_cons_lt (List.mem_range.mpr (lt_of_mem_feeders feeder.2)) ‹id ∉ path›

variable {graph : Graph}

theorem reference_of_mem {path : List NodeId} {id : NodeId} (inside : id ∈ path) :
    graph.reference path id = .error (.cycle id) := by
  rw [reference, if_pos inside]

theorem reference_of_unlinked {path : List NodeId} {id : NodeId} {input : PortId}
    (outside : id ∉ path) (missing : graph.unlinked? id = some input) :
    graph.reference path id = .error (.notReady id (graph.port input).name) := by
  rw [reference, if_neg outside, missing]

theorem reference_of_linked {path : List NodeId} {id : NodeId} (outside : id ∉ path)
    (complete : graph.unlinked? id = none) :
    graph.reference path id =
      match allValues ((graph.feeders id).map (graph.reference (id :: path))) with
      | .error failure => .error failure
      | .ok values =>
          ((graph.node id).behaviour.yield values).mapError
            (.failed id (graph.node id).kindName) := by
  rw [reference, if_neg outside, complete]
  simp only [List.map_attach_eq_pmap, List.pmap_eq_map]

theorem mapError_eq_ok_iff {Cause Failure Result : Type} {wrap : Cause → Failure}
    {outcome : Except Cause Result} {result : Result} :
    outcome.mapError wrap = .ok result ↔ outcome = .ok result := by
  cases outcome with
  | error cause =>
      constructor
      · intro impossible
        cases impossible
      · intro impossible
        cases impossible
  | ok value =>
      constructor
      · intro same
        cases same
        rfl
      · intro same
        cases same
        rfl

theorem mapError_map {Cause Failure Result Other : Type} (outcome : Except Cause Result)
    (change : Result → Other) (wrap : Cause → Failure) :
    (outcome.map change).mapError wrap = (outcome.mapError wrap).map change := by
  cases outcome <;> rfl

theorem map_eq_error_iff {Failure Result Other : Type} {outcome : Except Failure Result}
    {change : Result → Other} {failure : Failure} :
    outcome.map change = .error failure ↔ outcome = .error failure := by
  cases outcome <;> simp [Except.map]

theorem map_eq_ok_iff {Failure Result Other : Type} {outcome : Except Failure Result}
    {change : Result → Other} {other : Other} :
    outcome.map change = .ok other ↔ ∃ result, outcome = .ok result ∧ change result = other := by
  cases outcome <;> simp [Except.map]

/-- What a node has a value for: it is not in progress, misses no link, and its function has a
result for the values upstream. -/
theorem reference_eq_ok_iff {path : List NodeId} {id : NodeId} {value : Value} :
    graph.reference path id = .ok value ↔
      id ∉ path ∧ graph.unlinked? id = none ∧
        ∃ values, allValues ((graph.feeders id).map (graph.reference (id :: path))) = .ok values ∧
          (graph.node id).behaviour.yield values = .ok value := by
  by_cases inside : id ∈ path
  · simp [reference_of_mem inside, inside]
  · cases missing : graph.unlinked? id with
    | some input => simp [reference_of_unlinked inside missing]
    | none =>
        rw [reference_of_linked inside missing]
        cases allValues ((graph.feeders id).map (graph.reference (id :: path))) with
        | error failure => simp
        | ok values =>
            cases yields : (graph.node id).behaviour.yield values with
            | error cause => simp [yields, mapError_eq_ok_iff]
            | ok result => simp [yields, mapError_eq_ok_iff, inside]

theorem exists_of_allValues {results : List (Except EvaluationError Value)} {values : List Value}
    (collected : allValues results = .ok values) {result : Except EvaluationError Value}
    (member : result ∈ results) : ∃ value, result = .ok value := by
  induction results generalizing values with
  | nil => cases member
  | cons first rest inductionHypothesis =>
      cases first with
      | error failure => cases collected
      | ok value =>
          rcases List.mem_cons.mp member with same | later
          · exact ⟨value, same⟩
          · cases remaining : allValues rest with
            | error failure =>
                rw [allValues, remaining] at collected
                cases collected
            | ok others => exact inductionHypothesis remaining later

/-! ### Nodes upstream -/

/-- An input of a node is linked to an output of another, or of the node itself. -/
def Needs (graph : Graph) (id source : NodeId) : Prop := source ∈ graph.feeders id

theorem needs_of_split {earlier later : List NodeId} {id feeder : NodeId}
    (split : graph.feeders id = earlier ++ feeder :: later) : graph.Needs id feeder := by
  rw [Needs, split]
  exact List.mem_append_right _ List.mem_cons_self

theorem exists_reference_of_needs {path : List NodeId} {id source : NodeId} {value : Value}
    (computed : graph.reference path id = .ok value) (needs : graph.Needs id source) :
    ∃ upstream, graph.reference (id :: path) source = .ok upstream := by
  obtain ⟨-, -, values, collected, -⟩ := reference_eq_ok_iff.mp computed
  exact exists_of_allValues collected (List.mem_map.mpr ⟨source, needs, rfl⟩)

/-- A node that has a value needs none of the nodes in progress. -/
theorem not_reaches_of_reference {path : List NodeId} {id other : NodeId} {value : Value}
    (computed : graph.reference path id = .ok value) (inside : other ∈ path) :
    ¬ Relation.ReflTransGen graph.Needs id other := by
  intro reaches
  induction reaches using Relation.ReflTransGen.head_induction_on generalizing path value with
  | refl => exact (reference_eq_ok_iff.mp computed).1 inside
  | head needs _ inductionHypothesis =>
      obtain ⟨upstream, found⟩ := exists_reference_of_needs computed needs
      exact inductionHypothesis found (List.mem_cons_of_mem _ inside)

/-- A node that has a value does not need itself. -/
theorem not_ring_of_reference {path : List NodeId} {id : NodeId} {value : Value}
    (computed : graph.reference path id = .ok value) :
    ¬ Relation.TransGen graph.Needs id id := by
  intro ring
  obtain ⟨next, needs, back⟩ := Relation.TransGen.head'_iff.mp ring
  obtain ⟨upstream, found⟩ := exists_reference_of_needs computed needs
  exact not_reaches_of_reference found List.mem_cons_self back

/-- A node has the same value whatever is in progress that it does not need. -/
theorem reference_of_unreached {path other : List NodeId} {id : NodeId} {value : Value}
    (computed : graph.reference path id = .ok value)
    (unreached : ∀ active ∈ other, ¬ Relation.ReflTransGen graph.Needs id active) :
    graph.reference other id = .ok value := by
  have noRing := not_ring_of_reference computed
  obtain ⟨outside, complete, values, collected, yields⟩ := reference_eq_ok_iff.mp computed
  refine reference_eq_ok_iff.mpr ⟨fun active => unreached id active .refl, complete, values, ?_,
    yields⟩
  rw [← collected]
  congr 1
  apply List.map_congr_left
  intro feeder needs
  obtain ⟨upstream, found⟩ := exists_reference_of_needs computed needs
  rw [found]
  -- The node itself is now in progress too, and what it needs does not need it.
  apply reference_of_unreached found
  intro active isActive reaches
  rcases List.mem_cons.mp isActive with rfl | earlier
  · exact noRing (Relation.TransGen.head' needs reaches)
  · exact unreached active earlier (.head needs reaches)
termination_by ((List.range graph.nodes.size).filter (· ∉ path)).length
decreasing_by
  exact length_outside_cons_lt (List.mem_range.mpr (lt_of_mem_feeders needs)) outside

/-- A node has the same value while nodes that need it are in progress. -/
theorem reference_of_needed {path : List NodeId} {id : NodeId} {value : Value}
    (computed : graph.reference [] id = .ok value)
    (needed : ∀ active ∈ path, Relation.TransGen graph.Needs active id) :
    graph.reference path id = .ok value := by
  apply reference_of_unreached computed
  intro active isActive reaches
  exact not_ring_of_reference computed
    (Relation.TransGen.trans_right reaches (needed active isActive))

/-- What needs a node that is begun needs the node's feeders too, and so does the node itself. -/
theorem needed_cons {path : List NodeId} {id feeder : NodeId}
    (needed : ∀ active ∈ path, Relation.TransGen graph.Needs active id)
    (needs : graph.Needs id feeder) :
    ∀ active ∈ id :: path, Relation.TransGen graph.Needs active feeder := by
  intro active isActive
  rcases List.mem_cons.mp isActive with rfl | earlier
  · exact .single needs
  · exact (needed active earlier).tail needs

/-! ### Completed nodes -/

/-- The recursion for a node, with the nodes of a path in progress, computes a value of `other` on
its way, though it may fail afterwards. -/
inductive Completes (graph : Graph) : List NodeId → NodeId → NodeId → Prop where
  | itself {path : List NodeId} {id : NodeId} {value : Value}
      (computed : graph.reference path id = .ok value) : Completes graph path id id
  | upstream {path earlier later : List NodeId} {id feeder other : NodeId} (outside : id ∉ path)
      (complete : graph.unlinked? id = none)
      (split : graph.feeders id = earlier ++ feeder :: later)
      (computed : ∀ before ∈ earlier, ∃ value, graph.reference (id :: path) before = .ok value)
      (within : Completes graph (id :: path) feeder other) : Completes graph path id other

/-- The recursion for a list of nodes, up to the first failure, computes a value of `other`. -/
def CompletesAmong (graph : Graph) (path feeders : List NodeId) (other : NodeId) : Prop :=
  ∃ earlier feeder later, feeders = earlier ++ feeder :: later ∧
    (∀ before ∈ earlier, ∃ value, graph.reference path before = .ok value) ∧
    graph.Completes path feeder other

theorem completes_iff {path : List NodeId} {id other : NodeId} :
    graph.Completes path id other ↔
      (id ∉ path ∧ graph.unlinked? id = none ∧
        graph.CompletesAmong (id :: path) (graph.feeders id) other) ∨
      (other = id ∧ ∃ value, graph.reference path id = .ok value) := by
  constructor
  · intro completes
    cases completes with
    | itself computed => exact Or.inr ⟨rfl, _, computed⟩
    | upstream outside complete split computed within =>
        exact Or.inl ⟨outside, complete, _, _, _, split, computed, within⟩
  · rintro (⟨outside, complete, _, _, _, split, computed, within⟩ | ⟨rfl, _, computed⟩)
    · exact .upstream outside complete split computed within
    · exact .itself computed

theorem not_completesAmong_nil {path : List NodeId} {other : NodeId} :
    ¬ graph.CompletesAmong path [] other := by
  rintro ⟨earlier, feeder, later, split, -⟩
  simp at split

theorem completesAmong_cons {path rest : List NodeId} {feeder other : NodeId} :
    graph.CompletesAmong path (feeder :: rest) other ↔
      graph.Completes path feeder other ∨
      ((∃ value, graph.reference path feeder = .ok value) ∧
        graph.CompletesAmong path rest other) := by
  constructor
  · rintro ⟨earlier, last, later, split, computed, within⟩
    cases earlier with
    | nil =>
        cases split
        exact Or.inl within
    | cons first earlier =>
        cases split
        refine Or.inr ⟨computed feeder List.mem_cons_self, earlier, last, later, rfl, ?_, within⟩
        exact fun before member => computed before (List.mem_cons_of_mem _ member)
  · rintro (within | ⟨leading, earlier, last, later, rfl, computed, within⟩)
    · exact ⟨[], feeder, rest, rfl, by simp, within⟩
    · refine ⟨feeder :: earlier, last, later, rfl, ?_, within⟩
      intro before member
      rcases List.mem_cons.mp member with same | inside
      · rwa [same]
      · exact computed before inside

/-- What the recursion for a node completes, the node needs. -/
theorem Completes.reaches {path : List NodeId} {id other : NodeId}
    (completes : graph.Completes path id other) : Relation.ReflTransGen graph.Needs id other := by
  induction completes with
  | itself => exact .refl
  | upstream _ _ split _ _ inductionHypothesis =>
      exact .head (needs_of_split split) inductionHypothesis

/-! ### Stored values -/

/-- Two graphs that differ at most in what ports hold and list, and in handles on ports. -/
structure SameWiring (before after : Graph) : Prop where
  nodes : after.nodes = before.nodes
  source : ∀ id, (after.port id).source = (before.port id).source
  required : ∀ id, (after.port id).required = (before.port id).required
  name : ∀ id, (after.port id).name = (before.port id).name
  owner : ∀ id, (after.port id).owner = (before.port id).owner

namespace SameWiring

variable {before after : Graph}

theorem symm (same : before.SameWiring after) : after.SameWiring before where
  nodes := same.nodes.symm
  source id := (same.source id).symm
  required id := (same.required id).symm
  name id := (same.name id).symm
  owner id := (same.owner id).symm

theorem node (same : before.SameWiring after) (id : NodeId) : after.node id = before.node id := by
  rw [Graph.node, Graph.node, same.nodes]

theorem unlinked? (same : before.SameWiring after) (id : NodeId) :
    after.unlinked? id = before.unlinked? id := by
  simp only [Graph.unlinked?, same.node, same.source, same.required]

theorem feeders (same : before.SameWiring after) (id : NodeId) :
    after.feeders id = before.feeders id := by
  have feeder : after.feeder? = before.feeder? := by
    funext input
    simp only [feeder?, same.source, same.owner]
  rw [Graph.feeders, Graph.feeders, same.node, feeder]

/-- The recursion does not see what ports hold and list. -/
theorem reference (same : before.SameWiring after) (path : List NodeId) (id : NodeId) :
    after.reference path id = before.reference path id := by
  by_cases inside : id ∈ path
  · rw [reference_of_mem inside, reference_of_mem inside]
  · cases missing : before.unlinked? id with
    | some input =>
        rw [reference_of_unlinked inside missing,
          reference_of_unlinked inside ((same.unlinked? id).trans missing), same.name]
    | none =>
        have upstream : (before.feeders id).map (after.reference (id :: path)) =
            (before.feeders id).map (before.reference (id :: path)) := by
          apply List.map_congr_left
          intro feeder member
          exact same.reference (id :: path) feeder
        rw [reference_of_linked inside missing,
          reference_of_linked inside ((same.unlinked? id).trans missing), same.feeders, same.node,
          upstream]
termination_by ((List.range before.nodes.size).filter (· ∉ path)).length
decreasing_by
  exact length_outside_cons_lt (List.mem_range.mpr (lt_of_mem_feeders member)) inside

theorem completes (same : before.SameWiring after) {path : List NodeId} {id other : NodeId}
    (completes : before.Completes path id other) : after.Completes path id other := by
  induction completes with
  | itself computed => exact .itself ((same.reference _ _).trans computed)
  | upstream outside complete split computed _ inductionHypothesis =>
      refine .upstream outside ((same.unlinked? _).trans complete)
        ((same.feeders _).trans split) ?_ inductionHypothesis
      intro before member
      obtain ⟨value, found⟩ := computed before member
      exact ⟨value, (same.reference _ _).trans found⟩

theorem completes_iff (same : before.SameWiring after) {path : List NodeId} {id other : NodeId} :
    after.Completes path id other ↔ before.Completes path id other :=
  ⟨same.symm.completes, same.completes⟩

end SameWiring

end Graph

/-! ### Kinds -/

theorem Behaviour.kind_of_yield {behaviour : Behaviour} {kind : Kind} {values : List Value}
    {value : Value} (result : behaviour.resultKind? = some kind)
    (yields : behaviour.yield values = .ok value) : value.kind = kind := by
  cases behaviour with
  | constant configured =>
      cases yields
      exact Option.some.inj result
  | formula function =>
      rw [Behaviour.yield, Formula.run] at yields
      cases applied : function.apply values with
      | error cause =>
          rw [applied] at yields
          cases yields
      | ok carried =>
          rw [applied] at yields
          cases yields
          exact Option.some.inj result
  | custom rule => cases result

/-- The value of a library node has the kind of the node's output. -/
theorem Graph.LibraryNode.kind_of_reference {graph : Graph} {path : List NodeId} {id : NodeId}
    {value : Value} {output : PortId} (library : graph.LibraryNode id)
    (computed : graph.reference path id = .ok value) (isOutput : output ∈ (graph.node id).outputs) :
    value.kind = (graph.port output).kind := by
  obtain ⟨only, outputs, result⟩ := library.output
  rw [outputs] at isOutput
  rw [List.mem_singleton.mp isOutput]
  obtain ⟨-, -, values, -, yields⟩ := Graph.reference_eq_ok_iff.mp computed
  exact Behaviour.kind_of_yield result yields

end DemandFlow
