import DemandFlow.Proofs.Graph.Making

/-!
Contract: the nodes of the library.

Owns: which blueprints the library offers, and the facts about their nodes that evaluation rests
on: every input is required and registered, and the one output has the kind of what is computed.

Main statement: in a graph of library nodes, every node has these facts (`Shaped.libraryNode`).

Does not own: the recipes by which library nodes are found (`Catalog.Recipe`).
-/

namespace DemandFlow

/-! ### Blueprints -/

/-- The kind of what a node computes. The rule of a maker tells none. -/
def Behaviour.resultKind? : Behaviour → Option Kind
  | .constant value => some value.kind
  | .formula function => some function.result
  | .custom _ => none

theorem Behaviour.SameShape.exists_constant {before after : Behaviour}
    (same : before.SameShape after) {value : Value} (constant : after = .constant value) :
    ∃ planned, before = .constant planned := by
  cases same with
  | refl => exact ⟨value, constant⟩
  | constant kind => exact ⟨_, rfl⟩

theorem Behaviour.SameShape.resultKind? {before after : Behaviour}
    (same : before.SameShape after) : after.resultKind? = before.resultKind? := by
  cases same with
  | refl => rfl
  | constant kind => exact congrArg some kind

namespace Blueprint

/-- The blueprints of the library: constants, operators with any pure function of one, two or three
operands, and selectors. -/
inductive IsLibrary : Blueprint → Prop where
  | constant (value : Value) : IsLibrary (.constant value)
  | unary (kindName : String) (x result : Kind)
      (function : x.Carrier → Except OperationError result.Carrier) :
      IsLibrary (.operator kindName (.unary x result function))
  | binary (kindName : String) (x y result : Kind)
      (function : x.Carrier → y.Carrier → Except OperationError result.Carrier) :
      IsLibrary (.operator kindName (.binary x y result function))
  | trinary (kindName : String) (x y z result : Kind)
      (function : x.Carrier → y.Carrier → z.Carrier → Except OperationError result.Carrier) :
      IsLibrary (.operator kindName (.trinary x y z result function))
  | selector (kind : Kind) : IsLibrary (.selector kind)

/-- A blueprint with one output, after all inputs, that holds the kind computed. -/
structure Regular (plan : Blueprint) (inputs : List PortPlan) (output : PortPlan) : Prop where
  ports : plan.ports = inputs ++ [output]
  incoming : ∀ port ∈ inputs, port.direction = .input ∧ port.required = true
  outgoing : output.direction = .output
  names : (plan.ports.map (·.name)).Nodup
  result : plan.behaviour.resultKind? = some output.value.kind
  constants : ∀ value, plan.behaviour = .constant value → inputs = []

theorem regular_formula {plan : Blueprint} {formula : Formula} {inputs : List PortPlan}
    {output : String} (behaviour : plan.behaviour = .formula formula)
    (ports : plan.ports = inputs ++ [.output output (Value.ofDefault formula.result)])
    (incoming : ∀ port ∈ inputs, port.direction = .input ∧ port.required = true)
    (names : (inputs.map (·.name) ++ [output]).Nodup) :
    plan.Regular inputs (.output output (Value.ofDefault formula.result)) where
  ports := ports
  incoming := incoming
  outgoing := rfl
  names := by
    rw [ports, List.map_append]
    exact names
  result := by
    rw [behaviour]
    rfl
  constants value constant := by
    rw [behaviour] at constant
    cases constant

theorem requiredInputs_incoming (inputs : List (String × Kind)) :
    ∀ port ∈ inputs.map fun input => PortPlan.requiredInput input.1 input.2,
      port.direction = .input ∧ port.required = true := by
  intro port member
  obtain ⟨input, -, rfl⟩ := List.mem_map.mp member
  exact ⟨rfl, rfl⟩

theorem IsLibrary.regular {plan : Blueprint} (library : plan.IsLibrary) :
    ∃ inputs output, plan.Regular inputs output := by
  cases library with
  | constant value =>
      exact ⟨[], .output "Value" value, rfl, by simp, rfl, by simp [Blueprint.constant], rfl,
        fun _ _ => rfl⟩
  | unary kindName x result function =>
      exact ⟨_, _, regular_formula rfl rfl (requiredInputs_incoming [("In", x)])
        (by decide : ["In", "Result"].Nodup)⟩
  | binary kindName x y result function =>
      exact ⟨_, _, regular_formula rfl rfl (requiredInputs_incoming [("X", x), ("Y", y)])
        (by decide : ["X", "Y", "Result"].Nodup)⟩
  | trinary kindName x y z result function =>
      exact ⟨_, _, regular_formula rfl rfl
        (requiredInputs_incoming [("X", x), ("Y", y), ("Z", z)])
        (by decide : ["X", "Y", "Z", "Result"].Nodup)⟩
  | selector kind =>
      exact ⟨_, _, regular_formula rfl rfl
        (requiredInputs_incoming [("Control", .bool), ("X", kind), ("Y", kind)])
        (by decide : ["Control", "X", "Y", "Value"].Nodup)⟩

/-! ### Registration -/

theorem entries_foldl {numbered : List (PortPlan × PortId)} {set : PortSet}
    (names : (set.entries.map Prod.fst ++ numbered.map fun entry => entry.1.name).Nodup) :
    (numbered.foldl (fun set entry => set.insert entry.1.name entry.2) set).entries =
      set.entries ++ numbered.map fun entry => (entry.1.name, entry.2) := by
  induction numbered generalizing set with
  | nil => simp
  | cons first rest inductionHypothesis =>
      have free : set.get? first.1.name = none := by
        rw [PortSet.get?, List.lookup_eq_none_iff]
        intro entry member
        have differs := (List.nodup_append.mp names).2.2 entry.1
          (List.mem_map.mpr ⟨entry, member, rfl⟩) first.1.name List.mem_cons_self
        exact bne_iff_ne.mpr fun same => differs same.symm
      rw [List.foldl_cons, PortSet.insert_of_free _ free, inductionHypothesis]
      · simp
      · simpa using names

theorem names_numbered (plan : Blueprint) (first : PortId) :
    ((plan.numbered first).map fun entry => entry.1.name) = plan.ports.map (·.name) := by
  rw [numbered, ← List.zipIdx_map_fst first plan.ports, List.map_map]
  simp

/-- Ports with distinct names are all registered, in order. -/
theorem entries_portSet {plan : Blueprint} (names : (plan.ports.map (·.name)).Nodup)
    (first : PortId) :
    (plan.portSet first).entries =
      (plan.numbered first).map fun entry => (entry.1.name, entry.2) := by
  rw [portSet, entries_foldl]
  · rfl
  · rwa [PortSet.empty, List.map_nil, List.nil_append, names_numbered]

theorem ports_portSet {plan : Blueprint} (names : (plan.ports.map (·.name)).Nodup)
    (first : PortId) : (plan.portSet first).ports = (plan.numbered first).map Prod.snd := by
  rw [PortSet.ports, entries_portSet names, List.map_map]
  rfl

/-- The numbers of the inputs come before the number of the one output. -/
theorem Regular.numbersOf_output {plan : Blueprint} {inputs : List PortPlan} {output : PortPlan}
    (regular : plan.Regular inputs output) (first : PortId) :
    plan.numbersOf first .output = [first + inputs.length] := by
  have none : (inputs.zipIdx first).filter (fun entry => entry.1.direction = .output) = [] := by
    rw [List.filter_eq_nil_iff]
    intro entry member
    simp [(regular.incoming entry.1 (List.fst_mem_of_mem_zipIdx member)).1]
  rw [numbersOf, numbered, regular.ports, List.zipIdx_append, List.filter_append, none]
  simp [regular.outgoing]

/-- The inputs are numbered from the first port on. -/
theorem Regular.numbersOf_input {plan : Blueprint} {inputs : List PortPlan} {output : PortPlan}
    (regular : plan.Regular inputs output) (first : PortId) :
    plan.numbersOf first .input = List.range' first inputs.length := by
  have all : (inputs.zipIdx first).filter (fun entry => entry.1.direction = .input) =
      inputs.zipIdx first := by
    rw [List.filter_eq_self]
    intro entry member
    simp [(regular.incoming entry.1 (List.fst_mem_of_mem_zipIdx member)).1]
  rw [numbersOf, numbered, regular.ports, List.zipIdx_append, List.filter_append, all]
  simp [regular.outgoing]

theorem Regular.mem_numbered_output {plan : Blueprint} {inputs : List PortPlan}
    {output : PortPlan} (regular : plan.Regular inputs output) (first : PortId) :
    (output, first + inputs.length) ∈ plan.numbered first := by
  rw [numbered, regular.ports, List.zipIdx_append]
  simp

end Blueprint

/-! ### Nodes -/

namespace Graph

/-- What evaluation relies on in a node of the library. -/
structure LibraryNode (graph : Graph) (id : NodeId) : Prop where
  required : ∀ input ∈ (graph.node id).inputs, (graph.port input).required = true
  registered : graph.inputsOf (graph.node id).ports = (graph.node id).inputs
  output : ∃ output, (graph.node id).outputs = [output] ∧
    (graph.node id).behaviour.resultKind? = some (graph.port output).kind
  constants : ∀ value, (graph.node id).behaviour = .constant value → (graph.node id).inputs = []

theorem MadeFrom.libraryNode {graph : Graph} {id : NodeId} {plan : Blueprint} {first : PortId}
    (made : graph.MadeFrom id plan first) (library : plan.IsLibrary) : graph.LibraryNode id := by
  obtain ⟨inputs, output, regular⟩ := library.regular
  have inputNumbers : (graph.node id).inputs = plan.numbersOf first .input :=
    made.terminals .input
  constructor
  · intro input member
    rw [inputNumbers] at member
    obtain ⟨port, numbered, incoming⟩ := Blueprint.mem_numbersOf.mp member
    rw [(made.port port input numbered).required]
    have isPort : port ∈ plan.ports := List.fst_mem_of_mem_zipIdx numbered
    rw [regular.ports] at isPort
    rcases List.mem_append.mp isPort with isInput | isOutput
    · exact (regular.incoming port isInput).2
    · rw [List.mem_singleton.mp isOutput, regular.outgoing] at incoming
      cases incoming
  · rw [inputNumbers, made.ports, inputsOf, ofDirection, Blueprint.ports_portSet regular.names,
      Blueprint.numbersOf, List.filter_map]
    congr 1
    apply List.filter_congr
    intro entry member
    simp [(made.port entry.1 entry.2 member).direction, PortPlan.toPort]
  · have outputNumbers : (graph.node id).outputs = [first + inputs.length] :=
      (made.terminals .output).trans (regular.numbersOf_output first)
    refine ⟨first + inputs.length, outputNumbers, ?_⟩
    rw [made.behaviour.resultKind?, regular.result,
      (made.port output _ (regular.mem_numbered_output first)).kind]
    rfl
  · intro value constant
    obtain ⟨before, planned⟩ := made.behaviour.exists_constant constant
    rw [inputNumbers, Blueprint.numbersOf, Blueprint.numbered, regular.ports,
      regular.constants before planned]
    simp [regular.outgoing]

/-- In a graph of library nodes, every node is a library node. -/
theorem Shaped.libraryNode {graph : Graph} (shaped : graph.Shaped Blueprint.IsLibrary)
    {id : NodeId} (made : id < graph.nodes.size) : graph.LibraryNode id := by
  obtain ⟨plan, first, library, madeFrom⟩ := shaped.made id made
  exact madeFrom.libraryNode library

end Graph

end DemandFlow
