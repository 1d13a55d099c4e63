import DemandFlow.Proofs.Graph.Shape

/-!
Contract: what each operation on links does to every port, in closed form.

Owns: the equations for the ports after an input is cleared, an output is cleared, two ports are
joined, or a value is published; and what stays alive under them.

Main statements: `port_clearSource`, `port_join`, `port_clearSinks`, `port_publish`.

Does not own: that both sides of a link agree (`Proofs.Graph.Coherence`).
-/

attribute [ext] DemandFlow.Port

namespace DemandFlow.Port

/-- Storing a value changes nothing but the value. -/
theorem store_eq (port : Port) (value : Value) :
    port.store value = { port with value := (port.store value).value } := by
  unfold store
  split <;> rfl

theorem store_store (port : Port) (value : Value) :
    (port.store value).store value = port.store value := by
  unfold store
  split <;> simp_all

end DemandFlow.Port

namespace DemandFlow.Graph

/-! ### What is alive -/

theorem nodeAlive_congr {before after : Graph} {id : NodeId}
    (size : after.nodes.size = before.nodes.size)
    (freed : (after.node id).freed = (before.node id).freed) :
    after.nodeAlive id = before.nodeAlive id := by
  simp [nodeAlive, size, freed]

theorem portAlive_congr {before after : Graph} {id : PortId}
    (saved : (after.port id).saved = (before.port id).saved)
    (attached : (after.port id).attached = (before.port id).attached)
    (owner : (after.port id).owner = (before.port id).owner)
    (alive : after.nodeAlive (before.port id).owner = before.nodeAlive (before.port id).owner) :
    after.portAlive id = before.portAlive id := by
  simp [portAlive, saved, attached, owner, alive]

theorem portAlive_iff {graph : Graph} {id : PortId} :
    graph.portAlive id = true ↔
      0 < (graph.port id).saved ∨
        (graph.port id).attached = true ∧ graph.nodeAlive (graph.port id).owner = true := by
  simp [portAlive]

theorem nodeAlive_iff {graph : Graph} {id : NodeId} :
    graph.nodeAlive id = true ↔ id < graph.nodes.size ∧ (graph.node id).freed = false := by
  simp [nodeAlive]

theorem port_lt_of_portAlive {graph : Graph} {id : PortId} (alive : graph.portAlive id = true) :
    id < graph.ports.size := by
  apply port_lt_of_ne_default
  intro unmade
  rw [portAlive_iff, unmade] at alive
  rcases alive with saved | attached
  · exact absurd saved (Nat.lt_irrefl 0)
  · cases attached.1

theorem port_lt_of_source {graph : Graph} {input output : PortId}
    (linked : (graph.port input).source = some output) : input < graph.ports.size := by
  apply port_lt_of_ne_default
  intro unmade
  rw [unmade] at linked
  cases linked

theorem mem_liveSinks {graph : Graph} {output input : PortId} :
    input ∈ graph.liveSinks output ↔
      input ∈ (graph.port output).sinks ∧ graph.portAlive input = true := by
  simp [liveSinks]

theorem liveSinks_of_size_le {graph : Graph} {output : PortId}
    (beyond : graph.ports.size ≤ output) : graph.liveSinks output = [] := by
  rw [liveSinks, port_of_size_le beyond]
  rfl

/-! ### Clearing an input -/

@[simp]
theorem nodes_clearSource (graph : Graph) (input : PortId) :
    (graph.clearSource input).nodes = graph.nodes := by
  unfold clearSource
  split <;> rfl

/-- An input that is cleared leaves the list of its source, which loses its dead entries. -/
theorem port_clearSource (graph : Graph) (input id : PortId) :
    (graph.clearSource input).port id =
      { graph.port id with
        source := if id = input then none else (graph.port id).source
        sinks :=
          if (graph.port input).source = some id then (graph.liveSinks id).filter (· != input)
          else (graph.port id).sinks } := by
  unfold clearSource
  split
  · rename_i unlinked
    by_cases same : id = input
    · subst same
      ext <;> simp [unlinked]
    · simp [unlinked, same]
  · rename_i output linked
    have made := port_lt_of_source linked
    rw [linked, port_modifyPort, port_modifyPort, port_modifyPort]
    by_cases sameInput : id = input
    · subst sameInput
      rw [if_pos ⟨rfl, by simpa using made⟩]
      by_cases sameOutput : id = output
      · subst sameOutput
        simp [made]
      · have differs : ¬ output = id := fun equal => sameOutput equal.symm
        simp [sameOutput, differs]
    · rw [if_neg fun both => sameInput both.1]
      by_cases sameOutput : id = output
      · subst sameOutput
        by_cases bound : id < graph.ports.size
        · simp [bound, sameInput]
        · have beyond := Nat.le_of_not_lt bound
          simp [bound, sameInput, liveSinks_of_size_le beyond, port_of_size_le beyond]
          rfl
      · have differs : ¬ output = id := fun equal => sameOutput equal.symm
        simp [sameInput, sameOutput, differs]

/-! ### Attaching an input -/

theorem port_attach {graph : Graph} {input output : PortId} (inputMade : input < graph.ports.size)
    (outputMade : output < graph.ports.size) (id : PortId) :
    (graph.attach input output).port id =
      { graph.port id with
        source := if id = input then some output else (graph.port id).source
        sinks := (graph.port id).sinks ++ if id = output then [input] else [] } := by
  unfold attach
  rw [port_modifyPort, port_modifyPort, port_modifyPort]
  simp only [ports_size_modifyPort, inputMade, outputMade, and_true]
  by_cases sameInput : id = input
  · subst sameInput
    by_cases sameOutput : id = output
    · simp [sameOutput]
    · simp [sameOutput]
  · by_cases sameOutput : id = output
    · subst sameOutput
      simp [sameInput]
    · simp [sameInput, sameOutput]

/-! ### Clearing an output -/

theorem nodes_foldl_clearSource (output : PortId) (inputs : List PortId) (graph : Graph) :
    (inputs.foldl (fun graph input =>
      if (graph.port input).source = some output then graph.clearSource input else graph)
      graph).nodes = graph.nodes := by
  induction inputs generalizing graph with
  | nil => rfl
  | cons input rest inductionHypothesis =>
      rw [List.foldl_cons, inductionHypothesis]
      split
      · exact nodes_clearSource graph input
      · rfl

@[simp]
theorem nodes_clearSinks (graph : Graph) (output : PortId) :
    (graph.clearSinks output).nodes = graph.nodes :=
  nodes_foldl_clearSource output _ _

/-- Clearing inputs one by one off an output whose list is empty already. -/
theorem port_foldl_clearSource {output : PortId} (inputs : List PortId) {graph : Graph}
    (emptied : (graph.port output).sinks = []) (id : PortId) :
    (inputs.foldl (fun graph input =>
      if (graph.port input).source = some output then graph.clearSource input else graph)
      graph).port id =
      { graph.port id with
        source :=
          if id ∈ inputs ∧ (graph.port id).source = some output then none
          else (graph.port id).source } := by
  induction inputs generalizing graph with
  | nil => simp
  | cons input rest inductionHypothesis =>
      rw [List.foldl_cons]
      split
      · rename_i linked
        have cleared (other : PortId) : (graph.clearSource input).port other =
            { graph.port other with
              source := if other = input then none else (graph.port other).source } := by
          rw [port_clearSource, linked]
          by_cases same : other = output
          · subst same
            simp [liveSinks, emptied]
          · have differs : ¬ output = other := fun equal => same equal.symm
            simp [differs]
        have stillEmptied : ((graph.clearSource input).port output).sinks = [] := by
          rw [cleared]
          exact emptied
        rw [inductionHypothesis stillEmptied, cleared]
        by_cases same : id = input
        · subst same
          simp [linked]
        · simp [same]
      · rename_i unlinked
        rw [inductionHypothesis emptied]
        by_cases same : id = input
        · subst same
          simp [unlinked]
        · simp [same]

/-- The ports after an output is cleared: its list is empty, and its living sinks are cleared. -/
theorem port_clearSinks (graph : Graph) (output id : PortId) :
    (graph.clearSinks output).port id =
      { graph.port id with
        source :=
          if id ∈ graph.liveSinks output ∧ (graph.port id).source = some output then none
          else (graph.port id).source
        sinks := if id = output then [] else (graph.port id).sinks } := by
  unfold clearSinks
  have emptied : ((graph.modifyPort output fun port => { port with sinks := [] }).port id) =
      { graph.port id with sinks := if id = output then [] else (graph.port id).sinks } := by
    rw [port_modifyPort]
    by_cases same : id = output
    · subst same
      by_cases bound : id < graph.ports.size
      · simp [bound]
      · rw [if_neg fun both => bound both.2, port_of_size_le (Nat.le_of_not_lt bound)]
        simp
        rfl
    · simp [same]
  rw [port_foldl_clearSource, emptied]
  rw [port_modifyPort]
  split
  · rfl
  · rename_i unmade
    have beyond : graph.ports.size ≤ output := Nat.le_of_not_lt fun made => unmade ⟨rfl, made⟩
    rw [port_of_size_le beyond]
    rfl

/-! ### Publishing -/

theorem port_foldl_store (value : Value) (inputs : List PortId) {graph : Graph} {id : PortId}
    (made : id < graph.ports.size) :
    (inputs.foldl (fun graph input => graph.modifyPort input (·.store value)) graph).port id =
      if id ∈ inputs then (graph.port id).store value else graph.port id := by
  induction inputs generalizing graph with
  | nil => rfl
  | cons input rest inductionHypothesis =>
      rw [List.foldl_cons, inductionHypothesis (by simpa using made), port_modifyPort]
      by_cases same : id = input
      · subst same
        simp [made, Port.store_store]
      · simp [same]

/-- The ports after a value is published: the output and its living sinks hold it, as far as it
is of their kind, and the output's list loses its dead entries. -/
theorem port_publish {graph : Graph} {output id : PortId} (value : Value)
    (made : id < graph.ports.size) :
    (graph.publish output value).port id =
      { graph.port id with
        value :=
          if id = output ∨ id ∈ graph.liveSinks output then ((graph.port id).store value).value
          else (graph.port id).value
        sinks := if id = output then graph.liveSinks output else (graph.port id).sinks } := by
  unfold publish
  rw [port_foldl_store value _ (by simpa using made), port_modifyPort]
  by_cases same : id = output
  · subst same
    by_cases fits : value.kind = (graph.port id).value.kind
    · simp [made, Port.store, Port.kind, fits]
    · simp [made, Port.store, Port.kind, fits]
  · by_cases member : id ∈ graph.liveSinks output
    · simp only [same, member, false_and, ↓reduceIte, or_true]
      exact Port.store_eq _ value
    · simp [same, member]

theorem nodes_foldl_modifyPort (change : Port → Port) (inputs : List PortId) (graph : Graph) :
    (inputs.foldl (fun graph input => graph.modifyPort input change) graph).nodes =
      graph.nodes := by
  induction inputs generalizing graph with
  | nil => rfl
  | cons input rest inductionHypothesis =>
      rw [List.foldl_cons, inductionHypothesis]
      rfl

@[simp]
theorem nodes_publish (graph : Graph) (output : PortId) (value : Value) :
    (graph.publish output value).nodes = graph.nodes :=
  nodes_foldl_modifyPort _ _ _

end DemandFlow.Graph
