import DemandFlow.Proofs.Graph.Update

/-!
Contract: the two sides of every link agree.

Owns: the agreement between the sources of inputs and the lists of outputs, and the changes that
touch neither: changes of values.

Main statement: a change of values keeps the agreement (`Coherent.of_sameLinks`).

Does not own: the operations on links (`Proofs.Graph.Relinking`), what is freed and what handles
hold (`Proofs.Graph.Collection`), and new nodes (`Proofs.Graph.Growth`).
-/

namespace DemandFlow.Graph

/-! ### Agreement -/

/-- Both sides of every link agree. A freed input may still be listed by its last source, and may
still name it; it is the living inputs that are listed by the output that they name. -/
structure Coherent (graph : Graph) : Prop where
  joins : ∀ input output, (graph.port input).source = some output →
    (graph.port input).direction = .input ∧ (graph.port output).direction = .output ∧
      (graph.port input).kind = (graph.port output).kind ∧
      (graph.port output).attached = true
  listed : ∀ input output, graph.portAlive input = true →
    (graph.port input).source = some output → input ∈ (graph.port output).sinks
  answered : ∀ output input, input ∈ (graph.port output).sinks →
    (graph.port input).source = some output
  once : ∀ output, (graph.port output).sinks.Nodup
  fed : ∀ input output, graph.portAlive input = true → (graph.port input).source = some output →
    (graph.port output).owner ≠ (graph.port input).owner →
    graph.nodeAlive (graph.port output).owner = true
  held : ∀ id, 0 < (graph.node id).held → graph.nodeAlive id = true

/-- Every living node has a handle or feeds a living input of another node. -/
def Tidy (graph : Graph) : Prop := ∀ id, graph.nodeAlive id = true → graph.kept id = true

theorem kept_iff {graph : Graph} {id : NodeId} :
    graph.kept id = true ↔
      0 < (graph.node id).held ∨
        ∃ output ∈ (graph.node id).outputs, ∃ sink ∈ (graph.port output).sinks,
          graph.portAlive sink = true ∧ (graph.port sink).owner ≠ id := by
  simp [kept]

theorem tidy_of_doomed_eq_nil {graph : Graph} (none : graph.doomed = []) : graph.Tidy := by
  intro id alive
  have living : id ∈ graph.living := by
    simp [living, alive, (nodeAlive_iff.mp alive).1]
  have spared := List.filter_eq_nil_iff.mp none id living
  simpa using spared

theorem tidy_collect (graph : Graph) : graph.collect.Tidy :=
  tidy_of_doomed_eq_nil (doomed_collect graph)

theorem Coherent.mem_liveSinks_iff {graph : Graph} (coherent : graph.Coherent)
    {input output : PortId} :
    input ∈ graph.liveSinks output ↔
      graph.portAlive input = true ∧ (graph.port input).source = some output := by
  rw [mem_liveSinks]
  constructor
  · rintro ⟨member, alive⟩
    exact ⟨alive, coherent.answered output input member⟩
  · rintro ⟨alive, linked⟩
    exact ⟨coherent.listed input output alive linked, alive⟩

/-! ### Changes of values -/

/-- Two states of one graph with the same handles and living links. Lists may have lost their dead
entries; values, constants and labels may differ. -/
structure SameLinks (before after : Graph) : Prop where
  shape : before.SameShape after
  held : ∀ id, (after.node id).held = (before.node id).held
  freed : ∀ id, (after.node id).freed = (before.node id).freed
  saved : ∀ id, (after.port id).saved = (before.port id).saved
  source : ∀ id, (after.port id).source = (before.port id).source
  sinks : ∀ id, (after.port id).sinks = (before.port id).sinks ∨
    (after.port id).sinks = before.liveSinks id

namespace SameLinks

theorem refl (graph : Graph) : graph.SameLinks graph where
  shape := .refl graph
  held _ := rfl
  freed _ := rfl
  saved _ := rfl
  source _ := rfl
  sinks _ := Or.inl rfl

variable {before after : Graph}

theorem nodeAlive (same : before.SameLinks after) (id : NodeId) :
    after.nodeAlive id = before.nodeAlive id :=
  nodeAlive_congr same.shape.nodes_size (same.freed id)

theorem portAlive (same : before.SameLinks after) (id : PortId) :
    after.portAlive id = before.portAlive id :=
  portAlive_congr (same.saved id) (same.shape.port id).attached (same.shape.port id).owner
    (same.nodeAlive _)

theorem liveSinks (same : before.SameLinks after) (output : PortId) :
    after.liveSinks output = before.liveSinks output := by
  have alive : after.portAlive = before.portAlive := funext same.portAlive
  unfold Graph.liveSinks
  rw [alive]
  rcases same.sinks output with kept | tidied
  · rw [kept]
  · rw [tidied]
    simp [Graph.liveSinks]

theorem trans {third : Graph} (earlier : before.SameLinks after) (later : after.SameLinks third) :
    before.SameLinks third where
  shape := earlier.shape.trans later.shape
  held id := (later.held id).trans (earlier.held id)
  freed id := (later.freed id).trans (earlier.freed id)
  saved id := (later.saved id).trans (earlier.saved id)
  source id := (later.source id).trans (earlier.source id)
  sinks id := by
    rcases later.sinks id with kept | tidied
    · rw [kept]
      exact earlier.sinks id
    · right
      rw [tidied, earlier.liveSinks]

theorem sourceNode? (same : before.SameLinks after) (input : PortId) :
    after.sourceNode? input = before.sourceNode? input := by
  unfold Graph.sourceNode?
  rw [same.source]
  congr 1
  funext output
  simp only [(same.shape.port output).owner, same.nodeAlive]

theorem kept (same : before.SameLinks after) (id : NodeId) : after.kept id = before.kept id := by
  unfold Graph.kept
  rw [same.held, (same.shape.node id).outputs]
  congr 2
  funext output
  have entries : (after.port output).sinks.any (fun sink =>
        after.portAlive sink && (after.port sink).owner != id) =
      (after.port output).sinks.any fun sink =>
        before.portAlive sink && (before.port sink).owner != id := by
    congr 1
    funext sink
    rw [same.portAlive, (same.shape.port sink).owner]
  rw [entries]
  rcases same.sinks output with kept | tidied
  · rw [kept]
  · rw [tidied, Graph.liveSinks, List.any_filter]
    congr 1
    funext sink
    cases before.portAlive sink <;> simp

theorem tidy (same : before.SameLinks after) (tidy : before.Tidy) : after.Tidy := by
  intro id alive
  rw [same.nodeAlive] at alive
  rw [same.kept]
  exact tidy id alive

end SameLinks

theorem Coherent.of_sameLinks {before after : Graph} (coherent : before.Coherent)
    (same : before.SameLinks after) : after.Coherent where
  joins input output linked := by
    rw [same.source] at linked
    rw [(same.shape.port input).direction, (same.shape.port output).direction,
      (same.shape.port input).kind, (same.shape.port output).kind,
      (same.shape.port output).attached]
    exact coherent.joins input output linked
  listed input output alive linked := by
    rw [same.portAlive] at alive
    rw [same.source] at linked
    have member := coherent.listed input output alive linked
    rcases same.sinks output with kept | tidied
    · rwa [kept]
    · rw [tidied]
      exact mem_liveSinks.mpr ⟨member, alive⟩
  answered output input member := by
    rw [same.source]
    apply coherent.answered output input
    rcases same.sinks output with kept | tidied
    · rwa [kept] at member
    · rw [tidied] at member
      exact (mem_liveSinks.mp member).1
  once output := by
    rcases same.sinks output with kept | tidied
    · rw [kept]
      exact coherent.once output
    · rw [tidied]
      exact (coherent.once output).filter _
  fed input output alive linked differs := by
    rw [same.portAlive] at alive
    rw [same.source] at linked
    rw [(same.shape.port output).owner, (same.shape.port input).owner] at differs
    rw [(same.shape.port output).owner, same.nodeAlive]
    exact coherent.fed input output alive linked differs
  held id handles := by
    rw [same.held] at handles
    rw [same.nodeAlive]
    exact coherent.held id handles

theorem sameLinks_modifyNode {graph : Graph} {id : NodeId} {change : Node → Node}
    (keeps : (graph.node id).SameShape (change (graph.node id)))
    (held : (change (graph.node id)).held = (graph.node id).held)
    (freed : (change (graph.node id)).freed = (graph.node id).freed) :
    graph.SameLinks (graph.modifyNode id change) where
  shape := (SameShape.refl graph).modifyNode keeps
  held other := by
    rw [node_modifyNode]
    split
    · rename_i changed
      rw [changed.1, held]
    · rfl
  freed other := by
    rw [node_modifyNode]
    split
    · rename_i changed
      rw [changed.1, freed]
    · rfl
  saved _ := rfl
  source _ := rfl
  sinks _ := Or.inl rfl

theorem sameLinks_rename (graph : Graph) (id : NodeId) (displayName : String) :
    graph.SameLinks (graph.rename id displayName) :=
  sameLinks_modifyNode ⟨rfl, rfl, rfl, rfl, .refl _⟩ rfl rfl

/-- A constant that publishes another value of its kind is the same node. -/
theorem sameLinks_setConstant {graph : Graph} {id : NodeId} {value : Value}
    (kind : (graph.constantValue? id).map (·.kind) = some value.kind) :
    graph.SameLinks (graph.setConstant id value) := by
  unfold constantValue? at kind
  cases behaviour : (graph.node id).behaviour with
  | constant before =>
      simp only [behaviour, Option.map_some, Option.some.injEq] at kind
      apply sameLinks_modifyNode
      · refine ⟨?_, ?_, ?_, ?_, ?_⟩ <;> rw [behaviour]
        exact .constant kind.symm
      · rw [behaviour]
      · rw [behaviour]
  | formula formula =>
      rw [behaviour] at kind
      cases kind
  | custom rule =>
      rw [behaviour] at kind
      cases kind

theorem sameLinks_assign (graph : Graph) (id : PortId) (value : Value) :
    graph.SameLinks (graph.assign id value) := by
  have port (other : PortId) : (graph.assign id value).port other = graph.port other ∨
      (graph.assign id value).port other = (graph.port other).store value :=
    port_modifyPort_cases graph id other _
  constructor
  · exact (SameShape.refl graph).modifyPort fun port => port.sameShape_store value
  · exact fun _ => rfl
  · exact fun _ => rfl
  · intro other
    rcases port other with same | changed
    · rw [same]
    · rw [changed, Port.store_eq]
  · intro other
    rcases port other with same | changed
    · rw [same]
    · rw [changed, Port.store_eq]
  · intro other
    left
    rcases port other with same | changed
    · rw [same]
    · rw [changed, Port.store_eq]

theorem sameLinks_publish (graph : Graph) (output : PortId) (value : Value) :
    graph.SameLinks (graph.publish output value) := by
  have port (id : PortId) : id < graph.ports.size ∨
      (graph.publish output value).port id = graph.port id := by
    rcases Nat.lt_or_ge id graph.ports.size with made | beyond
    · exact Or.inl made
    · right
      rw [port_of_size_le beyond, port_of_size_le]
      rwa [(sameShape_publish graph output value).ports_size]
  constructor
  · exact sameShape_publish graph output value
  · intro id
    simp [node]
  · intro id
    simp [node]
  · intro id
    rcases port id with made | same
    · rw [port_publish value made]
    · rw [same]
  · intro id
    rcases port id with made | same
    · rw [port_publish value made]
    · rw [same]
  · intro id
    rcases port id with made | same
    · rw [port_publish value made]
      by_cases isOutput : id = output
      · subst isOutput
        exact Or.inr (if_pos rfl)
      · exact Or.inl (if_neg isOutput)
    · exact Or.inl (by rw [same])

end DemandFlow.Graph
