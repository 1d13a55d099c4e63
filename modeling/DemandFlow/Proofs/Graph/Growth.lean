import DemandFlow.Proofs.Graph.Coherence
import DemandFlow.Proofs.Graph.Making

/-!
Contract: new nodes and new ports.

Owns: what a graph that has grown shares with the graph before, and the preservation of the
agreement between the sides of links.

Main statements: `extends_add`, `extends_addLoose`, `Extends.coherent`, `Extends.tidy`.

Does not own: the shapes of new nodes (`Proofs.Graph.Making`).
-/

namespace DemandFlow.Graph

/-- The later graph has all that the earlier has, as it was, and beyond that only nodes with a
handle and ports without links. -/
structure Extends (before after : Graph) : Prop where
  nodes_size : before.nodes.size ≤ after.nodes.size
  node : ∀ id, id < before.nodes.size → after.node id = before.node id
  port : ∀ id, id < before.ports.size → after.port id = before.port id
  newNode : ∀ id, before.nodes.size ≤ id →
    (after.nodeAlive id = true ↔ 0 < (after.node id).held)
  newPort : ∀ id, before.ports.size ≤ id →
    (after.port id).source = none ∧ (after.port id).sinks = []

namespace Extends

variable {before after : Graph}

theorem source (grown : before.Extends after) (id : PortId) :
    (after.port id).source = (before.port id).source := by
  rcases Nat.lt_or_ge id before.ports.size with old | new
  · rw [grown.port id old]
  · rw [(grown.newPort id new).1, port_of_size_le new]
    rfl

theorem sinks (grown : before.Extends after) (id : PortId) :
    (after.port id).sinks = (before.port id).sinks := by
  rcases Nat.lt_or_ge id before.ports.size with old | new
  · rw [grown.port id old]
  · rw [(grown.newPort id new).2, port_of_size_le new]
    rfl

theorem nodeAlive (grown : before.Extends after) {id : NodeId} (old : id < before.nodes.size) :
    after.nodeAlive id = before.nodeAlive id := by
  simp [Graph.nodeAlive, old, Nat.lt_of_lt_of_le old grown.nodes_size, grown.node id old]

theorem portAlive (grown : before.Extends after) {admitted : Blueprint → Prop}
    (shaped : before.Shaped admitted) {id : PortId} (old : id < before.ports.size) :
    after.portAlive id = before.portAlive id := by
  unfold Graph.portAlive
  rw [grown.port id old]
  cases attached : (before.port id).attached with
  | false => rfl
  | true => rw [grown.nodeAlive (shaped.listed id attached).1]

theorem coherent (grown : before.Extends after) {admitted : Blueprint → Prop}
    (shaped : before.Shaped admitted) (coherent : before.Coherent) : after.Coherent where
  joins input output linked := by
    rw [grown.source] at linked
    have joins := coherent.joins input output linked
    rw [grown.port input (port_lt_of_source linked),
      grown.port output (port_lt_of_attached joins.2.2.2)]
    exact joins
  listed input output alive linked := by
    rw [grown.source] at linked
    rw [grown.portAlive shaped (port_lt_of_source linked)] at alive
    rw [grown.sinks]
    exact coherent.listed input output alive linked
  answered output input member := by
    rw [grown.sinks] at member
    rw [grown.source]
    exact coherent.answered output input member
  once output := by
    rw [grown.sinks]
    exact coherent.once output
  fed input output alive linked differs := by
    rw [grown.source] at linked
    have attached := (coherent.joins input output linked).2.2.2
    have inputMade := port_lt_of_source linked
    have outputMade := port_lt_of_attached attached
    rw [grown.portAlive shaped inputMade] at alive
    rw [grown.port output outputMade, grown.port input inputMade] at differs
    rw [grown.port output outputMade, grown.nodeAlive (shaped.listed output attached).1]
    exact coherent.fed input output alive linked differs
  held id positive := by
    rcases Nat.lt_or_ge id before.nodes.size with old | new
    · rw [grown.node id old] at positive
      rw [grown.nodeAlive old]
      exact coherent.held id positive
    · exact (grown.newNode id new).mpr positive

theorem tidy (grown : before.Extends after) {admitted : Blueprint → Prop}
    (shaped : before.Shaped admitted) (coherent : before.Coherent) (tidy : before.Tidy) :
    after.Tidy := by
  intro id alive
  rcases Nat.lt_or_ge id before.nodes.size with old | new
  · rw [grown.nodeAlive old] at alive
    rcases kept_iff.mp (tidy id alive) with held | ⟨output, isOutput, sink, listed, kept, differs⟩
    · exact kept_iff.mpr (Or.inl (by rwa [grown.node id old]))
    · have sinkMade := port_lt_of_source (coherent.answered output sink listed)
      refine kept_iff.mpr (Or.inr ⟨output, ?_, sink, ?_, ?_, ?_⟩)
      · rwa [grown.node id old]
      · rwa [grown.sinks]
      · rwa [grown.portAlive shaped sinkMade]
      · rwa [grown.port sink sinkMade]
  · exact kept_iff.mpr (Or.inl ((grown.newNode id new).mp alive))

end Extends

theorem extends_add (graph : Graph) (plan : Blueprint) (displayName : String) :
    graph.Extends (graph.add plan displayName).1 where
  nodes_size := by
    rw [nodes_size_add]
    exact Nat.le_succ _
  node _ old := node_add_old graph plan displayName old
  port _ old := port_add_old graph plan displayName old
  newNode id new := by
    rw [nodeAlive_iff, nodes_size_add]
    rcases Nat.eq_or_lt_of_le new with same | beyond
    · subst same
      simp [node, add, Array.getD]
    · rw [node_of_size_le (by rw [nodes_size_add]; exact beyond)]
      constructor
      · rintro ⟨bound, -⟩
        exact absurd bound (Nat.not_lt.mpr beyond)
      · intro positive
        cases positive
  newPort id new := by
    unfold port
    rw [ports_add, Array.getD_eq_getD_getElem?, Array.getElem?_append_right new]
    cases found : plan.ports[id - graph.ports.size]? with
    | none =>
        simp [found]
        exact ⟨rfl, rfl⟩
    | some port => simp [found, PortPlan.toPort]

theorem extends_addLoose (graph : Graph) (plan : PortPlan) (owner : NodeId) :
    graph.Extends (graph.addLoose plan owner).1 where
  nodes_size := Nat.le_refl _
  node _ _ := rfl
  port _ old := port_addLoose_old graph plan owner old
  newNode id new := by
    have unmade : (graph.addLoose plan owner).1.node id = default := node_of_size_le new
    rw [nodeAlive_iff, unmade]
    constructor
    · rintro ⟨bound, -⟩
      exact absurd bound (Nat.not_lt.mpr new)
    · intro positive
      cases positive
  newPort id new := by
    rcases Nat.eq_or_lt_of_le new with same | beyond
    · rw [← same, port_addLoose_new]
      exact ⟨rfl, rfl⟩
    · have unmade : (graph.addLoose plan owner).1.port id = default := by
        apply port_of_size_le
        simpa [addLoose] using Nat.succ_le_of_lt beyond
      rw [unmade]
      exact ⟨rfl, rfl⟩

end DemandFlow.Graph
