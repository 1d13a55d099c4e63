import DemandFlow.Proofs.Graph.Coherence
import DemandFlow.Proofs.Graph.Making

/-!
Contract: what is freed, and what handles hold.

Owns: the preservation of the agreement between the sides of links by collections, and by handles
that are taken and given back.

Main statement: what a collection frees is never the source of a living input of another node, so
it keeps the agreement (`Coherent.collect`).

Does not own: how long a node lives in the end (`Proofs.History.Retention`).
-/

namespace DemandFlow.Graph

/-! ### Collections -/

/-- To free nodes changes nothing else of any node. -/
theorem node_free (graph : Graph) (ids : List NodeId) (id : NodeId) :
    ∃ freed, (graph.free ids).node id = { graph.node id with freed } := by
  unfold free
  induction ids generalizing graph with
  | nil => exact ⟨_, rfl⟩
  | cons first rest inductionHypothesis =>
      obtain ⟨freed, later⟩ := inductionHypothesis
        (graph.modifyNode first fun node => { node with freed := true })
      refine ⟨freed, ?_⟩
      rw [List.foldl_cons, later, node_modifyNode]
      split
      · rename_i changed
        rw [changed.1]
      · rfl

theorem held_free (graph : Graph) (ids : List NodeId) (id : NodeId) :
    ((graph.free ids).node id).held = (graph.node id).held := by
  obtain ⟨freed, same⟩ := graph.node_free ids id
  rw [same]

theorem node_collect (graph : Graph) (id : NodeId) :
    ∃ freed, graph.collect.node id = { graph.node id with freed } := by
  have within (rounds : Nat) (graph : Graph) :
      ∃ freed, (collectWithin rounds graph).node id = { graph.node id with freed } := by
    induction rounds generalizing graph with
    | zero => exact ⟨_, rfl⟩
    | succ rounds inductionHypothesis =>
        unfold collectWithin
        split
        · exact ⟨_, rfl⟩
        · obtain ⟨freed, later⟩ := inductionHypothesis (graph.free graph.doomed)
          obtain ⟨first, earlier⟩ := graph.node_free graph.doomed id
          rw [later, earlier]
          exact ⟨freed, rfl⟩
  exact within graph.nodes.size graph

theorem nodeAlive_free (graph : Graph) (ids : List NodeId) (id : NodeId) :
    (graph.free ids).nodeAlive id = true ↔ graph.nodeAlive id = true ∧ id ∉ ids := by
  rw [nodeAlive_iff, nodeAlive_iff, nodes_size_free]
  constructor
  · rintro ⟨bound, notFreed⟩
    rw [freed_free graph ids bound] at notFreed
    simpa [bound] using notFreed
  · rintro ⟨⟨bound, notFreed⟩, spared⟩
    rw [freed_free graph ids bound]
    simp [bound, notFreed, spared]

theorem port_free (graph : Graph) (ids : List NodeId) (id : PortId) :
    (graph.free ids).port id = graph.port id := by
  simp [port]

theorem portAlive_of_free {graph : Graph} {ids : List NodeId} {id : PortId}
    (alive : (graph.free ids).portAlive id = true) : graph.portAlive id = true := by
  rw [portAlive_iff, port_free, nodeAlive_free] at alive
  rw [portAlive_iff]
  rcases alive with saved | ⟨attached, owner, -⟩
  · exact Or.inl saved
  · exact Or.inr ⟨attached, owner⟩

theorem not_mem_doomed {graph : Graph} {id : NodeId} (kept : graph.kept id = true) :
    id ∉ graph.doomed := by
  intro doomed
  have notKept := (List.mem_filter.mp doomed).2
  simp [kept] at notKept

/-- A living input of another node keeps the node that it is linked to. -/
theorem Coherent.kept_of_linked {admitted : Blueprint → Prop} {graph : Graph}
    (coherent : graph.Coherent) (shaped : graph.Shaped admitted) {input output : PortId}
    (alive : graph.portAlive input = true) (linked : (graph.port input).source = some output)
    (differs : (graph.port output).owner ≠ (graph.port input).owner) :
    graph.kept (graph.port output).owner = true := by
  obtain ⟨-, direction, -, attached⟩ := coherent.joins input output linked
  have isOutput := (shaped.listed output attached).2
  rw [direction] at isOutput
  exact kept_iff.mpr (Or.inr ⟨output, isOutput, input, coherent.listed input output alive linked,
    alive, fun same => differs same.symm⟩)

/-- Freeing what nothing keeps takes no source from a living input of another node. -/
theorem Coherent.free_doomed {admitted : Blueprint → Prop} {graph : Graph}
    (coherent : graph.Coherent) (shaped : graph.Shaped admitted) :
    (graph.free graph.doomed).Coherent where
  joins input output linked := by
    rw [port_free] at linked ⊢
    rw [port_free]
    exact coherent.joins input output linked
  listed input output alive linked := by
    rw [port_free] at linked ⊢
    exact coherent.listed input output (portAlive_of_free alive) linked
  answered output input member := by
    rw [port_free] at member ⊢
    exact coherent.answered output input member
  once output := by
    rw [port_free]
    exact coherent.once output
  fed input output alive linked differs := by
    rw [port_free] at linked differs ⊢
    rw [port_free] at differs
    have inputAlive := portAlive_of_free alive
    rw [nodeAlive_free]
    exact ⟨coherent.fed input output inputAlive linked differs,
      not_mem_doomed (coherent.kept_of_linked shaped inputAlive linked differs)⟩
  held id positive := by
    rw [held_free] at positive
    rw [nodeAlive_free]
    exact ⟨coherent.held id positive, not_mem_doomed (kept_iff.mpr (Or.inl positive))⟩

theorem Coherent.collectWithin {admitted : Blueprint → Prop} (rounds : Nat) {graph : Graph}
    (coherent : graph.Coherent) (shaped : graph.Shaped admitted) :
    (collectWithin rounds graph).Coherent := by
  induction rounds generalizing graph with
  | zero => exact coherent
  | succ rounds inductionHypothesis =>
      unfold Graph.collectWithin
      split
      · exact coherent
      · exact inductionHypothesis (coherent.free_doomed shaped)
          (shaped.of_sameShape (sameShape_free graph _))

theorem Coherent.collect {admitted : Blueprint → Prop} {graph : Graph}
    (coherent : graph.Coherent) (shaped : graph.Shaped admitted) : graph.collect.Coherent :=
  coherent.collectWithin _ shaped

theorem nodeAlive_of_collectWithin {rounds : Nat} {graph : Graph} {id : NodeId}
    (alive : (Graph.collectWithin rounds graph).nodeAlive id = true) :
    graph.nodeAlive id = true := by
  induction rounds generalizing graph with
  | zero => exact alive
  | succ rounds inductionHypothesis =>
      unfold Graph.collectWithin at alive
      split at alive
      · exact alive
      · exact ((nodeAlive_free graph _ id).mp (inductionHypothesis alive)).1

/-- A collection brings no node back. -/
theorem nodeAlive_of_collect {graph : Graph} {id : NodeId}
    (alive : graph.collect.nodeAlive id = true) : graph.nodeAlive id = true :=
  nodeAlive_of_collectWithin alive

/-- A collection brings no port back. -/
theorem portAlive_of_collect {graph : Graph} {id : PortId}
    (alive : graph.collect.portAlive id = true) : graph.portAlive id = true := by
  rw [portAlive_iff, port_collect] at alive
  rw [portAlive_iff]
  rcases alive with saved | ⟨attached, owner⟩
  · exact Or.inl saved
  · exact Or.inr ⟨attached, nodeAlive_of_collect owner⟩

/-! ### Handles -/

/-- Two states of one graph that differ at most in their handles. -/
structure Rehandled (before after : Graph) : Prop where
  shape : before.SameShape after
  freed : ∀ id, (after.node id).freed = (before.node id).freed
  source : ∀ id, (after.port id).source = (before.port id).source
  sinks : ∀ id, (after.port id).sinks = (before.port id).sinks

namespace Rehandled

variable {before after : Graph}

theorem nodeAlive (rehandled : before.Rehandled after) (id : NodeId) :
    after.nodeAlive id = before.nodeAlive id :=
  nodeAlive_congr rehandled.shape.nodes_size (rehandled.freed id)

theorem portAlive_iff (rehandled : before.Rehandled after) (id : PortId) :
    after.portAlive id = true ↔
      0 < (after.port id).saved ∨
        (before.port id).attached = true ∧ before.nodeAlive (before.port id).owner = true := by
  rw [Graph.portAlive_iff, (rehandled.shape.port id).attached, (rehandled.shape.port id).owner,
    rehandled.nodeAlive]

/-- With no more handles on nodes and ports, no port is brought back. -/
theorem portAlive_of_saved_le (rehandled : before.Rehandled after) {id : PortId}
    (saved : (after.port id).saved ≤ (before.port id).saved)
    (alive : after.portAlive id = true) : before.portAlive id = true := by
  rw [rehandled.portAlive_iff] at alive
  rw [Graph.portAlive_iff]
  rcases alive with positive | attached
  · exact Or.inl (Nat.lt_of_lt_of_le positive saved)
  · exact Or.inr attached

/-- The sides stay in step if no freed node and no freed input is taken up again. -/
theorem coherent (rehandled : before.Rehandled after) (coherent : before.Coherent)
    (ports : ∀ input output, (before.port input).source = some output →
      after.portAlive input = true → before.portAlive input = true)
    (nodes : ∀ id, 0 < (after.node id).held → before.nodeAlive id = true) : after.Coherent where
  joins input output linked := by
    rw [rehandled.source] at linked
    rw [(rehandled.shape.port input).direction, (rehandled.shape.port output).direction,
      (rehandled.shape.port input).kind, (rehandled.shape.port output).kind,
      (rehandled.shape.port output).attached]
    exact coherent.joins input output linked
  listed input output alive linked := by
    rw [rehandled.source] at linked
    rw [rehandled.sinks]
    exact coherent.listed input output (ports input output linked alive) linked
  answered output input member := by
    rw [rehandled.sinks] at member
    rw [rehandled.source]
    exact coherent.answered output input member
  once output := by
    rw [rehandled.sinks]
    exact coherent.once output
  fed input output alive linked differs := by
    rw [rehandled.source] at linked
    rw [(rehandled.shape.port output).owner, (rehandled.shape.port input).owner] at differs
    rw [(rehandled.shape.port output).owner, rehandled.nodeAlive]
    exact coherent.fed input output (ports input output linked alive) linked differs
  held id positive := by
    rw [rehandled.nodeAlive]
    exact nodes id positive

/-- With more handles, what was kept is kept. -/
theorem tidy (rehandled : before.Rehandled after) (tidy : before.Tidy)
    (held : ∀ id, (before.node id).held ≤ (after.node id).held)
    (saved : ∀ id, (before.port id).saved ≤ (after.port id).saved) : after.Tidy := by
  intro id alive
  rw [rehandled.nodeAlive] at alive
  rcases kept_iff.mp (tidy id alive) with handle | ⟨output, isOutput, sink, listed, kept, differs⟩
  · exact kept_iff.mpr (Or.inl (Nat.lt_of_lt_of_le handle (held id)))
  · refine kept_iff.mpr (Or.inr ⟨output, ?_, sink, ?_, ?_, ?_⟩)
    · rwa [(rehandled.shape.node id).outputs]
    · rwa [rehandled.sinks]
    · rw [rehandled.portAlive_iff]
      rcases Graph.portAlive_iff.mp kept with positive | attached
      · exact Or.inl (Nat.lt_of_lt_of_le positive (saved sink))
      · exact Or.inr attached
    · rwa [(rehandled.shape.port sink).owner]

end Rehandled

theorem rehandled_modifyNode (graph : Graph) (id : NodeId) (change : Nat → Nat) :
    graph.Rehandled (graph.modifyNode id fun node => { node with held := change node.held }) where
  shape := (SameShape.refl graph).modifyNode ⟨rfl, rfl, rfl, rfl, .refl _⟩
  freed other := by
    rcases node_modifyNode_cases graph id other _ with same | changed
    · rw [same]
    · rw [changed]
  source _ := rfl
  sinks _ := rfl

theorem rehandled_modifyPort (graph : Graph) (id : PortId) (change : Nat → Nat) :
    graph.Rehandled
      (graph.modifyPort id fun port => { port with saved := change port.saved }) where
  shape := (SameShape.refl graph).modifyPort fun _ => ⟨rfl, rfl, rfl, rfl, rfl, rfl⟩
  freed _ := rfl
  source other := by
    rcases port_modifyPort_cases graph id other _ with same | changed
    · rw [same]
    · rw [changed]
  sinks other := by
    rcases port_modifyPort_cases graph id other _ with same | changed
    · rw [same]
    · rw [changed]

/-- Only the port that a handle is taken on can come alive by it. -/
theorem portAlive_of_save {graph : Graph} {id other : PortId}
    (alive : (graph.save id).portAlive other = true) :
    other = id ∨ graph.portAlive other = true := by
  by_cases same : other = id
  · exact Or.inl same
  · have unchanged : (graph.save id).port other = graph.port other := by
      rw [save, port_modifyPort, if_neg fun both => same both.1]
    rw [portAlive_iff, unchanged] at alive
    exact Or.inr (portAlive_iff.mpr alive)

theorem saved_unsave_le (graph : Graph) (id other : PortId) :
    ((graph.modifyPort id fun port => { port with saved := port.saved - 1 }).port other).saved ≤
      (graph.port other).saved := by
  rcases port_modifyPort_cases graph id other _ with same | changed
  · exact Nat.le_of_eq (by rw [same])
  · rw [changed]
    exact Nat.sub_le _ _

theorem Coherent.hold {graph : Graph} (coherent : graph.Coherent) {id : NodeId}
    (alive : graph.nodeAlive id = true) : (graph.hold id).Coherent := by
  have rehandled := rehandled_modifyNode graph id (· + 1)
  apply rehandled.coherent coherent
  · intro input output _ inputAlive
    exact portAlive_iff.mpr ((rehandled.portAlive_iff input).mp inputAlive)
  · intro other positive
    rw [node_modifyNode] at positive
    split at positive
    · rename_i changed
      rw [changed.1]
      exact alive
    · exact coherent.held other positive

theorem tidy_hold {graph : Graph} (tidy : graph.Tidy) (id : NodeId) : (graph.hold id).Tidy := by
  apply (rehandled_modifyNode graph id (· + 1)).tidy tidy
  · intro other
    rcases node_modifyNode_cases graph id other _ with same | changed
    · exact Nat.le_of_eq (by rw [same])
    · rw [changed]
      exact Nat.le_succ _
  · exact fun _ => Nat.le_refl _

theorem Coherent.save {graph : Graph} (coherent : graph.Coherent) {id : PortId}
    (alive : ∀ output, (graph.port id).source = some output → graph.portAlive id = true) :
    (graph.save id).Coherent := by
  apply (rehandled_modifyPort graph id (· + 1)).coherent coherent
  · intro input output linked inputAlive
    rcases portAlive_of_save inputAlive with rfl | aliveBefore
    · exact alive output linked
    · exact aliveBefore
  · exact coherent.held

theorem tidy_save {graph : Graph} (tidy : graph.Tidy) (id : PortId) : (graph.save id).Tidy := by
  apply (rehandled_modifyPort graph id (· + 1)).tidy tidy
  · exact fun _ => Nat.le_refl _
  · intro other
    rcases port_modifyPort_cases graph id other _ with same | changed
    · exact Nat.le_of_eq (by rw [same])
    · rw [changed]
      exact Nat.le_succ _

theorem Coherent.release {admitted : Blueprint → Prop} {graph : Graph}
    (coherent : graph.Coherent) (shaped : graph.Shaped admitted) (id : NodeId) :
    (graph.release id).Coherent := by
  have rehandled := rehandled_modifyNode graph id (· - 1)
  refine Coherent.collect (rehandled.coherent coherent ?_ ?_) (shaped.of_sameShape rehandled.shape)
  · intro input output _ inputAlive
    exact portAlive_iff.mpr ((rehandled.portAlive_iff input).mp inputAlive)
  · intro other positive
    apply coherent.held other
    rcases node_modifyNode_cases graph id other _ with same | changed
    · rwa [same] at positive
    · rw [changed] at positive
      exact Nat.lt_of_lt_of_le positive (Nat.sub_le _ _)

theorem Coherent.discard {admitted : Blueprint → Prop} {graph : Graph}
    (coherent : graph.Coherent) (shaped : graph.Shaped admitted) (id : PortId) :
    (graph.discard id).Coherent := by
  have rehandled := rehandled_modifyPort graph id (· - 1)
  refine Coherent.collect (rehandled.coherent coherent ?_ ?_) (shaped.of_sameShape rehandled.shape)
  · intro input output _ inputAlive
    exact rehandled.portAlive_of_saved_le (saved_unsave_le graph id input) inputAlive
  · exact coherent.held

end DemandFlow.Graph
