import DemandFlow.Proofs.Graph.Coherence

/-!
Contract: linking and clearing keep the two sides of every link in step.

Owns: the preservation of the agreement when an input or an output is cleared, and when an input
takes a source.

Main statements: `Coherent.clearSource`, `Coherent.clearSinks`, `Coherent.relink`.

Does not own: what is freed afterwards (`Proofs.Graph.Collection`).
-/

namespace DemandFlow.Graph

/-! ### Fewer links -/

theorem nodeAlive_of_nodes {before after : Graph} (nodes : after.nodes = before.nodes)
    (id : NodeId) : after.nodeAlive id = before.nodeAlive id := by
  simp [nodeAlive, node, nodes]

/-- Links may go as long as nothing is freed, and as long as each input that goes from a list has
lost its source. -/
theorem Coherent.of_fewer {before after : Graph} (coherent : before.Coherent)
    (shape : before.SameShape after) (nodes : after.nodes = before.nodes)
    (ports : ∀ id, after.portAlive id = before.portAlive id)
    (sources : ∀ input output, (after.port input).source = some output →
      (before.port input).source = some output)
    (sinks : ∀ output, (after.port output).sinks.Sublist (before.port output).sinks)
    (listed : ∀ input output, after.portAlive input = true →
      (after.port input).source = some output → input ∈ (after.port output).sinks)
    (answered : ∀ output input, input ∈ (after.port output).sinks →
      (after.port input).source = (before.port input).source) : after.Coherent where
  joins input output linked := by
    rw [(shape.port input).direction, (shape.port output).direction, (shape.port input).kind,
      (shape.port output).kind, (shape.port output).attached]
    exact coherent.joins input output (sources input output linked)
  listed := listed
  answered output input member := by
    rw [answered output input member]
    exact coherent.answered output input ((sinks output).subset member)
  once output := (sinks output).nodup (coherent.once output)
  fed input output alive linked differs := by
    rw [ports] at alive
    rw [(shape.port output).owner, (shape.port input).owner] at differs
    rw [(shape.port output).owner, nodeAlive_of_nodes nodes]
    exact coherent.fed input output alive (sources input output linked) differs
  held id positive := by
    rw [node, nodes] at positive
    rw [nodeAlive_of_nodes nodes]
    exact coherent.held id positive

theorem portAlive_modifyPort (graph : Graph) (id other : PortId) {change : Port → Port}
    (keeps : ∀ port : Port, (change port).saved = port.saved ∧
      (change port).attached = port.attached ∧ (change port).owner = port.owner) :
    (graph.modifyPort id change).portAlive other = graph.portAlive other := by
  have port : ((graph.modifyPort id change).port other).saved = (graph.port other).saved ∧
      ((graph.modifyPort id change).port other).attached = (graph.port other).attached ∧
      ((graph.modifyPort id change).port other).owner = (graph.port other).owner := by
    rw [port_modifyPort]
    split
    · rename_i changed
      rw [changed.1]
      exact keeps _
    · exact ⟨rfl, rfl, rfl⟩
  exact portAlive_congr port.1 port.2.1 port.2.2 rfl

@[simp]
theorem portAlive_clearSource (graph : Graph) (input id : PortId) :
    (graph.clearSource input).portAlive id = graph.portAlive id := by
  apply portAlive_congr
  · rw [port_clearSource]
  · rw [port_clearSource]
  · rw [port_clearSource]
  · exact nodeAlive_of_nodes (nodes_clearSource graph input) _

@[simp]
theorem portAlive_clearSinks (graph : Graph) (output id : PortId) :
    (graph.clearSinks output).portAlive id = graph.portAlive id := by
  apply portAlive_congr
  · rw [port_clearSinks]
  · rw [port_clearSinks]
  · rw [port_clearSinks]
  · exact nodeAlive_of_nodes (nodes_clearSinks graph output) _

theorem Coherent.clearSource {graph : Graph} (coherent : graph.Coherent) (input : PortId) :
    (graph.clearSource input).Coherent := by
  have source (id : PortId) : ((graph.clearSource input).port id).source =
      if id = input then none else (graph.port id).source := by
    rw [port_clearSource]
  have sinks (id : PortId) : ((graph.clearSource input).port id).sinks =
      if (graph.port input).source = some id then (graph.liveSinks id).filter (· != input)
      else (graph.port id).sinks := by
    rw [port_clearSource]
  refine coherent.of_fewer (sameShape_clearSource graph input) (nodes_clearSource graph input)
    (portAlive_clearSource graph input) ?_ ?_ ?_ ?_
  · intro other output linked
    rw [source] at linked
    split at linked
    · cases linked
    · exact linked
  · intro output
    rw [sinks]
    split
    · exact List.filter_sublist.trans List.filter_sublist
    · exact List.Sublist.refl _
  · intro other output alive linked
    rw [portAlive_clearSource] at alive
    rw [source] at linked
    rw [sinks]
    split at linked
    · cases linked
    · rename_i differs
      have member := coherent.listed other output alive linked
      split
      · rw [List.mem_filter]
        exact ⟨mem_liveSinks.mpr ⟨member, alive⟩, by simpa using differs⟩
      · exact member
  · intro output other member
    rw [sinks] at member
    rw [source]
    apply if_neg
    rintro rfl
    -- The cleared input stands in no list: the only one that had it is its source's.
    split at member
    · simp at member
    · rename_i unlinked
      exact unlinked (coherent.answered output other member)

theorem Coherent.clearSinks {graph : Graph} (coherent : graph.Coherent) (output : PortId) :
    (graph.clearSinks output).Coherent := by
  have source (id : PortId) : ((graph.clearSinks output).port id).source =
      if id ∈ graph.liveSinks output ∧ (graph.port id).source = some output then none
      else (graph.port id).source := by
    rw [port_clearSinks]
  have sinks (id : PortId) : ((graph.clearSinks output).port id).sinks =
      if id = output then [] else (graph.port id).sinks := by
    rw [port_clearSinks]
  refine coherent.of_fewer (sameShape_clearSinks graph output) (nodes_clearSinks graph output)
    (portAlive_clearSinks graph output) ?_ ?_ ?_ ?_
  · intro input other linked
    rw [source] at linked
    split at linked
    · cases linked
    · exact linked
  · intro id
    rw [sinks]
    split
    · exact List.nil_sublist _
    · exact List.Sublist.refl _
  · intro input other alive linked
    rw [portAlive_clearSinks] at alive
    rw [source] at linked
    split at linked
    · cases linked
    · rename_i stays
      rw [sinks, if_neg]
      · exact coherent.listed input other alive linked
      · rintro rfl
        exact stays ⟨coherent.mem_liveSinks_iff.mpr ⟨alive, linked⟩, linked⟩
  · intro other input member
    rw [sinks] at member
    rw [source]
    split at member
    · cases member
    · rename_i differs
      apply if_neg
      rintro ⟨-, linked⟩
      have answered := coherent.answered other input member
      rw [linked] at answered
      exact differs (Option.some.inj answered).symm

/-! ### A new link -/

theorem sameShape_attach (graph : Graph) (input output : PortId) :
    graph.SameShape (graph.attach input output) := by
  refine (SameShape.refl graph).modifyPort ?_ |>.modifyPort ?_
  · exact fun _ => ⟨rfl, rfl, rfl, rfl, rfl, rfl⟩
  · exact fun _ => ⟨rfl, rfl, rfl, rfl, rfl, rfl⟩

@[simp]
theorem portAlive_attach (graph : Graph) (input output id : PortId) :
    (graph.attach input output).portAlive id = graph.portAlive id := by
  unfold attach
  rw [portAlive_modifyPort, portAlive_modifyPort]
  · exact fun _ => ⟨rfl, rfl, rfl⟩
  · exact fun _ => ⟨rfl, rfl, rfl⟩

theorem Coherent.ne_of_unlinked {graph : Graph} (coherent : graph.Coherent) {input : PortId}
    (unlinked : (graph.port input).source = none) {output other : PortId}
    (member : other ∈ (graph.port output).sinks) : other ≠ input := by
  rintro rfl
  rw [coherent.answered output other member] at unlinked
  cases unlinked

theorem Coherent.attach {graph : Graph} (coherent : graph.Coherent) {input output : PortId}
    (unlinked : (graph.port input).source = none) (alive : graph.portAlive input = true)
    (feeds : graph.canFeed output = true) (incoming : (graph.port input).direction = .input)
    (outgoing : (graph.port output).direction = .output)
    (kind : (graph.port input).kind = (graph.port output).kind) :
    (graph.attach input output).Coherent := by
  obtain ⟨attached, ownerAlive⟩ := Bool.and_eq_true_iff.mp feeds
  have inputMade := port_lt_of_portAlive alive
  have outputMade := port_lt_of_attached attached
  have shape := sameShape_attach graph input output
  have source (id : PortId) : ((graph.attach input output).port id).source =
      if id = input then some output else (graph.port id).source := by
    rw [port_attach inputMade outputMade]
  have sinks (id : PortId) : ((graph.attach input output).port id).sinks =
      (graph.port id).sinks ++ if id = output then [input] else [] := by
    rw [port_attach inputMade outputMade]
  exact {
    joins other target linked := by
      rw [(shape.port other).direction, (shape.port target).direction, (shape.port other).kind,
        (shape.port target).kind, (shape.port target).attached]
      rw [source] at linked
      split at linked
      · rename_i same
        obtain rfl := Option.some.inj linked
        rw [same]
        exact ⟨incoming, outgoing, kind, attached⟩
      · exact coherent.joins other target linked
    listed other target otherAlive linked := by
      rw [portAlive_attach] at otherAlive
      rw [source] at linked
      rw [sinks, List.mem_append]
      split at linked
      · rename_i same
        obtain rfl := Option.some.inj linked
        rw [if_pos rfl, same]
        exact Or.inr (List.mem_singleton_self input)
      · exact Or.inl (coherent.listed other target otherAlive linked)
    answered target other member := by
      rw [source]
      rw [sinks, List.mem_append] at member
      rcases member with kept | added
      · rw [if_neg (coherent.ne_of_unlinked unlinked kept)]
        exact coherent.answered target other kept
      · split at added
        · rename_i same
          rw [List.mem_singleton.mp added, if_pos rfl, same]
        · cases added
    once target := by
      rw [sinks, List.nodup_append]
      refine ⟨coherent.once target, ?_, ?_⟩
      · split
        · exact List.pairwise_singleton _ input
        · exact List.nodup_nil
      · intro other kept another added
        split at added
        · rw [List.mem_singleton.mp added]
          exact coherent.ne_of_unlinked unlinked kept
        · cases added
    fed other target otherAlive linked differs := by
      rw [portAlive_attach] at otherAlive
      rw [(shape.port target).owner, (shape.port other).owner] at differs
      rw [(shape.port target).owner]
      rw [source] at linked
      split at linked
      · obtain rfl := Option.some.inj linked
        exact ownerAlive
      · exact coherent.fed other target otherAlive linked differs
    held := coherent.held }

/-- An input may take an output of its kind with a living owner as its source, in place of the one
that it has. -/
theorem Coherent.relink {graph : Graph} (coherent : graph.Coherent) {input output : PortId}
    (alive : graph.portAlive input = true) (feeds : graph.canFeed output = true)
    (incoming : (graph.port input).direction = .input)
    (outgoing : (graph.port output).direction = .output)
    (kind : (graph.port input).kind = (graph.port output).kind) :
    ((graph.clearSource input).attach input output).Coherent := by
  have shape := sameShape_clearSource graph input
  apply (coherent.clearSource input).attach
  · rw [port_clearSource]
    exact if_pos rfl
  · rwa [portAlive_clearSource]
  · rwa [canFeed, (shape.port output).attached, (shape.port output).owner,
      nodeAlive_of_nodes (nodes_clearSource graph input)]
  · rwa [(shape.port input).direction]
  · rwa [(shape.port output).direction]
  · rwa [(shape.port input).kind, (shape.port output).kind]

end DemandFlow.Graph
