import DemandFlow.Proofs.Association
import DemandFlow.Proofs.Evaluation.Application
import DemandFlow.Proofs.History.Reachable

/-!
Contract: nodes that are linked by name, and feeding the inputs of a node from new constants.

Owns: what stays of a node when another is made or ports are linked, and that a link by name between
an output and an input of one kind is never refused.

Main statements: two nodes held by handles are linked by the names of their ports (`Hosts.connect`);
an input of a library node is linked to a new constant of its kind, and the inputs that were fed
before stay fed (`Hosts.supply`).

Does not own: how the values of the constants come about (`Proofs.Catalog.Trial`), and graphs of
many nodes (`Proofs.History.Scheme`).
-/

namespace DemandFlow

namespace Graph

/-! ### Names -/

/-- A port is found by its name if no two ports of its node have one name. -/
theorem MadeFrom.get?_name {graph : Graph} {id : NodeId} {plan : Blueprint} {first : PortId}
    (made : graph.MadeFrom id plan first) (names : (plan.ports.map (·.name)).Nodup)
    {port : PortPlan} {number : PortId} (member : (port, number) ∈ plan.numbered first) :
    (graph.node id).ports.get? port.name = some number := by
  have once : (((plan.numbered first).map fun entry => (entry.1.name, entry.2)).map
      Prod.fst).Nodup := by
    rw [← plan.names_numbered first] at names
    rwa [List.map_map]
  rw [made.ports, PortSet.get?, Blueprint.entries_portSet names, lookup_eq_some_iff_mem once]
  exact List.mem_map_of_mem member

theorem MadeFrom.findTyped?_eq {graph : Graph} {id : NodeId} {plan : Blueprint} {first : PortId}
    (made : graph.MadeFrom id plan first) (names : (plan.ports.map (·.name)).Nodup)
    {port : PortPlan} {number : PortId} (member : (port, number) ∈ plan.numbered first) :
    graph.findTyped? id port.name port.direction port.value.kind = some number := by
  have shape := made.port port number member
  rw [findTyped?, made.get?_name names member]
  exact typed?_eq_some shape.kind shape.direction

/-! ### Links -/

theorem node_setSource (graph : Graph) (input output : PortId) (id : NodeId) :
    ∃ freed, (graph.setSource input output).node id = { graph.node id with freed } := by
  obtain ⟨freed, collected⟩ := ((graph.clearSource input).attach input output).node_collect id
  have kept : ((graph.clearSource input).attach input output).node id = graph.node id := by
    show (graph.clearSource input).node id = graph.node id
    rw [node, node, nodes_clearSource]
  rw [kept] at collected
  exact ⟨freed, collected⟩

theorem source_setSource {graph : Graph} {input output : PortId}
    (inputMade : input < graph.ports.size) (outputMade : output < graph.ports.size) (id : PortId) :
    ((graph.setSource input output).port id).source =
      if id = input then some output else (graph.port id).source := by
  have size : (graph.clearSource input).ports.size = graph.ports.size :=
    (sameShape_clearSource graph input).ports_size
  rw [setSource, port_collect, port_attach (by rwa [size]) (by rwa [size]),
    port_clearSource]
  split
  · rfl
  · rfl

/-! ### Hosted nodes -/

/-- A reachable graph with a node that a handle holds and that is as its blueprint made it. -/
structure Hosts (graph : Graph) (sink : NodeId) (plan : Blueprint) (first : PortId) : Prop where
  reachable : Reachable Blueprint.IsLibrary graph
  held : 0 < (graph.node sink).held
  made : graph.MadeFrom sink plan first
  behaviour : (graph.node sink).behaviour = plan.behaviour

variable {graph : Graph} {sink : NodeId} {plan : Blueprint} {first : PortId}

theorem Hosts.alive (hosts : graph.Hosts sink plan first) : graph.nodeAlive sink = true :=
  hosts.reachable.sound.coherent.held sink hosts.held

theorem Hosts.add (reachable : Reachable Blueprint.IsLibrary graph) (library : plan.IsLibrary)
    (label : String) :
    (graph.add plan label).1.Hosts graph.nodes.size plan graph.ports.size where
  reachable := reachable.step
    (show (Action.create plan label).Allowed Blueprint.IsLibrary graph from library)
  held := by simp [node, Graph.add, Array.getD]
  made := madeFrom_add graph plan label
  behaviour := by simp [node, Graph.add, Array.getD]

/-- Making another node leaves the node as it is. -/
theorem Hosts.kept_add (hosts : graph.Hosts sink plan first) {other : Blueprint}
    (library : other.IsLibrary) (label : String) :
    (graph.add other label).1.Hosts sink plan first := by
  have grown := extends_add graph other label
  have same := grown.node sink (nodeAlive_iff.mp hosts.alive).1
  refine ⟨(Hosts.add hosts.reachable library label).reachable, ?_, hosts.made.of_kept ?_ ?_, ?_⟩
  · rw [same]
    exact hosts.held
  · rw [same]
    exact .refl _
  · intro number made
    rw [grown.port number made]
    exact .refl _
  · rw [same]
    exact hosts.behaviour

/-- Linking two ports leaves the node as it is. -/
theorem Hosts.kept_setSource (hosts : graph.Hosts sink plan first) {input output : PortId}
    (reachable : Reachable Blueprint.IsLibrary (graph.setSource input output)) :
    (graph.setSource input output).Hosts sink plan first := by
  have shape := sameShape_setSource graph input output
  obtain ⟨freed, same⟩ := graph.node_setSource input output sink
  refine ⟨reachable, ?_, hosts.made.of_kept (shape.node sink) fun number _ => shape.port number, ?_⟩
  · rw [same]
    exact hosts.held
  · rw [same]
    exact hosts.behaviour

/-- An output and an input of one kind are found by their names and linked. -/
theorem Hosts.connect {source : NodeId} {sourcePlan : Blueprint} {sourceFirst : PortId}
    (origin : graph.Hosts source sourcePlan sourceFirst) (hosts : graph.Hosts sink plan first)
    (sourceLibrary : sourcePlan.IsLibrary) (library : plan.IsLibrary) {out port : PortPlan}
    {output input : PortId} (sourceNumbered : (out, output) ∈ sourcePlan.numbered sourceFirst)
    (outgoing : out.direction = .output) (numbered : (port, input) ∈ plan.numbered first)
    (incoming : port.direction = .input) (kind : out.value.kind = port.value.kind) :
    (Linking.connect source out.name sink port.name).run graph =
        .ok () (graph.setSource input output) ∧
      Reachable Blueprint.IsLibrary (graph.setSource input output) := by
  obtain ⟨_, _, sourceRegular⟩ := sourceLibrary.regular
  obtain ⟨_, _, regular⟩ := library.regular
  have allowed : (LinkRequest.names source out.name sink port.name).Allowed graph :=
    ⟨origin.alive, hosts.alive⟩
  have outputNamed := origin.made.get?_name sourceRegular.names sourceNumbered
  have inputNamed := hosts.made.get?_name regular.names numbered
  have outputShape := origin.made.port out output sourceNumbered
  have inputShape := hosts.made.port port input numbered
  have isOutput : output ∈ (graph.node source).terminals .output := by
    rw [origin.made.terminals .output]
    exact Blueprint.mem_numbersOf.mpr ⟨out, sourceNumbered, outgoing⟩
  have joinable : graph.Joinable input output :=
    ⟨inputShape.direction.trans incoming, outputShape.direction.trans outgoing,
      (inputShape.kind.trans kind.symm).trans outputShape.kind.symm,
      source, origin.alive, isOutput⟩
  have granted : (LinkRequest.names source out.name sink port.name).run graph =
      .ok () (graph.setSource input output) := by
    refine (LinkRequest.run_eq_ok_iff origin.reachable.sound.shaped allowed).mpr
      ⟨input, output, ?_, joinable, rfl⟩
    simp [LinkRequest.endpoints, inputNamed, outputNamed]
  refine ⟨granted, ?_⟩
  have performed : (Action.link (.names source out.name sink port.name)).apply graph =
      graph.setSource input output := by
    rw [Action.apply, LinkRequest.perform, granted]
  rw [← performed]
  exact origin.reachable.step
    (show (Action.link (.names source out.name sink port.name)).Allowed Blueprint.IsLibrary graph
      from allowed)

/-! ### One constant more -/

theorem constant_numbered (value : Value) (first : PortId) :
    (PortPlan.output "Value" value, first) ∈ (Blueprint.constant value).numbered first :=
  List.mem_singleton_self _

/-- What is fed from a constant stays fed when a node is made and another input is linked. -/
theorem Sound.supplies_setSource {admitted : Blueprint → Prop} {before after : Graph}
    (sound : before.Sound admitted) (grown : before.Extends after) {input output other : PortId}
    (inputMade : input < after.ports.size) (outputMade : output < after.ports.size)
    (differs : other ≠ input) {value : Value} (supplies : before.Supplies other value) :
    (after.setSource input output).Supplies other value := by
  obtain ⟨source, linked, constant⟩ := supplies
  obtain ⟨origin, joined, owner⟩ := Option.map_eq_some_iff.mp linked
  have attached := (sound.coherent.joins other origin joined).2.2.2
  have sourceMade : source < before.nodes.size := by
    rw [← owner]
    exact (sound.shaped.listed origin attached).1
  refine ⟨source, ?_, ?_⟩
  · rw [feeder?, source_setSource inputMade outputMade, if_neg differs, grown.source, joined,
      Option.map_some, ((sameShape_setSource after input output).port origin).owner,
      grown.port origin (port_lt_of_attached attached), owner]
  · obtain ⟨freed, same⟩ := after.node_setSource input output source
    rw [same, grown.node source sourceMade]
    exact constant

/-- An input of the node is linked by name to a new constant of its kind. The node stays as it was
made, and what was fed before stays fed. -/
theorem Hosts.supply (hosts : graph.Hosts sink plan first) (library : plan.IsLibrary)
    {port : PortPlan} {input : PortId} (numbered : (port, input) ∈ plan.numbered first)
    (incoming : port.direction = .input) {value : Value} (kind : value.kind = port.value.kind)
    (label : String) :
    ∃ linked, (Linking.connect graph.nodes.size "Value" sink port.name).run
        (graph.add (.constant value) label).1 = .ok () linked ∧
      linked.Hosts sink plan first ∧ linked.Supplies input value ∧
      ∀ other held, other ≠ input → graph.Supplies other held → linked.Supplies other held := by
  have constant := Hosts.add hosts.reachable (.constant value) label
  have grown := extends_add graph (.constant value) label
  have hostsStill := hosts.kept_add (.constant value) label
  have outputNumbered := constant_numbered value graph.ports.size
  obtain ⟨granted, reachable⟩ :=
    constant.connect hostsStill (.constant value) library outputNumbered rfl numbered incoming kind
  have outputMade := constant.made.port_lt outputNumbered
  have inputMade := hostsStill.made.port_lt numbered
  refine ⟨_, granted, hostsStill.kept_setSource reachable, ⟨graph.nodes.size, ?_, ?_⟩, ?_⟩
  · have shape := sameShape_setSource (graph.add (.constant value) label).1 input graph.ports.size
    rw [feeder?, source_setSource inputMade outputMade, if_pos rfl, Option.map_some,
      (shape.port graph.ports.size).owner, port_add_new graph label outputNumbered]
    rfl
  · exact (constant.kept_setSource reachable).behaviour
  · intro other held differs supplies
    exact hosts.reachable.sound.supplies_setSource grown inputMade outputMade differs supplies

end Graph

end DemandFlow
