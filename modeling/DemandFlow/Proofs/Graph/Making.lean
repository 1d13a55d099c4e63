import DemandFlow.Proofs.Graph.Shape

/-!
Contract: what nodes are made from.

Owns: the relation of a node to the blueprint that it was made from, and the correspondence
between the ports that a node lists and the ports that name it as their owner.

Main statements: a new node is made from its blueprint (`madeFrom_add`); from then on the ports
that it lists are its own, and its own ports are listed (`Shaped.terminal`, `Shaped.listed`).

Does not own: the blueprints of the library (`Proofs.Graph.Library`).
-/

namespace DemandFlow

namespace Blueprint

/-- The ports of a blueprint with their numbers, from `first` on. -/
def numbered (plan : Blueprint) (first : PortId) : List (PortPlan × PortId) :=
  plan.ports.zipIdx first

/-- The numbers of the ports of one direction. -/
def numbersOf (plan : Blueprint) (first : PortId) (direction : Direction) : List PortId :=
  ((plan.numbered first).filter fun entry => entry.1.direction = direction).map Prod.snd

/-- The set in which a node of the blueprint registers its ports. -/
def portSet (plan : Blueprint) (first : PortId) : PortSet :=
  (plan.numbered first).foldl (fun set entry => set.insert entry.1.name entry.2) .empty

theorem mem_numbersOf {plan : Blueprint} {first id : PortId} {direction : Direction} :
    id ∈ plan.numbersOf first direction ↔
      ∃ port, (port, id) ∈ plan.numbered first ∧ port.direction = direction := by
  simp [numbersOf]

theorem nodup_numbersOf (plan : Blueprint) (first : PortId) (direction : Direction) :
    (plan.numbersOf first direction).Nodup := by
  have numbers : (plan.numbered first).map Prod.snd = List.range' first plan.ports.length :=
    List.zipIdx_map_snd first plan.ports
  have sublist : (plan.numbersOf first direction).Sublist ((plan.numbered first).map Prod.snd) :=
    List.filter_sublist.map Prod.snd
  rw [numbers] at sublist
  exact sublist.nodup List.nodup_range'

theorem mem_entries_insert {set : PortSet} {name : String} {port : PortId}
    {entry : String × PortId} (member : entry ∈ (set.insert name port).entries) :
    entry ∈ set.entries ∨ entry = (name, port) := by
  unfold PortSet.insert at member
  split at member
  · exact Or.inl member
  · simpa using member

theorem mem_entries_foldl {numbered : List (PortPlan × PortId)} {set : PortSet}
    {entry : String × PortId}
    (member : entry ∈
      (numbered.foldl (fun set entry => set.insert entry.1.name entry.2) set).entries) :
    entry ∈ set.entries ∨ ∃ port, (port, entry.2) ∈ numbered ∧ port.name = entry.1 := by
  induction numbered generalizing set with
  | nil => exact Or.inl member
  | cons first rest inductionHypothesis =>
      rcases inductionHypothesis member with earlier | ⟨port, late, named⟩
      · rcases mem_entries_insert earlier with old | rfl
        · exact Or.inl old
        · exact Or.inr ⟨first.1, List.mem_cons_self, rfl⟩
      · exact Or.inr ⟨port, List.mem_cons_of_mem _ late, named⟩

/-- What a node of the blueprint registers are its ports, under their names. -/
theorem mem_entries_portSet {plan : Blueprint} {first : PortId} {entry : String × PortId}
    (member : entry ∈ (plan.portSet first).entries) :
    ∃ port, (port, entry.2) ∈ plan.numbered first ∧ port.name = entry.1 := by
  rcases mem_entries_foldl member with none | found
  · cases none
  · exact found

end Blueprint

/-- The ports of a node in one direction, in order. -/
def Node.terminals (node : Node) : Direction → List PortId
  | .input => node.inputs
  | .output => node.outputs

theorem Node.SameShape.terminals {before after : Node} (same : before.SameShape after)
    (direction : Direction) : after.terminals direction = before.terminals direction := by
  cases direction with
  | input => exact same.inputs
  | output => exact same.outputs

namespace Graph

/-- The node `id` has the shape that a blueprint gives it, with its ports numbered from `first`. -/
structure MadeFrom (graph : Graph) (id : NodeId) (plan : Blueprint) (first : PortId) : Prop where
  kindName : (graph.node id).kindName = plan.kindName
  terminals : ∀ direction, (graph.node id).terminals direction = plan.numbersOf first direction
  ports : (graph.node id).ports = plan.portSet first
  behaviour : plan.behaviour.SameShape (graph.node id).behaviour
  port : ∀ port number, (port, number) ∈ plan.numbered first →
    (port.toPort id true).SameShape (graph.port number)

theorem MadeFrom.port_lt {graph : Graph} {id : NodeId} {plan : Blueprint} {first : PortId}
    (made : graph.MadeFrom id plan first) {port : PortPlan} {number : PortId}
    (member : (port, number) ∈ plan.numbered first) : number < graph.ports.size := by
  apply port_lt_of_ne_default
  intro unmade
  have attached := (made.port port number member).attached
  rw [unmade] at attached
  cases attached

/-- A node stays made from its blueprint while it and the ports made so far keep their shapes. -/
theorem MadeFrom.of_kept {graph after : Graph} {id : NodeId} {plan : Blueprint}
    {first : PortId} (made : graph.MadeFrom id plan first)
    (node : (graph.node id).SameShape (after.node id))
    (ports : ∀ number, number < graph.ports.size →
      (graph.port number).SameShape (after.port number)) :
    after.MadeFrom id plan first where
  kindName := node.kindName.trans made.kindName
  terminals direction := (node.terminals direction).trans (made.terminals direction)
  ports := node.ports.trans made.ports
  behaviour := made.behaviour.trans node.behaviour
  port port number member :=
    (made.port port number member).trans (ports number (made.port_lt member))

theorem ports_add (graph : Graph) (plan : Blueprint) (displayName : String) :
    (graph.add plan displayName).1.ports =
      graph.ports ++ (plan.ports.map (·.toPort graph.nodes.size true)).toArray :=
  List.foldl_push_eq_append ..

theorem nodes_size_add (graph : Graph) (plan : Blueprint) (displayName : String) :
    (graph.add plan displayName).1.nodes.size = graph.nodes.size + 1 := by
  simp [add]

theorem node_add_old (graph : Graph) (plan : Blueprint) (displayName : String) {id : NodeId}
    (old : id < graph.nodes.size) :
    (graph.add plan displayName).1.node id = graph.node id := by
  have bound : id < graph.nodes.size + 1 := Nat.lt_succ_of_lt old
  simp [node, add, Array.getD, old, bound, Array.getElem_push]

theorem port_add_old (graph : Graph) (plan : Blueprint) (displayName : String) {id : PortId}
    (old : id < graph.ports.size) :
    (graph.add plan displayName).1.port id = graph.port id := by
  unfold port
  rw [ports_add]
  simp [Array.getD_eq_getD_getElem?, Array.getElem?_append_left old]

theorem port_add_new (graph : Graph) {plan : Blueprint} (displayName : String)
    {port : PortPlan} {number : PortId}
    (member : (port, number) ∈ plan.numbered graph.ports.size) :
    (graph.add plan displayName).1.port number = port.toPort graph.nodes.size true := by
  obtain ⟨late, found⟩ := List.mem_zipIdx_iff_le_and_getElem?_sub.mp member
  unfold Graph.port
  rw [ports_add]
  simp [Array.getD_eq_getD_getElem?, Array.getElem?_append_right late, found]

/-- The ports of a graph with a new node are the old ones and those of the node. -/
theorem port_lt_add_iff (graph : Graph) (plan : Blueprint) (displayName : String) {id : PortId} :
    id < (graph.add plan displayName).1.ports.size ↔
      id < graph.ports.size ∨ ∃ port, (port, id) ∈ plan.numbered graph.ports.size := by
  simp only [ports_add, Array.size_append, List.size_toArray, List.length_map]
  constructor
  · intro made
    rcases Nat.lt_or_ge id graph.ports.size with old | late
    · exact Or.inl old
    · have bound : id - graph.ports.size < plan.ports.length := Nat.sub_lt_left_of_lt_add late made
      exact Or.inr ⟨plan.ports[id - graph.ports.size], List.mem_zipIdx_iff_le_and_getElem?_sub.mpr
        ⟨late, List.getElem?_eq_getElem bound⟩⟩
  · rintro (old | ⟨port, member⟩)
    · exact Nat.lt_add_right _ old
    · have bound := (List.mem_zipIdx member).2.1
      omega

theorem madeFrom_add (graph : Graph) (plan : Blueprint) (displayName : String) :
    (graph.add plan displayName).1.MadeFrom graph.nodes.size plan graph.ports.size := by
  have created : (graph.add plan displayName).1.node graph.nodes.size =
      { kindName := plan.kindName
        displayName := displayName
        inputs := plan.numbersOf graph.ports.size .input
        outputs := plan.numbersOf graph.ports.size .output
        ports := plan.portSet graph.ports.size
        behaviour := plan.behaviour
        held := 1
        freed := false } := by
    simp [node, add, Array.getD]
    exact ⟨rfl, rfl, rfl⟩
  constructor
  · rw [created]
  · intro direction
    rw [created]
    cases direction <;> rfl
  · rw [created]
  · rw [created]
    exact .refl _
  · intro port number member
    rw [port_add_new graph displayName member]
    exact .refl _

/-- Every node is made from an admitted blueprint, and every port that can reach its owner is
listed there. -/
structure Shaped (admitted : Blueprint → Prop) (graph : Graph) : Prop where
  made : ∀ id, id < graph.nodes.size → ∃ plan first, admitted plan ∧ graph.MadeFrom id plan first
  listed : ∀ id, (graph.port id).attached = true →
    (graph.port id).owner < graph.nodes.size ∧
      id ∈ (graph.node (graph.port id).owner).terminals (graph.port id).direction

theorem Shaped.of_sameShape {admitted : Blueprint → Prop} {graph after : Graph}
    (shaped : graph.Shaped admitted) (same : graph.SameShape after) : after.Shaped admitted where
  made id bound := by
    rw [same.nodes_size] at bound
    obtain ⟨plan, first, admits, made⟩ := shaped.made id bound
    exact ⟨plan, first, admits, made.of_kept (same.node id) fun number _ => same.port number⟩
  listed id attached := by
    rw [(same.port id).attached] at attached
    rw [(same.port id).owner, (same.port id).direction, same.nodes_size, (same.node _).terminals]
    exact shaped.listed id attached

/-- The ports that a node lists are its own and have the direction under which they are listed. -/
theorem Shaped.terminal {admitted : Blueprint → Prop} {graph : Graph}
    (shaped : graph.Shaped admitted) {owner : NodeId} {direction : Direction} {id : PortId}
    (member : id ∈ (graph.node owner).terminals direction) :
    owner < graph.nodes.size ∧ (graph.port id).direction = direction ∧
      (graph.port id).owner = owner ∧ (graph.port id).attached = true := by
  have bound : owner < graph.nodes.size := by
    apply Nat.lt_of_not_le
    intro beyond
    rw [node_of_size_le beyond] at member
    cases direction <;> cases member
  obtain ⟨plan, first, -, made⟩ := shaped.made owner bound
  rw [made.terminals direction] at member
  obtain ⟨port, numbered, ofDirection⟩ := Blueprint.mem_numbersOf.mp member
  have shape := made.port port id numbered
  exact ⟨bound, shape.direction.trans ofDirection, shape.owner, shape.attached⟩

theorem Shaped.input {admitted : Blueprint → Prop} {graph : Graph} (shaped : graph.Shaped admitted)
    {owner : NodeId} {id : PortId} (isInput : id ∈ (graph.node owner).inputs) :
    (graph.port id).direction = .input ∧ (graph.port id).owner = owner ∧
      (graph.port id).attached = true := by
  have listed : id ∈ (graph.node owner).terminals .input := isInput
  exact (shaped.terminal listed).2

theorem Shaped.output {admitted : Blueprint → Prop} {graph : Graph} (shaped : graph.Shaped admitted)
    {owner : NodeId} {id : PortId} (isOutput : id ∈ (graph.node owner).outputs) :
    (graph.port id).direction = .output ∧ (graph.port id).owner = owner ∧
      (graph.port id).attached = true := by
  have listed : id ∈ (graph.node owner).terminals .output := isOutput
  exact (shaped.terminal listed).2

/-- The ports that a node has registered are its own. -/
theorem Shaped.registered {admitted : Blueprint → Prop} {graph : Graph}
    (shaped : graph.Shaped admitted) {owner : NodeId} {id : PortId}
    (member : id ∈ (graph.node owner).ports.ports) :
    owner < graph.nodes.size ∧ (graph.port id).owner = owner ∧
      (graph.port id).attached = true := by
  have bound : owner < graph.nodes.size := by
    apply Nat.lt_of_not_le
    intro beyond
    rw [node_of_size_le beyond] at member
    cases member
  obtain ⟨plan, first, -, made⟩ := shaped.made owner bound
  obtain ⟨entry, isEntry, rfl⟩ := List.mem_map.mp member
  rw [made.ports] at isEntry
  obtain ⟨port, numbered, -⟩ := Blueprint.mem_entries_portSet isEntry
  have shape := made.port port entry.2 numbered
  exact ⟨bound, shape.owner, shape.attached⟩

theorem shaped_empty (admitted : Blueprint → Prop) : Graph.empty.Shaped admitted where
  made _ bound := absurd bound (Nat.not_lt_zero _)
  listed id attached := by
    rw [port_of_size_le (Nat.zero_le id)] at attached
    cases attached

theorem Shaped.add {admitted : Blueprint → Prop} {graph : Graph} (shaped : graph.Shaped admitted)
    {plan : Blueprint} (admits : admitted plan) (displayName : String) :
    (graph.add plan displayName).1.Shaped admitted where
  made id bound := by
    rw [nodes_size_add] at bound
    by_cases new : id = graph.nodes.size
    · subst new
      exact ⟨plan, graph.ports.size, admits, madeFrom_add graph plan displayName⟩
    · have old : id < graph.nodes.size := by omega
      obtain ⟨earlier, first, earlierAdmitted, made⟩ := shaped.made id old
      refine ⟨earlier, first, earlierAdmitted, made.of_kept ?_ ?_⟩
      · rw [node_add_old graph plan displayName old]
        exact .refl _
      · intro number numberOld
        rw [port_add_old graph plan displayName numberOld]
        exact .refl _
  listed id attached := by
    rw [nodes_size_add]
    rcases (port_lt_add_iff graph plan displayName).mp (port_lt_of_attached attached) with
      old | ⟨port, member⟩
    · rw [port_add_old graph plan displayName old] at attached ⊢
      obtain ⟨bound, member⟩ := shaped.listed id attached
      rw [node_add_old graph plan displayName bound]
      exact ⟨Nat.lt_succ_of_lt bound, member⟩
    · rw [port_add_new graph displayName member]
      refine ⟨Nat.lt_succ_self _, ?_⟩
      show id ∈ ((graph.add plan displayName).1.node graph.nodes.size).terminals port.direction
      rw [(madeFrom_add graph plan displayName).terminals]
      exact Blueprint.mem_numbersOf.mpr ⟨port, member, rfl⟩

theorem port_addLoose_old (graph : Graph) (plan : PortPlan) (owner : NodeId) {id : PortId}
    (old : id < graph.ports.size) : (graph.addLoose plan owner).1.port id = graph.port id := by
  have bound : id < graph.ports.size + 1 := Nat.lt_succ_of_lt old
  simp [port, addLoose, Array.getD, old, bound, Array.getElem_push]

theorem port_addLoose_new (graph : Graph) (plan : PortPlan) (owner : NodeId) :
    (graph.addLoose plan owner).1.port graph.ports.size =
      { plan.toPort owner false with saved := 1 } := by
  simp [port, addLoose, Array.getD]

theorem port_addLoose_cases (graph : Graph) (plan : PortPlan) (owner : NodeId) (id : PortId) :
    (graph.addLoose plan owner).1.port id = graph.port id ∨
      (graph.addLoose plan owner).1.port id = { plan.toPort owner false with saved := 1 } ∨
      (graph.addLoose plan owner).1.port id = default := by
  rcases Nat.lt_trichotomy id graph.ports.size with old | new | beyond
  · exact Or.inl (port_addLoose_old graph plan owner old)
  · subst new
    exact Or.inr (Or.inl (port_addLoose_new graph plan owner))
  · right
    right
    apply port_of_size_le
    simpa [addLoose] using Nat.succ_le_of_lt beyond

theorem Shaped.addLoose {admitted : Blueprint → Prop} {graph : Graph}
    (shaped : graph.Shaped admitted) (plan : PortPlan) (owner : NodeId) :
    (graph.addLoose plan owner).1.Shaped admitted where
  made id bound := by
    obtain ⟨earlier, first, admits, made⟩ := shaped.made id bound
    refine ⟨earlier, first, admits, made.of_kept (.refl _) ?_⟩
    intro number old
    rw [port_addLoose_old graph plan owner old]
    exact .refl _
  listed id attached := by
    rcases port_addLoose_cases graph plan owner id with old | new | unmade
    · rw [old] at attached ⊢
      exact shaped.listed id attached
    · rw [new] at attached
      cases attached
    · rw [unmade] at attached
      cases attached

end Graph

end DemandFlow
