import DemandFlow.Proofs.Graph.Library

/-!
Contract: what registering ports one after the other leaves.

Owns: what tells from a set whether there were ports and whether their names clashed, for any list
of ports, and what that means for the ports that a node lists.

Main statements: clashes are recorded exactly if a name occurs twice
(`PortSet.clashes_insertAll_eq_nil_iff`), and a node whose names do not clash has registered every
port that it lists (`Shaped.mem_registered_iff`).

Does not own: the links of the ports (`Proofs.Graph.Verdict`).
-/

namespace DemandFlow

namespace PortSet

/-- Registers ports under their names, in order. -/
def insertAll (set : PortSet) (ports : List (String × PortId)) : PortSet :=
  ports.foldl (fun set port => set.insert port.1 port.2) set

theorem get?_eq_none_iff {set : PortSet} {name : String} :
    set.get? name = none ↔ name ∉ set.entries.map Prod.fst := by
  rw [get?, List.lookup_eq_none_iff, List.mem_map]
  constructor
  · rintro free ⟨entry, member, rfl⟩
    simpa using free entry member
  · intro unlisted entry member
    rw [bne_iff_ne]
    rintro rfl
    exact unlisted ⟨entry, member, rfl⟩

/-- What has been registered stays. -/
theorem entries_prefix_insertAll (set : PortSet) (ports : List (String × PortId)) :
    set.entries <+: (set.insertAll ports).entries := by
  induction ports generalizing set with
  | nil => exact List.prefix_rfl
  | cons first rest inductionHypothesis =>
      have kept : set.entries <+: (set.insert first.1 first.2).entries := by
        unfold insert
        split
        · exact List.prefix_rfl
        · exact List.prefix_append _ _
      exact kept.trans (inductionHypothesis _)

theorem entries_insertAll_empty_eq_nil_iff {ports : List (String × PortId)} :
    (empty.insertAll ports).entries = [] ↔ ports = [] := by
  cases ports with
  | nil => exact iff_of_true rfl rfl
  | cons first rest =>
      have registered : [first] <+: (empty.insertAll (first :: rest)).entries :=
        entries_prefix_insertAll (empty.insert first.1 first.2) rest
      refine iff_of_false (fun none => ?_) (List.cons_ne_nil first rest)
      rw [none] at registered
      exact List.cons_ne_nil first [] (List.prefix_nil.mp registered)

/-- Clashes are recorded exactly if a name occurs twice. -/
theorem clashes_insertAll_eq_nil_iff {set : PortSet} {ports : List (String × PortId)}
    (distinct : (set.entries.map Prod.fst).Nodup) :
    (set.insertAll ports).clashes = [] ↔
      set.clashes = [] ∧ (set.entries.map Prod.fst ++ ports.map Prod.fst).Nodup := by
  induction ports generalizing set with
  | nil => simp [insertAll, distinct]
  | cons first rest inductionHypothesis =>
      show ((set.insert first.1 first.2).insertAll rest).clashes = [] ↔ _
      cases found : set.get? first.1 with
      | none =>
          have fresh := get?_eq_none_iff.mp found
          have names : ((set.entries ++ [(first.1, first.2)]).map Prod.fst) =
              set.entries.map Prod.fst ++ [first.1] := by simp
          rw [insert_of_free first.2 found, inductionHypothesis]
          · rw [names, List.append_assoc]
            rfl
          · rw [names]
            exact List.nodup_append.mpr ⟨distinct, List.pairwise_singleton _ _, by
              rintro name listed _ isFirst rfl
              rw [List.mem_singleton.mp isFirst] at listed
              exact fresh listed⟩
      | some taken =>
          have listed : first.1 ∈ set.entries.map Prod.fst := by
            apply Decidable.byContradiction
            intro unlisted
            rw [get?_eq_none_iff.mpr unlisted] at found
            cases found
          have onward := @inductionHypothesis { set with clashes := set.clashes ++ [first.1] } distinct
          rw [insert_of_taken first.2 found, onward]
          -- The clash stays recorded, and the name stays in the list twice.
          refine iff_of_false (fun both => by simp at both) fun both => ?_
          exact (List.nodup_append.mp both.2).2.2 _ listed _ List.mem_cons_self rfl

end PortSet

namespace Blueprint

theorem portSet_eq_insertAll (plan : Blueprint) (first : PortId) :
    plan.portSet first =
      PortSet.empty.insertAll ((plan.numbered first).map fun entry => (entry.1.name, entry.2)) := by
  rw [PortSet.insertAll, List.foldl_map]
  rfl

/-- The ports of either direction make up all ports, in another order. -/
theorem numbersOf_perm (plan : Blueprint) (first : PortId) :
    (plan.numbersOf first .input ++ plan.numbersOf first .output).Perm
      ((plan.numbered first).map Prod.snd) := by
  have outputs : (plan.numbered first).filter (fun entry => entry.1.direction = .output) =
      (plan.numbered first).filter fun entry => !decide (entry.1.direction = .input) := by
    congr 1
    funext entry
    cases entry.1.direction <;> rfl
  rw [numbersOf, numbersOf, outputs, ← List.map_append]
  exact (List.filter_append_perm _ _).map _

end Blueprint

namespace Graph

/-- The ports of a node, registered or not. -/
def portsOf (graph : Graph) (id : NodeId) : List PortId :=
  (graph.node id).inputs ++ (graph.node id).outputs

section Nodes

variable {graph : Graph} {id : NodeId} {plan : Blueprint} {first : PortId}

theorem MadeFrom.portsOf_perm (made : graph.MadeFrom id plan first) :
    (graph.portsOf id).Perm ((plan.numbered first).map Prod.snd) := by
  have inputs : (graph.node id).inputs = plan.numbersOf first .input := made.terminals .input
  have outputs : (graph.node id).outputs = plan.numbersOf first .output := made.terminals .output
  rw [portsOf, inputs, outputs]
  exact plan.numbersOf_perm first

/-- The names under which a node registers its ports are the names of the ports. -/
theorem MadeFrom.names_perm (made : graph.MadeFrom id plan first) :
    ((graph.portsOf id).map fun port => (graph.port port).name).Perm
      (((plan.numbered first).map fun entry => (entry.1.name, entry.2)).map Prod.fst) := by
  refine (made.portsOf_perm.map _).trans (List.Perm.of_eq ?_)
  rw [List.map_map, List.map_map]
  apply List.map_congr_left
  intro entry member
  exact (made.port entry.1 entry.2 member).name

/-- The names of the ports of a node are distinct if its blueprint has them so. -/
theorem MadeFrom.names_nodup_iff (made : graph.MadeFrom id plan first) :
    ((graph.portsOf id).map fun port => (graph.port port).name).Nodup ↔
      (plan.ports.map (·.name)).Nodup := by
  rw [made.names_perm.nodup_iff, List.map_map, ← List.zipIdx_map_fst first plan.ports,
    List.map_map]
  exact Iff.rfl

variable {admitted : Blueprint → Prop}

theorem Shaped.entries_eq_nil_iff (shaped : graph.Shaped admitted) (made : id < graph.nodes.size) :
    (graph.node id).ports.entries = [] ↔ graph.portsOf id = [] := by
  obtain ⟨plan, first, -, madeFrom⟩ := shaped.made id made
  rw [madeFrom.ports, plan.portSet_eq_insertAll, PortSet.entries_insertAll_empty_eq_nil_iff,
    List.map_eq_nil_iff, ← List.map_eq_nil_iff (f := Prod.snd)]
  constructor
  · intro none
    exact List.Perm.eq_nil (none ▸ madeFrom.portsOf_perm)
  · intro none
    exact List.Perm.nil_eq (none ▸ madeFrom.portsOf_perm) |>.symm

theorem Shaped.clashes_eq_nil_iff (shaped : graph.Shaped admitted) (made : id < graph.nodes.size) :
    (graph.node id).ports.clashes = [] ↔
      ((graph.portsOf id).map fun port => (graph.port port).name).Nodup := by
  obtain ⟨plan, first, -, madeFrom⟩ := shaped.made id made
  have clashes := @PortSet.clashes_insertAll_eq_nil_iff .empty
    ((plan.numbered first).map fun entry => (entry.1.name, entry.2)) List.nodup_nil
  rw [madeFrom.names_perm.nodup_iff, madeFrom.ports, plan.portSet_eq_insertAll, clashes]
  exact and_iff_right rfl

/-- A node whose names do not clash has registered every port that it lists. -/
theorem Shaped.mem_registered_iff (shaped : graph.Shaped admitted) (made : id < graph.nodes.size)
    (distinct : ((graph.portsOf id).map fun port => (graph.port port).name).Nodup)
    {port : PortId} : port ∈ (graph.node id).ports.ports ↔ port ∈ graph.portsOf id := by
  obtain ⟨plan, first, -, madeFrom⟩ := shaped.made id made
  rw [madeFrom.ports, Blueprint.ports_portSet (madeFrom.names_nodup_iff.mp distinct),
    madeFrom.portsOf_perm.mem_iff]

end Nodes

end Graph

end DemandFlow
