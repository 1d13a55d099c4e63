import DemandFlow.Evaluation.Demand
import DemandFlow.Proofs.Association
import DemandFlow.Proofs.Graph.Verdict

/-!
Contract: what a set of ports holds, whatever ports are put into it, and what its checks say.

Owns: which ports are the first of their name, the sets that hold just these, and when the check for
readiness and the structural check of such a set report a missing input or a clash of names.

Main statement: whatever ports are put into an empty set, the first of each name is kept in order
and found by its name, and the checks agree with that in every state of the links
(`Graph.gather_lawful`).

Does not own: the verdicts on the links themselves (`Proofs.Graph.Verdict`).
-/

namespace DemandFlow

namespace PortSet

/-- Of ports in order, this is the first of its name. -/
def IsFirst (name : PortId → String) (ports : List PortId) (port : PortId) : Prop :=
  ∃ earlier later, ports = earlier ++ port :: later ∧ ∀ other ∈ earlier, name other ≠ name port

/-- Of ports that were put in, a set holds the first of each name, under that name and in the order
in which the names came. -/
structure Holds (set : PortSet) (name : PortId → String) (ports : List PortId) : Prop where
  named : set.entries = set.ports.map fun port => (name port, port)
  firsts : ∀ port, port ∈ set.ports ↔ IsFirst name ports port
  inOrder : set.ports.Sublist ports
  names : set.ports.map name = (ports.map name).eraseDups
  once : (set.ports.map name).Nodup

/-! ### Putting ports in -/

variable {name : PortId → String} {ports : List PortId}

theorem IsFirst.mem {port : PortId} (first : IsFirst name ports port) : port ∈ ports := by
  obtain ⟨earlier, later, rfl, -⟩ := first
  exact List.mem_append_right _ List.mem_cons_self

theorem isFirst_append_singleton {last port : PortId} :
    IsFirst name (ports ++ [last]) port ↔
      IsFirst name ports port ∨ port = last ∧ name last ∉ ports.map name := by
  constructor
  · rintro ⟨earlier, later, split, spared⟩
    rcases List.eq_nil_or_concat later with rfl | ⟨others, final, rfl⟩
    · obtain ⟨rfl, same⟩ := List.append_inj' split rfl
      obtain rfl := List.singleton_inj.mp same
      refine Or.inr ⟨rfl, fun listed => ?_⟩
      obtain ⟨other, member, equal⟩ := List.mem_map.mp listed
      exact spared other member equal
    · have regrouped : ports ++ [last] = (earlier ++ port :: others) ++ [final] := by
        simpa [List.concat_eq_append] using split
      obtain ⟨same, -⟩ := List.append_inj' regrouped rfl
      exact Or.inl ⟨earlier, others, same, spared⟩
  · rintro (⟨earlier, later, rfl, spared⟩ | ⟨rfl, unlisted⟩)
    · exact ⟨earlier, later ++ [last], by simp, spared⟩
    · exact ⟨ports, [], rfl, fun other member equal =>
        unlisted (List.mem_map.mpr ⟨other, member, equal⟩)⟩

theorem holds_empty (name : PortId → String) : empty.Holds name [] where
  named := rfl
  firsts _ := iff_of_false List.not_mem_nil fun first => List.not_mem_nil first.mem
  inOrder := List.Sublist.slnil
  names := rfl
  once := List.nodup_nil

section Holding

variable {set : PortSet}

/-- The names under which the ports stand are their names. -/
theorem Holds.keys (holds : set.Holds name ports) :
    set.entries.map Prod.fst = set.ports.map name := by
  rw [holds.named, List.map_map]
  rfl

theorem Holds.get?_eq_some_iff (holds : set.Holds name ports) {wanted : String} {port : PortId} :
    set.get? wanted = some port ↔ port ∈ set.ports ∧ name port = wanted := by
  have once : (set.entries.map Prod.fst).Nodup := holds.keys ▸ holds.once
  rw [get?, lookup_eq_some_iff_mem once, holds.named, List.mem_map]
  constructor
  · rintro ⟨_, listed, ⟨⟩⟩
    exact ⟨listed, rfl⟩
  · rintro ⟨listed, rfl⟩
    exact ⟨port, listed, rfl⟩

theorem Holds.get?_eq_none_iff (holds : set.Holds name ports) {wanted : String} :
    set.get? wanted = none ↔ wanted ∉ ports.map name := by
  rw [PortSet.get?_eq_none_iff, holds.keys, holds.names, List.mem_eraseDups]

/-- A port goes to the end if its name is new, and else is not taken. -/
theorem Holds.insert (holds : set.Holds name ports) (last : PortId) :
    (set.insert (name last) last).Holds name (ports ++ [last]) := by
  cases found : set.get? (name last) with
  | some first =>
      have listed : name last ∈ ports.map name := by
        by_contra unlisted
        rw [holds.get?_eq_none_iff.mpr unlisted] at found
        cases found
      -- The set stays as it is, and no list gains by the port either.
      have removed : [name last].removeAll (ports.map name) = [] := by
        simpa [List.removeAll] using listed
      rw [insert_of_taken last found]
      exact {
        named := holds.named
        firsts port := by
          rw [isFirst_append_singleton, ← holds.firsts]
          exact (or_iff_left fun isLast => isLast.2 listed).symm
        inOrder := holds.inOrder.trans (List.sublist_append_left _ _)
        names := by
          rw [List.map_append, List.map_singleton, List.eraseDups_append, removed,
            List.eraseDups_nil, List.append_nil]
          exact holds.names
        once := holds.once }
  | none =>
      have unlisted := holds.get?_eq_none_iff.mp found
      -- The port is the first of its name, and every list gains it at its end.
      have stays : [name last].removeAll (ports.map name) = [name last] := by
        simpa [List.removeAll] using unlisted
      have grown : ({ set with entries := set.entries ++ [(name last, last)] } : PortSet).ports =
          set.ports ++ [last] := by
        rw [PortSet.ports, List.map_append]
        rfl
      rw [insert_of_free last found]
      exact {
        named := by
          rw [grown, List.map_append, ← holds.named]
          rfl
        firsts port := by
          rw [grown, isFirst_append_singleton, ← holds.firsts, List.mem_append,
            List.mem_singleton, and_iff_left unlisted]
        inOrder := by
          rw [grown]
          exact holds.inOrder.append (List.Sublist.refl _)
        names := by
          rw [grown, List.map_append, List.map_append, List.map_singleton, holds.names,
            List.eraseDups_append, stays, List.eraseDups_cons]
          rfl
        once := by
          rw [grown, List.map_append, List.map_singleton]
          refine List.nodup_append.mpr ⟨holds.once, List.nodup_singleton _, ?_⟩
          rintro _ listed _ isLast rfl
          rw [List.mem_singleton.mp isLast, holds.names, List.mem_eraseDups] at listed
          exact unlisted listed }

theorem Holds.insertEach (holds : set.Holds name ports) (more : List PortId) :
    (more.foldl (fun set port => set.insert (name port) port) set).Holds name (ports ++ more) := by
  induction more generalizing set ports with
  | nil => rwa [List.append_nil]
  | cons first rest inductionHypothesis =>
      rw [List.append_cons]
      exact inductionHypothesis (holds.insert first)

end Holding

end PortSet

/-! ### Checking -/

/-- A verdict on a link, and not on the ports as such. -/
def Validation.ConcernsLink (verdict : Validation) : Prop :=
  verdict ∈ [.nullConnectionPoint, .recursiveConnection, .invalidDestination, .invalidSource]

instance (verdict : Validation) : Decidable verdict.ConcernsLink :=
  inferInstanceAs (Decidable (verdict ∈ _))

theorem Validation.mem_of_ofIssues {issues : List Validation} {issue : Validation}
    (counts : ofIssues issues = some issue) : issue ∈ issues := by
  unfold ofIssues at counts
  split at counts
  · rename_i recursive
    cases counts
    simpa using recursive
  · exact List.mem_of_mem_head? counts

namespace Graph

/-- A required input that is not linked. -/
def IsUnfed (graph : Graph) (port : PortId) : Prop :=
  (graph.port port).direction = .input ∧ (graph.port port).required = true ∧
    (graph.port port).source = none

instance (graph : Graph) (port : PortId) : Decidable (graph.IsUnfed port) :=
  inferInstanceAs (Decidable (_ ∧ _ ∧ _))

/-- What a set that was made of ports with these names comes to in a graph: its inputs and outputs,
its verdict as far as it is not one on links, and its readiness. -/
structure Judges (graph : Graph) (set : PortSet) (names : List String) : Prop where
  split : set.ports.partition (fun port => (graph.port port).direction = .input) =
    (graph.inputsOf set, graph.outputsOf set)
  duplicate : graph.validatePorts set = .duplicateInput ↔ ¬ names.Nodup
  ready : graph.ensureRequired set = .ok () ↔ ∀ port ∈ set.ports, ¬ graph.IsUnfed port
  notReady : ∀ failure, graph.ensureRequired set = .error failure ↔
    ∃ earlier port later, set.ports = earlier ++ port :: later ∧ graph.IsUnfed port ∧
      (∀ other ∈ earlier, ¬ graph.IsUnfed other) ∧
      failure = .notReady (graph.port port).owner (graph.port port).name
  agree : names.Nodup → (graph.ensureRequired set = .ok () ↔
    graph.validatePorts set ≠ .requiredConnectionsNotFulfilled)

section Checks

variable {graph : Graph} {set : PortSet}

theorem concernsLink_of_sinkIssue {output sink : PortId} {issue : Validation}
    (wrong : graph.sinkIssue output sink = some issue) : issue.ConcernsLink := by
  unfold sinkIssue at wrong
  split at wrong
  · cases wrong
    decide
  split at wrong
  · cases wrong
    decide
  split at wrong
  · cases wrong
  · cases wrong
    decide

theorem concernsLink_of_linkIssue {port : PortId} {issue : Validation}
    (wrong : graph.linkIssue port = some issue) : issue.ConcernsLink := by
  unfold linkIssue at wrong
  split at wrong
  · unfold sourceIssue at wrong
    split at wrong
    · cases wrong
    split at wrong
    · cases wrong
      decide
    split at wrong
    · cases wrong
    · cases wrong
      decide
  · obtain ⟨sink, -, found⟩ := List.mem_filterMap.mp (Validation.mem_of_ofIssues wrong)
    exact concernsLink_of_sinkIssue found

/-- What the structural check of a set of ports comes to, as far as it is not about single links. -/
inductive Judgement (graph : Graph) (set : PortSet) : Validation → Prop where
  | noPorts (noPorts : set.entries = []) : Judgement graph set .neitherSourceNorDestination
  | clash (ports : set.entries ≠ []) (clash : set.clashes ≠ []) :
      Judgement graph set .duplicateInput
  | unfed (distinct : set.clashes = []) (unfed : ∃ port ∈ set.ports, graph.IsUnfed port) :
      Judgement graph set .requiredConnectionsNotFulfilled
  | links {verdict : Validation} (distinct : set.clashes = [])
      (fed : ¬ ∃ port ∈ set.ports, graph.IsUnfed port)
      (onLinks : verdict = .success ∨ verdict.ConcernsLink) : Judgement graph set verdict

theorem judgement_validatePorts (graph : Graph) (set : PortSet) :
    graph.Judgement set (graph.validatePorts set) := by
  unfold validatePorts
  split
  · rename_i noPorts
    exact .noPorts (by simpa using noPorts)
  rename_i ports
  split
  · rename_i clash
    exact .clash (by simpa using ports) (by simpa using clash)
  rename_i noClash
  have distinct : set.clashes = [] := by simpa using noClash
  split
  · rename_i unfed
    exact .unfed distinct (any_isMissing_iff.mp unfed)
  rename_i fed
  refine .links distinct (fun unfed => fed (any_isMissing_iff.mpr unfed)) ?_
  cases counts : Validation.ofIssues (set.ports.filterMap graph.linkIssue) with
  | none => exact Or.inl rfl
  | some issue =>
      obtain ⟨port, -, wrong⟩ := List.mem_filterMap.mp (Validation.mem_of_ofIssues counts)
      exact Or.inr (concernsLink_of_linkIssue wrong)

theorem validatePorts_eq_duplicateInput_iff :
    graph.validatePorts set = .duplicateInput ↔ set.entries ≠ [] ∧ set.clashes ≠ [] := by
  have judgement := graph.judgement_validatePorts set
  generalize graph.validatePorts set = verdict at judgement ⊢
  constructor
  · rintro rfl
    cases judgement with
    | clash ports clash => exact ⟨ports, clash⟩
    | links _ _ onLinks => exact absurd onLinks (by decide)
  · rintro ⟨ports, clash⟩
    cases judgement with
    | noPorts noPorts => exact absurd noPorts ports
    | clash => rfl
    | unfed distinct => exact absurd distinct clash
    | links distinct => exact absurd distinct clash

theorem validatePorts_eq_requiredConnectionsNotFulfilled_iff :
    graph.validatePorts set = .requiredConnectionsNotFulfilled ↔
      set.clashes = [] ∧ ∃ port ∈ set.ports, graph.IsUnfed port := by
  have judgement := graph.judgement_validatePorts set
  generalize graph.validatePorts set = verdict at judgement ⊢
  constructor
  · rintro rfl
    cases judgement with
    | unfed distinct unfed => exact ⟨distinct, unfed⟩
    | links _ _ onLinks => exact absurd onLinks (by decide)
  · rintro ⟨distinct, unfed⟩
    cases judgement with
    | noPorts noPorts => simp [PortSet.ports, noPorts] at unfed
    | clash _ clash => exact absurd distinct clash
    | unfed => rfl
    | links _ fed => exact absurd unfed fed

/-! ### Readiness -/

/-- The input that is reported is the first port in the set that is not fed. -/
theorem firstMissing?_eq_find? (graph : Graph) (set : PortSet) :
    graph.firstMissing? set = set.ports.find? fun port => graph.IsUnfed port := by
  rw [firstMissing?, inputsOf, ofDirection, List.find?_filter]
  congr 1
  funext port
  rw [decide_eq_decide, decide_eq_true_iff, IsUnfed]
  refine and_congr_right fun incoming => ?_
  simp [isMissing, isLinked, incoming]

theorem firstMissing?_eq_some_iff {port : PortId} :
    graph.firstMissing? set = some port ↔ ∃ earlier later, set.ports = earlier ++ port :: later ∧
      graph.IsUnfed port ∧ ∀ other ∈ earlier, ¬ graph.IsUnfed other := by
  rw [firstMissing?_eq_find?, List.find?_eq_some_iff_append, decide_eq_true_iff]
  simp only [Bool.not_eq_true', decide_eq_false_iff_not]
  constructor
  · rintro ⟨unfed, earlier, later, split, spared⟩
    exact ⟨earlier, later, split, unfed, spared⟩
  · rintro ⟨earlier, later, split, unfed, spared⟩
    exact ⟨unfed, earlier, later, split, spared⟩

theorem ensureRequired_eq_error_iff {failure : EvaluationError} :
    graph.ensureRequired set = .error failure ↔ ∃ port, graph.firstMissing? set = some port ∧
      failure = .notReady (graph.port port).owner (graph.port port).name := by
  unfold ensureRequired
  cases graph.firstMissing? set with
  | none => simp
  | some port => simp [eq_comm]

theorem ensureRequired_eq_ok_iff :
    graph.ensureRequired set = .ok () ↔ ∀ port ∈ set.ports, ¬ graph.IsUnfed port := by
  have found : graph.ensureRequired set = .ok () ↔ graph.firstMissing? set = none := by
    unfold ensureRequired
    cases graph.firstMissing? set with
    | none => simp
    | some port => simp
  rw [found, firstMissing?_eq_find?, List.find?_eq_none]
  simp only [decide_eq_true_iff]

/-! ### Ports that are gathered -/

theorem gather_eq_insertAll (graph : Graph) (ports : List PortId) :
    graph.gather ports =
      PortSet.empty.insertAll (ports.map fun port => ((graph.port port).name, port)) := by
  rw [PortSet.insertAll, List.foldl_map]
  rfl

theorem entries_gather_eq_nil_iff {ports : List PortId} :
    (graph.gather ports).entries = [] ↔ ports = [] := by
  rw [gather_eq_insertAll, PortSet.entries_insertAll_empty_eq_nil_iff, List.map_eq_nil_iff]

theorem clashes_gather_eq_nil_iff {ports : List PortId} :
    (graph.gather ports).clashes = [] ↔ (ports.map fun port => (graph.port port).name).Nodup := by
  have clashes := @PortSet.clashes_insertAll_eq_nil_iff .empty
    (ports.map fun port => ((graph.port port).name, port)) List.nodup_nil
  rw [gather_eq_insertAll, clashes, List.map_map]
  exact and_iff_right rfl

theorem holds_gather (graph : Graph) (ports : List PortId) :
    (graph.gather ports).Holds (fun port => (graph.port port).name) ports :=
  (PortSet.holds_empty _).insertEach ports

/-- The set of a node is gathered from the ports that its blueprint makes, in their order. -/
theorem MadeFrom.ports_eq_gather {id : NodeId} {plan : Blueprint} {first : PortId}
    (made : graph.MadeFrom id plan first) :
    (graph.node id).ports = graph.gather ((plan.numbered first).map Prod.snd) := by
  rw [made.ports, plan.portSet_eq_insertAll, gather_eq_insertAll, List.map_map]
  congr 1
  refine List.map_congr_left fun entry member => ?_
  exact congrArg (·, entry.2) (made.port entry.1 entry.2 member).name.symm

end Checks

theorem judges_gather (made now : Graph) (ports : List PortId) :
    now.Judges (made.gather ports) (ports.map fun port => (made.port port).name) where
  split := by
    rw [List.partition_eq_filter_filter]
    congr 1
    refine List.filter_congr fun port _ => ?_
    cases direction : (now.port port).direction <;> simp [direction]
  duplicate := by
    rw [validatePorts_eq_duplicateInput_iff, Ne, Ne, clashes_gather_eq_nil_iff,
      entries_gather_eq_nil_iff]
    refine and_iff_right_of_imp ?_
    rintro clash rfl
    exact clash List.nodup_nil
  ready := ensureRequired_eq_ok_iff
  notReady failure := by
    rw [ensureRequired_eq_error_iff]
    simp only [firstMissing?_eq_some_iff]
    constructor
    · rintro ⟨port, ⟨earlier, later, split, unfed, spared⟩, named⟩
      exact ⟨earlier, port, later, split, unfed, spared, named⟩
    · rintro ⟨earlier, port, later, split, unfed, spared, named⟩
      exact ⟨port, ⟨earlier, later, split, unfed, spared⟩, named⟩
  agree distinct := by
    rw [Ne, validatePorts_eq_requiredConnectionsNotFulfilled_iff, ensureRequired_eq_ok_iff,
      and_iff_right (clashes_gather_eq_nil_iff.mpr distinct)]
    simp

/-- Whatever ports are put into an empty set, it keeps the first of each name, in the order in which
the names came, and finds it by its name; and in every state of the links, its checks report a clash
just if a name came twice, and the first of its required inputs that is not linked. -/
theorem gather_lawful (made : Graph) (ports : List PortId) :
    (made.gather ports).Holds (fun port => (made.port port).name) ports ∧
      (∀ name port, (made.gather ports).get? name = some port ↔
        port ∈ (made.gather ports).ports ∧ (made.port port).name = name) ∧
      ∀ now : Graph,
        now.Judges (made.gather ports) (ports.map fun port => (made.port port).name) := by
  have holds := holds_gather made ports
  exact ⟨holds, fun _ _ => holds.get?_eq_some_iff, fun now => judges_gather made now ports⟩

end Graph

end DemandFlow
