import DemandFlow.Graph.Validation
import DemandFlow.Proofs.Graph.Coherence
import DemandFlow.Proofs.Graph.Registration
import Mathlib.Data.Set.Basic

/-!
Contract: what the structural check of a node finds.

Owns: findings in the order in which they count, and what the issues of single links amount to
where the two sides of every link agree.

Main statement: the check of a living node yields the first finding that applies, and so neither of
the two verdicts that no finding has (`Coherent.first_findings`).

Does not own: how freed inputs come to be listed and go again (`Proofs.History.Remains`).
-/

namespace DemandFlow

/-! ### Findings in order -/

/-- A verdict, and when it applies. -/
structure Finding where
  applies : Prop
  verdict : Validation

/-- The verdict belongs to the first of the findings that applies. -/
inductive Finding.First : List Finding → Validation → Prop where
  | here {finding : Finding} {rest : List Finding} (applies : finding.applies) :
      First (finding :: rest) finding.verdict
  | later {finding : Finding} {rest : List Finding} {verdict : Validation}
      (absent : ¬ finding.applies) (first : First rest verdict) : First (finding :: rest) verdict

theorem Finding.First.exists_mem {findings : List Finding} {verdict : Validation}
    (first : Finding.First findings verdict) : ∃ finding ∈ findings, finding.verdict = verdict := by
  induction first with
  | here => exact ⟨_, List.mem_cons_self, rfl⟩
  | later _ _ inductionHypothesis =>
      obtain ⟨finding, member, same⟩ := inductionHypothesis
      exact ⟨finding, List.mem_cons_of_mem _ member, same⟩

/-- A finding that does not apply can be left out. -/
theorem Finding.First.rest {finding : Finding} {rest : List Finding} {verdict : Validation}
    (first : Finding.First (finding :: rest) verdict) (absent : ¬ finding.applies) :
    Finding.First rest verdict := by
  cases first with
  | here applies => exact absurd applies absent
  | later _ first => exact first

/-! ### Issues of links -/

/-- Where there are but two sorts of issues, the one counts before the other. -/
theorem Validation.ofIssues_eq_some_iff {issues : List Validation}
    (two : ∀ issue ∈ issues, issue = .recursiveConnection ∨ issue = .nullConnectionPoint)
    {issue : Validation} :
    ofIssues issues = some issue ↔
      (issue = .recursiveConnection ∧ .recursiveConnection ∈ issues) ∨
        (issue = .nullConnectionPoint ∧ .recursiveConnection ∉ issues ∧
          .nullConnectionPoint ∈ issues) := by
  unfold ofIssues
  by_cases recursive : .recursiveConnection ∈ issues
  · simp [recursive, eq_comm]
  · cases issues with
    | nil => simp
    | cons first rest =>
        have differs : first ≠ .recursiveConnection := by
          rintro rfl
          exact recursive List.mem_cons_self
        have isNull := (two first List.mem_cons_self).resolve_left differs
        subst isNull
        simp [recursive, eq_comm]

namespace Graph

section Links

variable {graph : Graph}

/-- What is wrong with an entry whose input agrees to be linked to the output. -/
theorem Coherent.sinkIssue_eq (coherent : graph.Coherent) {output sink : PortId}
    (listed : sink ∈ (graph.port output).sinks) :
    graph.sinkIssue output sink =
      if graph.portAlive sink = true then
        if (graph.port sink).owner = (graph.port output).owner then some .recursiveConnection
        else none
      else some .nullConnectionPoint := by
  rw [sinkIssue, if_pos (coherent.answered output sink listed)]
  cases graph.portAlive sink <;> rfl

/-- A living input has no issue but that its link stays within its node. -/
theorem Coherent.linkIssue_input (coherent : graph.Coherent) {input : PortId}
    (incoming : (graph.port input).direction = .input) (alive : graph.portAlive input = true)
    (issue : Validation) :
    graph.linkIssue input = some issue ↔
      issue = .recursiveConnection ∧ ∃ output, (graph.port input).source = some output ∧
        (graph.port output).owner = (graph.port input).owner := by
  rw [linkIssue, incoming]
  dsimp only
  unfold sourceIssue
  cases linked : (graph.port input).source with
  | none => simp
  | some output =>
      have listed : (graph.port output).sinks.contains input = true := by
        simpa using coherent.listed input output alive linked
      by_cases same : (graph.port output).owner = (graph.port input).owner
      · simp [same, eq_comm]
      · simp only [if_neg same, if_pos listed]
        simp [same]

/-- An output has an issue if it lists a living input of its own node, or else if it lists a freed
one. -/
theorem Coherent.linkIssue_output (coherent : graph.Coherent) {output : PortId}
    (outgoing : (graph.port output).direction = .output) (issue : Validation) :
    graph.linkIssue output = some issue ↔
      (issue = .recursiveConnection ∧ ∃ input ∈ (graph.port output).sinks,
          graph.portAlive input = true ∧ (graph.port input).owner = (graph.port output).owner) ∨
        (issue = .nullConnectionPoint ∧
          (¬ ∃ input ∈ (graph.port output).sinks, graph.portAlive input = true ∧
            (graph.port input).owner = (graph.port output).owner) ∧
          ∃ input ∈ (graph.port output).sinks, graph.portAlive input = false) := by
  have mem_issues (found : Validation) :
      found ∈ (graph.port output).sinks.filterMap (graph.sinkIssue output) ↔
        (found = .recursiveConnection ∧ ∃ input ∈ (graph.port output).sinks,
          graph.portAlive input = true ∧ (graph.port input).owner = (graph.port output).owner) ∨
        (found = .nullConnectionPoint ∧ ∃ input ∈ (graph.port output).sinks,
          graph.portAlive input = false) := by
    rw [List.mem_filterMap]
    constructor
    · rintro ⟨input, listed, wrong⟩
      rw [coherent.sinkIssue_eq listed] at wrong
      split at wrong
      · rename_i alive
        split at wrong
        · rename_i same
          cases wrong
          exact Or.inl ⟨rfl, input, listed, alive, same⟩
        · cases wrong
      · rename_i freed
        cases wrong
        exact Or.inr ⟨rfl, input, listed, by simpa using freed⟩
    · rintro (⟨rfl, input, listed, alive, same⟩ | ⟨rfl, input, listed, freed⟩)
      · exact ⟨input, listed, by rw [coherent.sinkIssue_eq listed, if_pos alive, if_pos same]⟩
      · exact ⟨input, listed, by rw [coherent.sinkIssue_eq listed, freed]; rfl⟩
  have two : ∀ found ∈ (graph.port output).sinks.filterMap (graph.sinkIssue output),
      found = .recursiveConnection ∨ found = .nullConnectionPoint := fun found member =>
    ((mem_issues found).mp member).imp And.left And.left
  rw [linkIssue, outgoing]
  dsimp only
  rw [Validation.ofIssues_eq_some_iff two, mem_issues, mem_issues]
  simp

end Links

/-! ### The check of a node -/

/-- What the check of a node may find in its links. An output dangles towards the freed inputs that
it still lists. -/
def linkFindings (graph : Graph) (dangling : Set (PortId × PortId)) (id : NodeId) : List Finding :=
  [⟨∃ input output, graph.portAlive input = true ∧ (graph.port input).source = some output ∧
      (graph.port input).owner = id ∧ (graph.port output).owner = id, .recursiveConnection⟩,
    ⟨∃ link ∈ dangling, link.2 ∈ (graph.node id).outputs, .nullConnectionPoint⟩,
    ⟨True, .success⟩]

/-- What the check of a node may find, in the order in which it counts. -/
def findings (graph : Graph) (dangling : Set (PortId × PortId)) (id : NodeId) : List Finding :=
  ⟨graph.portsOf id = [], .neitherSourceNorDestination⟩ ::
    ⟨¬ ((graph.portsOf id).map fun port => (graph.port port).name).Nodup, .duplicateInput⟩ ::
    ⟨∃ input ∈ (graph.node id).ports.ports, (graph.port input).direction = .input ∧
      (graph.port input).required = true ∧ (graph.port input).source = none,
      .requiredConnectionsNotFulfilled⟩ ::
    graph.linkFindings dangling id

section Nodes

variable {admitted : Blueprint → Prop} {graph : Graph} {id : NodeId}

theorem any_isMissing_iff {set : PortSet} :
    (graph.inputsOf set).any graph.isMissing = true ↔
      ∃ input ∈ set.ports, (graph.port input).direction = .input ∧
        (graph.port input).required = true ∧ (graph.port input).source = none := by
  rw [List.any_eq_true]
  constructor
  · rintro ⟨input, member, missing⟩
    obtain ⟨registered, direction⟩ := List.mem_filter.mp member
    have incoming : (graph.port input).direction = .input := by simpa using direction
    refine ⟨input, registered, incoming, ?_⟩
    simpa [isMissing, isLinked, incoming] using missing
  · rintro ⟨input, registered, incoming, required, unlinked⟩
    refine ⟨input, List.mem_filter.mpr ⟨registered, by simpa using incoming⟩, ?_⟩
    simp [isMissing, isLinked, incoming, required, unlinked]

/-- The issues of the links of a node, as the check gathers them. -/
def linkIssues (graph : Graph) (id : NodeId) : List Validation :=
  (graph.node id).ports.ports.filterMap graph.linkIssue

theorem Shaped.mem_outputs_iff (shaped : graph.Shaped admitted) {output : PortId} :
    output ∈ (graph.node id).outputs ↔ (graph.port output).direction = .output ∧
      (graph.port output).owner = id ∧ (graph.port output).attached = true := by
  constructor
  · exact shaped.output
  · rintro ⟨outgoing, rfl, attached⟩
    have listed := (shaped.listed output attached).2
    rwa [outgoing] at listed

/-- The links of a living node have two sorts of issues: a link stays within the node, or an output
lists a freed input. -/
theorem Coherent.cause_of_mem_linkIssues (coherent : graph.Coherent)
    (shaped : graph.Shaped admitted) (alive : graph.nodeAlive id = true) {issue : Validation}
    (member : issue ∈ graph.linkIssues id) :
    (issue = .recursiveConnection ∧ ∃ input output, graph.portAlive input = true ∧
        (graph.port input).source = some output ∧ (graph.port input).owner = id ∧
        (graph.port output).owner = id) ∨
      (issue = .nullConnectionPoint ∧ ∃ output ∈ (graph.node id).outputs,
        ∃ input ∈ (graph.port output).sinks, graph.portAlive input = false) := by
  obtain ⟨port, registered, wrong⟩ := List.mem_filterMap.mp member
  obtain ⟨-, owner, attached⟩ := shaped.registered registered
  cases direction : (graph.port port).direction with
  | input =>
      have portAlive : graph.portAlive port = true := by
        rw [portAlive_iff, owner]
        exact Or.inr ⟨attached, alive⟩
      obtain ⟨rfl, output, linked, same⟩ :=
        (coherent.linkIssue_input direction portAlive issue).mp wrong
      exact Or.inl ⟨rfl, port, output, portAlive, linked, owner, same.trans owner⟩
  | output =>
      rcases (coherent.linkIssue_output direction issue).mp wrong with
        ⟨rfl, input, listed, inputAlive, same⟩ | ⟨rfl, -, dead⟩
      · exact Or.inl ⟨rfl, input, port, inputAlive, coherent.answered port input listed,
          same.trans owner, owner⟩
      · exact Or.inr ⟨rfl, port, shaped.mem_outputs_iff.mpr ⟨direction, owner, attached⟩, dead⟩

/-- If all ports of a living node are registered, a link within the node is found. -/
theorem Coherent.recursive_mem_linkIssues (coherent : graph.Coherent)
    (shaped : graph.Shaped admitted)
    (registered : ∀ port ∈ graph.portsOf id, port ∈ (graph.node id).ports.ports)
    {input output : PortId} (alive : graph.portAlive input = true)
    (linked : (graph.port input).source = some output) (inputOwner : (graph.port input).owner = id)
    (outputOwner : (graph.port output).owner = id) :
    .recursiveConnection ∈ graph.linkIssues id := by
  obtain ⟨-, outgoing, -, attached⟩ := coherent.joins input output linked
  have isOutput := shaped.mem_outputs_iff.mpr ⟨outgoing, outputOwner, attached⟩
  refine List.mem_filterMap.mpr ⟨output, registered output (List.mem_append_right _ isOutput), ?_⟩
  exact (coherent.linkIssue_output outgoing _).mpr (Or.inl ⟨rfl, input,
    coherent.listed input output alive linked, alive, inputOwner.trans outputOwner.symm⟩)

/-- If all ports of a living node are registered and no link stays within the node, an output that
lists a freed input is found. -/
theorem Coherent.null_mem_linkIssues (coherent : graph.Coherent) (shaped : graph.Shaped admitted)
    (registered : ∀ port ∈ graph.portsOf id, port ∈ (graph.node id).ports.ports)
    (noLoop : .recursiveConnection ∉ graph.linkIssues id) {input output : PortId}
    (isOutput : output ∈ (graph.node id).outputs) (listed : input ∈ (graph.port output).sinks)
    (freed : graph.portAlive input = false) : .nullConnectionPoint ∈ graph.linkIssues id := by
  obtain ⟨outgoing, owner, -⟩ := shaped.output isOutput
  refine List.mem_filterMap.mpr ⟨output, registered output (List.mem_append_right _ isOutput), ?_⟩
  refine (coherent.linkIssue_output outgoing _).mpr (Or.inr ⟨rfl, ?_, input, listed, freed⟩)
  rintro ⟨other, otherListed, otherAlive, same⟩
  exact noLoop (coherent.recursive_mem_linkIssues shaped registered otherAlive
    (coherent.answered output other otherListed) (same.trans owner) owner)

section Findings

variable {dangling : Set (PortId × PortId)}

/-- If all ports of a living node are registered, the issues of its links amount to the first
finding that applies. -/
theorem Coherent.first_linkFindings (coherent : graph.Coherent) (shaped : graph.Shaped admitted)
    (alive : graph.nodeAlive id = true)
    (registered : ∀ port ∈ graph.portsOf id, port ∈ (graph.node id).ports.ports)
    (lists : ∀ input output, (input, output) ∈ dangling ↔
      input ∈ (graph.port output).sinks ∧ graph.portAlive input = false) :
    Finding.First (graph.linkFindings dangling id)
      ((Validation.ofIssues (graph.linkIssues id)).getD .success) := by
  have cause {issue : Validation} (member : issue ∈ graph.linkIssues id) :=
    coherent.cause_of_mem_linkIssues shaped alive member
  have two : ∀ issue ∈ graph.linkIssues id,
      issue = .recursiveConnection ∨ issue = .nullConnectionPoint :=
    fun issue member => (cause member).imp And.left And.left
  cases outcome : Validation.ofIssues (graph.linkIssues id) with
  | some issue =>
      rcases (Validation.ofIssues_eq_some_iff two).mp outcome with
        ⟨rfl, loop⟩ | ⟨rfl, noLoop, null⟩
      · obtain ⟨-, within⟩ := (cause loop).resolve_right fun null => by cases null.1
        exact .here within
      · obtain ⟨-, output, isOutput, input, listed, freed⟩ :=
          (cause null).resolve_left fun loop => by cases loop.1
        refine .later ?_ (.here ⟨(input, output), (lists input output).mpr ⟨listed, freed⟩, isOutput⟩)
        rintro ⟨other, source, otherAlive, linked, owner, sourceOwner⟩
        exact noLoop (coherent.recursive_mem_linkIssues shaped registered otherAlive linked owner
          sourceOwner)
  | none =>
      have unfound {issue : Validation}
          (found : Validation.ofIssues (graph.linkIssues id) = some issue) : False := by
        rw [outcome] at found
        cases found
      have noLoop : .recursiveConnection ∉ graph.linkIssues id := fun loop =>
        unfound ((Validation.ofIssues_eq_some_iff two).mpr (Or.inl ⟨rfl, loop⟩))
      refine .later ?_ (.later ?_ (.here trivial))
      · rintro ⟨input, output, inputAlive, linked, owner, sourceOwner⟩
        exact noLoop (coherent.recursive_mem_linkIssues shaped registered inputAlive linked owner
          sourceOwner)
      · rintro ⟨⟨input, output⟩, dangles, isOutput⟩
        obtain ⟨listed, freed⟩ := (lists input output).mp dangles
        have null := coherent.null_mem_linkIssues shaped registered noLoop isOutput listed freed
        exact unfound ((Validation.ofIssues_eq_some_iff two).mpr (Or.inr ⟨rfl, noLoop, null⟩))

/-- The check of a living node yields the first finding that applies. -/
theorem Coherent.first_findings (coherent : graph.Coherent) (shaped : graph.Shaped admitted)
    (alive : graph.nodeAlive id = true)
    (lists : ∀ input output, (input, output) ∈ dangling ↔
      input ∈ (graph.port output).sinks ∧ graph.portAlive input = false) :
    Finding.First (graph.findings dangling id) (graph.validate id) := by
  have made := (nodeAlive_iff.mp alive).1
  have noPorts := shaped.entries_eq_nil_iff made
  have noClash := shaped.clashes_eq_nil_iff made
  unfold validate validatePorts
  by_cases empty : graph.portsOf id = []
  · rw [if_pos (by simpa using noPorts.mpr empty)]
    exact .here empty
  rw [if_neg (by simpa using fun none => empty (noPorts.mp none))]
  refine .later empty ?_
  by_cases distinct : ((graph.portsOf id).map fun port => (graph.port port).name).Nodup
  swap
  · rw [if_pos (by simpa using fun none => distinct (noClash.mp none))]
    exact .here distinct
  rw [if_neg (by simpa using noClash.mpr distinct)]
  refine .later (not_not_intro distinct) ?_
  by_cases missing : ∃ input ∈ (graph.node id).ports.ports, (graph.port input).direction = .input ∧
      (graph.port input).required = true ∧ (graph.port input).source = none
  · rw [if_pos (any_isMissing_iff.mpr missing)]
    exact .here missing
  rw [if_neg fun found => missing (any_isMissing_iff.mp found)]
  exact .later missing (coherent.first_linkFindings shaped alive
    (fun port => (shaped.mem_registered_iff made distinct).mpr) lists)

end Findings

end Nodes

end Graph

end DemandFlow
