import DemandFlow.Proofs.Evaluation.Account
import DemandFlow.Proofs.Graph.Verdict
import DemandFlow.Proofs.History.LinkMap

/-!
Contract: what a history leaves of the links to inputs that have been freed.

Owns: when an action tidies the list of an output, the record that a history keeps of freed inputs,
and that the lists of the graph agree with it.

Main statement: in every reachable graph the check of a node yields the first finding that applies,
where an output dangles towards the inputs that were freed while it fed them and not tidied away
since (`Reachable.validated`).

Does not own: the links of living inputs (`Proofs.History.LinkMap`) and what the check gathers
(`Proofs.Graph.Verdict`).
-/

namespace DemandFlow

/-- Whether an action drops the freed inputs that an output lists: it publishes on the output, it
disconnects the output, or it takes another input off it. -/
inductive Action.Tidies (graph : Graph) (output : PortId) : Action → Prop where
  | publish (value : Value) : Tidies graph output (.publish output value)
  | demand {pass : Pass} {node : NodeId} {after : Run}
      {result : Except EvaluationError (List Value)} {events : List Event}
      (performs : Performs (.demand node) ⟨graph, pass⟩ result after events)
      (published : .published output ∈ events) : Tidies graph output (.demand pass node)
  | pull {pass : Pass} {input : PortId} {after : Run}
      {result : Except EvaluationError (List Value)} {events : List Event}
      (performs : Performs (.pull [input]) ⟨graph, pass⟩ result after events)
      (published : .published output ∈ events) : Tidies graph output (.pull pass input)
  | disconnect (outgoing : (graph.port output).direction = .output) :
      Tidies graph output (.disconnect output)
  | unlink {input : PortId} (incoming : (graph.port input).direction = .input)
      (linked : (graph.port input).source = some output) : Tidies graph output (.disconnect input)
  | relink {request : LinkRequest} {after : Graph} {input source : PortId}
      (granted : request.run graph = .ok () after)
      (meant : request.endpoints graph = some (input, source))
      (linked : (graph.port input).source = some output) : Tidies graph output (.link request)

/-- A graph that allowed actions lead to, with the map of its links and with the links that remain
on the side of the output alone: those whose input was freed, as long as no action has tidied the
output since. -/
inductive Record (admitted : Blueprint → Prop) : Graph → LinkMap → Set (PortId × PortId) → Prop where
  | empty : Record admitted .empty [] ∅
  | step {graph : Graph} {links : LinkMap} {remains : Set (PortId × PortId)} {action : Action}
      (record : Record admitted graph links remains) (allowed : action.Allowed admitted graph) :
      Record admitted (action.apply graph)
        ((action.edit graph links).prune (action.apply graph).portAlive)
        {link | link ∈ remains ∧ ¬ action.Tidies graph link.2 ∨
          link ∈ action.edit graph links ∧ (action.apply graph).portAlive link.1 = false}

/-! ### What an output lists -/

namespace Graph

theorem mem_sinks_iff {graph : Graph} {input output : PortId} :
    input ∈ (graph.port output).sinks ↔ input ∈ graph.liveSinks output ∨
      input ∈ (graph.port output).sinks ∧ graph.portAlive input = false := by
  rw [mem_liveSinks]
  cases graph.portAlive input <;> simp

/-- Clearing an input takes it off its source and tidies that source. -/
theorem Coherent.mem_sinks_clearSource {graph : Graph} (coherent : graph.Coherent)
    {cleared input output : PortId} :
    input ∈ ((graph.clearSource cleared).port output).sinks ↔
      input ∈ graph.liveSinks output ∧ input ≠ cleared ∨
        input ∈ (graph.port output).sinks ∧ graph.portAlive input = false ∧
          (graph.port cleared).source ≠ some output := by
  rw [port_clearSource]
  dsimp only
  split
  · rename_i linked
    simp [linked]
  · rename_i unlinked
    have differs (listed : input ∈ (graph.port output).sinks) : input ≠ cleared := by
      rintro rfl
      exact unlinked (coherent.answered output input listed)
    constructor
    · intro listed
      cases alive : graph.portAlive input with
      | true => exact Or.inl ⟨mem_liveSinks.mpr ⟨listed, alive⟩, differs listed⟩
      | false => exact Or.inr ⟨listed, rfl, unlinked⟩
    · rintro (⟨live, -⟩ | ⟨listed, -⟩)
      · exact (mem_liveSinks.mp live).1
      · exact listed

end Graph

section Actions

variable {admitted : Blueprint → Prop} {graph : Graph} {links : LinkMap} {action : Action}
  {input output : PortId}

/-- What an output lists after an action: the inputs that the changed map gives it, and the freed
inputs that it listed, unless the action tidies them away. -/
def Action.Lists (action : Action) (graph : Graph) (links : LinkMap) (input output : PortId) :
    Prop :=
  (input, output) ∈ action.edit graph links ∨
    input ∈ (graph.port output).sinks ∧ graph.portAlive input = false ∧
      ¬ action.Tidies graph output

theorem Action.lists_of_kept (unedited : action.edit graph links = links)
    (sinks : graph.liveSinks output = links.sinksOf output)
    (kept : ((action.apply graph).port output).sinks = (graph.port output).sinks)
    (spared : ¬ action.Tidies graph output) :
    input ∈ ((action.apply graph).port output).sinks ↔ action.Lists graph links input output := by
  rw [kept, Graph.mem_sinks_iff, sinks, LinkMap.mem_sinksOf, Lists, unedited]
  simp [spared]

theorem Action.lists_of_tidied (unedited : action.edit graph links = links)
    (sinks : graph.liveSinks output = links.sinksOf output)
    (tidied : ((action.apply graph).port output).sinks = graph.liveSinks output)
    (tidies : action.Tidies graph output) :
    input ∈ ((action.apply graph).port output).sinks ↔ action.Lists graph links input output := by
  rw [tidied, sinks, LinkMap.mem_sinksOf, Lists, unedited]
  simp [tidies]

/-- A task tidies the outputs that it publishes on, and no others. -/
theorem Action.lists_of_performed {pass : Pass} {task : Task} {after : Run}
    {result : Except EvaluationError (List Value)} {events : List Event}
    (unedited : action.edit graph links = links)
    (sinks : graph.liveSinks output = links.sinksOf output)
    (performs : Performs task ⟨graph, pass⟩ result after events)
    (left : action.apply graph = after.graph)
    (tidies : .published output ∈ events → action.Tidies graph output)
    (published : action.Tidies graph output → .published output ∈ events) :
    input ∈ ((action.apply graph).port output).sinks ↔ action.Lists graph links input output := by
  by_cases onWay : .published output ∈ events
  · apply lists_of_tidied unedited sinks _ (tidies onWay)
    rw [left]
    exact performs.account.tidied output onWay
  · apply lists_of_kept unedited sinks _ fun tidied => onWay (published tidied)
    rw [left]
    exact performs.account.untouched output onWay

theorem Action.tidies_disconnect_input_iff {port : PortId}
    (incoming : (graph.port port).direction = .input) :
    (Action.disconnect port).Tidies graph output ↔ (graph.port port).source = some output := by
  constructor
  · intro tidies
    cases tidies with
    | disconnect outgoing => simp [incoming] at outgoing
    | unlink _ linked => exact linked
  · exact .unlink incoming

theorem Action.tidies_disconnect_output_iff {port : PortId}
    (outgoing : (graph.port port).direction = .output) :
    (Action.disconnect port).Tidies graph output ↔ output = port := by
  constructor
  · intro tidies
    cases tidies with
    | disconnect => rfl
    | unlink incoming => simp [outgoing] at incoming
  · rintro rfl
    exact .disconnect outgoing

theorem Action.tidies_link_iff {request : LinkRequest} {after : Graph} {joined source : PortId}
    (granted : request.run graph = .ok () after)
    (meant : request.endpoints graph = some (joined, source)) :
    (Action.link request).Tidies graph output ↔ (graph.port joined).source = some output := by
  constructor
  · intro tidies
    cases tidies with
    | relink _ meantToo linked =>
        rw [meant] at meantToo
        cases meantToo
        exact linked
  · exact .relink granted meant

theorem Action.lists_disconnect (coherent : graph.Coherent)
    (sinks : ∀ output, graph.liveSinks output = links.sinksOf output) (port : PortId) :
    input ∈ ((graph.disconnect port).port output).sinks ↔
      (Action.disconnect port).Lists graph links input output := by
  unfold Graph.disconnect
  cases direction : (graph.port port).direction with
  | input =>
      have edited : (Action.disconnect port).edit graph links = links.cutInput port := by
        rw [edit, direction]
      dsimp only
      rw [Graph.port_collect, coherent.mem_sinks_clearSource, sinks, LinkMap.mem_sinksOf, Lists,
        tidies_disconnect_input_iff direction, edited]
      simp [LinkMap.cutInput]
  | output =>
      have edited : (Action.disconnect port).edit graph links = links.cutOutput port := by
        rw [edit, direction]
      dsimp only
      rw [Graph.port_collect, Graph.port_clearSinks]
      dsimp only
      by_cases same : output = port
      · rw [if_pos same, Lists, tidies_disconnect_output_iff direction, edited]
        simp [same, LinkMap.cutOutput]
      · rw [if_neg same, Graph.mem_sinks_iff, sinks, LinkMap.mem_sinksOf, Lists,
          tidies_disconnect_output_iff direction, edited]
        simp [same, LinkMap.cutOutput]

theorem Action.lists_link (sound : graph.Sound admitted) {request : LinkRequest}
    (allowed : request.Allowed graph)
    (sinks : ∀ output, graph.liveSinks output = links.sinksOf output) :
    input ∈ ((request.perform graph).port output).sinks ↔
      (Action.link request).Lists graph links input output := by
  obtain ⟨joined, source, joins⟩ | ⟨cause, refused⟩ :=
    LinkRequest.joins_or_refused sound allowed
  · have inputMade : joined < (graph.clearSource joined).ports.size := by
      rw [(Graph.sameShape_clearSource graph joined).ports_size]
      exact Graph.port_lt_of_portAlive joins.alive
    have outputMade : source < (graph.clearSource joined).ports.size := by
      rw [(Graph.sameShape_clearSource graph joined).ports_size]
      exact Graph.port_lt_of_attached (Bool.and_eq_true_iff.mp joins.feeds).1
    rw [joins.perform, Lists, edit, joins.granted, joins.meant,
      tidies_link_iff joins.granted joins.meant]
    dsimp only
    rw [Graph.setSource, Graph.port_collect, Graph.port_attach inputMade outputMade]
    dsimp only
    rw [List.mem_append, sound.coherent.mem_sinks_clearSource, sinks, LinkMap.mem_sinksOf,
      LinkMap.join, List.mem_append, LinkMap.cutInput, List.mem_filter]
    by_cases same : output = source
    · simp [same, or_right_comm]
    · simp [same]
  · have unchanged : (Action.link request).apply graph = graph :=
      LinkRequest.perform_of_refused refused
    refine lists_of_kept ?_ (sinks output) (by rw [unchanged]) ?_
    · rw [edit, refused]
    · intro tidies
      cases tidies with
      | relink granted =>
          rw [refused] at granted
          cases granted

/-- What an output lists after an allowed action. -/
theorem Action.mem_sinks_apply (sound : graph.Sound admitted)
    (allowed : action.Allowed admitted graph)
    (sinks : ∀ output, graph.liveSinks output = links.sinksOf output) (input output : PortId) :
    input ∈ ((action.apply graph).port output).sinks ↔ action.Lists graph links input output := by
  have listed := sinks output
  cases relists : action.relists with
  | false =>
      refine lists_of_kept (edit_eq relists graph links) listed (sinks_apply relists graph output) ?_
      intro tidies
      cases tidies <;> cases relists
  | true =>
      cases action with
      | publish target value =>
          have published := graph.sinks_publish target output value
          by_cases same : output = target
          · subst same
            exact lists_of_tidied rfl listed (published.trans (if_pos rfl)) (.publish value)
          · refine lists_of_kept rfl listed (published.trans (if_neg same)) fun tidies => ?_
            cases tidies
            exact same rfl
      | link request => exact lists_link sound allowed sinks
      | disconnect port => exact lists_disconnect sound.coherent sinks port
      | demand pass node =>
          obtain ⟨events, performs⟩ :=
            performs_compute ⟨graph, pass⟩ (Graph.nodeAlive_iff.mp allowed).1
          refine lists_of_performed rfl listed performs rfl (.demand performs) fun tidies => ?_
          cases tidies with
          | demand performsToo published => rwa [(performs.unique performsToo).2.2] at published
      | pull pass target =>
          obtain ⟨events, performs⟩ := performs_pull ⟨graph, pass⟩ target
          refine lists_of_performed rfl listed performs rfl (.pull performs) fun tidies => ?_
          cases tidies with
          | pull performsToo published => rwa [(performs.unique performsToo).2.2] at published
      | _ => cases relists

end Actions

/-! ### Records -/

namespace Record

variable {admitted : Blueprint → Prop} {graph : Graph} {links : LinkMap}
  {remains : Set (PortId × PortId)}

theorem history (record : Record admitted graph links remains) : History admitted graph links := by
  induction record with
  | empty => exact .empty
  | step _ allowed inductionHypothesis => exact inductionHypothesis.step allowed

/-- The record tells exactly which freed inputs an output still lists. -/
theorem mem_iff (record : Record admitted graph links remains) (input output : PortId) :
    (input, output) ∈ remains ↔
      input ∈ (graph.port output).sinks ∧ graph.portAlive input = false := by
  induction record with
  | empty =>
      have unlisted : (Graph.empty.port output).sinks = [] := by
        rw [Graph.port_of_size_le (Nat.zero_le output)]
        rfl
      simp [unlisted]
  | @step graph links remains action record allowed inductionHypothesis =>
      have sound := record.history.reachable.sound
      -- An entry of a freed input can only be tidied away, since no action brings the input back.
      have staysFreed (listed : input ∈ (graph.port output).sinks)
          (freed : graph.portAlive input = false) :
          (action.apply graph).portAlive input = false := by
        have linked := sound.coherent.answered output input listed
        rw [← Bool.not_eq_true] at freed ⊢
        exact fun alive => freed (Action.portAlive_of_apply sound allowed
          (Graph.port_lt_of_source linked) (sound.coherent.joins input output linked).1 alive)
      rw [Action.mem_sinks_apply sound allowed record.history.liveSinks, Action.Lists]
      show ((input, output) ∈ remains ∧ ¬ action.Tidies graph output ∨
        (input, output) ∈ action.edit graph links ∧
          (action.apply graph).portAlive input = false) ↔ _
      rw [inductionHypothesis]
      constructor
      · rintro (⟨⟨listed, freed⟩, spared⟩ | ⟨mapped, freed⟩)
        · exact ⟨Or.inr ⟨listed, freed, spared⟩, staysFreed listed freed⟩
        · exact ⟨Or.inl mapped, freed⟩
      · rintro ⟨mapped | ⟨listed, freed, spared⟩, freedAfter⟩
        · exact Or.inr ⟨mapped, freedAfter⟩
        · exact Or.inl ⟨⟨listed, freed⟩, spared⟩

end Record

/-- Every reachable graph has a record. -/
theorem Reachable.exists_record {admitted : Blueprint → Prop} {graph : Graph}
    (reachable : Reachable admitted graph) : ∃ links remains, Record admitted graph links remains := by
  induction reachable with
  | empty => exact ⟨[], ∅, .empty⟩
  | step _ allowed inductionHypothesis =>
      obtain ⟨links, remains, record⟩ := inductionHypothesis
      exact ⟨_, _, record.step allowed⟩

/-- Whatever led to a graph, the check of a living node yields the first finding that applies, and
never one of the two verdicts that no finding has. Every reachable graph has a record, and every
record tells towards which freed inputs an output dangles. -/
theorem Reachable.validated {admitted : Blueprint → Prop} {graph : Graph}
    (reachable : Reachable admitted graph) :
    (∃ links remains, Record admitted graph links remains) ∧
      ∀ links remains, Record admitted graph links remains → ∀ id, graph.nodeAlive id = true →
        Finding.First (graph.findings remains id) (graph.validate id) ∧
          graph.validate id ≠ .invalidSource ∧ graph.validate id ≠ .invalidDestination := by
  refine ⟨reachable.exists_record, ?_⟩
  intro links remains record id alive
  have first : Finding.First (graph.findings remains id) (graph.validate id) :=
    reachable.sound.coherent.first_findings reachable.sound.shaped alive record.mem_iff
  obtain ⟨finding, member, verdict⟩ := first.exists_mem
  refine ⟨first, ?_⟩
  rw [← verdict]
  simp only [Graph.findings, Graph.linkFindings, List.mem_cons, List.not_mem_nil, or_false] at member
  rcases member with rfl | rfl | rfl | rfl | rfl | rfl <;> simp

/-- A constant whose only reader has been freed. -/
theorem Reachable.validated_release_negation :
    ∃ remains, (1, 0) ∈ remains ∧
      Finding.First ((Graph.negation.release 1).findings remains 0) .nullConnectionPoint := by
  have reachable : Reachable Blueprint.IsLibrary (Graph.negation.release 1) :=
    History.negation.reachable.step
      (show (Action.release 1).Allowed Blueprint.IsLibrary Graph.negation by
        change 0 < (Graph.negation.node 1).held
        decide)
  obtain ⟨⟨links, remains, record⟩, validated⟩ := Reachable.validated reachable
  obtain ⟨first, -⟩ := validated links remains record 0 (by decide +kernel)
  have verdict : (Graph.negation.release 1).validate 0 = .nullConnectionPoint := by decide +kernel
  rw [verdict] at first
  exact ⟨remains, (record.mem_iff 1 0).mpr (by decide +kernel), first⟩

end DemandFlow
