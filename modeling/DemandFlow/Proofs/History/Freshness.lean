import DemandFlow.Proofs.Evaluation.Delivery
import DemandFlow.Proofs.History.Assembly
import DemandFlow.Proofs.History.Session

/-!
Contract: in a session, inputs read what their sources hold.

Owns: which edits between two demands a pass that memoizes can bear.

Main statement: in a session over a graph assembled from library nodes, whatever is read is what
the source of the input holds at that moment, if the pass is plain, or if between its demands
nothing writes values and no input is linked to a node that the pass has completed
(`Assembled.session_faithful`). A link that is made later than that delivers nothing
(`Session.lateLink_unfaithful`).

Does not own: what the nodes compute from what is read (`Proofs.Evaluation.Outcome`).
-/

namespace DemandFlow

/-! ### New links -/

theorem Action.mem_edit {graph : Graph} {links : LinkMap} {action : Action}
    {link : PortId × PortId} (member : link ∈ action.edit graph links) :
    link ∈ links ∨ ∃ request, action = .link request ∧ request.endpoints graph = some link := by
  unfold edit at member
  split at member
  · rename_i request
    split at member
    · rename_i endpoints
      rcases List.mem_append.mp member with kept | added
      · exact Or.inl (List.mem_filter.mp kept).1
      · rw [List.mem_singleton.mp added]
        exact Or.inr ⟨request, rfl, endpoints⟩
    · exact Or.inl member
  · split at member
    · exact Or.inl (List.mem_filter.mp member).1
    · exact Or.inl (List.mem_filter.mp member).1
  · exact Or.inl member

/-- A living link after an action was one before, or is the one that the action was to make. -/
theorem Reachable.linked_apply {admitted : Blueprint → Prop} {graph : Graph}
    (reachable : Reachable admitted graph) {action : Action}
    (allowed : action.Allowed admitted graph) {input output : PortId}
    (alive : (action.apply graph).portAlive input = true)
    (linked : ((action.apply graph).port input).source = some output) :
    (graph.portAlive input = true ∧ (graph.port input).source = some output) ∨
      ∃ request, action = .link request ∧ request.endpoints graph = some (input, output) := by
  obtain ⟨links, history⟩ := reachable.exists_history
  have listed : input ∈ (action.apply graph).liveSinks output :=
    (reachable.step allowed).sound.coherent.mem_liveSinks_iff.mpr ⟨alive, linked⟩
  rw [Action.liveSinks_apply reachable.sound allowed history.liveSinks, List.mem_filter,
    LinkMap.mem_sinksOf] at listed
  rcases Action.mem_edit listed.1 with before | made
  · rw [← LinkMap.mem_sinksOf, ← history.liveSinks] at before
    exact Or.inl (reachable.sound.coherent.mem_liveSinks_iff.mp before)
  · exact Or.inr made

/-! ### Edits that a pass can bear -/

/-- A request means to link an input to an output of a node that the pass has completed. -/
def LinkRequest.IsLate (run : Run) (request : LinkRequest) : Prop :=
  ∃ input output, request.endpoints run.graph = some (input, output) ∧
    (run.graph.port output).owner ∈ run.pass.completed

/-- What may be done between two demands so that a pass can go on to rely on what it remembers. A
plain pass remembers nothing. -/
def Action.Bearable (run : Run) (action : Action) : Prop :=
  action.Assembles ∧
    (run.pass.memoized = true → action.writesValues = false ∧
      ∀ request, action = .link request → ¬ request.IsLate run)

/-- An edit that a pass can bear leaves it able to rely on what it remembers. -/
theorem Action.Bearable.reliable {admitted : Blueprint → Prop} {run : Run} {action : Action}
    (bearable : action.Bearable run) (reachable : Reachable admitted run.graph)
    (allowed : action.Allowed admitted run.graph) (reliable : run.Reliable) :
    (run.mapGraph fun graph => action.apply graph).Reliable := by
  intro node known input output alive linked owner
  have reusable : run.pass.canReuse node = true := known
  obtain ⟨memoizes, completed⟩ := Bool.and_eq_true_iff.mp reusable
  obtain ⟨silent, timely⟩ := bearable.2 memoizes
  have sound := reachable.sound
  show ((action.apply run.graph).port input).value = ((action.apply run.graph).port output).value
  rcases reachable.linked_apply allowed alive linked with
    ⟨aliveBefore, linkedBefore⟩ | ⟨request, rfl, endpoints⟩
  · have made := Graph.port_lt_of_attached (sound.coherent.joins input output linkedBefore).2.2.2
    have ownerBefore : (run.graph.port output).owner = node :=
      (action.sameShape_port sound allowed made).owner.symm.trans owner
    rw [action.value_apply sound allowed silent (Graph.port_lt_of_portAlive aliveBefore),
      action.value_apply sound allowed silent made]
    exact reliable node reusable input output aliveBefore linkedBefore ownerBefore
  · have shape := Action.sameShape_apply sound allowed rfl
    have ownerBefore : (run.graph.port output).owner = node :=
      (shape.port output).owner.symm.trans owner
    refine absurd ⟨input, output, endpoints, ?_⟩ (timely request rfl)
    rw [ownerBefore]
    simpa using completed

/-! ### Sessions -/

/-- In a session over a graph that is assembled from library nodes, every value that is read, at
whatever depth, is the one that the source of the input holds at that moment: always on a plain
pass, and on a pass that memoizes as long as the edits between its demands are such as it can
bear. Edits make nodes with their ports, and no ports apart from nodes. -/
theorem Assembled.session_faithful {graph : Graph}
    (assembled : Assembled Blueprint.IsLibrary graph) {memoized : Bool} {run : Run}
    {events : List Event}
    (session : Session Blueprint.IsLibrary (fun run action => action.Bearable run)
      ⟨graph, .fresh memoized⟩ run events) :
    ∀ event ∈ events, event.Faithful := by
  -- The session keeps the graph assembled and the memory of the pass reliable.
  suffices both : Assembled Blueprint.IsLibrary run.graph ∧ run.Reliable ∧
      ∀ event ∈ events, event.Faithful from both.2.2
  induction session with
  | begin =>
      refine ⟨assembled, fun node known => ?_, by simp⟩
      have none : (Pass.fresh memoized).canReuse node = true := known
      simp [Pass.canReuse] at none
  | edit _ allowed bearable inductionHypothesis =>
      obtain ⟨before, reliable, faithful⟩ := inductionHypothesis
      exact ⟨before.step allowed bearable.1,
        bearable.reliable before.reachable allowed reliable, faithful⟩
  | @demand run _ _ id _ alive performs inductionHypothesis =>
      obtain ⟨before, reliable, faithful⟩ := inductionHypothesis
      have delivers := performs.delivers before.sound alive reliable
      have allowed : (Action.demand run.pass id).Allowed Blueprint.IsLibrary run.graph := alive
      refine ⟨before.step allowed trivial, delivers.reliable, ?_⟩
      intro event member
      exact (List.mem_append.mp member).elim (faithful event) (delivers.faithful event)
  | @pull run _ _ input _ present performs inductionHypothesis =>
      obtain ⟨before, reliable, faithful⟩ := inductionHypothesis
      obtain ⟨kind, here, incoming, sameKind⟩ := present
      have alive := before.sound.coherent.portAlive_of_present here incoming
      have fits : (Task.pull [input]).Fits run.graph := by
        intro other member
        rw [List.mem_singleton.mp member]
        exact ⟨alive, before.required alive incoming⟩
      have delivers := performs.delivers before.sound fits reliable
      have allowed : (Action.pull run.pass input).Allowed Blueprint.IsLibrary run.graph :=
        ⟨kind, here, incoming, sameKind⟩
      refine ⟨before.step allowed trivial, delivers.reliable, ?_⟩
      intro event member
      exact (List.mem_append.mp member).elim (faithful event) (delivers.faithful event)

/-- A constant may be set between two demands, since that writes no value yet. -/
theorem Assembled.session_faithful_negation :
    ∃ run events held,
      Session Blueprint.IsLibrary (fun run action => action.Bearable run)
        ⟨Graph.negation, .fresh true⟩ run events ∧
      .read 1 ⟨.bool, false⟩ held ∈ events ∧ held = some ⟨.bool, false⟩ := by
  let start : Run := ⟨Graph.negation.setConstant 0 ⟨.bool, false⟩, .memoizing⟩
  have bearable : (Action.setConstant 0 ⟨.bool, false⟩).Bearable ⟨Graph.negation, .memoizing⟩ :=
    ⟨trivial, fun _ => ⟨rfl, fun request impossible => by cases impossible⟩⟩
  have session : Session Blueprint.IsLibrary (fun run action => action.Bearable run)
      ⟨Graph.negation, .fresh true⟩ start [] :=
    Session.begin.edit
      (show (Action.setConstant 0 ⟨.bool, false⟩).Allowed Blueprint.IsLibrary _ from
        ⟨by decide, rfl⟩) bearable
  have behaviour : (start.graph.node 0).behaviour = .constant ⟨.bool, false⟩ := rfl
  have demand : Performs (.demand 0) start (.ok []) _ _ :=
    .complete (by decide) rfl (.constant behaviour)
  have fed : start.graph.sourceNode? 1 = some 0 := rfl
  have pull : Performs (.pull [1]) start _ _ _ := .receive fed demand .done
  obtain ⟨events, performs⟩ := performs_pull start 1
  have present : start.graph.PresentInput 1 .bool := ⟨Or.inl (by decide), rfl, rfl⟩
  have whole := session.pull ⟨_, present⟩ performs
  obtain ⟨-, -, same⟩ := pull.unique performs
  have read : .read 1 ⟨.bool, false⟩ (some ⟨.bool, false⟩) ∈ [] ++ events := by
    rw [List.nil_append, same]
    exact List.mem_append_right _ List.mem_cons_self
  exact ⟨_, _, _, whole, read, Assembled.session_faithful Assembled.negation whole _ read⟩

/-- An input that is linked to a node that the pass has completed already is not delivered to: it
reads as what it held before, though its source holds another value. -/
theorem Session.lateLink_unfaithful :
    Assembled Blueprint.IsLibrary Graph.apart ∧ ∃ run events,
      Session Blueprint.IsLibrary (fun _ action => action.Assembles) ⟨Graph.apart, .fresh true⟩ run
        events ∧
      .read 1 ⟨.bool, false⟩ (some ⟨.bool, true⟩) ∈ events := by
  let late : Run := (Run.compute ⟨Graph.apart, .memoizing⟩ 0).2.mapGraph fun graph =>
    (Action.link (.direct 0 1)).apply graph
  obtain ⟨first, performs⟩ := performs_compute ⟨Graph.apart, .memoizing⟩
    (show 0 < Graph.apart.nodes.size by decide)
  have session : Session Blueprint.IsLibrary (fun _ action => action.Assembles)
      ⟨Graph.apart, .fresh true⟩ late first :=
    (Session.begin.demand (show Graph.apart.nodeAlive 0 = true by decide) performs).edit
      (show (Action.link (.direct 0 1)).Allowed Blueprint.IsLibrary _ from
        ⟨.bool, ⟨Or.inl (by decide), rfl, rfl⟩, Or.inl (by decide), rfl, rfl⟩) trivial
  have fed : late.graph.sourceNode? 1 = some 0 := by decide +kernel
  have known : late.pass.canReuse 0 = true := by decide +kernel
  have idle : late.pass.inProgress = [] := by decide +kernel
  have pull : Performs (.pull [1]) late _ _ _ :=
    .receive fed (.reuse (by simp [idle]) known) .done
  obtain ⟨more, performsToo⟩ := performs_pull late 1
  obtain ⟨-, -, same⟩ := pull.unique performsToo
  have present : late.graph.PresentInput 1 .bool :=
    ⟨Or.inl (by decide +kernel), by decide +kernel, by decide +kernel⟩
  have value : (late.graph.port 1).value = ⟨.bool, false⟩ := by decide +kernel
  have held : late.graph.heldBySource? 1 = some ⟨.bool, true⟩ := by decide +kernel
  have read : .read 1 ⟨.bool, false⟩ (some ⟨.bool, true⟩) ∈ more := by
    rw [same, value, held]
    exact List.mem_cons_self
  exact ⟨Assembled.apart, _, first ++ more, session.pull ⟨_, present⟩ performsToo,
    List.mem_append_right _ read⟩

end DemandFlow
