import DemandFlow.Graph.Connection
import DemandFlow.Proofs.Association
import DemandFlow.Proofs.Graph.Library
import DemandFlow.Proofs.History.Reachable
import Mathlib.Data.List.Basic

/-!
Contract: the links of a graph are one partial map from living inputs to outputs.

Owns: the map with its changes, the map that a history of actions builds up, what it means that a
graph represents a map, and which actions may change what outputs list.

Main statement: along every history, both sides of the graph's links represent the map that the
history builds up, and no action but one that writes values changes a value.

Does not own: which nodes the links keep alive (`Proofs.History.Retention`).
-/

namespace DemandFlow

/-! ### The map -/

/-- A partial map from inputs to outputs, as a list of links in the order in which they were last
made. -/
abbrev LinkMap := List (PortId × PortId)

namespace LinkMap

/-- Takes an input out of the map. -/
def cutInput (links : LinkMap) (input : PortId) : LinkMap := links.filter (·.1 != input)

/-- Takes every input of an output out of the map. -/
def cutOutput (links : LinkMap) (output : PortId) : LinkMap := links.filter (·.2 != output)

/-- Maps an input to an output, in place of the one it was mapped to. -/
def join (links : LinkMap) (input output : PortId) : LinkMap :=
  links.cutInput input ++ [(input, output)]

/-- Keeps the inputs that are alive. -/
def prune (links : LinkMap) (alive : PortId → Bool) : LinkMap :=
  links.filter fun link => alive link.1

/-- The inputs that are mapped to an output, in the order of their links. -/
def sinksOf (links : LinkMap) (output : PortId) : List PortId :=
  (links.filter (·.2 == output)).map Prod.fst

theorem mem_sinksOf {links : LinkMap} {input output : PortId} :
    input ∈ links.sinksOf output ↔ (input, output) ∈ links := by
  simp [sinksOf]

theorem sinksOf_prune (links : LinkMap) (alive : PortId → Bool) (output : PortId) :
    (links.prune alive).sinksOf output = (links.sinksOf output).filter alive := by
  simp only [sinksOf, prune, List.filter_map, List.filter_filter, Function.comp_def]
  congr 2
  funext link
  exact Bool.and_comm _ _

theorem sinksOf_cutInput (links : LinkMap) (input output : PortId) :
    (links.cutInput input).sinksOf output = (links.sinksOf output).filter (· != input) :=
  sinksOf_prune links (· != input) output

theorem sinksOf_cutOutput (links : LinkMap) (cut output : PortId) :
    (links.cutOutput cut).sinksOf output = if output = cut then [] else links.sinksOf output := by
  unfold sinksOf cutOutput
  rw [List.filter_filter]
  split
  · rename_i same
    subst same
    simp
  · rename_i differs
    congr 2
    funext link
    by_cases ofOutput : link.2 = output
    · simp [ofOutput, differs]
    · simp [ofOutput]

theorem sinksOf_join (links : LinkMap) (input output other : PortId) :
    (links.join input output).sinksOf other =
      (links.sinksOf other).filter (· != input) ++ if other = output then [input] else [] := by
  have last : sinksOf [(input, output)] other = if other = output then [input] else [] := by
    by_cases same : other = output
    · simp [sinksOf, same]
    · have differs : ¬ output = other := fun equal => same equal.symm
      simp [sinksOf, same, differs]
  rw [← sinksOf_cutInput, ← last]
  simp [sinksOf, join]

/-- No input is mapped twice. -/
def Functional (links : LinkMap) : Prop := (links.map Prod.fst).Nodup

theorem Functional.filter {links : LinkMap} (functional : links.Functional)
    (keep : PortId × PortId → Bool) : Functional (links.filter keep) :=
  (List.filter_sublist.map Prod.fst).nodup functional

theorem Functional.join {links : LinkMap} (functional : links.Functional) (input output : PortId) :
    (links.join input output).Functional := by
  unfold Functional LinkMap.join
  rw [List.map_append, List.nodup_append]
  refine ⟨functional.filter _, List.pairwise_singleton _ input, ?_⟩
  intro other kept another added
  rw [List.mem_singleton.mp added]
  obtain ⟨link, member, rfl⟩ := List.mem_map.mp kept
  simpa using (List.mem_filter.mp member).2

end LinkMap

/-! ### The map of a history -/

/-- What an action makes of the map, before the inputs that it frees leave it. A request that is
granted maps the input that it means to the output that it means. -/
def Action.edit (graph : Graph) (links : LinkMap) : Action → LinkMap
  | .link request =>
      match request.run graph, request.endpoints graph with
      | .ok _ _, some (input, output) => links.join input output
      | _, _ => links
  | .disconnect port =>
      match (graph.port port).direction with
      | .input => links.cutInput port
      | .output => links.cutOutput port
  | _ => links

/-- A graph that allowed actions lead to, with the map that they build up. -/
inductive History (admitted : Blueprint → Prop) : Graph → LinkMap → Prop where
  | empty : History admitted .empty []
  | step {graph : Graph} {links : LinkMap} {action : Action}
      (history : History admitted graph links) (allowed : action.Allowed admitted graph) :
      History admitted (action.apply graph)
        ((action.edit graph links).prune (action.apply graph).portAlive)

/-- Whether an action may write values into ports that there are already. -/
def Action.writesValues : Action → Bool
  | .assign _ _ | .publish _ _ | .demand _ _ | .pull _ _ => true
  | _ => false

/-- Both sides of a graph's links, and all that reports them, say what a map says. -/
structure Graph.Represents (graph : Graph) (links : LinkMap) : Prop where
  functional : links.Functional
  alive : ∀ link ∈ links, graph.portAlive link.1 = true
  source : ∀ input, graph.portAlive input = true →
    (graph.port input).source = links.lookup input
  endpoint : ∀ input, graph.portAlive input = true →
    graph.sourceEndpoint? input = (links.lookup input).map fun output =>
      ((graph.port output).owner, (graph.port output).name)
  incoming : ∀ node, graph.nodeAlive node = true →
    graph.incoming node = (graph.inputsOf (graph.node node).ports).filterMap fun input =>
      (links.lookup input).map fun output =>
        { fromNode := (graph.port output).owner
          fromPort := (graph.port output).name
          toNode := node
          toPort := (graph.port input).name }
  sinks : ∀ output, graph.liveSinks output = links.sinksOf output
  fits : ∀ link ∈ links, (graph.port link.1).direction = .input ∧
    (graph.port link.2).direction = .output ∧ (graph.port link.1).kind = (graph.port link.2).kind

namespace Graph

/-- The lists of living sinks determine all the rest, since the two sides of each link agree. -/
theorem represents_of_sinks {admitted : Blueprint → Prop} {graph : Graph} {links : LinkMap}
    (sound : graph.Sound admitted) (functional : links.Functional)
    (sinks : ∀ output, graph.liveSinks output = links.sinksOf output) :
    graph.Represents links := by
  have linked {input output : PortId} :
      (input, output) ∈ links ↔
        graph.portAlive input = true ∧ (graph.port input).source = some output := by
    rw [← LinkMap.mem_sinksOf, ← sinks, sound.coherent.mem_liveSinks_iff]
  have source (input : PortId) (alive : graph.portAlive input = true) :
      (graph.port input).source = links.lookup input := by
    cases found : links.lookup input with
    | some output => exact (linked.mp (mem_of_lookup_eq_some found)).2
    | none =>
        cases joined : (graph.port input).source with
        | none => rfl
        | some output =>
            rw [(lookup_eq_some_iff_mem functional).mpr (linked.mpr ⟨alive, joined⟩)] at found
            cases found
  have endpoint (input : PortId) (alive : graph.portAlive input = true) :
      graph.sourceEndpoint? input = (links.lookup input).map fun output =>
        ((graph.port output).owner, (graph.port output).name) := by
    rw [sourceEndpoint?, source input alive]
  refine ⟨functional, ?_, source, endpoint, ?_, sinks, ?_⟩
  · intro link member
    exact (linked.mp member).1
  · intro node alive
    unfold incoming
    apply List.filterMap_congr
    intro input member
    have registered := (List.mem_filter.mp member).1
    obtain ⟨-, owner, attached⟩ := sound.shaped.registered registered
    have inputAlive : graph.portAlive input = true := by
      rw [portAlive_iff, owner]
      exact Or.inr ⟨attached, alive⟩
    rw [endpoint input inputAlive, Option.map_map]
    rfl
  · intro link member
    have joins := sound.coherent.joins link.1 link.2 (linked.mp member).2
    exact ⟨joins.1, joins.2.1, joins.2.2.1⟩

/-- An output whose list has not changed has lost the sinks that were freed. -/
theorem liveSinks_of_kept {before after : Graph} {output : PortId}
    (sinks : (after.port output).sinks = (before.port output).sinks)
    (alive : ∀ sink ∈ (before.port output).sinks, after.portAlive sink = true →
      before.portAlive sink = true) :
    after.liveSinks output = (before.liveSinks output).filter after.portAlive := by
  unfold liveSinks
  rw [sinks, List.filter_filter]
  apply List.filter_congr
  intro sink member
  cases aliveAfter : after.portAlive sink with
  | false => rfl
  | true => simp [alive sink member aliveAfter]

theorem SameLinks.filter_liveSinks {before after : Graph} (same : before.SameLinks after)
    (output : PortId) :
    after.liveSinks output = (before.liveSinks output).filter after.portAlive := by
  have alive : after.portAlive = before.portAlive := funext same.portAlive
  rw [same.liveSinks, alive]
  simp [Graph.liveSinks]

theorem liveSinks_collect (graph : Graph) (output : PortId) :
    graph.collect.liveSinks output =
      (graph.liveSinks output).filter graph.collect.portAlive :=
  liveSinks_of_kept (by rw [port_collect]) fun _ _ alive => portAlive_of_collect alive

theorem Coherent.liveSinks_clearSource {graph : Graph} (coherent : graph.Coherent)
    (input output : PortId) :
    (graph.clearSource input).liveSinks output = (graph.liveSinks output).filter (· != input) := by
  have alive : (graph.clearSource input).portAlive = graph.portAlive :=
    funext (portAlive_clearSource graph input)
  rw [liveSinks, alive, port_clearSource]
  dsimp only
  split
  · simp only [liveSinks, List.filter_filter]
    congr 1
    funext sink
    cases graph.portAlive sink <;> simp
  · rename_i unlinked
    rw [liveSinks, List.filter_filter]
    apply List.filter_congr
    intro sink member
    have differs : sink ≠ input := by
      rintro rfl
      exact unlinked (coherent.answered output sink member)
    simp [differs]

theorem liveSinks_attach {graph : Graph} {input output : PortId}
    (alive : graph.portAlive input = true) (outputMade : output < graph.ports.size)
    (other : PortId) :
    (graph.attach input output).liveSinks other =
      graph.liveSinks other ++ if other = output then [input] else [] := by
  have sameAlive : (graph.attach input output).portAlive = graph.portAlive :=
    funext (portAlive_attach graph input output)
  rw [liveSinks, sameAlive, port_attach (port_lt_of_portAlive alive) outputMade]
  dsimp only
  rw [List.filter_append]
  congr 1
  split
  · simp [alive]
  · rfl

theorem Coherent.liveSinks_setSource {graph : Graph} (coherent : graph.Coherent)
    {input output : PortId} (alive : graph.portAlive input = true)
    (feeds : graph.canFeed output = true) (other : PortId) :
    (graph.setSource input output).liveSinks other =
      ((graph.liveSinks other).filter (· != input) ++ if other = output then [input] else []).filter
        (graph.setSource input output).portAlive := by
  have outputMade : output < (graph.clearSource input).ports.size := by
    rw [(sameShape_clearSource graph input).ports_size]
    exact port_lt_of_attached (Bool.and_eq_true_iff.mp feeds).1
  have aliveCleared : (graph.clearSource input).portAlive input = true := by
    rwa [portAlive_clearSource]
  rw [setSource, liveSinks_collect, liveSinks_attach aliveCleared outputMade,
    coherent.liveSinks_clearSource]

theorem Coherent.liveSinks_disconnect {graph : Graph} (coherent : graph.Coherent)
    (port other : PortId) :
    (graph.disconnect port).liveSinks other =
      (match (graph.port port).direction with
        | .input => (graph.liveSinks other).filter (· != port)
        | .output => if other = port then [] else graph.liveSinks other).filter
        (graph.disconnect port).portAlive := by
  unfold disconnect
  cases (graph.port port).direction with
  | input =>
      dsimp only
      rw [liveSinks_collect, coherent.liveSinks_clearSource]
  | output =>
      have alive : (graph.clearSinks port).portAlive = graph.portAlive :=
        funext (portAlive_clearSinks graph port)
      dsimp only
      rw [liveSinks_collect, liveSinks, alive, port_clearSinks]
      dsimp only
      split
      · rfl
      · rfl

end Graph

/-! ### One action -/

/-- No action brings a freed input back. -/
theorem Action.portAlive_of_apply {admitted : Blueprint → Prop} {graph : Graph}
    (sound : graph.Sound admitted) {action : Action} (allowed : action.Allowed admitted graph)
    {input : PortId} (made : input < graph.ports.size)
    (incoming : (graph.port input).direction = .input)
    (alive : (action.apply graph).portAlive input = true) : graph.portAlive input = true := by
  cases action with
  | create plan displayName =>
      exact ((Graph.extends_add graph plan displayName).portAlive sound.shaped made).symm.trans alive
  | createLoose plan owner =>
      exact ((Graph.extends_addLoose graph plan owner).portAlive sound.shaped made).symm.trans alive
  | rename node displayName =>
      exact ((Graph.sameLinks_rename graph node displayName).portAlive input).symm.trans alive
  | setConstant node value =>
      exact ((Graph.sameLinks_setConstant allowed.2).portAlive input).symm.trans alive
  | assign target value =>
      exact ((Graph.sameLinks_assign graph target value).portAlive input).symm.trans alive
  | publish target value =>
      exact ((Graph.sameLinks_publish graph target value).portAlive input).symm.trans alive
  | link request =>
      change (request.perform graph).portAlive input = true at alive
      obtain ⟨joined, source, joins⟩ | ⟨cause, refused⟩ :=
        LinkRequest.joins_or_refused sound allowed
      · rw [joins.perform, Graph.setSource] at alive
        have attached := Graph.portAlive_of_collect alive
        rwa [Graph.portAlive_attach, Graph.portAlive_clearSource] at attached
      · rwa [LinkRequest.perform_of_refused refused] at alive
  | disconnect port =>
      change (graph.disconnect port).portAlive input = true at alive
      unfold Graph.disconnect at alive
      split at alive
      · have cleared := Graph.portAlive_of_collect alive
        rwa [Graph.portAlive_clearSource] at cleared
      · have cleared := Graph.portAlive_of_collect alive
        rwa [Graph.portAlive_clearSinks] at cleared
  | demand pass node =>
      exact ((sameLinks_compute ⟨graph, pass⟩ node).portAlive input).symm.trans alive
  | pull pass target =>
      exact ((sameLinks_pull ⟨graph, pass⟩ target).portAlive input).symm.trans alive
  | hold node =>
      exact Graph.portAlive_iff.mpr
        (((Graph.rehandled_modifyNode graph node (· + 1)).portAlive_iff input).mp alive)
  | release node =>
      exact Graph.portAlive_iff.mpr (((Graph.rehandled_modifyNode graph node (· - 1)).portAlive_iff
        input).mp (Graph.portAlive_of_collect alive))
  | save port =>
      rcases Graph.portAlive_of_save alive with rfl | aliveBefore
      · exact sound.coherent.portAlive_of_present allowed incoming
      · exact aliveBefore
  | discard port =>
      exact (Graph.rehandled_modifyPort graph port (· - 1)).portAlive_of_saved_le
        (Graph.saved_unsave_le graph port input) (Graph.portAlive_of_collect alive)

/-- Whether an action may change what outputs list. -/
def Action.relists : Action → Bool
  | .publish _ _ | .link _ | .disconnect _ | .demand _ _ | .pull _ _ => true
  | _ => false

theorem Action.sinks_apply {action : Action} (keeps : action.relists = false) (graph : Graph)
    (output : PortId) :
    ((action.apply graph).port output).sinks = (graph.port output).sinks := by
  cases action with
  | create plan displayName => exact (Graph.extends_add graph plan displayName).sinks output
  | createLoose plan owner => exact (Graph.extends_addLoose graph plan owner).sinks output
  | rename node displayName => rfl
  | setConstant node value => rfl
  | assign input value =>
      rcases Graph.port_modifyPort_cases graph input output (·.store value) with same | changed
      · exact congrArg Port.sinks same
      · exact (congrArg Port.sinks changed).trans (by rw [Port.store_eq])
  | hold node => rfl
  | release node => exact congrArg Port.sinks (Graph.port_collect _ output)
  | save port => exact (Graph.rehandled_modifyPort graph port (· + 1)).sinks output
  | discard port =>
      exact (congrArg Port.sinks (Graph.port_collect _ output)).trans
        ((Graph.rehandled_modifyPort graph port (· - 1)).sinks output)
  | _ => cases keeps

theorem Action.edit_eq {action : Action} (keeps : action.relists = false) (graph : Graph)
    (links : LinkMap) : action.edit graph links = links := by
  cases action with
  | link request => cases keeps
  | disconnect port => cases keeps
  | _ => rfl

theorem sinksOf_edit_disconnect (graph : Graph) (links : LinkMap) (port output : PortId) :
    ((Action.disconnect port).edit graph links).sinksOf output =
      match (graph.port port).direction with
      | .input => (links.sinksOf output).filter (· != port)
      | .output => if output = port then [] else links.sinksOf output := by
  cases direction : (graph.port port).direction with
  | input =>
      have edited : (Action.disconnect port).edit graph links = links.cutInput port := by
        rw [Action.edit, direction]
      rw [edited, LinkMap.sinksOf_cutInput]
  | output =>
      have edited : (Action.disconnect port).edit graph links = links.cutOutput port := by
        rw [Action.edit, direction]
      rw [edited, LinkMap.sinksOf_cutOutput]

/-- A request maps the input that it means if it is granted, and changes nothing if not. -/
theorem LinkRequest.liveSinks_perform {admitted : Blueprint → Prop} {graph : Graph}
    {links : LinkMap} (sound : graph.Sound admitted) {request : LinkRequest}
    (allowed : request.Allowed graph)
    (sinks : ∀ output, graph.liveSinks output = links.sinksOf output) (output : PortId) :
    (request.perform graph).liveSinks output =
      (((Action.link request).edit graph links).sinksOf output).filter
        (request.perform graph).portAlive := by
  obtain ⟨input, source, joins⟩ | ⟨cause, refused⟩ := joins_or_refused sound allowed
  · have edited : (Action.link request).edit graph links = links.join input source := by
      rw [Action.edit, joins.granted, joins.meant]
    rw [joins.perform, edited, LinkMap.sinksOf_join, ← sinks]
    exact sound.coherent.liveSinks_setSource joins.alive joins.feeds output
  · have unedited : (Action.link request).edit graph links = links := by
      rw [Action.edit, refused]
    rw [perform_of_refused refused, unedited, ← sinks]
    exact (Graph.SameLinks.refl graph).filter_liveSinks output

/-- After an action, an output feeds the inputs that the changed map gives it, less the ones that
the action has freed. -/
theorem Action.liveSinks_apply {admitted : Blueprint → Prop} {graph : Graph} {links : LinkMap}
    (sound : graph.Sound admitted) {action : Action} (allowed : action.Allowed admitted graph)
    (sinks : ∀ output, graph.liveSinks output = links.sinksOf output) (output : PortId) :
    (action.apply graph).liveSinks output =
      ((action.edit graph links).sinksOf output).filter (action.apply graph).portAlive := by
  have unedited {after : Graph} (same : graph.SameLinks after) :
      after.liveSinks output = (links.sinksOf output).filter after.portAlive := by
    rw [same.filter_liveSinks, sinks]
  cases relists : action.relists with
  | false =>
      rw [edit_eq relists, ← sinks]
      apply Graph.liveSinks_of_kept (sinks_apply relists graph output)
      intro sink member alive
      have linked := sound.coherent.answered output sink member
      exact portAlive_of_apply sound allowed (Graph.port_lt_of_source linked)
        (sound.coherent.joins sink output linked).1 alive
  | true =>
      cases action with
      | publish port value => exact unedited (Graph.sameLinks_publish graph port value)
      | demand pass node => exact unedited (sameLinks_compute ⟨graph, pass⟩ node)
      | pull pass input => exact unedited (sameLinks_pull ⟨graph, pass⟩ input)
      | link request => exact LinkRequest.liveSinks_perform sound allowed sinks output
      | disconnect port =>
          show (graph.disconnect port).liveSinks output =
            ((edit graph links (.disconnect port)).sinksOf output).filter
              (graph.disconnect port).portAlive
          rw [sound.coherent.liveSinks_disconnect, sinks, sinksOf_edit_disconnect]
      | _ => cases relists

/-- No action maps an input twice. -/
theorem LinkMap.Functional.edit {links : LinkMap} (functional : links.Functional) (graph : Graph)
    (action : Action) : (action.edit graph links).Functional := by
  unfold Action.edit
  split
  · split
    · exact functional.join _ _
    · exact functional
  · split
    · exact functional.filter _
    · exact functional.filter _
  · exact functional

/-! ### Values -/

/-- An action that writes no values leaves the values of all ports there are. -/
theorem Action.value_apply {admitted : Blueprint → Prop} {graph : Graph}
    (sound : graph.Sound admitted) {action : Action} (allowed : action.Allowed admitted graph)
    (silent : action.writesValues = false) {port : PortId} (made : port < graph.ports.size) :
    ((action.apply graph).port port).value = (graph.port port).value := by
  cases action with
  | create plan displayName =>
      exact congrArg Port.value ((Graph.extends_add graph plan displayName).port port made)
  | createLoose plan owner =>
      exact congrArg Port.value ((Graph.extends_addLoose graph plan owner).port port made)
  | rename node displayName => rfl
  | setConstant node value => rfl
  | assign input value => cases silent
  | publish output value => cases silent
  | link request =>
      show ((request.perform graph).port port).value = _
      obtain ⟨input, output, joins⟩ | ⟨cause, refused⟩ :=
        LinkRequest.joins_or_refused sound allowed
      · rw [joins.perform]
        exact graph.value_setSource input output port
      · rw [LinkRequest.perform_of_refused refused]
  | disconnect other => exact graph.value_disconnect other port
  | demand pass node => cases silent
  | pull pass input => cases silent
  | hold node => rfl
  | release node => exact congrArg Port.value (Graph.port_collect _ port)
  | save other => exact graph.value_modifyPort other port fun _ => rfl
  | discard other =>
      exact (congrArg Port.value (Graph.port_collect _ port)).trans
        (graph.value_modifyPort other port fun _ => rfl)

/-! ### Histories -/

namespace History

variable {admitted : Blueprint → Prop} {graph : Graph} {links : LinkMap}

theorem reachable (history : History admitted graph links) : Reachable admitted graph := by
  induction history with
  | empty => exact .empty
  | step _ allowed inductionHypothesis => exact .step inductionHypothesis allowed

theorem functional (history : History admitted graph links) : links.Functional := by
  induction history with
  | empty => exact List.nodup_nil
  | step _ _ inductionHypothesis => exact (inductionHypothesis.edit _ _).filter _

theorem liveSinks (history : History admitted graph links) (output : PortId) :
    graph.liveSinks output = links.sinksOf output := by
  induction history generalizing output with
  | empty => rw [Graph.liveSinks, Graph.port_of_size_le (Nat.zero_le output)]; rfl
  | step history allowed inductionHypothesis =>
      rw [LinkMap.sinksOf_prune]
      exact Action.liveSinks_apply history.reachable.sound allowed inductionHypothesis output

/-- Along every history, the links represent the map that the history builds up, and whatever is
done next keeps the value of every port unless it is done to write values. -/
theorem represents (history : History admitted graph links) :
    graph.Represents links ∧
      ∀ action : Action, action.Allowed admitted graph → action.writesValues = false →
        ∀ port, port < graph.ports.size →
          ((action.apply graph).port port).value = (graph.port port).value := by
  have sound := history.reachable.sound
  constructor
  · exact Graph.represents_of_sinks sound history.functional history.liveSinks
  · intro action allowed silent port made
    exact Action.value_apply sound allowed silent made

end History

/-- A constant that feeds a negation. -/
def Graph.negation : Graph :=
  [.create (.constant ⟨.bool, true⟩) "A",
    .create (.operator "Not" (.unary .bool .bool fun x => .ok !x)) "B",
    .link (.direct 0 1)].foldl Action.apply .empty

theorem History.negation : History Blueprint.IsLibrary Graph.negation [(1, 0)] := by
  have constant := History.step History.empty
    (show (Action.create (.constant ⟨.bool, true⟩) "A").Allowed Blueprint.IsLibrary .empty from
      .constant _)
  have operator := History.step constant
    (show (Action.create (.operator "Not" (.unary .bool .bool fun x => .ok !x)) "B").Allowed
      Blueprint.IsLibrary _ from .unary ..)
  exact History.step operator
    (show (Action.link (.direct 0 1)).Allowed Blueprint.IsLibrary _ from
      ⟨.bool, ⟨Or.inl (by decide), rfl, rfl⟩, Or.inl (by decide), rfl, rfl⟩)

theorem History.represents_negation : Graph.negation.Represents [(1, 0)] ∧
    ((Graph.negation.disconnect 1).port 1).value = (Graph.negation.port 1).value := by
  obtain ⟨represented, kept⟩ := History.negation.represents
  exact ⟨represented, kept (.disconnect 1) (Or.inl (by decide)) rfl 1 (by decide)⟩

/-- Every reachable graph has a history. -/
theorem Reachable.exists_history {admitted : Blueprint → Prop} {graph : Graph}
    (reachable : Reachable admitted graph) : ∃ links, History admitted graph links := by
  induction reachable with
  | empty => exact ⟨[], .empty⟩
  | step _ allowed inductionHypothesis =>
      obtain ⟨links, history⟩ := inductionHypothesis
      exact ⟨_, history.step allowed⟩

end DemandFlow
