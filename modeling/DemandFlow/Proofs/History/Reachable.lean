import DemandFlow.Proofs.Evaluation.Frame
import DemandFlow.Proofs.Graph.Collection
import DemandFlow.Proofs.Graph.Growth
import DemandFlow.Proofs.Graph.Relinking
import DemandFlow.Proofs.History.Request

/-!
Contract: the graphs that a program can reach, and what holds of all of them.

Owns: reachability by allowed actions, and the invariant that every allowed action keeps.

Main statements: one allowed action keeps the invariant (`Sound.apply`), hence every reachable
graph has it (`Reachable.sound`). In a graph that has it, an allowed request joins a living input and
an output of a living node, or changes nothing (`LinkRequest.joins_or_refused`).

Does not own: the consequences of the invariant for links (`Proofs.History.LinkMap`) and for
lifetimes (`Proofs.History.Retention`).
-/

namespace DemandFlow

namespace Graph

/-- What holds of a graph between two actions: shapes as made, links with two agreeing sides, and
no living node that nothing keeps. -/
structure Sound (admitted : Blueprint → Prop) (graph : Graph) : Prop where
  shaped : graph.Shaped admitted
  coherent : graph.Coherent
  tidy : graph.Tidy

theorem Coherent.portAlive_of_present {graph : Graph} (coherent : graph.Coherent) {id : PortId}
    (present : graph.Present id) (direction : (graph.port id).direction = .input) :
    graph.portAlive id = true := by
  rcases present with alive | ⟨input, -, linked⟩
  · exact alive
  · have joins := coherent.joins input id linked
    rw [direction] at joins
    cases joins.2.1

theorem Sound.portAlive_of_isInput {admitted : Blueprint → Prop} {graph : Graph}
    (sound : graph.Sound admitted) {id : NodeId} {input : PortId}
    (alive : graph.nodeAlive id = true) (isInput : input ∈ (graph.node id).inputs) :
    graph.portAlive input = true := by
  obtain ⟨-, owner, attached⟩ := sound.shaped.input isInput
  rw [portAlive_iff, owner]
  exact Or.inr ⟨attached, alive⟩

/-- The node behind a link of a living node lives: a link to another node holds that node. -/
theorem Sound.nodeAlive_of_linked {admitted : Blueprint → Prop} {graph : Graph}
    (sound : graph.Sound admitted) {id : NodeId} {input output : PortId}
    (alive : graph.nodeAlive id = true) (isInput : input ∈ (graph.node id).inputs)
    (linked : (graph.port input).source = some output) :
    graph.nodeAlive (graph.port output).owner = true := by
  by_cases sameNode : (graph.port output).owner = id
  · rwa [sameNode]
  · apply sound.coherent.fed input output (sound.portAlive_of_isInput alive isInput) linked
    rwa [(sound.shaped.input isInput).2.1]

end Graph

namespace LinkRequest

/-- A request joins the input and the output that it means: a living input and an output with a
living owner, both of one kind. -/
structure Joins (graph : Graph) (request : LinkRequest) (input output : PortId) : Prop where
  granted : request.run graph = .ok () (graph.setSource input output)
  meant : request.endpoints graph = some (input, output)
  alive : graph.portAlive input = true
  feeds : graph.canFeed output = true
  incoming : (graph.port input).direction = .input
  outgoing : (graph.port output).direction = .output
  sameKind : (graph.port input).kind = (graph.port output).kind

variable {admitted : Blueprint → Prop} {graph : Graph} {request : LinkRequest}

theorem Joins.perform {input output : PortId} (joins : request.Joins graph input output) :
    request.perform graph = graph.setSource input output := by
  rw [LinkRequest.perform, joins.granted]

theorem perform_of_refused {cause : ConnectionError}
    (refused : request.run graph = .error cause graph) : request.perform graph = graph := by
  rw [LinkRequest.perform, refused]

/-- An allowed request joins two ports, or is refused and leaves the graph as it was. -/
theorem joins_or_refused (sound : graph.Sound admitted) (allowed : request.Allowed graph) :
    (∃ input output, request.Joins graph input output) ∨
      ∃ cause, request.run graph = .error cause graph := by
  cases outcome : request.run graph with
  | ok _ after =>
      obtain ⟨input, output, meant, joinable, rfl⟩ :=
        (run_eq_ok_iff sound.shaped allowed).mp outcome
      have present := present_of_meant sound.shaped allowed meant
      exact Or.inl ⟨input, output, {
        granted := outcome
        meant := meant
        alive := sound.coherent.portAlive_of_present present joinable.incoming
        feeds := (sound.shaped.canFeed_iff joinable.outgoing).mpr joinable.living
        incoming := joinable.incoming
        outgoing := joinable.outgoing
        sameKind := joinable.sameKind }⟩
  | error cause after =>
      obtain ⟨-, rfl⟩ := (run_eq_error_iff sound.shaped allowed).mp outcome
      exact Or.inr ⟨cause, rfl⟩

end LinkRequest

namespace Graph

variable {admitted : Blueprint → Prop} {graph : Graph}

theorem Sound.of_sameLinks {after : Graph} (sound : graph.Sound admitted)
    (same : graph.SameLinks after) : after.Sound admitted :=
  ⟨sound.shaped.of_sameShape same.shape, sound.coherent.of_sameLinks same, same.tidy sound.tidy⟩

theorem Sound.of_extends {after : Graph} (sound : graph.Sound admitted)
    (grown : graph.Extends after) (shaped : after.Shaped admitted) : after.Sound admitted :=
  ⟨shaped, grown.coherent sound.shaped sound.coherent,
    grown.tidy sound.shaped sound.coherent sound.tidy⟩

/-- What is collected is sound, whatever was kept before. -/
theorem sound_collect (shaped : graph.Shaped admitted) (coherent : graph.Coherent) :
    graph.collect.Sound admitted :=
  ⟨shaped.of_sameShape (sameShape_collect graph), coherent.collect shaped, tidy_collect graph⟩

theorem sameShape_setSource (graph : Graph) (input output : PortId) :
    graph.SameShape (graph.setSource input output) :=
  ((sameShape_clearSource graph input).trans (sameShape_attach _ input output)).trans
    (sameShape_collect _)

theorem Sound.disconnect (sound : graph.Sound admitted) (id : PortId) :
    (graph.disconnect id).Sound admitted := by
  unfold Graph.disconnect
  split
  · exact sound_collect (sound.shaped.of_sameShape (sameShape_clearSource graph id))
      (sound.coherent.clearSource id)
  · exact sound_collect (sound.shaped.of_sameShape (sameShape_clearSinks graph id))
      (sound.coherent.clearSinks id)

end Graph

/-- An allowed action keeps the invariant. -/
theorem Graph.Sound.apply {admitted : Blueprint → Prop} {graph : Graph}
    (sound : graph.Sound admitted) {action : Action} (allowed : action.Allowed admitted graph) :
    (action.apply graph).Sound admitted := by
  cases action with
  | create plan displayName =>
      exact sound.of_extends (extends_add graph plan displayName)
        (sound.shaped.add allowed displayName)
  | createLoose plan owner =>
      exact sound.of_extends (extends_addLoose graph plan owner)
        (sound.shaped.addLoose plan owner)
  | rename node displayName => exact sound.of_sameLinks (sameLinks_rename graph node displayName)
  | setConstant node value => exact sound.of_sameLinks (sameLinks_setConstant allowed.2)
  | assign input value => exact sound.of_sameLinks (sameLinks_assign graph input value)
  | publish output value => exact sound.of_sameLinks (sameLinks_publish graph output value)
  | link request =>
      show (request.perform graph).Sound admitted
      obtain ⟨input, output, joins⟩ | ⟨cause, refused⟩ :=
        LinkRequest.joins_or_refused sound allowed
      · have shape := (sameShape_clearSource graph input).trans (sameShape_attach _ input output)
        rw [joins.perform]
        exact sound_collect (sound.shaped.of_sameShape shape) (sound.coherent.relink joins.alive
          joins.feeds joins.incoming joins.outgoing joins.sameKind)
      · rw [LinkRequest.perform_of_refused refused]
        exact sound
  | disconnect port => exact sound.disconnect port
  | demand pass node => exact sound.of_sameLinks (sameLinks_compute ⟨graph, pass⟩ node)
  | pull pass input => exact sound.of_sameLinks (sameLinks_pull ⟨graph, pass⟩ input)
  | hold node =>
      exact ⟨sound.shaped.of_sameShape (rehandled_modifyNode graph node (· + 1)).shape,
        sound.coherent.hold allowed, tidy_hold sound.tidy node⟩
  | release node =>
      exact ⟨sound.shaped.of_sameShape
          ((rehandled_modifyNode graph node (· - 1)).shape.trans (sameShape_collect _)),
        sound.coherent.release sound.shaped node, tidy_collect _⟩
  | save port =>
      refine ⟨sound.shaped.of_sameShape (rehandled_modifyPort graph port (· + 1)).shape,
        sound.coherent.save ?_, tidy_save sound.tidy port⟩
      intro output linked
      exact sound.coherent.portAlive_of_present allowed (sound.coherent.joins port output linked).1
  | discard port =>
      exact ⟨sound.shaped.of_sameShape
          ((rehandled_modifyPort graph port (· - 1)).shape.trans (sameShape_collect _)),
        sound.coherent.discard sound.shaped port, tidy_collect _⟩

/-- The graphs that allowed actions lead to from the empty one, with nodes made from admitted
blueprints. -/
inductive Reachable (admitted : Blueprint → Prop) : Graph → Prop where
  | empty : Reachable admitted .empty
  | step {graph : Graph} {action : Action} (reachable : Reachable admitted graph)
      (allowed : action.Allowed admitted graph) : Reachable admitted (action.apply graph)

theorem Graph.sound_empty (admitted : Blueprint → Prop) : Graph.empty.Sound admitted := by
  have port (id : PortId) : Graph.empty.port id = default := port_of_size_le (Nat.zero_le id)
  refine ⟨shaped_empty admitted, ⟨?_, ?_, ?_, ?_, ?_, ?_⟩, ?_⟩
  · intro input output linked
    rw [port] at linked
    cases linked
  · intro input output _ linked
    rw [port] at linked
    cases linked
  · intro output input member
    rw [port] at member
    cases member
  · intro output
    rw [port]
    exact List.nodup_nil
  · intro input output _ linked
    rw [port] at linked
    cases linked
  · intro id positive
    rw [node_of_size_le (Nat.zero_le id)] at positive
    cases positive
  · intro id alive
    exact absurd (nodeAlive_iff.mp alive).1 (Nat.not_lt_zero id)

/-- Every reachable graph has the invariant. -/
theorem Reachable.sound {admitted : Blueprint → Prop} {graph : Graph}
    (reachable : Reachable admitted graph) : graph.Sound admitted := by
  induction reachable with
  | empty => exact Graph.sound_empty admitted
  | step _ allowed inductionHypothesis => exact inductionHypothesis.apply allowed

end DemandFlow
