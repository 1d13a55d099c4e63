import DemandFlow.Proofs.Graph.Library
import DemandFlow.Proofs.History.LinkMap

/-!
Contract: graphs whose ports all belong to nodes.

Owns: the ports that actions make, what actions leave of the shape of a port, and reachability
without ports that are made apart from a node.

Main statements: no action changes the shape of a port (`Action.sameShape_port`), the ports after an
action are those before it and those that it makes (`Action.port_lt_apply_iff`), and in a graph that
is assembled from nodes every port can reach its owner (`Assembled.attached`).

Does not own: what loose ports change about links (`Proofs.History.LinkMap`).
-/

namespace DemandFlow

namespace Action

/-- Whether an action makes nodes or ports. -/
def grows : Action → Bool
  | .create _ _ | .createLoose _ _ => true
  | _ => false

/-- Whether an action makes no port apart from a node. -/
def Assembles : Action → Prop
  | .createLoose _ _ => False
  | _ => True

/-- The ports that an action makes, each after a plan. -/
inductive Makes (graph : Graph) : Action → PortPlan → PortId → Prop where
  | create {plan : Blueprint} {port : PortPlan} {id : PortId}
      (numbered : (port, id) ∈ plan.numbered graph.ports.size) (displayName : String) :
      Makes graph (.create plan displayName) port id
  | createLoose (plan : PortPlan) (owner : NodeId) :
      Makes graph (.createLoose plan owner) plan graph.ports.size

section Shapes

variable {admitted : Blueprint → Prop} {graph : Graph} {action : Action} {id : PortId}

theorem sameShape_apply (sound : graph.Sound admitted) (allowed : action.Allowed admitted graph)
    (stays : action.grows = false) : graph.SameShape (action.apply graph) := by
  cases action with
  | create => cases stays
  | createLoose => cases stays
  | rename node displayName => exact (Graph.sameLinks_rename graph node displayName).shape
  | setConstant node value => exact (Graph.sameLinks_setConstant allowed.2).shape
  | assign input value => exact (Graph.sameLinks_assign graph input value).shape
  | publish output value => exact (Graph.sameLinks_publish graph output value).shape
  | link request =>
      show graph.SameShape (request.perform graph)
      obtain ⟨input, output, joins⟩ | ⟨cause, refused⟩ :=
        LinkRequest.joins_or_refused sound allowed
      · rw [joins.perform]
        exact Graph.sameShape_setSource graph input output
      · rw [LinkRequest.perform_of_refused refused]
        exact .refl graph
  | disconnect port =>
      show graph.SameShape (graph.disconnect port)
      unfold Graph.disconnect
      split
      · exact (Graph.sameShape_clearSource graph port).trans (Graph.sameShape_collect _)
      · exact (Graph.sameShape_clearSinks graph port).trans (Graph.sameShape_collect _)
  | demand pass node => exact (sameLinks_compute ⟨graph, pass⟩ node).shape
  | pull pass input => exact (sameLinks_pull ⟨graph, pass⟩ input).shape
  | hold node => exact (Graph.rehandled_modifyNode graph node (· + 1)).shape
  | release node =>
      exact (Graph.rehandled_modifyNode graph node (· - 1)).shape.trans (Graph.sameShape_collect _)
  | save port => exact (Graph.rehandled_modifyPort graph port (· + 1)).shape
  | discard port =>
      exact (Graph.rehandled_modifyPort graph port (· - 1)).shape.trans (Graph.sameShape_collect _)

/-- No action changes the shape of a port there is. -/
theorem sameShape_port (sound : graph.Sound admitted) (allowed : action.Allowed admitted graph)
    (made : id < graph.ports.size) :
    (graph.port id).SameShape ((action.apply graph).port id) := by
  cases grows : action.grows with
  | false => exact (sameShape_apply sound allowed grows).port id
  | true =>
      cases action with
      | create plan displayName =>
          rw [show ((Action.create plan displayName).apply graph).port id = graph.port id from
            (Graph.extends_add graph plan displayName).port id made]
          exact .refl _
      | createLoose plan owner =>
          rw [show ((Action.createLoose plan owner).apply graph).port id = graph.port id from
            (Graph.extends_addLoose graph plan owner).port id made]
          exact .refl _
      | _ => cases grows

/-- A port is as its plan says when it has been made. -/
theorem Makes.port {plan : PortPlan} (makes : action.Makes graph plan id) :
    ((action.apply graph).port id).direction = plan.direction ∧
      ((action.apply graph).port id).required = plan.required ∧
      ((action.apply graph).port id).value = plan.value := by
  cases makes with
  | create numbered displayName =>
      have made := Graph.port_add_new graph displayName numbered
      exact ⟨congrArg Port.direction made, congrArg Port.required made, congrArg Port.value made⟩
  | createLoose plan owner =>
      have made := Graph.port_addLoose_new graph plan owner
      exact ⟨congrArg Port.direction made, congrArg Port.required made, congrArg Port.value made⟩

/-- The ports after an action are those before it and those that it makes. -/
theorem port_lt_apply_iff (sound : graph.Sound admitted) (allowed : action.Allowed admitted graph) :
    id < (action.apply graph).ports.size ↔
      id < graph.ports.size ∨ ∃ plan, action.Makes graph plan id := by
  cases grows : action.grows with
  | false =>
      rw [(sameShape_apply sound allowed grows).ports_size]
      refine ⟨Or.inl, fun either => either.resolve_right ?_⟩
      rintro ⟨plan, makes⟩
      cases makes <;> cases grows
  | true =>
      cases action with
      | create plan displayName =>
          refine (Graph.port_lt_add_iff graph plan displayName).trans (or_congr_right ?_)
          constructor
          · rintro ⟨port, numbered⟩
            exact ⟨port, .create numbered displayName⟩
          · rintro ⟨port, makes⟩
            cases makes with
            | create numbered => exact ⟨port, numbered⟩
      | createLoose plan owner =>
          have size : ((Action.createLoose plan owner).apply graph).ports.size =
              graph.ports.size + 1 := by simp [apply, Graph.addLoose]
          rw [size, Nat.lt_succ_iff_lt_or_eq]
          refine or_congr_right ?_
          constructor
          · rintro rfl
            exact ⟨plan, .createLoose plan owner⟩
          · rintro ⟨port, makes⟩
            cases makes
            rfl
      | _ => cases grows

end Shapes

end Action

/-- The graphs that allowed actions lead to from the empty one, with nodes made from admitted
blueprints, and no port made apart from them. -/
inductive Assembled (admitted : Blueprint → Prop) : Graph → Prop where
  | empty : Assembled admitted .empty
  | step {graph : Graph} {action : Action} (assembled : Assembled admitted graph)
      (allowed : action.Allowed admitted graph) (assembles : action.Assembles) :
      Assembled admitted (action.apply graph)

namespace Assembled

variable {admitted : Blueprint → Prop} {graph : Graph}

theorem reachable (assembled : Assembled admitted graph) : Reachable admitted graph := by
  induction assembled with
  | empty => exact .empty
  | step _ allowed _ inductionHypothesis => exact inductionHypothesis.step allowed

theorem sound (assembled : Assembled admitted graph) : graph.Sound admitted :=
  assembled.reachable.sound

/-- Every port can reach its owner. -/
theorem attached (assembled : Assembled admitted graph) {id : PortId}
    (made : id < graph.ports.size) : (graph.port id).attached = true := by
  induction assembled with
  | empty => exact absurd made (Nat.not_lt_zero id)
  | @step graph action assembled allowed assembles inductionHypothesis =>
      rcases (Action.port_lt_apply_iff assembled.sound allowed).mp made with old | ⟨plan, makes⟩
      · rw [(Action.sameShape_port assembled.sound allowed old).attached]
        exact inductionHypothesis old
      · cases makes with
        | create numbered displayName =>
            exact congrArg Port.attached (Graph.port_add_new graph displayName numbered)
        | createLoose => exact assembles.elim

/-- A present input of a library node is one of its required inputs. -/
theorem required (assembled : Assembled Blueprint.IsLibrary graph) {input : PortId}
    (alive : graph.portAlive input = true) (incoming : (graph.port input).direction = .input) :
    (graph.port input).required = true := by
  obtain ⟨made, listed⟩ := assembled.sound.shaped.listed input
    (assembled.attached (Graph.port_lt_of_portAlive alive))
  rw [incoming] at listed
  exact (assembled.sound.shaped.libraryNode made).required input listed

end Assembled

/-- A constant and a negation that are not linked. -/
def Graph.apart : Graph :=
  [.create (.constant ⟨.bool, true⟩) "A",
    .create (.operator "Not" (.unary .bool .bool fun x => .ok !x)) "B"].foldl Action.apply .empty

theorem Assembled.apart : Assembled Blueprint.IsLibrary Graph.apart := by
  have constant := Assembled.step Assembled.empty
    (show (Action.create (.constant ⟨.bool, true⟩) "A").Allowed Blueprint.IsLibrary .empty from
      .constant _) trivial
  exact Assembled.step constant
    (show (Action.create (.operator "Not" (.unary .bool .bool fun x => .ok !x)) "B").Allowed
      Blueprint.IsLibrary _ from .unary ..) trivial

theorem Assembled.negation : Assembled Blueprint.IsLibrary Graph.negation :=
  Assembled.step Assembled.apart
    (show (Action.link (.direct 0 1)).Allowed Blueprint.IsLibrary _ from
      ⟨.bool, ⟨Or.inl (by decide), rfl, rfl⟩, Or.inl (by decide), rfl, rfl⟩) trivial

end DemandFlow
