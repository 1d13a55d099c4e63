import DemandFlow.Proofs.Evaluation.Publication
import DemandFlow.Proofs.History.Assembly

/-!
Contract: what an optional input reads as while it is not linked.

Owns: the values that actions give to an input, and the record of the last one.

Main statement: whatever led to a graph, pulling an optional input that is not linked yields the
last value that the input was given, be it by its plan, by an assignment or by a publication on the
output that fed it at that time (`Reachable.unlinked_reads_last`). So a value that was received over
a link outlasts the link, and assignments alone do not tell what is read (`Ledger.assigned_misses`).

Does not own: what inputs read as while they are linked (`Proofs.History.Freshness`).
-/

namespace DemandFlow

namespace Action

/-- The values that an action gives to an input, in order: one that is assigned to it, or those that
are published on its source. -/
inductive Gives (graph : Graph) (input : PortId) : Action → List Value → Prop where
  | assign (value : Value) : Gives graph input (.assign input value) [value]
  | assignOther {other : PortId} (differs : other ≠ input) (value : Value) :
      Gives graph input (.assign other value) []
  | publish (output : PortId) (value : Value) :
      Gives graph input (.publish output value) (graph.arrivals input [(output, value)])
  | demand {pass : Pass} {node : NodeId} {after : Run}
      {result : Except EvaluationError (List Value)} {events : List Event}
      {published : List (PortId × Value)}
      (performs : Performs (.demand node) ⟨graph, pass⟩ result after events)
      (publishes : Publishes graph after.graph events published) :
      Gives graph input (.demand pass node) (graph.arrivals input published)
  | pull {pass : Pass} {target : PortId} {after : Run}
      {result : Except EvaluationError (List Value)} {events : List Event}
      {published : List (PortId × Value)}
      (performs : Performs (.pull [target]) ⟨graph, pass⟩ result after events)
      (publishes : Publishes graph after.graph events published) :
      Gives graph input (.pull pass target) (graph.arrivals input published)
  | silent {action : Action} (silent : action.writesValues = false) : Gives graph input action []

/-- The value that an action assigns to an input. -/
def assigned (input : PortId) : Action → List Value
  | .assign port value => if port = input then [value] else []
  | _ => []

end Action

/-- A graph that allowed actions lead to, with the value that an optional input was given last: the
one that it was made with, or one that was given since, as far as gifts are reckoned. -/
inductive Ledger (admitted : Blueprint → Prop) (gives : Graph → Action → List Value → Prop)
    (input : PortId) : Graph → Value → Prop where
  | made {graph : Graph} {action : Action} {name : String} {value : Value}
      (reachable : Reachable admitted graph) (allowed : action.Allowed admitted graph)
      (makes : action.Makes graph (.optionalInput name value) input) :
      Ledger admitted gives input (action.apply graph) value
  | given {graph : Graph} {action : Action} {last : Value} {values : List Value}
      (ledger : Ledger admitted gives input graph last)
      (allowed : action.Allowed admitted graph) (given : gives graph action values) :
      Ledger admitted gives input (action.apply graph) (values.getLastD last)

/-! ### Values that are given -/

namespace Action

variable {admitted : Blueprint → Prop} {graph : Graph} {action : Action}

/-- An input takes what an action publishes on its source. -/
theorem value_of_publishes (sound : graph.Sound admitted) {input : PortId}
    (made : input < graph.ports.size) (incoming : (graph.port input).direction = .input)
    {task : Task} {pass : Pass} {result other : Except EvaluationError (List Value)}
    {after last : Run} {events more : List Event} {published : List (PortId × Value)}
    (performs : Performs task ⟨graph, pass⟩ result after events)
    (publishes : Publishes graph after.graph events published)
    (performsToo : Performs task ⟨graph, pass⟩ other last more) :
    (last.graph.port input).value =
      (graph.arrivals input published).getLastD (graph.port input).value := by
  rw [(performs.unique performsToo).2.1, publishes.left]
  exact sound.coherent.value_publishEach made incoming publishes.outgoing

/-- After an action an input holds the last value that the action gave to it, if any. -/
theorem Gives.value (sound : graph.Sound admitted) (allowed : action.Allowed admitted graph)
    {input : PortId} (made : input < graph.ports.size)
    (incoming : (graph.port input).direction = .input) {values : List Value}
    (gives : action.Gives graph input values) :
    ((action.apply graph).port input).value = values.getLastD (graph.port input).value := by
  cases gives with
  | assign value =>
      obtain ⟨-, -, kind⟩ := allowed
      have stored : (graph.assign input value).port input = (graph.port input).store value :=
        Graph.port_modifyPort_same graph (·.store value) made
      exact (congrArg Port.value stored).trans (Port.value_store kind.symm)
  | assignOther differs value =>
      exact congrArg Port.value (Graph.port_modifyPort_other graph (·.store value) differs)
  | publish output value =>
      exact sound.coherent.value_publish_input made incoming allowed.2.1 value
  | @demand pass node _ _ _ _ performs publishes =>
      obtain ⟨_, performsToo⟩ :=
        performs_compute ⟨graph, pass⟩ (Graph.nodeAlive_iff.mp allowed).1
      exact value_of_publishes sound made incoming performs publishes performsToo
  | @pull pass target _ _ _ _ performs publishes =>
      obtain ⟨_, performsToo⟩ := performs_pull ⟨graph, pass⟩ target
      exact value_of_publishes sound made incoming performs publishes performsToo
  | silent silent => exact value_apply sound allowed silent made

/-- Every action gives some values to an input, if only none. -/
theorem exists_gives (sound : graph.Sound admitted) (allowed : action.Allowed admitted graph)
    (input : PortId) : ∃ values, action.Gives graph input values := by
  cases action with
  | assign port value =>
      by_cases same : port = input
      · subst same
        exact ⟨_, .assign value⟩
      · exact ⟨_, .assignOther same value⟩
  | publish output value => exact ⟨_, .publish output value⟩
  | demand pass node =>
      obtain ⟨events, performs⟩ :=
        performs_compute ⟨graph, pass⟩ (Graph.nodeAlive_iff.mp allowed).1
      obtain ⟨published, publishes⟩ := performs.publishes sound.shaped
      exact ⟨_, .demand performs publishes⟩
  | pull pass target =>
      obtain ⟨events, performs⟩ := performs_pull ⟨graph, pass⟩ target
      obtain ⟨published, publishes⟩ := performs.publishes sound.shaped
      exact ⟨_, .pull performs publishes⟩
  | _ => exact ⟨[], .silent rfl⟩

end Action

/-! ### Records -/

section Records

variable {admitted : Blueprint → Prop} {gives : Graph → Action → List Value → Prop} {graph : Graph}
  {input : PortId} {last : Value}

/-- A record is kept of an optional input of a reachable graph. -/
theorem Ledger.optional (ledger : Ledger admitted gives input graph last) :
    Reachable admitted graph ∧ input < graph.ports.size ∧
      (graph.port input).direction = .input ∧ (graph.port input).required = false := by
  induction ledger with
  | made reachable allowed makes =>
      obtain ⟨direction, required, -⟩ := makes.port
      exact ⟨reachable.step allowed,
        (Action.port_lt_apply_iff reachable.sound allowed).mpr (Or.inr ⟨_, makes⟩), direction,
        required⟩
  | given _ allowed _ inductionHypothesis =>
      obtain ⟨reachable, made, incoming, optional⟩ := inductionHypothesis
      have shape := Action.sameShape_port reachable.sound allowed made
      exact ⟨reachable.step allowed,
        (Action.port_lt_apply_iff reachable.sound allowed).mpr (Or.inl made),
        shape.direction.trans incoming, shape.required.trans optional⟩

/-- The input holds what it was given last. -/
theorem Ledger.value
    (ledger : Ledger admitted (fun graph action => action.Gives graph input) input graph last) :
    (graph.port input).value = last := by
  induction ledger with
  | made _ _ makes => exact makes.port.2.2
  | given ledger allowed given inductionHypothesis =>
      obtain ⟨reachable, made, incoming, -⟩ := ledger.optional
      rw [given.value reachable.sound allowed made incoming, inductionHypothesis]

/-- There is a record of every optional input. -/
theorem Reachable.exists_ledger (reachable : Reachable admitted graph)
    (made : input < graph.ports.size) (incoming : (graph.port input).direction = .input)
    (optional : (graph.port input).required = false) :
    ∃ last, Ledger admitted (fun graph action => action.Gives graph input) input graph last := by
  induction reachable with
  | empty => exact absurd made (Nat.not_lt_zero input)
  | @step graph action reachable allowed inductionHypothesis =>
      have sound := reachable.sound
      rcases (Action.port_lt_apply_iff sound allowed).mp made with old | ⟨plan, makes⟩
      · have shape := action.sameShape_port sound allowed old
        obtain ⟨last, ledger⟩ := inductionHypothesis old (shape.direction.symm.trans incoming)
          (shape.required.symm.trans optional)
        obtain ⟨values, given⟩ := action.exists_gives sound allowed input
        exact ⟨_, ledger.given allowed given⟩
      · obtain ⟨direction, required, -⟩ := makes.port
        rw [incoming] at direction
        rw [optional] at required
        obtain ⟨name, planDirection, planRequired, value⟩ := plan
        subst direction required
        exact ⟨value, .made reachable allowed makes⟩

theorem Run.pull_unlinked (unlinked : (graph.port input).source = none)
    (optional : (graph.port input).required = false) (pass : Pass) :
    Run.pull ⟨graph, pass⟩ input = (.ok (graph.port input).value, ⟨graph, pass⟩) := by
  have unfed : graph.sourceNode? input = none := by
    rw [Graph.sourceNode?, unlinked]
    rfl
  simp [Run.pull, Demand.pull, unfed, optional]

/-- A record is kept of every optional input of a reachable graph, and whenever the input is not
linked, pulling it yields what the record has last, in any pass, and does nothing else. -/
theorem Reachable.unlinked_reads_last (reachable : Reachable admitted graph) {kind : Kind}
    (present : graph.PresentInput input kind) (optional : (graph.port input).required = false) :
    (∃ last, Ledger admitted (fun graph action => action.Gives graph input) input graph last) ∧
      ∀ last, Ledger admitted (fun graph action => action.Gives graph input) input graph last →
        (graph.port input).source = none →
        ∀ pass, Run.pull ⟨graph, pass⟩ input = (.ok last, ⟨graph, pass⟩) := by
  obtain ⟨here, incoming, -⟩ := present
  have alive := reachable.sound.coherent.portAlive_of_present here incoming
  refine ⟨reachable.exists_ledger (Graph.port_lt_of_portAlive alive) incoming optional, ?_⟩
  intro last ledger unlinked pass
  rw [Run.pull_unlinked unlinked optional pass, ledger.value]

end Records

/-! ### A value that outlasts its link -/

/-- A node with one optional input, which is false until it is given another value. -/
def Blueprint.biased : Blueprint :=
  .custom "Biased" [.optionalInput "Bias" ⟨.bool, false⟩] ⟨false, fun _ _ => ([], none)⟩

/-- A constant, and an optional input that was linked to it while it was computed. -/
def Graph.parted : Graph :=
  [.create (.constant ⟨.bool, true⟩) "A", .create .biased "B", .link (.direct 0 1),
    .demand .plain 0, .disconnect 1].foldl Action.apply .empty

/-- Nothing has been assigned to the input. -/
theorem Ledger.parted :
    Ledger (fun _ => True) (fun _ action values => values = action.assigned 1) 1 Graph.parted
      ⟨.bool, false⟩ := by
  have constant := Reachable.step Reachable.empty
    (show (Action.create (.constant ⟨.bool, true⟩) "A").Allowed (fun _ => True) .empty from trivial)
  have made : Ledger (fun _ => True) (fun _ action values => values = action.assigned 1) 1 _
      ⟨.bool, false⟩ :=
    .made constant (show (Action.create .biased "B").Allowed (fun _ => True) _ from trivial)
      (.create List.mem_cons_self "B")
  have linked := made.given
    (show (Action.link (.direct 0 1)).Allowed (fun _ => True) _ from
      ⟨.bool, ⟨Or.inl (by decide), rfl, rfl⟩, Or.inl (by decide), rfl, rfl⟩) rfl
  have computed := linked.given
    (show (Action.demand .plain 0).Allowed (fun _ => True) _ from (by decide +kernel : _ = true)) rfl
  exact computed.given
    (show (Action.disconnect 1).Allowed (fun _ => True) _ from Or.inl (by decide +kernel)) rfl

theorem Reachable.unlinked_reads_last_parted :
    (∃ last, Ledger (fun _ => True) (fun graph action => action.Gives graph 1) 1 Graph.parted last ∧
      last = ⟨.bool, true⟩) ∧
      (Run.pull ⟨Graph.parted, .memoizing⟩ 1).1 = .ok ⟨.bool, true⟩ := by
  have present : Graph.parted.PresentInput 1 .bool :=
    ⟨Or.inl (by decide +kernel), by decide +kernel, by decide +kernel⟩
  obtain ⟨⟨last, ledger⟩, reads⟩ :=
    Reachable.unlinked_reads_last Ledger.parted.optional.1 present (by decide +kernel)
  have pulled := congrArg Prod.fst (reads last ledger (by decide +kernel) .memoizing)
  have held : (Graph.parted.port 1).value = ⟨.bool, true⟩ := by decide +kernel
  have isTrue : last = ⟨.bool, true⟩ := ledger.value.symm.trans held
  rw [isTrue] at pulled
  exact ⟨⟨last, ledger, isTrue⟩, pulled⟩

/-- Assignments alone do not tell what is read: none was made, and the input does not read as it was
made, but as the value that it received over a link that is gone. -/
theorem Ledger.assigned_misses :
    Ledger (fun _ => True) (fun _ action values => values = action.assigned 1) 1 Graph.parted
        ⟨.bool, false⟩ ∧
      Graph.parted.PresentInput 1 .bool ∧ (Graph.parted.port 1).required = false ∧
      (Graph.parted.port 1).source = none ∧
      (Run.pull ⟨Graph.parted, .plain⟩ 1).1 = .ok ⟨.bool, true⟩ := by
  have unlinked : (Graph.parted.port 1).source = none := by decide +kernel
  have optional : (Graph.parted.port 1).required = false := by decide +kernel
  have held : (Graph.parted.port 1).value = ⟨.bool, true⟩ := by decide +kernel
  have pulled := congrArg Prod.fst (Run.pull_unlinked unlinked optional .plain)
  exact ⟨Ledger.parted, ⟨Or.inl (by decide +kernel), by decide +kernel, by decide +kernel⟩,
    optional, unlinked, pulled.trans (congrArg Except.ok held)⟩

end DemandFlow
