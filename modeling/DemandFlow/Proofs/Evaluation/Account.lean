import DemandFlow.Proofs.Evaluation.Events
import DemandFlow.Proofs.Evaluation.Frame
import DemandFlow.Proofs.Evaluation.Reference

/-!
Contract: what the events of a task tell about the state that it leaves.

Owns: the account of a task, that every task renders it, and that every demand of a node there is
comes to an end.

Main statements: whatever nodes do, performing a task counts, completes and tidies exactly what its
events say, and ends with the nodes in progress that it began with (`Performs.account`); and a
computation is performed (`performs_compute`, `performs_pull`).

Does not own: which values are read on the way (`Proofs.Evaluation.Delivery`).
-/

namespace DemandFlow

/-! ### Events of one sort -/

def Event.evaluation? : Event → Option NodeId
  | .evaluated node _ => some node
  | _ => none

def Event.success? : Event → Option NodeId
  | .evaluated node (.ok ()) => some node
  | _ => none

/-- The nodes evaluated, in the order in which their evaluations ended. -/
def evaluations (events : List Event) : List NodeId := events.filterMap Event.evaluation?

/-- The nodes whose evaluation succeeded, in the order in which it ended. -/
def successes (events : List Event) : List NodeId := events.filterMap Event.success?

theorem evaluations_append (earlier later : List Event) :
    evaluations (earlier ++ later) = evaluations earlier ++ evaluations later :=
  List.filterMap_append

theorem successes_append (earlier later : List Event) :
    successes (earlier ++ later) = successes earlier ++ successes later :=
  List.filterMap_append

theorem evaluations_publications (outputs : List PortId) (values : List Value) :
    evaluations (publications outputs values) = [] := by
  induction outputs generalizing values with
  | nil => cases values <;> rfl
  | cons output outputs inductionHypothesis =>
      cases values with
      | nil => rfl
      | cons value values => exact inductionHypothesis values

theorem evaluations_evaluated (node : NodeId) (result : Except EvaluationError Unit) :
    evaluations [.evaluated node result] = [node] := rfl

theorem evaluations_read (input : PortId) (value : Value) (held : Option Value)
    (events : List Event) :
    evaluations (.read input value held :: events) = evaluations events := rfl

theorem mem_successes {events : List Event} {node : NodeId} :
    node ∈ successes events ↔ .evaluated node (.ok ()) ∈ events := by
  rw [successes, List.mem_filterMap]
  constructor
  · rintro ⟨event, member, found⟩
    cases event with
    | read => cases found
    | published => cases found
    | evaluated other result =>
        cases result with
        | error failure => cases found
        | ok =>
            cases found
            exact member
  · intro member
    exact ⟨_, member, rfl⟩

theorem mem_evaluations_of_success {events : List Event} {node : NodeId}
    (member : node ∈ successes events) : node ∈ evaluations events :=
  List.mem_filterMap.mpr ⟨_, mem_successes.mp member, rfl⟩

theorem successes_eq_nil {events : List Event} (none : evaluations events = []) :
    successes events = [] := by
  apply List.eq_nil_iff_forall_not_mem.mpr
  intro node member
  have evaluated := mem_evaluations_of_success member
  rw [none] at evaluated
  cases evaluated

/-! ### Accounts -/

/-- What the events say about the memory of the pass before and after them. -/
structure Tally (before after : Pass) (events : List Event) : Prop where
  memoized : after.memoized = before.memoized
  inProgress : after.inProgress = before.inProgress
  visits : after.visits = before.visits + (evaluations events).length
  completed : ∀ node, node ∈ after.completed ↔ node ∈ before.completed ∨ node ∈ successes events
  /-- No node is evaluated that is in progress already. -/
  outside : ∀ node ∈ evaluations events, node ∉ before.inProgress
  /-- A pass that memoizes completes no node that it has completed. -/
  once : before.memoized = true →
    (successes events).Nodup ∧ ∀ node ∈ successes events, node ∉ before.completed

namespace Tally

variable {before between after : Pass} {earlier later events : List Event}

/-- Events without evaluations leave the memory as it is. -/
theorem of_quiet (none : evaluations events = []) (pass : Pass) : Tally pass pass events where
  memoized := rfl
  inProgress := rfl
  visits := by rw [none]; rfl
  completed node := by simp [successes_eq_nil none]
  outside := by simp [none]
  once _ := by simp [successes_eq_nil none]

theorem trans (first : Tally before between earlier) (second : Tally between after later) :
    Tally before after (earlier ++ later) where
  memoized := second.memoized.trans first.memoized
  inProgress := second.inProgress.trans first.inProgress
  visits := by
    rw [second.visits, first.visits, evaluations_append, List.length_append, Nat.add_assoc]
  completed node := by
    rw [second.completed, first.completed, successes_append, List.mem_append, or_assoc]
  outside node member := by
    rw [evaluations_append] at member
    rcases List.mem_append.mp member with early | late
    · exact first.outside node early
    · rw [← first.inProgress]
      exact second.outside node late
  once memoizes := by
    obtain ⟨earlyOnce, earlyNew⟩ := first.once memoizes
    obtain ⟨lateOnce, lateNew⟩ := second.once (first.memoized.trans memoizes)
    rw [successes_append]
    constructor
    · refine List.nodup_append.mpr ⟨earlyOnce, lateOnce, ?_⟩
      rintro node early _ late rfl
      exact lateNew node late ((first.completed node).mpr (Or.inr early))
    · intro node member isDone
      rcases List.mem_append.mp member with early | late
      · exact earlyNew node early isDone
      · exact lateNew node late ((first.completed node).mpr (Or.inl isDone))

section Evaluation

variable {node : NodeId}

theorem visits_ended (tally : Tally (before.start node) after events)
    (result : Except EvaluationError Unit) :
    after.visits =
      before.visits + (evaluations (events ++ [.evaluated node result])).length := by
  have counted : after.visits = before.visits + 1 + (evaluations events).length := tally.visits
  have last : evaluations [.evaluated node result] = [node] := rfl
  rw [counted, evaluations_append, last, List.length_append, List.length_singleton]
  omega

theorem outside_ended (notBegun : node ∉ before.inProgress)
    (tally : Tally (before.start node) after events) (result : Except EvaluationError Unit) :
    ∀ other ∈ evaluations (events ++ [.evaluated node result]), other ∉ before.inProgress := by
  have last : evaluations [.evaluated node result] = [node] := rfl
  intro other member
  rw [evaluations_append, last] at member
  rcases List.mem_append.mp member with within | isLast
  · exact fun begun => tally.outside other within (List.mem_cons_of_mem _ begun)
  · rwa [List.mem_singleton.mp isLast]

/-- The tally of an evaluation that has failed. -/
theorem abandon (notBegun : node ∉ before.inProgress)
    (tally : Tally (before.start node) after events) (failure : EvaluationError) :
    Tally before (after.abandon node) (events ++ [.evaluated node (.error failure)]) := by
  have none : successes (events ++ [.evaluated node (.error failure)]) = successes events := by
    rw [successes_append]
    exact List.append_nil _
  constructor
  · exact tally.memoized
  · show after.inProgress.erase node = before.inProgress
    rw [tally.inProgress]
    exact Pass.inProgress_abandon_start before node
  · exact tally.visits_ended _
  · rw [none]
    exact tally.completed
  · exact tally.outside_ended notBegun _
  · rw [none]
    exact tally.once

/-- The tally of an evaluation that has succeeded. -/
theorem finish (notBegun : node ∉ before.inProgress) (unknown : before.canReuse node = false)
    (tally : Tally (before.start node) after events) :
    Tally before (after.finish node) (events ++ [.evaluated node (.ok ())]) := by
  have last : successes (events ++ [.evaluated node (.ok ())]) = successes events ++ [node] := by
    rw [successes_append]
    rfl
  constructor
  · exact tally.memoized
  · show after.inProgress.erase node = before.inProgress
    rw [tally.inProgress]
    exact Pass.inProgress_finish_start before node
  · exact tally.visits_ended _
  · intro other
    have known : other ∈ after.completed ↔
        other ∈ before.completed ∨ other ∈ successes events := tally.completed other
    rw [after.mem_completed_finish, known, last, List.mem_append, List.mem_singleton, or_comm,
      or_assoc]
  · exact tally.outside_ended notBegun _
  · intro memoizes
    obtain ⟨once, new⟩ := tally.once memoizes
    have fresh : node ∉ before.completed := by
      simpa [Pass.canReuse, memoizes] using unknown
    rw [last]
    constructor
    · refine List.nodup_append.mpr ⟨once, List.pairwise_singleton _ node, ?_⟩
      rintro other within _ isLast rfl
      -- The node is in progress during its evaluation, so it is not evaluated within it.
      apply tally.outside other (mem_evaluations_of_success within)
      rw [List.mem_singleton.mp isLast]
      exact List.mem_cons_self
    · intro other member
      rcases List.mem_append.mp member with within | isLast
      · exact new other within
      · rwa [List.mem_singleton.mp isLast]

end Evaluation

end Tally

/-- What the events say about the states before and after them. -/
structure Account (run after : Run) (events : List Event) : Prop where
  tally : Tally run.pass after.pass events
  links : run.graph.SameLinks after.graph
  untouched : ∀ output, .published output ∉ events →
    (after.graph.port output).sinks = (run.graph.port output).sinks
  tidied : ∀ output, .published output ∈ events →
    (after.graph.port output).sinks = run.graph.liveSinks output

namespace Account

variable {run between after : Run} {earlier later events : List Event}

theorem refl (run : Run) : Account run run [] where
  tally := .of_quiet rfl run.pass
  links := .refl run.graph
  untouched _ _ := rfl
  tidied := by simp

/-- Reading an input changes nothing. -/
theorem read (run : Run) (input : PortId) (value : Value) (held : Option Value) :
    Account run run [.read input value held] where
  tally := .of_quiet rfl run.pass
  links := .refl run.graph
  untouched _ _ := rfl
  tidied := by simp

theorem trans (first : Account run between earlier) (second : Account between after later) :
    Account run after (earlier ++ later) where
  tally := first.tally.trans second.tally
  links := first.links.trans second.links
  untouched output unpublished := by
    rw [List.mem_append, not_or] at unpublished
    rw [second.untouched output unpublished.2, first.untouched output unpublished.1]
  tidied output published := by
    by_cases late : .published output ∈ later
    · rw [second.tidied output late, first.links.liveSinks]
    · have early := (List.mem_append.mp published).resolve_right late
      rw [second.untouched output late, first.tidied output early]

/-- The start and the end of an evaluation change no more than the memory of the pass. -/
theorem ended {node : NodeId} (account : Account (run.mapPass (·.start node)) between events)
    {result : Except EvaluationError Unit} {change : Pass → Pass}
    (tally : Tally run.pass (change between.pass) (events ++ [.evaluated node result])) :
    Account run (between.mapPass change) (events ++ [.evaluated node result]) where
  tally := tally
  links := account.links
  untouched output unpublished := account.untouched output fun member =>
    unpublished (List.mem_append_left _ member)
  tidied output published := account.tidied output (by simpa using published)

end Account

theorem Graph.sinks_publish (graph : Graph) (output id : PortId) (value : Value) :
    ((graph.publish output value).port id).sinks =
      if id = output then graph.liveSinks output else (graph.port id).sinks := by
  rcases Nat.lt_or_ge id graph.ports.size with made | beyond
  · rw [port_publish value made]
  · rw [port_of_size_le, port_of_size_le beyond]
    · split
      · rename_i same
        rw [← same, liveSinks_of_size_le beyond]
        rfl
      · rfl
    · rwa [(sameShape_publish graph output value).ports_size]

theorem account_publish (run : Run) (output : PortId) (value : Value) :
    Account run (run.mapGraph (·.publish output value)) [.published output] := by
  have sinks (id : PortId) : ((run.graph.publish output value).port id).sinks =
      if id = output then run.graph.liveSinks output else (run.graph.port id).sinks :=
    run.graph.sinks_publish output id value
  refine ⟨.of_quiet rfl run.pass, Graph.sameLinks_publish run.graph output value, ?_, ?_⟩
  · intro other unpublished
    have differs : other ≠ output := by
      rintro rfl
      exact unpublished List.mem_cons_self
    exact (sinks other).trans (if_neg differs)
  · intro other published
    have same : other = output := by simpa using published
    subst same
    exact (sinks other).trans (if_pos rfl)

theorem account_publishAll (outputs : List PortId) (values : List Value) (run : Run) :
    Account run (run.mapGraph (Demand.publishAll outputs values)) (publications outputs values) := by
  induction outputs generalizing values run with
  | nil => cases values <;> exact .refl run
  | cons output outputs inductionHypothesis =>
      cases values with
      | nil => exact .refl run
      | cons value values =>
          exact (account_publish run output value).trans (inductionHypothesis values _)

/-- Performing a task leaves what its events say. -/
theorem Performs.account {task : Task} {run after : Run}
    {result : Except EvaluationError (List Value)} {events : List Event}
    (performs : Performs task run result after events) : Account run after events := by
  induction performs with
  | reenter => exact .refl _
  | reuse => exact .refl _
  | complete notBegun unknown _ account =>
      exact account.ended (account.tally.finish notBegun unknown)
  | abandon notBegun unknown _ account =>
      exact account.ended (account.tally.abandon notBegun _)
  | constant => exact account_publishAll _ _ _
  | lack => exact .refl _
  | halt _ _ _ account => exact account
  | respond _ _ _ _ account => exact account.trans (account_publishAll _ _ _)
  | done => exact .refl _
  | starve => exact .refl _
  | spare _ _ _ account => exact (Account.read _ _ _ _).trans account
  | block _ _ account => exact account
  | receive _ _ _ first second => exact first.trans ((Account.read _ _ _ _).trans second)

/-! ### Every demand ends -/

theorem Graph.sourceNode?_eq_some_iff {graph : Graph} {input : PortId} {node : NodeId} :
    graph.sourceNode? input = some node ↔
      ∃ output, (graph.port input).source = some output ∧ (graph.port output).owner = node ∧
        graph.nodeAlive node = true := by
  unfold sourceNode?
  rw [Option.bind_eq_some_iff]
  constructor
  · rintro ⟨output, linked, found⟩
    obtain ⟨alive, owner⟩ := Option.ite_none_right_eq_some.mp found
    obtain rfl := Option.some.inj owner
    exact ⟨output, linked, rfl, alive⟩
  · rintro ⟨output, linked, rfl, alive⟩
    exact ⟨output, linked, if_pos alive⟩

theorem Graph.nodeAlive_of_sourceNode? {graph : Graph} {input : PortId} {node : NodeId}
    (fed : graph.sourceNode? input = some node) : graph.nodeAlive node = true := by
  obtain ⟨-, -, -, alive⟩ := sourceNode?_eq_some_iff.mp fed
  exact alive

/-- Every demand of a node there is comes to an end, in every state with so many nodes and with
these nodes in progress. -/
def Terminates (demand : NodeId → Run → Option (Outcome Unit)) (size : Nat) (path : List NodeId) :
    Prop :=
  ∀ id run, id < size → run.graph.nodes.size = size → run.pass.inProgress = path →
    ∃ outcome, demand id run = some outcome

section Termination

variable {demand : NodeId → Run → Option (Outcome Unit)} {size : Nat} {path : List NodeId}

theorem Terminates.pullAll (terminates : Terminates demand size path)
    (explains : Explains demand) (inputs : List PortId) {run : Run}
    (sized : run.graph.nodes.size = size) (inProgress : run.pass.inProgress = path) :
    ∃ outcome, Demand.pullAll demand inputs run = some outcome := by
  induction inputs generalizing run with
  | nil => exact ⟨_, rfl⟩
  | cons input rest inductionHypothesis =>
      unfold Demand.pullAll Demand.pull
      cases fed : run.graph.sourceNode? input with
      | none =>
          dsimp only
          cases (run.graph.port input).required with
          | true => exact ⟨_, rfl⟩
          | false =>
              obtain ⟨⟨others, last⟩, pulled⟩ := inductionHypothesis sized inProgress
              cases others <;> simp [pulled]
      | some node =>
          have made : node < size := by
            rw [← sized]
            exact (Graph.nodeAlive_iff.mp (Graph.nodeAlive_of_sourceNode? fed)).1
          obtain ⟨⟨result, between⟩, demanded⟩ := terminates node run made sized inProgress
          obtain ⟨events, performs⟩ := explains node run result between demanded
          simp only [demanded]
          cases result with
          | error failure => exact ⟨_, rfl⟩
          | ok =>
              have account := performs.account
              obtain ⟨⟨others, last⟩, pulled⟩ := inductionHypothesis
                (account.links.shape.nodes_size.trans sized)
                (account.tally.inProgress.trans inProgress)
              cases others <;> simp [pulled]

theorem Terminates.respond (terminates : Terminates demand size path)
    (explains : Explains demand) {run : Run} (sized : run.graph.nodes.size = size)
    (inProgress : run.pass.inProgress = path) (id : NodeId) (checksRequired : Bool)
    (response : List Value → List Value → List Value × Option OperationError) :
    ∃ outcome, Demand.respond demand id checksRequired response run = some outcome := by
  unfold Demand.respond
  dsimp only
  split
  · exact ⟨_, rfl⟩
  · obtain ⟨⟨values, between⟩, pulled⟩ :=
      terminates.pullAll explains (run.graph.node id).inputs sized inProgress
    rw [pulled]
    cases values with
    | error failure => exact ⟨_, rfl⟩
    | ok values =>
        dsimp only
        split <;> exact ⟨_, rfl⟩

theorem Terminates.evaluate (terminates : Terminates demand size path)
    (explains : Explains demand) {run : Run} (sized : run.graph.nodes.size = size)
    (inProgress : run.pass.inProgress = path) (id : NodeId) :
    ∃ outcome, Demand.evaluate demand id run = some outcome := by
  unfold Demand.evaluate
  split
  · exact ⟨_, rfl⟩
  · exact terminates.respond explains sized inProgress id _ _
  · exact terminates.respond explains sized inProgress id _ _

end Termination

/-- A depth suffices that exceeds the number of nodes outside the path: each evaluation puts one
more node on it. -/
theorem terminates_demandWithin {depth size : Nat} {path : List NodeId}
    (enough : ((List.range size).filter (· ∉ path)).length < depth) :
    Terminates (demandWithin depth) size path := by
  induction depth generalizing path with
  | zero => cases enough
  | succ depth inductionHypothesis =>
      intro id run made sized inProgress
      unfold demandWithin
      split
      · exact ⟨_, rfl⟩
      rename_i notBegun
      split
      · exact ⟨_, rfl⟩
      have outside : id ∉ path := by
        rw [← inProgress]
        simpa using notBegun
      have fewer := Graph.length_outside_cons_lt (List.mem_range.mpr made) outside
      have terminates : Terminates (demandWithin depth) size (id :: path) :=
        inductionHypothesis (Nat.lt_of_lt_of_le fewer (Nat.le_of_lt_succ enough))
      have sizedStart : (run.mapPass (·.start id)).graph.nodes.size = size := sized
      have begun : (run.mapPass (·.start id)).pass.inProgress = id :: path :=
        congrArg (id :: ·) inProgress
      obtain ⟨⟨result, after⟩, evaluated⟩ :=
        terminates.evaluate (performs_demandWithin depth) sizedStart begun id
      rw [evaluated]
      cases result <;> exact ⟨_, rfl⟩

theorem Run.terminates (run : Run) :
    Terminates (demandWithin run.depth) run.graph.nodes.size run.pass.inProgress := by
  apply terminates_demandWithin
  have bound := List.length_filter_le (· ∉ run.pass.inProgress) (List.range run.graph.nodes.size)
  rw [List.length_range] at bound
  exact Nat.lt_succ_of_le bound

/-- A computation is performed, whatever its nodes do. -/
theorem performs_compute (run : Run) {id : NodeId} (made : id < run.graph.nodes.size) :
    ∃ events, Performs (.demand id) run ((run.compute id).1.map fun _ => []) (run.compute id).2
      events := by
  obtain ⟨⟨result, after⟩, demanded⟩ := run.terminates id run made rfl rfl
  rw [Run.compute, demanded]
  exact performs_demandWithin _ id run result after demanded

/-- A pull is performed. -/
theorem performs_pull (run : Run) (input : PortId) :
    ∃ events, Performs (.pull [input]) run ((run.pull input).1.map ([·])) (run.pull input).2
      events := by
  obtain ⟨outcome, pulledAll⟩ :=
    run.terminates.pullAll (performs_demandWithin _) [input] rfl rfl
  cases pulled : Demand.pull (demandWithin run.depth) input run with
  | none =>
      rw [Demand.pullAll, pulled] at pulledAll
      cases pulledAll
  | some outcome =>
      rw [Run.pull, pulled]
      exact performs_pullWithin pulled

end DemandFlow
