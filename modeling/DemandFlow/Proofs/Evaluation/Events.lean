import DemandFlow.Evaluation.Demand

/-!
Contract: what happens while nodes are computed, in order.

Owns: the tasks of a pass, the events that performing a task consists of, and the rules by which
tasks are performed.

Main statements: whatever a computation ends with, the rules lead to (`performs_demandWithin`,
`performs_pullWithin`), and they lead to nothing else (`Performs.unique`).

Does not own: what the events leave behind (`Proofs.Evaluation.Account`).
-/

namespace DemandFlow

/-! ### Events -/

/-- Something that happens while nodes are computed. -/
inductive Event where
  /-- An input has been read, while its source, if it has one, holds a value. -/
  | read (input : PortId) (value : Value) (held : Option Value)
  | published (output : PortId)
  /-- An evaluation that was begun has ended. -/
  | evaluated (node : NodeId) (result : Except EvaluationError Unit)

/-- The events of publishing values on outputs in order. -/
def publications : List PortId → List Value → List Event
  | output :: outputs, _ :: values => .published output :: publications outputs values
  | _, _ => []

/-- Something to be done as part of a pass. -/
inductive Task where
  | demand (node : NodeId)
  | evaluate (node : NodeId)
  | pull (inputs : List PortId)

/-! ### Rules -/

/-- What a node responds to the values of its inputs. A constant asks for none. -/
def Behaviour.rule? : Behaviour → Option Rule
  | .constant _ => none
  | .formula function => some ⟨true, Demand.formulaResponse function⟩
  | .custom rule => some rule

namespace Graph

/-- The value that the source of an input holds. -/
def heldBySource? (graph : Graph) (input : PortId) : Option Value :=
  (graph.port input).source.map fun output => (graph.port output).value

def notReady (graph : Graph) (input : PortId) : EvaluationError :=
  .notReady (graph.port input).owner (graph.port input).name

/-- The input whose lack of a link is reported before any input of the node is pulled. -/
def awaited? (graph : Graph) (id : NodeId) (rule : Rule) : Option PortId :=
  if rule.checksRequired then graph.firstMissing? (graph.node id).ports else none

/-- What an evaluation comes to that has published all that its rule responds with. -/
def verdict (graph : Graph) (id : NodeId) :
    Option OperationError → Except EvaluationError (List Value)
  | none => .ok []
  | some cause => .error (.failed id (graph.node id).kindName cause)

end Graph

/-- How a task is performed: its result, the state that it leaves, and the events on the way. Only
pulling inputs results in values, one for each input. -/
inductive Performs : Task → Run → Except EvaluationError (List Value) → Run → List Event → Prop where
  | reenter {run : Run} {node : NodeId} (begun : node ∈ run.pass.inProgress) :
      Performs (.demand node) run (.error (.cycle node)) run []
  | reuse {run : Run} {node : NodeId} (notBegun : node ∉ run.pass.inProgress)
      (known : run.pass.canReuse node = true) : Performs (.demand node) run (.ok []) run []
  | complete {run after : Run} {node : NodeId} {events : List Event}
      (notBegun : node ∉ run.pass.inProgress) (unknown : run.pass.canReuse node = false)
      (evaluation : Performs (.evaluate node) (run.mapPass (·.start node)) (.ok []) after events) :
      Performs (.demand node) run (.ok []) (after.mapPass (·.finish node))
        (events ++ [.evaluated node (.ok ())])
  | abandon {run after : Run} {node : NodeId} {failure : EvaluationError} {events : List Event}
      (notBegun : node ∉ run.pass.inProgress) (unknown : run.pass.canReuse node = false)
      (evaluation :
        Performs (.evaluate node) (run.mapPass (·.start node)) (.error failure) after events) :
      Performs (.demand node) run (.error failure) (after.mapPass (·.abandon node))
        (events ++ [.evaluated node (.error failure)])
  | constant {run : Run} {node : NodeId} {value : Value}
      (behaviour : (run.graph.node node).behaviour = .constant value) :
      Performs (.evaluate node) run (.ok [])
        (run.mapGraph (Demand.publishAll (run.graph.node node).outputs [value]))
        (publications (run.graph.node node).outputs [value])
  | lack {run : Run} {node : NodeId} {rule : Rule} {input : PortId}
      (behaviour : (run.graph.node node).behaviour.rule? = some rule)
      (missing : run.graph.awaited? node rule = some input) :
      Performs (.evaluate node) run (.error (run.graph.notReady input)) run []
  | halt {run after : Run} {node : NodeId} {rule : Rule} {failure : EvaluationError}
      {events : List Event} (behaviour : (run.graph.node node).behaviour.rule? = some rule)
      (ready : run.graph.awaited? node rule = none)
      (pulls : Performs (.pull (run.graph.node node).inputs) run (.error failure) after events) :
      Performs (.evaluate node) run (.error failure) after events
  | respond {run between : Run} {node : NodeId} {rule : Rule} {values published : List Value}
      {failure : Option OperationError} {events : List Event}
      (behaviour : (run.graph.node node).behaviour.rule? = some rule)
      (ready : run.graph.awaited? node rule = none)
      (pulls : Performs (.pull (run.graph.node node).inputs) run (.ok values) between events)
      (response : rule.respond values ((run.graph.node node).outputs.map fun output =>
        (between.graph.port output).value) = (published, failure)) :
      Performs (.evaluate node) run (run.graph.verdict node failure)
        (between.mapGraph (Demand.publishAll (run.graph.node node).outputs published))
        (events ++ publications (run.graph.node node).outputs published)
  | done {run : Run} : Performs (.pull []) run (.ok []) run []
  | starve {run : Run} {input : PortId} {rest : List PortId}
      (unfed : run.graph.sourceNode? input = none)
      (required : (run.graph.port input).required = true) :
      Performs (.pull (input :: rest)) run (.error (run.graph.notReady input)) run []
  | spare {run after : Run} {input : PortId} {rest : List PortId}
      {result : Except EvaluationError (List Value)} {events : List Event}
      (unfed : run.graph.sourceNode? input = none)
      (optional : (run.graph.port input).required = false)
      (pulls : Performs (.pull rest) run result after events) :
      Performs (.pull (input :: rest)) run (result.map ((run.graph.port input).value :: ·)) after
        (.read input (run.graph.port input).value (run.graph.heldBySource? input) :: events)
  | block {run after : Run} {input : PortId} {rest : List PortId} {node : NodeId}
      {failure : EvaluationError} {events : List Event}
      (fed : run.graph.sourceNode? input = some node)
      (demand : Performs (.demand node) run (.error failure) after events) :
      Performs (.pull (input :: rest)) run (.error failure) after events
  | receive {run between after : Run} {input : PortId} {rest : List PortId} {node : NodeId}
      {result : Except EvaluationError (List Value)} {earlier later : List Event}
      (fed : run.graph.sourceNode? input = some node)
      (demand : Performs (.demand node) run (.ok []) between earlier)
      (pulls : Performs (.pull rest) between result after later) :
      Performs (.pull (input :: rest)) run
        (result.map ((between.graph.port input).value :: ·)) after
        (earlier ++ .read input (between.graph.port input).value
          (between.graph.heldBySource? input) :: later)

/-! ### From computations to rules -/

/-- Whatever the demand of a node ends with, the rules lead to. -/
def Explains (demand : NodeId → Run → Option (Outcome Unit)) : Prop :=
  ∀ id run result after, demand id run = some (result, after) →
    ∃ events, Performs (.demand id) run (result.map fun _ => []) after events

section Explanations

variable {demand : NodeId → Run → Option (Outcome Unit)}

/-- A pull that ends reads an input that no node feeds, or ends as the demand of the node does. -/
theorem Demand.pull_eq_some {input : PortId} {run after : Run}
    {result : Except EvaluationError Value}
    (pulled : Demand.pull demand input run = some (result, after)) :
    (run.graph.sourceNode? input = none ∧ after = run ∧
      ((run.graph.port input).required = true ∧ result = .error (run.graph.notReady input) ∨
        (run.graph.port input).required = false ∧ result = .ok (run.graph.port input).value)) ∨
    ∃ node first, run.graph.sourceNode? input = some node ∧
      demand node run = some (first, after) ∧
      result = first.map fun _ => (after.graph.port input).value := by
  unfold Demand.pull at pulled
  cases fed : run.graph.sourceNode? input with
  | none =>
      refine Or.inl ⟨rfl, ?_⟩
      cases required : (run.graph.port input).required with
      | true =>
          simp only [fed, required] at pulled
          cases pulled
          exact ⟨rfl, Or.inl ⟨rfl, rfl⟩⟩
      | false =>
          simp only [fed, required] at pulled
          cases pulled
          exact ⟨rfl, Or.inr ⟨rfl, rfl⟩⟩
  | some node =>
      simp only [fed] at pulled
      cases demanded : demand node run with
      | none =>
          rw [demanded] at pulled
          cases pulled
      | some outcome =>
          obtain ⟨first, between⟩ := outcome
          rw [demanded] at pulled
          cases first <;>
            · cases pulled
              exact Or.inr ⟨node, _, rfl, demanded, rfl⟩

/-- Pulling inputs ends with the first of them, or goes on to the rest. -/
theorem Demand.pullAll_cons_eq_some {input : PortId} {rest : List PortId} {run after : Run}
    {result : Except EvaluationError (List Value)}
    (pulled : Demand.pullAll demand (input :: rest) run = some (result, after)) :
    (∃ failure, Demand.pull demand input run = some (.error failure, after) ∧
      result = .error failure) ∨
    ∃ value between others, Demand.pull demand input run = some (.ok value, between) ∧
      Demand.pullAll demand rest between = some (others, after) ∧
      result = others.map (value :: ·) := by
  unfold Demand.pullAll at pulled
  cases first : Demand.pull demand input run with
  | none =>
      rw [first] at pulled
      cases pulled
  | some outcome =>
      obtain ⟨value, between⟩ := outcome
      rw [first] at pulled
      cases value with
      | error failure =>
          cases pulled
          exact Or.inl ⟨failure, rfl, rfl⟩
      | ok value =>
          dsimp only at pulled
          cases onward : Demand.pullAll demand rest between with
          | none =>
              rw [onward] at pulled
              cases pulled
          | some outcome =>
              obtain ⟨others, last⟩ := outcome
              rw [onward] at pulled
              cases others <;>
                · cases pulled
                  exact Or.inr ⟨value, between, _, rfl, onward, rfl⟩

theorem Explains.pullAll (explains : Explains demand) {inputs : List PortId} {run after : Run}
    {result : Except EvaluationError (List Value)}
    (pulled : Demand.pullAll demand inputs run = some (result, after)) :
    ∃ events, Performs (.pull inputs) run result after events := by
  induction inputs generalizing run result with
  | nil =>
      cases pulled
      exact ⟨[], .done⟩
  | cons input rest inductionHypothesis =>
      rcases Demand.pullAll_cons_eq_some pulled with
        ⟨failure, first, rfl⟩ | ⟨value, between, others, first, onward, rfl⟩
      · rcases Demand.pull_eq_some first with
          ⟨fed, rfl, ⟨required, same⟩ | ⟨-, impossible⟩⟩ | ⟨node, reached, fed, demanded, same⟩
        · cases same
          exact ⟨[], .starve fed required⟩
        · cases impossible
        · cases reached with
          | ok => cases same
          | error cause =>
              cases same
              obtain ⟨events, performs⟩ := explains node run _ after demanded
              exact ⟨events, .block fed performs⟩
      · obtain ⟨later, performsRest⟩ := inductionHypothesis onward
        rcases Demand.pull_eq_some first with
          ⟨fed, rfl, ⟨-, impossible⟩ | ⟨optional, same⟩⟩ | ⟨node, reached, fed, demanded, same⟩
        · cases impossible
        · cases same
          exact ⟨_, .spare fed optional performsRest⟩
        · cases reached with
          | error cause => cases same
          | ok =>
              cases same
              obtain ⟨earlier, performs⟩ := explains node run _ between demanded
              exact ⟨_, .receive fed performs performsRest⟩

theorem Explains.respond (explains : Explains demand) {id : NodeId} {rule : Rule}
    {run after : Run} {result : Except EvaluationError Unit}
    (behaviour : (run.graph.node id).behaviour.rule? = some rule)
    (responded :
      Demand.respond demand id rule.checksRequired rule.respond run = some (result, after)) :
    ∃ events, Performs (.evaluate id) run (result.map fun _ => []) after events := by
  have awaited : (if rule.checksRequired then
      run.graph.firstMissing? (run.graph.node id).ports else none) = run.graph.awaited? id rule := rfl
  unfold Demand.respond at responded
  dsimp only at responded
  rw [awaited] at responded
  cases ready : run.graph.awaited? id rule with
  | some input =>
      rw [ready] at responded
      cases responded
      exact ⟨[], .lack behaviour ready⟩
  | none =>
      simp only [ready] at responded
      cases pulled : Demand.pullAll demand (run.graph.node id).inputs run with
      | none =>
          rw [pulled] at responded
          cases responded
      | some outcome =>
          obtain ⟨values, between⟩ := outcome
          obtain ⟨events, performs⟩ := explains.pullAll pulled
          rw [pulled] at responded
          cases values with
          | error failure =>
              cases responded
              exact ⟨events, .halt behaviour ready performs⟩
          | ok values =>
              have ended := Performs.respond behaviour ready performs rfl
              dsimp only at responded
              split at responded <;>
                · rename_i outcome
                  rw [outcome] at ended
                  cases responded
                  exact ⟨_, ended⟩

theorem Explains.evaluate (explains : Explains demand) {id : NodeId} {run after : Run}
    {result : Except EvaluationError Unit}
    (evaluated : Demand.evaluate demand id run = some (result, after)) :
    ∃ events, Performs (.evaluate id) run (result.map fun _ => []) after events := by
  unfold Demand.evaluate at evaluated
  cases behaviour : (run.graph.node id).behaviour with
  | constant value =>
      rw [behaviour] at evaluated
      cases evaluated
      exact ⟨_, .constant behaviour⟩
  | formula function =>
      rw [behaviour] at evaluated
      exact explains.respond (congrArg Behaviour.rule? behaviour) evaluated
  | custom rule =>
      rw [behaviour] at evaluated
      exact explains.respond (congrArg Behaviour.rule? behaviour) evaluated

end Explanations

/-- Whatever a demand of a node ends with, the rules lead to. -/
theorem performs_demandWithin (depth : Nat) : Explains (demandWithin depth) := by
  induction depth with
  | zero =>
      intro id run result after demanded
      cases demanded
  | succ depth inductionHypothesis =>
      intro id run result after demanded
      unfold demandWithin at demanded
      split at demanded
      · rename_i begun
        cases demanded
        exact ⟨[], .reenter (by simpa using begun)⟩
      rename_i notBegun
      have outside : id ∉ run.pass.inProgress := by simpa using notBegun
      split at demanded
      · rename_i known
        cases demanded
        exact ⟨[], .reuse outside known⟩
      rename_i unknown
      have fresh : run.pass.canReuse id = false := by simpa using unknown
      split at demanded
      · cases demanded
      · rename_i evaluated
        obtain ⟨events, performs⟩ := inductionHypothesis.evaluate evaluated
        cases demanded
        exact ⟨_, .complete outside fresh performs⟩
      · rename_i evaluated
        obtain ⟨events, performs⟩ := inductionHypothesis.evaluate evaluated
        cases demanded
        exact ⟨_, .abandon outside fresh performs⟩

/-- Whatever pulling an input ends with, the rules lead to. -/
theorem performs_pullWithin {depth : Nat} {input : PortId} {run after : Run}
    {result : Except EvaluationError Value}
    (pulled : Demand.pull (demandWithin depth) input run = some (result, after)) :
    ∃ events, Performs (.pull [input]) run (result.map ([·])) after events := by
  apply (performs_demandWithin depth).pullAll
  rw [Demand.pullAll, pulled]
  cases result <;> rfl

/-! ### Determinism -/

/-- The rules lead to one result, one state and one list of events. -/
theorem Performs.unique {task : Task} {run after other : Run}
    {result otherResult : Except EvaluationError (List Value)} {events otherEvents : List Event}
    (performs : Performs task run result after events)
    (performsToo : Performs task run otherResult other otherEvents) :
    otherResult = result ∧ other = after ∧ otherEvents = events := by
  induction performs generalizing otherResult other otherEvents with
  | reenter begun => cases performsToo <;> simp_all
  | reuse notBegun known => cases performsToo <;> simp_all
  | complete notBegun unknown _ inductionHypothesis =>
      cases performsToo with
      | reenter begun => exact absurd begun notBegun
      | reuse _ known => simp [unknown] at known
      | complete _ _ evaluation =>
          obtain ⟨-, rfl, rfl⟩ := inductionHypothesis evaluation
          exact ⟨rfl, rfl, rfl⟩
      | abandon _ _ evaluation => cases (inductionHypothesis evaluation).1
  | abandon notBegun unknown _ inductionHypothesis =>
      cases performsToo with
      | reenter begun => exact absurd begun notBegun
      | reuse _ known => simp [unknown] at known
      | complete _ _ evaluation => cases (inductionHypothesis evaluation).1
      | abandon _ _ evaluation =>
          obtain ⟨same, rfl, rfl⟩ := inductionHypothesis evaluation
          cases same
          exact ⟨rfl, rfl, rfl⟩
  | constant behaviour => cases performsToo <;> simp_all [Behaviour.rule?]
  | lack behaviour missing => cases performsToo <;> simp_all [Behaviour.rule?]
  | halt behaviour ready _ inductionHypothesis =>
      cases performsToo with
      | constant constant => simp [constant, Behaviour.rule?] at behaviour
      | lack same missing => simp_all
      | halt same _ pulls =>
          cases Option.some.inj (same.symm.trans behaviour)
          exact inductionHypothesis pulls
      | respond same _ pulls => cases (inductionHypothesis pulls).1
  | respond behaviour ready _ response inductionHypothesis =>
      cases performsToo with
      | constant constant => simp [constant, Behaviour.rule?] at behaviour
      | lack same missing => simp_all
      | halt same _ pulls => cases (inductionHypothesis pulls).1
      | respond same _ pulls answer =>
          cases Option.some.inj (same.symm.trans behaviour)
          obtain ⟨sameValues, rfl, rfl⟩ := inductionHypothesis pulls
          cases sameValues
          cases answer.symm.trans response
          exact ⟨rfl, rfl, rfl⟩
  | done =>
      cases performsToo
      exact ⟨rfl, rfl, rfl⟩
  | starve unfed required => cases performsToo <;> simp_all
  | spare unfed optional _ inductionHypothesis =>
      cases performsToo with
      | starve _ required => simp [optional] at required
      | spare _ _ pulls =>
          obtain ⟨rfl, rfl, rfl⟩ := inductionHypothesis pulls
          exact ⟨rfl, rfl, rfl⟩
      | block fed => simp [unfed] at fed
      | receive fed => simp [unfed] at fed
  | block fed _ inductionHypothesis =>
      cases performsToo with
      | starve unfed => simp [fed] at unfed
      | spare unfed => simp [fed] at unfed
      | block same demand =>
          cases Option.some.inj (same.symm.trans fed)
          exact inductionHypothesis demand
      | receive same demand =>
          cases Option.some.inj (same.symm.trans fed)
          cases (inductionHypothesis demand).1
  | receive fed _ _ demandHypothesis pullHypothesis =>
      cases performsToo with
      | starve unfed => simp [fed] at unfed
      | spare unfed => simp [fed] at unfed
      | block same demand =>
          cases Option.some.inj (same.symm.trans fed)
          cases (demandHypothesis demand).1
      | receive same demand pulls =>
          cases Option.some.inj (same.symm.trans fed)
          obtain ⟨-, rfl, rfl⟩ := demandHypothesis demand
          obtain ⟨rfl, rfl, rfl⟩ := pullHypothesis pulls
          exact ⟨rfl, rfl, rfl⟩

end DemandFlow
