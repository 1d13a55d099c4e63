import DemandFlow.Proofs.Evaluation.Account

/-!
Contract: the values that are published while nodes are computed, and what an input keeps of them.

Owns: publications in order, those that an input receives, and that computing nodes does nothing
else to the ports of a graph than to publish.

Main statements: whatever a task leaves comes from publishing values on the outputs that its events
name, in that order (`Performs.publishes`); an input then holds the last value that it received, or
still holds what it held if it received none (`Coherent.value_publishEach`).

Does not own: which values nodes publish (`Proofs.Evaluation.Outcome`).
-/

namespace DemandFlow

/-- The output that an event is a publication on. -/
def Event.publication? : Event → Option PortId
  | .published output => some output
  | .read .. | .evaluated .. => none

namespace Graph

/-- Publishes values on outputs, in order. -/
def publishEach (graph : Graph) (published : List (PortId × Value)) : Graph :=
  published.foldl (fun graph entry => graph.publish entry.1 entry.2) graph

/-- The values that reach an input when values are published on outputs, in order: those of its kind
that are published on its source. Nothing reaches an input that has been freed. -/
def arrivals (graph : Graph) (input : PortId) (published : List (PortId × Value)) : List Value :=
  published.filterMap fun entry =>
    if graph.portAlive input = true ∧ (graph.port input).source = some entry.1 ∧
        entry.2.kind = (graph.port input).kind then some entry.2
    else none

theorem publishEach_cons (graph : Graph) (entry : PortId × Value) (rest : List (PortId × Value)) :
    graph.publishEach (entry :: rest) = (graph.publish entry.1 entry.2).publishEach rest := rfl

theorem publishEach_append (graph : Graph) (earlier later : List (PortId × Value)) :
    graph.publishEach (earlier ++ later) = (graph.publishEach earlier).publishEach later :=
  List.foldl_append

theorem publishAll_eq_publishEach (outputs : List PortId) (values : List Value) (graph : Graph) :
    Demand.publishAll outputs values graph = graph.publishEach (outputs.zip values) := by
  induction outputs generalizing values graph with
  | nil => rfl
  | cons output outputs inductionHypothesis =>
      cases values with
      | nil => rfl
      | cons value values => exact inductionHypothesis values (graph.publish output value)

end Graph

theorem filterMap_publications (outputs : List PortId) (values : List Value) :
    (publications outputs values).filterMap Event.publication? =
      (outputs.zip values).map Prod.fst := by
  induction outputs generalizing values with
  | nil => rfl
  | cons output outputs inductionHypothesis =>
      cases values with
      | nil => rfl
      | cons value values => exact congrArg (output :: ·) (inductionHypothesis values)

/-! ### What a task publishes -/

/-- One graph becomes another as values are published on outputs of its nodes, which events name. -/
structure Publishes (graph after : Graph) (events : List Event)
    (published : List (PortId × Value)) : Prop where
  named : events.filterMap Event.publication? = published.map Prod.fst
  outgoing : ∀ entry ∈ published, (graph.port entry.1).direction = .output
  left : after = graph.publishEach published

namespace Publishes

variable {graph between after : Graph} {earlier later events : List Event}
  {first second published : List (PortId × Value)}

theorem refl (graph : Graph) : Publishes graph graph [] [] where
  named := rfl
  outgoing := by simp
  left := rfl

theorem trans (begins : Publishes graph between earlier first)
    (continues : Publishes between after later second) (same : graph.SameLinks between) :
    Publishes graph after (earlier ++ later) (first ++ second) where
  named := by rw [List.filterMap_append, begins.named, continues.named, List.map_append]
  outgoing entry member := by
    rcases List.mem_append.mp member with published | published
    · exact begins.outgoing entry published
    · rw [← (same.shape.port entry.1).direction]
      exact continues.outgoing entry published
  left := by rw [continues.left, begins.left, Graph.publishEach_append]

theorem read (publishes : Publishes graph after events published) (input : PortId) (value : Value)
    (held : Option Value) :
    Publishes graph after (.read input value held :: events) published :=
  ⟨publishes.named, publishes.outgoing, publishes.left⟩

theorem ended (publishes : Publishes graph after events published) (node : NodeId)
    (result : Except EvaluationError Unit) :
    Publishes graph after (events ++ [.evaluated node result]) published where
  named := by
    rw [List.filterMap_append, publishes.named]
    exact List.append_nil _
  outgoing := publishes.outgoing
  left := publishes.left

/-- A node publishes on its outputs. -/
theorem all {admitted : Blueprint → Prop} (shaped : graph.Shaped admitted) (node : NodeId)
    (values : List Value) :
    Publishes graph (Demand.publishAll (graph.node node).outputs values graph)
      (publications (graph.node node).outputs values) ((graph.node node).outputs.zip values) where
  named := filterMap_publications _ _
  outgoing _ member := (shaped.output (List.of_mem_zip member).1).1
  left := Graph.publishAll_eq_publishEach _ _ _

end Publishes

/-- All that a task does to a graph is to publish. -/
theorem Performs.publishes {task : Task} {run after : Run}
    {result : Except EvaluationError (List Value)} {events : List Event}
    (performs : Performs task run result after events) {admitted : Blueprint → Prop}
    (shaped : run.graph.Shaped admitted) :
    ∃ published, Publishes run.graph after.graph events published := by
  induction performs with
  | reenter => exact ⟨[], .refl _⟩
  | reuse => exact ⟨[], .refl _⟩
  | complete _ _ _ inductionHypothesis =>
      obtain ⟨published, publishes⟩ := inductionHypothesis shaped
      exact ⟨published, publishes.ended _ _⟩
  | abandon _ _ _ inductionHypothesis =>
      obtain ⟨published, publishes⟩ := inductionHypothesis shaped
      exact ⟨published, publishes.ended _ _⟩
  | constant => exact ⟨_, .all shaped _ _⟩
  | lack => exact ⟨[], .refl _⟩
  | halt _ _ _ inductionHypothesis => exact inductionHypothesis shaped
  | @respond run between node rule values responded failure events behaviour ready pulls response
      inductionHypothesis =>
      obtain ⟨published, publishes⟩ := inductionHypothesis shaped
      have links := pulls.account.links
      have responds := Publishes.all (shaped.of_sameShape links.shape) node responded
      rw [(links.shape.node node).outputs] at responds
      exact ⟨_, publishes.trans responds links⟩
  | done => exact ⟨[], .refl _⟩
  | starve => exact ⟨[], .refl _⟩
  | spare _ _ _ inductionHypothesis =>
      obtain ⟨published, publishes⟩ := inductionHypothesis shaped
      exact ⟨published, publishes.read _ _ _⟩
  | block _ _ inductionHypothesis => exact inductionHypothesis shaped
  | receive _ demand _ demandHypothesis pullHypothesis =>
      have links := demand.account.links
      obtain ⟨earlier, begins⟩ := demandHypothesis shaped
      obtain ⟨later, continues⟩ := pullHypothesis (shaped.of_sameShape links.shape)
      exact ⟨_, begins.trans (continues.read _ _ _) links⟩

/-! ### What an input receives -/

namespace Graph

theorem arrivals_append (graph : Graph) (input : PortId) (earlier later : List (PortId × Value)) :
    graph.arrivals input (earlier ++ later) =
      graph.arrivals input earlier ++ graph.arrivals input later :=
  List.filterMap_append

theorem SameLinks.arrivals {before after : Graph} (same : before.SameLinks after) (input : PortId)
    (published : List (PortId × Value)) :
    after.arrivals input published = before.arrivals input published := by
  unfold Graph.arrivals
  rw [same.portAlive, same.source, (same.shape.port input).kind]

variable {graph : Graph} {input : PortId}

/-- An input takes a value of its kind that is published on its source, and nothing else. -/
theorem Coherent.value_publish_input (coherent : graph.Coherent) (made : input < graph.ports.size)
    (incoming : (graph.port input).direction = .input) {output : PortId}
    (outgoing : (graph.port output).direction = .output) (value : Value) :
    ((graph.publish output value).port input).value =
      (graph.arrivals input [(output, value)]).getLastD (graph.port input).value := by
  have differs : input ≠ output := by
    rintro rfl
    rw [incoming] at outgoing
    cases outgoing
  rw [port_publish value made]
  by_cases listed : input ∈ graph.liveSinks output
  · have linked := coherent.mem_liveSinks_iff.mp listed
    by_cases fits : value.kind = (graph.port input).kind
    · simp [arrivals, listed, linked, fits, Port.value_store fits]
    · simp [arrivals, listed, fits, Port.store]
  · have apart : ¬ (graph.portAlive input = true ∧ (graph.port input).source = some output) :=
      fun linked => listed (coherent.mem_liveSinks_iff.mpr linked)
    rw [if_neg (not_or.mpr ⟨differs, listed⟩)]
    simp only [arrivals, List.filterMap_cons, List.filterMap_nil]
    rw [if_neg fun reached => apart ⟨reached.1, reached.2.1⟩]
    rfl

theorem getLastD_append {Item : Type} (earlier later : List Item) (start : Item) :
    (earlier ++ later).getLastD start = later.getLastD (earlier.getLastD start) := by
  simp [List.getLastD_eq_getLast?, List.getLast?_append, Option.getD_or]

/-- After publications an input holds the last value that it received, if it received any. -/
theorem Coherent.value_publishEach (coherent : graph.Coherent) (made : input < graph.ports.size)
    (incoming : (graph.port input).direction = .input) {published : List (PortId × Value)}
    (outgoing : ∀ entry ∈ published, (graph.port entry.1).direction = .output) :
    ((graph.publishEach published).port input).value =
      (graph.arrivals input published).getLastD (graph.port input).value := by
  induction published generalizing graph with
  | nil => rfl
  | cons entry rest inductionHypothesis =>
      obtain ⟨first, others⟩ := List.forall_mem_cons.mp outgoing
      have same := sameLinks_publish graph entry.1 entry.2
      have direction (id : PortId) := (same.shape.port id).direction
      have arrive : graph.arrivals input (entry :: rest) =
          graph.arrivals input [entry] ++ graph.arrivals input rest :=
        graph.arrivals_append input [entry] rest
      rw [publishEach_cons, inductionHypothesis (coherent.of_sameLinks same)
        (by rwa [same.shape.ports_size]) ((direction input).trans incoming)
        fun other member => (direction other.1).trans (others other member),
        coherent.value_publish_input made incoming first, same.arrivals, arrive, getLastD_append]

end Graph

end DemandFlow
