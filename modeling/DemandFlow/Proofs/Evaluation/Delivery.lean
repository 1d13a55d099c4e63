import DemandFlow.Proofs.Evaluation.Recall
import DemandFlow.Proofs.History.Reachable

/-!
Contract: inputs read what their sources hold.

Owns: when a node has delivered, and when what a pass remembers can be relied on.

Main statement: if every node that a pass can reuse has delivered, then all that is read while a
task is performed over library nodes is what the source holds at that moment, and every node that
can be reused afterwards has delivered (`Performs.delivers`).

Does not own: which edits between two demands a pass that memoizes can bear
(`Proofs.History.Freshness`).
-/

namespace DemandFlow

/-- An input that is read has a source, which holds the value that is read. -/
def Event.Faithful : Event → Prop
  | .read _ value held => held = some value
  | .published _ => True
  | .evaluated _ _ => True

theorem faithful_publications (outputs : List PortId) (values : List Value) :
    ∀ event ∈ publications outputs values, event.Faithful := by
  induction outputs generalizing values with
  | nil => simp [publications]
  | cons output outputs inductionHypothesis =>
      cases values with
      | nil => simp [publications]
      | cons value values =>
          intro event member
          rcases List.mem_cons.mp member with rfl | later
          · trivial
          · exact inductionHypothesis values event later

namespace Graph

/-- Every living input that is linked to an output of the node holds what the output holds. -/
def Delivered (graph : Graph) (node : NodeId) : Prop :=
  ∀ input output, graph.portAlive input = true → (graph.port input).source = some output →
    (graph.port output).owner = node → (graph.port input).value = (graph.port output).value

/-! ### Publishing -/

section Publishing

variable {graph : Graph} {output : PortId} {value : Value}

/-- Both ends of a living link hold the value if it is published at the link's source, and keep
theirs if not. -/
theorem Coherent.value_publish (coherent : graph.Coherent)
    (outgoing : (graph.port output).direction = .output)
    (fits : value.kind = (graph.port output).kind) {input source : PortId}
    (alive : graph.portAlive input = true) (linked : (graph.port input).source = some source) :
    ((graph.publish output value).port input).value =
        (if source = output then value else (graph.port input).value) ∧
      ((graph.publish output value).port source).value =
        if source = output then value else (graph.port source).value := by
  obtain ⟨incoming, sourceOutgoing, sameKind, attached⟩ := coherent.joins input source linked
  have inputDiffers : input ≠ output := by
    rintro rfl
    rw [incoming] at outgoing
    cases outgoing
  have sourceUnlisted : source ∉ graph.liveSinks output := by
    intro listed
    have joins := coherent.joins source output (coherent.mem_liveSinks_iff.mp listed).2
    rw [sourceOutgoing] at joins
    cases joins.1
  have inputListed : input ∈ graph.liveSinks output ↔ source = output := by
    rw [coherent.mem_liveSinks_iff, linked]
    simp [alive]
  rw [port_publish value (port_lt_of_portAlive alive),
    port_publish value (port_lt_of_attached attached)]
  by_cases same : source = output
  · subst same
    have inputFits : value.kind = (graph.port input).kind := fits.trans sameKind.symm
    simp [inputListed, Port.value_store fits, Port.value_store inputFits]
  · simp [inputDiffers, inputListed, sourceUnlisted, same]

/-- After a publication a node has delivered if it had, as far as its other outputs go. -/
theorem Coherent.delivered_publish (coherent : graph.Coherent)
    (outgoing : (graph.port output).direction = .output)
    (fits : value.kind = (graph.port output).kind) {node : NodeId}
    (others : ∀ input source, graph.portAlive input = true →
      (graph.port input).source = some source → (graph.port source).owner = node →
      source ≠ output → (graph.port input).value = (graph.port source).value) :
    (graph.publish output value).Delivered node := by
  intro input source alive linked owner
  have same := sameLinks_publish graph output value
  rw [same.portAlive] at alive
  rw [same.source] at linked
  rw [(same.shape.port source).owner] at owner
  obtain ⟨atInput, atSource⟩ := coherent.value_publish outgoing fits alive linked
  rw [atInput, atSource]
  split
  · rfl
  · rename_i differs
    exact others input source alive linked owner differs

end Publishing

/-! ### Library nodes -/

section Nodes

variable {admitted : Blueprint → Prop} {graph : Graph} {id : NodeId}

/-- A library node responds with one value of its output's kind, or fails and publishes nothing. -/
theorem LibraryNode.response (library : graph.LibraryNode id) {rule : Rule}
    (behaviour : (graph.node id).behaviour.rule? = some rule) {output : PortId}
    (outputs : (graph.node id).outputs = [output]) {values held published : List Value}
    {failure : Option OperationError}
    (response : rule.respond values held = (published, failure)) :
    (∃ value, published = [value] ∧ failure = none ∧ value.kind = (graph.port output).kind) ∨
      ∃ cause, published = [] ∧ failure = some cause := by
  obtain ⟨only, listed, result⟩ := library.output
  rw [outputs] at listed
  cases listed
  cases planned : (graph.node id).behaviour with
  | constant value =>
      rw [planned] at behaviour
      cases behaviour
  | custom maker =>
      rw [planned] at result
      cases result
  | formula function =>
      rw [planned] at behaviour result
      cases behaviour
      simp only [Demand.formulaResponse] at response
      cases computed : function.run values with
      | error cause =>
          rw [computed] at response
          cases response
          exact Or.inr ⟨cause, rfl, rfl⟩
      | ok value =>
          rw [computed] at response
          cases response
          have yields : (Behaviour.formula function).yield values = .ok value := computed
          exact Or.inl ⟨value, rfl, rfl, Behaviour.kind_of_yield result yields⟩

/-- When a library node publishes a value of its output's kind, it has delivered, and so have the
nodes that had before. -/
theorem Sound.delivered_publishAll (sound : graph.Sound admitted) {output : PortId}
    (outputs : (graph.node id).outputs = [output]) {value : Value}
    (fits : value.kind = (graph.port output).kind) {node : NodeId}
    (before : node = id ∨ graph.Delivered node) :
    (Demand.publishAll (graph.node id).outputs [value] graph).Delivered node := by
  have isOutput : output ∈ (graph.node id).outputs := by
    rw [outputs]
    exact List.mem_singleton_self output
  rw [outputs]
  show (graph.publish output value).Delivered node
  apply sound.coherent.delivered_publish (sound.shaped.output isOutput).1 fits
  intro input source alive linked owner differs
  rcases before with rfl | delivered
  · -- The source would be a second output of the node.
    obtain ⟨-, outgoing, -, attached⟩ := sound.coherent.joins input source linked
    have listed := (sound.shaped.listed source attached).2
    rw [owner, outgoing] at listed
    have listedToo : source ∈ (graph.node node).outputs := listed
    rw [outputs, List.mem_singleton] at listedToo
    exact absurd listedToo differs
  · exact delivered input source alive linked owner

end Nodes

end Graph

/-! ### Tasks -/

/-- Every node that the pass can reuse has delivered. -/
def Run.Reliable (run : Run) : Prop :=
  ∀ node, run.pass.canReuse node = true → run.graph.Delivered node

namespace Task

/-- A node is alive, and inputs are alive and required. -/
def Fits (graph : Graph) : Task → Prop
  | .demand node | .evaluate node => graph.nodeAlive node = true
  | .pull inputs => ∀ input ∈ inputs,
      graph.portAlive input = true ∧ (graph.port input).required = true

def node? : Task → Option NodeId
  | .demand node | .evaluate node => some node
  | .pull _ => none

theorem Fits.of_sameLinks {before after : Graph} {task : Task} (fits : task.Fits before)
    (same : before.SameLinks after) : task.Fits after := by
  cases task with
  | demand node => exact (same.nodeAlive node).trans fits
  | evaluate node => exact (same.nodeAlive node).trans fits
  | pull inputs =>
      intro input member
      rw [same.portAlive, (same.shape.port input).required]
      exact fits input member

end Task

/-- The inputs of a living library node are alive and required. -/
theorem Graph.Sound.fits_inputs {graph : Graph} (sound : graph.Sound Blueprint.IsLibrary)
    {id : NodeId} (alive : graph.nodeAlive id = true) :
    (Task.pull (graph.node id).inputs).Fits graph := by
  have library := sound.shaped.libraryNode (Graph.nodeAlive_iff.mp alive).1
  exact fun input isInput =>
    ⟨sound.portAlive_of_isInput alive isInput, library.required input isInput⟩

/-- What is read is what sources hold, and what can be reused afterwards has delivered. -/
structure Delivers (task : Task) (result : Except EvaluationError (List Value)) (after : Run)
    (events : List Event) : Prop where
  faithful : ∀ event ∈ events, event.Faithful
  reliable : after.Reliable
  delivered : ∀ node, task.node? = some node → ∀ values, result = .ok values →
    after.graph.Delivered node

/-- What is read at a living input of a node that has delivered is what the source holds. -/
theorem Graph.Delivered.read {graph : Graph} {node : NodeId} (delivered : graph.Delivered node)
    {input : PortId} (alive : graph.portAlive input = true)
    (fed : graph.sourceNode? input = some node) :
    graph.heldBySource? input = some (graph.port input).value := by
  obtain ⟨output, linked, owner, -⟩ := sourceNode?_eq_some_iff.mp fed
  rw [heldBySource?, linked, delivered input output alive linked owner]
  rfl

namespace Delivers

/-- A node that succeeds can be reused from then on, and has delivered. -/
theorem finish {node : NodeId} {after : Run} {events : List Event}
    (evaluation : Delivers (.evaluate node) (.ok []) after events) :
    Delivers (.demand node) (.ok []) (after.mapPass (·.finish node))
      (events ++ [.evaluated node (.ok ())]) := by
  have deliveredNode : after.graph.Delivered node := evaluation.delivered node rfl [] rfl
  refine ⟨List.forall_mem_append.mpr ⟨evaluation.faithful, by simp [Event.Faithful]⟩, ?_, ?_⟩
  · intro other known
    have either : (after.pass.finish node).canReuse other = true := known
    rw [Pass.canReuse_finish, Bool.or_eq_true] at either
    rcases either with isNode | earlier
    · rw [beq_iff_eq.mp (Bool.and_eq_true_iff.mp isNode).2]
      exact deliveredNode
    · exact evaluation.reliable other earlier
  · intro other same _ _
    cases same
    exact deliveredNode

theorem abandon {node : NodeId} {failure : EvaluationError} {after : Run} {events : List Event}
    (evaluation : Delivers (.evaluate node) (.error failure) after events) :
    Delivers (.demand node) (.error failure) (after.mapPass (·.abandon node))
      (events ++ [.evaluated node (.error failure)]) :=
  ⟨List.forall_mem_append.mpr ⟨evaluation.faithful, by simp [Event.Faithful]⟩,
    evaluation.reliable, by simp⟩

/-- A library node that publishes a value of its output's kind delivers it. -/
theorem publish {admitted : Blueprint → Prop} {run : Run} (sound : run.graph.Sound admitted)
    {node : NodeId} {output : PortId} (outputs : (run.graph.node node).outputs = [output])
    {value : Value} (kind : value.kind = (run.graph.port output).kind) (reliable : run.Reliable)
    {events : List Event} (faithful : ∀ event ∈ events, event.Faithful)
    (result : Except EvaluationError (List Value)) :
    Delivers (.evaluate node) result
      (run.mapGraph (Demand.publishAll (run.graph.node node).outputs [value]))
      (events ++ publications (run.graph.node node).outputs [value]) := by
  refine ⟨List.forall_mem_append.mpr ⟨faithful, faithful_publications _ _⟩, ?_, ?_⟩
  · intro other known
    exact sound.delivered_publishAll outputs kind (Or.inr (reliable other known))
  · intro other same _ _
    cases same
    exact sound.delivered_publishAll outputs kind (Or.inl rfl)

end Delivers

/-- Over library nodes, a pass that can rely on what it remembers reads what sources hold. -/
theorem Performs.delivers {task : Task} {run after : Run}
    {result : Except EvaluationError (List Value)} {events : List Event}
    (performs : Performs task run result after events)
    (sound : run.graph.Sound Blueprint.IsLibrary) (fits : task.Fits run.graph)
    (reliable : run.Reliable) : Delivers task result after events := by
  induction performs with
  | reenter => exact ⟨by simp, reliable, by simp⟩
  | @reuse run node notBegun known =>
      refine ⟨by simp, reliable, fun other same _ _ => ?_⟩
      cases same
      exact reliable node known
  | complete _ _ _ inductionHypothesis => exact (inductionHypothesis sound fits reliable).finish
  | abandon _ _ _ inductionHypothesis => exact (inductionHypothesis sound fits reliable).abandon
  | @constant run node value behaviour =>
      have library := sound.shaped.libraryNode (Graph.nodeAlive_iff.mp fits).1
      obtain ⟨output, outputs, result⟩ := library.output
      rw [behaviour] at result
      have kind : value.kind = (run.graph.port output).kind := Option.some.inj result
      exact Delivers.publish sound outputs kind reliable (List.forall_mem_nil _) _
  | lack => exact ⟨by simp, reliable, by simp⟩
  | halt _ _ _ inductionHypothesis =>
      have pulled := inductionHypothesis sound (sound.fits_inputs fits) reliable
      exact ⟨pulled.faithful, pulled.reliable, by simp⟩
  | @respond run between node rule values published failure events behaviour ready pulls response
      inductionHypothesis =>
      have pulled := inductionHypothesis sound (sound.fits_inputs fits) reliable
      have links := pulls.account.links
      have library := sound.shaped.libraryNode (Graph.nodeAlive_iff.mp fits).1
      obtain ⟨output, outputs, -⟩ := library.output
      rcases library.response behaviour outputs response with
        ⟨value, rfl, rfl, kind⟩ | ⟨cause, rfl, rfl⟩
      · have kindBetween : value.kind = (between.graph.port output).kind :=
          kind.trans (links.shape.port output).kind.symm
        rw [← (links.shape.node node).outputs] at outputs ⊢
        exact Delivers.publish (sound.of_sameLinks links) outputs kindBetween pulled.reliable
          pulled.faithful _
      · rw [mapGraph_publishAll_nil]
        exact ⟨List.forall_mem_append.mpr ⟨pulled.faithful, faithful_publications _ _⟩,
          pulled.reliable, by simp [Graph.verdict]⟩
  | done => exact ⟨by simp, reliable, by simp [Task.node?]⟩
  | starve => exact ⟨by simp, reliable, by simp⟩
  | spare unfed optional =>
      have required := (fits _ List.mem_cons_self).2
      rw [optional] at required
      cases required
  | block fed _ inductionHypothesis =>
      have demanded := inductionHypothesis sound (Graph.nodeAlive_of_sourceNode? fed) reliable
      exact ⟨demanded.faithful, demanded.reliable, by simp⟩
  | @receive run between after input rest node result earlier later fed demand pulls demandHypothesis
      pullHypothesis =>
      have demanded := demandHypothesis sound (Graph.nodeAlive_of_sourceNode? fed) reliable
      have links := demand.account.links
      have restFits : (Task.pull rest).Fits run.graph := fun other member =>
        fits other (List.mem_cons_of_mem _ member)
      have pulled :=
        pullHypothesis (sound.of_sameLinks links) (restFits.of_sameLinks links) demanded.reliable
      have alive : between.graph.portAlive input = true := by
        rw [links.portAlive]
        exact (fits input List.mem_cons_self).1
      have read : between.graph.heldBySource? input = some (between.graph.port input).value :=
        (demanded.delivered node rfl [] rfl).read alive ((links.sourceNode? input).trans fed)
      refine ⟨?_, pulled.reliable, by simp [Task.node?]⟩
      exact List.forall_mem_append.mpr
        ⟨demanded.faithful, List.forall_mem_cons.mpr ⟨read, pulled.faithful⟩⟩

end DemandFlow
