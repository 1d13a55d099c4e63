import DemandFlow.Proofs.Graph.Linking
import DemandFlow.Proofs.Graph.Update
import DemandFlow.Proofs.History.Action

/-!
Contract: what a request to link comes to.

Owns: the checks of each request, the conditions under which two ports can be joined, and the
agreement of the two.

Main statements: an allowed request follows its checks (`LinkRequest.follows`); it is granted exactly
if the two ports that it means can be joined (`LinkRequest.run_eq_ok_iff`), and one that is refused
leaves the graph as it was (`LinkRequest.run_eq_error_iff`).

Does not own: what reachable graphs add to this (`Proofs.History.Reachable`).
-/

namespace DemandFlow

/-- The two ports are an input and an output of one kind, and the output belongs to a living
node. -/
structure Graph.Joinable (graph : Graph) (input output : PortId) : Prop where
  incoming : (graph.port input).direction = .input
  outgoing : (graph.port output).direction = .output
  sameKind : (graph.port input).kind = (graph.port output).kind
  living : graph.OfLivingNode output

theorem Graph.Shaped.portAlive_of_registered {admitted : Blueprint → Prop} {graph : Graph}
    (shaped : graph.Shaped admitted) {node : NodeId} {name : String} {id : PortId}
    (named : (graph.node node).ports.get? name = some id) (alive : graph.nodeAlive node = true) :
    graph.portAlive id = true := by
  obtain ⟨-, owner, attached⟩ := shaped.registered (mem_ports_of_get? named)
  rw [portAlive_iff, owner]
  exact Or.inr ⟨attached, alive⟩

namespace LinkRequest

/-- The checks of a request, in the order in which they count. -/
def checks (graph : Graph) : LinkRequest → List LinkCheck
  | .direct output _ => [graph.hasLivingNode output]
  | .ports a b =>
      [graph.hasKind b (graph.port a).kind,
        graph.hasDirection b (graph.port b).name (graph.port a).direction.opposite,
        graph.hasLivingNode (graph.ends a b).2]
  | .names source output target input =>
      [graph.hasPort source output,
        graph.hasDirection (graph.portNamed source output) output .output,
        graph.hasPort target input,
        graph.hasDirection (graph.portNamed target input) input .input,
        graph.hasKind (graph.portNamed target input)
          (graph.port (graph.portNamed source output)).kind,
        graph.hasLivingNode (graph.portNamed source output)]
  | .intoNode output node input =>
      [graph.hasPort node input,
        graph.hasDirection (graph.portNamed node input) input .input,
        graph.hasKind (graph.portNamed node input) (graph.port output).kind,
        graph.hasLivingNode output]
  | .fromNode input node output =>
      [graph.hasPort node output,
        graph.hasDirection (graph.portNamed node output) output .output,
        graph.hasKind (graph.portNamed node output) (graph.port input).kind,
        graph.hasLivingNode (graph.portNamed node output)]

/-- The input and the output that a request joins if it passes its checks. -/
def pair (graph : Graph) : LinkRequest → PortId × PortId
  | .direct output input => (input, output)
  | .ports a b => graph.ends a b
  | .names source output target input =>
      (graph.portNamed target input, graph.portNamed source output)
  | .intoNode output node input => (graph.portNamed node input, output)
  | .fromNode input node output => (input, graph.portNamed node output)

/-- The ports that a request gives by name are there. -/
def Named (graph : Graph) : LinkRequest → Prop
  | .direct _ _ | .ports _ _ => True
  | .names source output target input =>
      (∃ port, (graph.node source).ports.get? output = some port) ∧
        ∃ port, (graph.node target).ports.get? input = some port
  | .intoNode _ node name | .fromNode _ node name =>
      ∃ port, (graph.node node).ports.get? name = some port

variable {admitted : Blueprint → Prop} {graph : Graph} {request : LinkRequest}

/-- An allowed request ends as its checks tell. -/
theorem follows (shaped : graph.Shaped admitted) (allowed : request.Allowed graph) :
    Follows request.linking graph (request.checks graph) ()
      (graph.setSource (request.pair graph).1 (request.pair graph).2) := by
  cases request with
  | direct output input =>
      obtain ⟨_, ⟨-, outgoing, -⟩, -⟩ := allowed
      exact Linking.link_follows shaped input outgoing
  | ports a b => exact Linking.connectPorts_follows shaped a b
  | names source output target input =>
      exact Linking.connect_follows shaped source target output input
  | intoNode output node input =>
      obtain ⟨⟨_, -, outgoing, -⟩, -⟩ := allowed
      exact Linking.connectInput_follows shaped outgoing node input
  | fromNode input node output => exact Linking.connectOutput_follows shaped input node output

theorem endpoints_eq_some_iff {ends : PortId × PortId} :
    request.endpoints graph = some ends ↔ request.Named graph ∧ request.pair graph = ends := by
  cases request with
  | direct output input => simp [endpoints, Named, pair]
  | ports a b => cases direction : (graph.port a).direction <;>
      simp [endpoints, Named, pair, Graph.ends, direction]
  | names source output target input =>
      cases sourceNamed : (graph.node source).ports.get? output with
      | none => simp [endpoints, Named, sourceNamed]
      | some sourcePort =>
          cases targetNamed : (graph.node target).ports.get? input with
          | none => simp [endpoints, Named, targetNamed]
          | some targetPort =>
              simp [endpoints, Named, pair, sourceNamed, targetNamed, Graph.portNamed_eq sourceNamed,
                Graph.portNamed_eq targetNamed]
  | intoNode output node name =>
      cases named : (graph.node node).ports.get? name with
      | none => simp [endpoints, Named, named]
      | some port => simp [endpoints, Named, pair, named, Graph.portNamed_eq named]
  | fromNode input node name =>
      cases named : (graph.node node).ports.get? name with
      | none => simp [endpoints, Named, named]
      | some port => simp [endpoints, Named, pair, named, Graph.portNamed_eq named]

/-- The checks of an allowed request hold exactly if the ports that it names are there and the two
ports that it means can be joined. -/
theorem allHold_checks_iff (allowed : request.Allowed graph) :
    LinkCheck.AllHold (request.checks graph) ↔
      request.Named graph ∧ graph.Joinable (request.pair graph).1 (request.pair graph).2 := by
  cases request with
  | direct output input =>
      obtain ⟨kind, ⟨-, outgoing, outputKind⟩, -, incoming, inputKind⟩ := allowed
      simp only [checks, LinkCheck.allHold_cons]
      constructor
      · rintro ⟨living, -⟩
        exact ⟨trivial, incoming, outgoing, inputKind.trans outputKind.symm, living⟩
      · rintro ⟨-, joinable⟩
        exact ⟨joinable.living, LinkCheck.allHold_nil⟩
  | ports a b =>
      cases direction : (graph.port a).direction with
      | input =>
          simp only [checks, pair, Graph.ends, direction, LinkCheck.allHold_cons]
          constructor
          · rintro ⟨sameKind, outgoing, living, -⟩
            exact ⟨trivial, direction, outgoing, sameKind.symm, living⟩
          · rintro ⟨-, joinable⟩
            exact ⟨joinable.sameKind.symm, joinable.outgoing, joinable.living,
              LinkCheck.allHold_nil⟩
      | output =>
          simp only [checks, pair, Graph.ends, direction, LinkCheck.allHold_cons]
          constructor
          · rintro ⟨sameKind, incoming, living, -⟩
            exact ⟨trivial, incoming, direction, sameKind, living⟩
          · rintro ⟨-, joinable⟩
            exact ⟨joinable.sameKind, joinable.incoming, joinable.living,
              LinkCheck.allHold_nil⟩
  | names source output target input =>
      simp only [checks, LinkCheck.allHold_cons]
      constructor
      · rintro ⟨sourceNamed, outgoing, targetNamed, incoming, sameKind, living, -⟩
        exact ⟨⟨sourceNamed, targetNamed⟩, incoming, outgoing, sameKind, living⟩
      · rintro ⟨⟨sourceNamed, targetNamed⟩, joinable⟩
        exact ⟨sourceNamed, joinable.outgoing, targetNamed, joinable.incoming, joinable.sameKind,
          joinable.living, LinkCheck.allHold_nil⟩
  | intoNode output node name =>
      obtain ⟨⟨_, -, outgoing, -⟩, -⟩ := allowed
      simp only [checks, LinkCheck.allHold_cons]
      constructor
      · rintro ⟨named, incoming, sameKind, living, -⟩
        exact ⟨named, incoming, outgoing, sameKind, living⟩
      · rintro ⟨named, joinable⟩
        exact ⟨named, joinable.incoming, joinable.sameKind, joinable.living,
          LinkCheck.allHold_nil⟩
  | fromNode input node name =>
      obtain ⟨⟨_, -, incoming, -⟩, -⟩ := allowed
      simp only [checks, LinkCheck.allHold_cons]
      constructor
      · rintro ⟨named, outgoing, sameKind, living, -⟩
        exact ⟨named, incoming, outgoing, sameKind.symm, living⟩
      · rintro ⟨named, joinable⟩
        exact ⟨named, joinable.outgoing, joinable.sameKind.symm, joinable.living,
          LinkCheck.allHold_nil⟩

/-- An allowed request is granted exactly if the two ports that it means are there and can be
joined, and then it joins them. -/
theorem run_eq_ok_iff (shaped : graph.Shaped admitted) (allowed : request.Allowed graph)
    {after : Graph} :
    request.run graph = .ok () after ↔
      ∃ input output, request.endpoints graph = some (input, output) ∧
        graph.Joinable input output ∧ after = graph.setSource input output := by
  rw [run, (request.follows shaped allowed).eq_ok_iff, allHold_checks_iff allowed]
  constructor
  · rintro ⟨⟨named, joinable⟩, joined⟩
    exact ⟨_, _, endpoints_eq_some_iff.mpr ⟨named, rfl⟩, joinable, joined⟩
  · rintro ⟨input, output, meant, joinable, joined⟩
    obtain ⟨named, same⟩ := endpoints_eq_some_iff.mp meant
    rw [same]
    exact ⟨⟨named, joinable⟩, joined⟩

/-- An allowed request is refused with the cause of the first check that fails, and changes nothing
before. -/
theorem run_eq_error_iff (shaped : graph.Shaped admitted) (allowed : request.Allowed graph)
    {cause : ConnectionError} {after : Graph} :
    request.run graph = .error cause after ↔
      LinkCheck.FirstFailure (request.checks graph) cause ∧ after = graph :=
  (request.follows shaped allowed).eq_error_iff

/-- The input that an allowed request means can be had. -/
theorem present_of_meant (shaped : graph.Shaped admitted) (allowed : request.Allowed graph)
    {input output : PortId} (meant : request.endpoints graph = some (input, output)) :
    graph.Present input := by
  have registered {node : NodeId} {name : String} (alive : graph.nodeAlive node = true)
      (named : ∃ port, (graph.node node).ports.get? name = some port) :
      graph.Present (graph.portNamed node name) := by
    obtain ⟨port, found⟩ := named
    rw [Graph.portNamed_eq found]
    exact Or.inl (shaped.portAlive_of_registered found alive)
  obtain ⟨named, same⟩ := endpoints_eq_some_iff.mp meant
  cases request with
  | direct given into =>
      cases same
      exact allowed.choose_spec.2.1
  | ports a b =>
      rw [pair, Graph.ends] at same
      split at same
      · cases same
        exact allowed.1
      · cases same
        exact allowed.2
  | names source given target into =>
      cases same
      exact registered allowed.2 named.2
  | intoNode given node name =>
      cases same
      exact registered allowed.2 named
  | fromNode given node name =>
      cases same
      exact allowed.1.choose_spec.1

end LinkRequest

end DemandFlow
