import DemandFlow.Graph.Connect
import DemandFlow.Proofs.Graph.Making

/-!
Contract: the checks that come before a link.

Owns: checks made in order, of which the first that fails is the cause of refusal; and, for each
way to link two ports, the checks that it makes, all of them before it changes anything, and the one
change of source that it ends with.

Main statements: `Linking.link_follows`, `Linking.connectPorts_follows`, `Linking.connect_follows`,
`Linking.connectInput_follows`, `Linking.connectOutput_follows`. Once its checks are passed, a port
is never refused as an input or an output of its kind (`Linking.lookupTyped_follows`,
`Linking.run_linkTyped`).

Does not own: the links of the changed graph (`Proofs.Graph.Coherence`).
-/

namespace DemandFlow

/-! ### Checks in order -/

/-- A condition of a request, and the cause of refusal where it does not hold. -/
structure LinkCheck where
  holds : Prop
  cause : ConnectionError

namespace LinkCheck

/-- The cause belongs to the first of the checks that does not hold. -/
inductive FirstFailure : List LinkCheck → ConnectionError → Prop where
  | here {check : LinkCheck} {rest : List LinkCheck} (fails : ¬ check.holds) :
      FirstFailure (check :: rest) check.cause
  | later {check : LinkCheck} {rest : List LinkCheck} {cause : ConnectionError}
      (passes : check.holds) (first : FirstFailure rest cause) : FirstFailure (check :: rest) cause

/-- Every check of a list holds. -/
def AllHold (checks : List LinkCheck) : Prop := ∀ check ∈ checks, check.holds

@[simp]
theorem allHold_nil : AllHold [] := fun _ none => by cases none

@[simp]
theorem allHold_cons {check : LinkCheck} {rest : List LinkCheck} :
    AllHold (check :: rest) ↔ check.holds ∧ AllHold rest :=
  List.forall_mem_cons

theorem allHold_append {checks more : List LinkCheck} :
    AllHold (checks ++ more) ↔ AllHold checks ∧ AllHold more :=
  List.forall_mem_append

/-- Of checks made after others, one fails first only if all the others hold. -/
theorem firstFailure_append {checks more : List LinkCheck} {cause : ConnectionError} :
    FirstFailure (checks ++ more) cause ↔
      FirstFailure checks cause ∨ AllHold checks ∧ FirstFailure more cause := by
  induction checks with
  | nil =>
      constructor
      · intro first
        exact Or.inr ⟨allHold_nil, first⟩
      · rintro (none | ⟨-, first⟩)
        · cases none
        · exact first
  | cons check rest inductionHypothesis =>
      constructor
      · intro first
        cases first with
        | here fails => exact Or.inl (.here fails)
        | later passes first =>
            rcases inductionHypothesis.mp first with earlier | ⟨hold, late⟩
            · exact Or.inl (.later passes earlier)
            · exact Or.inr ⟨allHold_cons.mpr ⟨passes, hold⟩, late⟩
      · rintro (first | ⟨hold, late⟩)
        · cases first with
          | here fails => exact .here fails
          | later passes first => exact .later passes (inductionHypothesis.mpr (Or.inl first))
        · obtain ⟨passes, restHolds⟩ := allHold_cons.mp hold
          exact .later passes (inductionHypothesis.mpr (Or.inr ⟨restHolds, late⟩))

theorem allHold_or_firstFailure (checks : List LinkCheck) :
    AllHold checks ∨ ∃ cause, FirstFailure checks cause := by
  induction checks with
  | nil => exact Or.inl allHold_nil
  | cons check rest inductionHypothesis =>
      by_cases passes : check.holds
      · rcases inductionHypothesis with hold | ⟨cause, first⟩
        · exact Or.inl (allHold_cons.mpr ⟨passes, hold⟩)
        · exact Or.inr ⟨cause, .later passes first⟩
      · exact Or.inr ⟨check.cause, .here passes⟩

end LinkCheck

open LinkCheck

/-- A step ends as its checks tell. If all of them hold, it has its result and makes its graph; else
it is refused with the cause of the first that does not, and leaves the graph as it was. -/
structure Follows {Result : Type} (step : Linking Result) (graph : Graph) (checks : List LinkCheck)
    (result : Result) (after : Graph) : Prop where
  granted : AllHold checks → step.run graph = .ok result after
  refused : ∀ cause, FirstFailure checks cause → step.run graph = .error cause graph

namespace Follows

variable {Result Value : Type} {graph after : Graph} {checks more : List LinkCheck}

theorem eq_ok_iff {step : Linking Unit} (follows : Follows step graph checks () after)
    {last : Graph} : step.run graph = .ok () last ↔ AllHold checks ∧ last = after := by
  constructor
  · intro succeeds
    rcases allHold_or_firstFailure checks with hold | ⟨cause, first⟩
    · rw [follows.granted hold] at succeeds
      cases succeeds
      exact ⟨hold, rfl⟩
    · rw [follows.refused cause first] at succeeds
      cases succeeds
  · rintro ⟨hold, rfl⟩
    exact follows.granted hold

theorem eq_error_iff {step : Linking Result} {result : Result}
    (follows : Follows step graph checks result after) {cause : ConnectionError} {last : Graph} :
    step.run graph = .error cause last ↔ FirstFailure checks cause ∧ last = graph := by
  constructor
  · intro fails
    rcases allHold_or_firstFailure checks with hold | ⟨other, first⟩
    · rw [follows.granted hold] at fails
      cases fails
    · rw [follows.refused other first] at fails
      cases fails
      exact ⟨first, rfl⟩
  · rintro ⟨first, rfl⟩
    exact follows.refused cause first

/-- A step that makes one check. -/
theorem single {step : Linking Result} {check : LinkCheck} {result : Result}
    (granted : check.holds → step.run graph = .ok result after)
    (refused : ¬ check.holds → step.run graph = .error check.cause graph) :
    Follows step graph [check] result after where
  granted hold := granted (allHold_cons.mp hold).1
  refused cause first := by
    cases first with
    | here fails => exact refused fails
    | later _ first => cases first

/-- Steps in sequence make their checks in sequence, as long as the earlier one leaves the graph as
it is. The later one may rely on the checks of the earlier. -/
theorem bind {step : Linking Value} {value : Value} {next : Value → Linking Result}
    {result : Result} (first : Follows step graph checks value graph)
    (second : AllHold checks → Follows (next value) graph more result after) :
    Follows (step >>= next) graph (checks ++ more) result after where
  granted hold := by
    obtain ⟨earlier, later⟩ := allHold_append.mp hold
    rw [EStateM.run_bind, first.granted earlier]
    exact (second earlier).granted later
  refused cause failure := by
    rw [EStateM.run_bind]
    rcases firstFailure_append.mp failure with failed | ⟨earlier, failed⟩
    · rw [first.refused cause failed]
    · rw [first.granted earlier]
      exact (second earlier).refused cause failed

/-- A step without checks. -/
theorem unchecked {step : Linking Result} {result : Result}
    (runs : step.run graph = .ok result after) : Follows step graph [] result after where
  granted _ := runs
  refused _ none := by cases none

/-- A check that is known to hold need not be listed. -/
theorem of_passed {step : Linking Result} {check : LinkCheck} {result : Result}
    (follows : Follows step graph (check :: more) result after) (passes : check.holds) :
    Follows step graph more result after where
  granted hold := follows.granted (allHold_cons.mpr ⟨passes, hold⟩)
  refused cause first := follows.refused cause (.later passes first)

theorem of_run_eq {step other : Linking Result} {result : Result}
    (follows : Follows other graph checks result after) (same : step.run graph = other.run graph) :
    Follows step graph checks result after where
  granted hold := same.trans (follows.granted hold)
  refused cause first := same.trans (follows.refused cause first)

end Follows

/-! ### The checks of a graph -/

namespace Graph

/-- A living node has the port among its outputs. -/
def OfLivingNode (graph : Graph) (output : PortId) : Prop :=
  ∃ owner, graph.nodeAlive owner = true ∧ output ∈ (graph.node owner).outputs

/-- An output can feed exactly if it belongs to a living node. -/
theorem Shaped.canFeed_iff {admitted : Blueprint → Prop} {graph : Graph}
    (shaped : graph.Shaped admitted) {output : PortId}
    (outgoing : (graph.port output).direction = .output) :
    graph.canFeed output = true ↔ graph.OfLivingNode output := by
  constructor
  · intro feeds
    obtain ⟨attached, alive⟩ := Bool.and_eq_true_iff.mp feeds
    have listed := (shaped.listed output attached).2
    rw [outgoing] at listed
    exact ⟨_, alive, listed⟩
  · rintro ⟨owner, alive, isOutput⟩
    obtain ⟨-, owned, attached⟩ := shaped.output isOutput
    exact Bool.and_eq_true_iff.mpr ⟨attached, by rwa [owned]⟩

/-- The port that a node has under a name, if it has one. -/
def portNamed (graph : Graph) (node : NodeId) (name : String) : PortId :=
  ((graph.node node).ports.get? name).getD 0

theorem portNamed_eq {graph : Graph} {node : NodeId} {name : String} {port : PortId}
    (named : (graph.node node).ports.get? name = some port) : graph.portNamed node name = port := by
  rw [portNamed, named]
  rfl

def hasPort (graph : Graph) (node : NodeId) (name : String) : LinkCheck where
  holds := ∃ port, (graph.node node).ports.get? name = some port
  cause := .unknownPort node name

def hasDirection (graph : Graph) (port : PortId) (name : String) (direction : Direction) :
    LinkCheck where
  holds := (graph.port port).direction = direction
  cause := .directionMismatch name direction (graph.port port).direction

def hasKind (graph : Graph) (port : PortId) (kind : Kind) : LinkCheck where
  holds := (graph.port port).kind = kind
  cause := .typeMismatch kind (graph.port port).kind

def hasLivingNode (graph : Graph) (output : PortId) : LinkCheck where
  holds := graph.OfLivingNode output
  cause := .detachedPort (graph.port output).name

theorem mem_ports_of_get? {set : PortSet} {name : String} {port : PortId}
    (found : set.get? name = some port) : port ∈ set.ports := by
  unfold PortSet.get? at found
  obtain ⟨before, after, entries, -⟩ := List.lookup_eq_some_iff.mp found
  simp [PortSet.ports, entries]

end Graph

namespace Linking

open DemandFlow.Graph

variable {admitted : Blueprint → Prop} {graph : Graph}

theorem get_follows (graph : Graph) : Follows get graph [] graph graph := .unchecked rfl

theorem ensure_follows (graph : Graph) (check : LinkCheck) {condition : Prop}
    [Decidable condition] (means : condition ↔ check.holds) :
    Follows (ensure condition check.cause) graph [check] () graph := by
  apply Follows.single
  · intro holds
    rw [ensure, if_pos (means.mpr holds)]
    rfl
  · intro fails
    rw [ensure, if_neg (mt means.mp fails)]
    rfl

theorem find_follows (graph : Graph) (node : NodeId) (name : String) :
    Follows (find node name) graph [graph.hasPort node name] (graph.portNamed node name) graph := by
  apply (get_follows graph).bind
  intro _
  apply Follows.single
  · rintro ⟨port, named⟩
    rw [named, portNamed_eq named]
    rfl
  · intro unnamed
    have missing : (graph.node node).ports.get? name = none :=
      Option.eq_none_iff_forall_ne_some.mpr fun port named => unnamed ⟨port, named⟩
    rw [missing]
    rfl

theorem checkDirection_follows (graph : Graph) (port : PortId) (name : String)
    (direction : Direction) :
    Follows (checkDirection port name direction) graph [graph.hasDirection port name direction] ()
      graph := by
  apply (get_follows graph).bind
  intro _
  exact ensure_follows graph (graph.hasDirection port name direction) Iff.rfl

theorem checkKind_follows (graph : Graph) (port : PortId) (kind : Kind) :
    Follows (checkKind port kind) graph [graph.hasKind port kind] () graph := by
  apply (get_follows graph).bind
  intro _
  exact ensure_follows graph (graph.hasKind port kind) Iff.rfl

theorem checkNode_follows (shaped : graph.Shaped admitted) {output : PortId}
    (outgoing : (graph.port output).direction = .output) :
    Follows (checkNode output) graph [graph.hasLivingNode output] () graph := by
  apply (get_follows graph).bind
  intro _
  exact ensure_follows graph (graph.hasLivingNode output) (shaped.canFeed_iff outgoing)

/-- A link is made if the output's node lives. The input's old link goes only then. -/
theorem link_follows (shaped : graph.Shaped admitted) (input : PortId) {output : PortId}
    (outgoing : (graph.port output).direction = .output) :
    Follows (link input output) graph [graph.hasLivingNode output] ()
      (graph.setSource input output) := by
  apply (checkNode_follows shaped outgoing).bind
  intro _
  -- None of the three changes that follow can be refused.
  exact .unchecked rfl

/-- A port asked for by name is checked for its name, then for direction, then for kind. -/
theorem lookup_follows (graph : Graph) (node : NodeId) (name : String) (direction : Direction)
    (kind : Kind) :
    Follows (lookup node name direction kind) graph
      [graph.hasPort node name, graph.hasDirection (graph.portNamed node name) name direction,
        graph.hasKind (graph.portNamed node name) kind]
      (graph.portNamed node name) graph := by
  apply (find_follows graph node name).bind
  intro _
  apply (checkDirection_follows graph _ name direction).bind
  intro _
  apply (checkKind_follows graph _ kind).bind
  intro _
  exact .unchecked rfl

/-! ### Ports as inputs and outputs -/

/-- A port that has passed its checks is one of the direction and the kind asked for: taking it as
such is never refused. -/
theorem lookupTyped_follows (graph : Graph) (node : NodeId) (name : String) (direction : Direction)
    (kind : Kind) :
    Follows (lookupTyped node name direction kind) graph
      [graph.hasPort node name, graph.hasDirection (graph.portNamed node name) name direction,
        graph.hasKind (graph.portNamed node name) kind]
      (graph.portNamed node name) graph := by
  apply (lookup_follows graph node name direction kind).bind
  intro found
  simp only [allHold_cons] at found
  obtain ⟨-, directed, sameKind, -⟩ := found
  apply (get_follows graph).bind
  intro _
  rw [typed?_eq_some sameKind directed]
  exact .unchecked rfl

/-- Two ports of one kind and of opposite directions are an input and an output of that kind: taking
them as such is never refused. -/
theorem run_linkTyped (graph : Graph) {a b : PortId}
    (sameKind : (graph.port b).kind = (graph.port a).kind)
    (opposite : (graph.port b).direction = (graph.port a).direction.opposite) :
    (linkTyped (graph.port a).kind a b).run graph =
      (link (graph.ends a b).1 (graph.ends a b).2).run graph := by
  cases direction : (graph.port a).direction with
  | input =>
      have outgoing : (graph.port b).direction = .output := by rw [opposite, direction]; rfl
      simp [linkTyped, ends, direction, typed?_eq_some rfl direction,
        typed?_eq_some sameKind outgoing]
  | output =>
      have incoming : (graph.port b).direction = .input := by rw [opposite, direction]; rfl
      simp [linkTyped, ends, direction, typed?_eq_some rfl direction,
        typed?_eq_some sameKind incoming]

/-! ### Ways to link -/

/-- Ports given as such are checked for kind, then for direction, then for the output's node. -/
theorem connectPorts_follows (shaped : graph.Shaped admitted) (a b : PortId) :
    Follows (connectPorts a b) graph
      [graph.hasKind b (graph.port a).kind,
        graph.hasDirection b (graph.port b).name (graph.port a).direction.opposite,
        graph.hasLivingNode (graph.ends a b).2] ()
      (graph.setSource (graph.ends a b).1 (graph.ends a b).2) := by
  apply (get_follows graph).bind
  intro _
  apply (checkKind_follows graph b (graph.port a).kind).bind
  intro kinds
  apply (checkDirection_follows graph b _ _).bind
  intro directed
  have sameKind : (graph.port b).kind = (graph.port a).kind := (allHold_cons.mp kinds).1
  have opposite : (graph.port b).direction = (graph.port a).direction.opposite :=
    (allHold_cons.mp directed).1
  refine Follows.of_run_eq ?_ (run_linkTyped graph sameKind opposite)
  cases direction : (graph.port a).direction with
  | input =>
      rw [direction] at opposite
      rw [ends, direction]
      exact link_follows shaped a opposite
  | output =>
      rw [ends, direction]
      exact link_follows shaped b direction

theorem connect_follows (shaped : graph.Shaped admitted) (source target : NodeId)
    (output input : String) :
    Follows (connect source output target input) graph
      [graph.hasPort source output,
        graph.hasDirection (graph.portNamed source output) output .output,
        graph.hasPort target input,
        graph.hasDirection (graph.portNamed target input) input .input,
        graph.hasKind (graph.portNamed target input)
          (graph.port (graph.portNamed source output)).kind,
        graph.hasLivingNode (graph.portNamed source output)] ()
      (graph.setSource (graph.portNamed target input) (graph.portNamed source output)) := by
  apply (find_follows graph source output).bind
  intro _
  apply (checkDirection_follows graph _ output .output).bind
  intro directed
  have outgoing : (graph.port (graph.portNamed source output)).direction = .output :=
    (allHold_cons.mp directed).1
  apply (get_follows graph).bind
  intro _
  apply (lookup_follows graph target input .input _).bind
  intro found
  simp only [allHold_cons] at found
  obtain ⟨-, incoming, sameKind, -⟩ := found
  -- Kind and direction are checked once more when the two ports are linked.
  have linked := connectPorts_follows shaped (graph.portNamed source output)
    (graph.portNamed target input)
  rw [ends, outgoing] at linked
  exact (linked.of_passed sameKind).of_passed incoming

theorem connectInput_follows (shaped : graph.Shaped admitted) {output : PortId}
    (outgoing : (graph.port output).direction = .output) (node : NodeId) (target : String) :
    Follows (connectInput output node target) graph
      [graph.hasPort node target,
        graph.hasDirection (graph.portNamed node target) target .input,
        graph.hasKind (graph.portNamed node target) (graph.port output).kind,
        graph.hasLivingNode output] ()
      (graph.setSource (graph.portNamed node target) output) := by
  apply (get_follows graph).bind
  intro _
  apply (lookupTyped_follows graph node target .input _).bind
  intro _
  exact link_follows shaped _ outgoing

theorem connectOutput_follows (shaped : graph.Shaped admitted) (input : PortId) (node : NodeId)
    (target : String) :
    Follows (connectOutput input node target) graph
      [graph.hasPort node target,
        graph.hasDirection (graph.portNamed node target) target .output,
        graph.hasKind (graph.portNamed node target) (graph.port input).kind,
        graph.hasLivingNode (graph.portNamed node target)] ()
      (graph.setSource input (graph.portNamed node target)) := by
  apply (get_follows graph).bind
  intro _
  apply (lookupTyped_follows graph node target .output _).bind
  intro found
  simp only [allHold_cons] at found
  obtain ⟨-, outgoing, -⟩ := found
  exact link_follows shaped input outgoing

end Linking

end DemandFlow
