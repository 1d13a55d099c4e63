import DemandFlow.Proofs.Catalog.Function
import DemandFlow.Proofs.Evaluation.Layering
import DemandFlow.Proofs.History.Supply

/-!
Contract: graphs that are built after a scheme.

Owns: the scheme of a graph, which lists for each node its blueprint and the nodes that feed its
inputs; how a scheme grows with a new node and with a link; and what the finished scheme tells of
values and visits.

Main statements: a new node adds a part to the scheme (`Embodies.add`), and a link by name changes
one part (`Embodies.connect`). If every input is fed by an older node, each node has the value that
its blueprint makes of the values of its feeders (`Embodies.reference_eq`). If moreover every node
but the last feeds another, weights that add up along the links tell the visits of the computation
of the last node (`Embodies.visits_eq`, `Embodies.visitsOf_eq`).

Does not own: the programs that build such graphs (`Proofs.Catalog.Construction`).
-/

namespace DemandFlow

/-- A blueprint, and for each input of the node made from it, in order, the node that feeds it. -/
structure Part where
  plan : Blueprint
  feeders : List (Option NodeId)

namespace Part

/-- A node whose inputs are not linked yet. -/
def loose (plan : Blueprint) : Part :=
  ⟨plan, (plan.ports.filter (·.direction = .input)).map fun _ => none⟩

def feed (part : Part) (position : Nat) (source : NodeId) : Part :=
  { part with feeders := part.feeders.set position (some source) }

end Part

namespace Blueprint

/-- The name and the kind of the last port, which is the output of a library node. -/
def output? (plan : Blueprint) : Option (String × Kind) :=
  plan.ports.getLast?.map fun port => (port.name, port.value.kind)

/-- The name and the kind of the port at a position, if it is an input. -/
def input? (plan : Blueprint) (position : Nat) : Option (String × Kind) :=
  (plan.ports[position]?.filter (·.direction = .input)).map fun port => (port.name, port.value.kind)

variable {plan : Blueprint} {name : String} {kind : Kind}

theorem IsLibrary.exists_output (library : plan.IsLibrary)
    (output : plan.output? = some (name, kind)) (first : PortId) :
    ∃ port number, (port, number) ∈ plan.numbered first ∧ port.direction = .output ∧
      port.name = name ∧ port.value.kind = kind := by
  obtain ⟨inputs, last, regular⟩ := library.regular
  have isLast : plan.ports.getLast? = some last := by
    rw [regular.ports, List.getLast?_concat]
  rw [output?, isLast] at output
  cases output
  exact ⟨last, _, regular.mem_numbered_output first, regular.outgoing, rfl, rfl⟩

/-- Inputs come before the output, so they are numbered as they stand. -/
theorem IsLibrary.exists_input (library : plan.IsLibrary) {position : Nat}
    (input : plan.input? position = some (name, kind)) (first : PortId) :
    ∃ port, (port, first + position) ∈ plan.numbered first ∧ port.direction = .input ∧
      port.name = name ∧ port.value.kind = kind ∧
      (plan.numbersOf first .input)[position]? = some (first + position) := by
  obtain ⟨inputs, last, regular⟩ := library.regular
  obtain ⟨port, found, named⟩ := Option.map_eq_some_iff.mp input
  obtain ⟨placed, isInput⟩ := Option.filter_eq_some_iff.mp found
  have incoming : port.direction = .input := by simpa using isInput
  cases named
  have within : position < inputs.length := by
    apply Nat.lt_of_not_le
    intro beyond
    rw [regular.ports, List.getElem?_append_right beyond] at placed
    have isLast := List.mem_singleton.mp (List.mem_of_getElem? placed)
    rw [isLast, regular.outgoing] at incoming
    cases incoming
  refine ⟨port, ?_, incoming, rfl, rfl, ?_⟩
  · rw [numbered, List.mem_zipIdx_iff_le_and_getElem?_sub]
    simpa using placed
  · rw [regular.numbersOf_input, List.getElem?_range' within, Nat.one_mul]

end Blueprint

namespace Graph

/-- A node is as a part of a scheme has it. -/
structure IsPart (graph : Graph) (id : NodeId) (part : Part) : Prop where
  library : part.plan.IsLibrary
  hosts : ∃ first, graph.Hosts id part.plan first
  feeders : (graph.node id).inputs.map graph.feeder? = part.feeders

/-- The nodes of a graph are the parts of a scheme, in order. -/
structure Embodies (graph : Graph) (scheme : List Part) : Prop where
  reachable : Reachable Blueprint.IsLibrary graph
  nodes_size : graph.nodes.size = scheme.length
  isPart : ∀ id part, scheme[id]? = some part → graph.IsPart id part

variable {graph : Graph} {scheme : List Part}

theorem embodies_empty : Graph.empty.Embodies [] where
  reachable := .empty
  nodes_size := rfl
  isPart _ _ none := by cases none

/-! ### New nodes -/

theorem Sound.feeder?_of_extends {admitted : Blueprint → Prop} {after : Graph}
    (sound : graph.Sound admitted) (grown : graph.Extends after) (input : PortId) :
    after.feeder? input = graph.feeder? input := by
  rw [feeder?, feeder?, grown.source]
  cases joined : (graph.port input).source with
  | none => rfl
  | some output =>
      have attached := (sound.coherent.joins input output joined).2.2.2
      rw [Option.map_some, Option.map_some, grown.port output (port_lt_of_attached attached)]

theorem feeders_add (plan : Blueprint) (label : String) :
    ((graph.add plan label).1.node graph.nodes.size).inputs.map (graph.add plan label).1.feeder? =
      (Part.loose plan).feeders := by
  have inputs : ((graph.add plan label).1.node graph.nodes.size).inputs =
      plan.numbersOf graph.ports.size .input := (madeFrom_add graph plan label).terminals .input
  have unlinked : ∀ entry ∈ plan.numbered graph.ports.size,
      (graph.add plan label).1.feeder? entry.2 = none := by
    intro entry member
    have new := (List.mem_zipIdx member).1
    rw [feeder?, ((extends_add graph plan label).newPort entry.2 new).1]
    rfl
  rw [inputs, Blueprint.numbersOf, List.map_map, Part.loose, ← List.zipIdx_map_fst graph.ports.size
    plan.ports, List.filter_map, List.map_map]
  apply List.map_congr_left
  intro entry member
  exact unlinked entry (List.mem_filter.mp member).1

/-- A new node is a new part, whose inputs are not linked. -/
theorem Embodies.add (embodies : graph.Embodies scheme) {plan : Blueprint}
    (library : plan.IsLibrary) (label : String) :
    (graph.add plan label).1.Embodies (scheme ++ [.loose plan]) where
  reachable := (Hosts.add embodies.reachable library label).reachable
  nodes_size := by
    rw [nodes_size_add, embodies.nodes_size, List.length_append, List.length_singleton]
  isPart id part found := by
    rcases Nat.lt_or_ge id scheme.length with old | new
    · rw [List.getElem?_append_left old] at found
      obtain ⟨known, ⟨first, hosts⟩, feeders⟩ := embodies.isPart id part found
      have grown := extends_add graph plan label
      refine ⟨known, ⟨first, hosts.kept_add library label⟩, ?_⟩
      rw [grown.node id (embodies.nodes_size ▸ old), ← feeders]
      apply List.map_congr_left
      intro input _
      exact embodies.reachable.sound.feeder?_of_extends grown input
    · rw [List.getElem?_append_right new] at found
      obtain ⟨last, isLast⟩ := List.getElem?_eq_some_iff.mp found
      have offset : id - scheme.length = 0 := Nat.lt_one_iff.mp last
      have same : id = graph.nodes.size := by
        rw [embodies.nodes_size]
        exact Nat.le_antisymm (Nat.sub_eq_zero_iff_le.mp offset) new
      rw [List.getElem_singleton] at isLast
      subst same isLast
      exact ⟨library, ⟨_, Hosts.add embodies.reachable library label⟩, feeders_add plan label⟩

/-! ### New links -/

theorem feeder?_setSource {input output : PortId} (inputMade : input < graph.ports.size)
    (outputMade : output < graph.ports.size) (other : PortId) :
    (graph.setSource input output).feeder? other =
      if other = input then some (graph.port output).owner else graph.feeder? other := by
  have shape := sameShape_setSource graph input output
  have owner : (fun id => ((graph.setSource input output).port id).owner) =
      fun id => (graph.port id).owner := by
    funext id
    exact (shape.port id).owner
  rw [feeder?, source_setSource inputMade outputMade, owner]
  split <;> rfl

/-- Changing what feeds one of some inputs changes one entry of what feeds them. -/
theorem map_feeder_eq_set {inputs : List PortId} (once : inputs.Nodup) {position : Nat}
    {input : PortId} (placed : inputs[position]? = some input) (feeder? : PortId → Option NodeId)
    (source : Option NodeId) :
    (inputs.map fun other => if other = input then source else feeder? other) =
      (inputs.map feeder?).set position source := by
  induction inputs generalizing position with
  | nil => rfl
  | cons first rest inductionHypothesis =>
      obtain ⟨new, others⟩ := List.nodup_cons.mp once
      cases position with
      | zero =>
          obtain rfl : first = input := by simpa using placed
          have unchanged : ∀ other ∈ rest,
              (if other = first then source else feeder? other) = feeder? other := by
            rintro other member
            refine if_neg ?_
            rintro rfl
            exact new member
          rw [List.map_cons, if_pos rfl, List.map_congr_left unchanged]
          rfl
      | succ position =>
          have later : rest[position]? = some input := by simpa using placed
          have differs : first ≠ input := fun same => new (same ▸ List.mem_of_getElem? later)
          rw [List.map_cons, if_neg differs, inductionHypothesis others later]
          rfl

/-- A link by name from an output to an input of the same kind changes what feeds that input. -/
theorem Embodies.connect (embodies : graph.Embodies scheme) {source target : NodeId}
    {origin part : Part} (isSource : scheme[source]? = some origin)
    (isTarget : scheme[target]? = some part) {output input : String} {kind : Kind}
    (gives : origin.plan.output? = some (output, kind)) {position : Nat}
    (takes : part.plan.input? position = some (input, kind)) :
    ∃ after, (Linking.connect source output target input).run graph = .ok () after ∧
      after.Embodies (scheme.modify target fun part => part.feed position source) := by
  obtain ⟨originLibrary, ⟨originFirst, originHosts⟩, -⟩ := embodies.isPart source origin isSource
  obtain ⟨library, ⟨first, hosts⟩, feeders⟩ := embodies.isPart target part isTarget
  obtain ⟨out, outId, outNumbered, outgoing, rfl, outKind⟩ :=
    originLibrary.exists_output gives originFirst
  obtain ⟨port, numbered, incoming, rfl, portKind, placed⟩ := library.exists_input takes first
  obtain ⟨granted, reachable⟩ := originHosts.connect hosts originLibrary library outNumbered
    outgoing numbered incoming (outKind.trans portKind.symm)
  have outMade := originHosts.made.port_lt outNumbered
  have inMade := hosts.made.port_lt numbered
  have owner := (originHosts.made.port out outId outNumbered).owner
  have shape := sameShape_setSource graph (first + position) outId
  refine ⟨_, granted, reachable, ?_, fun id other found => ?_⟩
  · rw [shape.nodes_size, embodies.nodes_size, List.length_modify]
  have feeder : (graph.setSource (first + position) outId).feeder? =
      fun input => if input = first + position then some source else graph.feeder? input := by
    funext input
    rw [feeder?_setSource inMade outMade, owner]
    rfl
  by_cases same : id = target
  · subst same
    rw [List.getElem?_modify_eq, isTarget] at found
    cases found
    have inputs : (graph.node id).inputs = part.plan.numbersOf first .input :=
      hosts.made.terminals .input
    refine ⟨library, ⟨first, hosts.kept_setSource reachable⟩, ?_⟩
    rw [(shape.node id).inputs, feeder, inputs,
      map_feeder_eq_set (part.plan.nodup_numbersOf first .input) placed, ← inputs, feeders]
    rfl
  · rw [List.getElem?_modify_ne _ _ (Ne.symm same)] at found
    obtain ⟨known, ⟨start, others⟩, unchanged⟩ := embodies.isPart id other found
    refine ⟨known, ⟨start, others.kept_setSource reachable⟩, ?_⟩
    rw [(shape.node id).inputs, feeder, ← unchanged]
    apply List.map_congr_left
    intro input isInput
    refine if_neg ?_
    rintro rfl
    have owned := (embodies.reachable.sound.shaped.input isInput).2.1
    exact same (owned.symm.trans (hosts.made.port port _ numbered).owner)

end Graph

/-! ### Finished schemes -/

/-- What feeds the inputs of each node, node by node. -/
abbrev Wiring := List (List (Option NodeId))

namespace Wiring

/-- The nodes that feed a node. -/
def feeders (wiring : Wiring) (id : NodeId) : List NodeId :=
  (wiring.getD id []).filterMap fun feeder => feeder

/-- Every input is fed by an older node. -/
def Closed (wiring : Wiring) : Prop :=
  ∀ id < wiring.length, ∀ feeder ∈ wiring.getD id [], ∃ older < id, feeder = some older

/-- Every node but the last feeds another. -/
def Used (wiring : Wiring) : Prop :=
  ∀ id < wiring.length - 1, ∃ reader < wiring.length, id ∈ wiring.feeders reader

/-- Weights of nodes add up along the links, with what each node adds by itself. -/
def Adds (wiring : Wiring) (base weight : NodeId → ℕ) : Prop :=
  ∀ id < wiring.length, weight id = base id + ((wiring.feeders id).map weight).sum

instance (wiring : Wiring) : Decidable wiring.Closed :=
  inferInstanceAs (Decidable (∀ id < wiring.length, _))

instance (wiring : Wiring) : Decidable wiring.Used :=
  inferInstanceAs (Decidable (∀ id < wiring.length - 1, _))

instance (wiring : Wiring) (base weight : NodeId → ℕ) : Decidable (wiring.Adds base weight) :=
  inferInstanceAs (Decidable (∀ id < wiring.length, _))

end Wiring

/-- The links of a scheme. -/
def wiringOf (scheme : List Part) : Wiring := scheme.map (·.feeders)

namespace Graph

variable {graph : Graph} {scheme : List Part}

namespace Embodies

/-! ### Values -/

theorem map_feeder? (embodies : graph.Embodies scheme) (id : NodeId) :
    (graph.node id).inputs.map graph.feeder? = (wiringOf scheme).getD id [] := by
  rw [wiringOf, List.getD_eq_getElem?_getD, List.getElem?_map]
  cases found : scheme[id]? with
  | some part => exact (embodies.isPart id part found).feeders
  | none =>
      have beyond : graph.nodes.size ≤ id := by
        rw [embodies.nodes_size]
        exact List.getElem?_eq_none_iff.mp found
      rw [node_of_size_le beyond]
      rfl

theorem feeders_eq (embodies : graph.Embodies scheme) (id : NodeId) :
    graph.feeders id = (wiringOf scheme).feeders id := by
  rw [Wiring.feeders, ← embodies.map_feeder? id, List.filterMap_map]
  rfl

theorem length_wiringOf (embodies : graph.Embodies scheme) :
    (wiringOf scheme).length = graph.nodes.size := by
  rw [embodies.nodes_size, wiringOf, List.length_map]

theorem wiringOf_feeders {id : NodeId} {part : Part} (isPart : scheme[id]? = some part) :
    (wiringOf scheme).feeders id = part.feeders.filterMap fun feeder => feeder := by
  rw [Wiring.feeders, wiringOf, List.getD_eq_getElem?_getD, List.getElem?_map, isPart]
  rfl

theorem exists_older (embodies : graph.Embodies scheme) (closed : (wiringOf scheme).Closed)
    {id : NodeId} {feeder : Option NodeId}
    (member : feeder ∈ (graph.node id).inputs.map graph.feeder?) :
    ∃ older < id, feeder = some older := by
  rw [embodies.map_feeder? id] at member
  refine closed id ?_ feeder member
  apply Nat.lt_of_not_le
  intro beyond
  rw [List.getD_eq_getElem?_getD, List.getElem?_eq_none beyond] at member
  cases member

theorem layered (embodies : graph.Embodies scheme) (closed : (wiringOf scheme).Closed) :
    graph.Layered := by
  constructor
  · intro id feeder needs
    obtain ⟨input, isInput, linked⟩ := List.mem_filterMap.mp needs
    obtain ⟨older, below, same⟩ := embodies.exists_older closed (List.mem_map_of_mem isInput)
    rw [linked] at same
    cases same
    exact below
  · intro id
    rw [unlinked?, List.find?_eq_none]
    intro input isInput
    obtain ⟨older, -, linked⟩ := embodies.exists_older closed (List.mem_map_of_mem isInput)
    obtain ⟨output, joined, -⟩ := Option.map_eq_some_iff.mp linked
    simp [joined]

/-- The value of a node is what its blueprint makes of the values of its feeders. -/
theorem reference_eq (embodies : graph.Embodies scheme) (closed : (wiringOf scheme).Closed)
    {id : NodeId} {part : Part} (isPart : scheme[id]? = some part) :
    graph.reference [] id =
      (allValues (((wiringOf scheme).feeders id).map (graph.reference []))).bind fun values =>
        (part.plan.behaviour.yield values).mapError (.failed id part.plan.kindName) := by
  obtain ⟨-, ⟨first, hosts⟩, -⟩ := embodies.isPart id part isPart
  rw [(embodies.layered closed).reference_eq, embodies.feeders_eq, hosts.behaviour,
    hosts.made.kindName]

section Operators

variable (embodies : graph.Embodies scheme) (closed : (wiringOf scheme).Closed) (id : NodeId)
  {kindName : String} {x y z result : Kind}

include embodies closed

theorem reference_constant {content : x.Carrier}
    (isPart : scheme[id]? = some ⟨.constant ⟨x, content⟩, []⟩) :
    graph.reference [] id = (Except.ok content).map (Value.mk x) := by
  rw [embodies.reference_eq closed isPart, wiringOf_feeders isPart]
  rfl

theorem reference_unary {function : x.Carrier → Except OperationError result.Carrier}
    {feeder : NodeId} {a : Except EvaluationError x.Carrier}
    (isPart : scheme[id]? = some ⟨.operator kindName (.unary x result function), [some feeder]⟩)
    (fed : graph.reference [] feeder = a.map (Value.mk x)) :
    graph.reference [] id =
      (a.bind fun a => (function a).mapError (.failed id kindName)).map (Value.mk result) := by
  rw [embodies.reference_eq closed isPart, wiringOf_feeders isPart]
  show (allValues [graph.reference [] feeder]).bind _ = _
  rw [fed]
  cases a with
  | error failure => rfl
  | ok a =>
      show ((Formula.unary x result function).run [⟨x, a⟩]).mapError _ = _
      rw [Formula.run_unary, mapError_map]
      rfl

/-- The first operand is computed before the second. -/
theorem reference_binary {function : x.Carrier → y.Carrier → Except OperationError result.Carrier}
    {left right : NodeId} {a : Except EvaluationError x.Carrier}
    {b : Except EvaluationError y.Carrier}
    (isPart : scheme[id]? =
      some ⟨.operator kindName (.binary x y result function), [some left, some right]⟩)
    (fedLeft : graph.reference [] left = a.map (Value.mk x))
    (fedRight : graph.reference [] right = b.map (Value.mk y)) :
    graph.reference [] id =
      (a.bind fun a => b.bind fun b =>
        (function a b).mapError (.failed id kindName)).map (Value.mk result) := by
  rw [embodies.reference_eq closed isPart, wiringOf_feeders isPart]
  show (allValues [graph.reference [] left, graph.reference [] right]).bind _ = _
  rw [fedLeft, fedRight]
  cases a with
  | error failure => rfl
  | ok a =>
      cases b with
      | error failure => rfl
      | ok b =>
          show ((Formula.binary x y result function).run [⟨x, a⟩, ⟨y, b⟩]).mapError _ = _
          rw [Formula.run_binary, mapError_map]
          rfl

theorem reference_selector {control left right : NodeId} {a : Bool} {b c : x.Carrier}
    (isPart : scheme[id]? = some ⟨.selector x, [some control, some left, some right]⟩)
    (fedControl : graph.reference [] control = (Except.ok a).map (Value.mk .bool))
    (fedLeft : graph.reference [] left = (Except.ok b).map (Value.mk x))
    (fedRight : graph.reference [] right = (Except.ok c).map (Value.mk x)) :
    graph.reference [] id = (Except.ok (bif a then b else c)).map (Value.mk x) := by
  rw [embodies.reference_eq closed isPart, wiringOf_feeders isPart]
  show (allValues [graph.reference [] control, graph.reference [] left,
    graph.reference [] right]).bind _ = _
  rw [fedControl, fedLeft, fedRight]
  have yields : (Formula.selection x).run [⟨.bool, a⟩, ⟨x, b⟩, ⟨x, c⟩] =
      .ok ⟨x, bif a then b else c⟩ :=
    Formula.run_trinary (x := .bool) _ a b c
  show ((Formula.selection x).run [⟨.bool, a⟩, ⟨x, b⟩, ⟨x, c⟩]).mapError
    (EvaluationError.failed id (Blueprint.selector x).kindName) = _
  rw [yields]
  rfl

end Operators

/-- A pass computes what the recursion does, and leaves the value in the output of the node. -/
theorem exists_output (embodies : graph.Embodies scheme) {id : NodeId} {part : Part}
    (isPart : scheme[id]? = some part) {output : String} {kind : Kind}
    (gives : part.plan.output? = some (output, kind)) (memoized : Bool) :
    ∃ after, Run.compute ⟨graph, .fresh memoized⟩ id =
        ((graph.reference [] id).map fun _ => (), after) ∧
      ∀ value, graph.reference [] id = .ok value →
        ∃ port, after.graph.findTyped? id output .output kind = some port ∧
          (after.graph.port port).value = value := by
  obtain ⟨library, ⟨first, hosts⟩, -⟩ := embodies.isPart id part isPart
  have sound := embodies.reachable.sound
  obtain ⟨after, result, advances⟩ := sound.compute_eq hosts.alive memoized
  refine ⟨after, result, fun value computed => ?_⟩
  obtain ⟨port, number, numbered, outgoing, rfl, rfl⟩ := library.exists_output gives first
  obtain ⟨_, _, regular⟩ := library.regular
  have tracks := advances.progress.tracks
  have made := hosts.made.of_kept (tracks.links.shape.node id) fun number _ =>
    tracks.links.shape.port number
  have isOutput : number ∈ (graph.node id).terminals .output := by
    rw [hosts.made.terminals .output]
    exact Blueprint.mem_numbersOf.mpr ⟨port, numbered, outgoing⟩
  have origin : graph.origin? number = some id :=
    sound.origin?_eq_some_iff.mpr ⟨number, isOutput, Or.inl rfl⟩
  have isDone : id ∈ after.pass.completed := advances.mem_completed_iff.mpr (.itself computed)
  refine ⟨number, ?_, ?_⟩
  · rw [← outgoing]
    exact made.findTyped?_eq regular.names numbered
  · rw [tracks.port]
    exact value_settled origin isDone computed

end Embodies

/-! ### Visits -/

/-- The scheme has a last node, whose computation needs all others. -/
structure Finished (scheme : List Part) (sink : NodeId) : Prop where
  closed : (wiringOf scheme).Closed
  used : (wiringOf scheme).Used
  last : scheme.length = sink + 1

namespace Embodies

variable {sink : NodeId} (embodies : graph.Embodies scheme) (finished : Finished scheme sink)

include embodies finished

theorem sink_made : sink < graph.nodes.size := by
  rw [embodies.nodes_size, finished.last]
  exact Nat.lt_succ_self sink

theorem alive : graph.nodeAlive sink = true := by
  have made := embodies.sink_made finished
  rw [embodies.nodes_size] at made
  obtain ⟨-, ⟨first, hosts⟩, -⟩ := embodies.isPart sink _ (List.getElem?_eq_getElem made)
  exact hosts.alive

theorem exists_reader : ∀ id < sink, ∃ reader, graph.Needs reader id := by
  intro id before
  have inside : id < (wiringOf scheme).length - 1 := by
    rw [embodies.length_wiringOf, embodies.nodes_size, finished.last]
    exact before
  obtain ⟨reader, -, reads⟩ := finished.used id inside
  exact ⟨reader, by rwa [Needs, embodies.feeders_eq]⟩

/-- Weights that add up along the links count what adds up along them. -/
theorem count_eq {count : NodeId → ℕ∞} {base weight : NodeId → ℕ}
    (adds : (wiringOf scheme).Adds base weight)
    (counts : ∀ id < graph.nodes.size, count id = base id + ((graph.feeders id).map count).sum) :
    count sink = weight sink := by
  refine (embodies.layered finished.closed).eq_weight counts (fun id made => ?_)
    (embodies.sink_made finished)
  rw [embodies.feeders_eq]
  exact adds id (made.trans_eq embodies.length_wiringOf.symm)

variable {memoized : Bool} (succeeds : (Run.compute ⟨graph, .fresh memoized⟩ sink).1 = .ok ())

include succeeds

/-- A memoizing pass visits every node, and a plain one as often as the routes from the last node
tell. -/
theorem visits_eq {weight : NodeId → ℕ} (adds : (wiringOf scheme).Adds (fun _ => 1) weight) :
    (Run.compute ⟨graph, .fresh memoized⟩ sink).2.pass.visits =
      if memoized then sink + 1 else weight sink := by
  have sound := embodies.reachable.sound
  have alive := embodies.alive finished
  have size : graph.nodes.size = sink + 1 := embodies.nodes_size.trans finished.last
  cases memoized with
  | true =>
      rw [if_pos rfl, sound.visits_memoizing alive succeeds,
        (embodies.layered finished.closed).ncard_upstream sound alive size
          (embodies.exists_reader finished), size]
  | false =>
      have routes := sound.visits_plain alive succeeds
      rw [embodies.count_eq finished adds fun id made => sound.routesFrom_eq made] at routes
      exact_mod_cast routes

theorem visitsOf_eq {target : NodeId} (older : target ≤ sink) {weight : NodeId → ℕ}
    (adds : (wiringOf scheme).Adds (fun id => if target = id then 1 else 0) weight) :
    (Run.compute ⟨graph, .fresh memoized⟩ sink).2.pass.visitsOf target =
      if memoized then 1 else weight sink := by
  have sound := embodies.reachable.sound
  have alive := embodies.alive finished
  have size : graph.nodes.size = sink + 1 := embodies.nodes_size.trans finished.last
  cases memoized with
  | true =>
      have member := (embodies.layered finished.closed).mem_upstream size
        (embodies.exists_reader finished) older
      exact sound.visitsOf_memoizing alive succeeds member
  | false =>
      have routes := sound.visitsOf_plain alive succeeds target
      have counts (id : NodeId) (made : id < graph.nodes.size) :
          (graph.routes id target).encard = ((if target = id then 1 else 0 : ℕ) : ℕ∞) +
            ((graph.feeders id).map fun feeder => (graph.routes feeder target).encard).sum := by
        rw [sound.encard_routes_eq made target]
        push_cast
        rfl
      rw [embodies.count_eq finished adds counts] at routes
      exact_mod_cast routes

end Embodies

end Graph

end DemandFlow
